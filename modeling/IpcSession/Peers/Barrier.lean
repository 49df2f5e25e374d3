import IpcSession.Client.Barrier
import IpcSession.Client.Failures
import IpcSession.Peers.Finisher
import IpcSession.Peers.Pair
import IpcSession.Server.Barrier
import IpcSession.Server.Failures

namespace IpcSession

/-!
# The barrier of a graceful finish

With `S_GRACEFUL_FINISH_REQUIRED` either destructor waits for the other one to start, or for the
news that the channel is hosed.  An observer notes such news; beside it, in every state that a pair
reaches:

* `Session.FinishSafe` — what one side takes the other to have done, the other has done;
* `finishSafe_of_reaches` — **both sides are safe, and no promise is fulfilled twice.**
-/

/-- Does the user hear of `S_SESSION_FINISHED`? -/
def Event.isFinished : Event → Bool
  | onErr .sessionFinished _ => true
  | _ => false

/-- What side `a` takes from the graceful finish of its peer `b` is so; `received` are the messages
    that have come over to `a`, and `told` says that its finisher was told that the channel is
    hosed. -/
structure Session.FinishSafe (told : Bool) (a b : Session) (received : List Msg) : Prop where
  /-- `on_dtor_start()` returns only once the peer's destructor has started, or on the news. -/
  returns : ∀ a', a.dtor = .awaitingPeer → a.dtorStep = .done a' →
    (b.dtor ≠ .notStarted ∧ ∃ m ∈ received, m.isEnd = true) ∨ told = true
  once : a.log.countP Event.isFinished ≤ 1
  /-- No channel has an error of that code. -/
  finished : ∀ site, Event.onErr .sessionFinished site ∈ a.log → ¬ a.channelFinished →
    b.dtor ≠ .notStarted ∧ ∃ m ∈ received, m.isEnd = true

/-- The invariant of one side says all this, if what has come over comes from the peer's
    destructor. -/
theorem Session.EndBook.finishSafe {a b : Session} {received : List Msg} {told : Bool} {D : Prop}
    (h : a.EndBook (∃ m ∈ received, m.isEnd = true) D)
    (hs : a.gracefulFinisher = some true → (∃ m ∈ received, m.isEnd = true) ∨ told = true)
    (hb : (∃ m ∈ received, m.isEnd = true) → b.dtor ≠ .notStarted) :
    a.FinishSafe told b received where
  returns := fun a' hdt hd => by
    simp only [Session.dtorStep, hdt, Outcome.bind_eq_done, Outcome.require_eq_done,
      decide_eq_true_eq] at hd
    obtain ⟨-, hf, -⟩ := hd
    exact (hs hf).imp (fun hk => ⟨hb hk, hk⟩) id
  once := by
    have hle : a.log.countP Event.isFinished ≤ a.log.countP Event.isOnErr :=
      List.countP_mono_left fun e _ he => by cases e <;> first | rfl | cases he
    rw [h.once] at hle
    exact Nat.le_trans hle (Bool.toNat_le _)
  finished := fun site hm hn => by
    rcases h.onErr site hm with hk | hf
    · exact ⟨hb hk, hk⟩
    · exact absurd hf hn

/-- Which finisher was told that the channel is hosed. -/
structure Told where
  cli : Bool
  srv : Bool
  deriving DecidableEq, Repr

namespace Pair

variable {cc sc : Cfg} {p p' : Pair} {c : Client}

/-- The observer's note. -/
def note (cc sc : Cfg) (p : Pair) (a : Act) (n : Told) : Told :=
  match a with
  | .cli a => { n with cli := n.cli || Client.tellsFinisher cc p.cli a }
  | .srv a => { n with srv := n.srv || Server.tellsFinisher sc p.srv a }
  | _ => n

/-- The runs of a client and of the server session that its next channel leads to, with the
    observer's notes. -/
def ReachesNoted (cc sc : Cfg) (c : Client) (srvNamespace : SharedName) (out : OutArgs) :
    Pair × Told → Prop :=
  Machine.Reaches (Machine.observed (note cc sc) (step cc sc)) Machine.anyStep
    (start c srvNamespace out, ⟨false, false⟩)

/-- A client that has no channel, and is about to make one. -/
structure Ready (cc : Cfg) (passiveOpen : Bool) (c : Client) : Prop where
  reached : Machine.Reaches (Client.step cc) Machine.anyStep (Client.fresh passiveOpen) c
  noChannel : c.masterChannel = none
  null : c.state = .null

/-- Each side's own invariant, of what has come over to it; and what has come over was sent. -/
structure FinishInv (sc : Cfg) (p : Pair) (n : Told) : Prop where
  cli : p.cli.EndInv (∃ m ∈ p.atCli, m.isEnd = true) (n.cli = true)
  srv : p.srv.EndInv (∃ m ∈ p.atSrv, m.isEnd = true) (n.srv = true)
  logIn : p.srv.LogInInv sc
  named : p.srv.Named
  ofSrv : (∃ m ∈ p.atCli, m.isEnd = true) → p.srv.dtor ≠ .notStarted
  ofCli : (∃ m ∈ p.atSrv, m.isEnd = true) → p.cli.dtor ≠ .notStarted

/-- At the start neither side has said anything of an end. -/
theorem finishInv_start {passiveOpen : Bool} (hc : Ready cc passiveOpen c)
    (srvNamespace : SharedName) (out : OutArgs) (n : Told) :
    FinishInv sc (start c srvNamespace out) n where
  cli := by
    have h : c.EndInv True True := hc.reached.invariant (Client.endInv_fresh passiveOpen)
      fun _ _ _ h _ hd => h.step (fun _ _ _ => trivial) (fun _ => trivial) hd
    exact h.restart hc.noChannel (by rw [hc.null]; exact nofun)
  srv := Server.endInv_fresh srvNamespace out
  logIn := Server.logInInv_fresh srvNamespace out
  named := Server.named_fresh srvNamespace out
  ofSrv := fun ⟨_, hm, _⟩ => by cases hm
  ofCli := fun ⟨_, hm, _⟩ => by cases hm

/-- One more message has come over. -/
theorem end_append {received : List Msg} {m : Msg}
    (h : ∃ m' ∈ received ++ [m], m'.isEnd = true) :
    (∃ m' ∈ received, m'.isEnd = true) ∨ m.isEnd = true := by
  obtain ⟨m', hm, he⟩ := h
  rcases List.mem_append.mp hm with hm | hm
  · exact .inl ⟨m', hm, he⟩
  · rw [List.mem_singleton.mp hm] at he
    exact .inr he

/-- Every step of either side, or of a message between them, keeps the books of both. -/
theorem FinishInv.step {a : Act} {n : Told} (h : FinishInv sc p n)
    (hd : step cc sc p a = .done p') : FinishInv sc p' (note cc sc p a n) := by
  have hphases := h.logIn.err.phases
  cases step_done hd with
  -- A step of the client alone: what it knows of the server's end is what has arrived.
  | @cli a c hno hd' hn =>
    have hcli : c.EndInv (∃ m ∈ p.atCli, m.isEnd = true)
        ((n.cli || Client.tellsFinisher cc p.cli a) = true) := by
      have hmore := h.cli.mono (B := (n.cli || Client.tellsFinisher cc p.cli a) = true) id
        fun ht => by rw [ht]; rfl
      exact hmore.step (fun m he => absurd he (hno m)) (fun ht => by rw [ht, Bool.or_true]) hd'
    exact { h with cli := hcli, ofCli := fun hk => Client.step_started hd' (h.ofCli hk) }
  -- The same for the server.
  | @srv a s hno hd' =>
    have hsrv : s.EndInv (∃ m ∈ p.atSrv, m.isEnd = true)
        ((n.srv || Server.tellsFinisher sc p.srv a) = true) := by
      have hmore := h.srv.mono (B := (n.srv || Server.tellsFinisher sc p.srv a) = true) id
        fun ht => by rw [ht]; rfl
      exact hmore.step hphases h.named (fun m he => absurd he (hno m))
        (fun ht => by rw [ht, Bool.or_true]) hd'
    exact { h with
      srv := hsrv
      logIn := h.logIn.step hd'
      named := h.named.step hphases hd'
      ofSrv := fun hk => Server.step_started hphases h.named hd' (h.ofSrv hk) }
  -- A message of the server arrives; an end among them says that the server's destructor has
  -- started.
  | @toCli m c hm hd' =>
    have hcli : c.EndInv (∃ m' ∈ p.atCli ++ [m], m'.isEnd = true) (n.cli = true) := by
      have hmore := h.cli.mono (A := ∃ m' ∈ p.atCli ++ [m], m'.isEnd = true)
        (fun ⟨m', hm', he⟩ => ⟨m', List.mem_append_left _ hm', he⟩) id
      refine hmore.step (fun m' he' hend => ?_) (fun ht => by cases ht) hd'
      cases he'
      exact ⟨m, by simp, hend⟩
    refine { h with cli := hcli, ofSrv := fun hk => ?_, ofCli := fun hk =>
      Client.step_started hd' (h.ofCli hk) }
    rcases end_append hk with hk | hend
    · exact h.ofSrv hk
    · exact h.srv.book.sent m (List.mem_of_getElem? hm) hend
  -- And one of the client's.
  | @toSrv m s hm hd' =>
    have hsrv : s.EndInv (∃ m' ∈ p.atSrv ++ [m], m'.isEnd = true) (n.srv = true) := by
      have hmore := h.srv.mono (A := ∃ m' ∈ p.atSrv ++ [m], m'.isEnd = true)
        (fun ⟨m', hm', he⟩ => ⟨m', List.mem_append_left _ hm', he⟩) id
      refine hmore.step hphases h.named (fun m' he' hend => ?_) (fun ht => by cases ht) hd'
      cases he'
      exact ⟨m, by simp, hend⟩
    refine { h with
      srv := hsrv
      logIn := h.logIn.step hd'
      named := h.named.step hphases hd'
      ofSrv := fun hk => Server.step_started hphases h.named hd' (h.ofSrv hk)
      ofCli := fun hk => ?_ }
    rcases end_append hk with hk | hend
    · exact h.ofCli hk
    · exact h.cli.book.sent m (List.mem_of_getElem? hm) hend

/-- So the books are right in every state reached. -/
theorem FinishInv.of_reaches {passiveOpen : Bool} {srvNamespace : SharedName} {out : OutArgs}
    {pn : Pair × Told} (hc : Ready cc passiveOpen c)
    (h : ReachesNoted cc sc c srvNamespace out pn) : FinishInv sc pn.1 pn.2 := by
  refine Machine.Reaches.invariant (P := fun pn => FinishInv sc pn.1 pn.2) h
    (finishInv_start hc srvNamespace out _) fun pn a pn' hinv _ hd => ?_
  obtain ⟨hstep, hnote⟩ := Machine.observed_done hd
  rw [hnote]
  exact hinv.step hstep

end Pair

/-- **The barrier is safe**: what either side takes from the other's graceful finish is so, and the
    peer's `GracefulSessionEnd` always finds the promise unfulfilled. -/
theorem finishSafe_of_reaches {cc sc : Cfg} {passiveOpen : Bool} {c : Client}
    {srvNamespace : SharedName} {out : OutArgs} {p : Pair} {n : Told}
    (hc : Pair.Ready cc passiveOpen c)
    (h : Pair.ReachesNoted cc sc c srvNamespace out (p, n)) :
    Session.FinishSafe n.cli p.cli.toSession p.srv.toSession p.atCli ∧
      Session.FinishSafe n.srv p.srv.toSession p.cli.toSession p.atSrv ∧
      ∀ a, Pair.step cc sc p a ≠ .failed .promiseAlreadySatisfied := by
  have hinv := Pair.FinishInv.of_reaches hc h
  refine ⟨hinv.cli.book.finishSafe hinv.cli.satisfied hinv.ofSrv,
    hinv.srv.book.finishSafe hinv.srv.satisfied hinv.ofCli, fun a hf => ?_⟩
  have hfine : Fine false false true (Pair.step cc sc p a) := by
    refine Pair.step_failsOnly (fun b => Client.step_fine (fun o t b ha ht => ?_)
      (fun hf => by cases hf)) (fun b => Server.step_fine hinv.logIn.err.phases.notPeer
        (fun hf => by cases hf) fun _ c b ht hs => ?_) a
    · refine Client.runTask_fine (fun hn => by cases hn) (fun hn => by cases hn) fun _ c he hs => ?_
      rw [he] at ht
      have hwait := (hinv.cli.barrier.finisher_of_gracefulSessionEnd ht).1
      have hb := (Session.takeTask_done ht).2.2
      rw [Client.setSession_toSession, hb, hwait] at hs
      cases hs
    · rw [(hinv.srv.barrier.finisher_of_gracefulSessionEnd ht).1] at hs
      cases hs
  exact (hfine _ hf).2.2 rfl rfl

/-- The client connects, its sub-class completes the connect, and the server goes to PEER state. -/
def Pair.gracefulPair : List Pair.Act :=
  [.cli (.mdtBuilder 0 []), .cli (.run {}), .cli (.connect 0 0 ⟨none, none, none⟩ true),
    .cli (.run { cns := ['7', '\n'] }),
    .srv (.run { osProcCreds := ⟨5, 1, 1⟩, osProcInvokedAs := ['/', 'c'] }), .toSrv, .srv (.run {}),
    .toCli, .cli (.run { hook := .toConnecting }), .cli (.complete none .ok),
    .srv (.initHandlers true), .srv (.run {})]

/-- The server's destructor starts first; the client hears of it, and its own destructor need not
    wait. -/
theorem finishSafe_of_reaches_serverFirst :
    ∃ p : Pair, p.cli.dtor = .awaitingPeer ∧ p.cli.gracefulFinisher = some true ∧
      p.srv.dtor = .awaitingPeer ∧
      Session.FinishSafe false p.cli.toSession p.srv.toSession p.atCli := by
  obtain ⟨⟨p, n⟩, hr, hs⟩ := Machine.Reaches.exists_of_run
    (Machine.observed (Pair.note .sampleGraceful .sampleGraceful)
      (Pair.step .sampleGraceful .sampleGraceful))
    (Pair.start (Client.fresh true) ['7'] ⟨none, none, none⟩, ⟨false, false⟩)
    (Pair.gracefulPair ++
      [.srv .dtorStart, .srv (.run {}), .srv .dtorStep, .srv (.run {}), .toCli, .cli (.run {}),
        .cli .dtorStart, .cli (.run {}), .cli .dtorStep, .cli (.run {})])
    (fun pn => pn.1.cli.dtor = .awaitingPeer && pn.1.cli.gracefulFinisher = some true &&
      pn.1.srv.dtor = .awaitingPeer && !pn.2.cli) (by decide)
  simp only [Bool.and_eq_true, decide_eq_true_eq, Bool.not_eq_true'] at hs
  obtain ⟨⟨⟨hd, hf⟩, hsd⟩, ht⟩ := hs
  have hready : Pair.Ready .sampleGraceful true (Client.fresh true) := ⟨.refl, rfl, rfl⟩
  have hsafe := (finishSafe_of_reaches hready hr).1
  rw [ht] at hsafe
  exact ⟨p, hd, hf, hsd, hsafe⟩

end IpcSession
