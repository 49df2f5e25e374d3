import IpcSession.Client.Errors
import IpcSession.Server.Errors

namespace IpcSession

/-!
# The finisher on a dead channel

`Graceful_finisher` makes the destructor wait until the peer's destructor has started or the
channel is hosed.  The asynchronous on-error handler tells it so; where a call that the session
makes on the channel emits the error itself, nobody does.

* `Session.FinisherDone` — what the destructor needs: with the channel hosed and nothing left for
  thread W to do, the promise is fulfilled.
* `Client.ReachesServed`, `Server.ReachesServed` — the runs in which such a call, wherever it emits
  the error, finds the peer's `GracefulSessionEnd` there already, or no finisher waiting; and in
  which no finisher is engaged on a channel whose error nobody is going to report.
* `finisherDone_of_served` — **in those runs no destructor gets stuck on a dead channel.**
-/

/-- An engaged finisher on a hosed channel has its promise fulfilled once thread W has nothing left
    to do. -/
def Session.FinisherDone (s : Session) : Prop :=
  s.gracefulFinisher.isSome = true → s.channelHosed = true → s.queue = [] →
    s.gracefulFinisher = some true

/-- A promise that can be fulfilled, with nothing queued, has been. -/
theorem Session.Finishable.finisherDone {s : Session} (h : s.Finishable) : s.FinisherDone := by
  intro hf hh hq
  cases hg : s.gracefulFinisher with
  | none => rw [hg] at hf; cases hf
  | some satisfied =>
    cases satisfied with
    | true => rfl
    | false =>
      -- what would fulfil the promise is a queued task
      obtain ⟨chan, hc⟩ := errorState_of_channelHosed hh
      rcases h chan hc hg with ⟨e, he⟩ | ⟨c, hc⟩
      · rw [hq] at he; cases he
      · rw [hq] at hc; cases hc

/-- No call of the session's own emits the error of the channel while the finisher waits, and no
    sub-class completes a connect with success on a channel whose error nobody is to report. -/
def Client.servesFinisher (s : Client) (a : Client.Act) : Bool :=
  (!s.emitsFromCall a || s.finisherServed) && !s.completesStuck a

/-- The runs of a client in which the finisher always has somebody to hear from. -/
def Client.ReachesServed (cfg : Cfg) (passiveOpen : Bool) : Client → Prop :=
  Machine.Reaches (Client.step cfg) (fun s a => s.servesFinisher a) (Client.fresh passiveOpen)

/-- The runs of a server in which no call emits the error of the channel while its finisher
    waits. -/
def Server.ReachesServed (cfg : Cfg) (srvNamespace : SharedName) (out : OutArgs) :
    Server → Prop :=
  Machine.Reaches (Server.step cfg)
    (fun s a => !Server.emitsFromCall s a || s.finisherServed) (Server.fresh srvNamespace out)

/-- The client's books of its error, in those runs. -/
theorem Client.errInv_of_served {cfg : Cfg} {passiveOpen : Bool} {s : Client}
    (h : Client.ReachesServed cfg passiveOpen s) : Client.ErrInv cfg False True s := by
  refine Machine.Reaches.invariant h (Client.errInv_fresh passiveOpen) fun s a s' hinv hg hd => ?_
  simp only [Client.servesFinisher, Bool.and_eq_true, Bool.not_eq_true', Bool.or_eq_true] at hg
  refine Client.step_errInv hinv nofun (fun _ he => ?_) (fun _ => .inr hg.2) hd
  rcases hg.1 with hn | hs
  · rw [he] at hn; cases hn
  · exact hs

/-- The server's. -/
theorem Server.errInv_of_served {cfg : Cfg} {srvNamespace : SharedName} {out : OutArgs}
    {s : Server} (h : Server.ReachesServed cfg srvNamespace out s) : Server.ErrInv cfg True s := by
  refine Machine.Reaches.invariant h (Server.errInv_fresh srvNamespace out)
    fun s a s' hinv hg hd => ?_
  simp only [Bool.not_eq_true', Bool.or_eq_true] at hg
  refine hinv.step (fun _ he => ?_) hd
  rcases hg with hn | hs
  · rw [he] at hn; cases hn
  · exact hs

/-- **No destructor gets stuck on a dead channel**, on either side, in the runs in which whatever
    call emits the error finds the finisher served. -/
theorem finisherDone_of_served (cfg : Cfg) :
    (∀ passiveOpen s, Client.ReachesServed cfg passiveOpen s → s.FinisherDone) ∧
    (∀ srvNamespace out s, Server.ReachesServed cfg srvNamespace out s → s.FinisherDone) :=
  ⟨fun _ _ h => ((Client.errInv_of_served h).finishable trivial).finisherDone,
    fun _ _ _ h => ((Server.errInv_of_served h).finishable trivial).finisherDone⟩

/-- A configuration whose sessions have a finisher. -/
def Cfg.sampleGraceful : Cfg := { Cfg.sample with gracefulFinishRequired := true }

/-- A client whose sub-class takes the connect over and completes it. -/
def Client.gracefulConnect : List Client.Act :=
  [.mdtBuilder 0 [], .run {}, .connect 0 0 ⟨none, none, none⟩ true, .run { cns := ['7', '\n'] },
    .deliver ⟨0, some 0, none, .logInRsp ⟨1, 1, ['1'], [], 0⟩⟩, .run { hook := .toConnecting },
    .complete none .ok]

/-- A server that the sample client logs in to, in PEER state. -/
def Server.gracefulAccept : List Server.Act :=
  [.run { osProcCreds := ⟨5, 1, 1⟩, osProcInvokedAs := ['/', 'c'] },
    .deliver ⟨0, none, none, .logInReq ⟨1, 1, .none, true, some ⟨5, 1, 1⟩, ['c'], .none, [], 0⟩⟩,
    .run {}, .initHandlers true, .run {}]

/-- The channel finds an error on its own, and the client's finisher hears of it. -/
theorem finisherDone_of_served_asyncError :
    ∃ s : Client, s.gracefulFinisher.isSome = true ∧ s.channelHosed = true ∧ s.queue = [] ∧
      s.FinisherDone := by
  obtain ⟨s, hr, hs⟩ := Machine.Reaches.exists_of_run
    (Machine.guarded (fun s a => s.servesFinisher a) (Client.step .sampleGraceful))
    (Client.fresh true)
    (Client.gracefulConnect ++ [.channelError (.other 1), .run {}])
    (fun s => s.gracefulFinisher.isSome && s.channelHosed && decide (s.queue = [])) (by decide)
  simp only [Bool.and_eq_true, decide_eq_true_eq] at hs
  exact ⟨s, hs.1.1, hs.1.2, hs.2, (finisherDone_of_served _).1 true s hr.of_guarded⟩

/-- **A failing `sync_request()` in `open_channel()` leaves the destructor stuck**, on either side;
    and so does a finisher that is engaged after a call of a sub-class's own has emitted the
    error. -/
theorem not_finisherDone_of_openChannelFails :
    (¬ ∀ (cfg : Cfg) (passiveOpen : Bool) (s : Client), cfg.gracefulFinishRequired = true →
      Machine.Reaches (Client.step cfg) (fun _ a => !a.subClassFails) (Client.fresh passiveOpen) s →
        s.FinisherDone) ∧
    (¬ ∀ (cfg : Cfg) (srvNamespace : SharedName) (out : OutArgs) (s : Server),
      cfg.gracefulFinishRequired = true →
      Machine.Reaches (Server.step cfg) Machine.anyStep (Server.fresh srvNamespace out) s →
        s.FinisherDone) ∧
    (¬ ∀ (cfg : Cfg) (passiveOpen : Bool) (s : Client), cfg.gracefulFinishRequired = true →
      Machine.Reaches (Client.step cfg) (fun s a => !s.emitsFromCall a)
      (Client.fresh passiveOpen) s →
        s.FinisherDone) := by
  -- Three runs: open_channel()'s own request emits the error, on either side, and so does a
  -- sub-class's message right before it completes.
  refine ⟨fun hall => ?_, fun hall => ?_, fun hall => ?_⟩
  · obtain ⟨s, hr, hs⟩ := Machine.Reaches.exists_of_run
      (Machine.guarded (fun _ a => !a.subClassFails) (Client.step .sampleGraceful))
      (Client.fresh true)
      (Client.gracefulConnect ++ [.mdtBuilder 1 [], .run {}, .openChannel 1,
        .run { send := .failed (.other 1) }])
      (fun s => s.gracefulFinisher = some false && s.channelHosed && decide (s.queue = []))
      (by decide)
    simp only [Bool.and_eq_true, decide_eq_true_eq] at hs
    have hf := hall _ _ s rfl hr.of_guarded (by rw [hs.1.1]; rfl) hs.1.2 hs.2
    rw [hs.1.1] at hf
    cases hf
  · obtain ⟨s, hr, hs⟩ := Machine.Reaches.exists_of_run (Server.step .sampleGraceful)
      (Server.fresh ['7'] ⟨none, none, none⟩)
      (Server.gracefulAccept ++ [.mdtBuilder 1 [], .run {}, .openChannel 1,
        .run { send := .failed (.other 1) }])
      (fun s => s.gracefulFinisher = some false && s.channelHosed && decide (s.queue = []))
      (by decide)
    simp only [Bool.and_eq_true, decide_eq_true_eq] at hs
    have hf := hall _ _ _ s rfl hr (by rw [hs.1.1]; rfl) hs.1.2 hs.2
    rw [hs.1.1] at hf
    cases hf
  · obtain ⟨s, hr, hs⟩ := Machine.Reaches.exists_of_run
      (Machine.guarded (fun s a => !s.emitsFromCall a) (Client.step .sampleGraceful))
      (Client.fresh true)
      (Client.gracefulConnect.dropLast ++
        [.subClassSend (.failed (.other 1)), .complete none (.refused (.other 1))])
      (fun s => s.gracefulFinisher = some false && s.channelHosed && decide (s.queue = []))
      (by decide)
    simp only [Bool.and_eq_true, decide_eq_true_eq] at hs
    have hf := hall _ _ s rfl hr.of_guarded (by rw [hs.1.1]; rfl) hs.1.2 hs.2
    rw [hs.1.1] at hf
    cases hf

end IpcSession
