import IpcSession.Server.Calls
import IpcSession.Server.Updates

namespace IpcSession

/-!
# No session without authentication

Whatever a connecting process puts on the master channel, the server answers it, and reports
success, only if a log-in request came in that passes all the checks.

* `Authenticated` — what a log-in request must say, given what the OS says of the process.
* `Session.logInReqs` — how many more log-in requests the server can come to handle; at most one.
* `Server.Untouched` — nothing has been done that takes a log-in request that passes.
* `Server.authSafe_of_reaches` — **no session without authentication**, in every run in which the
  client's messages are among `D`.
-/

/-- What a log-in request must say to be accepted from a process with these credentials, invoked
    under this name. -/
structure Authenticated (cfg : Cfg) (osProcCreds : ProcessCredentials)
    (osProcInvokedAs : List Char) (r : LogInReq) : Prop where
  protoVer : cfg.negotiate r.maxProtoVer = none
  protoVerAux : cfg.negotiateAux r.maxProtoVerAux = none
  shmType : r.shmTypeOrNone = cfg.shmType
  mqType : r.mqTypeOrNone = cfg.mqTypeOrNone
  nativeHandles : r.nativeHandleTransmissionEnabled = cfg.transmitNativeHandles
  allowed : r.ownApp ∈ cfg.srvApp.allowedClientApps
  claimed : r.claimedOwnProcessCredentials = some osProcCreds
  app : ∃ app, cfg.cliAppLookup r.ownApp = some app ∧ app.execPath = osProcInvokedAs ∧
    app.userId = osProcCreds.userId ∧ app.groupId = osProcCreds.groupId

/-- What the server does only for a log-in request that passes: send anything at all, report
    success, take a client namespace, run the set-up, make resources of channels. -/
def Event.needsLogIn : Event → Bool
  | sent _ => true
  | logInDone none _ _ => true
  | cliNamespaceTaken _ => true
  | preRspSetupRan => true
  | e => e.isResource

/-! ### How many log-in requests are to come -/

namespace Session

variable {s s' : Session} {D : Msg → Prop} {l : Option Mark} {L : Mark → Prop}

/-- The log-in requests that the session can still come to handle. -/
def logInReqs (s : Session) : Nat :=
  s.queue.countP Task.isAcceptLogIn + s.queue.countP Task.isLogInReq +
    (s.masterChannel.any (·.expectsLogInReq)).toNat

/-- What the user posts is not of the log-in. -/
theorem countP_logInTasks_of_fromUser {t : Task} (ht : t.isFromUser = true) :
    t.isAcceptLogIn = false ∧ t.isLogInReq = false := by
  cases t <;> first | exact ⟨rfl, rfl⟩ | cases ht

/-- Nor is a request of the peer's the start of one. -/
@[simp] theorem task_isAcceptLogIn (h : OpenReqHandler) (chan : Nat) (m : Msg) :
    (h.task chan m).isAcceptLogIn = false := by
  cases h <;> rfl

/-- Nor is it a log-in request. -/
@[simp] theorem task_isLogInReq (h : OpenReqHandler) (chan : Nat) (m : Msg) :
    (h.task chan m).isLogInReq = false := by
  cases h <;> rfl

/-- A task that is taken, and is of the log-in, is one less of them to come. -/
theorem logInReqs_takeTask {t : Task} (hd : s.takeTask = .done (t, s')) :
    s.logInReqs = s'.logInReqs + t.isAcceptLogIn.toNat + t.isLogInReq.toNat := by
  obtain ⟨-, hq, hs⟩ := takeTask_done hd
  have hm : s'.masterChannel = s.masterChannel := by rw [hs]
  simp only [logInReqs, hq, List.countP_cons, hm]
  cases t.isAcceptLogIn <;> cases t.isLogInReq <;> simp <;> omega

/-- No update makes them more. -/
theorem Update.logInReqs_le (h : Update s l s') : s'.logInReqs ≤ s.logInReqs := by
  -- What a new handler flushes are channel requests and never log-in requests.
  have flush : ∀ (h : OpenReqHandler) (chan : Nat) (l : List Msg),
      (l.map (h.task chan)).countP Task.isAcceptLogIn = 0 ∧
        (l.map (h.task chan)).countP Task.isLogInReq = 0 := by
    intro h chan l
    simp [List.countP_map, List.countP_eq_zero]
  cases h with
  | post ht =>
    obtain ⟨h₁, h₂⟩ := countP_logInTasks_of_fromUser ht
    simp [logInReqs, h₁, h₂]
  | nickname active => cases active <;> exact Nat.le_refl _
  | takeBuilder hd =>
    obtain ⟨-, rfl⟩ := takeBuilder_done hd
    exact Nat.le_refl _
  | useBuilder hd =>
    obtain ⟨-, rfl⟩ := takeBuilder_done hd
    simp [logInReqs, Task.isAcceptLogIn, Task.isLogInReq]
  | emitError hm hh e => simp [logInReqs, hm, Task.isAcceptLogIn, Task.isLogInReq]
  | failCall hm hh e => simp [logInReqs, hm]
  | transmit hm hh m => simp [logInReqs, hm]
  | flushTo hm hh =>
    simp only [logInReqs, flushTo_queue, flushTo_masterChannel, List.countP_append, hm]
    rw [(flush _ _ _).1, (flush _ _ _).2]
    exact Nat.le_refl _
  | undoExpect hm hh => simp [logInReqs, hm]
  | expectEnd hm hh => simp [logInReqs, hm]
  | takeEnd hm hh => simp [logInReqs, hm, Task.isAcceptLogIn, Task.isLogInReq]
  | cache hm hh hr => simp [logInReqs, hm]
  | gotOpenReq hm hh hr ho ha => simp [logInReqs]
  | gotLogInReq hm hh hr he hb =>
    -- A delivered request moves from the channel's expectation to the queue.
    simp [logInReqs, hm, he, List.countP_cons, Task.isAcceptLogIn, Task.isLogInReq]
    omega
  | gotLogInRsp hm hh hr he => simp [logInReqs, hm, Task.isAcceptLogIn, Task.isLogInReq]
  | gotEnd hm hh hr he => simp [logInReqs, hm, Task.isAcceptLogIn, Task.isLogInReq]
  | takeTask ht hd =>
    have h := logInReqs_takeTask hd
    omega
  | _ => exact Nat.le_refl _

/-- Nor does the destructor. -/
theorem DtorAct.logInReqs (h : DtorAct s s') : s'.logInReqs = s.logInReqs := by
  cases h <;> simp [Session.logInReqs, Task.isAcceptLogIn, Task.isLogInReq]

/-- No update of the session brings another log-in request. -/
theorem Updates.logInReqs_le (h : Updates L s s') : s'.logInReqs ≤ s.logInReqs :=
  h.keeps (P := fun b => b.logInReqs ≤ s.logInReqs) (Nat.le_refl _) fun _ _ _ hb _ hu =>
    Nat.le_trans hu.logInReqs_le hb

/-- Nor does a task of the destructor. -/
theorem DtorTask.logInReqs_le {t : Task} (h : DtorTask s t s') : s'.logInReqs ≤ s.logInReqs := by
  cases h with
  | sendEnd hf hu hw => exact hu.logInReqs_le
  | _ => exact Nat.le_refl _

/-! ### Before a log-in request has passed -/

/-- What holds of a session until a log-in request passes; those that come in are among `D`. -/
structure Early (D : Msg → Prop) (s : Session) : Prop where
  cliNamespace : s.cliNamespace = []
  worker : s.w.inInitChannels = false
  log : ∀ e ∈ s.log, e.needsLogIn = false
  reqs : s.logInReqs ≤ 1
  asked : ∀ chan m, Task.logInReq chan m ∈ s.queue → D m ∧ ∃ r, m.body = .logInReq r
  /-- No log-in request is queued behind a report of an error. -/
  order : s.queue.Pairwise (fun t t' => t.isMasterChannelError = true → t'.isLogInReq = false)
  errors : ∀ t ∈ s.queue, t.isMasterChannelError = true →
    s.queue.countP Task.isAcceptLogIn = 0 ∧ ∀ ch, s.masterChannel = some ch → ch.hosed = true
  channel : 0 < s.queue.countP Task.isLogInReq → s.masterChannel.isSome = true

namespace Early

/-- What of the channel matters for a log-in request. -/
def channelState (s : Session) : Option (Bool × Bool) :=
  s.masterChannel.map (fun ch => (ch.hosed, ch.expectsLogInReq))

/-- Code that has nothing to do with log-in requests. -/
theorem of_same (h : Early D s) {q : List Task} {l : List Event}
    (hn : s'.cliNamespace = s.cliNamespace) (hw : s'.w.inInitChannels = false)
    (hq : s'.queue = s.queue ++ q)
    (ht : ∀ t ∈ q, t.isAcceptLogIn = false ∧ t.isLogInReq = false ∧ t.isMasterChannelError = false)
    (hl : s'.log = s.log ++ l) (he : ∀ e ∈ l, e.needsLogIn = false)
    (hm : channelState s' = channelState s) : Early D s' := by
  -- What is posted is neither the acceptance nor a request.
  have hacc : q.countP Task.isAcceptLogIn = 0 :=
    List.countP_eq_zero.mpr fun t hmem => by simp [(ht t hmem).1]
  have hreq : q.countP Task.isLogInReq = 0 :=
    List.countP_eq_zero.mpr fun t hmem => by simp [(ht t hmem).2.1]
  have hsome : s'.masterChannel.isSome = s.masterChannel.isSome := by
    simpa [channelState] using congrArg Option.isSome hm
  -- Expecting the request is part of the channel's state that stays.
  have hany : s'.masterChannel.any (·.expectsLogInReq) = s.masterChannel.any
      (·.expectsLogInReq) := by
    cases h₁ : s.masterChannel <;> cases h₂ : s'.masterChannel <;>
      simp_all [channelState]
  refine ⟨hn.trans h.cliNamespace, hw, ?_, ?_, ?_, ?_, ?_, ?_⟩
  · rw [hl]
    exact fun e hmem => (List.mem_append.mp hmem).elim (h.log e) (he e)
  · have hr := h.reqs
    simp only [logInReqs, hq, List.countP_append, hacc, hreq, hany, Nat.add_zero] at hr ⊢
    exact hr
  · intro chan m hmem
    rw [hq] at hmem
    rcases List.mem_append.mp hmem with hmem | hmem
    · exact h.asked chan m hmem
    · have hc := (ht _ hmem).2.1
      cases hc
  · rw [hq]
    refine List.pairwise_append.mpr ⟨h.order, ?_, fun t _ t' ht' _ => (ht t' ht').2.1⟩
    exact List.pairwise_of_forall_mem_list fun t _ t' ht' _ => (ht t' ht').2.1
  · intro t hmem herr
    rw [hq] at hmem ⊢
    rcases List.mem_append.mp hmem with hmem | hmem
    · obtain ⟨hz, hh⟩ := h.errors t hmem herr
      refine ⟨by rw [List.countP_append, hz, hacc], fun ch hch => ?_⟩
      cases hs : s.masterChannel with
      | none => rw [hch, hs] at hsome; cases hsome
      | some ch' =>
        have he' := hm
        simp only [channelState, hch, hs, Option.map_some, Option.some.injEq, Prod.mk.injEq] at he'
        exact he'.1.trans (hh ch' hs)
    · rw [(ht t hmem).2.2] at herr
      cases herr
  · rw [hq, List.countP_append, hreq, Nat.add_zero, hsome]
    exact h.channel

/-- An event that takes no log-in. -/
theorem record (h : Early D s) {e : Event} (he : e.needsLogIn = false) : Early D (s.record e) :=
  h.of_same rfl h.worker (q := []) (by simp) (by simp) rfl (by simpa using he) rfl

/-- A task of the destructor. -/
theorem post (h : Early D s) {t : Task} (ht : t.isDtor = true) : Early D (s.post t) := by
  refine h.of_same rfl h.worker rfl (fun t' hmem => ?_) (l := []) (by simp) (by simp) rfl
  cases List.mem_singleton.mp hmem
  cases t <;> first | exact ⟨rfl, rfl, rfl⟩ | cases ht

/-- Thread W goes on, but not to wait for the last init-channel. -/
theorem setW (h : Early D s) {w : Worker} (hw : w.inInitChannels = false) : Early D (s.setW w) :=
  h.of_same rfl hw (q := []) (by simp) (by simp) (l := []) (by simp) (by simp) rfl

/-- The destructor comes to its next point. -/
theorem setDtor (h : Early D s) (d : Dtor) : Early D (s.setDtor d) :=
  h.of_same rfl h.worker (q := []) (by simp) (by simp) (l := []) (by simp) (by simp) rfl

/-- What the destructor does in thread U. -/
theorem dtorAct (h : Early D s) (hd : DtorAct s s') : Early D s' := by
  cases hd with
  | flushDone hw => exact (h.setW rfl).setDtor _
  | stop hd hw => exact (h.setW rfl).setDtor _
  | _ => exact (h.post rfl).setDtor _

/-- The user gets a builder, which takes no log-in to be null. -/
theorem giveBuilder (h : Early D s) (call : Nat) (b : Option Builder) :
    Early D (s.giveBuilder call b) :=
  h.of_same rfl h.worker (q := []) (by simp) (by simp) rfl
    (by simp [Event.needsLogIn, Event.isResource]) rfl

/-- The channel emits its error through its handler. -/
theorem emitError (h : Early D s) {ch : MasterChannel} (hm : s.masterChannel = some ch)
    (hacc : s.queue.countP Task.isAcceptLogIn = 0) (e : Err) : Early D (s.emitError ch e) where
  cliNamespace := h.cliNamespace
  worker := h.worker
  log := fun e' hmem => (List.mem_append.mp hmem).elim (h.log e') fun hmem => by
    cases List.mem_singleton.mp hmem
    rfl
  reqs := Nat.le_trans
    (by simp [logInReqs, hm, Task.isAcceptLogIn, Task.isLogInReq]) h.reqs
  asked := fun chan m hmem => (List.mem_append.mp hmem).elim (h.asked chan m) fun hmem => by
    cases List.mem_singleton.mp hmem
  order := List.pairwise_append.mpr ⟨h.order, List.pairwise_singleton _ _, fun t _ t' ht' _ => by
    cases List.mem_singleton.mp ht'
    rfl⟩
  errors := fun t _ _ => by
    refine ⟨?_, fun ch' hch' => ?_⟩
    · rw [emitError_queue, List.countP_append, hacc]
      rfl
    · cases hch'
      rfl
  channel := fun _ => rfl

/-- A task leaves the queue. -/
theorem takeTask {t : Task} (h : Early D s) (hd : s.takeTask = .done (t, s')) : Early D s' := by
  have hreqs := logInReqs_takeTask hd
  obtain ⟨-, hq, hs⟩ := takeTask_done hd
  have hmem : ∀ t', t' ∈ s'.queue → t' ∈ s.queue := fun t' ht => hq ▸ List.mem_cons_of_mem _ ht
  have horder := h.order
  rw [hq] at horder
  have hacc : s'.queue.countP Task.isAcceptLogIn ≤ s.queue.countP Task.isAcceptLogIn := by
    rw [hq, List.countP_cons]
    omega
  have hreq : s'.queue.countP Task.isLogInReq ≤ s.queue.countP Task.isLogInReq := by
    rw [hq, List.countP_cons]
    omega
  have hle := h.reqs
  have hm : s'.masterChannel = s.masterChannel := by rw [hs]
  refine ⟨?_, ?_, ?_, by omega, fun chan m hc => h.asked chan m (hmem _ hc), ?_, ?_, ?_⟩
  · rw [hs]; exact h.cliNamespace
  · rw [hs]; exact h.worker
  · rw [hs]; exact h.log
  · exact (List.pairwise_cons.mp horder).2
  · intro t' ht' herr
    obtain ⟨hz, hh⟩ := h.errors t' (hmem _ ht') herr
    exact ⟨by omega, hm ▸ hh⟩
  · rw [hm]
    exact fun hpos => h.channel (by omega)

/-- The channel goes, and no log-in request is left. -/
theorem dropChannel (h : Early D s) (hz : s.queue.countP Task.isLogInReq = 0) :
    Early D s.dropChannel where
  cliNamespace := h.cliNamespace
  worker := h.worker
  log := h.log
  reqs := by
    have hr := h.reqs
    simp only [logInReqs, dropChannel_queue, dropChannel_masterChannel, Option.any_none] at hr ⊢
    simp only [Bool.toNat_false]
    omega
  asked := h.asked
  order := h.order
  errors := fun t ht herr => ⟨(h.errors t ht herr).1, nofun⟩
  channel := fun hpos => by
    have hpos : 0 < s.queue.countP Task.isLogInReq := hpos
    omega

/-- An in-message comes in. -/
theorem deliver {m : Msg} (h : Early D s) (hD : D m) (hd : s.deliver m = .done s') :
    Early D s' := by
  have quiet : ∀ {ch ch' : MasterChannel}, s.masterChannel = some ch → ch'.hosed = ch.hosed →
      ch'.expectsLogInReq = ch.expectsLogInReq → Early D (s.setChannel ch') := by
    intro ch ch' hm hh he
    exact h.of_same rfl h.worker (q := []) (by simp) (by simp) (l := []) (by simp) (by simp)
      (by simp [channelState, hm, hh, he])
  have posted : ∀ {b : Session} {t : Task}, Early D b → t.isAcceptLogIn = false →
      t.isLogInReq = false → t.isMasterChannelError = false → Early D (b.post t) := by
    intro b t hb h₁ h₂ h₃
    refine hb.of_same rfl hb.worker rfl (fun t' ht' => ?_) (l := []) (by simp) (by simp) rfl
    cases List.mem_singleton.mp ht'
    exact ⟨h₁, h₂, h₃⟩
  obtain ⟨ch, hm, hh, ⟨req, -, rfl⟩ | ⟨-, rfl⟩⟩ := deliver_done hd
  · unfold deliverRsp
    split
    · split
      · exact posted (quiet hm rfl rfl) rfl rfl rfl
      · exact h
    · split
      · rename_i k id hw
        split
        · refine h.setW ?_
          have hk := h.worker
          rw [hw] at hk
          cases k <;> exact hk
        · exact h
      · exact h
  · unfold deliverUnsolicited
    split
    · rename_i r hb
      split
      · rename_i he
        -- the one request that is expected; no error has been emitted before it
        have hr := h.reqs
        have hone : s.queue.countP Task.isAcceptLogIn = 0 ∧
            s.queue.countP Task.isLogInReq = 0 := by
          simp only [logInReqs, hm, Option.any_some, he, Bool.toNat_true] at hr
          omega
        have hnoerr : ∀ t ∈ s.queue, t.isMasterChannelError = false := by
          intro t ht
          cases herr : t.isMasterChannelError with
          | false => rfl
          | true =>
            have hhosed := (h.errors t ht herr).2 ch hm
            rw [hh] at hhosed
            cases hhosed
        refine ⟨h.cliNamespace, h.worker, h.log, ?_, ?_, ?_, ?_, fun _ => rfl⟩
        · simp only [logInReqs, post_queue, setChannel_queue, List.countP_append, hone.1, hone.2,
            post_masterChannel, setChannel_masterChannel, Option.any_some]
          exact Nat.le_refl _
        · intro chan m' hmem
          rcases List.mem_append.mp hmem with hmem | hmem
          · exact h.asked chan m' hmem
          · cases List.mem_singleton.mp hmem
            exact ⟨hD, r, hb⟩
        · refine List.pairwise_append.mpr ⟨h.order, List.pairwise_singleton _ _, ?_⟩
          intro t ht t' _ herr
          rw [hnoerr t ht] at herr
          cases herr
        · intro t hmem herr
          rcases List.mem_append.mp hmem with hmem | hmem
          · rw [hnoerr t hmem] at herr
            cases herr
          · cases List.mem_singleton.mp hmem
            cases herr
      · exact quiet hm rfl rfl
    · split
      · exact posted (quiet hm rfl rfl) rfl rfl rfl
      · exact quiet hm rfl rfl
    · split
      · exact posted h (by simp) (by simp) (Task.isMasterChannelError_of_calm (by simp))
      · exact quiet hm rfl rfl

end Early

end Session

/-- The in-message that a step hands over, if any. -/
def Server.Act.delivers : Server.Act → Option Msg
  | deliver m => some m
  | _ => none

namespace Server

variable {cfg : Cfg} {D : Msg → Prop} {out : OutArgs} {s s' : Server} {o : ServerOracle}
  {l : Option Mark} {L : Mark → Prop}

/-- The log-in requests to come, and what the OS says of the client. -/
theorem Update.access (h : Update cfg s l s') : s'.logInReqs ≤ s.logInReqs ∧
    s'.osProcCreds = s.osProcCreds ∧ s'.osProcInvokedAs = s.osProcInvokedAs := by
  cases h with
  | session hu => exact ⟨hu.logInReqs_le, rfl, rfl⟩
  | mqs hn r =>
    obtain ⟨es, made, -, hs⟩ := makeChannelMqs_tried cfg r s
    rw [hs]
    exact ⟨Nat.le_refl _, rfl, rfl⟩
  | @post t ht ha =>
    refine ⟨?_, rfl, rfl⟩
    have h₁ : t.isAcceptLogIn = false ∧ t.isLogInReq = false := by
      cases t <;> first | exact ⟨rfl, rfl⟩ | cases ht
    simp [Session.logInReqs, Server.post, h₁.1, h₁.2]
  | dropChannel => exact ⟨by simp [Session.logInReqs, resetChannel], rfl, rfl⟩
  | logInDone hn hd =>
    obtain ⟨-, rfl⟩ := logInDone_done hd
    exact ⟨Nat.le_refl _, rfl, rfl⟩
  | _ => exact ⟨Nat.le_refl _, rfl, rfl⟩

/-- Updates bring no other log-in request, and do not change what the system says of the client. -/
theorem Updates.access (h : Updates cfg L s s') : s'.logInReqs ≤ s.logInReqs ∧
    s'.osProcCreds = s.osProcCreds ∧ s'.osProcInvokedAs = s.osProcInvokedAs := by
  refine h.keeps (P := fun t => t.logInReqs ≤ s.logInReqs ∧ t.osProcCreds = s.osProcCreds ∧
    t.osProcInvokedAs = s.osProcInvokedAs) ⟨Nat.le_refl _, rfl, rfl⟩ fun _ _ _ ih _ hu => ?_
  obtain ⟨hl, hc, hi⟩ := hu.access
  exact ⟨Nat.le_trans hl ih.1, hc.trans ih.2.1, hi.trans ih.2.2⟩

/-! ### The check -/

/-- The way a log-in fails while its handler is pending. -/
theorem logInFailed_eq {e : Err} {site : LogInSite} (hset : s.logInOnDoneFuncSet = true) :
    s.logInFailed e site = .done { s with
      toSession := s.dropChannel.record (.logInDone (some e) site s.out)
      logInOnDoneFuncSet := false
      accepted := false } := by
  simp only [logInFailed, logInDone, resetChannel, setSession_logInOnDoneFuncSet, hset,
    Outcome.check_true, Outcome.done_bind]
  rfl

/-- A request that does not pass is rejected before anything is done for it; one without
    credentials, if it gets that far, fails an assertion. -/
theorem checkLogInReq_refused {r : LogInReq} (hv : s.protocolNegotiator = none)
    (hv' : s.protocolNegotiatorAux = none) (ha : s.cliAppPtr = none)
    (hr : ¬ Authenticated cfg s.osProcCreds s.osProcInvokedAs r) :
    (∃ e s₁, s.checkLogInReq cfg r o = .done (some e, s₁) ∧ s₁.toSession = s.toSession ∧
        SameLogIn s s₁) ∨
      (r.claimedOwnProcessCredentials = none ∧
        s.checkLogInReq cfg r o = .failed .noClaimedCreds) := by
  simp only [checkLogInReq, computeNegotiatedProtoVer, hv, hv']
  split
  · exact .inl ⟨_, _, rfl, rfl, rfl, rfl, rfl, rfl⟩
  · rename_i h₁
    split
    · exact .inl ⟨_, _, rfl, rfl, rfl, rfl, rfl, rfl⟩
    · rename_i h₂
      split
      · exact .inl ⟨_, _, rfl, rfl, rfl, rfl, rfl, rfl⟩
      · rename_i h₃
        split
        · exact .inl ⟨_, _, rfl, rfl, rfl, rfl, rfl, rfl⟩
        · split
          · rename_i h₄
            exact .inr ⟨h₄, rfl⟩
          · exact .inl ⟨_, _, rfl, rfl, rfl, rfl, rfl, rfl⟩
          · rename_i claimed app hclaimed happ
            split
            · exact .inl ⟨_, _, rfl, rfl, rfl, rfl, rfl, rfl⟩
            · rename_i hallowed
              simp only [ha, Option.isNone_none, Outcome.check_true, Outcome.done_bind]
              split
              · exact .inl ⟨_, _, rfl, rfl, rfl, rfl, rfl, rfl⟩
              · rename_i hcreds
                -- nothing is left to reject it for
                simp only [ne_eq, not_or, not_not] at h₃ hallowed hcreds
                obtain ⟨h₃, h₄, h₅⟩ := h₃
                obtain ⟨rfl, hp, hu, hg⟩ := hcreds
                exact absurd ⟨h₁, h₂, h₃, h₄, h₅, hallowed, hclaimed, app, happ, hp, hu, hg⟩ hr

/-- The check leaves alone what the OS says of the client. -/
theorem checkLogInReq_creds {r : LogInReq} {e : ErrorCode}
    (hd : s.checkLogInReq cfg r o = .done (e, s')) :
    s'.osProcCreds = s.osProcCreds ∧ s'.osProcInvokedAs = s.osProcInvokedAs := by
  simp only [checkLogInReq] at hd
  split at hd
  · cases hd; exact ⟨rfl, rfl⟩
  · split at hd
    · cases hd; exact ⟨rfl, rfl⟩
    · split at hd
      · cases hd; exact ⟨rfl, rfl⟩
      · split at hd
        · cases hd; exact ⟨rfl, rfl⟩
        · split at hd
          · cases hd
          · cases hd; exact ⟨rfl, rfl⟩
          · split at hd
            · cases hd; exact ⟨rfl, rfl⟩
            · simp only [Outcome.bind_eq_done] at hd
              obtain ⟨-, -, hd⟩ := hd
              split at hd
              · cases hd; exact ⟨rfl, rfl⟩
              · simp only [Outcome.bind_eq_done] at hd
                obtain ⟨s₁, h₁, hd⟩ := hd
                obtain ⟨b, -, rfl⟩ := liftUnit_done h₁
                cases hd
                exact ⟨rfl, rfl⟩

/-! ### A step -/

/-- Nothing has been done that takes a log-in request that passes. -/
structure Untouched (D : Msg → Prop) (out : OutArgs) (s : Server) : Prop where
  early : s.toSession.Early D
  out : s.out = out
  accepted : s.accepted = false
  /-- The negotiators and the client application are not set before the request is handled. -/
  unset : 0 < s.logInReqs →
    s.protocolNegotiator = none ∧ s.protocolNegotiatorAux = none ∧ s.cliAppPtr = none

/-- A log-in request has passed; there is no other. -/
structure LoggedIn (cfg : Cfg) (D : Msg → Prop) (s : Server) : Prop where
  reqs : s.logInReqs = 0
  req : ∃ m r, D m ∧ m.body = .logInReq r ∧
    Authenticated cfg s.osProcCreds s.osProcInvokedAs r

/-- Before any message nothing has been done for anybody. -/
theorem untouched_fresh (srvNamespace : SharedName) (out : OutArgs) :
    Untouched D out (fresh srvNamespace out) where
  early := {
    cliNamespace := rfl
    worker := rfl
    log := fun e h => by cases h
    reqs := Nat.le_refl 1
    asked := fun chan m h => by cases List.mem_singleton.mp h
    order := List.pairwise_singleton _ _
    errors := fun t ht herr => by
      cases List.mem_singleton.mp ht
      cases herr
    channel := nofun }
  out := rfl
  accepted := rfl
  unset := fun _ => ⟨rfl, rfl, rfl⟩

/-- A log-in that has passed its checks has passed them, whatever comes later. -/
theorem LoggedIn.updates (h : LoggedIn cfg D s) (hu : Updates cfg L s s') : LoggedIn cfg D s' := by
  obtain ⟨hle, hc, hi⟩ := hu.access
  have hz := h.reqs
  exact ⟨by omega, by rw [hc, hi]; exact h.req⟩

/-- So it is after every step. -/
theorem LoggedIn.step {a : Act} (h : LoggedIn cfg D s) (hp : Phases cfg s) (hn : Named s)
    (hd : step cfg s a = .done s') : LoggedIn cfg D s' := by
  have hz := h.reqs
  cases step_updates hp hn hd with
  | common hu => exact h.updates hu
  | dtorAct hact => exact ⟨hact.logInReqs.trans hz, h.req⟩
  | @dtorTask o t b b' ht htask =>
    have hr := Session.logInReqs_takeTask ht
    have hle := htask.logInReqs_le
    exact ⟨by show b'.logInReqs = 0; omega, h.req⟩
  | returned hd hs' => rcases hs' with rfl | rfl <;> exact ⟨hz, h.req⟩
  | acceptLogIn ht hd =>
    have hr := Session.logInReqs_takeTask ht
    simp only [Task.isAcceptLogIn, Bool.toNat_true] at hr
    omega
  | logInReq ht hd =>
    have hr := Session.logInReqs_takeTask ht
    simp only [Task.isLogInReq, Bool.toNat_true] at hr
    omega

namespace Untouched

/-- The handlers are not set before the log-in. -/
theorem onErrFuncSet (h : Untouched D out s) (hp : Phases cfg s) : s.onErrFuncSet = false := by
  cases ho : s.onErrFuncSet with
  | false => rfl
  | true =>
    have ha := hp.peer ho
    rw [h.accepted] at ha
    cases ha

/-- Session code that brings no log-in request. -/
theorem setSession (h : Untouched D out s) {b : Session} (he : b.Early D)
    (hle : b.logInReqs ≤ s.logInReqs) : Untouched D out (s.setSession b) :=
  ⟨he, h.out, h.accepted, fun hpos => h.unset (Nat.lt_of_lt_of_le hpos hle)⟩

/-- The log-in fails. -/
theorem logInFailed {e : Err} {site : LogInSite} (h : Untouched D out s)
    (hz : s.queue.countP Task.isLogInReq = 0)
    (hd : s.logInFailed e site = .done s') : Untouched D out s' := by
  obtain ⟨-, rfl⟩ := logInDone_done hd
  have he : (s.dropChannel.record (.logInDone (some e) site s.out)).Early D :=
    (h.early.dropChannel hz).record rfl
  refine ⟨he, h.out, rfl, fun hpos => h.unset (Nat.lt_of_lt_of_le hpos ?_)⟩
  show s.dropChannel.logInReqs ≤ s.logInReqs
  simp [Session.logInReqs]

/-- The first task of the log-in is taken: nothing else of the log-in is queued. -/
theorem acceptLogIn {b : Session} (h : Untouched D out s)
    (ht : s.takeTask = .done (.acceptLogIn, b)) (hm : s.masterChannel = none)
    (hd : (s.setSession b).acceptLogIn o = .done s') : Untouched D out s' := by
  have he := h.early.takeTask ht
  have hreqs := Session.logInReqs_takeTask ht
  have hle := h.early.reqs
  obtain ⟨-, hq, hb⟩ := Session.takeTask_done ht
  have hmb : b.masterChannel = none := by rw [hb]; exact hm
  simp only [Task.isAcceptLogIn, Task.isLogInReq, Bool.toNat_true, Bool.toNat_false] at hreqs
  have hun : s.protocolNegotiator = none ∧ s.protocolNegotiatorAux = none ∧ s.cliAppPtr = none :=
    h.unset (by omega)
  -- There is one acceptance, and it is being run; no request is queued or expected yet.
  have hcount : b.queue.countP Task.isAcceptLogIn = 0 ∧ b.queue.countP Task.isLogInReq = 0 := by
    have hz : b.logInReqs = 0 := by omega
    simp only [Session.logInReqs] at hz
    omega
  -- No error either: there was no channel to emit one.
  have hnoerr : ∀ t ∈ b.queue, t.isMasterChannelError = false := by
    intro t hmem
    cases herr : t.isMasterChannelError with
    | false => rfl
    | true =>
      have hz := (h.early.errors t (hq ▸ List.mem_cons_of_mem _ hmem) herr).1
      rw [hq, List.countP_cons] at hz
      simp [Task.isAcceptLogIn] at hz
  -- What the session is once the channel is there and the request expected.
  have started : ∀ ch : MasterChannel, (b.setChannel ch).Early D := by
    intro ch
    refine ⟨he.cliNamespace, he.worker, he.log, ?_, he.asked, he.order, ?_, fun _ => rfl⟩
    · simp only [Session.logInReqs, Session.setChannel_queue, hcount.1, hcount.2,
        Session.setChannel_masterChannel, Option.any_some]
      cases ch.expectsLogInReq <;> simp
    · intro t hmem herr
      rw [hnoerr t hmem] at herr
      cases herr
  simp only [Server.acceptLogIn] at hd
  -- The credentials query fails, the process's name does, or the session goes on to expect the
  -- request.
  split at hd
  · obtain ⟨-, rfl⟩ := logInDone_done hd
    exact ⟨he.record rfl, h.out, rfl, fun _ => hun⟩
  · obtain ⟨-, rfl⟩ := logInDone_done hd
    exact ⟨he.record rfl, h.out, rfl, fun _ => hun⟩
  · simp only [Outcome.bind_eq_done, Prod.exists] at hd
    obtain ⟨-, -, ok, s₂, h₂, hd⟩ := hd
    obtain ⟨b₂, hb₂, rfl⟩ := lift_done h₂
    obtain ⟨ch, hch, hr⟩ := Session.callNoError_done hb₂
    cases hch
    cases hr with
    | ok hh =>
      cases hd
      exact ⟨started _, h.out, h.accepted, fun _ => hun⟩
    | refusedOld hh => cases hh
    | refusedNew hh e =>
      cases hd
      exact ⟨(started _).emitError rfl hcount.1 e, h.out, h.accepted, fun _ => hun⟩

/-- A log-in request that does not pass: the log-in fails, or an assertion does. -/
theorem refused {b : Session} {chan : Nat} {m : Msg} {r : LogInReq} (h : Untouched D out s)
    (hp : Phases cfg s) (ht : s.takeTask = .done (.logInReq chan m, b)) (hm : m.body = .logInReq r)
    (hr : ¬ Authenticated cfg s.osProcCreds s.osProcInvokedAs r) :
    (∃ e s₁, s₁.toSession = b ∧ SameLogIn s s₁ ∧ s₁.logInOnDoneFuncSet = true ∧
        (s.setSession b).onLogInReq cfg m o = s₁.logInFailed e .request) ∨
      (r.claimedOwnProcessCredentials = none ∧
        (s.setSession b).onLogInReq cfg m o = .failed .noClaimedCreds) := by
  obtain ⟨-, hq, hb⟩ := Session.takeTask_done ht
  have hchan : s.masterChannel.isSome = true := by
    refine h.early.channel ?_
    rw [hq, List.countP_cons]
    simp [Task.isLogInReq]
  have hset : s.logInOnDoneFuncSet = true := by
    cases hs : s.logInOnDoneFuncSet with
    | true => rfl
    | false =>
      rw [hp.failed hs h.accepted] at hchan
      cases hchan
  have hreqs := Session.logInReqs_takeTask ht
  simp only [Task.isLogInReq, Bool.toNat_true] at hreqs
  obtain ⟨hv, hv', ha⟩ := h.unset (by omega)
  have hmb : b.masterChannel.isSome = true := by rw [hb]; exact hchan
  simp only [onLogInReq, setSession_toSession, hmb, Outcome.check_true, Outcome.done_bind, hm]
  rcases checkLogInReq_refused (s := s.setSession b) (o := o) hv hv' ha hr with
    ⟨e, s₁, hc, hs₁, hl⟩ | ⟨hn, hc⟩
  · rw [hc]
    have hset₁ : s₁.logInOnDoneFuncSet = true := hl.logInOnDoneFuncSet.trans hset
    have hl : SameLogIn s s₁ := ⟨hl.1, hl.2, hl.3, hl.4⟩
    exact .inl ⟨e, s₁, hs₁, hl, hset₁, rfl⟩
  · rw [hc]
    exact .inr ⟨hn, rfl⟩

/-- The log-in request is handled: it has passed, or nothing is done for it. -/
theorem logInReq {b : Session} {chan : Nat} {m : Msg} (h : Untouched D out s) (hp : Phases cfg s)
    (ht : s.takeTask = .done (.logInReq chan m, b))
    (hd : (s.setSession b).onLogInReq cfg m o = .done s') :
    Untouched D out s' ∨ LoggedIn cfg D s' := by
  have hq := (Session.takeTask_done ht).2.1
  obtain ⟨hDm, r, hm⟩ := h.early.asked chan m (by rw [hq]; exact List.mem_cons_self)
  have hreqs := Session.logInReqs_takeTask ht
  have hle := h.early.reqs
  simp only [Task.isLogInReq, Bool.toNat_true] at hreqs
  -- The session expects one request at most, and this is it.
  have hz : b.logInReqs = 0 := by omega
  by_cases hauth : Authenticated cfg s.osProcCreds s.osProcInvokedAs r
  · have hw : b.w = .idle := by
      obtain ⟨hw, -, hb⟩ := Session.takeTask_done ht
      rw [hb]
      exact hw
    obtain ⟨r', e, s₁, -, hck, hu, -⟩ := onLogInReq_updates (by exact hw ▸ rfl) hd
    have hz₁ : s₁.logInReqs = 0 := by
      cases checkLogInReq_done hck with
      | rejected e hb₁ hl => rw [hb₁]; exact hz
      | passed hn hname hb₁ hl => rw [hb₁]; exact hz
    obtain ⟨hcr, hin⟩ := checkLogInReq_creds hck
    -- An authentic request is what `LoggedIn` asks for, and later updates keep it.
    have hlog : LoggedIn cfg D s₁ := ⟨hz₁, m, r, hDm, hm, by rw [hcr, hin]; exact hauth⟩
    exact .inr (hlog.updates hu)
  · rcases h.refused (o := o) hp ht hm hauth with ⟨e, s₁, hs₁, hl, -, heq⟩ | ⟨-, heq⟩
    · rw [heq] at hd
      have h₁ : Untouched D out s₁ := by
        refine ⟨hs₁ ▸ h.early.takeTask ht, hl.out.trans h.out, hl.accepted.trans h.accepted,
          fun hpos => ?_⟩
        rw [hs₁] at hpos
        omega
      refine .inl (h₁.logInFailed ?_ hd)
      simp only [Session.logInReqs] at hz
      rw [hs₁]
      omega
    · rw [heq] at hd
      cases hd

/-- The tasks that thread W can take before a log-in request has passed. -/
theorem runTask {t : Task} {b : Session} (h : Untouched D out s) (hp : Phases cfg s)
    (ht : s.takeTask = .done (t, b)) (hacc : t.isAcceptLogIn = false)
    (hreq : t.isLogInReq = false) (hd : (s.setSession b).runTask cfg o t = .done s') :
    Untouched D out s' := by
  have hreqs := Session.logInReqs_takeTask ht
  rw [hacc, hreq, Bool.toNat_false] at hreqs
  have h₁ : Untouched D out (s.setSession b) := h.setSession (h.early.takeTask ht) (by omega)
  have hp₁ := hp.takeTask ht hacc
  obtain ⟨hw, hq, hb⟩ := Session.takeTask_done ht
  have ho : b.onErrFuncSet = false := h₁.onErrFuncSet hp₁
  -- what takes PEER state has not come
  have noPeer : b.onErrFuncSet ≠ true := by rw [ho]; exact Bool.false_ne_true
  cases t with
  | masterChannelError chan e =>
    have hz : b.queue.countP Task.isLogInReq = 0 := by
      have horder := h.early.order
      rw [hq] at horder
      refine List.countP_eq_zero.mpr fun t' ht' => ?_
      rw [(List.pairwise_cons.mp horder).1 t' ht' rfl]
      exact Bool.false_ne_true
    simp only [Server.runTask, onMasterChannelError] at hd
    split at hd
    · cases hd; exact h₁
    · split at hd
      · exact h₁.logInFailed hz hd
      · split at hd
        · simp only [Outcome.bind_eq_done] at hd
          obtain ⟨-, -, hd⟩ := hd
          cases hd
          exact ⟨h₁.early, h₁.out, h₁.accepted, h₁.unset⟩
        · rename_i hset
          exact absurd (show b.onErrFuncSet = true by simpa using hset) noPeer
  | openChannelReq chan m =>
    simp only [Server.runTask, onMasterChannelOpenChannelReq, Outcome.bind_eq_done] at hd
    obtain ⟨_, hh, -⟩ := hd
    exact absurd (Session.hosed_done hh).1 noPeer
  | gracefulSessionEnd chan =>
    obtain ⟨b', hb', -⟩ := liftUnit_done hd
    exact absurd (Session.onGracefulSessionEnd_done hb').2.1 noPeer
  | logInReq chan m => cases hreq
  | acceptLogIn => cases hacc
  | initHandlers passiveOpen =>
    have ha := hp.accepted_of_initHandlers ht
    rw [h.accepted] at ha
    cases ha
  | preInitError =>
    simp only [Server.runTask, preInitError] at hd
    split at hd
    · obtain ⟨b', hb', -⟩ := liftUnit_done hd
      exact absurd (Session.hoseIfNot_done hb').1 noPeer
    · cases hd
  | mdtBuilder call mdt =>
    have ho : (s.setSession b).onErrFuncSet = false := ho
    simp only [Server.runTask, mdtBuilder, ho, Bool.not_false, if_true] at hd
    cases hd
    exact h₁.setSession (h₁.early.giveBuilder call none) (Nat.le_refl _)
  | openChannel call bl =>
    obtain ⟨b', hb', -⟩ := liftUnit_done hd
    exact absurd (Session.openChannelBody_done hb').1 noPeer
  | sessionToken =>
    obtain ⟨b', hb', -⟩ := liftUnit_done hd
    simp only [Session.sessionToken, Outcome.bind_eq_done] at hb'
    obtain ⟨_, hh, -⟩ := hb'
    exact absurd (Session.hosed_done hh).1 noPeer
  | dtorFinisherQuery =>
    cases hd
    exact h₁.setSession (h₁.early.setDtor _) (Nat.le_refl _)
  | dtorSendEnd =>
    obtain ⟨b', hb', -⟩ := liftUnit_done hd
    obtain ⟨-, -, -, -, hf, -⟩ := Session.dtorSendEnd_done hb'
    have hf : (s.setSession b).gracefulFinisher.isSome = true := hf
    rw [hp₁.no_finisher ho] at hf
    cases hf
  | dtorFlush =>
    cases hd
    simp only [Session.dtorFlush]
    split
    · exact h₁.setSession (h₁.early.setDtor _) (Nat.le_refl _)
    · exact h₁.setSession (h₁.early.setW rfl) (Nat.le_refl _)
  | logInRsp => cases hd
  | initOpenChannel => cases hd
  | asyncConnect => cases hd

/-- **A step leaves everything untouched, or a log-in request has passed.** -/
theorem step {a : Act} (h : Untouched D out s) (hp : Phases cfg s) (hc : s.ApiCalls)
    (hD : ∀ m, a = .deliver m → D m) (hd : step cfg s a = .done s') :
    Untouched D out s' ∨ LoggedIn cfg D s' := by
  have ho := h.onErrFuncSet hp
  cases a with
  -- Not accepted yet: the user has no session object to call.
  | initHandlers passiveOpen => simp [Server.step, h.accepted] at hd
  | mdtBuilder call mdt => simp [Server.step, h.accepted] at hd
  | openChannel call => simp [Server.step, h.accepted] at hd
  | sessionToken => simp [Server.step, h.accepted] at hd
  -- Only the log-in request can log the peer in; accepting the stream and the others cannot.
  | run o =>
    simp only [Server.step, Outcome.bind_eq_done, Prod.exists] at hd
    obtain ⟨t, s₁, h₁, hd⟩ := hd
    obtain ⟨b, hb, rfl⟩ := lift_done h₁
    cases hacc : t.isAcceptLogIn with
    | true =>
      cases t with
      | acceptLogIn => exact .inl (h.acceptLogIn hb (hp.atAccept hb).2.2.1 hd)
      | _ => cases hacc
    | false =>
      cases hreq : t.isLogInReq with
      | false => exact .inl (h.runTask hp hb hacc hreq hd)
      | true =>
        cases t with
        | logInReq chan m => exact h.logInReq hp hb hd
        | _ => cases hreq
  -- Thread W waits for no response before the log-in.
  | syncReturn r =>
    simp only [Server.step] at hd
    split at hd
    · rename_i call opened req rsp hw
      have hs := (hc.sync _ _ _ _ hw).1
      rw [ho] at hs
      cases hs
    · rename_i hw
      have hi := h.early.worker
      rw [hw] at hi
      cases hi
    · cases hd
  -- What arrives is one of the messages `D` admits.
  | deliver m =>
    obtain ⟨b, hb, rfl⟩ := liftUnit_done hd
    refine .inl (h.setSession (h.early.deliver (hD m rfl) hb) ?_)
    have hu : Updates cfg Mark.any s (s.setSession b) :=
      .session (Session.deliver_updates trivial hb)
    exact hu.access.1
  | channelError e =>
    obtain ⟨b, hb, rfl⟩ := liftUnit_done hd
    obtain ⟨ch, hm, -, rfl⟩ := Session.channelError_done hb
    refine .inl (h.setSession (h.early.emitError hm (hp.accept_eq_zero (by rw [hm]; rfl)) e) ?_)
    simp [Session.logInReqs, hm, Task.isAcceptLogIn, Task.isLogInReq]
  | dtorStart =>
    obtain ⟨b, hb, rfl⟩ := liftUnit_done hd
    have hact := Session.dtorStart_act hb
    exact .inl (h.setSession (h.early.dtorAct hact) (Nat.le_of_eq hact.logInReqs))
  | dtorStep =>
    obtain ⟨b, hb, rfl⟩ := liftUnit_done hd
    have hact := Session.dtorStep_act hb
    exact .inl (h.setSession (h.early.dtorAct hact) (Nat.le_of_eq hact.logInReqs))
  | flushDone =>
    obtain ⟨b, hb, rfl⟩ := liftUnit_done hd
    have hact := Session.dtorFlushDone_act hb
    exact .inl (h.setSession (h.early.dtorAct hact) (Nat.le_of_eq hact.logInReqs))
  | dtorFinish =>
    simp only [Server.step, dtorFinish, Outcome.bind_eq_done] at hd
    obtain ⟨-, -, hd⟩ := hd
    have h₁ : Untouched D out (s.setSession (s.setDtor .returned)) :=
      h.setSession (h.early.setDtor _) (Nat.le_refl _)
    split at hd
    · cases hd; exact .inl (h₁.setSession (h₁.early.record rfl) (Nat.le_refl _))
    · cases hd; exact .inl h₁

end Untouched

/-! ### Every run -/

/-- No session without authentication; the client's messages are among `D`. -/
structure AuthSafe (cfg : Cfg) (D : Msg → Prop) (out : OutArgs) (s : Server) : Prop where
  /-- A log-in request has come in that passes; or the server has sent nothing, has not reported
      success, has taken no client namespace, has run no set-up, has made no resources, and has
      written to no out-argument. -/
  only : (∃ m r, D m ∧ m.body = .logInReq r ∧
      Authenticated cfg s.osProcCreds s.osProcInvokedAs r) ∨
    ((∀ e ∈ s.log, e.needsLogIn = false) ∧ s.cliNamespace = [] ∧ s.accepted = false ∧ s.out = out)
  /-- A log-in request that does not pass closes the channel and is reported; but one without
      credentials can fail an assertion. -/
  refused : ∀ chan m ts r o, s.w = .idle → s.queue = .logInReq chan m :: ts →
    m.body = .logInReq r → ¬ Authenticated cfg s.osProcCreds s.osProcInvokedAs r →
      (∃ e s', step cfg s (.run o) = .done s' ∧ s'.masterChannel = none ∧
          s'.log = s.log ++ [.logInDone (some e) .request out] ∧ s'.cliNamespace = [] ∧
          s'.out = out) ∨
        (r.claimedOwnProcessCredentials = none ∧ step cfg s (.run o) = .failed .noClaimedCreds)

/-- What is known of a server between two steps. -/
structure AccessInv (cfg : Cfg) (D : Msg → Prop) (out : OutArgs) (s : Server) : Prop where
  logIn : LogInInv cfg s
  calls : s.ApiCalls
  named : Named s
  access : Untouched D out s ∨ LoggedIn cfg D s

/-- **Only a log-in that passes its checks gets anything**, after any step. -/
theorem AccessInv.step {a : Act} (h : AccessInv cfg D out s) (hD : ∀ m, a = .deliver m → D m)
    (hd : step cfg s a = .done s') : AccessInv cfg D out s' := by
  refine ⟨h.logIn.step hd, step_apiCalls h.calls hd, h.named.step h.logIn.err.phases hd, ?_⟩
  rcases h.access with ha | ha
  · exact ha.step h.logIn.err.phases h.calls hD hd
  · exact .inr (ha.step h.logIn.err.phases h.named hd)

/-- The invariant says all that is claimed of a log-in. -/
theorem AccessInv.safe (h : AccessInv cfg D out s) : AuthSafe cfg D out s where
  only := by
    rcases h.access with ha | ha
    · exact .inr ⟨ha.early.log, ha.early.cliNamespace, ha.accepted, ha.out⟩
    · exact .inl ha.req
  refused := fun chan m ts r o hw hq hm hauth => by
    have ht : s.takeTask = .done (.logInReq chan m, { s.toSession with queue := ts }) := by
      simp [Session.takeTask, hw, hq, Outcome.require_true]
    have hrun : Server.step cfg s (.run o) =
        (s.setSession { s.toSession with queue := ts }).onLogInReq cfg m o := by
      simp [Server.step, lift, ht, Server.runTask]
    rw [hrun]
    rcases h.access with ha | ha
    · rcases ha.refused h.logIn.err.phases ht hm hauth with ⟨e, s₁, hs₁, hl, hset, heq⟩ | hfail
      · left
        rw [heq, logInFailed_eq hset]
        refine ⟨e, _, rfl, rfl, ?_, ?_, hl.out.trans ha.out⟩
        · show s₁.log ++ [Event.logInDone (some e) .request s₁.out] = _
          rw [hs₁, hl.out, ha.out]
        · show s₁.cliNamespace = []
          rw [hs₁]
          exact ha.early.cliNamespace
      · exact .inr hfail
    · have hr := Session.logInReqs_takeTask ht
      have hz := ha.reqs
      simp only [Task.isLogInReq, Bool.toNat_true] at hr
      omega

/-- The runs in which what the client puts on the channel is among `D`. -/
def ReachesDelivering (cfg : Cfg) (D : Msg → Prop) (srvNamespace : SharedName) (out : OutArgs) :
    Server → Prop :=
  Machine.Reaches (step cfg) (fun _ a => ∀ m, a = .deliver m → D m) (fresh srvNamespace out)

/-- **No session without authentication**, whatever the client puts on the channel. -/
theorem authSafe_of_reaches (cfg : Cfg) (D : Msg → Prop) (srvNamespace : SharedName)
    (out : OutArgs) (s : Server) (h : ReachesDelivering cfg D srvNamespace out s) :
    AuthSafe cfg D out s := by
  have hi : AccessInv cfg D out s := Machine.Reaches.invariant h
    ⟨logInInv_fresh srvNamespace out, apiCalls_fresh srvNamespace out,
      named_fresh srvNamespace out, .inl (untouched_fresh srvNamespace out)⟩
    fun _ _ _ hinv hD hd => hinv.step hD hd
  exact hi.safe

/-- A log-in request for the client application `c`. -/
def sampleLogInReq (ownApp : SharedName) (creds : Option ProcessCredentials) : Msg :=
  ⟨0, none, none, .logInReq ⟨1, 1, .none, true, creds, ownApp, .none, [], 0⟩⟩

/-- An application that the server does not know is turned away. -/
theorem authSafe_of_reaches_unknownApp :
    ∃ s : Server, Event.logInDone
        (some .serverMasterLogInRequestClientAppDisallowedOrUnknown) .request ⟨none, none, none⟩
          ∈ s.log ∧
      AuthSafe .sample (fun m => m = sampleLogInReq ['x'] (some ⟨5, 1, 1⟩))
        ⟨none, none, none⟩ s := by
  obtain ⟨s, hr, hs⟩ := Machine.Reaches.exists_of_run
    (Machine.guarded (fun _ a => a.delivers.all (· = sampleLogInReq ['x'] (some ⟨5, 1, 1⟩)))
      (step .sample)) (fresh ['7'] ⟨none, none, none⟩)
    [.run { osProcCreds := ⟨5, 1, 1⟩, osProcInvokedAs := ['/', 'c'] },
      .deliver (sampleLogInReq ['x'] (some ⟨5, 1, 1⟩)), .run {}]
    (fun s => s.log.any (· = .logInDone
      (some .serverMasterLogInRequestClientAppDisallowedOrUnknown) .request ⟨none, none, none⟩))
    (by decide)
  simp only [List.any_eq_true, decide_eq_true_eq] at hs
  obtain ⟨ev, hev, rfl⟩ := hs
  have hr' : ReachesDelivering .sample (fun m => m = sampleLogInReq ['x'] (some ⟨5, 1, 1⟩)) ['7']
      ⟨none, none, none⟩ s := by
    refine hr.of_guarded.mono fun s a hg m ha => ?_
    subst ha
    simpa [Act.delivers] using hg
  exact ⟨s, hev, authSafe_of_reaches .sample _ _ _ s hr'⟩

/-- **A log-in request without credentials is not answered by an error**: an assertion fails. -/
theorem not_authSafe_literally :
    ¬ ∀ (cfg : Cfg) (srvNamespace : SharedName) (out : OutArgs) (s : Server),
      Machine.Reaches (step cfg) Machine.anyStep (fresh srvNamespace out) s →
        ∀ chan m ts r o, s.w = .idle → s.queue = .logInReq chan m :: ts → m.body = .logInReq r →
          ¬ Authenticated cfg s.osProcCreds s.osProcInvokedAs r →
            ∃ s', step cfg s (.run o) = .done s' ∧ s'.masterChannel = none := by
  intro hall
  obtain ⟨s, hr, hs⟩ := Machine.Reaches.exists_of_run (step .sample)
    (fresh ['7'] ⟨none, none, none⟩)
    [.run { osProcCreds := ⟨5, 1, 1⟩, osProcInvokedAs := ['/', 'c'] },
      .deliver (sampleLogInReq ['c'] none)]
    (fun s => decide (s.w = .idle) && decide
      (s.queue = [.logInReq 0 (sampleLogInReq ['c'] none)]) &&
      decide (step .sample s (.run {}) = .failed .noClaimedCreds)) (by decide)
  simp only [Bool.and_eq_true, decide_eq_true_eq] at hs
  obtain ⟨⟨hw, hq⟩, hf⟩ := hs
  obtain ⟨s', hd, -⟩ := hall _ _ _ s hr 0 _ [] _ {} hw hq rfl
    (fun hauth => by cases hauth.claimed)
  rw [hf] at hd
  cases hd

end Server

end IpcSession
