import IpcSession.Base.Hosing
import IpcSession.Server.Spec

namespace IpcSession

/-!
# Errors of the server's master channel

* `Server.StepResult` — what a step can do: the one inversion lemma from which all invariants of
  the server follow.
* `Server.Phases` — log-in outstanding, log-in failed, almost-PEER, PEER: which handlers are set
  in each, and what else goes with it.
* `Server.ErrInv` — an error of the channel is on its way to where it belongs.
-/

/-- The tasks in which the server does nothing about log-in or errors. -/
def Task.plain : Task → Bool
  | masterChannelError .. => false
  | gracefulSessionEnd _ => false
  | logInReq .. => false
  | acceptLogIn => false
  | initHandlers _ => false
  | preInitError => false
  | _ => true

/-- The first task of a log-in. -/
def Task.isAcceptLogIn : Task → Bool
  | acceptLogIn => true
  | _ => false

/-- The user's way to PEER state. -/
def Task.isInitHandlers : Task → Bool
  | initHandlers _ => true
  | _ => false

namespace Server

variable {F G : Prop} {cfg : Cfg} {s s' : Server} {o : ServerOracle}

/-! ### PEER state -/

/-- An answer of the client to `open_channel()` makes nothing of an error. -/
theorem openChannelRsp_quiet {b b' : Session} {call req : Nat} {opened : Option ChannelObj}
    {m : Msg} (hp : b.peerStateErrCodeOrOk = none)
    (hd : openChannelRsp call req opened m b = .done b') : b.Quiet b' := by
  simp only [openChannelRsp] at hd
  split at hd
  · simp only [Outcome.bind_eq_done] at hd
    obtain ⟨-, -, hd⟩ := hd
    cases hd
    exact .returned hp
  · cases hd; exact .returned hp
  · cases hd
  · cases hd
  · cases hd

/-- `open_channel()` hoses the session only if its `sync_request()` emitted the error. -/
theorem openChannelSyncReturn_did {b b' : Session} {call req : Nat} {opened : Option ChannelObj}
    {rsp : Option Msg} {r : Session.SyncRes} (hp : b.peerStateErrCodeOrOk = none)
    (hw : b.w ≠ .stopped)
    (hd : b.openChannelSyncReturn (openChannelRsp call req opened) call req rsp r = .done b') :
    b.Did (∃ e, r = .failed e) b' := by
  rcases Session.openChannelSyncReturn_done hd with ⟨m, -, -, hr⟩ | ⟨-, hr⟩
  · have hidle : b.Quiet (b.setW .idle) := .setIdle hw
    exact .quiet (hidle.trans (openChannelRsp_quiet hp hr))
  · exact hr.did hp hw

/-- Its part in thread U makes nothing of an error. -/
theorem openChannel_quiet {b b' : Session} {call : Nat} (hd : openChannel call b = .done b') :
    b.Quiet b' := by
  simp only [openChannel, Outcome.bind_eq_done, Prod.exists] at hd
  obtain ⟨bl, b₁, h₁, hd⟩ := hd
  have hq := Session.Quiet.takeBuilder h₁
  cases bl with
  | none => cases hd; exact hq.trans .returnedNothing
  | some bl =>
    simp only at hd
    split at hd
    · cases hd; exact hq.trans .returnedBlank
    · cases hd; exact hq.trans (.post rfl)

/-- Nor does `mdt_builder()`, which leaves the log-in alone as well. -/
theorem mdtBuilder_quiet {call : Nat} {mdt : Mdt} {r : ResourceOracle}
    (hd : s.mdtBuilder cfg call mdt r = .done s') :
    s.toSession.Quiet s'.toSession ∧ SameLogIn s s' := by
  simp only [mdtBuilder] at hd
  split at hd
  · cases hd; exact ⟨.giveBuilder _ _, .setSession _⟩
  · simp only [Outcome.bind_eq_done] at hd
    obtain ⟨h, -, -, -, hd⟩ := hd
    split at hd
    · cases hd; exact ⟨.giveBuilder _ _, .setSession _⟩
    · simp only [Outcome.bind_eq_done, Prod.exists] at hd
      obtain ⟨made, s₁, h₁, -, -, hd⟩ := hd
      cases hd
      have hmade := createChannelAndResources_made h₁
      obtain ⟨es, hadds, hes, -⟩ := hmade.session
      exact ⟨(hadds.quiet hes).trans (.giveBuilder _ _), hmade.same.trans (.setSession _)⟩

/-- Nor does making what the client asks for. -/
theorem prepare_done {m : Msg} {r : ResourceOracle} {p : Session.Prepared}
    (hd : s.prepare cfg m r = .done (p, s')) :
    s.toSession.Quiet s'.toSession ∧ SameLogIn s s' ∧ s'.w = s.w := by
  simp only [prepare] at hd
  split at hd
  · simp only [Outcome.bind_eq_done, Prod.exists] at hd
    obtain ⟨made, s₁, h₁, hd⟩ := hd
    have hmade := createChannelAndResources_made h₁
    obtain ⟨es, hadds, hes, -⟩ := hmade.session
    have hq := hadds.quiet hes
    have hw : s₁.w = s.w := by
      obtain ⟨n, m, hs⟩ := hadds
      rw [hs]
    split at hd
    · cases hd
      exact ⟨hq, hmade.same, hw⟩
    · simp only [Outcome.bind_eq_done] at hd
      obtain ⟨-, -, hd⟩ := hd
      split at hd
      · cases hd; exact ⟨hq, hmade.same, hw⟩
      · cases hd
  · cases hd; exact ⟨.refl _, .refl s, rfl⟩

/-- The client's request hoses the session only if the answer's `send()` emits the error. -/
theorem onMasterChannelOpenChannelReq_did {m : Msg} (hw : s.w = .idle)
    (hd : s.onMasterChannelOpenChannelReq cfg m o = .done s') :
    s.toSession.Did ((∃ e, o.send = .failed e) ∧ s.peerStateErrCodeOrOk = none) s'.toSession ∧
      SameLogIn s s' := by
  simp only [onMasterChannelOpenChannelReq, Outcome.bind_eq_done] at hd
  obtain ⟨h, hh, hd⟩ := hd
  obtain ⟨-, rfl⟩ := Session.hosed_done hh
  have hrec : s.toSession.Quiet (s.record (.openChannelReqRan m.id)).toSession := .record rfl
  cases hp : s.peerStateErrCodeOrOk with
  | some e => simp [record, hp] at hd; subst hd; exact ⟨.quiet hrec, .setSession _⟩
  | none =>
    simp only [record, setSession_toSession, Session.record_peerStateErrCodeOrOk, hp,
      Option.isSome_none, Bool.false_eq_true, if_false, Outcome.bind_eq_done, Prod.exists] at hd
    obtain ⟨-, -, p, s₁, hprep, hd⟩ := hd
    obtain ⟨hq, hl, hw₁⟩ := prepare_done hprep
    obtain ⟨b, hb, rfl⟩ := liftUnit_done hd
    obtain ⟨ch, hm, hr⟩ := Session.openChannelReqRespond_done hb
    have hp₁ : s₁.peerStateErrCodeOrOk = none := hq.peerStateErrCodeOrOk.trans hp
    have hw₁ : s₁.w.inOpenChannel = false := by
      rw [hw₁]
      have hw : (s.setSession (s.toSession.record (.openChannelReqRan m.id))).w = .idle := hw
      rw [hw]
      rfl
    refine ⟨((hr.did hm hp₁ hw₁).mono fun he => ⟨he, rfl⟩).after (hrec.trans hq), ?_⟩
    exact (SameLogIn.setSession _).trans (hl.trans (.setSession _))

/-! ### What a step can do -/

/-- What running a task can do, from the state in which thread W has taken it. -/
inductive TaskResult (cfg : Cfg) (F : Prop) (s : Server) : Task → Server → Prop
  | plain {t : Task} {s' : Server} (ht : t.plain = true) (h : s.toSession.Did F s'.toSession)
      (hl : SameLogIn s s') : TaskResult cfg F s t s'
  | logInReq {chan : Nat} {m : Msg} {s' : Server} (hm : s.masterChannel.isSome = true)
      (h : LogInDid s s') :
      TaskResult cfg F s (.logInReq chan m) s'
  | acceptLogIn {s' : Server} (h : AcceptResult s s') : TaskResult cfg F s .acceptLogIn s'
  | masterChannelError {chan : Nat} {e : Err} {s' : Server}
      (hd : s.onMasterChannelError cfg e = .done s') :
      TaskResult cfg F s (.masterChannelError chan e) s'
  | gracefulSessionEnd {chan : Nat} {b : Session} (hd : s.onGracefulSessionEnd = .done b) :
      TaskResult cfg F s (.gracefulSessionEnd chan) (s.setSession b)
  | initHandlers {passiveOpen : Bool} {o : ServerOracle} {s' : Server}
      (hd : s.initHandlers cfg passiveOpen o = .done s') :
      TaskResult cfg F s (.initHandlers passiveOpen) s'
  | preInitError {s' : Server} (hd : s.preInitError = .done s') :
      TaskResult cfg F s .preInitError s'

/-- What a step can do; `F` is known where a call of PEER state emits the error of the channel. -/
inductive StepResult (cfg : Cfg) (F : Prop) (s : Server) : Server → Prop
  | common {s' : Server} (h : s.toSession.Did F s'.toSession) (hl : SameLogIn s s') :
      StepResult cfg F s s'
  /-- Thread U wants PEER state. -/
  | wantsPeer (ha : s.accepted = true) (passiveOpen : Bool) :
      StepResult cfg F s (s.post (.initHandlers passiveOpen))
  | task {t : Task} {b : Session} {s' : Server} (ht : s.takeTask = .done (t, b))
      (h : TaskResult cfg F (s.setSession b) t s') : StepResult cfg F s s'
  /-- The last init-channel is answered, or its `sync_request()` fails. -/
  | initChannels {s' : Server} (hw : s.w.inSync = true) (h : LogInDid s s') : StepResult cfg F s s'
  /-- The destructor returns; the handler has run by then. -/
  | returned (hd : s.dtor = .stopped) {s' : Server} (hs' : s'.toSession =
        (if s.logInOnDoneFuncSet then
          s.record (.logInDone (some .objectShutdownAbortedCompletionHandler) .destructor s.out)
        else s).setDtor .returned)
      (hl : SameLogIn s s') : StepResult cfg F s s'

/-- The step makes a call that emits the error of the channel itself, in PEER state. -/
def emitsFromCall (s : Server) : Act → Bool
  | .run o => match o.send, s.queue with
    | .failed _, .openChannelReq .. :: _ => s.peerStateErrCodeOrOk.isNone
    | .failed _, .openChannel .. :: _ => s.peerStateErrCodeOrOk.isNone
    | .failed _, .dtorSendEnd :: _ => true
    | _, _ => false
  | .syncReturn (.failed _) _ => s.w.inOpenChannel
  | _ => false

/-- A task is one of the cases of `TaskResult`. -/
theorem runTask_result {t : Task} {b : Session} (ht : s.takeTask = .done (t, b))
    (hd : (s.setSession b).runTask cfg o t = .done s') :
    TaskResult cfg (emitsFromCall s (.run o) = true) (s.setSession b) t s' := by
  obtain ⟨hw, hq, hb⟩ := Session.takeTask_done ht
  have hwb : b.w = .idle := by rw [hb, hw]
  have hpb : b.peerStateErrCodeOrOk = s.peerStateErrCodeOrOk := by rw [hb]
  cases t with
  | masterChannelError chan e => exact .masterChannelError hd
  | gracefulSessionEnd chan =>
    obtain ⟨b', hb', rfl⟩ := liftUnit_done hd
    exact .gracefulSessionEnd hb'
  | logInReq chan m => 
    exact .logInReq (onLogInReq_channel hd) (onLogInReq_did hwb hd)
  | acceptLogIn => exact .acceptLogIn (acceptLogIn_done hd)
  | initHandlers passiveOpen => exact .initHandlers hd
  | preInitError => exact .preInitError hd
  -- The three tasks that may hose the session from their own call; `emitsFromCall` is that case.
  | openChannelReq chan m =>
    obtain ⟨hdid, hl⟩ := onMasterChannelOpenChannelReq_did (by exact hwb) hd
    refine .plain rfl (hdid.mono ?_) hl
    rintro ⟨⟨e, he⟩, hp⟩
    have hp : b.peerStateErrCodeOrOk = none := hp
    simp [emitsFromCall, hq, he, ← hpb, hp]
  | openChannel call bl =>
    obtain ⟨b', hb', rfl⟩ := liftUnit_done hd
    refine .plain rfl ((Session.openChannelBody_did hwb hb').mono ?_) (.setSession _)
    rintro ⟨⟨e, he⟩, hp⟩
    have hp : b.peerStateErrCodeOrOk = none := hp
    simp [emitsFromCall, hq, he, ← hpb, hp]
  | dtorSendEnd =>
    obtain ⟨b', hb', rfl⟩ := liftUnit_done hd
    refine .plain rfl ((Session.dtorSendEnd_did hwb hb').mono ?_) (.setSession _)
    rintro ⟨e, he⟩
    simp [emitsFromCall, hq, he]
  -- The others emit nothing.
  | mdtBuilder call mdt =>
    obtain ⟨hquiet, hl⟩ := mdtBuilder_quiet hd
    exact .plain rfl (.quiet hquiet) hl
  | sessionToken =>
    obtain ⟨b', hb', rfl⟩ := liftUnit_done hd
    exact .plain rfl (.quiet (Session.sessionToken_quiet hb')) (.setSession _)
  | dtorFinisherQuery =>
    cases hd
    exact .plain rfl (.quiet (Session.dtorFinisherQuery_quiet hwb)) (.setSession _)
  | dtorFlush =>
    cases hd
    exact .plain rfl (.quiet (Session.dtorFlush_quiet (by simp [hwb]) _)) (.setSession _)
  -- The client's tasks never run here.
  | logInRsp => cases hd
  | initOpenChannel => cases hd
  | asyncConnect => cases hd

/-- Every step is one of the cases of `StepResult`. -/
theorem step_result {a : Act} (hwait : s.w.inOpenChannel = true → s.peerStateErrCodeOrOk = none)
    (hd : step cfg s a = .done s') : StepResult cfg (emitsFromCall s a = true) s s' := by
  cases a with
  -- Needs an accepted session; the work itself is a task.
  | initHandlers passiveOpen =>
    simp only [step, Outcome.bind_eq_done, Outcome.require_eq_done, Bool.and_eq_true] at hd
    obtain ⟨-, ⟨ha, -⟩, hd⟩ := hd
    cases hd
    exact .wantsPeer ha passiveOpen
  | mdtBuilder call mdt =>
    simp only [step, Outcome.bind_eq_done] at hd
    obtain ⟨-, -, hd⟩ := hd
    cases hd
    have hq : s.toSession.Quiet (s.toSession.post (.mdtBuilder call mdt)) := .post rfl
    exact .common (.quiet hq) (.setSession _)
  | openChannel call =>
    simp only [step, Outcome.bind_eq_done] at hd
    obtain ⟨-, -, hd⟩ := hd
    obtain ⟨b, hb, rfl⟩ := liftUnit_done hd
    exact .common (.quiet (openChannel_quiet hb)) (.setSession _)
  | sessionToken =>
    simp only [step, Outcome.bind_eq_done] at hd
    obtain ⟨-, -, hd⟩ := hd
    cases hd
    have hq : s.toSession.Quiet (s.toSession.post .sessionToken) := .post rfl
    exact .common (.quiet hq) (.setSession _)
  | run o =>
    simp only [step, Outcome.bind_eq_done, Prod.exists] at hd
    obtain ⟨t, s₁, h₁, hd⟩ := hd
    obtain ⟨b, hb, rfl⟩ := lift_done h₁
    exact .task hb (runTask_result hb hd)
  -- To an open_channel() or to the init-channel loop, by what thread W was in.
  | syncReturn r =>
    simp only [step] at hd
    split at hd
    · rename_i call opened req rsp hw
      obtain ⟨b, hb, rfl⟩ := liftUnit_done hd
      have hp : s.peerStateErrCodeOrOk = none := hwait (by rw [hw]; rfl)
      refine .common ((openChannelSyncReturn_did hp (by simp [hw]) hb).mono ?_) (.setSession _)
      rintro ⟨e, rfl⟩
      simp [emitsFromCall, hw, Worker.inOpenChannel]
    · rename_i hw
      exact .initChannels (by rw [hw]; rfl) (initChannelsSyncReturn_did (by simp [hw]) hd)
    · cases hd
  | deliver m =>
    obtain ⟨b, hb, rfl⟩ := liftUnit_done hd
    exact .common (.quiet (Session.deliver_quiet hb)) (.setSession _)
  | channelError e =>
    obtain ⟨b, hb, rfl⟩ := liftUnit_done hd
    exact .common (Session.channelError_did hb) (.setSession _)
  | dtorStart =>
    obtain ⟨b, hb, rfl⟩ := liftUnit_done hd
    exact .common (.quiet (Session.dtorStart_quiet hb)) (.setSession _)
  | dtorStep =>
    obtain ⟨b, hb, rfl⟩ := liftUnit_done hd
    exact .common (Session.dtorStep_did hb) (.setSession _)
  | flushDone =>
    obtain ⟨b, hb, rfl⟩ := liftUnit_done hd
    exact .common (.quiet (Session.dtorFlushDone_quiet hb)) (.setSession _)
  -- The last step of the destructor: a log-in still pending is told so.
  | dtorFinish =>
    simp only [step, dtorFinish, Outcome.bind_eq_done, Outcome.require_eq_done] at hd
    obtain ⟨-, hdt, hd⟩ := hd
    refine .returned (of_decide_eq_true hdt) ?_ ?_
    · cases hset : s.logInOnDoneFuncSet <;> simp [hset] at hd <;> subst hd <;> rfl
    · cases hset : s.logInOnDoneFuncSet <;> simp [hset] at hd <;> subst hd <;> exact .setSession _

/-! ### The phases -/

/-- Which handlers are set in each phase, and what else goes with it. -/
structure Phases (cfg : Cfg) (s : Server) : Prop where
  /-- The first task of the log-in, until it is taken. -/
  accept : s.queue.countP Task.isAcceptLogIn = 0 ∨ (s.queue.countP Task.isAcceptLogIn = 1 ∧
    s.masterChannel = none ∧ s.logInOnDoneFuncSet = true)
  logIn : s.logInOnDoneFuncSet = true →
    s.onErrFuncSet = false ∧ s.preInitErrCode = none ∧ s.accepted = false
  failed : s.logInOnDoneFuncSet = false → s.accepted = false → s.masterChannel = none
  queued : s.accepted = false → s.queue.countP Task.isInitHandlers = 0
  peer : s.onErrFuncSet = true → s.accepted = true
  finisher : s.gracefulFinisher.isSome = true →
    s.onErrFuncSet = true ∧ cfg.gracefulFinishRequired = true ∧ s.preInitErrCode = none
  notPeer : s.onErrFuncSet = false → s.peerStateErrCodeOrOk = none
  sync : s.w.inSync = true → s.masterChannel.isSome = true

/-- Before the log-in. -/
theorem phases_constructed (srvNamespace : SharedName) : Phases cfg (constructed srvNamespace) where
  accept := .inl rfl
  logIn := nofun
  failed := fun _ _ => rfl
  queued := fun _ => rfl
  peer := nofun
  finisher := nofun
  notPeer := fun _ => rfl
  sync := nofun

/-- With the log-in just asked for. -/
theorem phases_fresh (srvNamespace : SharedName) (out : OutArgs) :
    Phases cfg (fresh srvNamespace out) where
  accept := .inr ⟨rfl, rfl, rfl⟩
  logIn := fun _ => ⟨rfl, rfl, rfl⟩
  failed := nofun
  queued := fun _ => rfl
  peer := nofun
  finisher := nofun
  notPeer := fun _ => rfl
  sync := nofun

/-- Common code posts no task of the log-in. -/
theorem countP_did {b b' : Session} (h : b.Did F b') (p : Task → Bool)
    (hp : ∀ t, p t = true → t.calm = false ∧ ∀ chan e, t ≠ .masterChannelError chan e) :
    b'.queue.countP p = b.queue.countP p := by
  obtain ⟨ts, hq, hts⟩ := h.queue
  rw [hq, List.countP_append, Nat.add_eq_left, List.countP_eq_zero]
  intro t ht hpt
  obtain ⟨hc, hne⟩ := hp t hpt
  rcases hts t ht with h | ⟨chan, e, rfl⟩
  · rw [hc] at h; cases h
  · exact hne chan e rfl

/-- The start of the log-in is no calm task, nor the report of an error. -/
theorem isAcceptLogIn_not_calm : ∀ t : Task, t.isAcceptLogIn = true →
    t.calm = false ∧ ∀ chan e, t ≠ .masterChannelError chan e := by
  intro t ht
  cases t <;> simp_all [Task.isAcceptLogIn, Task.calm]

/-- Nor is that of `init_handlers()`. -/
theorem isInitHandlers_not_calm : ∀ t : Task, t.isInitHandlers = true →
    t.calm = false ∧ ∀ chan e, t ≠ .masterChannelError chan e := by
  intro t ht
  cases t <;> simp_all [Task.isInitHandlers, Task.calm]

/-- Session code does not take the session from one phase to another. -/
theorem Phases.of_did (h : Phases cfg s) (hd : s.toSession.Did F s'.toSession)
    (hl : SameLogIn s s') : Phases cfg s' where
  accept := by
    rw [countP_did hd _ isAcceptLogIn_not_calm, hl.logInOnDoneFuncSet]
    rcases h.accept with h | ⟨h₁, h₂, h₃⟩
    · exact .inl h
    · have hm := hd.channel_isSome
      rw [h₂] at hm
      exact .inr ⟨h₁, by simpa using hm, h₃⟩
  logIn := by
    rw [hl.logInOnDoneFuncSet, hd.onErrFuncSet, hl.preInitErrCode, hl.accepted]
    exact h.logIn
  failed := by
    rw [hl.logInOnDoneFuncSet, hl.accepted]
    intro h₁ h₂
    have hm := hd.channel_isSome
    rw [h.failed h₁ h₂] at hm
    simpa using hm
  queued := by
    rw [hl.accepted, countP_did hd _ isInitHandlers_not_calm]
    exact h.queued
  peer := by
    rw [hd.onErrFuncSet, hl.accepted]
    exact h.peer
  finisher := by
    rw [hd.gracefulFinisher, hd.onErrFuncSet, hl.preInitErrCode]
    exact h.finisher
  notPeer := by
    rw [hd.onErrFuncSet]
    intro hs
    rcases hd.peerStateErrCodeOrOk with hp | ⟨ho, -⟩
    · rw [hp]; exact h.notPeer hs
    · rw [hs] at ho; cases ho
  sync := by
    rw [hd.channel_isSome]
    exact fun hw => (hd.sync hw).elim h.sync id

/-- Thread W takes a task; the first task of the log-in is treated apart. -/
theorem Phases.takeTask {t : Task} {b : Session} (h : Phases cfg s)
    (ht : s.takeTask = .done (t, b)) (hne : t.isAcceptLogIn = false) :
    Phases cfg (s.setSession b) := by
  obtain ⟨hw, hq, hb⟩ := Session.takeTask_done ht
  have hqa : s.queue.countP Task.isAcceptLogIn = b.queue.countP Task.isAcceptLogIn := by
    rw [hq, List.countP_cons, hne]
    rfl
  have hqi : s.queue.countP Task.isInitHandlers = 0 → b.queue.countP Task.isInitHandlers = 0 := by
    rw [hq, List.countP_cons]
    omega
  generalize b.queue = q at hb hqa hqi
  subst hb
  exact ⟨by simpa [← hqa] using h.accept, h.logIn, h.failed, fun ha => hqi (h.queued ha), h.peer,
    h.finisher, h.notPeer, h.sync⟩

/-- Once there is a channel, the log-in has been started. -/
theorem Phases.accept_eq_zero (h : Phases cfg s) (hm : s.masterChannel.isSome = true) :
    s.queue.countP Task.isAcceptLogIn = 0 := by
  rcases h.accept with h | ⟨-, hn, -⟩
  · exact h
  · rw [hn] at hm; cases hm

/-- Before the handlers are set no finisher is engaged. -/
theorem Phases.no_finisher (h : Phases cfg s) (ho : s.onErrFuncSet = false) :
    s.gracefulFinisher = none := by
  cases hf : s.gracefulFinisher with
  | none => rfl
  | some f =>
    have hs := (h.finisher (by rw [hf]; rfl)).1
    rw [ho] at hs
    cases hs

/-- The log-in has failed, and the channel is gone. -/
theorem Phases.failed_of (h : Phases cfg s) (hset : s.logInOnDoneFuncSet = true)
    (hacc : s.queue.countP Task.isAcceptLogIn = 0) {b : Session} (hq : b.queue = s.queue)
    (ho : b.onErrFuncSet = s.onErrFuncSet) (hf : b.gracefulFinisher = s.gracefulFinisher)
    (hp : b.peerStateErrCodeOrOk = s.peerStateErrCodeOrOk) (hw : b.w = .idle)
    (hm : b.masterChannel = none) :
    Phases cfg { s with toSession := b, logInOnDoneFuncSet := false, accepted := false } := by
  obtain ⟨ho', hpre, ha⟩ := h.logIn hset
  have hn := h.no_finisher ho'
  refine ⟨.inl (hq ▸ hacc), nofun, fun _ _ => hm, fun _ => hq ▸ h.queued ha, fun h' => ?_,
    fun h' => ?_, fun _ => ?_, fun h' => ?_⟩
  · have h' : b.onErrFuncSet = true := h'
    rw [ho, ho'] at h'
    cases h'
  · have h' : b.gracefulFinisher.isSome = true := h'
    rw [hf, hn] at h'
    cases h'
  · exact hp.trans (h.notPeer ho')
  · have h' : b.w.inSync = true := h'
    rw [hw] at h'
    cases h'

/-- What is done for the log-in leaves it going on, or ends it. -/
theorem Phases.logInDid (h : Phases cfg s) (hm : s.masterChannel.isSome = true)
    (hd : LogInDid s s') : Phases cfg s' := by
  cases hd with
  | goesOn hd hl => exact h.of_did hd hl
  | @succeeded s₁ hq hl hw hset site out =>
    have h₁ : Phases cfg s₁ := h.of_did (F := False) (.quiet hq) hl
    exact ⟨.inl (h₁.accept_eq_zero (hq.channel_isSome.trans hm)), nofun, nofun, nofun,
      fun _ => rfl, h₁.finisher, h₁.notPeer, h₁.sync⟩
  | @failed s₁ hq hl hw hset b hb e site hsite =>
    have h₁ : Phases cfg s₁ := h.of_did (F := False) (.quiet hq) hl
    have hset₁ : s₁.logInOnDoneFuncSet = true := hl.logInOnDoneFuncSet.trans hset
    have hacc := h₁.accept_eq_zero (hq.channel_isSome.trans hm)
    rcases hb with rfl | ⟨ch, e', -, -, rfl⟩
    · exact h₁.failed_of hset₁ hacc rfl rfl rfl rfl hw rfl
    · exact h₁.failed_of hset₁ hacc rfl rfl rfl rfl hw rfl

/-- What the first task of a log-in finds. -/
theorem Phases.atAccept {b : Session} (h : Phases cfg s)
    (ht : s.takeTask = .done (.acceptLogIn, b)) :
    Phases cfg (s.setSession b) ∧ b.queue.countP Task.isAcceptLogIn = 0 ∧
      s.masterChannel = none ∧ s.logInOnDoneFuncSet = true := by
  obtain ⟨hw, hq, hb⟩ := Session.takeTask_done ht
  have hqa : b.queue.countP Task.isAcceptLogIn = 0 ∧ s.masterChannel = none ∧
      s.logInOnDoneFuncSet = true := by
    have hcount : s.queue.countP Task.isAcceptLogIn = b.queue.countP Task.isAcceptLogIn + 1 := by
      rw [hq, List.countP_cons]
      rfl
    rcases h.accept with h' | ⟨h', hm, hset⟩
    · omega
    · exact ⟨by omega, hm, hset⟩
  refine ⟨?_, hqa⟩
  have hqi : s.queue.countP Task.isInitHandlers = b.queue.countP Task.isInitHandlers := by
    rw [hq, List.countP_cons]
    rfl
  generalize b.queue = q at hb hqa hqi
  subst hb
  exact ⟨.inl hqa.1, h.logIn, h.failed, fun ha => hqi ▸ h.queued ha, h.peer, h.finisher, h.notPeer,
    h.sync⟩

/-- The channel is there. -/
theorem Phases.acceptStarted (h : Phases cfg s) (hacc : s.queue.countP Task.isAcceptLogIn = 0)
    (hset : s.logInOnDoneFuncSet = true) {ch : MasterChannel}
    (hs' : s'.toSession = s.setChannel ch) (hl : SameLogIn s s') : Phases cfg s' := by
  obtain ⟨hset', hpre', hacc', -⟩ := hl
  refine ⟨.inl (by rw [hs']; exact hacc), ?_, fun hf => ?_, ?_, ?_, ?_, ?_, ?_⟩
  · rw [hset', hs', hpre', hacc']; exact h.logIn
  · rw [hset', hset] at hf
    cases hf
  · rw [hacc', hs']; exact h.queued
  · rw [hacc', hs']; exact h.peer
  · rw [hpre', hs']; exact h.finisher
  · rw [hs']; exact h.notPeer
  · rw [hs']; exact fun _ => rfl

/-- The log-in starts. -/
theorem Phases.acceptResult {b : Session} (h : Phases cfg s)
    (ht : s.takeTask = .done (.acceptLogIn, b)) (hd : AcceptResult (s.setSession b) s') :
    Phases cfg s' := by
  obtain ⟨hw, -, hb⟩ := Session.takeTask_done ht
  obtain ⟨h₁, hacc, hm, hset⟩ := h.atAccept ht
  have hwb : b.w = .idle := by rw [hb]; exact hw
  have hmb : b.masterChannel = none := by rw [hb]; exact hm
  cases hd with
  | failed hset e => exact h₁.failed_of hset hacc rfl rfl rfl rfl hwb hmb
  | started hm hs₁ hl hdid hl' => exact (h₁.acceptStarted hacc hset hs₁ hl).of_did hdid hl'

/-- The results of `on_master_channel_error()`. -/
inductive ErrorResult (cfg : Cfg) (s : Server) (e : Err) : Server → Prop
  | dropped (hm : s.masterChannel = none) : ErrorResult cfg s e s
  | logInFailed (hm : s.masterChannel.isSome = true) (hset : s.logInOnDoneFuncSet = true) :
      ErrorResult cfg s e { s with
        toSession := s.dropChannel.record (.logInDone (some e) .masterChannelError s.out)
        logInOnDoneFuncSet := false
        accepted := false }
  | cached (hm : s.masterChannel.isSome = true) (hset : s.logInOnDoneFuncSet = false)
      (ho : s.onErrFuncSet = false) (hpre : s.preInitErrCode = none) :
      ErrorResult cfg s e { s with preInitErrCode := some e }
  | inPeer (hm : s.masterChannel.isSome = true) (ho : s.onErrFuncSet = true) {b₁ b : Session}
      (h₁ : (s.peerStateErrCodeOrOk.isSome = true ∧ b₁ = s.toSession) ∨
        (s.peerStateErrCodeOrOk = none ∧ b₁ = s.emitHosed e .masterChannelError))
      (h₂ : (cfg.gracefulFinishRequired = true ∧ s.gracefulFinisher.isSome = true ∧
          b = b₁.setFinisher true) ∨ (cfg.gracefulFinishRequired = false ∧ b = b₁)) :
      ErrorResult cfg s e (s.setSession b)

/-- The report of the channel's error is one of the cases of `ErrorResult`. -/
theorem onMasterChannelError_done {e : Err} (hd : s.onMasterChannelError cfg e = .done s') :
    ErrorResult cfg s e s' := by
  simp only [onMasterChannelError] at hd
  split at hd
  · rename_i hm
    cases hd
    exact .dropped (Option.isNone_iff_eq_none.mp hm)
  · rename_i hm
    have hm : s.masterChannel.isSome = true := by simpa [Option.isSome_iff_ne_none] using hm
    split at hd
    · obtain ⟨hset, rfl⟩ := logInDone_done hd
      exact .logInFailed hm hset
    · rename_i hset
      split at hd
      · rename_i ho
        simp only [Outcome.bind_eq_done, Outcome.check_eq_done] at hd
        obtain ⟨-, hpre, hd⟩ := hd
        cases hd
        exact .cached hm (by simpa using hset) (by simpa using ho)
          (Option.isNone_iff_eq_none.mp hpre)
      · rename_i ho
        obtain ⟨b, hb, rfl⟩ := liftUnit_done hd
        obtain ⟨b₁, h₁, h₂⟩ := Session.onMasterChannelErrorPeer_done hb
        exact .inPeer hm (by simpa using ho) h₁ h₂

/-- Code of PEER state that changes the finisher's promise or hoses the session. -/
theorem Phases.in_peer (h : Phases cfg s) (ho : s.onErrFuncSet = true) {b : Session}
    (hq : b.queue = s.queue) (hm : b.masterChannel = s.masterChannel)
    (ho' : b.onErrFuncSet = s.onErrFuncSet)
    (hf : b.gracefulFinisher.isSome = s.gracefulFinisher.isSome) (hw : b.w = s.w) :
    Phases cfg (s.setSession b) where
  accept := by rw [setSession_toSession, hq, hm]; exact h.accept
  logIn := by rw [setSession_toSession, ho']; exact h.logIn
  failed := by rw [setSession_toSession, hm]; exact h.failed
  queued := by rw [setSession_toSession, hq]; exact h.queued
  peer := by rw [setSession_toSession, ho']; exact h.peer
  finisher := by rw [setSession_toSession, hf, ho']; exact h.finisher
  notPeer := by
    rw [setSession_toSession, ho', ho]
    nofun
  sync := by rw [setSession_toSession, hw, hm]; exact h.sync

/-- It ends a log-in that goes on. -/
theorem Phases.errorResult {e : Err} (h : Phases cfg s) (hw : s.w = .idle)
    (hd : ErrorResult cfg s e s') : Phases cfg s' := by
  cases hd with
  | dropped => exact h
  | logInFailed hm hset => exact h.failed_of hset (h.accept_eq_zero hm) rfl rfl rfl rfl hw rfl
  | cached hm hset ho hpre =>
    refine ⟨h.accept, fun hs => ?_, h.failed, h.queued, h.peer, fun hf => ?_, h.notPeer, h.sync⟩
    · have hs : s.logInOnDoneFuncSet = true := hs
      rw [hset] at hs
      cases hs
    · have hf : s.gracefulFinisher.isSome = true := hf
      rw [h.no_finisher ho] at hf
      cases hf
  | @inPeer hm ho b₁ b h₁ h₂ =>
    rcases h₁ with ⟨-, rfl⟩ | ⟨-, rfl⟩ <;> rcases h₂ with ⟨-, hf, rfl⟩ | ⟨-, rfl⟩
    · exact h.in_peer ho rfl rfl rfl hf.symm rfl
    · exact h.in_peer ho rfl rfl rfl rfl rfl
    · exact h.in_peer ho rfl rfl rfl hf.symm rfl
    · exact h.in_peer ho rfl rfl rfl rfl rfl

/-- The handlers are set. -/
@[simps toSession logInOnDoneFuncSet preInitErrCode accepted out]
def setHandlers (passiveOpen : Bool) (s : Server) : Server :=
  { s with
    toSession := { s.toSession with onErrFuncSet := true, onPassiveOpenSet := passiveOpen } }

/-- The results of `init_handlers()`. -/
inductive InitHandlersResult (cfg : Cfg) (s : Server) (passiveOpen : Bool) : Server → Prop
  | again (ho : s.onErrFuncSet = true) :
      InitHandlersResult cfg s passiveOpen (s.record (.initHandlersReturned false))
  | cached (ho : s.onErrFuncSet = false) (hpre : s.preInitErrCode.isSome = true)
      (hp : s.peerStateErrCodeOrOk = none) : InitHandlersResult cfg s passiveOpen
        (((s.setHandlers passiveOpen).post .preInitError).record (.initHandlersReturned true))
  | plain (ho : s.onErrFuncSet = false) (hpre : s.preInitErrCode = none) {b₁ b₂ : Session}
      (h₁ : (s.setHandlers passiveOpen).toSession.Did False b₁)
      (h₂ : (cfg.gracefulFinishRequired = true ∧
          ∃ ch, b₁.masterChannel = some ch ∧ Session.FinisherResult b₁ ch b₂) ∨
        (cfg.gracefulFinishRequired = false ∧ b₂ = b₁)) :
      InitHandlersResult cfg s passiveOpen
        ((s.setHandlers passiveOpen).setSession (b₂.record (.initHandlersReturned true)))

/-- `init_handlers()` is one of the cases of `InitHandlersResult`. -/
theorem initHandlers_done {passiveOpen : Bool} (hd : s.initHandlers cfg passiveOpen o = .done s') :
    InitHandlersResult cfg s passiveOpen s' := by
  simp only [initHandlers] at hd
  split at hd
  · rename_i ho
    cases hd
    exact .again ho
  · rename_i ho
    have ho : s.onErrFuncSet = false := by simpa using ho
    simp only [Outcome.bind_eq_done] at hd
    obtain ⟨-, -, hd⟩ := hd
    split at hd
    · rename_i hpre
      simp only [Outcome.bind_eq_done, Outcome.check_eq_done] at hd
      obtain ⟨-, hp, hd⟩ := hd
      cases hd
      exact .cached ho hpre (Option.isNone_iff_eq_none.mp hp)
    · rename_i hpre
      have hpre : s.preInitErrCode = none := by simpa using hpre
      simp only [Outcome.bind_eq_done, Prod.exists] at hd
      obtain ⟨ok, s₁, h₁, hd⟩ := hd
      obtain ⟨b₁, hb₁, rfl⟩ := lift_done h₁
      split at hd
      · rename_i hreq
        simp only [Outcome.bind_eq_done] at hd
        obtain ⟨s₂, h₂, hd⟩ := hd
        obtain ⟨b₂, hb₂, rfl⟩ := liftUnit_done h₂
        cases hd
        exact .plain ho hpre (Session.expectOpenChannelReqs_did hb₁)
          (.inl ⟨hreq, Session.emplaceGracefulFinisher_done hb₂⟩)
      · rename_i hreq
        cases hd
        exact .plain ho hpre (Session.expectOpenChannelReqs_did hb₁)
          (.inr ⟨by simpa using hreq, rfl⟩)

/-- It takes the session to PEER state. -/
theorem Phases.setHandlers (h : Phases cfg s) (ha : s.accepted = true) (passiveOpen : Bool)
    (ho : s.onErrFuncSet = false) : Phases cfg (s.setHandlers passiveOpen) where
  accept := h.accept
  logIn := fun hset => by
    have hn := (h.logIn hset).2.2
    rw [ha] at hn
    cases hn
  failed := h.failed
  queued := h.queued
  peer := fun _ => ha
  finisher := fun hf => by
    have hf : s.gracefulFinisher.isSome = true := hf
    rw [h.no_finisher ho] at hf
    cases hf
  notPeer := nofun
  sync := h.sync

/-- The finisher is engaged. -/
theorem Phases.setFinisher {b : Session} (h : Phases cfg (s.setSession b))
    (ho : b.onErrFuncSet = true) (hreq : cfg.gracefulFinishRequired = true)
    (hpre : s.preInitErrCode = none) : Phases cfg (s.setSession (b.setFinisher false)) :=
  ⟨h.accept, h.logIn, h.failed, h.queued, h.peer, fun _ => ⟨ho, hreq, hpre⟩, h.notPeer, h.sync⟩

/-- Whatever `init_handlers()` comes to, the phase is the right one. -/
theorem Phases.initHandlersResult {passiveOpen : Bool} (h : Phases cfg s)
    (ha : s.accepted = true) (hd : InitHandlersResult cfg s passiveOpen s') : Phases cfg s' := by
  cases hd with
  | again ho => exact h.in_peer ho rfl rfl rfl rfl rfl
  | cached ho hpre hp =>
    have h₁ := h.setHandlers ha passiveOpen ho
    refine ⟨?_, h₁.logIn, h₁.failed, fun hn => ?_, h₁.peer, h₁.finisher, h₁.notPeer, h₁.sync⟩
    · simpa [record, post, Task.isAcceptLogIn] using h₁.accept
    · have hn : s.accepted = false := hn
      rw [ha] at hn
      cases hn
  | @plain ho hpre b₁ b₂ hdid h₂ =>
    have h₁ : Phases cfg ((s.setHandlers passiveOpen).setSession b₁) :=
      (h.setHandlers ha passiveOpen ho).of_did hdid (.setSession _)
    have hrec : b₂.Quiet (b₂.record (.initHandlersReturned true)) := .record rfl
    have h₂' : Phases cfg ((s.setHandlers passiveOpen).setSession b₂) := by
      rcases h₂ with ⟨hreq, ch, hm, hr⟩ | ⟨-, rfl⟩
      · have hf := h₁.setFinisher hdid.onErrFuncSet hreq hpre
        exact hf.of_did (F := False) (hr.did hm) (.setSession _)
      · exact h₁
    exact h₂'.of_did (F := False) (.quiet hrec) (.setSession _)

/-- The report of an earlier error comes in PEER state. -/
theorem Phases.preInitError (h : Phases cfg s)
    (hd : s.preInitError = .done s') : Phases cfg s' := by
  simp only [Server.preInitError] at hd
  split at hd
  · obtain ⟨b, hb, rfl⟩ := liftUnit_done hd
    obtain ⟨ho, ⟨-, rfl⟩ | ⟨-, rfl⟩⟩ := Session.hoseIfNot_done hb
    · exact h
    · exact h.in_peer ho rfl rfl rfl rfl rfl
  · cases hd

/-- So does the peer's `GracefulSessionEnd`. -/
theorem Phases.gracefulSessionEnd {b : Session} (h : Phases cfg s)
    (hd : s.onGracefulSessionEnd = .done b) : Phases cfg (s.setSession b) := by
  obtain ⟨hf, ho, ⟨-, rfl⟩ | ⟨-, rfl⟩⟩ := Session.onGracefulSessionEnd_done hd
  · exact h.in_peer ho rfl rfl rfl (by rw [hf]; rfl) rfl
  · exact h.in_peer ho rfl rfl rfl (by rw [hf]; rfl) rfl

/-- Only the user of an accepted session calls `init_handlers()`. -/
theorem Phases.accepted_of_initHandlers {passiveOpen : Bool} {b : Session} (h : Phases cfg s)
    (ht : s.takeTask = .done (.initHandlers passiveOpen, b)) : s.accepted = true := by
  obtain ⟨-, hq, -⟩ := Session.takeTask_done ht
  cases ha : s.accepted with
  | true => rfl
  | false =>
    have hn := h.queued ha
    simp [hq, Task.isInitHandlers] at hn

/-- So the session is in one of its phases after any step. -/
theorem Phases.step (h : Phases cfg s) (hd : StepResult cfg F s s') : Phases cfg s' := by
  cases hd with
  | common hd hl => exact h.of_did hd hl
  | wantsPeer ha passiveOpen =>
    refine ⟨?_, h.logIn, h.failed, fun hn => ?_, h.peer, h.finisher, h.notPeer, h.sync⟩
    · simpa [post, Task.isAcceptLogIn] using h.accept
    · have hn : s.accepted = false := hn
      rw [ha] at hn
      cases hn
  | initChannels hw hd => exact h.logInDid (h.sync hw) hd
  | returned hdt hs' hl =>
    -- The wait's end changes W only, so every clause is the one before with W replaced.
    obtain ⟨hset, hpre, hacc, -⟩ := hl
    constructor
    · rw [hs', hset]; split <;> exact h.accept
    · rw [hs', hset, hpre, hacc]; split <;> exact h.logIn
    · rw [hs', hset, hacc]; split <;> exact h.failed
    · rw [hs', hacc]; split <;> exact h.queued
    · rw [hs', hacc]; split <;> exact h.peer
    · rw [hs', hpre]; split <;> exact h.finisher
    · rw [hs']; split <;> exact h.notPeer
    · rw [hs']; split <;> exact h.sync
  | @task t b _ ht hr =>
    obtain ⟨hw, hq, hb⟩ := Session.takeTask_done ht
    cases hr with
    | plain hplain hdid hl =>
      -- A plain task is none of the log-in's, so taking it off the queue keeps the phases.
      have hne : t.isAcceptLogIn = false := by cases t <;> first | rfl | cases hplain
      exact (h.takeTask ht hne).of_did hdid hl
    | logInReq hm hd => exact (h.takeTask ht rfl).logInDid hm hd
    | acceptLogIn hd => exact h.acceptResult ht hd
    | masterChannelError hd =>
      refine (h.takeTask ht rfl).errorResult ?_ (onMasterChannelError_done hd)
      rw [setSession_toSession, hb]
      exact hw
    | gracefulSessionEnd hd => exact (h.takeTask ht rfl).gracefulSessionEnd hd
    | @initHandlers passiveOpen o _ hd =>
      exact (h.takeTask ht rfl).initHandlersResult (h.accepted_of_initHandlers ht)
        (initHandlers_done hd)
    | preInitError hd => exact (h.takeTask ht rfl).preInitError hd

/-! ### Errors of the channel -/

/-- An error of the channel is on its way to where it belongs; `G` says that the run is one in which
    no error out of a call finds the finisher waiting for nothing. -/
structure ErrInv (cfg : Cfg) (G : Prop) (s : Server) : Prop where
  phases : Phases cfg s
  reported : ∀ chan, s.errorState = some (chan, true) → s.ErrorPending chan ∨
    s.preInitErrCode.isSome = true ∨ s.peerStateErrCodeOrOk.isSome = true ∨
    (s.onErrFuncSet = true ∧ s.dtor ≠ .notStarted)
  preInit : s.onErrFuncSet = true → s.preInitErrCode.isSome = true →
    Task.preInitError ∈ s.queue ∨ s.peerStateErrCodeOrOk.isSome = true
  finishable : G → s.Finishable
  hosing : s.Hosing

/-- There has been no error yet. -/
theorem errInv_fresh (srvNamespace : SharedName) (out : OutArgs) :
    ErrInv cfg G (fresh srvNamespace out) where
  phases := phases_fresh srvNamespace out
  reported := nofun
  preInit := nofun
  finishable := fun _ => nofun
  hosing := ⟨rfl, trivial, nofun⟩

/-- Session code keeps the books, with the finisher served wherever it emits the error. -/
theorem ErrInv.of_did (h : ErrInv cfg G s) (hd : s.toSession.Did F s'.toSession)
    (hl : SameLogIn s s')
    (hF : G → F → s.gracefulFinisher = some false → ∃ c, Task.gracefulSessionEnd c ∈ s.queue) :
    ErrInv cfg G s' where
  phases := h.phases.of_did hd hl
  reported := fun chan hc => by
    rw [hl.preInitErrCode, hd.onErrFuncSet]
    rcases hd.channelError hc with ⟨hc, hpend, hp, hdt⟩ | hpend | hp | ⟨hf, hdt⟩
    · rcases h.reported chan hc with h | h | h | ⟨ho, h⟩
      · exact .inl (hpend h)
      · exact .inr (.inl h)
      · exact .inr (.inr (.inl (hp ▸ h)))
      · exact .inr (.inr (.inr ⟨ho, fun hd' => h (hdt hd')⟩))
    · exact .inl hpend
    · exact .inr (.inr (.inl hp))
    · exact .inr (.inr (.inr ⟨(h.phases.finisher hf).1, hdt⟩))
  preInit := by
    rw [hd.onErrFuncSet, hl.preInitErrCode]
    intro ho hpre
    rcases h.preInit ho hpre with hq | hp
    · obtain ⟨ts, hts, -⟩ := hd.queue
      exact .inl (by rw [hts]; exact List.mem_append_left ts hq)
    · exact .inr (hd.peerStateErrCodeOrOk_isSome hp)
  finishable := fun hg => hd.finishable (h.finishable hg) (hF hg)
  hosing := hd.hosing h.hosing

/-- Code that makes no call that can emit an error. -/
theorem ErrInv.of_calm (h : ErrInv cfg G s) (hd : s.toSession.Did False s'.toSession)
    (hl : SameLogIn s s') : ErrInv cfg G s' :=
  h.of_did hd hl fun _ => nofun

/-- The log-in has failed: there is no channel any more. -/
theorem ErrInv.of_noChannel (hp : Phases cfg s) (hm : s.masterChannel = none)
    (ho : s.onErrFuncSet = false) (hh : s.Hosing) : ErrInv cfg G s where
  phases := hp
  reported := by
    intro chan hc
    simp [Session.errorState, hm] at hc
  preInit := by
    intro h
    rw [ho] at h
    cases h
  finishable := by
    intro _ chan hc
    simp [Session.errorState, hm] at hc
  hosing := hh

/-- The handler of the log-in runs. -/
theorem hosing_logInDone {b : Session} (h : b.Hosing) {e : ErrorCode} {site : LogInSite}
    {out : OutArgs} : (b.record (.logInDone e site out)).Hosing :=
  h.append _ rfl rfl (by simp [Event.isOnErr, Event.fitsHosed]) h.waiting

/-- So does what is done for the log-in, in which there is no finisher. -/
theorem ErrInv.logInDid (h : ErrInv cfg G s) (hm : s.masterChannel.isSome = true)
    (hd : LogInDid s s') : ErrInv cfg G s' := by
  have hp := h.phases.logInDid hm hd
  cases hd with
  | goesOn hd hl => exact h.of_calm hd hl
  | @succeeded s₁ hq hl hw hset site out =>
    have h₁ : ErrInv cfg G s₁ := h.of_calm (.quiet hq) hl
    exact ⟨hp, h₁.reported, h₁.preInit, h₁.finishable, hosing_logInDone h₁.hosing⟩
  | @failed s₁ hq hl hw hset b hb e site hsite =>
    have h₁ : ErrInv cfg G s₁ := h.of_calm (.quiet hq) hl
    have hset₁ : s₁.logInOnDoneFuncSet = true := hl.logInOnDoneFuncSet.trans hset
    have ho := (h₁.phases.logIn hset₁).1
    rcases hb with rfl | ⟨ch, e', -, -, rfl⟩
    · exact .of_noChannel hp rfl ho (hosing_logInDone h₁.hosing.dropChannel)
    · have hh : (s₁.failCall ch e').Hosing := h₁.hosing.channelError (e := e') rfl rfl rfl
      exact .of_noChannel hp rfl ho (hosing_logInDone hh.dropChannel)

/-- An error from before `init_handlers()` stays on its way to be reported. -/
theorem ErrInv.preInit_takeTask {t : Task} {b : Session} (h : ErrInv cfg G s)
    (ht : s.takeTask = .done (t, b)) (hne : t ≠ .preInitError) (ho : b.onErrFuncSet = true)
    (hpre : s.preInitErrCode.isSome = true) :
    Task.preInitError ∈ b.queue ∨ b.peerStateErrCodeOrOk.isSome = true := by
  obtain ⟨-, hq, hb⟩ := Session.takeTask_done ht
  rw [hb] at ho ⊢
  rcases h.preInit ho hpre with hp | hp
  · rw [hq] at hp
    rcases List.mem_cons.mp hp with hp | hp
    · exact absurd hp.symm hne
    · exact .inl hp
  · exact .inr hp

/-- Thread W takes a task that neither reports an error nor fulfils the promise. -/
theorem ErrInv.takeTask {t : Task} {b : Session} (h : ErrInv cfg G s)
    (ht : s.takeTask = .done (t, b)) (hacc : t.isAcceptLogIn = false)
    (he : ∀ chan e, t ≠ .masterChannelError chan e) (hpre : t ≠ .preInitError)
    (hg : ∀ c, t ≠ .gracefulSessionEnd c) : ErrInv cfg G (s.setSession b) where
  phases := h.phases.takeTask ht hacc
  reported := by
    obtain ⟨-, -, hb⟩ := Session.takeTask_done ht
    intro chan hc
    have hc : b.errorState = some (chan, true) := hc
    have hes : b.errorState = s.errorState := by rw [hb]; rfl
    rcases h.reported chan (hes ▸ hc) with hp | hp | hp | hp
    · rcases Session.takeTask_errorPending ht hp with ⟨e, rfl⟩ | hp
      · exact absurd rfl (he chan e)
      · exact .inl hp
    · exact .inr (.inl hp)
    · exact .inr (.inr (.inl (by rw [setSession_toSession, hb]; exact hp)))
    · exact .inr (.inr (.inr (by rw [setSession_toSession, hb]; exact hp)))
  preInit := h.preInit_takeTask ht hpre
  finishable := fun hG => by
    refine (h.finishable hG).takeTask ht (fun chan e h => absurd h (he chan e)) hg
  hosing := by
    obtain ⟨-, -, hb⟩ := Session.takeTask_done ht
    exact h.hosing.of_log (by rw [setSession_toSession, hb]) (by rw [setSession_toSession, hb])
      (by rw [setSession_toSession, hb])

/-- The log-in starts, with nothing in the books. -/
theorem ErrInv.acceptResult {b : Session} (h : ErrInv cfg G s)
    (ht : s.takeTask = .done (.acceptLogIn, b)) (hd : AcceptResult (s.setSession b) s') :
    ErrInv cfg G s' := by
  have hp := h.phases.acceptResult ht hd
  obtain ⟨-, -, hb⟩ := Session.takeTask_done ht
  obtain ⟨h₁, hacc, hm, hset⟩ := h.phases.atAccept ht
  have hmb : b.masterChannel = none := by rw [hb]; exact hm
  have ho : b.onErrFuncSet = false := (h₁.logIn hset).1
  have hbh : b.Hosing := h.hosing.of_log (by rw [hb]) (by rw [hb]) (by rw [hb])
  cases hd with
  | failed hset e => exact .of_noChannel hp hmb ho (hosing_logInDone hbh)
  | @started hm s₁ _ hs₁ hl hdid hl' =>
    -- the new channel has emitted nothing yet
    have hes : s₁.errorState = some (0, false) := by rw [hs₁]; rfl
    refine ErrInv.of_calm (s := s₁) ⟨h₁.acceptStarted hacc hset hs₁ hl, fun chan hc => ?_,
      fun ho' => ?_, fun _ chan hc => ?_, ?_⟩ hdid hl'
    · rw [hes] at hc
      cases hc
    · rw [hs₁] at ho'
      have ho' : b.onErrFuncSet = true := ho'
      rw [ho] at ho'
      cases ho'
    · rw [hes] at hc
      cases hc
    · exact hbh.of_log (by rw [hs₁]; rfl) (by rw [hs₁]; rfl) (by rw [hs₁]; rfl)

/-- The report of the error is booked by the phase that it comes in. -/
theorem ErrInv.errorResult {chan : Nat} {e : Err} {b : Session} (h : ErrInv cfg G s)
    (ht : s.takeTask = .done (.masterChannelError chan e, b))
    (hd : ErrorResult cfg (s.setSession b) e s') : ErrInv cfg G s' := by
  obtain ⟨hw, -, hb⟩ := Session.takeTask_done ht
  have hwb : b.w = .idle := by rw [hb]; exact hw
  have hpb := h.phases.takeTask ht rfl
  have hp := hpb.errorResult (by exact hwb) hd
  have hbh : b.Hosing := h.hosing.of_log (by rw [hb]) (by rw [hb]) (by rw [hb])
  cases hd with
  -- No channel, hence no error to report.
  | dropped hm =>
    have hm : b.masterChannel = none := hm
    refine ⟨hp, fun chan hc => ?_, h.preInit_takeTask ht (by rintro ⟨⟩), fun _ chan hc => ?_, hbh⟩
    · simp [Session.errorState, hm] at hc
    · simp [Session.errorState, hm] at hc
  -- The log-in fails with it and the channel goes.
  | logInFailed hm hset =>
    exact .of_noChannel hp rfl (hpb.logIn hset).1 (hosing_logInDone hbh.dropChannel)
  -- Kept until init_handlers(): no handler is set and no finisher engaged.
  | cached hm hset ho hpre =>
    refine ⟨hp, fun chan hc => .inr (.inl rfl), fun ho' => ?_, fun _ chan hc hf => ?_, hbh⟩
    · have ho' : b.onErrFuncSet = true := ho'
      have ho : b.onErrFuncSet = false := ho
      rw [ho] at ho'
      cases ho'
    · have hf : b.gracefulFinisher = some false := hf
      have hn : b.gracefulFinisher = none := hpb.no_finisher ho
      rw [hn] at hf
      cases hf
  | @inPeer hm ho b₁ b' h₁ h₂ =>
    -- In PEER state the session is hosed, by this error or by one before it.
    have hb₁ : b₁.Hosing ∧ b₁.peerStateErrCodeOrOk.isSome = true ∧
        b₁.gracefulFinisher = b.gracefulFinisher := by
      rcases h₁ with ⟨hp, rfl⟩ | ⟨hp, rfl⟩
      · exact ⟨hbh, hp, rfl⟩
      · refine ⟨hbh.emitHosed hp .masterChannelError [] rfl rfl (by simp) (by simp) ?_, rfl, rfl⟩
        rw [setSession_toSession, Session.emitHosed_w, hwb]
        rfl
    obtain ⟨hh₁, hp₁, hf₁⟩ := hb₁
    have hb' : b'.Hosing ∧ b'.peerStateErrCodeOrOk.isSome = true ∧
        b'.gracefulFinisher ≠ some false := by
      rcases h₂ with ⟨-, -, rfl⟩ | ⟨hreq, rfl⟩
      · exact ⟨hh₁.of_log rfl rfl rfl, hp₁, (by rintro ⟨⟩)⟩
      · refine ⟨hh₁, hp₁, fun hf => ?_⟩
        have hr := (hpb.finisher (by rw [setSession_toSession, ← hf₁, hf]; rfl)).2.1
        rw [hreq] at hr
        cases hr
    exact ⟨hp, fun _ _ => .inr (.inr (.inl hb'.2.1)), fun _ _ => .inr hb'.2.1,
      fun _ _ _ hf => absurd hf hb'.2.2, hb'.1⟩

/-- The session is hosed, and its finisher waits for nothing. -/
theorem ErrInv.of_hosed {b : Session} (hp : Phases cfg (s.setSession b))
    (he : b.peerStateErrCodeOrOk.isSome = true) (hf : b.gracefulFinisher ≠ some false)
    (hh : b.Hosing) : ErrInv cfg G (s.setSession b) :=
  ⟨hp, fun _ _ => .inr (.inr (.inl he)), fun _ _ => .inr he, fun _ _ _ h => absurd h hf, hh⟩

/-- The peer's `GracefulSessionEnd` hoses the session, unless it is hosed. -/
theorem ErrInv.gracefulSessionEnd {chan : Nat} {b b' : Session} (h : ErrInv cfg G s)
    (ht : s.takeTask = .done (.gracefulSessionEnd chan, b))
    (hd : b.onGracefulSessionEnd = .done b') : ErrInv cfg G (s.setSession b') := by
  obtain ⟨hw, -, hb⟩ := Session.takeTask_done ht
  have hwb : b.w.inOpenChannel = false := by rw [hb, hw]; rfl
  have hp : Phases cfg ((s.setSession b).setSession b') :=
    (h.phases.takeTask ht rfl).gracefulSessionEnd hd
  have hbh : (b.setFinisher true).Hosing :=
    h.hosing.of_log (by rw [hb]; rfl) (by rw [hb]; rfl) (by rw [hb]; rfl)
  obtain ⟨-, -, ⟨he, rfl⟩ | ⟨he, rfl⟩⟩ := Session.onGracefulSessionEnd_done hd
  · exact .of_hosed hp he nofun hbh
  · exact .of_hosed hp rfl nofun
      (hbh.emitHosed he .gracefulSessionEnd [] rfl rfl (by simp) (by simp) hwb)

/-- The error from before `init_handlers()` hoses it. -/
theorem ErrInv.preInitError {b : Session} (h : ErrInv cfg G s)
    (ht : s.takeTask = .done (.preInitError, b))
    (hd : (s.setSession b).preInitError = .done s') : ErrInv cfg G s' := by
  obtain ⟨hw, -, hb⟩ := Session.takeTask_done ht
  have hwb : b.w.inOpenChannel = false := by rw [hb, hw]; rfl
  have hp := (h.phases.takeTask ht rfl).preInitError hd
  have hbh : b.Hosing := h.hosing.of_log (by rw [hb]) (by rw [hb]) (by rw [hb])
  simp only [Server.preInitError] at hd
  split at hd
  · rename_i e hpre
    obtain ⟨b', hb', rfl⟩ := liftUnit_done hd
    -- with an error cached there is no finisher
    have hn : b.gracefulFinisher = none := by
      cases hf : b.gracefulFinisher with
      | none => rfl
      | some f =>
        have hn := (h.phases.finisher (by rw [hb] at hf; rw [hf]; rfl)).2.2
        have hpre : s.preInitErrCode = some e := hpre
        rw [hpre] at hn
        cases hn
    obtain ⟨-, ⟨he, rfl⟩ | ⟨he, rfl⟩⟩ := Session.hoseIfNot_done hb'
    · exact .of_hosed hp he (by rw [hn]; nofun) hbh
    · exact .of_hosed hp rfl
        (by rw [Session.emitHosed_gracefulFinisher, setSession_toSession, hn]; nofun)
        (hbh.emitHosed he .preInit [] rfl rfl (by simp) (by simp) hwb)
  · cases hd

/-- `init_handlers()` posts the report of such an error. -/
theorem ErrInv.initHandlersResult {passiveOpen : Bool} (h : ErrInv cfg G s)
    (ha : s.accepted = true) (hd : InitHandlersResult cfg s passiveOpen s') : ErrInv cfg G s' := by
  have hp := h.phases.initHandlersResult ha hd
  cases hd with
  | again ho =>
    have hrec : s.toSession.Quiet (s.record (.initHandlersReturned false)).toSession := .record rfl
    exact h.of_calm (.quiet hrec) (.setSession _)
  | cached ho hpre he =>
    have hn := h.phases.no_finisher ho
    refine ⟨hp, fun chan hc => .inr (.inl hpre), fun _ _ => .inl ?_, fun _ chan hc hf => ?_, ?_⟩
    · exact List.mem_append_right _ (List.mem_singleton.mpr rfl)
    · have hf : s.gracefulFinisher = some false := hf
      rw [hn] at hf
      cases hf
    · exact h.hosing.append [_] rfl rfl (by simp [Event.isOnErr, Event.fitsHosed])
        h.hosing.waiting
  | @plain ho hpre b₁ b₂ hdid h₂ =>
    have hn := h.phases.no_finisher ho
    have he : s.peerStateErrCodeOrOk = none := h.phases.notPeer ho
    -- whatever error the channel has emitted waits for thread W
    have hpend : ∀ chan, b₁.errorState = some (chan, true) → b₁.ErrorPending chan := by
      intro chan hc
      rcases hdid.channelError hc with ⟨hc, hpend, -⟩ | hpend | hp₁ | ⟨hf, -⟩
      · rcases h.reported chan hc with h | h | h | ⟨h, -⟩
        · exact hpend h
        · rw [hpre] at h; cases h
        · rw [he] at h; cases h
        · rw [ho] at h; cases h
      · exact hpend
      · rw [hdid.peerStateErrCodeOrOk_eq not_false] at hp₁
        have hp₁ : s.peerStateErrCodeOrOk.isSome = true := hp₁
        rw [he] at hp₁
        cases hp₁
      · have hf : s.gracefulFinisher.isSome = true := hf
        rw [hn] at hf
        cases hf
    have hh₀ : (s.setHandlers passiveOpen).Hosing := h.hosing.of_log rfl rfl rfl
    have hh₁ : b₁.Hosing := hdid.hosing hh₀
    have hp₁ : Phases cfg ((s.setHandlers passiveOpen).setSession b₁) :=
      (h.phases.setHandlers ha passiveOpen ho).of_did hdid (.setSession _)
    have key : ∀ b, Phases cfg ((s.setHandlers passiveOpen).setSession b) →
        b.errorState = b₁.errorState → b.queue = b₁.queue → b.Hosing →
        ErrInv cfg G ((s.setHandlers passiveOpen).setSession b) := by
      intro b hpb hes hq hh
      have hpend' : ∀ chan, b.errorState = some (chan, true) → b.ErrorPending chan := by
        intro chan hc
        obtain ⟨e, hm⟩ := hpend chan (hes ▸ hc)
        exact ⟨e, hq ▸ hm⟩
      refine ⟨hpb, fun chan hc => .inl (hpend' chan hc), fun _ h' => ?_,
        fun _ chan hc _ => .inl (hpend' chan hc), hh⟩
      have h' : s.preInitErrCode.isSome = true := h'
      rw [hpre] at h'
      cases h'
    have hi : ErrInv cfg G ((s.setHandlers passiveOpen).setSession b₂) := by
      rcases h₂ with ⟨hreq, ch, hm, hr⟩ | ⟨-, rfl⟩
      · have hf := key (b₁.setFinisher false) (hp₁.setFinisher hdid.onErrFuncSet hreq hpre) rfl rfl
          (hh₁.of_log rfl rfl rfl)
        exact hf.of_calm (hr.did hm) (.setSession _)
      · exact key _ hp₁ rfl rfl hh₁
    have hrec : b₂.Quiet (b₂.record (.initHandlersReturned true)) := .record rfl
    exact hi.of_calm (.quiet hrec) (.setSession _)

/-- **Errors stay on their way**, at every step; `hG` is what `G` stands for. -/
theorem ErrInv.step {a : Act} (h : ErrInv cfg G s)
    (hG : G → emitsFromCall s a = true → s.finisherServed = true)
    (hstep : step cfg s a = .done s') : ErrInv cfg G s' := by
  have hr := step_result h.hosing.waiting hstep
  have hp := h.phases.step hr
  cases hr with
  | common hd hl =>
    exact h.of_did hd hl fun hg hf => Session.mem_of_finisherServed (hG hg hf)
  -- init_handlers() only queues its task; every pending report is still queued.
  | wantsPeer ha passiveOpen =>
    have hmem : ∀ t ∈ s.queue, t ∈ (s.post (.initHandlers passiveOpen)).queue :=
      fun t ht => List.mem_append_left _ ht
    refine ⟨hp, fun chan hc => ?_, fun ho hpre => ?_, fun hg chan hc hf => ?_,
      h.hosing.of_log rfl rfl rfl⟩
    · exact (h.reported chan hc).imp_left fun ⟨e, he⟩ => ⟨e, hmem _ he⟩
    · exact (h.preInit ho hpre).imp_left (hmem _)
    · exact (h.finishable hg chan hc hf).imp (fun ⟨e, he⟩ => ⟨e, hmem _ he⟩)
        (fun ⟨c, he⟩ => ⟨c, hmem _ he⟩)
  | initChannels hw hd => exact h.logInDid (h.phases.sync hw) hd
  -- The destructor has started, so an error need not reach a handler that is set any more.
  | returned hdt hs' hl =>
    have hdn : s'.dtor ≠ .notStarted := by rw [hs']; exact nofun
    refine ⟨hp, fun chan hc => ?_, ?_, fun hg => ?_, ?_⟩
    · rw [hs'] at hc
      have hc : s.errorState = some (chan, true) := by split at hc <;> exact hc
      -- Where the error was before: queued, cached, stored or told.
      have hrep : s.ErrorPending chan ∨ s.preInitErrCode.isSome = true ∨
          s.peerStateErrCodeOrOk.isSome = true ∨ s.onErrFuncSet = true :=
        (h.reported chan hc).imp_right (Or.imp_right (Or.imp_right And.left))
      rw [hl.preInitErrCode]
      rcases hrep with hr | hr | hr | hr
      · exact .inl (by rw [hs']; split <;> exact hr)
      · exact .inr (.inl hr)
      · exact .inr (.inr (.inl (by rw [hs']; split <;> exact hr)))
      · exact .inr (.inr (.inr ⟨by rw [hs']; split <;> exact hr, hdn⟩))
    · rw [hs', hl.preInitErrCode]; split <;> exact h.preInit
    · rw [hs']; split <;> exact h.finishable hg
    · rw [hs']
      split
      · exact (hosing_logInDone h.hosing).of_log rfl rfl rfl
      · exact h.hosing.of_log rfl rfl rfl
  | @task t b _ ht hr =>
    cases hr with
    -- A task that is neither an error's report nor an end: taking it loses nothing.
    | plain hplain hdid hl =>
      have h₁ : ErrInv cfg G (s.setSession b) := by
        refine h.takeTask ht ?_ ?_ ?_ ?_
        · cases t <;> first | rfl | cases hplain
        · rintro chan e rfl; cases hplain
        · rintro rfl; cases hplain
        · rintro c rfl; cases hplain
      refine h₁.of_did hdid hl fun hg hf => Session.finisherServed_takeTask ht ?_ (hG hg hf)
      rintro c rfl
      cases hplain
    | logInReq hm hd => exact (h.takeTask ht rfl nofun nofun nofun).logInDid hm hd
    | acceptLogIn hd => exact h.acceptResult ht hd
    | masterChannelError hd => exact h.errorResult ht (onMasterChannelError_done hd)
    | gracefulSessionEnd hd => exact h.gracefulSessionEnd ht hd
    | @initHandlers passiveOpen o _ hd =>
      exact (h.takeTask ht rfl nofun nofun nofun).initHandlersResult
        (h.phases.accepted_of_initHandlers ht) (initHandlers_done hd)
    | preInitError hd => exact h.preInitError ht hd

end Server

end IpcSession
