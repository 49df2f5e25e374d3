import IpcSession.Base.Progress
import IpcSession.Client.Updates

namespace IpcSession

/-!
# The client can always go on

* `Client.Own` — the queue holds only tasks that a client handles.
* `Client.runTask_goes` — each of them can be run, whatever the state.
* `Client.FlushSafe` — while the destructor waits for the final flush, some step of the client's own
  threads is possible; `safe_of_run` proves it for runs in which `async_end_sending()` runs
  its handler.
-/

/-- The tasks that a client handles. -/
def Task.isClients : Task → Bool
  | logInReq .. => false
  | acceptLogIn => false
  | initHandlers _ => false
  | preInitError => false
  | _ => true

/-- What the user posts is a client's task. -/
theorem Task.isClients_of_isFromUser {t : Task} (h : t.isFromUser = true) : t.isClients = true := by
  cases t <;> first | rfl | cases h

/-- The results of the calls on the channel where it finds no new error. -/
def ClientOracle.noNewError (s : Session) : ClientOracle :=
  { send := s.answer, undo := s.answer, expect := s.answer }

namespace Client

variable {cfg : Cfg} {s s' : Client} {o : ClientOracle} {l : Option Mark} {L : Mark → Prop}

/-! ### The queue -/

/-- The client's queue and channel are a client's. -/
structure Own (s : Client) : Prop where
  tasks : ∀ t ∈ s.queue, t.isClients = true
  noLogInReq : ∀ ch, s.masterChannel = some ch → ch.expectsLogInReq = false
  worker : s.w.inInitChannels = false

/-- A fresh client has nothing of a server's. -/
theorem own_fresh (passiveOpen : Bool) : Own (fresh passiveOpen) where
  tasks := fun t ht => by cases ht
  noLogInReq := fun ch hm => by cases hm
  worker := rfl

namespace Own

/-- What is posted by a client is a client's task. -/
theorem isClients_of_posted (h : Own s) {t : Task} (ht : s.toSession.Posted t) :
    t.isClients = true := by
  cases ht with
  | fromUser ht => exact Task.isClients_of_isFromUser ht
  | openReq hm ho m =>
    rename_i h
    cases h <;> rfl
  | logInReq hm he m =>
    rw [h.noLogInReq _ hm] at he
    cases he
  | _ => rfl

/-- An update of the session. -/
theorem session {b : Session} (h : Own s) (hu : s.toSession.Update l b) : Own (s.setSession b) where
  tasks := fun t ht => by
    rcases hu.posted ht with ht | ht
    · exact h.tasks t ht
    · exact h.isClients_of_posted ht
  noLogInReq := fun ch' hm' => by
    obtain ⟨ch, hm, hsame⟩ := hu.channel hm'
    cases he : ch'.expectsLogInReq with
    | false => rfl
    | true => exact absurd (hsame.logInReq he) (by rw [h.noLogInReq ch hm]; nofun)
  worker := hu.inInitChannels h.worker

/-- An update of the client. -/
theorem update (h : Own s) (hu : Update s l s') : Own s' := by
  cases hu with
  | session hu => exact h.session hu
  | postConnect attempt subClass b =>
    refine ⟨fun t ht => ?_, h.noLogInReq, h.worker⟩
    rcases List.mem_append.mp ht with ht | ht
    · exact h.tasks t ht
    · rw [List.mem_singleton.mp ht]
      rfl
  | makeChannel hm =>
    refine ⟨h.tasks, fun ch hch => ?_, h.worker⟩
    cases hch
    rfl
  | dropChannel => exact ⟨h.tasks, nofun, h.worker⟩
  | awaitRsp hm hh id attempt =>
    refine ⟨h.tasks, fun ch hch => ?_, h.worker⟩
    have hno := h.noLogInReq _ hm
    cases hch
    exact hno
  | expectInit hm hh cap =>
    refine ⟨fun t ht => ?_, fun ch hch => ?_, h.worker⟩
    · rcases List.mem_append.mp ht with ht | ht
      · exact h.tasks t ht
      · obtain ⟨m, -, rfl⟩ := List.mem_map.mp ht
        rfl
    · have hno := h.noLogInReq _ hm
      cases hch
      exact hno
  | _ => exact ⟨h.tasks, h.noLogInReq, h.worker⟩

/-- And any number of them. -/
theorem updates (h : Own s) (hu : Updates L s s') : Own s' :=
  hu.keeps h fun _ _ _ ht _ hu => ht.update hu

/-- The task that thread W takes is a client's. -/
theorem taken {t : Task} {b : Session} (h : Own s) (hd : s.takeTask = .done (t, b)) :
    t.isClients = true ∧ Own (s.setSession b) := by
  obtain ⟨hw, hq, hb⟩ := Session.takeTask_done hd
  refine ⟨h.tasks t (by rw [hq]; exact List.mem_cons_self), ?_, ?_, ?_⟩
  · intro u hu
    exact h.tasks u (by rw [hq]; exact List.mem_cons_of_mem t hu)
  · rw [hb]
    exact h.noLogInReq
  · rw [hb]
    exact h.worker

/-- The destructor posts a client's tasks. -/
theorem posted {t : Task} {d : Dtor} (h : Own s) (ht : t.isClients = true) :
    Own (s.setSession ((s.toSession.post t).setDtor d)) := by
  refine ⟨fun u hu => ?_, h.noLogInReq, h.worker⟩
  rcases List.mem_append.mp hu with hu | hu
  · exact h.tasks u hu
  · rw [List.mem_singleton.mp hu]
    exact ht

/-- What the destructor does in thread U. -/
theorem dtorAct {b : Session} (h : Own s) (ha : s.toSession.DtorAct b) : Own (s.setSession b) := by
  cases ha with
  | startGraceful => exact h.posted rfl
  | startPlain => exact h.posted rfl
  | sendEnd => exact h.posted rfl
  | noFinisher => exact h.posted rfl
  | peerDone => exact h.posted rfl
  | flushDone => exact ⟨h.tasks, h.noLogInReq, rfl⟩
  | stop => exact ⟨h.tasks, h.noLogInReq, rfl⟩

/-- A task of the destructor in thread W. -/
theorem dtorTask {t : Task} {b : Session} (h : Own s) (ht : s.toSession.DtorTask t b) :
    Own (s.setSession b) := by
  cases ht with
  | finisherQuery => exact ⟨h.tasks, h.noLogInReq, h.worker⟩
  | sendEnd hf hu hw =>
    have h' := h.updates (Updates.session hu)
    exact ⟨h'.tasks, h'.noLogInReq, h'.worker⟩
  | noChannel hm => exact ⟨h.tasks, h.noLogInReq, h.worker⟩
  | flush hm willRun => exact ⟨h.tasks, h.noLogInReq, rfl⟩

/-- So the queue and the channel are a client's in every state. -/
theorem step {a : Act} (h : Own s) (hd : step cfg s a = .done s') : Own s' := by
  cases step_updates hd with
  | common hu => exact h.updates hu
  | dtorAct ha => exact h.dtorAct ha
  | dtorTask ht hb hf => exact (h.taken ht).2.dtorTask hb

end Own

/-! ### Running a task -/

/-- Session code with a result, run by a client. -/
theorem lift_goes {α : Type} {f : Session → Outcome Failure (α × Session)}
    {Q : α × Client → Prop} :
    (s.lift f).Goes Q ↔ (f s.toSession).Goes fun p => Q (p.1, s.setSession p.2) := by
  simp [lift]

/-- Session code without a result, run by a client. -/
theorem liftUnit_goes {f : Session → Outcome Failure Session} {Q : Client → Prop} :
    (s.liftUnit f).Goes Q ↔ (f s.toSession).Goes fun b => Q (s.setSession b) := by
  simp [liftUnit]

/-- The handler of an attempt can always be run. -/
theorem invokeConnOnDoneFunc_goes (s : Client) (e : ErrorCode) (hook : Hook) :
    (s.invokeConnOnDoneFunc e hook).Goes fun _ => True := by
  unfold invokeConnOnDoneFunc
  split
  · trivial
  · simp only []
    split <;> trivial

/-- An attempt can always fail. -/
theorem connectFailed_goes (s : Client) (e : Err) : (s.connectFailed e).Goes fun _ => True := by
  simp only [connectFailed, Outcome.goes_bind, Outcome.goes_check]
  intro _ _
  exact invokeConnOnDoneFunc_goes _ _ _

/-- It can always succeed. -/
theorem connectSucceeded_goes (s : Client) (hook : Hook) :
    (s.connectSucceeded cfg hook).Goes fun _ => True := by
  simp only [connectSucceeded, Outcome.goes_bind]
  refine (invokeConnOnDoneFunc_goes _ _ _).mono ?_
  intro s₁ _
  split
  · simp
  · trivial

/-- `async_connect()` can always run. -/
theorem asyncConnect_goes (s : Client) (attempt : Nat) (subClass : Bool) (b : Builder)
    (ho : o.send = s.answer) : (s.asyncConnect cfg attempt subClass b o).Goes fun _ => True := by
  simp only [asyncConnect]
  split
  · trivial
  · split
    · exact connectFailed_goes _ _
    · simp only [Outcome.goes_bind, liftUnit_goes, Session.setSrvNamespace, Outcome.goes_check]
      intro _ _ _
      simp only [Outcome.pure_eq, Outcome.goes_done]
      split
      · exact connectFailed_goes _ _
      · simp only [Outcome.goes_bind, Outcome.goes_check, lift_goes]
        intro hnone
        -- the channel is new: the request can be sent
        have hnone : s.masterChannel = none := Option.isNone_iff_eq_none.mp hnone
        have hok : o.send = .ok := by rw [ho]; simp [Session.answer, Session.channelHosed, hnone]
        refine (Session.send_goes ?_).mono ?_
        · exact hok
        rintro ⟨c, s₁⟩ -
        split
        · exact connectFailed_goes _ _
        · trivial
        · trivial

/-- The log-in response can always be read, which hoses nothing. -/
theorem readLogInRsp_goes (s : Client) (attempt : Nat) (m : Msg) :
    (s.readLogInRsp cfg attempt m).Goes fun p => p.2.channelHosed = s.channelHosed := by
  simp only [readLogInRsp]
  split
  · split
    · exact rfl
    · split
      · exact rfl
      · split
        · exact rfl
        · split
          · exact rfl
          · simp only [Outcome.goes_bind, liftUnit_goes, Session.setCliNamespace,
              Outcome.goes_check]
            intro _ _ _
            exact rfl
  · exact rfl

/-- Its handler can always run. -/
theorem onMasterChannelLogInRsp_goes (s : Client) (chan attempt : Nat) (m : Msg)
    (ho : o.expect = s.answer) :
    (s.onMasterChannelLogInRsp cfg chan m attempt o).Goes fun _ => True := by
  simp only [onMasterChannelLogInRsp, Outcome.goes_bind]
  refine (s.readLogInRsp_goes attempt m).mono ?_
  rintro ⟨res, s₁⟩ hs
  simp only [Outcome.goes_check]
  intro _ _
  have ho : o.expect = s₁.answer := ho.trans (Session.answer_eq_of_channelHosed hs).symm
  split
  · exact invokeConnOnDoneFunc_goes _ _ _
  · split
    · simp only [Outcome.goes_bind, Outcome.goes_check, lift_goes]
      intro _
      refine (Session.expectOpenChannelReqs_goes ho).mono ?_
      rintro ⟨ok, b⟩ -
      simp only []
      split
      · exact connectSucceeded_goes _ _
      · trivial
    · simp only [Outcome.goes_bind, Outcome.goes_check, lift_goes]
      intro _
      exact (Session.expectOpenChannelReqs_goes ho).mono fun _ _ => trivial

/-- A channel of the user's can always be made, or not, which hoses nothing. -/
theorem createChannelObj_goes (b : Session) (mqC2s mqS2c : SharedName)
    (hndl : Option NativeHandle) (active : Bool) (mqOpen : ErrorCode) :
    (b.createChannelObj cfg mqC2s mqS2c hndl active mqOpen).Goes
      fun p => p.2.channelHosed = b.channelHosed := by
  simp only [Session.createChannelObj, Outcome.goes_bind, Outcome.goes_check]
  intro _ _ _
  cases active <;> exact rfl

/-- The last init-channel can always be taken on. -/
theorem initChannelsComplete_goes (s : Client) (m : Msg) (cap : InitCapture) (chans : Channels)
    (hu : o.undo = s.answer) (he : o.expect = s.answer) (ho : o.send = s.answer) :
    (s.initChannelsComplete cfg m cap chans o).Goes fun _ => True := by
  simp only [initChannelsComplete, Outcome.goes_bind, lift_goes]
  refine (Session.undoExpectOpenChannelReqs_goes hu).mono ?_
  rintro ⟨ok, b₁⟩ h₁
  simp only []
  split
  · trivial
  · simp only [Outcome.goes_bind, lift_goes]
    have ha₁ := Session.answer_eq_of_channelHosed h₁
    refine (Session.expectOpenChannelReqs_goes (he.trans ha₁.symm)).mono ?_
    rintro ⟨ok, b₂⟩ h₂
    simp only []
    split
    · trivial
    · simp only [Outcome.goes_bind, lift_goes]
      have ha₂ := Session.answer_eq_of_channelHosed (h₂.trans h₁)
      refine (Session.send_goes (ho.trans ha₂.symm)).mono ?_
      rintro ⟨c, b₃⟩ -
      cases c with
      | refused => trivial
      | failed e => exact invokeConnOnDoneFunc_goes _ _ _
      | ok id =>
        simp only [emitInitChannels, Outcome.goes_bind, Outcome.goes_check]
        intro _ _ _
        exact connectSucceeded_goes _ _

/-- The handler of an init-channel can always run. -/
theorem onMasterChannelInitOpenChannel_goes (s : Client) (m : Msg) (cap : InitCapture)
    (hu : o.undo = s.answer) (he : o.expect = s.answer) (ho : o.send = s.answer) :
    (s.onMasterChannelInitOpenChannel cfg m cap o).Goes fun _ => True := by
  simp only [onMasterChannelInitOpenChannel, Outcome.goes_bind, Outcome.goes_check]
  intro _ _
  split
  · simp only [Outcome.goes_bind, lift_goes]
    refine (createChannelObj_goes (s.record (.initOpenChannelRan m.id)).toSession _ _ _ _ _).mono ?_
    rintro ⟨ch, b⟩ h₁
    have h₁ : b.channelHosed = s.channelHosed := h₁
    simp only [Outcome.goes_check]
    intro _
    split
    · trivial
    · have ha := Session.answer_eq_of_channelHosed h₁
      exact initChannelsComplete_goes _ _ _ _ (hu.trans ha.symm) (he.trans ha.symm)
        (ho.trans ha.symm)
  · trivial

/-- So can the report of an error. -/
theorem onMasterChannelError_goes (s : Client) (chan : Nat) (e : Err) :
    (s.onMasterChannelError cfg chan e).Goes fun _ => True := by
  unfold onMasterChannelError
  split
  · trivial
  · split
    · trivial
    · simp only [Outcome.goes_bind, Outcome.goes_check]
      intro _
      exact invokeConnOnDoneFunc_goes _ _ _
    · rw [liftUnit_goes]
      exact Session.onMasterChannelErrorPeer_goes _ _

/-- So can the handler of the server's request for a channel. -/
theorem onMasterChannelOpenChannelReq_goes (b : Session) (m : Msg) (ho : o.send = b.answer) :
    (onMasterChannelOpenChannelReq cfg m o b).Goes fun _ => True := by
  simp only [onMasterChannelOpenChannelReq, Outcome.goes_bind]
  refine (Session.hosed_goes _).mono ?_
  rintro h -
  split
  · trivial
  · simp only [Outcome.goes_bind, Outcome.goes_check]
    intro _
    have hprep : (prepare cfg m o.mqOpen (b.record (.openChannelReqRan m.id))).Goes
        fun p => p.2.channelHosed = b.channelHosed := by
      unfold prepare
      split
      · split
        · simp only [Outcome.goes_bind]
          exact (createChannelObj_goes _ _ _ _ _ _).mono fun _ h => h
        · trivial
      · exact rfl
    refine hprep.mono ?_
    rintro ⟨p, b₁⟩ h₁
    have ha₁ := Session.answer_eq_of_channelHosed h₁
    exact Session.openChannelReqRespond_goes (ho.trans ha₁.symm)

/-- The server's answer to `open_channel()` can always be read. -/
theorem openChannelRsp_goes (cfg : Cfg) (call req : Nat) (mqOpen : ErrorCode) (m : Msg)
    (b : Session) :
    (openChannelRsp cfg call req mqOpen m b).Goes fun _ => True := by
  unfold openChannelRsp
  split
  · simp only [Outcome.goes_bind]
    exact (createChannelObj_goes _ _ _ _ _ _).mono fun _ _ => trivial
  · trivial
  · trivial
  · trivial
  · trivial

/-- **A client can run each of its tasks.** -/
theorem runTask_goes (cfg : Cfg) (s : Client) {t : Task} (ht : t.isClients = true) :
    (s.runTask cfg (.noNewError s.toSession) t).Goes fun _ => True := by
  cases t with
  | masterChannelError chan e => exact onMasterChannelError_goes _ _ _
  | logInRsp chan m attempt => exact onMasterChannelLogInRsp_goes _ _ _ _ rfl
  | initOpenChannel chan m cap => exact onMasterChannelInitOpenChannel_goes _ _ _ rfl rfl rfl
  | openChannelReq chan m => exact liftUnit_goes.mpr (onMasterChannelOpenChannelReq_goes _ _ rfl)
  | gracefulSessionEnd chan => exact liftUnit_goes.mpr (Session.onGracefulSessionEnd_goes _)
  | asyncConnect attempt subClass b =>
    show (s.asyncConnect cfg attempt subClass b (.noNewError s.toSession)).Goes fun _ => True
    exact asyncConnect_goes s attempt subClass b rfl
  | mdtBuilder call mdt => trivial
  | openChannel call b => exact liftUnit_goes.mpr (Session.openChannelBody_goes rfl)
  | sessionToken =>
    simp only [runTask, sessionToken]
    split
    · trivial
    · exact liftUnit_goes.mpr (Session.sessionToken_goes _)
  | dtorFinisherQuery => trivial
  | dtorSendEnd => exact liftUnit_goes.mpr (Session.dtorSendEnd_goes rfl)
  | dtorFlush => trivial
  | logInReq => cases ht
  | acceptLogIn => cases ht
  | initHandlers => cases ht
  | preInitError => cases ht

/-! ### While the destructor waits for the final flush -/

/-- `Session.flushRuns`, for the step that the client is about to take. -/
def flushRuns (s : Client) : Act → Bool
  | .run o => s.toSession.flushRuns o.flushRuns
  | _ => true

/-- A step of the client's own threads in which the channel finds no new error, or the handler of
    the final flush. -/
def Act.isLocal (s : Client) : Act → Bool
  | .run o => o.send = s.answer && o.undo = s.answer && o.expect = s.answer
  | .syncReturn (.refused _) _ => s.channelHosed
  | .syncReturn (.failed _) _ => false
  | .syncReturn .. => true
  | .dtorStep => true
  | .flushDone => true
  | _ => false

/-- Some such step is enabled. -/
def LocalStep (cfg : Cfg) (s : Client) : Prop :=
  ∃ a : Act, a.isLocal s = true ∧ step cfg s a ≠ .disabled

/-- The destructor's last part, in this state. -/
structure FlushSafe (cfg : Cfg) (s : Client) : Prop where
  /-- Once the graceful-finish phase has returned, and until the destructor does, no thread is
      stuck. -/
  progress : s.dtor = .queried false ∨ s.dtor = .flushing ∨ s.dtor = .flushed → LocalStep cfg s
  /-- The promise is set while thread W waits for it, which it then no longer does. -/
  promise : ∀ s', step cfg s .flushDone = .done s' →
    s.w = .flushing true ∧ s.dtor = .flushing ∧ s'.w = .idle ∧ s'.dtor = .flushed
  /-- Thread W is joined for good. -/
  joined : s.dtor.isPastStop = true →
    (∀ o, step cfg s (.run o) = .disabled) ∧ (∀ r e, step cfg s (.syncReturn r e) = .disabled) ∧
      ∀ a s', step cfg s a = .done s' → s'.dtor.isPastStop = true

/-- What a client keeps on its way there. -/
structure FlushInv (s : Client) : Prop where
  own : Own s
  flushing : s.toSession.Flushing

/-- The destructor has not started. -/
theorem flushInv_fresh (passiveOpen : Bool) : FlushInv (fresh passiveOpen) :=
  ⟨own_fresh passiveOpen, rfl, rfl⟩

/-- An update leaves the destructor's flush as it is. -/
theorem Update.flushing (h : Update s l s') (hf : s.toSession.Flushing) :
    s'.toSession.Flushing := by
  cases h with
  | session hu => exact hf.update hu
  | postConnect attempt subClass b =>
    exact hf.keep (Session.dtorTasks_post rfl) rfl (.inl rfl)
  | expectInit hm hh cap =>
    rename_i ch
    refine hf.keep ?_ rfl (.inl rfl)
    have hnone : ∀ l : List Msg, (l.map (OpenReqHandler.task (.initOpenChannel cap) ch.id)).filter
        Task.isDtor = [] := by
      intro l
      simp [Session.OpenReqHandler.task_isDtor]
    show (s.queue ++ _).filter Task.isDtor = _
    rw [List.filter_append, hnone, List.append_nil]
    rfl
  | _ => exact ⟨hf.tasks, hf.worker⟩

/-- Every step in which the final flush runs its handler keeps the invariant. -/
theorem FlushInv.step {a : Act} (h : FlushInv s) (hg : flushRuns s a = true)
    (hd : step cfg s a = .done s') : FlushInv s' := by
  refine ⟨h.own.step hd, ?_⟩
  cases step_updates hd with
  | common hu => exact hu.keeps h.flushing fun _ _ _ ht _ hu => hu.flushing ht
  | dtorAct ha => exact h.flushing.dtorAct ha
  | dtorTask ht hb hf =>
    exact h.flushing.dtorTask ht hb (Session.dtorFlush_of_flushRuns hg ht hf)

/-- A step of the client leaves the destructor where it is, or moves it on. -/
theorem step_dtor {a : Act} (hd : step cfg s a = .done s') :
    s'.dtor = s.dtor ∨ s.toSession.DtorAct s'.toSession ∨
      ∃ t b, s.takeTask = .done (t, b) ∧ t.isDtor = true := by
  cases step_updates hd with
  | common hu =>
    refine .inl (hu.keeps (P := fun t => t.dtor = s.dtor) rfl fun t _ t' ht _ hu => ?_)
    cases hu with
    | session hu => exact hu.dtor.trans ht
    | _ => exact ht
  | dtorAct ha => exact .inr (.inl ha)
  | dtorTask ht hb hf =>
    refine .inr (.inr ⟨_, _, ht, ?_⟩)
    cases hb <;> rfl

/-- Once thread W is joined, it stays so. -/
theorem FlushInv.joined {a : Act} (h : FlushInv s) (hp : s.dtor.isPastStop = true)
    (hd : Client.step cfg s a = .done s') : s'.dtor.isPastStop = true := by
  rcases step_dtor hd with hdt | ha | ⟨t, b, ht, -⟩
  · rw [hdt]; exact hp
  · exact ha.isPastStop h.flushing hp
  · have hw := (Session.takeTask_done ht).1
    rw [h.flushing.stopped hp] at hw
    cases hw

/-- Thread W can run its first task with answers that bring no new error. -/
theorem run_ne_disabled (h : Own s) (hw : s.w = .idle) {t : Task} {ts : List Task}
    (hq : s.queue = t :: ts) : step cfg s (.run (.noNewError s.toSession)) ≠ .disabled := by
  have ht : t.isClients = true := h.tasks t (by rw [hq]; exact List.mem_cons_self)
  have hgo := runTask_goes cfg (s.setSession { s.toSession with queue := ts }) ht
  simp only [step, lift, Session.takeTask_goes hw hq, Outcome.done_bind, Outcome.pure_eq]
  exact hgo.ne_disabled

/-- In the flush some step that needs neither the peer nor the user is enabled. -/
theorem FlushInv.progress (h : FlushInv s) (hd : s.dtor = .flushing ∨ s.dtor = .flushed) :
    LocalStep cfg s := by
  cases h.flushing.waits hd with
  | forFlush hd hw =>
    refine ⟨.flushDone, rfl, Outcome.Goes.ne_disabled (Q := fun _ => True) ?_⟩
    simp [Client.step, liftUnit_goes, Session.dtorFlushDone, hw]
  | forTask hw t ts hq =>
    refine ⟨.run (.noNewError s.toSession), ?_, run_ne_disabled h.own hw hq⟩
    simp [Act.isLocal, ClientOracle.noNewError]
  | forStop hd hw =>
    refine ⟨.dtorStep, rfl, Outcome.Goes.ne_disabled (Q := fun _ => True) ?_⟩
    simp [Client.step, liftUnit_goes, Session.dtorStep, hd, hw]
  | forResponse k req rsp hw =>
    have hk : s.w.inInitChannels = false := h.own.worker
    cases k with
    | initChannels => rw [hw] at hk; cases hk
    | openChannel call opened =>
      refine ⟨.syncReturn (Session.syncAnswer rsp) none, ?_, ?_⟩
      · cases rsp <;> rfl
      · have hgo := Session.openChannelSyncReturn_goes (openChannelRsp_goes cfg call req none)
          call req rsp s.toSession
        simp only [Client.step, hw]
        exact ((liftUnit_goes (Q := fun _ => True)).mpr hgo).ne_disabled

/-- **A flush whose handler never runs leaves all threads stuck.** -/
theorem not_localStep_of_flushing (hd : s.dtor = .flushing) (hw : s.w = .flushing false) :
    ¬ LocalStep cfg s := by
  rintro ⟨a, hlocal, hstep⟩
  apply hstep
  cases a with
  | run o => simp [step, lift, Session.takeTask, hw, Outcome.require]
  | syncReturn r e => simp [step, hw]
  | dtorStep => simp [step, liftUnit, Session.dtorStep, hd]
  | flushDone => simp [step, liftUnit, Session.dtorFlushDone, hw, Outcome.require]
  | _ => cases hlocal

/-- The invariant says all that is claimed of the flush. -/
theorem FlushInv.safe (h : FlushInv s) : FlushSafe cfg s where
  progress := fun hd => by
    rcases hd with hd | hd
    · exact ⟨.dtorStep, rfl, by simp [Client.step, liftUnit, Session.dtorStep, hd]⟩
    · exact h.progress hd
  promise := fun s' hd => by
    obtain ⟨b, hb, rfl⟩ := liftUnit_done hd
    simp [Session.dtorFlushDone] at hb
    obtain ⟨hw, rfl⟩ := hb
    exact ⟨hw, h.flushing.flushing_of_worker hw, rfl, rfl⟩
  joined := fun hp => by
    have hw := h.flushing.stopped hp
    refine ⟨fun o => ?_, fun r e => ?_, fun a s' hd => h.joined hp hd⟩
    · simp [Client.step, lift, Session.takeTask, hw, Outcome.require]
    · simp [Client.step, hw]

/-- The handler of the final flush moves the destructor on, and no step moves it back. -/
theorem FlushInv.flushOver {a : Act} (h : FlushInv s) (hd : Client.step cfg s a = .done s') :
    s.flushOver.toNat + (decide (a = .flushDone)).toNat ≤ s'.flushOver.toNat := by
  by_cases ha : a = .flushDone
  · subst ha
    obtain ⟨hw, hdt, -, hdt'⟩ := (FlushInv.safe h).promise s' hd
    simp [Session.flushOver, hdt, hdt', Dtor.isPastStop]
  · have hmono : s.flushOver = true → s'.flushOver = true := by
      intro ho
      rcases step_dtor hd with hdt | hact | ⟨t, b, ht, hdtask⟩
      · rw [Session.flushOver, hdt]; exact ho
      · exact hact.flushOver ho
      · rw [h.flushing.flushOver_of_taken hdtask ht] at ho
        cases ho
    simp only [ha, decide_false, Bool.toNat_false, Nat.add_zero]
    cases ho : s.flushOver with
    | false => exact Nat.zero_le _
    | true => exact Nat.le_of_eq (congrArg Bool.toNat (hmono ho).symm)

/-- So it holds along a run, in which the flush is over once at most. -/
theorem safe_of_run {passiveOpen : Bool} {as : List Act}
    (h : Machine.run (Machine.guarded flushRuns (step cfg)) (fresh passiveOpen) as = .done s) :
    FlushSafe cfg s ∧ as.count .flushDone ≤ 1 := by
  have hinv : FlushInv s := Machine.Reaches.invariant (Machine.Reaches.of_run as h)
    (flushInv_fresh passiveOpen) fun _ _ _ hi _ hd =>
      hi.step (Machine.guarded_done hd).1 (Machine.guarded_done hd).2
  refine ⟨hinv.safe, ?_⟩
  have hcount := Machine.count_le_of_run (c := fun s => s.flushOver.toNat)
    (p := fun a => decide (a = Act.flushDone)) h (flushInv_fresh passiveOpen)
    fun _ _ _ hi hd => ⟨hi.step (Machine.guarded_done hd).1 (Machine.guarded_done hd).2,
      hi.flushOver (Machine.guarded_done hd).2⟩
  have hle : s.flushOver.toNat ≤ 1 := Bool.toNat_le _
  have heq : as.count .flushDone = as.countP fun a => decide (a = Act.flushDone) := by
    simp [List.count, BEq.beq]
  rw [heq]
  omega

end Client

end IpcSession
