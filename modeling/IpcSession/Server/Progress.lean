import IpcSession.Base.Progress
import IpcSession.Server.Routing
import IpcSession.Server.Updates

namespace IpcSession

/-!
# The server can always go on

* `Server.Own` — the queue holds only tasks that a server handles.
* `Server.runTask_goes` — each of them can be run, whatever the state.
* `Server.FlushSafe` — while the destructor waits for the final flush, some step of the server's own
  threads is possible, unless thread W waits for the client's answer to the last init-channel.
-/

/-- The tasks that a server handles. -/
def Task.isServers : Task → Bool
  | logInRsp .. => false
  | initOpenChannel .. => false
  | asyncConnect .. => false
  | _ => true

/-- What the user posts is a server's task. -/
theorem Task.isServers_of_isFromUser {t : Task} (h : t.isFromUser = true) : t.isServers = true := by
  cases t <;> first | rfl | cases h

/-- So is what the peer's messages bring in PEER state. -/
theorem Task.isServers_of_isToPeer {t : Task} (h : t.isToPeer = true) : t.isServers = true := by
  cases t <;> first | rfl | cases h

/-- The results of the calls on the channel where it finds no new error. -/
def ServerOracle.noNewError (s : Session) : ServerOracle :=
  { expect := s.answer, expectEnd := s.answer, send := s.answer,
    init := [{ send := s.answer }] }

namespace Server

variable {cfg : Cfg} {s s' : Server} {o : ServerOracle} {l : Option Mark} {L : Mark → Prop}

/-! ### The queue -/

/-- The server's queue and channel are a server's. -/
structure Own (s : Server) : Prop where
  tasks : ∀ t ∈ s.queue, t.isServers = true
  noLogInRsp : ∀ ch, s.masterChannel = some ch → ch.expectsLogInRsp = none
  openReq : ∀ ch h, s.masterChannel = some ch → ch.openReqHandler = some h → h = .openChannelReq

/-- A session as it is made has nothing of a client's. -/
theorem own_constructed (srvNamespace : SharedName) : Own (constructed srvNamespace) where
  tasks := fun t ht => by cases ht
  noLogInRsp := fun ch hm => by cases hm
  openReq := fun ch h hm => by cases hm

/-- Nor has one whose log-in has just been asked for. -/
theorem own_fresh (srvNamespace : SharedName) (out : OutArgs) : Own (fresh srvNamespace out) where
  tasks := fun t ht => by rw [List.mem_singleton.mp ht]; rfl
  noLogInRsp := fun ch hm => by cases hm
  openReq := fun ch h hm => by cases hm

namespace Own

/-- What is posted by a server is a server's task. -/
theorem isServers_of_posted (h : Own s) {t : Task} (ht : s.toSession.Posted t) :
    t.isServers = true := by
  cases ht with
  | fromUser ht => exact Task.isServers_of_isFromUser ht
  | openReq hm ho m =>
    rw [h.openReq _ _ hm ho]
    rfl
  | logInRsp hm he m =>
    rw [h.noLogInRsp _ hm] at he
    cases he
  | _ => rfl

/-- An update of the session. -/
theorem session {b : Session} (h : Own s) (hu : s.toSession.Update l b) : Own (s.setSession b) where
  tasks := fun t ht => by
    rcases hu.posted ht with ht | ht
    · exact h.tasks t ht
    · exact h.isServers_of_posted ht
  noLogInRsp := fun ch' hm' => by
    obtain ⟨ch, hm, hsame⟩ := hu.channel hm'
    cases he : ch'.expectsLogInRsp with
    | none => rfl
    | some p =>
      have he' := hsame.logInRsp p he
      rw [h.noLogInRsp ch hm] at he'
      cases he'
  openReq := fun ch' hd hm' ho' => by
    obtain ⟨ch, hm, hsame⟩ := hu.channel hm'
    rcases hsame.openReq hd ho' with hd | ho
    · exact hd
    · exact h.openReq ch hd hm ho

/-- The same queue and channel. -/
theorem of_same (h : Own s) (hq : s'.queue = s.queue) (hm : s'.masterChannel = s.masterChannel) :
    Own s' :=
  ⟨by rw [hq]; exact h.tasks, by rw [hm]; exact h.noLogInRsp, by rw [hm]; exact h.openReq⟩

/-- A task of the server's own is posted. -/
theorem append (h : Own s) {t : Task} (hq : s'.queue = s.queue ++ [t]) (ht : t.isServers = true)
    (hm : s'.masterChannel = s.masterChannel) : Own s' := by
  refine ⟨fun u hu => ?_, by rw [hm]; exact h.noLogInRsp, by rw [hm]; exact h.openReq⟩
  rw [hq] at hu
  rcases List.mem_append.mp hu with hu | hu
  · exact h.tasks u hu
  · rw [List.mem_singleton.mp hu]
    exact ht

/-- An update of the server. -/
theorem update (h : Own s) (hu : Update cfg s l s') : Own s' := by
  cases hu with
  | session hu => exact h.session hu
  | post ht ha => exact h.append rfl (Task.isServers_of_isToPeer ht) rfl
  | mqs hn r =>
    obtain ⟨es, made, -, hs⟩ := makeChannelMqs_tried cfg r s
    rw [hs]
    exact h.of_same rfl rfl
  | dropChannel =>
    refine ⟨h.tasks, fun ch hm => ?_, fun ch hd hm => ?_⟩
    · cases hm
    · cases hm
  | logInDone hn hd =>
    obtain ⟨-, rfl⟩ := logInDone_done hd
    exact h.of_same rfl rfl
  | _ => exact h.of_same rfl rfl

/-- And any number of them. -/
theorem updates (h : Own s) (hu : Updates cfg L s s') : Own s' :=
  hu.keeps h fun _ _ _ ht _ hu => ht.update hu

/-- A task leaves the queue. -/
theorem taken {t : Task} {b : Session} (h : Own s) (hd : s.takeTask = .done (t, b)) :
    Own (s.setSession b) := by
  obtain ⟨hw, hq, hb⟩ := Session.takeTask_done hd
  refine ⟨fun u hu => h.tasks u (by rw [hq]; exact List.mem_cons_of_mem t hu), ?_, ?_⟩
  · rw [hb]
    exact h.noLogInRsp
  · rw [hb]
    exact h.openReq

/-- The log-in starts, and expects its request. -/
theorem acceptLogIn (h : Own s) (hd : s.acceptLogIn o = .done s') : Own s' := by
  have hacc := acceptLogIn_session hd
  generalize hb : s'.toSession = b at hacc
  cases hacc with
  | failed e out => exact h.of_same (by rw [hb]; rfl) (by rw [hb]; rfl)
  | refused e =>
    have h₁ : Own (s.setSession (s.setChannel (.fresh 0 true))) :=
      ⟨h.tasks, fun ch hm => (by cases hm; rfl), fun ch hd hm ho => (by cases hm; cases ho)⟩
    have h₂ := h₁.session (.emitError rfl rfl e)
    exact h₂.of_same (by rw [hb]; rfl) (by rw [hb]; rfl)
  | expecting =>
    refine ⟨by rw [hb]; exact h.tasks, fun ch hm => ?_, fun ch hd hm ho => ?_⟩
    · rw [hb] at hm; cases hm; rfl
    · rw [hb] at hm; cases hm; cases ho

/-- The request is handled. -/
theorem onLogInReq (h : Own s) {m : Msg} (hw : s.w.isServing = true)
    (hd : s.onLogInReq cfg m o = .done s') : Own s' := by
  obtain ⟨r, e, s₁, -, hc, hu, -⟩ := onLogInReq_updates hw hd
  have h₁ : Own s₁ := by
    cases checkLogInReq_done hc with
    | rejected e hb hl => exact h.of_same (by rw [hb]) (by rw [hb])
    | passed hn hname hb hl => exact h.of_same (by rw [hb]; rfl) (by rw [hb]; rfl)
  exact h₁.updates hu

/-- What the destructor does in thread U. -/
theorem dtorAct {b : Session} (h : Own s) (ha : s.toSession.DtorAct b) : Own (s.setSession b) := by
  cases ha with
  | startGraceful => exact h.append rfl rfl rfl
  | startPlain => exact h.append rfl rfl rfl
  | sendEnd => exact h.append rfl rfl rfl
  | noFinisher => exact h.append rfl rfl rfl
  | peerDone => exact h.append rfl rfl rfl
  | flushDone => exact h.of_same rfl rfl
  | stop => exact h.of_same rfl rfl

/-- A task of the destructor in thread W. -/
theorem dtorTask {t : Task} {b : Session} (h : Own s) (ht : s.toSession.DtorTask t b) :
    Own (s.setSession b) := by
  cases ht with
  | finisherQuery => exact h.of_same rfl rfl
  | sendEnd hf hu hw =>
    rename_i b₁
    have h₁ : Own (s.setSession b₁) := hu.keeps (P := fun b => Own (s.setSession b)) h
      fun _ _ _ hb _ hu => hb.session hu
    exact h₁.of_same rfl rfl
  | noChannel hm => exact h.of_same rfl rfl
  | flush hm willRun => exact h.of_same rfl rfl

/-- So the queue and the channel are a server's in every state. -/
theorem step {a : Act} (h : Own s) (hp : Phases cfg s) (hn : Named s)
    (hd : step cfg s a = .done s') : Own s' := by
  cases step_updates hp hn hd with
  | common hu => exact h.updates hu
  | acceptLogIn ht hd => exact (h.taken ht).acceptLogIn hd
  | @logInReq o b chan m s₁ ht hd =>
    obtain ⟨hw, -, hb⟩ := Session.takeTask_done ht
    have hwb : b.w.isServing = true := by rw [hb, hw]; rfl
    exact (h.taken ht).onLogInReq hwb hd
  | dtorAct ha => exact h.dtorAct ha
  | dtorTask ht hb hf => exact (h.taken ht).dtorTask hb
  | returned hdt hs =>
    rcases hs with rfl | rfl
    · exact h.of_same rfl rfl
    · exact h.of_same rfl rfl

end Own

/-! ### Running a task -/

/-- Session code with a result, run by a server. -/
theorem lift_goes {α : Type} {f : Session → Outcome Failure (α × Session)}
    {Q : α × Server → Prop} :
    (s.lift f).Goes Q ↔ (f s.toSession).Goes fun p => Q (p.1, s.setSession p.2) := by
  simp [lift]

/-- Session code without a result, run by a server. -/
theorem liftUnit_goes {f : Session → Outcome Failure Session} {Q : Server → Prop} :
    (s.liftUnit f).Goes Q ↔ (f s.toSession).Goes fun b => Q (s.setSession b) := by
  simp [liftUnit]

/-- A log-in can always end. -/
theorem logInDone_goes (s : Server) (e : ErrorCode) (site : LogInSite) :
    (s.logInDone e site).Goes fun _ => True := by
  simp [logInDone]

/-- It can always start. -/
theorem acceptLogIn_goes (s : Server) (ho : o.expect = s.answer) :
    (s.acceptLogIn o).Goes fun _ => True := by
  simp only [acceptLogIn]
  split
  · exact logInDone_goes _ _ _
  · exact logInDone_goes _ _ _
  · simp only [Outcome.goes_bind, Outcome.goes_check, lift_goes]
    intro hnone
    -- the channel is new: the request can be expected
    have hnone : s.masterChannel = none := Option.isNone_iff_eq_none.mp hnone
    have hok : o.expect = .ok := by rw [ho]; simp [Session.answer, Session.channelHosed, hnone]
    refine (Session.callNoError_goes ?_).mono ?_
    · exact hok
    · rintro ⟨ok, b⟩ -
      split <;> trivial

/-- Its request can always be checked, which hoses nothing. -/
theorem checkLogInReq_goes (s : Server) (r : LogInReq) (o : ServerOracle) :
    (s.checkLogInReq cfg r o).Goes fun p => p.2.channelHosed = s.channelHosed := by
  simp only [checkLogInReq]
  split
  · exact rfl
  · split
    · exact rfl
    · split
      · exact rfl
      · split
        · exact rfl
        · split
          · trivial
          · exact rfl
          · split
            · exact rfl
            · simp only [Outcome.goes_bind, Outcome.goes_check]
              intro _
              split
              · exact rfl
              · simp only [Outcome.goes_bind, liftUnit_goes, Session.setCliNamespace,
                  Outcome.goes_check]
                intro _ _ _
                exact rfl

/-- A socket pair can always be made, or not. -/
theorem makeSockStm_goes (s : Server) (r : ResourceOracle) :
    (s.makeSockStm r).Goes fun _ => True := by
  simp only [makeSockStm]
  split <;> simp [assertPeerCreds]

/-- `create_channel_and_resources()` comes to a result, or fails its assertion. -/
theorem createChannelAndResources_ne_disabled (s : Server) (active : Bool) (r : ResourceOracle) :
    s.createChannelAndResources cfg active r ≠ .disabled := by
  refine Outcome.Goes.ne_disabled (Q := fun _ => True) ?_
  simp only [createChannelAndResources]
  split
  · split
    · trivial
    · simp only [constructMqsChannel, Outcome.goes_bind]
      refine Outcome.Goes.mono (Q := fun _ => True) ?_ fun _ _ => ?_
      · split
        · exact makeSockStm_goes _ r
        · trivial
      · split <;> trivial
  · simp only [constructSockChannel, Outcome.goes_bind]
    refine (makeSockStm_goes _ r).mono fun _ _ => ?_
    split <;> trivial

/-- Making the resources leaves the channel as it is. -/
theorem createChannelAndResources_goes (s : Server) (active : Bool) (r : ResourceOracle) :
    (s.createChannelAndResources cfg active r).Goes fun p =>
      p.2.channelHosed = s.channelHosed := by
  cases hd : s.createChannelAndResources cfg active r with
  | done p =>
    obtain ⟨made, s₁⟩ := p
    obtain ⟨es, ⟨n, m, hs⟩, -⟩ := (createChannelAndResources_made hd).session
    simp only [Outcome.goes_done, hs]
    rfl
  | disabled => exact absurd hd (createChannelAndResources_ne_disabled s active r)
  | failed e => trivial

/-- Sizing a vector comes to a result, or throws. -/
theorem reserve_goes (n : Nat) (mem : Bool) : (reserve cfg n mem).Goes fun _ => True := by
  simp [reserve]

/-- On a channel that is not hosed, the init-channel loop goes through. -/
theorem initChannelsLoop_goes (nByCli : Nat) (mdt : Mdt) (k : Nat) (os : List InitOracle)
    (chans : Channels) (s : Server) (hh : s.channelHosed = false) (hos : ∀ o ∈ os, o.send = .ok) :
    (initChannelsLoop cfg nByCli mdt k os chans s).Goes fun _ => True := by
  induction k generalizing os chans s with
  | zero => trivial
  | succ k ih =>
    have hok : (os.headD {}).send = .ok := by
      cases os with
      | nil => rfl
      | cons o os => exact hos o List.mem_cons_self
    simp only [initChannelsLoop, Outcome.goes_bind]
    refine (createChannelAndResources_goes s true (os.headD {}).res).mono ?_
    rintro ⟨made, s₁⟩ hmade
    have hmade : s₁.channelHosed = s.channelHosed := hmade
    split
    · exact logInDone_goes _ _ _
    · simp only [Outcome.goes_bind, lift_goes]
      have hans : (os.headD {}).send = s₁.answer := by
        rw [hok, Session.answer, hmade, hh]
        rfl
      refine (Session.send_goes hans).mono ?_
      rintro ⟨c, b⟩ ⟨hb, -⟩
      have hbh : b.channelHosed = false := hb.trans (hmade.trans hh)
      cases c with
      | refused => trivial
      | failed e => exact logInDone_goes _ _ _
      | ok id =>
        simp only []
        split
        · trivial
        · exact ih _ _ _ hbh fun o ho => hos o (List.mem_of_mem_tail ho)

/-- The request can always be handled. -/
theorem onLogInReq_goes (s : Server) (m : Msg) (ho : o.send = s.answer)
    (hos : ∀ i ∈ o.init, i.send = s.answer) :
    (s.onLogInReq cfg m o).Goes fun _ => True := by
  simp only [onLogInReq, Outcome.goes_bind, Outcome.goes_check]
  intro _
  split
  · simp only [Outcome.goes_bind]
    refine (s.checkLogInReq_goes _ o).mono ?_
    rintro ⟨e, s₁⟩ h₁
    have h₁ : s₁.channelHosed = s.channelHosed := h₁
    simp only []
    split
    · exact logInDone_goes _ _ _
    · simp only [Outcome.goes_bind, lift_goes]
      refine (Session.send_goes (ho.trans (Session.answer_eq_of_channelHosed h₁).symm)).mono ?_
      rintro ⟨c, b⟩ ⟨hb, hok⟩
      cases c with
      | refused => trivial
      | failed e => exact logInDone_goes _ _ _
      | ok id =>
        simp only []
        split
        · exact logInDone_goes _ _ _
        · simp only [Outcome.goes_bind]
          refine (reserve_goes _ _).mono fun _ _ => ?_
          -- the response went out, so the channel is not hosed
          have hsok : s.answer = .ok := ho.symm.trans (hok id rfl)
          have hsh : s.channelHosed = false := by
            cases hs : s.channelHosed with
            | false => rfl
            | true => simp [Session.answer, hs] at hsok
          have hbh : b.channelHosed = false := (hb.trans h₁).trans hsh
          exact initChannelsLoop_goes _ _ _ _ _ _ hbh fun i hi => (hos i hi).trans hsok
  · trivial

/-- `init_handlers()` can always run. -/
theorem initHandlers_goes (s : Server) (passiveOpen : Bool) (he : o.expect = s.answer)
    (hend : o.expectEnd = s.answer) : (s.initHandlers cfg passiveOpen o).Goes fun _ => True := by
  simp only [initHandlers]
  split
  · trivial
  · simp only [Outcome.goes_bind, Outcome.goes_check]
    intro _
    split
    · simp only [Outcome.goes_bind, Outcome.goes_check]
      intro _
      trivial
    · simp only [Outcome.goes_bind, lift_goes]
      refine (Session.expectOpenChannelReqs_goes ?_).mono ?_
      · exact he
      · rintro ⟨ok, b⟩ hb
        have hb : b.channelHosed = s.channelHosed := hb
        split
        · simp only [Outcome.goes_bind, liftUnit_goes]
          refine (Session.emplaceGracefulFinisher_goes ?_).mono fun _ _ => trivial
          exact hend.trans (Session.answer_eq_of_channelHosed hb).symm
        · trivial

/-- So can the report of an error from before it. -/
theorem preInitError_goes (s : Server) : s.preInitError.Goes fun _ => True := by
  unfold preInitError
  split
  · exact liftUnit_goes.mpr (s.toSession.hoseIfNot_goes _ _)
  · trivial

/-- So can the report of any error. -/
theorem onMasterChannelError_goes (s : Server) (e : Err) :
    (s.onMasterChannelError cfg e).Goes fun _ => True := by
  simp only [onMasterChannelError]
  split
  · trivial
  · split
    · exact logInDone_goes _ _ _
    · split
      · simp only [Outcome.goes_bind, Outcome.goes_check]
        intro _
        trivial
      · exact liftUnit_goes.mpr (Session.onMasterChannelErrorPeer_goes _ _)

/-- So can `mdt_builder()`. -/
theorem mdtBuilder_goes (s : Server) (call : Nat) (mdt : Mdt) (r : ResourceOracle) :
    (s.mdtBuilder cfg call mdt r).Goes fun _ => True := by
  simp only [mdtBuilder]
  split
  · trivial
  · simp only [Outcome.goes_bind, Outcome.goes_check]
    refine (Session.hosed_goes _).mono ?_
    rintro h - _
    split
    · trivial
    · simp only [Outcome.goes_bind, Outcome.goes_check]
      exact (createChannelAndResources_goes s true r).mono fun _ _ _ => trivial

/-- The client's answer to `open_channel()` can always be read. -/
theorem openChannelRsp_goes (call req : Nat) (opened : Option ChannelObj) (m : Msg) (b : Session) :
    (openChannelRsp call req opened m b).Goes fun _ => True := by
  simp only [openChannelRsp]
  split
  · simp
  · trivial
  · trivial
  · trivial
  · trivial

/-- What the client's request asks for can always be made, or not, which hoses nothing. -/
theorem prepare_goes (s : Server) (m : Msg) (r : ResourceOracle) :
    (s.prepare cfg m r).Goes fun p => p.2.channelHosed = s.channelHosed := by
  simp only [prepare]
  split
  · simp only [Outcome.goes_bind]
    refine (createChannelAndResources_goes s false r).mono ?_
    rintro ⟨made, s₁⟩ hmade
    split
    · exact hmade
    · simp only [Outcome.goes_bind, Outcome.goes_check]
      intro _
      split
      · exact hmade
      · trivial
  · exact rfl

/-- So its handler can always run. -/
theorem onMasterChannelOpenChannelReq_goes (s : Server) (m : Msg) (ho : o.send = s.answer) :
    (s.onMasterChannelOpenChannelReq cfg m o).Goes fun _ => True := by
  simp only [onMasterChannelOpenChannelReq, Outcome.goes_bind]
  refine (Session.hosed_goes _).mono ?_
  rintro h -
  split
  · trivial
  · simp only [Outcome.goes_bind, Outcome.goes_check]
    intro _
    refine (prepare_goes _ m o.res).mono ?_
    rintro ⟨p, s₁⟩ h₁
    have h₁ : s₁.channelHosed = s.channelHosed := h₁
    refine liftUnit_goes.mpr (Session.openChannelReqRespond_goes ?_)
    exact ho.trans (Session.answer_eq_of_channelHosed h₁).symm

/-- **A server can run each of its tasks.** -/
theorem runTask_goes (cfg : Cfg) (s : Server) {t : Task} (ht : t.isServers = true) :
    (s.runTask cfg (.noNewError s.toSession) t).Goes fun _ => True := by
  cases t with
  | masterChannelError chan e => exact onMasterChannelError_goes s e
  | openChannelReq chan m =>
    exact onMasterChannelOpenChannelReq_goes (o := .noNewError s.toSession) s m rfl
  | gracefulSessionEnd chan => exact liftUnit_goes.mpr (Session.onGracefulSessionEnd_goes _)
  | logInReq chan m =>
    refine onLogInReq_goes (o := .noNewError s.toSession) s m rfl fun i hi => ?_
    rw [List.mem_singleton.mp hi]
  | acceptLogIn => exact acceptLogIn_goes (o := .noNewError s.toSession) s rfl
  | initHandlers passiveOpen =>
    exact initHandlers_goes (o := .noNewError s.toSession) s passiveOpen rfl rfl
  | preInitError => exact preInitError_goes s
  | mdtBuilder call mdt => exact mdtBuilder_goes s call mdt {}
  | openChannel call b => exact liftUnit_goes.mpr (Session.openChannelBody_goes rfl)
  | sessionToken => exact liftUnit_goes.mpr (Session.sessionToken_goes _)
  | dtorFinisherQuery => trivial
  | dtorSendEnd => exact liftUnit_goes.mpr (Session.dtorSendEnd_goes rfl)
  | dtorFlush => trivial
  | logInRsp => cases ht
  | initOpenChannel => cases ht
  | asyncConnect => cases ht

/-! ### While the destructor waits for the final flush -/

/-- `Session.flushRuns`, for the step that the server is about to take. -/
def flushRuns (s : Server) : Act → Bool
  | .run o => s.toSession.flushRuns o.flushRuns
  | _ => true

/-- Thread W waits for the client to answer the last init-channel, on a channel that is not hosed;
    that wait has no time-out. -/
def waitsForPeer (s : Server) : Bool :=
  match s.w with
  | .inSyncRequest (.initChannels ..) _ none => !s.channelHosed
  | _ => false

/-- A step of the server's own threads in which the channel finds no new error, or the handler of
    the final flush. -/
def Act.isLocal (s : Server) : Act → Bool
  | .run o => o.expect = s.answer && o.expectEnd = s.answer && o.send = s.answer &&
      o.init.all fun i => i.send = s.answer
  | .syncReturn (.refused _) _ => s.channelHosed
  | .syncReturn (.failed _) _ => false
  | .syncReturn .. => true
  | .dtorStep => true
  | .flushDone => true
  | .dtorFinish => true
  | _ => false

/-- Some such step is enabled. -/
def LocalStep (cfg : Cfg) (s : Server) : Prop :=
  ∃ a : Act, a.isLocal s = true ∧ step cfg s a ≠ .disabled

/-- The destructor's last part, in this state. -/
structure FlushSafe (cfg : Cfg) (s : Server) : Prop where
  /-- Once the graceful-finish phase has returned, and until the destructor does, no thread is
      stuck, -/
  progress : s.dtor = .queried false ∨ s.dtor = .stopped → LocalStep cfg s
  /-- but for one that waits for the client. -/
  flush : s.dtor = .flushing ∨ s.dtor = .flushed → (LocalStep cfg s ↔ s.waitsForPeer = false)
  /-- The promise is set while thread W waits for it, which it then no longer does. -/
  promise : ∀ s', step cfg s .flushDone = .done s' →
    s.w = .flushing true ∧ s.dtor = .flushing ∧ s'.w = .idle ∧ s'.dtor = .flushed
  /-- Thread W is joined for good. -/
  joined : s.dtor.isPastStop = true →
    (∀ o, step cfg s (.run o) = .disabled) ∧ (∀ r eo, step cfg s (.syncReturn r eo) = .disabled) ∧
      ∀ a s', step cfg s a = .done s' → s'.dtor.isPastStop = true

/-- What a server keeps on its way there. -/
structure FlushInv (cfg : Cfg) (s : Server) : Prop where
  err : ErrInv cfg False s
  named : Named s
  own : Own s
  flushing : s.toSession.Flushing

/-- The destructor of a session just made has not started. -/
theorem flushInv_constructed (srvNamespace : SharedName) :
    FlushInv cfg (constructed srvNamespace) where
  err := {
    phases := phases_constructed srvNamespace
    reported := nofun
    preInit := nofun
    finishable := fun h => h.elim
    hosing := ⟨rfl, trivial, nofun⟩ }
  named := named_constructed srvNamespace
  own := own_constructed srvNamespace
  flushing := ⟨rfl, rfl⟩

/-- Nor has that of one whose log-in has just been asked for. -/
theorem flushInv_fresh (srvNamespace : SharedName) (out : OutArgs) :
    FlushInv cfg (fresh srvNamespace out) :=
  ⟨errInv_fresh srvNamespace out, named_fresh srvNamespace out,
    own_fresh srvNamespace out, rfl, rfl⟩

/-- An update leaves the destructor's flush as it is. -/
theorem Update.flushing (h : Update cfg s l s') (hf : s.toSession.Flushing) :
    s'.toSession.Flushing := by
  cases h with
  | session hu => exact hf.update hu
  | post ht ha =>
    rename_i t
    refine hf.keep (Session.dtorTasks_post ?_) rfl (.inl rfl)
    cases t <;> first | rfl | cases ht
  | mqs hn r =>
    obtain ⟨es, made, -, hs⟩ := makeChannelMqs_tried cfg r s
    rw [hs]
    exact ⟨hf.tasks, hf.worker⟩
  | logInDone hn hd =>
    obtain ⟨-, rfl⟩ := logInDone_done hd
    exact ⟨hf.tasks, hf.worker⟩
  | awaitAnswer hw hn => exact hf.keep rfl rfl (.inr ⟨hw, rfl⟩)
  | _ => exact ⟨hf.tasks, hf.worker⟩

/-- The session part that an update of the log-in leaves is as far in the destructor as before. -/
theorem Update.dtor (h : Update cfg s l s') : s'.dtor = s.dtor := by
  cases h with
  | session hu => exact hu.dtor
  | mqs hn r =>
    obtain ⟨es, made, -, hs⟩ := makeChannelMqs_tried cfg r s
    rw [hs]
  | logInDone hn hd =>
    obtain ⟨-, rfl⟩ := logInDone_done hd
    rfl
  | _ => rfl

/-- No update is a step of the destructor. -/
theorem Updates.dtor (h : Updates cfg L s s') : s'.dtor = s.dtor :=
  h.keeps (P := fun t => t.dtor = s.dtor) rfl fun _ _ _ ht _ hu => hu.dtor.trans ht

/-- A task that is not the destructor's leaves the queue. -/
theorem takeTask_flushing {t : Task} {b : Session} (h : s.toSession.Flushing)
    (ht : t.isDtor = false)
    (hd : s.takeTask = .done (t, b)) : b.Flushing :=
  h.update (.takeTask ht hd)

/-- The log-in starts while the destructor is at work, or not. -/
theorem acceptLogIn_flushing (h : s.toSession.Flushing) (hd : s.acceptLogIn o = .done s') :
    s'.toSession.Flushing ∧ s'.dtor = s.dtor := by
  have hacc := acceptLogIn_session hd
  generalize hb : s'.toSession = b at hacc
  cases hacc with
  | failed e out => exact ⟨⟨h.tasks, h.worker⟩, rfl⟩
  | refused e =>
    have h₁ : (s.setChannel (.fresh 0 true)).Flushing := ⟨h.tasks, h.worker⟩
    exact ⟨h₁.update (.emitError rfl rfl e), rfl⟩
  | expecting => exact ⟨⟨h.tasks, h.worker⟩, rfl⟩

/-- So may its request be handled. -/
theorem onLogInReq_flushing {m : Msg} (h : s.toSession.Flushing) (hw : s.w.isServing = true)
    (hd : s.onLogInReq cfg m o = .done s') : s'.toSession.Flushing ∧ s'.dtor = s.dtor := by
  obtain ⟨r, e, s₁, -, hc, hu, -⟩ := onLogInReq_updates hw hd
  have h₁ : s₁.toSession.Flushing ∧ s₁.dtor = s.dtor := by
    cases checkLogInReq_done hc with
    | rejected e hb hl => rw [hb]; exact ⟨h, rfl⟩
    | passed hn hname hb hl => rw [hb]; exact ⟨⟨h.tasks, h.worker⟩, rfl⟩
  exact ⟨hu.keeps h₁.1 fun _ _ _ ht _ hu => hu.flushing ht, hu.dtor.trans h₁.2⟩

/-- Every step in which the final flush runs its handler keeps the invariant. -/
theorem FlushInv.step {a : Act} (h : FlushInv cfg s) (hg : flushRuns s a = true)
    (hd : step cfg s a = .done s') : FlushInv cfg s' := by
  refine ⟨h.err.step (fun h => h.elim) hd, h.named.step h.err.phases hd,
    h.own.step h.err.phases h.named hd, ?_⟩
  cases step_updates h.err.phases h.named hd with
  | common hu => exact hu.keeps h.flushing fun _ _ _ ht _ hu => hu.flushing ht
  | acceptLogIn ht hd => exact (acceptLogIn_flushing (takeTask_flushing h.flushing rfl ht) hd).1
  | @logInReq o b chan m s₁ ht hd =>
    obtain ⟨hw, -, hb⟩ := Session.takeTask_done ht
    have hwb : b.w.isServing = true := by rw [hb, hw]; rfl
    exact (onLogInReq_flushing (takeTask_flushing h.flushing rfl ht) hwb hd).1
  | dtorAct ha => exact h.flushing.dtorAct ha
  | dtorTask ht hb hf =>
    exact h.flushing.dtorTask ht hb (Session.dtorFlush_of_flushRuns hg ht hf)
  | returned hdt hs =>
    have hw := h.flushing.stopped (by rw [hdt]; rfl)
    have htasks := h.flushing.tasks
    rw [hdt, hw] at htasks
    have hflush : (s.setDtor .returned).Flushing :=
      ⟨htasks, by show Dtor.allows .returned s.w = true; rw [hw]; rfl⟩
    rcases hs with rfl | rfl
    · exact hflush
    · exact ⟨hflush.tasks, hflush.worker⟩

/-- A step of the server leaves the destructor where it is, or moves it on. -/
theorem step_dtor {a : Act} (hp : Phases cfg s) (hn : Named s) (hd : step cfg s a = .done s') :
    s'.dtor = s.dtor ∨ s.toSession.DtorAct s'.toSession ∨
      (∃ t b, s.takeTask = .done (t, b) ∧ t.isDtor = true ∧
        (s'.dtor = .returned → s.dtor = .returned)) ∨
      (a = .dtorFinish ∧ s'.dtor = .returned) := by
  cases step_updates hp hn hd with
  | common hu => exact .inl hu.dtor
  | @acceptLogIn o b s₁ ht hd =>
    obtain ⟨hw, -, hb⟩ := Session.takeTask_done ht
    have hdt : b.dtor = s.dtor := by rw [hb]
    have hacc := acceptLogIn_session hd
    generalize hs : s'.toSession = b' at hacc
    refine .inl (Eq.trans ?_ hdt)
    cases hacc <;> rfl
  | @logInReq o b chan m s₁ ht hd =>
    obtain ⟨hw, -, hb⟩ := Session.takeTask_done ht
    have hdt : b.dtor = s.dtor := by rw [hb]
    have hwb : b.w.isServing = true := by rw [hb, hw]; rfl
    obtain ⟨r, e, s₂, -, hc, hu, -⟩ := onLogInReq_updates hwb hd
    refine .inl ((hu.dtor.trans ?_).trans hdt)
    cases checkLogInReq_done hc with
    | rejected e hb hl => rw [hb]; rfl
    | passed hn hname hb hl => rw [hb]; rfl
  | dtorAct ha => exact .inr (.inl ha)
  | dtorTask ht hb hf =>
    refine .inr (.inr (.inl ⟨_, _, ht, by cases hb <;> rfl, fun hr => ?_⟩))
    have hb₁ := (Session.takeTask_done ht).2.2
    cases hb with
    | flush hm willRun =>
      rw [hb₁] at hr
      exact hr
    | _ => cases hr
  | returned hdt hs =>
    refine .inr (.inr (.inr ⟨rfl, ?_⟩))
    rcases hs with rfl | rfl <;> rfl

/-- The destructor returns in its last step. -/
theorem returned_of_step {a : Act} (hp : Phases cfg s) (hn : Named s) (hd : step cfg s a = .done s')
    (ha : a ≠ .dtorFinish) (hr : s'.dtor = .returned) : s.dtor = .returned := by
  rcases step_dtor hp hn hd with hdt | hact | ⟨t, b, ht, -, hback⟩ | ⟨hfin, -⟩
  · exact hdt ▸ hr
  · generalize s'.toSession = b at hact hr
    cases hact <;> cases hr
  · exact hback hr
  · exact absurd hfin ha

/-- Once thread W is joined, it stays so. -/
theorem FlushInv.joined {a : Act} (h : FlushInv cfg s) (hp : s.dtor.isPastStop = true)
    (hd : Server.step cfg s a = .done s') : s'.dtor.isPastStop = true := by
  rcases step_dtor h.err.phases h.named hd with hdt | ha | ⟨t, b, ht, -⟩ | ⟨-, hdt⟩
  · rw [hdt]; exact hp
  · exact ha.isPastStop h.flushing hp
  · have hw := (Session.takeTask_done ht).1
    rw [h.flushing.stopped hp] at hw
    cases hw
  · rw [hdt]; rfl

/-- Thread W can run its first task with answers that bring no new error. -/
theorem run_ne_disabled (h : Own s) (hw : s.w = .idle) {t : Task} {ts : List Task}
    (hq : s.queue = t :: ts) : step cfg s (.run (.noNewError s.toSession)) ≠ .disabled := by
  have ht : t.isServers = true := h.tasks t (by rw [hq]; exact List.mem_cons_self)
  have hgo := runTask_goes cfg (s.setSession { s.toSession with queue := ts }) ht
  simp only [step, lift, Session.takeTask_goes hw hq, Outcome.done_bind, Outcome.pure_eq]
  exact hgo.ne_disabled

/-- The emission can always be run. -/
theorem emitInitChannels_goes (chans : Channels) (nByCli : Nat) (mdt : Mdt) (eo : EmitOracle)
    (s : Server) : (s.emitInitChannels cfg chans nByCli mdt eo).Goes fun _ => True := by
  simp only [emitInitChannels, Outcome.goes_bind, Outcome.goes_check]
  refine Outcome.Goes.mono (Q := fun _ => True) ?_ fun _ _ _ =>
    Outcome.Goes.mono (Q := fun _ => True) ?_
    fun _ _ _ => trivial
  · split
    · exact reserve_goes _ _
    · trivial
  · split
    · exact reserve_goes _ _
    · trivial

/-- The answer to the last init-channel, or else the error of the channel. -/
theorem initChannelsSyncReturn_goes (chans : Channels) (nByCli : Nat) (mdt : Mdt)
    {rsp : Option Msg} (h : rsp = none → s.channelHosed = true) :
    (s.initChannelsSyncReturn cfg chans nByCli mdt rsp
      (if rsp.isSome then .response else .refused (.other 0)) {}).Goes fun _ => True := by
  cases rsp with
  | some m =>
    simp only [initChannelsSyncReturn, Option.isSome_some, if_true, Outcome.goes_bind]
    exact (emitInitChannels_goes _ _ _ _ _).mono fun _ _ => logInDone_goes _ _ _
  | none =>
    have hans : (s.setW .idle).answer = .refused (.other 0) := by
      have hh : (s.setW .idle).channelHosed = true := h rfl
      simp [Session.answer, hh]
    simp only [initChannelsSyncReturn, Option.isSome_none, Bool.false_eq_true, if_false,
      Outcome.goes_bind, Outcome.goes_require, lift_goes, Session.syncReturnNoResponse]
    refine ⟨by decide, by decide, ?_⟩
    refine (Session.callNoError_goes (s := s.setW .idle) hans.symm).mono ?_
    rintro ⟨ok, b⟩ -
    trivial

/-- In the flush some step that needs neither the peer nor the user is enabled, unless thread W
    waits for the client. -/
theorem FlushInv.localStep (h : FlushInv cfg s) (hd : s.dtor = .flushing ∨ s.dtor = .flushed)
    (hwait : s.waitsForPeer = false) : LocalStep cfg s := by
  cases h.flushing.waits hd with
  | forFlush hd hw =>
    refine ⟨.flushDone, rfl, Outcome.Goes.ne_disabled (Q := fun _ => True) ?_⟩
    simp [Server.step, liftUnit_goes, Session.dtorFlushDone, hw]
  | forTask hw t ts hq =>
    refine ⟨.run (.noNewError s.toSession), ?_, run_ne_disabled h.own hw hq⟩
    simp [Act.isLocal, ServerOracle.noNewError]
  | forStop hd hw =>
    refine ⟨.dtorStep, rfl, Outcome.Goes.ne_disabled (Q := fun _ => True) ?_⟩
    simp [Server.step, liftUnit_goes, Session.dtorStep, hd, hw]
  | forResponse k req rsp hw =>
    cases k with
    | openChannel call opened =>
      refine ⟨.syncReturn (Session.syncAnswer rsp) {}, ?_, ?_⟩
      · cases rsp <;> rfl
      · have hgo := Session.openChannelSyncReturn_goes (openChannelRsp_goes call req opened)
          call req rsp s.toSession
        simp only [Server.step, hw]
        exact ((liftUnit_goes (Q := fun _ => True)).mpr hgo).ne_disabled
    | initChannels chans nByCli mdt =>
      have hh : rsp = none → s.channelHosed = true := by
        rintro rfl
        simpa [waitsForPeer, hw] using hwait
      refine ⟨.syncReturn (if rsp.isSome then .response else .refused (.other 0)) {}, ?_, ?_⟩
      · cases rsp with
        | none => exact hh rfl
        | some m => rfl
      · simp only [Server.step, hw]
        exact (initChannelsSyncReturn_goes chans nByCli mdt hh).ne_disabled

/-- While thread W waits for the client, nothing else can go on. -/
theorem not_localStep (hd : s.dtor = .flushing ∨ s.dtor = .flushed)
    (hwait : s.waitsForPeer = true) :
    ¬ LocalStep cfg s := by
  have hw : ∃ chans nByCli mdt req, s.w = .inSyncRequest (.initChannels chans nByCli mdt) req none ∧
      s.channelHosed = false := by
    simp only [waitsForPeer] at hwait
    split at hwait
    · exact ⟨_, _, _, _, ‹_›, by simpa using hwait⟩
    · cases hwait
  obtain ⟨chans, nByCli, mdt, req, hw, hh⟩ := hw
  rintro ⟨a, hlocal, hstep⟩
  apply hstep
  cases a with
  | run o => simp [step, lift, Session.takeTask, hw, Outcome.require]
  | syncReturn r =>
    simp only [step, hw]
    cases r with
    | response =>
      simp [initChannelsSyncReturn, lift, Session.syncReturnNoResponse, Outcome.require]
    | timeout => simp [initChannelsSyncReturn, Outcome.require]
    | refused e => rw [Act.isLocal, hh] at hlocal; cases hlocal
    | failed e => cases hlocal
  | dtorStep =>
    rcases hd with hd | hd
    · simp [step, liftUnit, Session.dtorStep, hd]
    · simp [step, liftUnit, Session.dtorStep, hd, hw, Outcome.require]
  | flushDone => simp [step, liftUnit, Session.dtorFlushDone, hw, Outcome.require]
  | dtorFinish => rcases hd with hd | hd <;> simp [step, dtorFinish, hd, Outcome.require]
  | _ => cases hlocal

/-- **A flush whose handler never runs leaves all threads stuck.** -/
theorem not_localStep_of_flushing (hd : s.dtor = .flushing) (hw : s.w = .flushing false) :
    ¬ LocalStep cfg s := by
  rintro ⟨a, hlocal, hstep⟩
  apply hstep
  cases a with
  | run o => simp [step, lift, Session.takeTask, hw, Outcome.require]
  | syncReturn r => simp [step, hw]
  | dtorStep => simp [step, liftUnit, Session.dtorStep, hd]
  | flushDone => simp [step, liftUnit, Session.dtorFlushDone, hw, Outcome.require]
  | dtorFinish => simp [step, dtorFinish, hd, Outcome.require]
  | _ => cases hlocal

/-- The invariant says all that is claimed of the flush. -/
theorem FlushInv.safe (h : FlushInv cfg s) : FlushSafe cfg s where
  progress := fun hd => by
    rcases hd with hd | hd
    · exact ⟨.dtorStep, rfl, by simp [Server.step, liftUnit, Session.dtorStep, hd]⟩
    · refine ⟨.dtorFinish, rfl, Outcome.Goes.ne_disabled (Q := fun _ => True) ?_⟩
      simp only [Server.step, dtorFinish, Outcome.goes_bind, Outcome.goes_require]
      refine ⟨by simp [hd], ?_⟩
      split <;> trivial
  flush := fun hd => by
    constructor
    · intro hl
      cases hwait : s.waitsForPeer with
      | false => rfl
      | true => exact absurd hl (not_localStep hd hwait)
    · exact h.localStep hd
  promise := fun s' hd => by
    obtain ⟨b, hb, rfl⟩ := liftUnit_done hd
    simp [Session.dtorFlushDone] at hb
    obtain ⟨hw, rfl⟩ := hb
    exact ⟨hw, h.flushing.flushing_of_worker hw, rfl, rfl⟩
  joined := fun hp => by
    have hw := h.flushing.stopped hp
    refine ⟨fun o => ?_, fun r => ?_, fun a s' hd => h.joined hp hd⟩
    · simp [Server.step, lift, Session.takeTask, hw, Outcome.require]
    · simp [Server.step, hw]

/-- The handler of the final flush moves the destructor on, and no step moves it back. -/
theorem FlushInv.flushOver {a : Act} (h : FlushInv cfg s) (hd : Server.step cfg s a = .done s') :
    s.flushOver.toNat + (decide (a = .flushDone)).toNat ≤ s'.flushOver.toNat := by
  by_cases ha : a = .flushDone
  · subst ha
    obtain ⟨hw, hdt, -, hdt'⟩ := h.safe.promise s' hd
    simp [Session.flushOver, hdt, hdt', Dtor.isPastStop]
  · have hmono : s.flushOver = true → s'.flushOver = true := by
      intro ho
      rcases step_dtor h.err.phases h.named hd with hdt | hact | ⟨t, b, ht, hdtask, -⟩ | ⟨-, hdt⟩
      · rw [Session.flushOver, hdt]; exact ho
      · exact hact.flushOver ho
      · rw [h.flushing.flushOver_of_taken hdtask ht] at ho
        cases ho
      · rw [Session.flushOver, hdt]; rfl
    simp only [ha, decide_false, Bool.toNat_false, Nat.add_zero]
    cases ho : s.flushOver with
    | false => exact Nat.zero_le _
    | true => exact Nat.le_of_eq (congrArg Bool.toNat (hmono ho).symm)

/-- A run in which the final flush ends, from any server that meets the invariant. -/
theorem FlushInv.run {s₀ : Server} {as : List Act} (h₀ : FlushInv cfg s₀)
    (h : Machine.run (Machine.guarded flushRuns (Server.step cfg)) s₀ as = .done s) :
    FlushSafe cfg s ∧ as.count .flushDone ≤ 1 := by
  have hinv : FlushInv cfg s := Machine.Reaches.invariant (Machine.Reaches.of_run as h) h₀
    fun _ _ _ hi _ hd => hi.step (Machine.guarded_done hd).1 (Machine.guarded_done hd).2
  refine ⟨hinv.safe, ?_⟩
  have hcount := Machine.count_le_of_run (c := fun s => s.flushOver.toNat)
    (p := fun a => decide (a = Act.flushDone)) h h₀
    fun _ _ _ hi hd => ⟨hi.step (Machine.guarded_done hd).1 (Machine.guarded_done hd).2,
      hi.flushOver (Machine.guarded_done hd).2⟩
  have hle : s.flushOver.toNat ≤ 1 := Bool.toNat_le _
  have heq : as.count .flushDone = as.countP fun a => decide (a = Act.flushDone) := by
    simp [List.count, BEq.beq]
  rw [heq]
  omega

end Server

end IpcSession
