import IpcSession.Base.Calls
import IpcSession.Server.Routing

namespace IpcSession

/-!
# The traces of the user's calls in a server

* `Session.ApiCalls` — builders and bodies of `open_channel()` are there only in PEER state, and
  only bodies that have a channel; `init_handlers()` has returned `true` once, or not yet.
* `Server.Equipped` — an accepted session has its channel, and in PEER state the finisher that its
  type requires.
-/

namespace Server

variable {F : Prop} {cfg : Cfg} {s s' : Server} {o : ServerOracle}

/-! ### The code that is no call of the user -/

/-- Resources are made, or cannot be. -/
theorem createChannelAndResources_sameCalls {active : Bool} {r : ResourceOracle} {made : Resources}
    (hd : s.createChannelAndResources cfg active r = .done (made, s')) :
    s.toSession.SameCalls s'.toSession := by
  obtain ⟨es, ⟨n, m, hs⟩, he, -⟩ := (createChannelAndResources_made hd).session
  rw [hs]
  refine .adds fun e hm => ?_
  have hr := he e hm
  cases e <;> first | rfl | cases hr

/-- The log-in ends: the user has not called anything by that. -/
theorem logInDone_sameCalls {e : ErrorCode} {site : LogInSite}
    (hd : s.logInDone e site = .done s') : s.toSession.SameCalls s'.toSession := by
  obtain ⟨-, rfl⟩ := logInDone_done hd
  exact .record rfl

/-- It fails. -/
theorem logInFailed_sameCalls {e : Err} {site : LogInSite}
    (hd : s.logInFailed e site = .done s') : s.toSession.SameCalls s'.toSession := by
  have hdrop : s.toSession.SameCalls s.resetChannel.toSession := .dropChannel
  exact hdrop.trans (logInDone_sameCalls hd)

/-- It starts. -/
theorem acceptLogIn_sameCalls (hd : s.acceptLogIn o = .done s') :
    s.toSession.SameCalls s'.toSession := by
  simp only [acceptLogIn] at hd
  split at hd
  · exact logInDone_sameCalls hd
  · exact logInDone_sameCalls hd
  · simp only [Outcome.bind_eq_done, Prod.exists] at hd
    obtain ⟨-, -, ok, s₂, h₂, hd⟩ := hd
    obtain ⟨b, hb, rfl⟩ := lift_done h₂
    obtain ⟨ch, -, hr⟩ := Session.callNoError_done hb
    have hfresh : s.toSession.SameCalls (s.toSession.setChannel (.fresh 0 true)) := .setChannel _
    have h₁ := hfresh.trans (hr.sameCalls (.refl _))
    split at hd
    · cases hd; exact h₁.trans (.setChannel _)
    · cases hd; exact h₁

/-- The loop makes the init-channels. -/
theorem initChannelsLoop_sameCalls {s s' : Server} {nByCli k : Nat} {mdt : Mdt}
    {os : List InitOracle} {chans : Channels}
    (hd : initChannelsLoop cfg nByCli mdt k os chans s = .done s') :
    s.toSession.SameCalls s'.toSession := by
  induction k generalizing os chans s with
  | zero => cases hd; exact .refl _
  | succ k ih =>
    simp only [initChannelsLoop, Outcome.bind_eq_done, Prod.exists] at hd
    obtain ⟨r, s₁, h₁, hd⟩ := hd
    have hr := createChannelAndResources_sameCalls h₁
    split at hd
    · exact hr.trans (logInFailed_sameCalls hd)
    · simp only [Outcome.bind_eq_done, Prod.exists] at hd
      obtain ⟨c, s₂, h₂, hd⟩ := hd
      obtain ⟨b, hb, rfl⟩ := lift_done h₂
      obtain ⟨ch, -, hsend⟩ := Session.send_done hb
      have hsc := hr.trans hsend.sameCalls
      split at hd
      · cases hd; exact hsc
      · exact hsc.trans (logInFailed_sameCalls hd)
      · rename_i id
        have hrec : b.SameCalls (b.record (.initChannelSent id)) := .record rfl
        split at hd
        · cases hd; exact (hsc.trans hrec).trans (.setW rfl)
        · exact (hsc.trans hrec).trans (ih hd)

/-- The log-in request is handled. -/
theorem onLogInReq_sameCalls {m : Msg} (hd : s.onLogInReq cfg m o = .done s') :
    s.toSession.SameCalls s'.toSession := by
  simp only [onLogInReq, Outcome.bind_eq_done] at hd
  obtain ⟨-, -, hd⟩ := hd
  split at hd
  · simp only [Outcome.bind_eq_done, Prod.exists] at hd
    obtain ⟨e, s₁, h₁, hd⟩ := hd
    have hn : s.toSession.SameCalls s₁.toSession := by
      cases checkLogInReq_done h₁ with
      | rejected e hb hl => exact hb ▸ .refl _
      | passed hn hname hb hl =>
        rw [hb]
        have h₁ : s.toSession.SameCalls
            (s.toSession.record (.cliNamespaceTaken o.cliNamespace)) := .record rfl
        exact (h₁.trans (.putCliNamespace _)).trans (.record rfl)
    cases e with
    | some e => exact hn.trans (logInFailed_sameCalls hd)
    | none =>
      simp only [Outcome.bind_eq_done, Prod.exists] at hd
      obtain ⟨c, s₂, h₂, hd⟩ := hd
      obtain ⟨b, hb, rfl⟩ := lift_done h₂
      obtain ⟨ch, -, hsend⟩ := Session.send_done hb
      have hsc := hn.trans hsend.sameCalls
      split at hd
      · cases hd; exact hsc
      · exact hsc.trans (logInFailed_sameCalls hd)
      · split at hd
        · exact hsc.trans (logInDone_sameCalls hd)
        · simp only [Outcome.bind_eq_done] at hd
          obtain ⟨-, -, hd⟩ := hd
          exact hsc.trans (initChannelsLoop_sameCalls hd)
  · cases hd

/-- The client has answered for the last init-channel, or will not. -/
theorem initChannelsSyncReturn_sameCalls {chans : Channels} {nByCli : Nat} {mdt : Mdt}
    {rsp : Option Msg} {r : Session.SyncRes} {eo : EmitOracle}
    (hd : s.initChannelsSyncReturn cfg chans nByCli mdt rsp r eo = .done s') :
    s.toSession.SameCalls s'.toSession := by
  have hidle : s.toSession.SameCalls (s.toSession.setW .idle) := .setW rfl
  simp only [initChannelsSyncReturn] at hd
  split at hd
  · simp only [Outcome.bind_eq_done] at hd
    obtain ⟨s₁, h₁, hd⟩ := hd
    obtain ⟨out, rfl⟩ := emitInitChannels_done h₁
    exact hidle.trans (logInDone_sameCalls hd)
  · simp only [Outcome.bind_eq_done, Prod.exists] at hd
    obtain ⟨-, -, e, s₁, h₁, hd⟩ := hd
    obtain ⟨b, hb, rfl⟩ := lift_done h₁
    obtain ⟨-, hr⟩ := Session.syncReturnNoResponse_done hb
    have hsc : s.toSession.SameCalls b := by
      cases hr with
      | timeout => exact hidle
      | refusedOld => exact hidle
      | refusedNew ch hm hh e => exact hidle.trans (.emitError ch e)
      | failed ch hm hh e he => exact hidle.trans (.failCall ch e)
    split at hd
    · cases hd; exact hsc
    · exact hsc.trans (logInFailed_sameCalls hd)

/-- The channel's error is reported. -/
theorem onMasterChannelError_sameCalls {e : Err} (hd : s.onMasterChannelError cfg e = .done s') :
    s.toSession.SameCalls s'.toSession := by
  simp only [onMasterChannelError] at hd
  split at hd
  · cases hd; exact .refl _
  · split at hd
    · exact logInFailed_sameCalls hd
    · split at hd
      · simp only [Outcome.bind_eq_done] at hd
        obtain ⟨-, -, hd⟩ := hd
        cases hd
        exact .refl _
      · obtain ⟨b, hb, rfl⟩ := liftUnit_done hd
        exact Session.onMasterChannelErrorPeer_sameCalls hb

/-- An error from before `init_handlers()` is. -/
theorem preInitError_sameCalls (hd : s.preInitError = .done s') :
    s.toSession.SameCalls s'.toSession := by
  simp only [preInitError] at hd
  split at hd
  · obtain ⟨b, hb, rfl⟩ := liftUnit_done hd
    obtain ⟨-, ⟨-, rfl⟩ | ⟨-, rfl⟩⟩ := Session.hoseIfNot_done hb
    · exact .refl _
    · exact .emitHosed _ _
  · cases hd

/-- What the client's request asks for is made, or cannot be. -/
theorem prepare_sameCalls {m : Msg} {r : ResourceOracle} {p : Session.Prepared}
    (hd : s.prepare cfg m r = .done (p, s')) : s.toSession.SameCalls s'.toSession := by
  simp only [prepare] at hd
  split at hd
  · simp only [Outcome.bind_eq_done, Prod.exists] at hd
    obtain ⟨made, s₁, h₁, hd⟩ := hd
    have hr := createChannelAndResources_sameCalls h₁
    split at hd
    · cases hd; exact hr
    · simp only [Outcome.bind_eq_done] at hd
      obtain ⟨-, -, hd⟩ := hd
      split at hd <;> cases hd
      exact hr
  · cases hd; exact .refl _

/-- The handler of the client's request for a channel. -/
theorem onMasterChannelOpenChannelReq_sameCalls {m : Msg}
    (hd : s.onMasterChannelOpenChannelReq cfg m o = .done s') :
    s.toSession.SameCalls s'.toSession := by
  have hrec : s.toSession.SameCalls (s.toSession.record (.openChannelReqRan m.id)) := .record rfl
  simp only [onMasterChannelOpenChannelReq, Outcome.bind_eq_done] at hd
  obtain ⟨h, -, hd⟩ := hd
  split at hd
  · cases hd; exact hrec
  · simp only [Outcome.bind_eq_done, Prod.exists] at hd
    obtain ⟨-, -, p, s₁, hp, hd⟩ := hd
    obtain ⟨b, hb, rfl⟩ := liftUnit_done hd
    obtain ⟨ch, -, hr⟩ := Session.openChannelReqRespond_done hb
    exact (hrec.trans (prepare_sameCalls hp)).trans hr.sameCalls

/-- `open_channel()` reads the client's answer, and returns. -/
theorem openChannelRsp_sameCalls {b b' : Session} {call req : Nat} {opened : Option ChannelObj}
    {m : Msg} (hd : openChannelRsp call req opened m b = .done b') : b.SameCalls b' := by
  simp only [openChannelRsp] at hd
  split at hd
  · simp only [Outcome.bind_eq_done] at hd
    obtain ⟨-, -, hd⟩ := hd
    cases hd
    exact .returned
  · cases hd; exact .returned
  · cases hd
  · cases hd
  · cases hd

end Server

/-! ### The traces of calls -/

/-- What the user's calls have left in the session: builders and bodies of `open_channel()` only in
    PEER state, and only bodies with a channel. -/
structure Session.ApiCalls (s : Session) : Prop where
  passive : s.onPassiveOpenSet = true → s.onErrFuncSet = true
  builders : ∀ call b, (call, some b) ∈ s.builders → s.onErrFuncSet = true ∧ b.forLogIn = false
  tasks : ∀ call b, Task.openChannel call b ∈ s.queue →
    s.onErrFuncSet = true ∧ b.forLogIn = false ∧ b.openedChannel.isSome = true
  sync : ∀ call opened req rsp, s.w = .inSyncRequest (.openChannel call opened) req rsp →
    s.onErrFuncSet = true ∧ opened.isSome = true
  entered : s.log.countP Event.isEntered = s.onErrFuncSet.toNat

namespace Session.ApiCalls

variable {b b' : Session}

/-- Code that is not of the calls keeps what is known of them. -/
theorem of_same (h : b.ApiCalls) (hs : b.SameCalls b') : b'.ApiCalls where
  passive := by
    rw [hs.onPassiveOpenSet, hs.onErrFuncSet]
    exact h.passive
  builders := fun call bl hm => by
    rw [hs.onErrFuncSet]
    exact h.builders call bl (hs.builders _ hm)
  tasks := fun call bl hm => by
    rw [hs.onErrFuncSet]
    exact h.tasks call bl (hs.tasks call bl hm)
  sync := fun call opened req rsp hw => by
    obtain ⟨rsp', hw'⟩ := hs.sync call opened req rsp hw
    rw [hs.onErrFuncSet]
    exact h.sync call opened req rsp' hw'
  entered := by
    rw [hs.entered, hs.onErrFuncSet]
    exact h.entered

/-- `open_channel()` starts to wait. -/
theorem openChannelBody {r : Ret} {inPeer : Bool} {call : Nat} {bl : Builder} (h : b.ApiCalls)
    (hbl : bl.openedChannel.isSome = true)
    (hd : b.openChannelBody inPeer call bl r = .done b') : b'.ApiCalls := by
  rcases Session.openChannelBody_calls hd with hs | ⟨b₁, req, hs, rfl⟩
  · exact h.of_same hs
  · have h₁ := h.of_same hs
    refine { h₁ with sync := fun call' opened req' rsp hw => ?_ }
    have hw : Worker.inSyncRequest (.openChannel call bl.openedChannel) req none =
      .inSyncRequest (.openChannel call' opened) req' rsp := hw
    cases hw
    obtain ⟨-, ho, -⟩ := Session.openChannelBody_done hd
    exact ⟨hs.onErrFuncSet.trans ho, hbl⟩

/-- `mdt_builder()` returns. -/
theorem giveBuilder (h : b.ApiCalls) (call : Nat) (bl : Option Builder)
    (hbl : ∀ x, bl = some x → b.onErrFuncSet = true ∧ x.forLogIn = false) :
    (b.giveBuilder call bl).ApiCalls where
  passive := h.passive
  builders := fun call' x hm => by
    rcases List.mem_cons.mp hm with hm | hm
    · cases hm
      exact hbl x rfl
    · exact h.builders call' x hm
  tasks := h.tasks
  sync := h.sync
  entered := by
    have he := h.entered
    simpa [Event.isEntered] using he

end Session.ApiCalls

namespace Server

variable {F : Prop} {cfg : Cfg} {s s' : Server} {o : ServerOracle}

/-- No call is under way. -/
theorem apiCalls_fresh (srvNamespace : SharedName) (out : OutArgs) :
    (fresh srvNamespace out).ApiCalls where
  passive := fun h => by cases h
  builders := fun call b hm => by cases hm
  tasks := fun call b hm => by cases List.mem_singleton.mp hm
  sync := fun call opened req rsp hw => by cases hw
  entered := rfl

/-- `mdt_builder()` gives the user a builder with a channel, a blank one or none. -/
theorem mdtBuilder_apiCalls {call : Nat} {mdt : Mdt} {r : ResourceOracle} (h : s.ApiCalls)
    (hd : s.mdtBuilder cfg call mdt r = .done s') : s'.ApiCalls := by
  simp only [mdtBuilder] at hd
  split at hd
  · cases hd; exact h.giveBuilder call none fun x hx => by cases hx
  · rename_i ho
    have ho : s.onErrFuncSet = true := by simpa using ho
    simp only [Outcome.bind_eq_done] at hd
    obtain ⟨hosed, -, -, -, hd⟩ := hd
    split at hd
    · cases hd
      refine h.giveBuilder call _ ?_
      rintro x ⟨⟩
      exact ⟨ho, rfl⟩
    · simp only [Outcome.bind_eq_done, Prod.exists] at hd
      obtain ⟨made, s₁, h₁, -, -, hd⟩ := hd
      cases hd
      have hs := createChannelAndResources_sameCalls h₁
      refine (h.of_same hs).giveBuilder call _ ?_
      rintro x ⟨⟩
      exact ⟨hs.onErrFuncSet.trans ho, rfl⟩

/-- `open_channel()` takes one that has a channel to thread W. -/
theorem openChannel_apiCalls {b b' : Session} {call : Nat} (h : b.ApiCalls)
    (hd : openChannel call b = .done b') : b'.ApiCalls := by
  simp only [openChannel, Outcome.bind_eq_done, Prod.exists] at hd
  obtain ⟨bl, b₁, h₁, hd⟩ := hd
  have h₂ := h.of_same (.takeBuilder h₁)
  obtain ⟨⟨k, hk⟩, -⟩ := Session.takeBuilder_done h₁
  cases bl with
  | none => cases hd; exact h₂.of_same .returned
  | some bl =>
    simp only at hd
    split at hd
    · cases hd; exact h₂.of_same .returned
    · rename_i hn
      cases hd
      obtain ⟨ho, hl⟩ := h.builders k bl hk
      have ho₁ : b₁.onErrFuncSet = true := (Session.SameCalls.takeBuilder h₁).onErrFuncSet.trans ho
      refine { h₂ with tasks := fun call' x hm => ?_ }
      rcases List.mem_append.mp hm with hm | hm
      · exact h₂.tasks call' x hm
      · cases List.mem_singleton.mp hm
        exact ⟨ho₁, hl, by simpa [Option.isSome_iff_ne_none] using hn⟩

/-- `init_handlers()` returns `true` once. -/
theorem initHandlers_apiCalls {passiveOpen : Bool} (h : s.ApiCalls)
    (hd : s.initHandlers cfg passiveOpen o = .done s') : s'.ApiCalls := by
  -- whatever happens after the handlers are set adds no call
  have entered : ∀ b : Session, (s.setHandlers passiveOpen).toSession.SameCalls b →
      s.onErrFuncSet = false → (b.record (.initHandlersReturned true)).ApiCalls := by
    intro b hs ho
    have h₀ := h.entered
    rw [ho] at h₀
    have ho' : b.onErrFuncSet = true := hs.onErrFuncSet
    refine ⟨fun _ => ho', fun call bl hm => ?_, fun call bl hm => ?_,
      fun call opened req rsp hw => ?_,
      ?_⟩
    · exact ⟨ho', (h.builders call bl (hs.builders _ hm)).2⟩
    · exact ⟨ho', (h.tasks call bl (hs.tasks call bl hm)).2⟩
    · obtain ⟨rsp', hw'⟩ := hs.sync call opened req rsp hw
      exact ⟨ho', (h.sync call opened req rsp' hw').2⟩
    · have he : b.log.countP Event.isEntered = 0 := hs.entered.trans h₀
      show (b.log ++ [Event.initHandlersReturned true]).countP Event.isEntered =
        b.onErrFuncSet.toNat
      rw [List.countP_append, he, ho']
      rfl
  simp only [initHandlers] at hd
  split at hd
  · cases hd
    exact h.of_same (.record rfl)
  · rename_i ho
    have ho : s.onErrFuncSet = false := by simpa using ho
    simp only [Outcome.bind_eq_done] at hd
    obtain ⟨-, -, hd⟩ := hd
    split at hd
    · simp only [Outcome.bind_eq_done] at hd
      obtain ⟨-, -, hd⟩ := hd
      cases hd
      exact entered _ (.post rfl) ho
    · simp only [Outcome.bind_eq_done, Prod.exists] at hd
      obtain ⟨ok, s₁, h₁, hd⟩ := hd
      obtain ⟨b₁, hb₁, rfl⟩ := lift_done h₁
      obtain ⟨ch, -, hr⟩ := Session.expectOpenChannelReqs_done hb₁
      have hs₁ : (s.setHandlers passiveOpen).toSession.SameCalls b₁ := hr.sameCalls (.flushTo ch _)
      split at hd
      · simp only [Outcome.bind_eq_done] at hd
        obtain ⟨s₂, h₂, hd⟩ := hd
        obtain ⟨b₂, hb₂, rfl⟩ := liftUnit_done h₂
        obtain ⟨ch', -, hr'⟩ := Session.emplaceGracefulFinisher_done hb₂
        cases hd
        exact entered _ (hs₁.trans hr'.sameCalls) ho
      · cases hd
        exact entered _ hs₁ ho

/-- Whatever task it is, the calls are as the invariant says. -/
theorem runTask_apiCalls {t : Task} (h : s.ApiCalls)
    (ht : ∀ call b, t = .openChannel call b → b.openedChannel.isSome = true)
    (hd : s.runTask cfg o t = .done s') : s'.ApiCalls := by
  cases t with
  | masterChannelError chan e => exact h.of_same (onMasterChannelError_sameCalls hd)
  | openChannelReq chan m => exact h.of_same (onMasterChannelOpenChannelReq_sameCalls hd)
  | gracefulSessionEnd chan =>
    obtain ⟨b, hb, rfl⟩ := liftUnit_done hd
    exact h.of_same (Session.onGracefulSessionEnd_sameCalls hb)
  | logInReq chan m => exact h.of_same (onLogInReq_sameCalls hd)
  | acceptLogIn => exact h.of_same (acceptLogIn_sameCalls hd)
  | initHandlers passiveOpen => exact initHandlers_apiCalls h hd
  | preInitError => exact h.of_same (preInitError_sameCalls hd)
  | mdtBuilder call mdt => exact mdtBuilder_apiCalls h hd
  | openChannel call bl =>
    obtain ⟨b, hb, rfl⟩ := liftUnit_done hd
    exact h.openChannelBody (ht call bl rfl) hb
  | sessionToken =>
    obtain ⟨b, hb, rfl⟩ := liftUnit_done hd
    exact h.of_same (Session.sessionToken_sameCalls hb)
  | dtorFinisherQuery => cases hd; exact h.of_same (.setDtor _)
  | dtorSendEnd =>
    obtain ⟨b, hb, rfl⟩ := liftUnit_done hd
    exact h.of_same (Session.dtorSendEnd_sameCalls hb)
  | dtorFlush => cases hd; exact h.of_same (Session.dtorFlush_sameCalls _)
  | logInRsp => cases hd
  | initOpenChannel => cases hd
  | asyncConnect => cases hd

/-- And so they are after any step. -/
theorem step_apiCalls {a : Act} (h : s.ApiCalls) (hd : step cfg s a = .done s') :
    s'.ApiCalls := by
  cases a with
  | initHandlers passiveOpen =>
    simp only [step, Outcome.bind_eq_done] at hd
    obtain ⟨-, -, hd⟩ := hd
    cases hd
    exact h.of_same (.post rfl)
  | mdtBuilder call mdt =>
    simp only [step, Outcome.bind_eq_done] at hd
    obtain ⟨-, -, hd⟩ := hd
    cases hd
    exact h.of_same (.post rfl)
  | openChannel call =>
    simp only [step, Outcome.bind_eq_done] at hd
    obtain ⟨-, -, hd⟩ := hd
    obtain ⟨b, hb, rfl⟩ := liftUnit_done hd
    exact openChannel_apiCalls h hb
  | sessionToken =>
    simp only [step, Outcome.bind_eq_done] at hd
    obtain ⟨-, -, hd⟩ := hd
    cases hd
    exact h.of_same (.post rfl)
  -- A builder that the user gave back is in the task's hands now.
  | run o =>
    simp only [step, Outcome.bind_eq_done, Prod.exists] at hd
    obtain ⟨t, s₁, h₁, hd⟩ := hd
    obtain ⟨b, hb, rfl⟩ := lift_done h₁
    obtain ⟨-, hq, -⟩ := Session.takeTask_done hb
    refine runTask_apiCalls (h.of_same (.takeTask hb)) (fun call bl ht => ?_) hd
    exact (h.tasks call bl (by rw [hq, ht]; exact List.mem_cons_self)).2.2
  -- Either way thread W is idle afterwards and the call is over.
  | syncReturn r =>
    simp only [step] at hd
    split at hd
    · obtain ⟨b, hb, rfl⟩ := liftUnit_done hd
      rcases Session.openChannelSyncReturn_done hb with ⟨m, -, -, hr⟩ | ⟨-, hr⟩
      · have hidle : s.toSession.SameCalls (s.toSession.setW .idle) := .setW rfl
        exact h.of_same (hidle.trans (openChannelRsp_sameCalls hr))
      · exact h.of_same hr.sameCalls
    · exact h.of_same (initChannelsSyncReturn_sameCalls hd)
    · cases hd
  | deliver m =>
    obtain ⟨b, hb, rfl⟩ := liftUnit_done hd
    exact h.of_same (Session.deliver_sameCalls hb)
  | channelError e =>
    obtain ⟨b, hb, rfl⟩ := liftUnit_done hd
    exact h.of_same (Session.channelError_sameCalls hb)
  | dtorStart =>
    obtain ⟨b, hb, rfl⟩ := liftUnit_done hd
    exact h.of_same (Session.dtorStart_sameCalls hb)
  | dtorStep =>
    obtain ⟨b, hb, rfl⟩ := liftUnit_done hd
    exact h.of_same (Session.dtorStep_sameCalls hb)
  | flushDone =>
    obtain ⟨b, hb, rfl⟩ := liftUnit_done hd
    exact h.of_same (Session.dtorFlushDone_sameCalls hb)
  | dtorFinish =>
    simp only [step, dtorFinish, Outcome.bind_eq_done] at hd
    obtain ⟨-, -, hd⟩ := hd
    have hret : s.toSession.SameCalls (s.toSession.setDtor .returned) := .setDtor _
    split at hd <;> cases hd
    · exact h.of_same (hret.trans (.record rfl))
    · exact h.of_same hret

/-! ### PEER state is complete -/

/-- An accepted session has its channel, and in PEER state the finisher that its type requires. -/
structure Equipped (cfg : Cfg) (s : Server) : Prop where
  channel : s.accepted = true → s.masterChannel.isSome = true
  finisher : s.onErrFuncSet = true → s.preInitErrCode = none →
    cfg.gracefulFinishRequired = true → s.gracefulFinisher.isSome = true

/-- The session is not in PEER state yet. -/
theorem equipped_fresh (srvNamespace : SharedName) (out : OutArgs) :
    Equipped cfg (fresh srvNamespace out) := ⟨nofun, nofun⟩

/-- Session code leaves the finisher that there is. -/
theorem Equipped.of_did (h : Equipped cfg s) (hd : s.toSession.Did F s'.toSession)
    (hl : SameLogIn s s') : Equipped cfg s' where
  channel := by
    rw [hl.accepted, hd.channel_isSome]
    exact h.channel
  finisher := by
    rw [hd.onErrFuncSet, hl.preInitErrCode, hd.gracefulFinisher]
    exact h.finisher

/-- Session code that leaves the channel alone, and does not disengage the finisher. -/
theorem Equipped.inPlace (h : Equipped cfg s) {b : Session}
    (hm : b.masterChannel = s.masterChannel) (ho : b.onErrFuncSet = s.onErrFuncSet)
    (hf : s.gracefulFinisher.isSome = true → b.gracefulFinisher.isSome = true) :
    Equipped cfg (s.setSession b) where
  channel := by
    rw [setSession_toSession, hm]
    exact h.channel
  finisher := by
    rw [setSession_toSession, ho]
    exact fun ho hp hg => hf (h.finisher ho hp hg)

/-- A task leaves the queue. -/
theorem Equipped.takeTask {t : Task} {b : Session} (h : Equipped cfg s)
    (ht : s.takeTask = .done (t, b)) : Equipped cfg (s.setSession b) := by
  obtain ⟨-, -, hb⟩ := Session.takeTask_done ht
  refine h.inPlace ?_ ?_ ?_ <;> rw [hb]
  exact id

/-- What is done for the log-in comes before PEER state. -/
theorem Equipped.logInDid (h : Equipped cfg s) (hp : Phases cfg s)
    (hm : s.masterChannel.isSome = true) (hd : LogInDid s s') : Equipped cfg s' := by
  cases hd with
  | goesOn hd hl => exact h.of_did hd hl
  | @succeeded s₁ hq hl hw₁ hset site out =>
    have h₁ : Equipped cfg s₁ := h.of_did (F := False) (.quiet hq) hl
    exact ⟨fun _ => hq.channel_isSome.trans hm, h₁.finisher⟩
  | @failed s₁ hq hl hw₁ hset b hb e site hsite =>
    have ho : s₁.onErrFuncSet = false := hq.onErrFuncSet.trans (hp.logIn hset).1
    refine ⟨nofun, fun ho' => ?_⟩
    rcases hb with rfl | ⟨ch, e', -, -, rfl⟩
    · have ho' : s₁.onErrFuncSet = true := ho'
      rw [ho] at ho'
      cases ho'
    · have ho' : s₁.onErrFuncSet = true := ho'
      rw [ho] at ho'
      cases ho'

/-- So a session in PEER state has its finisher, after any step. -/
theorem Equipped.step (h : Equipped cfg s) (hp : Phases cfg s) (hd : StepResult cfg F s s') :
    Equipped cfg s' := by
  cases hd with
  | common hd hl => exact h.of_did hd hl
  -- init_handlers() posts only; the channel and the finisher are as they were.
  | wantsPeer ha passiveOpen => exact h.inPlace rfl rfl id
  | initChannels hw hd => exact h.logInDid hp (hp.sync hw) hd
  -- The destructor's last step may tell a pending log-in; the channel and the finisher stay.
  | returned hdt hs' hl =>
    obtain ⟨-, hpre, hacc, -⟩ := hl
    refine ⟨?_, ?_⟩
    · rw [hacc, hs']
      split <;> exact h.channel
    · rw [hpre, hs']
      split <;> exact h.finisher
  | @task t b _ ht hr =>
    have h₁ := h.takeTask ht
    cases hr with
    | plain hplain hdid hl => exact h₁.of_did hdid hl
    | logInReq hm hd => exact h₁.logInDid (hp.takeTask ht rfl) hm hd
    -- The first task: it makes the channel or fails, and either way no error handler is set yet.
    | acceptLogIn hd =>
      obtain ⟨hp₁, -, -, hset⟩ := hp.atAccept ht
      obtain ⟨ho, -, hacc⟩ := hp₁.logIn hset
      cases hd with
      | failed hset' e => exact ⟨nofun, h₁.finisher⟩
      | @started hm' s₁ _ hs₁ hl hdid hl' =>
        refine Equipped.of_did (s := s₁) ⟨fun _ => by rw [hs₁]; rfl, fun ho' => ?_⟩ hdid hl'
        rw [hs₁] at ho'
        have ho' : b.onErrFuncSet = true := ho'
        have ho : b.onErrFuncSet = false := ho
        rw [ho] at ho'
        cases ho'
    | masterChannelError hd =>
      have hp₁ := hp.takeTask ht rfl
      cases onMasterChannelError_done hd with
      | dropped hm => exact h₁
      | logInFailed hm hset => exact ⟨nofun, h₁.finisher⟩
      -- The error came before init_handlers(): no handler is set, so nothing is owed.
      | cached hm hset ho hpre => exact ⟨h₁.channel, fun ho' => by
          have ho' : b.onErrFuncSet = true := ho'
          have ho : b.onErrFuncSet = false := ho
          rw [ho] at ho'
          cases ho'⟩
      | @inPeer hm ho b₁ b' h₂ h₃ =>
        rcases h₂ with ⟨-, rfl⟩ | ⟨-, rfl⟩ <;> rcases h₃ with ⟨-, -, rfl⟩ | ⟨-, rfl⟩
        · exact h₁.inPlace rfl rfl fun _ => rfl
        · exact h₁.inPlace rfl rfl id
        · exact h₁.inPlace rfl rfl fun _ => rfl
        · exact h₁.inPlace rfl rfl id
    -- The finisher is fulfilled, not dropped, and the channel stays.
    | gracefulSessionEnd hd =>
      obtain ⟨-, -, ⟨-, rfl⟩ | ⟨-, rfl⟩⟩ := Session.onGracefulSessionEnd_done hd
      · exact h₁.inPlace rfl rfl fun _ => rfl
      · exact h₁.inPlace rfl rfl fun _ => rfl
    | @initHandlers passiveOpen o _ hd =>
      cases initHandlers_done hd with
      | again ho => exact h₁.inPlace rfl rfl id
      | cached ho hpre hpn =>
        refine ⟨h₁.channel, fun _ hn => ?_⟩
        have hn : s.preInitErrCode = none := hn
        have hpre : s.preInitErrCode.isSome = true := hpre
        rw [hn] at hpre
        cases hpre
      -- init_handlers() in almost-PEER state creates the finisher if the configuration asks for
      -- one.
      | @plain ho hpre b₁ b₂ hdid h₂ =>
        have hch : b₁.masterChannel.isSome = b.masterChannel.isSome := hdid.channel_isSome
        rcases h₂ with ⟨hreq, ch, hm, hr⟩ | ⟨hreq, rfl⟩
        · have hf := hr.did (F := False) hm
          refine ⟨fun ha => ?_, fun _ _ _ => ?_⟩
          · show b₂.masterChannel.isSome = true
            rw [hf.channel_isSome]
            exact hch.trans (h₁.channel ha)
          · show b₂.gracefulFinisher.isSome = true
            rw [hf.gracefulFinisher]
            rfl
        · refine ⟨fun ha => ?_, fun _ _ hg => ?_⟩
          · show b₂.masterChannel.isSome = true
            exact hch.trans (h₁.channel ha)
          · rw [hreq] at hg
            cases hg
    | preInitError hd =>
      simp only [Server.preInitError] at hd
      split at hd
      · obtain ⟨b', hb', rfl⟩ := liftUnit_done hd
        obtain ⟨-, ⟨-, rfl⟩ | ⟨-, rfl⟩⟩ := Session.hoseIfNot_done hb'
        · exact h₁
        · exact h₁.inPlace rfl rfl id
      · cases hd

end Server

end IpcSession
