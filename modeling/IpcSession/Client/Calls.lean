import IpcSession.Base.Calls
import IpcSession.Client.Stages

namespace IpcSession

/-!
# The traces of the user's calls in a client

* `Client.CallsInv` — builders for `open_channel()`, its queued bodies, and the one that waits in
  `sync_request()`, are there in PEER state only, and none waits in a session that is hosed.
* `Client.step_state` — outside of CONNECTING only `async_connect()` changes the state.
-/

namespace Client

variable {cfg : Cfg} {s s' : Client} {o : ClientOracle}

/-! ### The code that is no call of the user -/

/-- The handler of an attempt runs: the user has not called anything by that. -/
theorem InvokeResult.sameCalls {f : OnDone} {e : ErrorCode} (h : InvokeResult s f e s') :
    s.toSession.SameCalls s'.toSession := by
  cases h with
  | plain => exact .record rfl
  | toNull => exact Session.SameCalls.dropChannel.trans (.record rfl)
  | toConnecting => exact .refl _

/-- An attempt succeeds. -/
theorem connectSucceeded_sameCalls {hook : Hook} (hd : s.connectSucceeded cfg hook = .done s') :
    s.toSession.SameCalls s'.toSession := by
  obtain ⟨-, f, -, hr⟩ := connectSucceeded_done hd
  exact hr.sameCalls

/-- Thread W's part of `async_connect()`. -/
theorem asyncConnect_sameCalls {attempt : Nat} {subClass : Bool} {b : Builder}
    (hd : s.asyncConnect cfg attempt subClass b o = .done s') :
    s.toSession.SameCalls s'.toSession := by
  have hput : ∀ (t : Session) (name : SharedName), t.SameCalls (t.putSrvNamespace name) :=
    fun t _ => { Session.SameCalls.refl t with }
  cases asyncConnect_done hd with
  | ignored hs => exact .record rfl
  | cnsFailed hs e hc => exact .record rfl
  | sockFailed hs pid => exact (hput s.toSession _).trans (.record rfl)
  | sendFailed hs pid hc hn hsrv hm t ht ch hch e =>
    have h₀ : s.toSession.SameCalls t.toSession := by
      rw [ht]
      exact (hput s.toSession _).trans (.setChannel _)
    have h₁ := h₀.trans (.failCall ch e)
    exact (h₁.trans .dropChannel).trans (.record rfl)
  | refused hs pid hc hn hsrv hm t ht ch hch e =>
    have h₀ : s.toSession.SameCalls t.toSession := by
      rw [ht]
      exact (hput s.toSession _).trans (.setChannel _)
    exact h₀.trans (.emitError ch e)
  | sent hs pid hc hn hsrv hm t ht ch hch =>
    have h₀ : s.toSession.SameCalls t.toSession := by
      rw [ht]
      exact (hput s.toSession _).trans (.setChannel _)
    exact (h₀.trans (.transmit ch _)).trans (.setChannel _)

/-- The server's requests for channels are expected from now on. -/
theorem expectOpenChannelReqs_sameCalls {b b' : Session} {h : OpenReqHandler} {r : Ret} {ok : Bool}
    (hd : b.expectOpenChannelReqs h r = .done (ok, b')) : b.SameCalls b' := by
  obtain ⟨ch, -, hr⟩ := Session.expectOpenChannelReqs_done hd
  exact hr.sameCalls (.flushTo ch h)

/-- The log-in response is read. -/
theorem readLogInRsp_sameCalls {attempt : Nat} {m : Msg} {res : Except Err (Nat × Mdt)}
    (hd : s.readLogInRsp cfg attempt m = .done (res, s')) :
    s.toSession.SameCalls s'.toSession := by
  obtain ⟨⟨v, w, name, rfl⟩, -⟩ := readLogInRsp_done hd
  exact .putCliNamespace name

/-- The handler of the log-in response. -/
theorem onMasterChannelLogInRsp_sameCalls {chan attempt : Nat} {m : Msg}
    (hd : s.onMasterChannelLogInRsp cfg chan m attempt o = .done s') :
    s.toSession.SameCalls s'.toSession := by
  simp only [onMasterChannelLogInRsp, Outcome.bind_eq_done, Prod.exists] at hd
  obtain ⟨res, s₁, hread, -, -, -, -, hd⟩ := hd
  have h₁ := readLogInRsp_sameCalls hread
  split at hd
  · obtain ⟨f, -, hr⟩ := invokeConnOnDoneFunc_done hd
    exact (h₁.trans .dropChannel).trans hr.sameCalls
  · split at hd
    · simp only [Outcome.bind_eq_done, Prod.exists] at hd
      obtain ⟨-, -, ok, s₂, h₂, hd⟩ := hd
      obtain ⟨b, hb, rfl⟩ := lift_done h₂
      have h₂ := h₁.trans (expectOpenChannelReqs_sameCalls hb)
      split at hd
      · exact h₂.trans (connectSucceeded_sameCalls hd)
      · cases hd
        exact h₂
    · simp only [Outcome.bind_eq_done, Prod.exists] at hd
      obtain ⟨-, -, ok, s₂, h₂, hd⟩ := hd
      obtain ⟨b, hb, rfl⟩ := lift_done h₂
      cases hd
      exact h₁.trans (expectOpenChannelReqs_sameCalls hb)

/-- A channel of the user's is made. -/
theorem createChannelObj_sameCalls {b b' : Session} {mqC2s mqS2c : SharedName}
    {hndl : Option NativeHandle} {active : Bool} {mqOpen : ErrorCode} {obj : ChannelObj}
    (hd : b.createChannelObj cfg mqC2s mqS2c hndl active mqOpen = .done (obj, b')) :
    b.SameCalls b' := by
  simp [Session.createChannelObj] at hd
  obtain ⟨-, -, -, -, rfl⟩ := hd
  cases active <;> exact { Session.SameCalls.refl b with }

/-- The last init-channel is there. -/
theorem initChannelsComplete_sameCalls {m : Msg} {cap : InitCapture} {chans : Channels}
    (hd : s.initChannelsComplete cfg m cap chans o = .done s') :
    s.toSession.SameCalls s'.toSession := by
  simp only [initChannelsComplete, Outcome.bind_eq_done, Prod.exists] at hd
  obtain ⟨ok₁, s₁, h₁, hd⟩ := hd
  obtain ⟨b₁, hb₁, rfl⟩ := lift_done h₁
  obtain ⟨ch₁, -, hr₁⟩ := Session.undoExpectOpenChannelReqs_done hb₁
  have h₁ := hr₁.sameCalls (.setChannel _)
  split at hd
  · cases hd
    exact h₁
  · simp only [Outcome.bind_eq_done, Prod.exists] at hd
    obtain ⟨ok₂, s₂, h₂, hd⟩ := hd
    obtain ⟨b₂, hb₂, rfl⟩ := lift_done h₂
    have h₂ := h₁.trans (expectOpenChannelReqs_sameCalls hb₂)
    split at hd
    · cases hd
      exact h₂
    · simp only [Outcome.bind_eq_done, Prod.exists] at hd
      obtain ⟨c, s₃, h₃, hd⟩ := hd
      obtain ⟨b₃, hb₃, rfl⟩ := lift_done h₃
      obtain ⟨ch₃, -, hr₃⟩ := Session.send_done hb₃
      have hsent := h₂.trans hr₃.sameCalls
      split at hd
      · cases hd
        exact hsent
      · obtain ⟨f, -, hr⟩ := invokeConnOnDoneFunc_done hd
        exact hsent.trans hr.sameCalls
      · simp only [Outcome.bind_eq_done] at hd
        obtain ⟨s₄, h₄, hd⟩ := hd
        obtain ⟨out, rfl⟩ := emitInitChannels_frame h₄
        exact hsent.trans (connectSucceeded_sameCalls hd)

/-- The handler of an init-channel. -/
theorem onMasterChannelInitOpenChannel_sameCalls {m : Msg} {cap : InitCapture}
    (hd : s.onMasterChannelInitOpenChannel cfg m cap o = .done s') :
    s.toSession.SameCalls s'.toSession := by
  have hrec : s.toSession.SameCalls (s.toSession.record (.initOpenChannelRan m.id)) := .record rfl
  simp only [onMasterChannelInitOpenChannel, Outcome.bind_eq_done] at hd
  obtain ⟨-, -, -, -, hd⟩ := hd
  split at hd
  · simp only [Outcome.bind_eq_done, Prod.exists] at hd
    obtain ⟨obj, s₁, h₁, -, -, hd⟩ := hd
    obtain ⟨b₁, hb₁, rfl⟩ := lift_done h₁
    have h₁ := hrec.trans (createChannelObj_sameCalls hb₁)
    split at hd
    · cases hd
      exact h₁
    · exact h₁.trans (initChannelsComplete_sameCalls hd)
  · cases hd

/-- The report of the channel's error. -/
theorem onMasterChannelError_sameCalls {chan : Nat} {e : Err}
    (hd : s.onMasterChannelError cfg chan e = .done s') :
    s.toSession.SameCalls s'.toSession := by
  simp only [onMasterChannelError] at hd
  split at hd
  · cases hd
    exact .refl _
  · split at hd
    · cases hd
    · simp only [Outcome.bind_eq_done] at hd
      obtain ⟨-, -, hd⟩ := hd
      obtain ⟨f, -, hr⟩ := invokeConnOnDoneFunc_done hd
      exact Session.SameCalls.dropChannel.trans hr.sameCalls
    · obtain ⟨b, hb, rfl⟩ := liftUnit_done hd
      exact Session.onMasterChannelErrorPeer_sameCalls hb

/-- What the server's request asks for is made, or cannot be. -/
theorem prepare_sameCalls {b b' : Session} {m : Msg} {mqOpen : ErrorCode} {p : Session.Prepared}
    (hd : prepare cfg m mqOpen b = .done (p, b')) : b.SameCalls b' := by
  simp only [prepare] at hd
  split at hd
  · split at hd
    · simp only [Outcome.bind_eq_done, Prod.exists] at hd
      obtain ⟨ch, b₁, h₁, hd⟩ := hd
      cases hd
      exact createChannelObj_sameCalls h₁
    · cases hd
  · cases hd
    exact .refl b

/-- The handler of the server's request for a channel. -/
theorem onMasterChannelOpenChannelReq_sameCalls {b b' : Session} {m : Msg}
    (hd : onMasterChannelOpenChannelReq cfg m o b = .done b') : b.SameCalls b' := by
  have hrec : b.SameCalls (b.record (.openChannelReqRan m.id)) := .record rfl
  simp only [onMasterChannelOpenChannelReq, Outcome.bind_eq_done] at hd
  obtain ⟨h, -, hd⟩ := hd
  split at hd
  · cases hd
    exact hrec
  · simp only [Outcome.bind_eq_done, Prod.exists] at hd
    obtain ⟨-, -, p, b₁, hp, hd⟩ := hd
    obtain ⟨ch, -, hr⟩ := Session.openChannelReqRespond_done hd
    exact (hrec.trans (prepare_sameCalls hp)).trans hr.sameCalls

/-- `open_channel()` reads the server's answer, and returns. -/
theorem openChannelRsp_sameCalls {b b' : Session} {call req : Nat} {mqOpen : ErrorCode} {m : Msg}
    (hd : openChannelRsp cfg call req mqOpen m b = .done b') : b.SameCalls b' := by
  simp only [openChannelRsp] at hd
  split at hd
  · simp only [Outcome.bind_eq_done, Prod.exists] at hd
    obtain ⟨ch, b₁, h₁, hd⟩ := hd
    cases hd
    exact (createChannelObj_sameCalls h₁).trans .returned
  · cases hd; exact .returned
  · cases hd; exact .returned
  · cases hd
  · cases hd

/-- A sub-class completes an attempt. -/
theorem completeAsyncConnect_sameCalls {e : ErrorCode} {r : Ret}
    (hd : s.completeAsyncConnectAfterCancelingPeerState cfg e r = .done s') :
    s.toSession.SameCalls s'.toSession := by
  simp only [completeAsyncConnectAfterCancelingPeerState, Outcome.bind_eq_done,
    Prod.exists] at hd
  obtain ⟨hosed, s₁, h₁, -, -, hd⟩ := hd
  obtain ⟨b₁, hb₁, rfl⟩ := lift_done h₁
  obtain ⟨hosed', -, hb₁⟩ := Outcome.bind_eq_done.mp hb₁
  cases hb₁
  cases e with
  | some e =>
    obtain ⟨f, -, hr⟩ := invokeConnOnDoneFunc_done hd
    exact Session.SameCalls.dropChannel.trans hr.sameCalls
  | none =>
    simp only [Outcome.bind_eq_done] at hd
    obtain ⟨s₂, h₂, hd⟩ := hd
    obtain ⟨f, -, hr⟩ := invokeConnOnDoneFunc_done hd
    simp only [engageFinisher] at h₂
    split at h₂
    · obtain ⟨b₂, hb₂, rfl⟩ := liftUnit_done h₂
      obtain ⟨ch, -, hf⟩ := Session.emplaceGracefulFinisher_done hb₂
      exact (hf.sameCalls).trans hr.sameCalls
    · cases h₂
      exact hr.sameCalls

/-! ### The state -/

/-- Thread W is about to start a connect attempt in NULL state. -/
def startsConnect (s : Client) : Act → Bool
  | .run _ => s.state = .null && s.queue.head?.any Task.isAsyncConnect
  | _ => false

/-- Outside of an attempt no task changes the state, but for that of `async_connect()`. -/
theorem runTask_state {t : Task} (hs : s.state ≠ .connecting)
    (hno : t.isAsyncConnect = true → s.state ≠ .null) (hd : s.runTask cfg o t = .done s') :
    s'.state = s.state := by
  cases t with
  -- An error ends a connect, in CONNECTING state only.
  | masterChannelError chan e =>
    simp only [runTask, onMasterChannelError] at hd
    split at hd
    · cases hd
      rfl
    · split at hd
      · cases hd
      · rename_i hc
        exact absurd hc hs
      · obtain ⟨b, -, rfl⟩ := liftUnit_done hd
        rfl
  -- Both handlers of the log-in check for CONNECTING state themselves.
  | logInRsp chan m attempt =>
    simp only [runTask, onMasterChannelLogInRsp, Outcome.bind_eq_done, Prod.exists,
      Outcome.check_eq_done] at hd
    obtain ⟨res, s₁, hread, -, hc, -⟩ := hd
    obtain ⟨hst, -⟩ := readLogInRsp_frame hread
    exact absurd (hst ▸ of_decide_eq_true hc) hs
  | initOpenChannel chan m cap =>
    simp only [runTask, onMasterChannelInitOpenChannel, Outcome.bind_eq_done,
      Outcome.check_eq_done] at hd
    obtain ⟨-, hc, -⟩ := hd
    exact absurd (of_decide_eq_true hc) hs
  -- A second connect() outside NULL state is ignored.
  | asyncConnect attempt subClass b =>
    simp only [runTask, asyncConnect, if_pos (hno rfl)] at hd
    cases hd
    rfl
  | mdtBuilder call mdt =>
    simp only [runTask, mdtBuilder] at hd
    split at hd <;> cases hd <;> rfl
  | sessionToken =>
    simp only [runTask, sessionToken] at hd
    split at hd
    · cases hd
      rfl
    · obtain ⟨b, -, rfl⟩ := liftUnit_done hd
      rfl
  | openChannelReq | gracefulSessionEnd | openChannel | dtorSendEnd =>
    obtain ⟨b, -, rfl⟩ := liftUnit_done hd
    rfl
  | dtorFinisherQuery => cases hd; rfl
  | dtorFlush => cases hd; rfl
  | logInReq => cases hd
  | acceptLogIn => cases hd
  | initHandlers => cases hd
  | preInitError => cases hd

/-- **Outside of CONNECTING only the start of an attempt changes the state.** -/
theorem step_state {a : Act} (hs : s.state ≠ .connecting) (hno : s.startsConnect a = false)
    (hd : step cfg s a = .done s') : s'.state = s.state := by
  cases a with
  | mdtBuilder | sessionToken =>
    simp only [step, Outcome.bind_eq_done] at hd
    obtain ⟨-, -, hd⟩ := hd
    cases hd
    rfl
  | connect call attempt out subClass =>
    simp only [step, connect, Outcome.bind_eq_done, Prod.exists] at hd
    obtain ⟨-, -, bl, s₁, h₁, hd⟩ := hd
    obtain ⟨b, -, rfl⟩ := lift_done h₁
    split at hd
    · cases hd
    · simp only [Outcome.bind_eq_done] at hd
      obtain ⟨-, -, hd⟩ := hd
      cases hd
      rfl
  | openChannel call =>
    simp only [step, Outcome.bind_eq_done] at hd
    obtain ⟨-, -, hd⟩ := hd
    obtain ⟨b, -, rfl⟩ := liftUnit_done hd
    rfl
  -- Of the tasks, only a connect moves the state out of NULL, and it is excluded.
  | run o =>
    simp only [step, Outcome.bind_eq_done, Prod.exists] at hd
    obtain ⟨t, s₁, h₁, hd⟩ := hd
    obtain ⟨b, hb, rfl⟩ := lift_done h₁
    obtain ⟨-, hq, -⟩ := Session.takeTask_done hb
    refine runTask_state (s := s.setSession b) hs (fun ht hn => ?_) hd
    have hn : s.state = .null := hn
    simp [startsConnect, hq, ht, hn] at hno
  | syncReturn r mqOpen =>
    simp only [step] at hd
    split at hd
    · obtain ⟨b, -, rfl⟩ := liftUnit_done hd
      rfl
    · cases hd
  | subClassSend r =>
    simp only [step, Outcome.bind_eq_done, Prod.exists] at hd
    obtain ⟨-, -, c, s₁, h₁, hd⟩ := hd
    cases hd
    obtain ⟨b, -, rfl⟩ := lift_done h₁
    rfl
  -- A completion is a matter of CONNECTING state.
  | complete e r =>
    simp only [step, Outcome.bind_eq_done, Outcome.require_eq_done, Bool.and_eq_true] at hd
    obtain ⟨-, ⟨ht, -⟩, -⟩ := hd
    exact absurd (takenOver_state ht) hs
  | deliver | channelError | dtorStart | dtorStep | flushDone =>
    obtain ⟨b, -, rfl⟩ := liftUnit_done hd
    rfl

/-! ### The traces of calls -/

/-- The result of `mdt_builder()` that the user holds under this name. -/
def builderOf (s : Client) (call : Nat) : Option (Option Builder) :=
  (s.builders.find? (fun p => p.1 = call)).map (·.2)

/-- The builder that a call uses up is the one that the user holds under its name. -/
theorem takeBuilder_builderOf {b : Session} {call : Nat} {bl : Option Builder}
    (hd : s.takeBuilder call = .done (bl, b)) : s.builderOf call = some bl := by
  cases hf : s.builders.find? (fun p => p.1 = call) with
  | none => simp [Session.takeBuilder, hf] at hd
  | some p =>
    simp only [Session.takeBuilder, hf, Outcome.done.injEq, Prod.mk.injEq] at hd
    rw [builderOf, hf, ← hd.1]
    rfl

/-- The user holds it. -/
theorem mem_of_builderOf {call : Nat} {bl : Option Builder} (h : s.builderOf call = some bl) :
    (call, bl) ∈ s.builders := by
  simp only [builderOf, Option.map_eq_some_iff] at h
  obtain ⟨⟨k, x⟩, hf, rfl⟩ := h
  have hk : k = call := by simpa using List.find?_some hf
  rw [← hk]
  exact List.mem_of_find?_eq_some hf

/-- The documented rule on builders: one that `mdt_builder()` returned in NULL state is for
    `sync_connect()`, one that it returned in PEER state is for `open_channel()`. -/
def followsRule (s : Client) : Act → Bool
  | .connect call .. => (s.builderOf call).all (fun bl => bl.any (·.forLogIn))
  | .openChannel call => (s.builderOf call).all (fun bl => bl.all (!·.forLogIn))
  | _ => true

/-- Thread W waits in `open_channel()`, if it waits, in PEER state and not hosed; and what else the
    calls have left. -/
structure CallsInv (s : Client) : Prop where
  onErrFuncSet : s.onErrFuncSet = true
  builders : ∀ call b, (call, some b) ∈ s.builders → b.forLogIn = false → s.state = .peer
  tasks : ∀ call b, Task.openChannel call b ∈ s.queue → b.forLogIn = false ∧ s.state = .peer
  sync : s.w.inOpenChannel = true → s.state = .peer ∧ s.peerStateErrCodeOrOk = none

/-- No call is under way. -/
theorem callsInv_fresh (passiveOpen : Bool) : CallsInv (fresh passiveOpen) where
  onErrFuncSet := rfl
  builders := fun _ _ h => (by cases h)
  tasks := fun _ _ h => (by cases h)
  sync := fun h => (by cases h)

/-- Thread W waits in `open_channel()` if it waits in its `sync_request()`. -/
theorem inOpenChannel_iff {w : Worker} : w.inOpenChannel = true ↔
    ∃ call opened req rsp, w = .inSyncRequest (.openChannel call opened) req rsp := by
  constructor
  · intro h
    cases w with
    | inSyncRequest k req rsp =>
      cases k with
      | openChannel call opened => exact ⟨call, opened, req, rsp, rfl⟩
      | initChannels => cases h
    | _ => cases h
  · rintro ⟨call, opened, req, rsp, rfl⟩
    rfl

namespace CallsInv

/-- Code that is no call of the user. -/
theorem of_same (h : CallsInv s) (hs : s.toSession.SameCalls s'.toSession)
    (hst : s.state = .peer → s'.state = .peer)
    (hp : s'.w.inOpenChannel = true → s'.peerStateErrCodeOrOk = s.peerStateErrCodeOrOk) :
    CallsInv s' where
  onErrFuncSet := hs.onErrFuncSet.trans h.onErrFuncSet
  builders := fun call b hb hl => hst (h.builders call b (hs.builders _ hb) hl)
  tasks := fun call b ht => (h.tasks call b (hs.tasks call b ht)).imp id hst
  sync := fun hw => by
    obtain ⟨call, opened, req, rsp, hw'⟩ := inOpenChannel_iff.mp hw
    obtain ⟨rsp', hw'⟩ := hs.sync call opened req rsp hw'
    obtain ⟨h₁, h₂⟩ := h.sync (inOpenChannel_iff.mpr ⟨_, _, _, _, hw'⟩)
    exact ⟨hst h₁, (hp hw).trans h₂⟩

/-- Code in a task leaves thread W idle, or is `open_channel()`. -/
theorem of_task (h : CallsInv s) (hw : s.w = .idle) (hs : s.toSession.SameCalls s'.toSession)
    (hst : s.state = .peer → s'.state = .peer) : CallsInv s' := by
  refine h.of_same hs hst fun hw' => ?_
  obtain ⟨call, opened, req, rsp, hw'⟩ := inOpenChannel_iff.mp hw'
  obtain ⟨rsp', hw'⟩ := hs.sync call opened req rsp hw'
  rw [hw] at hw'
  cases hw'

/-- Code of the session that is not of the calls, run by an idle thread W. -/
theorem liftTask {f : Session → Outcome Failure Session} (h : CallsInv s) (hw : s.w = .idle)
    (hf : ∀ b', f s.toSession = .done b' → s.toSession.SameCalls b')
    (hd : s.liftUnit f = .done s') : CallsInv s' := by
  obtain ⟨b, hb, rfl⟩ := liftUnit_done hd
  exact h.of_task hw (hf b hb) id

/-- A task leaves the queue. -/
theorem takeTask {t : Task} {b : Session} (h : CallsInv s) (hd : s.takeTask = .done (t, b)) :
    CallsInv (s.setSession b) := by
  obtain ⟨hw, -, -⟩ := Session.takeTask_done hd
  exact h.of_task hw (.takeTask hd) id

/-- `mdt_builder()` returns a builder that fits the state. -/
theorem mdtBuilder (h : CallsInv s) (call : Nat) (mdt : Mdt) :
    CallsInv (s.mdtBuilder call mdt) := by
  have give : ∀ bl : Option Builder, (∀ b, bl = some b → b.forLogIn = false → s.state = .peer) →
      CallsInv (s.setSession (s.giveBuilder call bl)) := by
    intro bl hbl
    refine ⟨h.onErrFuncSet, fun k b hb hl => ?_, h.tasks, h.sync⟩
    rcases List.mem_cons.mp hb with hb | hb
    · cases hb
      exact hbl b rfl hl
    · exact h.builders k b hb hl
  simp only [Client.mdtBuilder]
  split
  · exact give _ fun b hb => (by cases hb)
  · refine give _ fun b hb hl => ?_
    cases hb
    cases hl
  · rename_i hp
    exact give _ fun _ _ _ => hp

end CallsInv

/-- `open_channel()` starts to wait only in a session that is not hosed. -/
theorem openChannelBody_waits {b b' : Session} {inPeer : Bool} {call : Nat} {bl : Builder} {r : Ret}
    (hw : b.w = .idle) (hd : b.openChannelBody inPeer call bl r = .done b')
    (hw' : b'.w.inOpenChannel = true) : b'.peerStateErrCodeOrOk = none := by
  obtain ⟨-, -, hr⟩ := Session.openChannelBody_done hd
  have hno : b.w.inOpenChannel ≠ true := by rw [hw]; exact Bool.false_ne_true
  cases hr with
  | sent hp ch hm hh => exact hp
  | _ => exact absurd hw' hno

/-- Whatever task it is, the calls are as the invariant says. -/
theorem runTask_callsInv {t : Task} (h : CallsInv s) (hw : s.w = .idle)
    (hd : s.runTask cfg o t = .done s') : CallsInv s' := by
  -- No task leaves PEER state, which is what the tasks of thread U rely on.
  have hst : s.state = .peer → s'.state = .peer := fun hp =>
    (runTask_state (by simp [hp]) (fun _ => by simp [hp]) hd).trans hp
  cases t with
  | masterChannelError chan e => exact h.of_task hw (onMasterChannelError_sameCalls hd) hst
  | logInRsp chan m attempt => exact h.of_task hw (onMasterChannelLogInRsp_sameCalls hd) hst
  | initOpenChannel chan m cap =>
    exact h.of_task hw (onMasterChannelInitOpenChannel_sameCalls hd) hst
  | openChannelReq chan m =>
    exact h.liftTask hw (fun b hb => onMasterChannelOpenChannelReq_sameCalls hb) hd
  | gracefulSessionEnd chan =>
    exact h.liftTask hw (fun b hb => Session.onGracefulSessionEnd_sameCalls hb) hd
  | asyncConnect attempt subClass b => exact h.of_task hw (asyncConnect_sameCalls hd) hst
  | mdtBuilder call mdt =>
    cases hd
    exact h.mdtBuilder call mdt
  | openChannel call bl =>
    obtain ⟨b, hb, rfl⟩ := liftUnit_done hd
    -- The one task that may leave W waiting; then the session has a request out.
    have hp := (Session.openChannelBody_done hb).1
    rcases Session.openChannelBody_calls hb with hs | ⟨b₁, req, hs, rfl⟩
    · exact h.of_task hw hs id
    · have h₁ : CallsInv (s.setSession b₁) := h.of_task hw hs id
      refine ⟨h₁.onErrFuncSet, h₁.builders, h₁.tasks, fun _ => ⟨of_decide_eq_true hp, ?_⟩⟩
      exact openChannelBody_waits hw hb rfl
  | sessionToken =>
    simp only [runTask, sessionToken] at hd
    split at hd
    · cases hd
      exact h.of_task hw (.record rfl) id
    · exact h.liftTask hw (fun b hb => Session.sessionToken_sameCalls hb) hd
  | dtorFinisherQuery =>
    cases hd
    exact h.of_task hw (.setDtor _) id
  | dtorSendEnd => exact h.liftTask hw (fun b hb => Session.dtorSendEnd_sameCalls hb) hd
  | dtorFlush =>
    cases hd
    exact h.of_task hw (Session.dtorFlush_sameCalls _) id
  | logInReq => cases hd
  | acceptLogIn => cases hd
  | initHandlers => cases hd
  | preInitError => cases hd

/-- **Every step that follows the rule on builders keeps the invariant.** -/
theorem step_callsInv {a : Act} (h : CallsInv s) (hr : s.followsRule a = true)
    (hd : step cfg s a = .done s') : CallsInv s' := by
  cases a with
  | mdtBuilder | sessionToken =>
    simp only [step, Outcome.bind_eq_done] at hd
    obtain ⟨-, -, hd⟩ := hd
    cases hd
    exact h.of_same (.post rfl) id fun _ => rfl
  | connect call attempt out subClass =>
    simp only [step, connect, Outcome.bind_eq_done, Prod.exists] at hd
    obtain ⟨-, -, bl, s₁, h₁, hd⟩ := hd
    obtain ⟨b, hb, rfl⟩ := lift_done h₁
    have htake : s.toSession.SameCalls b := .takeBuilder hb
    have hp : b.peerStateErrCodeOrOk = s.peerStateErrCodeOrOk := by
      obtain ⟨-, rfl⟩ := Session.takeBuilder_done hb
      rfl
    split at hd
    · cases hd
    · simp only [Outcome.bind_eq_done] at hd
      obtain ⟨-, -, hd⟩ := hd
      cases hd
      exact h.of_same (htake.trans (.post rfl)) id fun _ => hp
  -- The only call for which the rule matters: the builder it names must not be the log-in's.
  | openChannel call =>
    simp only [step, Outcome.bind_eq_done] at hd
    obtain ⟨-, -, hd⟩ := hd
    obtain ⟨b, hb, rfl⟩ := liftUnit_done hd
    simp only [openChannel, Outcome.bind_eq_done, Prod.exists] at hb
    obtain ⟨bl, b₁, h₁, hb⟩ := hb
    have hof := takeBuilder_builderOf h₁
    have htake : CallsInv (s.setSession b₁) := by
      refine h.of_same (.takeBuilder h₁) id fun _ => ?_
      obtain ⟨-, rfl⟩ := Session.takeBuilder_done h₁
      rfl
    cases bl with
    | none =>
      cases hb
      exact htake.of_same .returned id fun _ => rfl
    | some bl =>
      cases hb
      have hl : bl.forLogIn = false := by
        simpa [followsRule, hof] using hr
      refine ⟨htake.onErrFuncSet, htake.builders, fun k x hx => ?_, htake.sync⟩
      rcases List.mem_append.mp hx with hx | hx
      · exact htake.tasks k x hx
      · cases List.mem_singleton.mp hx
        exact ⟨hl, h.builders call bl (mem_of_builderOf hof) hl⟩
  | run o =>
    simp only [step, Outcome.bind_eq_done, Prod.exists] at hd
    obtain ⟨t, s₁, h₁, hd⟩ := hd
    obtain ⟨b, hb, rfl⟩ := lift_done h₁
    obtain ⟨hw, -, hbs⟩ := Session.takeTask_done hb
    exact runTask_callsInv (h.takeTask hb) (by rw [setSession_toSession, hbs]; exact hw) hd
  -- Thread W leaves sync_request(): with a response it goes on as a task, without one the call
  -- returns at once.
  | syncReturn r mqOpen =>
    simp only [step] at hd
    split at hd
    · rename_i call opened req rsp hw
      obtain ⟨b, hb, rfl⟩ := liftUnit_done hd
      have hidle : s.toSession.SameCalls (s.toSession.setW .idle) := .setW rfl
      rcases Session.openChannelSyncReturn_done hb with ⟨m, -, -, hr⟩ | ⟨-, hr⟩
      · have h₁ : CallsInv (s.setSession (s.toSession.setW .idle)) :=
          h.of_same hidle id fun _ => rfl
        exact h₁.of_task rfl (openChannelRsp_sameCalls hr) id
      · refine h.of_same hr.sameCalls id fun hw' => ?_
        have hi : b.w = .idle := by cases hr <;> rfl
        rw [setSession_toSession, hi] at hw'
        cases hw'
    · cases hd
  -- A sub-class sends from within its own task on thread W, so no sync_request() is under way.
  | subClassSend r =>
    simp only [step, Outcome.bind_eq_done, Prod.exists, Outcome.require_eq_done] at hd
    obtain ⟨-, ht, c, s₁, h₁, hd⟩ := hd
    cases hd
    obtain ⟨b, hb, rfl⟩ := lift_done h₁
    obtain ⟨ch, -, hr⟩ := Session.send_done hb
    simp only [takenOver, Bool.and_eq_true, decide_eq_true_eq] at ht
    exact h.of_task ht.1.1 hr.sameCalls id
  -- A taken-over completion runs in CONNECTING state; what is claimed of PEER state is void there.
  | complete e r =>
    simp only [step, Outcome.bind_eq_done, Outcome.require_eq_done, Bool.and_eq_true] at hd
    obtain ⟨-, ⟨ht, -⟩, hd⟩ := hd
    have hs := takenOver_state ht
    simp only [takenOver, Bool.and_eq_true, decide_eq_true_eq] at ht
    exact h.of_task ht.1.1 (completeAsyncConnect_sameCalls hd) fun hp => by
      rw [hs] at hp
      cases hp
  | deliver m =>
    obtain ⟨b, hb, rfl⟩ := liftUnit_done hd
    exact h.of_same (Session.deliver_sameCalls hb) id fun _ =>
      (Session.deliver_quiet hb).peerStateErrCodeOrOk
  | channelError e =>
    obtain ⟨b, hb, rfl⟩ := liftUnit_done hd
    obtain ⟨ch, -, -, rfl⟩ := Session.channelError_done hb
    exact h.of_same (.emitError ch e) id fun _ => rfl
  | dtorStart =>
    obtain ⟨b, hb, rfl⟩ := liftUnit_done hd
    refine h.of_same (Session.dtorStart_sameCalls hb) id fun _ => ?_
    cases Session.dtorStart_act hb <;> rfl
  | dtorStep =>
    obtain ⟨b, hb, rfl⟩ := liftUnit_done hd
    refine h.of_same (Session.dtorStep_sameCalls hb) id fun _ => ?_
    cases Session.dtorStep_act hb <;> rfl
  | flushDone =>
    obtain ⟨b, hb, rfl⟩ := liftUnit_done hd
    refine h.of_same (Session.dtorFlushDone_sameCalls hb) id fun _ => ?_
    cases Session.dtorFlushDone_act hb <;> rfl

end Client

end IpcSession
