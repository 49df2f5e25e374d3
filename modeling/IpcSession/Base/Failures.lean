import IpcSession.Base.Frame

namespace IpcSession

/-!
# What session code can fail with

Three assertions say that something is done once: `set_srv_namespace()` and
`set_cli_namespace()` that the namespace is not set yet, `hose()` that the session is not hosed
yet; and a promise throws where it is fulfilled twice.  The common session code never fails with
one of the first two, with the third only where it is started on a session that is hosed, and with
the last only where the finisher's promise is fulfilled; `Session.…_fine` says so of each piece.
-/

/-- A failure other than those of the two setters, where `n` is set, other than that of `hose()`,
    where `f` is set, and other than that of the promise, where `g` is set. -/
@[simp] def Failure.IsFine (n f g : Bool) (e : Failure) : Prop :=
  (n = true → e ≠ .setSrvNamespace ∧ e ≠ .setCliNamespace) ∧ (f = true → e ≠ .hoseTwice) ∧
    (g = true → e ≠ .promiseAlreadySatisfied)

/-- If it fails, then with a fine assertion. -/
abbrev Fine {α : Type} (n f g : Bool) (x : Outcome Failure α) : Prop :=
  x.FailsOnly (Failure.IsFine n f g)

namespace Session

variable {n f g : Bool} {s : Session} {r : Ret} {cfg : Cfg} {e : Err}

/-! ### The calls on the channel -/

/-- A call on the channel fails an assertion only where there is no channel. -/
@[simp] theorem call_fine : Fine n f g (s.call r) := by
  unfold call
  split
  · simp
  · split <;> simp

/-- `send()` does nothing else that could fail. -/
@[simp] theorem send_fine {rspTo : Option Nat} {hndl : Option NativeHandle} {body : Body} :
    Fine n f g (s.send rspTo hndl body r) := by
  simp only [send, Outcome.failsOnly_bind, call_fine, true_and]
  intro c hc
  split <;> simp

/-- Nor does a call that emits no error. -/
@[simp] theorem callNoError_fine : Fine n f g (s.callNoError r) := by
  simp only [callNoError, Outcome.failsOnly_bind, call_fine, true_and]
  intro c hc
  split <;> simp

/-- `expect_msgs()` is such a call. -/
@[simp] theorem expectOpenChannelReqs_fine {h : OpenReqHandler} :
    Fine n f g (s.expectOpenChannelReqs h r) := by
  simp only [expectOpenChannelReqs, Outcome.failsOnly_bind, callNoError_fine, true_and]
  intro c hc
  split <;> simp

/-- `undo_expect_msgs()` is such a call. -/
@[simp] theorem undoExpectOpenChannelReqs_fine : Fine n f g (s.undoExpectOpenChannelReqs r) := by
  simp only [undoExpectOpenChannelReqs, Outcome.failsOnly_bind, callNoError_fine, true_and]
  intro c hc
  split <;> simp

/-- The environment fails no assertion. -/
@[simp] theorem channelError_fine : Fine n f g (s.channelError e) := by
  unfold channelError
  split <;> simp

/-- Nor does a message that comes in. -/
@[simp] theorem deliver_fine {m : Msg} : Fine n f g (s.deliver m) := by
  unfold deliver
  split
  · simp
  · simp only [Outcome.failsOnly_bind, Outcome.failsOnly_require, true_and]
    intro _ _
    split <;> simp

/-- Taking a task fails nothing. -/
@[simp] theorem takeTask_fine : Fine n f g s.takeTask := by
  simp only [takeTask, Outcome.failsOnly_bind, Outcome.failsOnly_require, true_and]
  intro _ _
  split <;> simp

/-- A call with a builder that the user does not have cannot be made, rather than fail. -/
@[simp] theorem takeBuilder_fine {call : Nat} : Fine n f g (s.takeBuilder call) := by
  unfold takeBuilder
  split <;> simp

/-! ### The code of PEER state -/

/-- `hosed()` fails where the on-error handler is not set. -/
@[simp] theorem hosed_fine : Fine n f g s.hosed := by
  simp [hosed]

/-- `hose()` fails besides where the session is hosed already. -/
theorem hose_fine {site : HoseSite} (hp : f = true → s.peerStateErrCodeOrOk = none) :
    Fine n f g (s.hose e site) := by
  simp only [hose, Outcome.failsOnly_bind, hosed_fine, true_and]
  intro h hh
  obtain ⟨-, rfl⟩ := hosed_done hh
  cases f with
  | false => simp
  | true => simp [hp rfl]

/-- An error after the first is dropped, so that nothing is hosed twice. -/
@[simp] theorem hoseIfNot_fine {site : HoseSite} : Fine n f g (s.hoseIfNot e site) := by
  simp only [hoseIfNot, Outcome.failsOnly_bind, hosed_fine, true_and]
  intro h hh
  obtain ⟨-, rfl⟩ := hosed_done hh
  cases hp : s.peerStateErrCodeOrOk with
  | some e' => simp
  | none => simpa using hose_fine (fun _ => hp)

/-- Engaging the finisher takes a channel. -/
@[simp] theorem emplaceGracefulFinisher_fine : Fine n f g (s.emplaceGracefulFinisher r) := by
  simp only [emplaceGracefulFinisher, Outcome.failsOnly_bind, callNoError_fine, true_and]
  intro c hc
  split
  · split <;> simp
  · simp

/-- The error is told to a finisher that is there. -/
@[simp] theorem onMasterChannelHosed_fine : Fine n f g s.onMasterChannelHosed := by
  unfold onMasterChannelHosed
  split
  · simp
  · simp

/-- The promise of the finisher can be fulfilled once: a second `GracefulSessionEnd` would throw. -/
theorem onGracefulSessionEnd_fine (hg : g = true → s.gracefulFinisher ≠ some true) :
    Fine n f g s.onGracefulSessionEnd := by
  unfold onGracefulSessionEnd
  split
  · simp
  · rename_i satisfied hf
    simp only [Outcome.failsOnly_bind, hoseIfNot_fine, implies_true, and_true]
    cases g with
    | false => simp
    | true =>
      cases satisfied with
      | false => simp
      | true => exact absurd hf (hg rfl)

/-- In PEER state the report of an error fails nothing of its own. -/
@[simp] theorem onMasterChannelErrorPeer_fine :
    Fine n f g (s.onMasterChannelErrorPeer cfg e) := by
  simp only [onMasterChannelErrorPeer, Outcome.failsOnly_bind, hoseIfNot_fine, true_and]
  intro _ _
  split <;> simp

/-- An error out of the `sync_request()` hoses the session, which must not be hosed. -/
theorem openChannelSyncError_fine {call : Nat} {req : Option Nat}
    (hp : f = true → s.peerStateErrCodeOrOk = none) :
    Fine n f g (s.openChannelSyncError call req e) := by
  unfold openChannelSyncError
  split
  · simp
  · simp [hose_fine hp]

/-- A call on the channel does not hose the session. -/
theorem SendResult.peerStateErrCodeOrOk {s' : Session} {ch : MasterChannel} {m : Nat → Msg}
    {c : Called} (h : SendResult s ch m r c s') :
    s'.peerStateErrCodeOrOk = s.peerStateErrCodeOrOk := by
  cases h <;> rfl

/-- Thread W's part of `open_channel()` looks at `hosed()` first. -/
@[simp] theorem openChannelBody_fine {inPeer : Bool} {call : Nat} {b : Builder} :
    Fine n f g (s.openChannelBody inPeer call b r) := by
  simp only [openChannelBody, Outcome.failsOnly_bind]
  refine ⟨by simp, fun _ _ => ⟨by simp, fun h hh => ?_⟩⟩
  obtain ⟨-, rfl⟩ := hosed_done hh
  cases hp : s.peerStateErrCodeOrOk with
  | some e' => simp
  | none =>
    simp only [Option.isSome_none, Bool.false_eq_true, if_false, Outcome.failsOnly_bind]
    refine ⟨by simp, fun _ _ => ⟨by simp, fun _ _ => ⟨by simp, fun c hc => ?_⟩⟩⟩
    obtain ⟨ch, -, hr⟩ := send_done hc
    split
    · simp
    · simp
    · exact openChannelSyncError_fine (fun _ => hr.peerStateErrCodeOrOk.trans hp)

/-- Coming back without a response does not hose the session. -/
theorem SyncNoResponse.peerStateErrCodeOrOk {s' : Session} {r : SyncRes} {e : Option Err}
    (h : SyncNoResponse s r e s') : s'.peerStateErrCodeOrOk = s.peerStateErrCodeOrOk := by
  cases h <;> rfl

/-- Nor does it fail any assertion of these. -/
@[simp] theorem syncReturnNoResponse_fine {r : SyncRes} {rsp : Option Msg} :
    Fine n f g (s.syncReturnNoResponse r rsp) := by
  simp only [syncReturnNoResponse, Outcome.failsOnly_bind, Outcome.failsOnly_require, true_and]
  intro _ _
  split
  · simp
  · simp
  · simp
  · simp only [Outcome.failsOnly_bind, Outcome.failsOnly_require, call_fine, true_and]
    intro _ _ c _
    split <;> simp

/-- Coming back from the `sync_request()` with an error hoses the session, which must not be hosed.
    -/
theorem openChannelSyncReturn_fine {onRsp : Msg → Session → Outcome Failure Session}
    {call req : Nat} {rsp : Option Msg} {r : SyncRes} (h : ∀ m s, Fine n f g (onRsp m s))
    (hp : f = true → s.peerStateErrCodeOrOk = none) :
    Fine n f g (s.openChannelSyncReturn onRsp call req rsp r) := by
  unfold openChannelSyncReturn
  split
  · exact h _ _
  · simp only [Outcome.failsOnly_bind, syncReturnNoResponse_fine, true_and]
    intro c hc
    obtain ⟨-, hr⟩ := syncReturnNoResponse_done hc
    split
    · simp
    · exact openChannelSyncError_fine (fun hf => hr.peerStateErrCodeOrOk.trans (hp hf))

/-- The answer to the peer's request is sent on a session that is not hosed. -/
theorem openChannelReqRespond_fine {m : Msg} {p : Prepared}
    (hp : f = true → s.peerStateErrCodeOrOk = none) :
    Fine n f g (s.openChannelReqRespond m p r) := by
  simp only [openChannelReqRespond, Outcome.failsOnly_bind, send_fine, true_and]
  intro c hc
  obtain ⟨ch, -, hr⟩ := send_done hc
  split
  · simp
  · exact hose_fine (fun hf => hr.peerStateErrCodeOrOk.trans (hp hf))
  · split <;> simp

/-- The user's channel is made without an assertion. -/
@[simp] theorem createChannelObj_fine {mqC2s mqS2c : SharedName} {hndl : Option NativeHandle}
    {active : Bool} {mqOpen : ErrorCode} :
    Fine n f g (s.createChannelObj cfg mqC2s mqS2c hndl active mqOpen) := by
  simp [createChannelObj]

/-- `session_token()` asks `hosed()`. -/
@[simp] theorem sessionToken_fine : Fine n f g s.sessionToken := by
  simp only [sessionToken, Outcome.failsOnly_bind, hosed_fine, true_and]
  intro h _
  cases h <;> simp

/-! ### The destructor -/

/-- The destructor starts in any state. -/
@[simp] theorem dtorStart_fine : Fine n f g (s.dtorStart cfg) := by
  simp only [dtorStart, Outcome.failsOnly_bind, Outcome.failsOnly_require, true_and]
  intro _ _
  split <;> simp

/-- What it sends takes a channel. -/
@[simp] theorem dtorSendEnd_fine : Fine n f g (s.dtorSendEnd r) := by
  simp [dtorSendEnd]

/-- The end of the flush fails nothing. -/
@[simp] theorem dtorFlushDone_fine : Fine n f g s.dtorFlushDone := by
  simp [dtorFlushDone]

/-- Nor does any other point of the destructor. -/
@[simp] theorem dtorStep_fine : Fine n f g s.dtorStep := by
  unfold dtorStep
  split <;> simp

end Session

end IpcSession
