import IpcSession.Base.Peer

namespace IpcSession

/-!
# Session code that does not fail

`Safe x` says that no assertion fails in `x`.  One lemma for each piece of the common session code
names what it needs for that: the channel is there, the handlers are set, the session is not
hosed yet, the finisher is engaged.
-/

/-- No assertion fails. -/
abbrev Safe {α : Type} (x : Outcome Failure α) : Prop := x.FailsOnly (fun _ => False)

/-- Safe code has no way to fail. -/
theorem Safe.not_failed {α : Type} {x : Outcome Failure α} (h : Safe x) (f : Failure) :
    x ≠ .failed f := h f

/-- An assertion that holds is safe. -/
theorem check_safe {e : Failure} {c : Bool} (h : c = true) : Safe (Outcome.check e c) := by
  subst h
  simp

namespace Session

variable {s s' : Session} {r : Ret} {cfg : Cfg} {e : Err}

/-! ### The calls on the channel -/

/-- A call on the channel is safe if there is one. -/
theorem call_safe (hm : s.masterChannel.isSome = true) : Safe (s.call r) := by
  obtain ⟨ch, hm⟩ := Option.isSome_iff_exists.mp hm
  simp only [call, hm]
  split <;> simp

/-- So is `send()`. -/
theorem send_safe {rspTo : Option Nat} {hndl : Option NativeHandle} {body : Body}
    (hm : s.masterChannel.isSome = true) : Safe (s.send rspTo hndl body r) := by
  simp only [send, Outcome.failsOnly_bind]
  refine ⟨call_safe hm, fun c _ => ?_⟩
  split <;> simp

/-- So is a call that emits no error. -/
theorem callNoError_safe (hm : s.masterChannel.isSome = true) : Safe (s.callNoError r) := by
  simp only [callNoError, Outcome.failsOnly_bind]
  refine ⟨call_safe hm, fun c _ => ?_⟩
  split <;> simp

/-- `expect_msgs()` is such a call. -/
theorem expectOpenChannelReqs_safe {h : OpenReqHandler} (hm : s.masterChannel.isSome = true) :
    Safe (s.expectOpenChannelReqs h r) := by
  simp only [expectOpenChannelReqs, Outcome.failsOnly_bind]
  refine ⟨callNoError_safe hm, fun c _ => ?_⟩
  split <;> simp

/-- `undo_expect_msgs()` is such a call. -/
theorem undoExpectOpenChannelReqs_safe (hm : s.masterChannel.isSome = true) :
    Safe (s.undoExpectOpenChannelReqs r) := by
  simp only [undoExpectOpenChannelReqs, Outcome.failsOnly_bind]
  refine ⟨callNoError_safe hm, fun c _ => ?_⟩
  split <;> simp

/-- The environment fails no assertion. -/
theorem channelError_safe : Safe (s.channelError e) := by
  unfold channelError
  split <;> simp

/-- Nor does a message that comes in. -/
theorem deliver_safe {m : Msg} : Safe (s.deliver m) := by
  unfold deliver
  split
  · simp
  · simp only [Outcome.failsOnly_bind, Outcome.failsOnly_require, true_and]
    intro _ _
    split <;> simp

/-- Nor does taking a task. -/
theorem takeTask_safe : Safe s.takeTask := by
  simp only [takeTask, Outcome.failsOnly_bind, Outcome.failsOnly_require, true_and]
  intro _ _
  split <;> simp

/-- Nor does a call with a builder. -/
theorem takeBuilder_safe {call : Nat} : Safe (s.takeBuilder call) := by
  unfold takeBuilder
  split <;> simp

/-! ### The code of PEER state -/

/-- `hosed()` is safe once the handlers are set. -/
theorem hosed_safe (ho : s.onErrFuncSet = true) : Safe s.hosed := by
  simp [hosed, ho]

/-- `hose()` is safe on a session that is not hosed. -/
theorem hose_safe {site : HoseSite} (ho : s.onErrFuncSet = true)
    (hp : s.peerStateErrCodeOrOk = none) : Safe (s.hose e site) := by
  simp only [hose, Outcome.failsOnly_bind]
  refine ⟨hosed_safe ho, fun h hh => ⟨check_safe ?_, fun _ _ => by simp⟩⟩
  obtain ⟨-, rfl⟩ := hosed_done hh
  rw [hp]
  rfl

/-- After a look at that, it is safe on any. -/
theorem hoseIfNot_safe {site : HoseSite} (ho : s.onErrFuncSet = true) :
    Safe (s.hoseIfNot e site) := by
  simp only [hoseIfNot, Outcome.failsOnly_bind]
  refine ⟨hosed_safe ho, fun h hh => ?_⟩
  obtain ⟨-, rfl⟩ := hosed_done hh
  cases hp : s.peerStateErrCodeOrOk with
  | some e' => simp
  | none => simpa using hose_safe ho hp

/-- The finisher can be engaged on a channel. -/
theorem emplaceGracefulFinisher_safe (hm : s.masterChannel.isSome = true) :
    Safe (s.emplaceGracefulFinisher r) := by
  simp only [emplaceGracefulFinisher, Outcome.failsOnly_bind]
  refine ⟨callNoError_safe hm, fun c _ => ?_⟩
  split
  · split <;> simp
  · simp

/-- The report of an error is safe in PEER state, with the finisher that belongs there. -/
theorem onMasterChannelErrorPeer_safe (ho : s.onErrFuncSet = true)
    (hf : cfg.gracefulFinishRequired = true → s.gracefulFinisher.isSome = true) :
    Safe (s.onMasterChannelErrorPeer cfg e) := by
  simp only [onMasterChannelErrorPeer, Outcome.failsOnly_bind]
  refine ⟨hoseIfNot_safe ho, fun s₁ h₁ => ?_⟩
  have hf₁ : s₁.gracefulFinisher = s.gracefulFinisher := by
    obtain ⟨-, ⟨-, rfl⟩ | ⟨-, rfl⟩⟩ := hoseIfNot_done h₁ <;> rfl
  cases hg : cfg.gracefulFinishRequired with
  | false => simp
  | true =>
    obtain ⟨f, hf⟩ := Option.isSome_iff_exists.mp (hf hg)
    simp [onMasterChannelHosed, hf₁, hf]

/-- Neither does what `open_channel()` does with an error that its `sync_request()` emits. -/
theorem openChannelSyncError_safe {call : Nat} {req : Option Nat} (ho : s.onErrFuncSet = true)
    (hp : s.peerStateErrCodeOrOk = none) : Safe (s.openChannelSyncError call req e) := by
  simp only [openChannelSyncError]
  split
  · simp
  · simp only [Outcome.failsOnly_bind]
    exact ⟨hose_safe ho hp, fun _ _ => by simp⟩

/-- `open_channel()` is safe in PEER state, with a builder that does not come from the log-in. -/
theorem openChannelBody_safe {inPeer : Bool} {call : Nat} {b : Builder} (hi : inPeer = true)
    (ho : s.onErrFuncSet = true) (hb : b.forLogIn = false)
    (hm : s.masterChannel.isSome = true) : Safe (s.openChannelBody inPeer call b r) := by
  simp only [openChannelBody, Outcome.failsOnly_bind]
  refine ⟨check_safe hi, fun _ _ => ⟨hosed_safe ho, fun h hh => ?_⟩⟩
  obtain ⟨-, rfl⟩ := hosed_done hh
  cases hp : s.peerStateErrCodeOrOk with
  | some e => simp
  | none =>
    simp only [Option.isSome_none, Bool.false_eq_true, if_false, Outcome.failsOnly_bind]
    refine ⟨check_safe (by rw [hb]; rfl), fun _ _ => ⟨by simp, fun _ _ => ⟨send_safe hm, ?_⟩⟩⟩
    intro c hc
    obtain ⟨c, s₁⟩ := c
    obtain ⟨ch, -, hr⟩ := send_done hc
    cases hr with
    | ok => simp
    | refusedOld => simp
    | refusedNew => simp
    | failed hh e => exact openChannelSyncError_safe ho hp

/-- A `sync_request()` that is not answered. -/
theorem openChannelSyncReturn_safe {onRsp : Msg → Session → Outcome Failure Session}
    {call req : Nat} {rsp : Option Msg} {r : SyncRes} (ho : s.onErrFuncSet = true)
    (hp : s.peerStateErrCodeOrOk = none) (hm : s.masterChannel.isSome = true)
    (hrsp : ∀ m, rsp = some m → Safe (onRsp m (s.setW .idle))) :
    Safe (s.openChannelSyncReturn onRsp call req rsp r) := by
  simp only [openChannelSyncReturn]
  split
  · exact hrsp _ rfl
  · simp only [Outcome.failsOnly_bind]
    have hm : (s.setW .idle).masterChannel.isSome = true := hm
    refine ⟨?_, fun c hc => ?_⟩
    · simp only [syncReturnNoResponse, Outcome.failsOnly_bind]
      refine ⟨by simp, fun _ _ => ?_⟩
      split
      · simp
      · simp
      · simp only [Outcome.failsOnly_bind]
        exact ⟨callNoError_safe hm, fun _ _ => by simp⟩
      · simp only [Outcome.failsOnly_bind]
        refine ⟨by simp, fun _ _ => ⟨call_safe hm, fun c _ => ?_⟩⟩
        split <;> simp
    · obtain ⟨e, s₁⟩ := c
      obtain ⟨-, hr⟩ := syncReturnNoResponse_done hc
      cases hr with
      | timeout => exact openChannelSyncError_safe ho hp
      | refusedOld => simp
      | refusedNew => simp
      | failed ch hm hh e he => exact openChannelSyncError_safe ho hp

/-- `session_token()` is safe in PEER state. -/
theorem sessionToken_safe (ho : s.onErrFuncSet = true) (hm : s.masterChannel.isSome = true) :
    Safe s.sessionToken := by
  simp only [sessionToken, Outcome.failsOnly_bind]
  refine ⟨hosed_safe ho, fun h _ => ?_⟩
  split
  · simp
  · simp [hm]

end Session

end IpcSession
