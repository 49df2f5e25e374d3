import IpcSession.Base.Safe

namespace IpcSession

/-!
# Where session code needs its channel

`Grounded x` says that `x` does not use the master channel while it is null.  One lemma for each
piece of the common session code names what it needs for that: the channel, or nothing.
-/

/-- If it fails, then not because the master channel is null. -/
abbrev Grounded {α : Type} (x : Outcome Failure α) : Prop :=
  x.FailsOnly (· ≠ .nullMasterChannel)

/-- Code that fails no assertion is grounded. -/
theorem Safe.grounded {α : Type} {x : Outcome Failure α} (h : Safe x) : Grounded x :=
  fun e he => (h e he).elim

namespace Session

variable {s : Session} {cfg : Cfg} {e : Err} {r : Ret}

/-! ### The code that does not use the channel -/

/-- `hosed()` asserts that a handler is set, and looks at no channel. -/
@[simp] theorem hosed_grounded : Grounded s.hosed := by
  simp [hosed]

/-- `hose()` looks at no channel. -/
@[simp] theorem hose_grounded {site : HoseSite} : Grounded (s.hose e site) := by
  simp [hose]

/-- Nor does it where the session may be hosed already. -/
@[simp] theorem hoseIfNot_grounded {site : HoseSite} : Grounded (s.hoseIfNot e site) := by
  simp only [hoseIfNot, Outcome.failsOnly_bind, hosed_grounded, true_and]
  intro h _
  split <;> simp

/-- `set_srv_namespace()` looks at its argument only. -/
@[simp] theorem setSrvNamespace_grounded {name : SharedName} :
    Grounded (s.setSrvNamespace name) := by
  simp [setSrvNamespace]

/-- `set_cli_namespace()` looks at its argument only. -/
@[simp] theorem setCliNamespace_grounded {name : SharedName} :
    Grounded (s.setCliNamespace name) := by
  simp [setCliNamespace]

/-- The handler of `GracefulSessionEnd` looks at the finisher only. -/
@[simp] theorem onGracefulSessionEnd_grounded : Grounded s.onGracefulSessionEnd := by
  unfold onGracefulSessionEnd
  split <;> simp

/-- The report of an error in PEER state does not look at the channel again. -/
@[simp] theorem onMasterChannelErrorPeer_grounded :
    Grounded (s.onMasterChannelErrorPeer cfg e) := by
  simp only [onMasterChannelErrorPeer, Outcome.failsOnly_bind, hoseIfNot_grounded, true_and]
  intro s₁ _
  split
  · unfold onMasterChannelHosed
    split <;> simp
  · simp

/-- Nor does `open_channel()` where its call has emitted the error. -/
@[simp] theorem openChannelSyncError_grounded {call : Nat} {req : Option Nat} :
    Grounded (s.openChannelSyncError call req e) := by
  unfold openChannelSyncError
  split <;> simp

/-! ### The code that does -/

/-- Up to its `sync_request()`, `open_channel()` takes a channel if it goes ahead at all. -/
theorem openChannelBody_grounded {inPeer : Bool} {call : Nat} {b : Builder}
    (hm : inPeer = true → s.masterChannel.isSome = true) :
    Grounded (s.openChannelBody inPeer call b r) := by
  simp only [openChannelBody, Outcome.failsOnly_bind]
  refine ⟨by simp, fun _ hi => ⟨hosed_grounded, fun h _ => ?_⟩⟩
  have hi : inPeer = true := by simpa using hi
  split
  · simp
  · simp only [Outcome.failsOnly_bind]
    refine ⟨by simp, fun _ _ => ⟨by simp, fun _ _ => ⟨(send_safe (hm hi)).grounded, ?_⟩⟩⟩
    intro c _
    split <;> simp

/-- A `sync_request()` that is not answered. -/
theorem openChannelSyncReturn_grounded {onRsp : Msg → Session → Outcome Failure Session}
    {call req : Nat} {rsp : Option Msg} {r : SyncRes} (hm : s.masterChannel.isSome = true)
    (hrsp : ∀ m, Grounded (onRsp m (s.setW .idle))) :
    Grounded (s.openChannelSyncReturn onRsp call req rsp r) := by
  have hm : (s.setW .idle).masterChannel.isSome = true := hm
  simp only [openChannelSyncReturn]
  split
  · exact hrsp _
  · simp only [Outcome.failsOnly_bind]
    refine ⟨?_, fun c _ => ?_⟩
    · simp only [syncReturnNoResponse, Outcome.failsOnly_bind]
      refine ⟨by simp, fun _ _ => ?_⟩
      split
      · simp
      · simp
      · simp only [Outcome.failsOnly_bind]
        exact ⟨(callNoError_safe hm).grounded, fun _ _ => by simp⟩
      · simp only [Outcome.failsOnly_bind]
        refine ⟨by simp, fun _ _ => ⟨(call_safe hm).grounded, fun c _ => ?_⟩⟩
        split <;> simp
    · split <;> simp

/-- The answer to the peer takes a channel. -/
theorem openChannelReqRespond_grounded {m : Msg} {p : Prepared}
    (hm : s.masterChannel.isSome = true) :
    Grounded (s.openChannelReqRespond m p r) := by
  simp only [openChannelReqRespond, Outcome.failsOnly_bind]
  refine ⟨(send_safe hm).grounded, fun c _ => ?_⟩
  split
  · simp
  · simp
  · split <;> simp

/-- `session_token()` asks the channel. -/
theorem sessionToken_grounded (hm : s.masterChannel.isSome = true) : Grounded s.sessionToken := by
  simp only [sessionToken, Outcome.failsOnly_bind, hosed_grounded, true_and]
  intro h _
  split
  · simp
  · simp [hm]

/-- The destructor sends its `GracefulSessionEnd` if there is a finisher. -/
theorem dtorSendEnd_grounded (hm : s.gracefulFinisher.isSome = true →
    s.masterChannel.isSome = true) :
    Grounded (s.dtorSendEnd r) := by
  simp only [dtorSendEnd, Outcome.failsOnly_bind]
  refine ⟨by simp, fun _ hf => ⟨(send_safe (hm ?_)).grounded, fun _ _ => by simp⟩⟩
  simpa using hf

/-- Its start looks at no channel. -/
theorem dtorStart_grounded : Grounded (s.dtorStart cfg) := by
  simp only [dtorStart, Outcome.failsOnly_bind, Outcome.failsOnly_require, true_and]
  intro _ _
  split <;> simp

/-- Nor do the points after it. -/
theorem dtorStep_grounded : Grounded s.dtorStep := by
  unfold dtorStep
  split <;> simp

/-- Nor does the end of its flush. -/
theorem dtorFlushDone_grounded : Grounded s.dtorFlushDone := by
  simp [dtorFlushDone]

end Session

end IpcSession
