import IpcSession.Base.Failures
import IpcSession.Client.State

namespace IpcSession

/-!
# What the client can fail with

The client's pieces fail with a namespace assertion in two places only, `async_connect()` and
`on_master_channel_log_in_rsp()`, each where it finds the namespace set; and with that of
`hose()` only if `open_channel()` waits in a session that is hosed.
-/

namespace Client

variable {n f g : Bool} {cfg : Cfg} {s s' : Client} {o : ClientOracle}

/-! ### The ends of a connect attempt -/

/-- Session code with a result, run by a client. -/
theorem lift_fine {α : Type} {k : Session → Outcome Failure (α × Session)}
    (h : Fine n f g (k s.toSession)) : Fine n f g (s.lift k) := by
  simp [lift, h]

/-- Session code without a result, run by a client. -/
theorem liftUnit_fine {k : Session → Outcome Failure Session}
    (h : Fine n f g (k s.toSession)) : Fine n f g (s.liftUnit k) := by
  simp [liftUnit, h]

/-- The handler of an attempt is there to be run. -/
@[simp] theorem invokeConnOnDoneFunc_fine {e : ErrorCode} {hook : Hook} :
    Fine n f g (s.invokeConnOnDoneFunc e hook) := by
  unfold invokeConnOnDoneFunc
  split
  · simp
  · split <;> simp

/-- An attempt fails. -/
@[simp] theorem connectFailed_fine {e : Err} : Fine n f g (s.connectFailed e) := by
  simp [connectFailed]

/-- It succeeds. -/
@[simp] theorem connectSucceeded_fine {hook : Hook} :
    Fine n f g (s.connectSucceeded cfg hook) := by
  simp only [connectSucceeded, Outcome.failsOnly_bind, invokeConnOnDoneFunc_fine, true_and]
  intro _ _
  split <;> simp

/-- The finisher is engaged, if there is to be one. -/
@[simp] theorem engageFinisher_fine {r : Ret} : Fine n f g (s.engageFinisher cfg r) := by
  unfold engageFinisher
  split
  · exact liftUnit_fine Session.emplaceGracefulFinisher_fine
  · simp

/-- A sub-class completes an attempt. -/
@[simp] theorem complete_fine {e : ErrorCode} {r : Ret} :
    Fine n f g (s.completeAsyncConnectAfterCancelingPeerState cfg e r) := by
  simp only [completeAsyncConnectAfterCancelingPeerState, Outcome.failsOnly_bind]
  refine ⟨lift_fine (by simp), fun _ _ => ⟨by simp, fun _ _ => ?_⟩⟩
  cases e <;> simp

/-- The channels go into the user's containers. -/
@[simp] theorem emitInitChannels_fine {cap : InitCapture} {chans : Channels} :
    Fine n f g (s.emitInitChannels cap chans) := by
  simp [emitInitChannels]

/-- The last init-channel is there. -/
@[simp] theorem initChannelsComplete_fine {m : Msg} {cap : InitCapture} {chans : Channels} :
    Fine n f g (s.initChannelsComplete cfg m cap chans o) := by
  simp only [initChannelsComplete, Outcome.failsOnly_bind]
  refine ⟨lift_fine (by simp), fun r₁ _ => ?_⟩
  split
  · simp
  · simp only [Outcome.failsOnly_bind]
    refine ⟨lift_fine (by simp), fun r₂ _ => ?_⟩
    split
    · simp
    · simp only [Outcome.failsOnly_bind]
      refine ⟨lift_fine (by simp), fun r₃ _ => ?_⟩
      split <;> simp

/-- An init-channel comes in. -/
@[simp] theorem onMasterChannelInitOpenChannel_fine {m : Msg} {cap : InitCapture} :
    Fine n f g (s.onMasterChannelInitOpenChannel cfg m cap o) := by
  simp only [onMasterChannelInitOpenChannel, Outcome.failsOnly_bind]
  refine ⟨by simp, fun _ _ => ⟨by simp, fun _ _ => ?_⟩⟩
  split
  · simp only [Outcome.failsOnly_bind]
    refine ⟨lift_fine (by simp), fun _ _ => ⟨by simp, fun _ _ => ?_⟩⟩
    split <;> simp
  · simp

/-- The report of the channel's error does not hose a session that is hosed. -/
@[simp] theorem onMasterChannelError_fine {chan : Nat} {e : Err} :
    Fine n f g (s.onMasterChannelError cfg chan e) := by
  simp only [onMasterChannelError]
  split
  · simp
  · split
    · simp
    · simp
    · exact liftUnit_fine Session.onMasterChannelErrorPeer_fine

/-- The server's answer to `open_channel()` sets no namespace. -/
theorem openChannelRsp_fine {b : Session} {call req : Nat} {mqOpen : ErrorCode} {m : Msg} :
    Fine n f g (openChannelRsp cfg call req mqOpen m b) := by
  unfold openChannelRsp
  split <;> simp

/-- Nor does making what the server asks for. -/
theorem prepare_fine {b : Session} {m : Msg} {mqOpen : ErrorCode} :
    Fine n f g (prepare cfg m mqOpen b) := by
  unfold prepare
  split
  · split <;> simp
  · simp

/-- Nor does that hose the session. -/
theorem prepare_peerStateErrCodeOrOk {b b' : Session} {m : Msg} {mqOpen : ErrorCode}
    {p : Session.Prepared} (hd : prepare cfg m mqOpen b = .done (p, b')) :
    b'.peerStateErrCodeOrOk = b.peerStateErrCodeOrOk := by
  simp only [prepare] at hd
  split at hd
  · split at hd
    · simp only [Outcome.bind_eq_done, Prod.exists] at hd
      obtain ⟨obj, b₁, hc, hd⟩ := hd
      cases hd
      simp [Session.createChannelObj] at hc
      obtain ⟨-, -, -, -, rfl⟩ := hc
      rfl
    · cases hd
  · cases hd; rfl

/-- The answer to the server looks at `hosed()` first. -/
theorem onMasterChannelOpenChannelReq_fine {b : Session} {m : Msg} :
    Fine n f g (onMasterChannelOpenChannelReq cfg m o b) := by
  simp only [onMasterChannelOpenChannelReq, Outcome.failsOnly_bind]
  refine ⟨by simp, fun h hh => ?_⟩
  obtain ⟨-, rfl⟩ := Session.hosed_done hh
  cases hp : b.peerStateErrCodeOrOk with
  | some e => simp [hp]
  | none =>
    simp only [Session.record_peerStateErrCodeOrOk, hp, Option.isSome_none, Bool.false_eq_true,
      if_false, Outcome.failsOnly_bind]
    refine ⟨by simp, fun _ _ => ⟨prepare_fine, fun r hr => ?_⟩⟩
    exact Session.openChannelReqRespond_fine
      (fun _ => (prepare_peerStateErrCodeOrOk hr).trans hp)

/-- `session_token()` looks at it as well. -/
theorem sessionToken_fine : Fine n f g s.sessionToken := by
  unfold sessionToken
  split
  · simp
  · exact liftUnit_fine Session.sessionToken_fine

/-! ### Connecting -/

/-- A number is written with some digit. -/
theorem toDigits_ne_nil (n : Nat) : Nat.toDigits 10 n ≠ [] := by
  rw [Nat.toDigits_eq_if (by decide)]
  split <;> simp

/-- The sentinel is how zero is written. -/
theorem toDigits_eq_sentinel_iff (n : Nat) : Nat.toDigits 10 n = SharedName.sentinel ↔ n = 0 := by
  constructor
  · intro h
    rw [Nat.toDigits_eq_if (by decide)] at h
    split at h
    · rename_i hn
      have key : ∀ k < 10, [Nat.digitChar k] = SharedName.sentinel → k = 0 := by decide
      exact key n hn h
    · have hlen := congrArg List.length h
      have hpos := List.length_pos_iff.mpr (toDigits_ne_nil (n / 10))
      simp only [List.length_append, List.length_singleton, SharedName.sentinel] at hlen
      omega
  · rintro rfl
    exact Nat.toDigits_zero 10

/-- The string of a PID is never empty, and it is the sentinel for PID 0 only. -/
theorem pidToString_fine (pid : Int) :
    pidToString pid ≠ [] ∧ (pidToString pid = SharedName.sentinel ↔ pid = 0) := by
  unfold pidToString
  split
  · exact ⟨by simp, by simp [SharedName.sentinel]; omega⟩
  · refine ⟨toDigits_ne_nil _, ?_⟩
    rw [toDigits_eq_sentinel_iff]
    exact Int.natAbs_eq_zero

/-- `async_connect()` sets the namespace of the server: it must be empty, and the PID not zero. -/
theorem asyncConnect_fine {attempt : Nat} {subClass : Bool} {b : Builder}
    (h : n = true → s.srvNamespace = [] ∧ readCns o ≠ .ok 0) :
    Fine n f g (s.asyncConnect cfg attempt subClass b o) := by
  simp only [asyncConnect]
  split
  · simp
  · split
    · simp
    · rename_i pid hpid
      have hset : Fine n f g ((s.begin attempt subClass).liftUnit
          (·.setSrvNamespace (pidToString pid))) := by
        refine liftUnit_fine ?_
        cases n with
        | false => simp [Session.setSrvNamespace]
        | true =>
          obtain ⟨h, hp⟩ := h rfl
          have h0 : pid ≠ 0 := fun h0 => hp (h0 ▸ hpid)
          obtain ⟨hne, hsen⟩ := pidToString_fine pid
          have hb : (s.begin attempt subClass).srvNamespace = [] := h
          simp [Session.setSrvNamespace, hne, hsen, h0, hb]
      simp only [Outcome.failsOnly_bind]
      refine ⟨hset, fun _ _ => ?_⟩
      split
      · simp
      · simp only [Outcome.failsOnly_bind]
        refine ⟨by simp, fun _ _ => ⟨lift_fine (by simp), fun _ _ => ?_⟩⟩
        split <;> simp

/-- The log-in response sets the cli-namespace, which must be empty. -/
theorem readLogInRsp_fine {attempt : Nat} {m : Msg} (h : n = true → s.cliNamespace = []) :
    Fine n f g (s.readLogInRsp cfg attempt m) := by
  simp only [readLogInRsp]
  split
  · split
    · simp
    · split
      · simp
      · split
        · simp
        · split
          · simp
          · rename_i hn
            simp only [not_or] at hn
            simp only [Outcome.failsOnly_bind]
            refine ⟨liftUnit_fine ?_, fun _ _ => by simp⟩
            cases n with
            | false => simp [Session.setCliNamespace]
            | true => simp [Session.setCliNamespace, hn, h rfl]
  · simp

/-- Its handler does nothing else of that kind. -/
theorem onMasterChannelLogInRsp_fine {chan attempt : Nat} {m : Msg}
    (h : n = true → s.cliNamespace = []) :
    Fine n f g (s.onMasterChannelLogInRsp cfg chan m attempt o) := by
  simp only [onMasterChannelLogInRsp, Outcome.failsOnly_bind]
  refine ⟨readLogInRsp_fine h, fun _ _ => ⟨by simp, fun _ _ => ⟨by simp, fun _ _ => ?_⟩⟩⟩
  split
  · simp
  · split
    · simp only [Outcome.failsOnly_bind]
      refine ⟨by simp, fun _ _ => ⟨lift_fine (by simp), fun _ _ => ?_⟩⟩
      split <;> simp
    · simp only [Outcome.failsOnly_bind]
      exact ⟨by simp, fun _ _ => ⟨lift_fine (by simp), fun _ _ => by simp⟩⟩

/-- Which task can fail such an assertion, and in what state. -/
theorem runTask_fine {t : Task}
    (hc : n = true → t.isAsyncConnect = true → s.srvNamespace = [] ∧ readCns o ≠ .ok 0)
    (hl : n = true → t.isLogInRsp = true → s.cliNamespace = [])
    (hg : g = true → ∀ c, t = .gracefulSessionEnd c → s.gracefulFinisher ≠ some true) :
    Fine n f g (s.runTask cfg o t) := by
  cases t with
  | masterChannelError => exact onMasterChannelError_fine
  | logInRsp => exact onMasterChannelLogInRsp_fine (fun hn => hl hn rfl)
  | initOpenChannel => exact onMasterChannelInitOpenChannel_fine
  | openChannelReq => exact liftUnit_fine onMasterChannelOpenChannelReq_fine
  | gracefulSessionEnd c =>
    exact liftUnit_fine (Session.onGracefulSessionEnd_fine fun h => hg h c rfl)
  | asyncConnect => exact asyncConnect_fine (fun hn => hc hn rfl)
  | openChannel => exact liftUnit_fine Session.openChannelBody_fine
  | sessionToken => exact sessionToken_fine
  | dtorSendEnd => exact liftUnit_fine Session.dtorSendEnd_fine
  | _ => simp [runTask]

/-- A step fails finely if the task that it runs does, and if `open_channel()` waits only in a
    session that is not hosed. -/
theorem step_fine {a : Act}
    (hrun : ∀ o t b, a = .run o → s.takeTask = .done (t, b) →
      Fine n f g ((s.setSession b).runTask cfg o t))
    (hwait : f = true → ∀ call opened req rsp,
      s.w = .inSyncRequest (.openChannel call opened) req rsp →
      s.peerStateErrCodeOrOk = none) : Fine n f g (step cfg s a) := by
  cases a with
  | connect =>
    simp only [step, connect, Outcome.failsOnly_bind]
    refine ⟨by simp, fun _ _ => ⟨lift_fine (by simp), fun r _ => ?_⟩⟩
    split <;> simp
  | run o =>
    simp only [step, Outcome.failsOnly_bind]
    refine ⟨lift_fine (by simp), fun r hr => ?_⟩
    obtain ⟨b₁, hb₁, hr⟩ := lift_done hr
    rw [hr]
    -- What a task may fail with is the caller's hypothesis.
    exact hrun o _ b₁ rfl hb₁
  | mdtBuilder => simp [step]
  | openChannel =>
    simp only [step, Outcome.failsOnly_bind]
    refine ⟨by simp, fun _ _ => liftUnit_fine ?_⟩
    simp only [openChannel, Outcome.failsOnly_bind]
    refine ⟨by simp, fun _ _ => ?_⟩
    split <;> simp
  | sessionToken => simp [step]
  | syncReturn =>
    simp only [step]
    split
    · rename_i call opened req rsp hw
      -- The wait's end asserts that the session is not hosed yet.
      exact liftUnit_fine (Session.openChannelSyncReturn_fine (fun _ _ => openChannelRsp_fine)
        (fun hf => hwait hf call opened req rsp hw))
    · simp
  | subClassSend =>
    simp only [step, Outcome.failsOnly_bind]
    exact ⟨by simp, fun _ _ => ⟨lift_fine (by simp), fun _ _ => by simp⟩⟩
  | complete => simp [step]
  | deliver => exact liftUnit_fine Session.deliver_fine
  | channelError => exact liftUnit_fine Session.channelError_fine
  | dtorStart => exact liftUnit_fine Session.dtorStart_fine
  | dtorStep => exact liftUnit_fine Session.dtorStep_fine
  | flushDone => exact liftUnit_fine Session.dtorFlushDone_fine

end Client

end IpcSession
