import IpcSession.Base.Failures
import IpcSession.Server.Errors

namespace IpcSession

/-!
# What the server can fail with

The assertion of `hose()` fails in none of the server's pieces, so long as `open_channel()` waits
only in a session that is not hosed, and the session is not hosed before `init_handlers()`.
-/

namespace Server

variable {f g : Bool} {cfg : Cfg} {s s' : Server} {o : ServerOracle}

/-- Session code with a result, run by a server. -/
theorem lift_fine {α : Type} {k : Session → Outcome Failure (α × Session)}
    (h : Fine false f g (k s.toSession)) : Fine false f g (s.lift k) := by
  simp [lift, h]

/-- Session code without a result, run by a server. -/
theorem liftUnit_fine {k : Session → Outcome Failure Session}
    (h : Fine false f g (k s.toSession)) : Fine false f g (s.liftUnit k) := by
  simp [liftUnit, h]

/-! ### The log-in -/

/-- The end of a log-in asserts that it goes on, and nothing of those. -/
@[simp] theorem logInDone_fine {e : ErrorCode} {site : LogInSite} :
    Fine false f g (s.logInDone e site) := by
  simp [logInDone]

/-- So does its failure. -/
@[simp] theorem logInFailed_fine {e : Err} {site : LogInSite} :
    Fine false f g (s.logInFailed e site) := by
  simp [logInFailed]

/-- So does its start. -/
theorem acceptLogIn_fine : Fine false f g (s.acceptLogIn o) := by
  unfold acceptLogIn
  split
  · simp
  · simp
  · simp only [Outcome.failsOnly_bind]
    refine ⟨by simp, fun _ _ => ⟨lift_fine (by simp), fun _ _ => ?_⟩⟩
    split <;> simp

/-- The checks of the log-in request set the namespace of the client, which is not looked at here.
    -/
theorem checkLogInReq_fine {r : LogInReq} : Fine false f g (s.checkLogInReq cfg r o) := by
  simp only [checkLogInReq]
  split
  · simp
  · split
    · simp
    · split
      · simp
      · split
        · simp
        · split
          · simp
          · simp
          · split
            · simp
            · simp only [Outcome.failsOnly_bind]
              refine ⟨by simp, fun _ _ => ?_⟩
              split
              · simp
              · simp only [Outcome.failsOnly_bind]
                refine ⟨liftUnit_fine ?_, fun _ _ => by simp⟩
                simp [Session.setCliNamespace]

/-- Making the resources fails, if at all, with the assertion on the peer's credentials. -/
theorem makeSockStm_fine {r : ResourceOracle} : Fine false f g (s.makeSockStm r) := by
  simp only [makeSockStm]
  split <;> simp [assertPeerCreds]

/-- Making resources can fail by the query for the peer's credentials only. -/
theorem createChannelAndResources_fine {active : Bool} {r : ResourceOracle} :
    Fine false f g (s.createChannelAndResources cfg active r) := by
  simp only [createChannelAndResources]
  split
  · split
    · simp
    · simp only [constructMqsChannel, Outcome.failsOnly_bind]
      refine ⟨?_, fun _ _ => ?_⟩
      · split
        · exact makeSockStm_fine
        · simp
      · split <;> simp
  · simp only [constructSockChannel, Outcome.failsOnly_bind]
    refine ⟨makeSockStm_fine, fun _ _ => ?_⟩
    split <;> simp

/-- Sizing a vector throws, but asserts nothing. -/
@[simp] theorem reserve_fine {n : Nat} {mem : Bool} : Fine false f g (reserve cfg n mem) := by
  simp [reserve]

/-- So can a round of the loop. -/
theorem initChannelsLoop_fine {nByCli k : Nat} {mdt : Mdt} {os : List InitOracle}
    {chans : Channels} : Fine false f g (initChannelsLoop cfg nByCli mdt k os chans s) := by
  induction k generalizing os chans s with
  | zero => simp [initChannelsLoop]
  | succ k ih =>
    simp only [initChannelsLoop, Outcome.failsOnly_bind]
    refine ⟨createChannelAndResources_fine, fun _ _ => ?_⟩
    split
    · simp
    · simp only [Outcome.failsOnly_bind]
      refine ⟨lift_fine (by simp), fun c _ => ?_⟩
      split
      · simp
      · simp
      · split
        · simp
        · exact ih

/-- So can the handler of the log-in request. -/
theorem onLogInReq_fine {m : Msg} : Fine false f g (s.onLogInReq cfg m o) := by
  simp only [onLogInReq, Outcome.failsOnly_bind]
  refine ⟨by simp, fun _ _ => ?_⟩
  split
  · simp only [Outcome.failsOnly_bind]
    refine ⟨checkLogInReq_fine, fun r _ => ?_⟩
    split
    · simp
    · simp only [Outcome.failsOnly_bind]
      refine ⟨lift_fine (by simp), fun c _ => ?_⟩
      split
      · simp
      · simp
      · split
        · simp
        · simp only [Outcome.failsOnly_bind]
          exact ⟨reserve_fine, fun _ _ => initChannelsLoop_fine⟩
  · simp

/-- The emission asserts that nothing is left over. -/
theorem emitInitChannels_fine {chans : Channels} {nByCli : Nat} {mdt : Mdt} {eo : EmitOracle} :
    Fine false f g (s.emitInitChannels cfg chans nByCli mdt eo) := by
  simp only [emitInitChannels, Outcome.failsOnly_bind]
  refine ⟨?_, fun _ _ => ⟨by simp, fun _ _ => ⟨?_, fun _ _ => by simp⟩⟩⟩
  · split <;> simp
  · split <;> simp

/-- So does the handler after its `sync_request()`. -/
theorem initChannelsSyncReturn_fine {chans : Channels} {nByCli : Nat} {mdt : Mdt}
    {rsp : Option Msg} {r : Session.SyncRes} {eo : EmitOracle} :
    Fine false f g (s.initChannelsSyncReturn cfg chans nByCli mdt rsp r eo) := by
  unfold initChannelsSyncReturn
  split
  · simp only [Outcome.failsOnly_bind]
    exact ⟨emitInitChannels_fine, fun _ _ => by simp⟩
  · simp only [Outcome.failsOnly_bind]
    refine ⟨by simp, fun _ _ => ⟨lift_fine (by simp), fun c _ => ?_⟩⟩
    split <;> simp

/-! ### PEER state -/

/-- `init_handlers()` reports an error for the first time. -/
theorem initHandlers_fine {passiveOpen : Bool}
    (hp : s.onErrFuncSet = false → s.peerStateErrCodeOrOk = none) :
    Fine false f g (s.initHandlers cfg passiveOpen o) := by
  simp only [initHandlers]
  split
  · simp
  · rename_i ho
    have hp := hp (by simpa using ho)
    simp only [Outcome.failsOnly_bind]
    refine ⟨by simp, fun _ _ => ?_⟩
    split
    · simp [hp]
    · simp only [Outcome.failsOnly_bind]
      refine ⟨lift_fine (by simp), fun _ _ => ?_⟩
      split
      · simp only [Outcome.failsOnly_bind]
        exact ⟨liftUnit_fine (by simp), fun _ _ => by simp⟩
      · simp

/-- The report of an error looks at `hosed()` first. -/
theorem onMasterChannelError_fine {e : Err} : Fine false f g (s.onMasterChannelError cfg e) := by
  simp only [onMasterChannelError]
  split
  · simp
  · split
    · simp
    · split
      · simp
      · exact liftUnit_fine (by simp)

/-- `mdt_builder()` hoses nothing. -/
theorem mdtBuilder_fine {call : Nat} {mdt : Mdt} {r : ResourceOracle} :
    Fine false f g (s.mdtBuilder cfg call mdt r) := by
  simp only [mdtBuilder]
  split
  · simp
  · simp only [Outcome.failsOnly_bind]
    refine ⟨by simp, fun _ _ => ⟨by simp, fun _ _ => ?_⟩⟩
    split
    · simp
    · simp only [Outcome.failsOnly_bind]
      exact ⟨createChannelAndResources_fine, fun _ _ => by simp⟩

/-- Nor does the client's answer to `open_channel()`. -/
theorem openChannelRsp_fine {b : Session} {call req : Nat} {opened : Option ChannelObj} {m : Msg} :
    Fine false f g (openChannelRsp call req opened m b) := by
  unfold openChannelRsp
  split <;> simp

/-- Nor does making what the client asks for. -/
theorem prepare_fine {m : Msg} {r : ResourceOracle} : Fine false f g (s.prepare cfg m r) := by
  simp only [prepare]
  split
  · simp only [Outcome.failsOnly_bind]
    refine ⟨createChannelAndResources_fine, fun _ _ => ?_⟩
    split
    · simp
    · simp only [Outcome.failsOnly_bind]
      refine ⟨by simp, fun _ _ => ?_⟩
      split <;> simp
  · simp

/-- The answer to the client looks at `hosed()` first. -/
theorem onMasterChannelOpenChannelReq_fine {m : Msg} :
    Fine false f g (s.onMasterChannelOpenChannelReq cfg m o) := by
  simp only [onMasterChannelOpenChannelReq, Outcome.failsOnly_bind]
  refine ⟨by simp, fun h hh => ?_⟩
  obtain ⟨-, rfl⟩ := Session.hosed_done hh
  cases hp : s.peerStateErrCodeOrOk with
  | some e => simp [record, hp]
  | none =>
    simp only [record, setSession_toSession, Session.record_peerStateErrCodeOrOk, hp,
      Option.isSome_none, Bool.false_eq_true, if_false, Outcome.failsOnly_bind]
    refine ⟨by simp, fun _ _ => ⟨prepare_fine, fun r hr => liftUnit_fine ?_⟩⟩
    obtain ⟨hq, -, -⟩ := prepare_done hr
    exact Session.openChannelReqRespond_fine (fun _ => hq.peerStateErrCodeOrOk.trans hp)

/-! ### A step -/

/-- Which task can fail such an assertion, and in what state. -/
theorem runTask_fine {t : Task} (hp : s.onErrFuncSet = false → s.peerStateErrCodeOrOk = none)
    (hg : g = true → ∀ c, t = .gracefulSessionEnd c → s.gracefulFinisher ≠ some true) :
    Fine false f g (s.runTask cfg o t) := by
  cases t with
  | masterChannelError => exact onMasterChannelError_fine
  | openChannelReq => exact onMasterChannelOpenChannelReq_fine
  | gracefulSessionEnd c =>
    exact liftUnit_fine (Session.onGracefulSessionEnd_fine fun h => hg h c rfl)
  | logInReq => exact onLogInReq_fine
  | acceptLogIn => exact acceptLogIn_fine
  | initHandlers => exact initHandlers_fine hp
  | preInitError =>
    simp only [runTask, preInitError]
    split
    · exact liftUnit_fine Session.hoseIfNot_fine
    · simp
  | mdtBuilder => exact mdtBuilder_fine
  | openChannel => exact liftUnit_fine Session.openChannelBody_fine
  | sessionToken => exact liftUnit_fine Session.sessionToken_fine
  | dtorSendEnd => exact liftUnit_fine Session.dtorSendEnd_fine
  | _ => simp [runTask]

/-- So it is with the steps. -/
theorem step_fine {a : Act} (hp : s.onErrFuncSet = false → s.peerStateErrCodeOrOk = none)
    (hwait : f = true → s.w.inOpenChannel = true → s.peerStateErrCodeOrOk = none)
    (hg : g = true → ∀ c b, s.takeTask = .done (.gracefulSessionEnd c, b) →
      s.gracefulFinisher ≠ some true) :
    Fine false f g (step cfg s a) := by
  cases a with
  -- The task's own conditions follow from the state before it was taken.
  | run o =>
    simp only [step, Outcome.failsOnly_bind]
    refine ⟨lift_fine (by simp), fun r hr => ?_⟩
    obtain ⟨b, ht, hr⟩ := lift_done hr
    obtain ⟨-, -, hb⟩ := Session.takeTask_done ht
    rw [hr]
    refine runTask_fine ?_ fun h c hc => ?_
    · rw [setSession_toSession, hb]
      exact hp
    · rw [setSession_toSession, hb]
      exact hg h c b (hc ▸ ht)
  | openChannel =>
    simp only [step, Outcome.failsOnly_bind]
    refine ⟨by simp, fun _ _ => liftUnit_fine ?_⟩
    simp only [openChannel, Outcome.failsOnly_bind]
    refine ⟨by simp, fun _ _ => ?_⟩
    split
    · simp
    · split <;> simp
  -- By what thread W was in.
  | syncReturn =>
    simp only [step]
    split
    · rename_i hw
      exact liftUnit_fine (Session.openChannelSyncReturn_fine (fun _ _ => openChannelRsp_fine)
        (fun hf => hwait hf (by rw [hw]; rfl)))
    · exact initChannelsSyncReturn_fine
    · simp
  | initHandlers => simp [step]
  | mdtBuilder => simp [step]
  | sessionToken => simp [step]
  | deliver => exact liftUnit_fine Session.deliver_fine
  | channelError => exact liftUnit_fine Session.channelError_fine
  | dtorStart => exact liftUnit_fine Session.dtorStart_fine
  | dtorStep => exact liftUnit_fine Session.dtorStep_fine
  | flushDone => exact liftUnit_fine Session.dtorFlushDone_fine
  | dtorFinish =>
    simp only [step, dtorFinish, Outcome.failsOnly_bind]
    refine ⟨by simp, fun _ _ => ?_⟩
    split <;> simp

end Server

end IpcSession
