import IpcSession.Base.Flush
import IpcSession.Base.Hosing

namespace IpcSession

/-!
# Session code can always go on

Given that the channel finds no new error, every piece of session code goes through, or fails, but
is not stuck: `Session.answer` is the result of a call on the channel, and the lemmas say with
`Outcome.Goes` that the code can take it.  Where the code makes another call later on, they also say
that the channel is as it was.
-/

namespace Session

variable {s s' : Session} {ch : MasterChannel} {cfg : Cfg} {r : Ret}

/-- What a call on the channel comes to when the channel finds no new error. -/
def answer (s : Session) : Ret := if s.channelHosed then .refused (.other 0) else .ok

/-- What the environment can answer is up to whether the channel is hosed. -/
theorem answer_eq_of_channelHosed (h : s'.channelHosed = s.channelHosed) :
    s'.answer = s.answer := by
  simp only [answer, h]

/-- It need never be a new error. -/
theorem answer_ne_failed (s : Session) (e : Err) : s.answer ≠ .failed e := by
  unfold answer
  split <;> nofun

/-- A channel that is there is hosed or not by its own flag. -/
theorem channelHosed_of_some (hm : s.masterChannel = some ch) : s.channelHosed = ch.hosed := by
  simp [channelHosed, hm]

/-! ### The calls on the channel -/

/-- With the answer at hand, a call on the channel goes through and leaves the session as it is. -/
theorem call_goes (hr : r = s.answer) :
    (s.call r).Goes fun p =>
      p.2 = s ∧ (∀ e, p.1 ≠ .failed e) ∧ ∀ id, p.1 = .ok id → r = .ok := by
  unfold call
  cases hm : s.masterChannel with
  | none => trivial
  | some ch =>
    have ha : s.answer = if ch.hosed then .refused (.other 0) else .ok := by
      simp only [answer, channelHosed_of_some hm]
    rw [hr, ha]
    cases hh : ch.hosed with
    | true => simp [hh]
    | false => simp [hh]

/-- So does `send()`, which hoses nothing. -/
theorem send_goes {rspTo : Option Nat} {hndl : Option NativeHandle} {body : Body}
    (hr : r = s.answer) :
    (s.send rspTo hndl body r).Goes fun p =>
      p.2.channelHosed = s.channelHosed ∧ ∀ id, p.1 = .ok id → r = .ok := by
  simp only [send, Outcome.goes_bind]
  refine (call_goes hr).mono ?_
  rintro ⟨c, s₁⟩ ⟨hs, -, hok⟩
  have hs : s₁ = s := hs
  subst hs
  cases c with
  | ok id =>
    have hok : r = .ok := hok id rfl
    cases hm : s₁.masterChannel with
    | none => simp [hok]
    | some ch => simp [hok, hm, channelHosed]
  | refused => simp
  | failed e => simp

/-- So does a call that emits no error. -/
theorem callNoError_goes (hr : r = s.answer) : (s.callNoError r).Goes fun p => p.2 = s := by
  simp only [callNoError, Outcome.goes_bind]
  refine (call_goes hr).mono ?_
  rintro ⟨c, s₁⟩ ⟨hs, hc, -⟩
  have hs : s₁ = s := hs
  subst hs
  cases c with
  | ok id => exact rfl
  | refused => exact rfl
  | failed e => exact absurd rfl (hc e)

/-- `expect_msgs()` is such a call. -/
theorem expectOpenChannelReqs_goes {h : OpenReqHandler} (hr : r = s.answer) :
    (s.expectOpenChannelReqs h r).Goes fun p => p.2.channelHosed = s.channelHosed := by
  simp only [expectOpenChannelReqs, Outcome.goes_bind]
  refine (callNoError_goes hr).mono ?_
  rintro ⟨ok, s₁⟩ hs
  have hs : s₁ = s := hs
  subst hs
  cases hm : s₁.masterChannel with
  | none => simp
  | some ch => cases ok <;> simp [hm, channelHosed]

/-- `undo_expect_msgs()` is such a call. -/
theorem undoExpectOpenChannelReqs_goes (hr : r = s.answer) :
    (s.undoExpectOpenChannelReqs r).Goes fun p => p.2.channelHosed = s.channelHosed := by
  simp only [undoExpectOpenChannelReqs, Outcome.goes_bind]
  refine (callNoError_goes hr).mono ?_
  rintro ⟨ok, s₁⟩ hs
  have hs : s₁ = s := hs
  subst hs
  cases hm : s₁.masterChannel with
  | none => simp
  | some ch => cases ok <;> simp [hm, channelHosed]

/-- The finisher can always be engaged. -/
theorem emplaceGracefulFinisher_goes (hr : r = s.answer) :
    (s.emplaceGracefulFinisher r).Goes fun _ => True := by
  simp only [emplaceGracefulFinisher, Outcome.goes_bind]
  refine (callNoError_goes hr).mono ?_
  rintro ⟨ok, s₁⟩ -
  split
  · split <;> trivial
  · trivial

/-! ### The code of PEER state -/

/-- `hosed()` always answers. -/
theorem hosed_goes (s : Session) : s.hosed.Goes fun h => h = s.peerStateErrCodeOrOk.isSome := by
  simp [hosed]

/-- The on-error handler can always run. -/
theorem hose_goes (s : Session) (e : Err) (site : HoseSite) :
    (s.hose e site).Goes fun _ => True := by
  simp [hose, hosed]

/-- Or need not, on a session that is hosed. -/
theorem hoseIfNot_goes (s : Session) (e : Err) (site : HoseSite) :
    (s.hoseIfNot e site).Goes fun _ => True := by
  simp only [hoseIfNot, Outcome.goes_bind]
  refine s.hosed_goes.mono ?_
  rintro h -
  split
  · trivial
  · exact s.hose_goes e site

/-- The peer's `GracefulSessionEnd` can always be handled. -/
theorem onGracefulSessionEnd_goes (s : Session) : s.onGracefulSessionEnd.Goes fun _ => True := by
  unfold onGracefulSessionEnd
  split
  · trivial
  · simp only [Outcome.goes_bind, Outcome.goes_check]
    intro _
    exact hoseIfNot_goes _ _ _

/-- So can the report of an error. -/
theorem onMasterChannelErrorPeer_goes (s : Session) (e : Err) :
    (s.onMasterChannelErrorPeer cfg e).Goes fun _ => True := by
  simp only [onMasterChannelErrorPeer, Outcome.goes_bind]
  refine (s.hoseIfNot_goes e _).mono ?_
  intro s₁ _
  split
  · unfold onMasterChannelHosed
    split <;> trivial
  · trivial

/-- `open_channel()` can always end with an error. -/
theorem openChannelSyncError_goes (s : Session) (call : Nat) (req : Option Nat) (e : Err) :
    (s.openChannelSyncError call req e).Goes fun _ => True := by
  unfold openChannelSyncError
  split
  · trivial
  · simp only [Outcome.goes_bind]
    exact (s.hose_goes e _).mono fun _ _ => trivial

/-- Thread W's part of it can always run. -/
theorem openChannelBody_goes {inPeer : Bool} {call : Nat} {b : Builder} (hr : r = s.answer) :
    (s.openChannelBody inPeer call b r).Goes fun _ => True := by
  simp only [openChannelBody, Outcome.goes_bind, Outcome.goes_check]
  intro _
  refine s.hosed_goes.mono ?_
  rintro h -
  split
  · trivial
  · simp only [Outcome.goes_bind, Outcome.goes_check, Outcome.goes_require]
    intro _
    refine ⟨by simp [hr, s.answer_ne_failed], ?_⟩
    refine (send_goes hr).mono ?_
    rintro ⟨c, s₁⟩ -
    cases c with
    | ok id => trivial
    | refused => trivial
    | failed e => exact s₁.openChannelSyncError_goes call none e

/-- The peer's request can always be answered. -/
theorem openChannelReqRespond_goes {m : Msg} {p : Prepared} (hr : r = s.answer) :
    (s.openChannelReqRespond m p r).Goes fun _ => True := by
  simp only [openChannelReqRespond, Outcome.goes_bind]
  refine (send_goes hr).mono ?_
  rintro ⟨c, s₁⟩ -
  cases c with
  | ok id => simp only []; split <;> trivial
  | refused => trivial
  | failed e => exact s₁.hose_goes e _

/-- `session_token()` can always run. -/
theorem sessionToken_goes (s : Session) : s.sessionToken.Goes fun _ => True := by
  simp only [sessionToken, Outcome.goes_bind]
  refine s.hosed_goes.mono ?_
  rintro h -
  split
  · trivial
  · simp

/-- The destructor can always tell the peer. -/
theorem dtorSendEnd_goes (hr : r = s.answer) : (s.dtorSendEnd r).Goes fun _ => True := by
  simp only [dtorSendEnd, Outcome.goes_bind, Outcome.goes_check]
  intro _
  exact (send_goes hr).mono fun _ _ => trivial

/-! ### Thread W comes back from `sync_request()` -/

/-- The result with which `open_channel()` can come back: the response, or else the time-out. -/
def syncAnswer (rsp : Option Msg) : SyncRes := if rsp.isSome then .response else .timeout

/-- The `sync_request()` can always come back, with what response there is. -/
theorem openChannelSyncReturn_goes {onRsp : Msg → Session → Outcome Failure Session}
    (hrsp : ∀ m b, (onRsp m b).Goes fun _ => True) (call req : Nat) (rsp : Option Msg)
    (s : Session) :
    (s.openChannelSyncReturn onRsp call req rsp (syncAnswer rsp)).Goes fun _ => True := by
  cases rsp with
  | some m => exact hrsp m _
  | none => simp [openChannelSyncReturn, syncAnswer, syncReturnNoResponse, openChannelSyncError]

/-- An idle thread W takes the first task. -/
theorem takeTask_goes {t : Task} {ts : List Task} (hw : s.w = .idle) (hq : s.queue = t :: ts) :
    s.takeTask = .done (t, { s with queue := ts }) := by
  simp [takeTask, hw, hq]

end Session

end IpcSession
