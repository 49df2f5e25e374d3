import IpcSession.Client.Model

namespace IpcSession

/-!
# What session code leaves alone

`Session.Frame s s'` says what no piece of the common session code changes: whether there is a
channel and a finisher, the namespaces, the handlers; it posts no connect attempt, and it makes
no response to a log-in request out of nothing.  Each piece of code has one lemma.
-/

namespace Task

/-- A connect attempt. -/
def isAsyncConnect : Task → Bool
  | asyncConnect .. => true
  | _ => false

/-- A response to a log-in request. -/
def isLogInRsp : Task → Bool
  | logInRsp .. => true
  | _ => false

end Task

/-- A request of the peer's is no connect. -/
@[simp] theorem OpenReqHandler.task_isAsyncConnect (h : OpenReqHandler) (chan : Nat) (m : Msg) :
    (h.task chan m).isAsyncConnect = false := by
  cases h <;> rfl

/-- A request of the peer's is no log-in response. -/
@[simp] theorem OpenReqHandler.task_isLogInRsp (h : OpenReqHandler) (chan : Nat) (m : Msg) :
    (h.task chan m).isLogInRsp = false := by
  cases h <;> rfl

/-- The responses to a log-in request that are queued or can still come in. -/
def Session.logIns (s : Session) : Nat :=
  s.queue.countP Task.isLogInRsp + (s.masterChannel.any (·.expectsLogInRsp.isSome)).toNat

/-- Whether there is a channel and a finisher is as before. -/
structure Session.SameShape (s s' : Session) : Prop where
  channel : s'.masterChannel.isSome = s.masterChannel.isSome
  finisher : s'.gracefulFinisher.isSome = s.gracefulFinisher.isSome

/-- What session code leaves alone. -/
structure Session.Frame (s s' : Session) : Prop where
  channel : s'.masterChannel.isSome = s.masterChannel.isSome
  finisher : s'.gracefulFinisher.isSome = s.gracefulFinisher.isSome
  srvNamespace : s'.srvNamespace = s.srvNamespace
  cliNamespace : s'.cliNamespace = s.cliNamespace
  onErrFuncSet : s'.onErrFuncSet = s.onErrFuncSet
  onPassiveOpenSet : s'.onPassiveOpenSet = s.onPassiveOpenSet
  connects : s'.queue.countP Task.isAsyncConnect = s.queue.countP Task.isAsyncConnect
  logIns : s'.logIns = s.logIns

namespace Session

variable {s s' s'' : Session} {ch : MasterChannel} {r : Ret} {c : Called} {cfg : Cfg}

theorem SameShape.refl (s : Session) : SameShape s s := ⟨rfl, rfl⟩

/-- A frame keeps the shape: whether there is a channel, and whether there is a finisher. -/
theorem Frame.shape (h : Frame s s') : SameShape s s' := ⟨h.channel, h.finisher⟩

theorem Frame.refl (s : Session) : Frame s s := by constructor <;> rfl

theorem Frame.trans (h : Frame s s') (h' : Frame s' s'') : Frame s s'' where
  channel := h'.channel.trans h.channel
  finisher := h'.finisher.trans h.finisher
  srvNamespace := h'.srvNamespace.trans h.srvNamespace
  cliNamespace := h'.cliNamespace.trans h.cliNamespace
  onErrFuncSet := h'.onErrFuncSet.trans h.onErrFuncSet
  onPassiveOpenSet := h'.onPassiveOpenSet.trans h.onPassiveOpenSet
  connects := h'.connects.trans h.connects
  logIns := h'.logIns.trans h.logIns

/-! ### The single updates -/

/-- An event is noted. -/
theorem Frame.record (e : Event) : Frame s (s.record e) := by constructor <;> rfl

/-- Thread W starts or stops waiting. -/
theorem Frame.setW (w : Worker) : Frame s (s.setW w) := by constructor <;> rfl

/-- The destructor comes to its next point. -/
theorem Frame.setDtor (d : Dtor) : Frame s (s.setDtor d) := by constructor <;> rfl

/-- The on-error handler runs, and the error is kept. -/
theorem Frame.emitHosed (e : Err) (site : HoseSite) : Frame s (s.emitHosed e site) := by
  constructor <;> rfl

/-- A call of the user's returns. -/
theorem Frame.returned {call : Nat} {req : Option Nat} {ret : Bool} {err : ErrorCode}
    {target : Option ChannelObj} : Frame s (s.returned call req ret err target) := by
  constructor <;> rfl

/-- The user gets a builder. -/
theorem Frame.giveBuilder (call : Nat) (b : Option Builder) : Frame s (s.giveBuilder call b) := by
  constructor <;> rfl

/-- The promise of a finisher is fulfilled: the finisher itself stays engaged. -/
theorem Frame.setFinisher (b : Bool) (h : s.gracefulFinisher.isSome = true) :
    Frame s (s.setFinisher b) := by
  constructor <;> first | rfl | exact h.symm

/-- A task that is not of the log-in joins the queue. -/
theorem Frame.post {t : Task} (hc : t.isAsyncConnect = false) (hl : t.isLogInRsp = false) :
    Frame s (s.post t) := by
  constructor <;> simp [Session.logIns, hc, hl]

/-- The channel changes in what it expects, but not in whether it expects the log-in response. -/
theorem Frame.setChannel {ch' : MasterChannel} (hm : s.masterChannel = some ch)
    (hl : ch'.expectsLogInRsp = ch.expectsLogInRsp) : Frame s (s.setChannel ch') := by
  constructor <;> simp [Session.logIns, hm, hl]

/-- The channel finds an error, which is queued to be reported. -/
theorem Frame.emitError (hm : s.masterChannel = some ch) (e : Err) :
    Frame s (s.emitError ch e) := by
  constructor <;> simp [Session.logIns, hm, Task.isAsyncConnect, Task.isLogInRsp]

/-- A call on the channel emits the error. -/
theorem Frame.failCall (hm : s.masterChannel = some ch) (e : Err) : Frame s (s.failCall ch e) := by
  constructor <;> simp [Session.logIns, hm]

/-- A message goes out. -/
theorem Frame.transmit (hm : s.masterChannel = some ch) (m : Msg) : Frame s (s.transmit ch m) := by
  constructor <;> simp [Session.logIns, hm]

/-- Messages kept for a handler become its tasks. -/
theorem Frame.flushTo (hm : s.masterChannel = some ch) (h : OpenReqHandler) :
    Frame s (s.flushTo ch h) := by
  have hc : ∀ l : List Msg, (l.map (h.task ch.id)).countP Task.isAsyncConnect = 0 := by
    intro l
    simp [List.countP_map, List.countP_eq_zero]
  have hl : ∀ l : List Msg, (l.map (h.task ch.id)).countP Task.isLogInRsp = 0 := by
    intro l
    simp [List.countP_map, List.countP_eq_zero]
  constructor <;> simp [Session.logIns, hm, hc, hl, -List.countP_map]

/-- A nickname is used up. -/
theorem Frame.nextNickname (active : Bool) : Frame s (s.nextNickname active).2 := by
  cases active <;> constructor <;> rfl

/-! ### The calls on the channel -/

/-- Whatever `send()` comes to, there is still the channel. -/
theorem SendResult.frame {m : Nat → Msg} (hm : s.masterChannel = some ch)
    (h : SendResult s ch m r c s') : Frame s s' := by
  cases h with
  | ok => exact .transmit hm _
  | refusedOld => exact .refl s
  | refusedNew => exact .emitError hm _
  | failed => exact .failCall hm _

/-- A call on the channel that emits no error does no more than its effect. -/
theorem NoErrorResult.frame {t : Session} {ok : Bool} (hm : s.masterChannel = some ch)
    (h : NoErrorResult s ch t ok s') (ht : Frame s t) : Frame s s' := by
  cases h with
  | ok => exact ht
  | refusedOld => exact .refl s
  | refusedNew => exact .emitError hm _

/-- `expect_msgs()` for the peer's requests. -/
theorem expectOpenChannelReqs_frame {h : OpenReqHandler} {ok : Bool}
    (hd : s.expectOpenChannelReqs h r = .done (ok, s')) : Frame s s' := by
  obtain ⟨ch, hm, hr⟩ := expectOpenChannelReqs_done hd
  exact hr.frame hm (.flushTo hm h)

/-- `undo_expect_msgs()` for the peer's requests. -/
theorem undoExpectOpenChannelReqs_frame {ok : Bool}
    (hd : s.undoExpectOpenChannelReqs r = .done (ok, s')) : Frame s s' := by
  obtain ⟨ch, hm, hr⟩ := undoExpectOpenChannelReqs_done hd
  exact hr.frame hm (.setChannel hm rfl)

/-- An error of the channel's own. -/
theorem channelError_frame {e : Err} (hd : s.channelError e = .done s') : Frame s s' := by
  obtain ⟨ch, hm, -, rfl⟩ := channelError_done hd
  exact .emitError hm e

/-- A response comes in: it is for a call that waits, or it is dropped. -/
theorem deliverRsp_frame {req : Nat} {m : Msg} (hm : s.masterChannel = some ch) :
    Frame s (s.deliverRsp ch req m) := by
  unfold deliverRsp
  split
  · rename_i id attempt he
    split
    · constructor <;>
        simp [Session.logIns, hm, he, List.countP_cons, Task.isAsyncConnect, Task.isLogInRsp]
    · exact .refl s
  · split
    · split
      · exact .setW _
      · exact .refl s
    · exact .refl s

/-- Any other message comes in, and is queued, kept or dropped. -/
theorem deliverUnsolicited_frame {m : Msg} (hm : s.masterChannel = some ch) :
    Frame s (s.deliverUnsolicited ch m) := by
  unfold deliverUnsolicited
  split
  · split
    · refine Frame.trans ?_ (.post rfl rfl)
      exact .setChannel hm rfl
    · exact .setChannel hm rfl
  · split
    · refine Frame.trans ?_ (.post rfl rfl)
      exact .setChannel hm rfl
    · exact .setChannel hm rfl
  · split
    · exact .post (by simp) (by simp)
    · exact .setChannel hm rfl

/-- A message of the peer's. -/
theorem deliver_frame {m : Msg} (hd : s.deliver m = .done s') : Frame s s' := by
  obtain ⟨ch, hm, -, ⟨req, -, rfl⟩ | ⟨-, rfl⟩⟩ := deliver_done hd
  · exact deliverRsp_frame hm
  · exact deliverUnsolicited_frame hm

/-- A builder is used up. -/
theorem takeBuilder_frame {call : Nat} {b : Option Builder}
    (hd : s.takeBuilder call = .done (b, s')) : Frame s s' := by
  obtain ⟨-, rfl⟩ := takeBuilder_done hd
  constructor <;> rfl

/-- Taking a task takes it out of the counts. -/
theorem takeTask_shape {t : Task} (hd : s.takeTask = .done (t, s')) : SameShape s s' := by
  obtain ⟨-, -, h⟩ := takeTask_done hd
  rw [h]
  exact ⟨rfl, rfl⟩

/-! ### The code of PEER state -/

/-- Thread W's part of `open_channel()` up to its `sync_request()`. -/
theorem openChannelBody_frame {inPeer : Bool} {call : Nat} {b : Builder}
    (hd : s.openChannelBody inPeer call b r = .done s') : Frame s s' := by
  obtain ⟨-, -, hr⟩ := openChannelBody_done hd
  cases hr with
  | hosed => exact .returned
  | sent hp ch hm => exact (Frame.transmit hm _).trans (.setW _)
  | refusedOld => exact .returned
  | refusedNew hp ch hm hh e => exact (Frame.emitError hm e).trans .returned
  | failed hp ch hm hh e =>
    exact ((Frame.failCall hm e).trans (.emitHosed e _)).trans .returned

/-- The `sync_request()` comes back without a response. -/
theorem NoResponseResult.frame {call req : Nat} {r : SyncRes}
    (h : NoResponseResult s call req r s') : Frame s s' := by
  have hidle : Frame s (s.setW .idle) := .setW .idle
  cases h with
  | timeout => exact hidle.trans .returned
  | refusedOld => exact hidle.trans .returned
  | refusedNew ch hm hh e =>
    have hm : (s.setW .idle).masterChannel = some ch := hm
    exact (hidle.trans (.emitError hm e)).trans .returned
  | failed ch hm hh hp e =>
    have hm : (s.setW .idle).masterChannel = some ch := hm
    exact ((hidle.trans (.failCall hm e)).trans (.emitHosed e _)).trans .returned

/-- The peer's request is answered. -/
theorem RespondResult.frame {m : Msg} {p : Prepared} (hm : s.masterChannel = some ch)
    (h : RespondResult s m p ch r s') : Frame s s' := by
  cases h with
  | accepted => exact (Frame.transmit hm _).trans (.record _)
  | rejected => exact .transmit hm _
  | refusedOld => exact .refl s
  | refusedNew hh e => exact .emitError hm e
  | failed hh hp e => exact (Frame.failCall hm e).trans (.emitHosed e _)

/-- The error is reported in PEER state: the channel stays all the same. -/
theorem onMasterChannelErrorPeer_frame {e : Err}
    (hd : s.onMasterChannelErrorPeer cfg e = .done s') : Frame s s' := by
  obtain ⟨s₁, h₁, h₂⟩ := onMasterChannelErrorPeer_done hd
  have h₁' : Frame s s₁ := by
    rcases h₁ with ⟨-, rfl⟩ | ⟨-, rfl⟩
    · exact .refl _
    · exact .emitHosed e _
  rcases h₂ with ⟨-, hf, rfl⟩ | ⟨-, rfl⟩
  · exact h₁'.trans (.setFinisher true (h₁'.finisher.trans hf))
  · exact h₁'

/-- The peer has started its destructor. -/
theorem onGracefulSessionEnd_frame (hd : s.onGracefulSessionEnd = .done s') : Frame s s' := by
  obtain ⟨hf, -, h⟩ := onGracefulSessionEnd_done hd
  have hfin : Frame s (s.setFinisher true) := .setFinisher true (by rw [hf]; rfl)
  rcases h with ⟨-, rfl⟩ | ⟨-, rfl⟩
  · exact hfin
  · exact hfin.trans (.emitHosed _ _)

/-- `session_token()` runs. -/
theorem sessionToken_frame (hd : s.sessionToken = .done s') : Frame s s' := by
  obtain ⟨nil, rfl⟩ := sessionToken_done hd
  exact .record _

/-- The destructor tells the peer. -/
theorem dtorSendEnd_frame (hd : s.dtorSendEnd r = .done s') : Frame s s' := by
  obtain ⟨ch, c, s₁, hm, -, hr, rfl⟩ := dtorSendEnd_done hd
  exact (hr.frame hm).trans (.setDtor _)

/-- It flushes what has been sent. -/
theorem dtorFlush_frame (willRun : Bool) : Frame s (s.dtorFlush willRun) := by
  unfold dtorFlush
  split
  · exact .setDtor _
  · exact .setW _

/-- The destructor starts. -/
theorem dtorStart_frame (hd : s.dtorStart cfg = .done s') : Frame s s' := by
  simp only [dtorStart, Outcome.bind_eq_done] at hd
  obtain ⟨-, -, hd⟩ := hd
  split at hd <;> cases hd <;> exact (Frame.post rfl rfl).trans (.setDtor _)

/-- It goes on to its next point. -/
theorem dtorStep_frame (hd : s.dtorStep = .done s') : Frame s s' := by
  simp only [dtorStep] at hd
  split at hd <;> simp at hd
  · subst hd; exact (Frame.post rfl rfl).trans (.setDtor _)
  · subst hd; exact (Frame.post rfl rfl).trans (.setDtor _)
  · obtain ⟨-, rfl⟩ := hd; exact (Frame.post rfl rfl).trans (.setDtor _)
  · obtain ⟨-, rfl⟩ := hd; exact (Frame.setW _).trans (.setDtor _)

/-- The flush is over. -/
theorem dtorFlushDone_frame (hd : s.dtorFlushDone = .done s') : Frame s s' := by
  simp [dtorFlushDone] at hd
  obtain ⟨-, rfl⟩ := hd
  exact (Frame.setW _).trans (.setDtor _)

/-- The user's channel is made, which is no business of the master channel. -/
theorem createChannelObj_frame {mqC2s mqS2c : SharedName} {hndl : Option NativeHandle}
    {active : Bool} {mqOpen : ErrorCode} {obj : ChannelObj}
    (hd : s.createChannelObj cfg mqC2s mqS2c hndl active mqOpen = .done (obj, s')) :
    Frame s s' := by
  simp [createChannelObj] at hd
  obtain ⟨-, -, -, -, rfl⟩ := hd
  exact .nextNickname active

end Session

end IpcSession
