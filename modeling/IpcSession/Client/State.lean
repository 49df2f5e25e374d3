import IpcSession.Base.Frame
import IpcSession.Client.Model

namespace IpcSession

/-!
# The client's state and the fields that go with it

What the docs of `m_state`, `m_master_channel`, `m_conn_on_done_func_or_empty` and
`m_graceful_finisher` promise of one another:

* `Client.StateDoc` — the promise as the member docs have it.
* `Client.StateInv` — the invariant that carries it: in CONNECTING there is a channel, too.
* `ackSendFails` — the one step that breaks it: the `send()` of the last init-channel
  acknowledgement emits an error, and NULL state is entered with the channel still there.
* `stateInv_of_reaches` — every other step keeps the invariant, so every run without that step
  does, whatever the server, the channel and a sub-class do.
-/

namespace Client

variable {cfg : Cfg} {s s' : Client} {o : ClientOracle}

/-- The server's answer to `open_channel()` leaves the master channel as it is. -/
theorem openChannelRsp_frame {s s' : Session} {call req : Nat} {mqOpen : ErrorCode} {m : Msg}
    (hd : openChannelRsp cfg call req mqOpen m s = .done s') : s.Frame s' := by
  simp only [openChannelRsp] at hd
  split at hd
  · simp only [Outcome.bind_eq_done, Prod.exists] at hd
    obtain ⟨obj, s₁, hc, hd⟩ := hd
    cases hd
    exact (Session.createChannelObj_frame hc).trans .returned
  · cases hd; exact .returned
  · cases hd; exact .returned
  · cases hd
  · cases hd

/-- So does making what the server asks for. -/
theorem prepare_frame {s s' : Session} {m : Msg} {mqOpen : ErrorCode} {p : Session.Prepared}
    (hd : prepare cfg m mqOpen s = .done (p, s')) : s.Frame s' := by
  simp only [prepare] at hd
  split at hd
  · split at hd
    · simp only [Outcome.bind_eq_done, Prod.exists] at hd
      obtain ⟨obj, s₁, hc, hd⟩ := hd
      cases hd
      exact Session.createChannelObj_frame hc
    · cases hd
  · cases hd; exact .refl _

/-- And answering it. -/
theorem onMasterChannelOpenChannelReq_frame {s s' : Session} {m : Msg}
    (hd : onMasterChannelOpenChannelReq cfg m o s = .done s') : s.Frame s' := by
  simp only [onMasterChannelOpenChannelReq, Outcome.bind_eq_done] at hd
  obtain ⟨h, -, hd⟩ := hd
  cases h with
  | true => cases hd; exact .record _
  | false =>
    simp only [Bool.false_eq_true, if_false, Outcome.bind_eq_done, Prod.exists] at hd
    obtain ⟨-, -, p, s₁, hp, hd⟩ := hd
    obtain ⟨ch, hm, hr⟩ := Session.openChannelReqRespond_done hd
    have h₀ : s.Frame (s.record (.openChannelReqRan m.id)) := .record _
    exact (h₀.trans (prepare_frame hp)).trans (hr.frame hm)

/-! ### The invariant -/

/-- The promise of the member docs. -/
structure StateDoc (s : Client) : Prop where
  null : s.state = .null → s.masterChannel = none ∧ s.connOnDoneFuncOrEmpty = none
  connecting : s.state = .connecting → s.connOnDoneFuncOrEmpty ≠ none
  peer : s.state = .peer → s.masterChannel ≠ none ∧ s.connOnDoneFuncOrEmpty = none
  finisher : s.gracefulFinisher ≠ none → s.state = .peer

/-- What every task leaves behind. -/
structure StateInv (s : Client) : Prop where
  null : s.state = .null → s.masterChannel = none ∧ s.connOnDoneFuncOrEmpty = none
  connecting : s.state = .connecting →
    s.connOnDoneFuncOrEmpty.isSome = true ∧ s.masterChannel.isSome = true
  peer : s.state = .peer → s.masterChannel.isSome = true ∧ s.connOnDoneFuncOrEmpty = none
  finisher : s.gracefulFinisher.isSome = true → s.state = .peer

/-- The invariant says what the documentation does. -/
theorem StateInv.doc (h : StateInv s) : StateDoc s where
  null := h.null
  connecting := fun hs => Option.isSome_iff_ne_none.mp (h.connecting hs).1
  peer := fun hs => ⟨Option.isSome_iff_ne_none.mp (h.peer hs).1, (h.peer hs).2⟩
  finisher := fun hf => h.finisher (Option.isSome_iff_ne_none.mpr hf)

/-- In NULL state there is no channel. -/
theorem stateInv_fresh (passiveOpen : Bool) : StateInv (fresh passiveOpen) := by
  constructor <;> simp [fresh]

/-- Session code keeps the invariant. -/
theorem StateInv.of_shape {b : Session} (h : StateInv s) (hb : s.toSession.SameShape b) :
    StateInv (s.setSession b) where
  null := fun hs => by
    have hm : b.masterChannel.isSome = false := by rw [hb.channel, (h.null hs).1]; rfl
    exact ⟨by simpa using hm, (h.null hs).2⟩
  connecting := fun hs => ⟨(h.connecting hs).1, hb.channel.trans (h.connecting hs).2⟩
  peer := fun hs => ⟨hb.channel.trans (h.peer hs).1, (h.peer hs).2⟩
  finisher := fun hf => h.finisher (hb.finisher.symm.trans hf)

/-- Common session code leaves the state and its channel alone. -/
theorem StateInv.liftUnit {f : Session → Outcome Failure Session} (h : StateInv s)
    (hf : ∀ b b', f b = .done b' → b.Frame b') (hd : s.liftUnit f = .done s') :
    StateInv s' := by
  obtain ⟨b, hb, rfl⟩ := liftUnit_done hd
  exact h.of_shape (hf _ _ hb).shape

/-! ### The ends of a connect attempt -/

/-- Reporting an error from NULL state, the channel being gone. -/
theorem InvokeResult.stateInv_null {f : OnDone} {e : Err} (h : InvokeResult s f (some e) s')
    (hs : s.state = .null) (hm : s.masterChannel = none) (hf : s.gracefulFinisher = none) :
    StateInv s' := by
  cases h with
  | plain => constructor <;> simp [Client.record, hs, hm, hf]

/-- Reporting success from PEER state, while there is no finisher. -/
theorem InvokeResult.stateInv_peer {f : OnDone} (h : InvokeResult s f none s')
    (hs : s.state = .peer) (hm : s.masterChannel.isSome = true)
    (hf : s.gracefulFinisher = none) : StateInv s' := by
  cases h with
  | plain => constructor <;> simp [Client.record, hs, hm]
  | toNull => constructor <;> simp [Client.record, hf]
  | toConnecting => constructor <;> simp [hm, hf]

/-- Out of PEER state there is no finisher. -/
theorem StateInv.no_finisher (h : StateInv s) (hs : s.state ≠ .peer) :
    s.gracefulFinisher = none := by
  cases hf : s.gracefulFinisher with
  | none => rfl
  | some b => exact absurd (h.finisher (by rw [hf]; rfl)) hs

/-- PEER state is entered with the channel there. -/
theorem connectSucceeded_stateInv {hook : Hook} (hd : s.connectSucceeded cfg hook = .done s')
    (hm : s.masterChannel.isSome = true) (hf : s.gracefulFinisher = none) : StateInv s' := by
  obtain ⟨-, f, -, hr⟩ := connectSucceeded_done hd
  exact hr.stateInv_peer rfl hm hf

/-- A task that stops in CONNECTING state, with the channel there. -/
theorem StateInv.connecting_of_shape (h : StateInv s) (hs : s.state = .connecting)
    (hs' : s'.state = .connecting) (hc : s'.connOnDoneFuncOrEmpty = s.connOnDoneFuncOrEmpty)
    (hb : s.toSession.SameShape s'.toSession) : StateInv s' where
  null := fun h' => by simp [hs'] at h'
  connecting := fun _ => ⟨hc ▸ (h.connecting hs).1, hb.channel.trans (h.connecting hs).2⟩
  peer := fun h' => by simp [hs'] at h'
  finisher := fun hf => by
    have hp := h.finisher (hb.finisher.symm.trans hf)
    simp [hs] at hp

/-! ### The tasks -/

/-- CONNECTING state is entered with a new channel. -/
theorem asyncConnect_stateInv {attempt : Nat} {subClass : Bool} {b : Builder} (h : StateInv s)
    (hd : s.asyncConnect cfg attempt subClass b o = .done s') : StateInv s' := by
  cases asyncConnect_done hd with
  | ignored hs => exact h.of_shape ⟨rfl, rfl⟩
  | cnsFailed hs e =>
    obtain ⟨hm, -⟩ := h.null hs
    have hf := h.no_finisher (by simp [hs])
    constructor <;> simp [Client.record, hm, hf]
  | sockFailed hs pid hc hn hsrv e =>
    obtain ⟨hm, -⟩ := h.null hs
    have hf := h.no_finisher (by simp [hs])
    constructor <;> simp [Client.record, hm, hf]
  | sendFailed hs pid hc hn hsrv hm t ht ch hch e =>
    have hf : t.gracefulFinisher = none := by rw [ht]; exact h.no_finisher (by simp [hs])
    constructor <;> simp [Client.record, hf]
  | refused hs pid hc hn hsrv hm t ht ch hch e =>
    have hf : t.gracefulFinisher = none := by rw [ht]; exact h.no_finisher (by simp [hs])
    have hs' : t.state = .connecting := by rw [ht]; rfl
    have hc' : t.connOnDoneFuncOrEmpty.isSome = true := by rw [ht]; rfl
    constructor <;> simp [hs', hc', hf]
  | sent hs pid hc hn hsrv hm t ht ch hch =>
    have hf : t.gracefulFinisher = none := by rw [ht]; exact h.no_finisher (by simp [hs])
    have hs' : t.state = .connecting := by rw [ht]; rfl
    have hc' : t.connOnDoneFuncOrEmpty.isSome = true := by rw [ht]; rfl
    constructor <;> simp [hs', hc', hf]

/-- Reading the response touches neither the state nor the channel. -/
theorem readLogInRsp_frame {attempt : Nat} {m : Msg} {res : Except Err (Nat × Mdt)}
    (hd : s.readLogInRsp cfg attempt m = .done (res, s')) :
    s'.state = s.state ∧ s'.connOnDoneFuncOrEmpty = s.connOnDoneFuncOrEmpty ∧
      s.toSession.SameShape s'.toSession := by
  obtain ⟨⟨v, w, name, rfl⟩, -⟩ := readLogInRsp_done hd
  exact ⟨rfl, rfl, ⟨rfl, rfl⟩⟩

/-- The log-in response gives the channel up with the state, or neither. -/
theorem onMasterChannelLogInRsp_stateInv {chan attempt : Nat} {m : Msg} (h : StateInv s)
    (hd : s.onMasterChannelLogInRsp cfg chan m attempt o = .done s') : StateInv s' := by
  simp only [onMasterChannelLogInRsp, Outcome.bind_eq_done, Prod.exists,
    Outcome.check_eq_done] at hd
  obtain ⟨res, s₁, hread, -, hstate, -, -, hd⟩ := hd
  obtain ⟨hs₁, hc₁, hsh₁⟩ := readLogInRsp_frame hread
  have hs : s₁.state = .connecting := of_decide_eq_true hstate
  have h₁ : StateInv s₁ := h.connecting_of_shape (hs₁ ▸ hs) hs hc₁ hsh₁
  have hfin : s₁.gracefulFinisher = none := h₁.no_finisher (by simp [hs])
  have hch := (h₁.connecting hs).2
  cases res with
  | error e =>
    obtain ⟨f, -, hr⟩ := invokeConnOnDoneFunc_done hd
    exact hr.stateInv_null rfl rfl hfin
  | ok res =>
    obtain ⟨n, mdt⟩ := res
    simp only at hd
    split at hd
    · simp only [Outcome.bind_eq_done, Prod.exists] at hd
      obtain ⟨-, -, ok, s₂, h₂, hd⟩ := hd
      obtain ⟨b, hb, rfl⟩ := lift_done h₂
      have hsh := Session.expectOpenChannelReqs_frame hb
      cases ok with
      | true =>
        refine connectSucceeded_stateInv hd (hsh.channel.trans hch) ?_
        have := hsh.finisher
        simpa [setOut, hfin] using this
      | false =>
        cases hd
        exact h₁.connecting_of_shape hs hs rfl hsh.shape
    · simp only [Outcome.bind_eq_done, Prod.exists] at hd
      obtain ⟨-, -, ok, s₂, h₂, hd⟩ := hd
      obtain ⟨b, hb, rfl⟩ := lift_done h₂
      cases hd
      exact h₁.connecting_of_shape hs hs rfl (Session.expectOpenChannelReqs_frame hb).shape

/-- The `send()` of the last init-channel acknowledgement emits an error: thread W is about to
    handle the last init-channel message, swaps the handlers, and gets the error out of
    `send()`. -/
def ackSendFails (s : Client) : Act → Bool
  | .run o =>
    match s.queue, o.undo, o.expect, o.send with
    | .initOpenChannel _ _ cap :: _, .ok, .ok, .failed _ =>
      ((s.vecs.lookup cap.vec).getD []).length + 1 = cap.nInitChannels
    | _, _, _, _ => false
  | _ => false

/-- Filling the user's containers changes the out-arguments only. -/
theorem emitInitChannels_frame {cap : InitCapture} {chans : Channels}
    (hd : s.emitInitChannels cap chans = .done s') :
    ∃ out, s' = s.setOut cap.attempt out := by
  simp only [emitInitChannels, Outcome.bind_eq_done] at hd
  obtain ⟨-, -, -, -, -, -, hd⟩ := hd
  cases hd
  exact ⟨_, rfl⟩

/-- Unless the acknowledgement's `send()` emits an error, the last init-channel leaves the
    invariant in place. -/
theorem initChannelsComplete_stateInv {m : Msg} {cap : InitCapture} {chans : Channels}
    (hd : s.initChannelsComplete cfg m cap chans o = .done s') (h : StateInv s)
    (hs : s.state = .connecting)
    (hno : ∀ e, ¬ (o.undo = .ok ∧ o.expect = .ok ∧ o.send = .failed e)) : StateInv s' := by
  have hfin : s.gracefulFinisher = none := h.no_finisher (by simp [hs])
  have hch := (h.connecting hs).2
  simp only [initChannelsComplete, Outcome.bind_eq_done, Prod.exists] at hd
  obtain ⟨ok₁, s₁, h₁, hd⟩ := hd
  obtain ⟨b₁, hb₁, rfl⟩ := lift_done h₁
  have hsh₁ := Session.undoExpectOpenChannelReqs_frame hb₁
  -- Refused: the channel is hosed and its error is on its way; the state stays CONNECTING.
  cases ok₁ with
  | false =>
    cases hd
    exact h.connecting_of_shape hs hs rfl hsh₁.shape
  | true =>
    simp only [Bool.not_true, Bool.false_eq_true, if_false, Outcome.bind_eq_done,
      Prod.exists] at hd
    obtain ⟨ok₂, s₂, h₂, hd⟩ := hd
    obtain ⟨b₂, hb₂, rfl⟩ := lift_done h₂
    have hsh₂ := hsh₁.trans (Session.expectOpenChannelReqs_frame hb₂)
    cases ok₂ with
    | false =>
      cases hd
      exact h.connecting_of_shape hs hs rfl hsh₂.shape
    | true =>
      simp only [Bool.not_true, Bool.false_eq_true, if_false, Outcome.bind_eq_done,
        Prod.exists] at hd
      obtain ⟨c, s₃, h₃, hd⟩ := hd
      obtain ⟨b₃, hb₃, rfl⟩ := lift_done h₃
      obtain ⟨ch, hm, hr⟩ := Session.send_done hb₃
      have hsh₃ := hsh₂.trans (hr.frame hm)
      -- Both calls went through, so a failing send() is the step that the hypothesis excludes.
      have hundo := Session.undoExpectOpenChannelReqs_true hb₁
      have hexpect := Session.expectOpenChannelReqs_true hb₂
      generalize hsend : o.send = r at hr
      cases hr with
      | ok =>
        simp only [Outcome.bind_eq_done] at hd
        obtain ⟨s₄, h₄, hd⟩ := hd
        obtain ⟨out, rfl⟩ := emitInitChannels_frame h₄
        refine connectSucceeded_stateInv hd (hsh₃.channel.trans hch) ?_
        have := hsh₃.finisher
        simpa [setOut, hfin] using this
      | refusedOld =>
        cases hd
        exact h.connecting_of_shape hs hs rfl hsh₃.shape
      | refusedNew =>
        cases hd
        exact h.connecting_of_shape hs hs rfl hsh₃.shape
      | failed hh e => exact absurd ⟨hundo, hexpect, hsend⟩ (hno e)

/-- So does an init-channel, but for the last one with a failing acknowledgement. -/
theorem onMasterChannelInitOpenChannel_stateInv {m : Msg} {cap : InitCapture} (h : StateInv s)
    (hno : ∀ e, ¬ (((s.vecs.lookup cap.vec).getD []).length + 1 = cap.nInitChannels ∧
      o.undo = .ok ∧ o.expect = .ok ∧ o.send = .failed e))
    (hd : s.onMasterChannelInitOpenChannel cfg m cap o = .done s') : StateInv s' := by
  simp only [onMasterChannelInitOpenChannel, Outcome.bind_eq_done, Outcome.check_eq_done] at hd
  obtain ⟨-, hstate, -, -, hd⟩ := hd
  have hs : s.state = .connecting := of_decide_eq_true hstate
  split at hd
  · simp only [Outcome.bind_eq_done, Prod.exists] at hd
    obtain ⟨obj, s₁, h₁, -, -, hd⟩ := hd
    obtain ⟨b₁, hb₁, rfl⟩ := lift_done h₁
    have hsh := Session.createChannelObj_frame hb₁
    have hinv : StateInv (s.setSession b₁) := h.of_shape ⟨hsh.1, hsh.2⟩
    split at hd
    · cases hd
      exact hinv.connecting_of_shape hs hs rfl (.refl _)
    · rename_i hlen
      refine initChannelsComplete_stateInv hd ?_ hs ?_
      · exact hinv.connecting_of_shape hs hs rfl (.refl _)
      · intro e he
        refine hno e ⟨?_, he⟩
        simpa [Client.record] using hlen
  · cases hd

/-- So does the report of an error. -/
theorem onMasterChannelError_stateInv {chan : Nat} {e : Err} (h : StateInv s)
    (hd : s.onMasterChannelError cfg chan e = .done s') : StateInv s' := by
  simp only [onMasterChannelError] at hd
  split at hd
  · cases hd; exact h
  · cases hs : s.state with
    | null => simp [hs] at hd
    | connecting =>
      simp only [hs, Outcome.bind_eq_done] at hd
      obtain ⟨-, -, hd⟩ := hd
      obtain ⟨f, -, hr⟩ := invokeConnOnDoneFunc_done hd
      exact hr.stateInv_null rfl rfl (h.no_finisher (by simp [hs]))
    | peer =>
      simp only [hs] at hd
      exact h.liftUnit (fun _ _ => Session.onMasterChannelErrorPeer_frame) hd

/-- And a sub-class's completion. -/
theorem complete_stateInv {e : ErrorCode} {r : Ret} (h : StateInv s) (hs : s.state = .connecting)
    (hd : s.completeAsyncConnectAfterCancelingPeerState cfg e r = .done s') : StateInv s' := by
  have hfin : s.gracefulFinisher = none := h.no_finisher (by simp [hs])
  have hch := (h.connecting hs).2
  simp only [completeAsyncConnectAfterCancelingPeerState, Outcome.bind_eq_done,
    Prod.exists] at hd
  obtain ⟨hosed, s₁, h₁, -, -, hd⟩ := hd
  obtain ⟨b₁, hb₁, rfl⟩ := lift_done h₁
  obtain ⟨hosed', -, hb₁⟩ := Outcome.bind_eq_done.mp hb₁
  cases hb₁
  cases e with
  | some e =>
    obtain ⟨f, -, hr⟩ := invokeConnOnDoneFunc_done hd
    exact hr.stateInv_null rfl rfl hfin
  | none =>
    simp only [Outcome.bind_eq_done] at hd
    obtain ⟨s₂, h₂, hd⟩ := hd
    have hm₂ : s₂.masterChannel.isSome = true ∧ s₂.state = .peer := by
      simp only [engageFinisher] at h₂
      split at h₂
      · obtain ⟨b₂, hb₂, rfl⟩ := liftUnit_done h₂
        obtain ⟨ch, hm, hr⟩ := Session.emplaceGracefulFinisher_done hb₂
        refine ⟨?_, rfl⟩
        cases hr with
        | refusedOld => exact hch
        | cached => rfl
        | expected => rfl
        | refusedNew => rfl
      · cases h₂
        exact ⟨hch, rfl⟩
    obtain ⟨f, -, rfl⟩ := invokeConnOnDoneFunc_passOn_done hd
    constructor <;> simp [Client.record, hm₂.1, hm₂.2]

/-! ### Steps and runs -/

/-- Every task but the one with the failing acknowledgement keeps the invariant. -/
theorem runTask_stateInv {t : Task} (h : StateInv s)
    (hno : ∀ chan m cap e, t = .initOpenChannel chan m cap →
      ¬ (((s.vecs.lookup cap.vec).getD []).length + 1 = cap.nInitChannels ∧
        o.undo = .ok ∧ o.expect = .ok ∧ o.send = .failed e))
    (hd : s.runTask cfg o t = .done s') : StateInv s' := by
  cases t with
  | masterChannelError chan e => exact onMasterChannelError_stateInv h hd
  | logInRsp chan m attempt => exact onMasterChannelLogInRsp_stateInv h hd
  | initOpenChannel chan m cap =>
    exact onMasterChannelInitOpenChannel_stateInv h (fun e => hno chan m cap e rfl) hd
  | openChannelReq chan m =>
    exact h.liftUnit (fun _ _ => onMasterChannelOpenChannelReq_frame) hd
  | gracefulSessionEnd chan => exact h.liftUnit (fun _ _ => Session.onGracefulSessionEnd_frame) hd
  | asyncConnect attempt subClass b => exact asyncConnect_stateInv h hd
  | mdtBuilder call mdt =>
    simp only [runTask, mdtBuilder] at hd
    split at hd <;> cases hd <;> exact h.of_shape ⟨rfl, rfl⟩
  | openChannel call b => exact h.liftUnit (fun _ _ => Session.openChannelBody_frame) hd
  | sessionToken =>
    simp only [runTask, sessionToken] at hd
    split at hd
    · cases hd; exact h.of_shape ⟨rfl, rfl⟩
    · exact h.liftUnit (fun _ _ => Session.sessionToken_frame) hd
  | dtorFinisherQuery => cases hd; exact h.of_shape ⟨rfl, rfl⟩
  | dtorSendEnd => exact h.liftUnit (fun _ _ => Session.dtorSendEnd_frame) hd
  | dtorFlush => cases hd; exact h.of_shape (Session.dtorFlush_frame _).shape
  | logInReq => cases hd
  | acceptLogIn => cases hd
  | initHandlers => cases hd
  | preInitError => cases hd

/-- What a sub-class has taken over is CONNECTING. -/
theorem takenOver_state (h : s.takenOver = true) : s.state = .connecting := by
  simp [takenOver] at h
  exact h.1.2

/-- Every step but the failing acknowledgement keeps the invariant. -/
theorem step_stateInv {a : Act} (h : StateInv s) (hno : ackSendFails s a = false)
    (hd : step cfg s a = .done s') : StateInv s' := by
  cases a with
  | mdtBuilder call mdt =>
    simp only [step, Outcome.bind_eq_done] at hd
    obtain ⟨-, -, hd⟩ := hd
    cases hd
    exact h.of_shape ⟨rfl, rfl⟩
  -- The call posts; the state is the task's to change.
  | connect call attempt out subClass =>
    simp only [step, connect, Outcome.bind_eq_done, Prod.exists] at hd
    obtain ⟨-, -, b, s₁, h₁, hd⟩ := hd
    obtain ⟨b₁, hb₁, rfl⟩ := lift_done h₁
    have hinv := h.of_shape (Session.takeBuilder_frame hb₁).shape
    cases b with
    | none => cases hd
    | some b =>
      simp only [Outcome.bind_eq_done] at hd
      obtain ⟨-, -, hd⟩ := hd
      cases hd
      exact ⟨hinv.null, hinv.connecting, hinv.peer, hinv.finisher⟩
  | openChannel call =>
    simp only [step, Outcome.bind_eq_done] at hd
    obtain ⟨-, -, hd⟩ := hd
    refine h.liftUnit (fun b b' hb => ?_) hd
    simp only [openChannel, Outcome.bind_eq_done, Prod.exists] at hb
    obtain ⟨bl, b₁, h₁, hb⟩ := hb
    have hsh := Session.takeBuilder_frame h₁
    cases bl <;> cases hb <;> exact hsh.trans (by first | exact .returned | exact .post rfl rfl)
  | sessionToken =>
    simp only [step, Outcome.bind_eq_done] at hd
    obtain ⟨-, -, hd⟩ := hd
    cases hd
    exact h.of_shape ⟨rfl, rfl⟩
  -- The one task that could break the documented state is excluded: the acknowledgement's send()
  -- failing.
  | run o =>
    simp only [step, Outcome.bind_eq_done, Prod.exists] at hd
    obtain ⟨t, s₁, h₁, hd⟩ := hd
    obtain ⟨b₁, hb₁, rfl⟩ := lift_done h₁
    obtain ⟨-, hq, -⟩ := Session.takeTask_done hb₁
    refine runTask_stateInv (h.of_shape (Session.takeTask_shape hb₁)) ?_ hd
    rintro chan m cap e rfl ⟨hlen, hu, he, hs⟩
    simp only [ackSendFails, hq, hu, he, hs, decide_eq_false_iff_not] at hno
    exact hno hlen
  -- An open_channel() goes on or gives up; neither moves the state.
  | syncReturn r mqOpen =>
    simp only [step] at hd
    split at hd
    · refine h.liftUnit (fun b b' hb => ?_) hd
      rcases Session.openChannelSyncReturn_done hb with ⟨m, -, -, hb⟩ | ⟨-, hb⟩
      · have hidle : b.Frame (b.setW .idle) := .setW _
        exact hidle.trans (openChannelRsp_frame hb)
      · exact hb.frame
    · cases hd
  | subClassSend r =>
    simp only [step, Outcome.bind_eq_done, Prod.exists] at hd
    obtain ⟨-, -, c, s₁, h₁, hd⟩ := hd
    obtain ⟨b₁, hb₁, rfl⟩ := lift_done h₁
    obtain ⟨ch, hm, hr⟩ := Session.send_done hb₁
    cases hd
    exact h.of_shape (hr.frame hm).shape
  -- A taken-over completion sets the state itself.
  | complete e r =>
    simp only [step, Outcome.bind_eq_done, Outcome.require_eq_done, Bool.and_eq_true] at hd
    obtain ⟨-, ⟨ht, -⟩, hd⟩ := hd
    exact complete_stateInv h (takenOver_state ht) hd
  | deliver m => exact h.liftUnit (fun _ _ => Session.deliver_frame) hd
  | channelError e => exact h.liftUnit (fun _ _ => Session.channelError_frame) hd
  | dtorStart => exact h.liftUnit (fun _ _ => Session.dtorStart_frame) hd
  | dtorStep => exact h.liftUnit (fun _ _ => Session.dtorStep_frame) hd
  | flushDone => exact h.liftUnit (fun _ _ => Session.dtorFlushDone_frame) hd

/-- The runs of a client in which no acknowledgement's `send()` emits an error. -/
def ReachesAckSent (cfg : Cfg) (passiveOpen : Bool) : Client → Prop :=
  Machine.Reaches (step cfg) (fun s a => !ackSendFails s a) (fresh passiveOpen)

/-- So the invariant holds in every run without that failure. -/
theorem stateInv_of_reaches {passiveOpen : Bool} (h : ReachesAckSent cfg passiveOpen s) :
    StateInv s :=
  Machine.Reaches.invariant h (stateInv_fresh passiveOpen)
    (fun _ _ _ hinv hno hd => step_stateInv hinv (by simpa using hno) hd)

/-- **State and fields agree** in every run in which the `send()` of the last init-channel
    acknowledgement never emits an error. -/
theorem stateDoc_of_ackSent {passiveOpen : Bool} (h : ReachesAckSent cfg passiveOpen s) :
    StateDoc s :=
  (stateInv_of_reaches h).doc

/-- A connect attempt up to the point where the response to the log-in request is in. -/
def connectPrefix (out : OutArgs) (rsp : LogInRsp) : List Act :=
  [.mdtBuilder 0 [], .run {}, .connect 0 0 out false, .run { cns := ['7', '\n'] },
    .deliver ⟨0, some 0, none, .logInRsp rsp⟩, .run {}]

/-- One init-channel, asked for by the server, whose message arrives. -/
def oneInitChannel : List Act :=
  connectPrefix ⟨none, some [], none⟩ ⟨1, 1, ['1'], [], 1⟩ ++
    [.deliver ⟨1, none, some ⟨0, true⟩, .openChannelToClientReq [] [] []⟩]

/-- The invariant holds along a whole connect with an init-channel. -/
theorem stateDoc_of_ackSent_oneInitChannel :
    ∃ s, s.state = .peer ∧ StateDoc s := by
  obtain ⟨s, hr, hs⟩ := Machine.Reaches.exists_of_run
    (Machine.guarded (fun s a => !ackSendFails s a) (step .sample)) (fresh true)
    (oneInitChannel ++ [.run {}]) (fun s => s.state = .peer) (by decide)
  have hr : ReachesAckSent .sample true s := hr.of_guarded
  exact ⟨s, of_decide_eq_true hs, stateDoc_of_ackSent hr⟩

/-- **The failing acknowledgement breaks it**: NULL state is entered with the channel there. -/
theorem not_stateDoc_of_ackSendFails :
    ¬ ∀ (cfg : Cfg) (passiveOpen : Bool) (s : Client),
      Machine.Reaches (step cfg) Machine.anyStep (fresh passiveOpen) s → s.w = .idle →
        StateDoc s := by
  intro hall
  obtain ⟨s, hr, hs⟩ := Machine.Reaches.exists_of_run (step .sample) (fresh true)
    (oneInitChannel ++ [.run { send := .failed (.other 1) }])
    (fun s => s.w = .idle && s.state = .null && s.masterChannel.isSome) (by decide)
  simp only [Bool.and_eq_true, decide_eq_true_eq] at hs
  have hm := ((hall _ _ _ hr hs.1.1).null hs.1.2).1
  simp [hm] at hs

end Client

end IpcSession
