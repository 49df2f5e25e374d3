import IpcSession.Base.Updates
import IpcSession.Client.State

namespace IpcSession

/-!
# The client's steps as elementary updates

`Client.Update s l s'` is an elementary update of a client: one of its session part, or one of the
client's own members; `l` is its `Mark`, if it has one.  Every step of a client is a sequence of
them (`Client.step_updates`), but for the destructor's own steps.
-/

/-- What the client records of its own accord. -/
def Event.isClientMark : Event → Bool
  | connectDone .. => true
  | connectIgnored => true
  | initOpenChannelRan _ => true
  | openChannelReqRan _ => true
  | _ => false

namespace Client

variable {cfg : Cfg} {s s' s'' : Client} {o : ClientOracle} {e : ErrorCode} {hook : Hook}
  {l : Option Mark} {L : Mark → Prop}

/-- An elementary update. -/
inductive Update (s : Client) : Option Mark → Client → Prop
  | session {l : Option Mark} {b : Session} (h : s.toSession.Update l b) :
      Update s l (s.setSession b)
  | mark {e : Event} (he : e.isClientMark = true) : Update s none (s.record e)
  | postConnect (attempt : Nat) (subClass : Bool) (b : Builder) :
      Update s none (s.post (.asyncConnect attempt subClass b))
  | setState (st : ClientState) : Update s none (s.setState st)
  | setOnDone (f : Option OnDone) : Update s none (s.setOnDone f)
  | setVec (vec : Nat) (chans : Channels) : Update s none (s.setVec vec chans)
  | setOut (attempt : Nat) (out : OutArgs) : Update s none (s.setOut attempt out)
  | srvNamespace (name : SharedName) : Update s none (s.setSession (s.putSrvNamespace name))
  | cliNamespace (name : SharedName) : Update s none (s.setSession (s.putCliNamespace name))
  | negotiators (v w : Option Int) :
      Update s none { s with protocolNegotiator := v, protocolNegotiatorAux := w }
  | makeChannel (hm : s.masterChannel = none) : Update s none s.makeChannel
  | dropChannel : Update s none s.resetChannel
  /-- The log-in request is sent, and its response expected. -/
  | awaitRsp {ch : MasterChannel} (hm : s.masterChannel = some ch) (hh : ch.hosed = false)
      (id attempt : Nat) :
      Update s none (s.setSession (s.setChannel { ch with expectsLogInRsp := some (id, attempt) }))
  /-- The init-channels are expected. -/
  | expectInit {ch : MasterChannel} (hm : s.masterChannel = some ch) (hh : ch.hosed = false)
      (cap : InitCapture) :
      Update s (some .expect) (s.setSession (s.flushTo ch (.initOpenChannel cap)))

/-- Any number of elementary updates, with marks in `L` only. -/
abbrev Updates (L : Mark → Prop) : Client → Client → Prop :=
  Relation.ReflTransGen fun s s' => ∃ l, Mark.Within L l ∧ Update s l s'

namespace Updates

theorem refl (s : Client) : Updates L s s := Relation.ReflTransGen.refl

theorem trans (h : Updates L s s') (h' : Updates L s' s'') : Updates L s s'' :=
  Relation.ReflTransGen.trans h h'

/-- An update without a mark. -/
theorem of (h : Update s none s') : Updates L s s' := .single ⟨none, .none, h⟩

/-- An update with a mark in `L`. -/
theorem ofMark {k : Mark} (hk : L k) (h : Update s (some k) s') : Updates L s s' :=
  .single ⟨some k, fun _ he => Option.some.inj he ▸ hk, h⟩

/-- One more update without a mark. -/
theorem tail (h : Updates L s s') (hu : Update s' none s'') : Updates L s s'' := h.trans (.of hu)

/-- Fewer marks. -/
theorem mono {L' : Mark → Prop} (h : Updates L s s') (hL : ∀ k, L k → L' k) : Updates L' s s' := by
  induction h with
  | refl => exact .refl s
  | tail _ hu ih =>
    obtain ⟨l, hl, hu⟩ := hu
    exact ih.trans (.single ⟨l, fun k hk => hL k (hl k hk), hu⟩)

/-- Session code inside the client. -/
theorem session {b : Session} (h : s.toSession.Updates L b) : Updates L s (s.setSession b) := by
  refine h.keeps (P := fun b => Updates L s (s.setSession b)) (.refl s) fun b₁ l b₂ ih hl hu => ?_
  have h₁ : Update (s.setSession b₁) l (s.setSession b₂) := .session hu
  exact ih.trans (.single ⟨l, hl, h₁⟩)

/-- **What every update keeps, sequences of them keep.** -/
theorem keeps {P : Client → Prop} (h : Updates L s s') (hs : P s)
    (hstep : ∀ t l t', P t → Mark.Within L l → Update t l t' → P t') : P s' := by
  induction h with
  | refl => exact hs
  | tail _ hu ih =>
    obtain ⟨l, hl, hu⟩ := hu
    exact hstep _ _ _ ih hl hu

end Updates

/-! ### The end of a connect attempt -/

/-- The channel goes, and NULL state comes. -/
theorem backToNull_updates (s : Client) : Updates L s s.backToNull := by
  have h₁ : Updates L s s.resetChannel := .of .dropChannel
  exact h₁.tail (.setState .null)

/-- The handler of an attempt runs. -/
theorem InvokeResult.updates {f : OnDone} (h : InvokeResult s f e s') : Updates L s s' := by
  have h₁ : Updates L s (s.setOnDone none) := .of (.setOnDone none)
  cases h with
  | plain => exact h₁.tail (.mark rfl)
  | toNull hf e => exact (h₁.trans (backToNull_updates _)).tail (.mark rfl)
  | toConnecting hf => exact (h₁.tail (.setState .connecting)).tail (.setOnDone _)

/-- So it does where it is called. -/
theorem invokeConnOnDoneFunc_updates (hd : s.invokeConnOnDoneFunc e hook = .done s') :
    Updates L s s' := by
  obtain ⟨f, -, hr⟩ := invokeConnOnDoneFunc_done hd
  exact hr.updates

/-- An attempt fails. -/
theorem connectFailed_updates {e : Err} (hd : s.connectFailed e = .done s') : Updates L s s' := by
  have h₁ : Updates L s (s.setState .null) := .of (.setState .null)
  obtain ⟨-, f, -, hr⟩ := connectFailed_done hd
  exact h₁.trans hr.updates

/-- An attempt succeeds. -/
theorem connectSucceeded_updates (hd : s.connectSucceeded cfg hook = .done s') :
    Updates L s s' := by
  have h₁ : Updates L s (s.setState .peer) := .of (.setState .peer)
  obtain ⟨-, f, -, hr⟩ := connectSucceeded_done hd
  exact h₁.trans hr.updates

/-- Session code, run by a client. -/
theorem liftUnit_updates {f : Session → Outcome Failure Session} (hd : s.liftUnit f = .done s')
    (hf : ∀ b, f s.toSession = .done b → s.toSession.Updates L b) : Updates L s s' := by
  obtain ⟨b, hb, rfl⟩ := liftUnit_done hd
  exact .session (hf b hb)

/-- The finisher is engaged, if there is to be one. -/
theorem engageFinisher_updates {r : Ret} (hL : L .finisher)
    (hd : s.engageFinisher cfg r = .done s') : Updates L s s' := by
  simp only [engageFinisher] at hd
  split at hd
  · exact liftUnit_updates hd fun b hb => Session.emplaceGracefulFinisher_updates hL hb
  · cases hd; exact .refl s

/-- A sub-class completes an attempt. -/
theorem completeAsyncConnectAfterCancelingPeerState_updates {r : Ret} (hL : L .finisher)
    (hd : s.completeAsyncConnectAfterCancelingPeerState cfg e r = .done s') : Updates L s s' := by
  simp only [completeAsyncConnectAfterCancelingPeerState, Outcome.bind_eq_done, Prod.exists] at hd
  obtain ⟨h, s₁, h₁, -, -, hd⟩ := hd
  obtain ⟨b, hb, rfl⟩ := lift_done h₁
  simp only [Outcome.bind_eq_done] at hb
  obtain ⟨h₂, -, hb⟩ := hb
  cases hb
  split at hd
  · exact (backToNull_updates s).trans (invokeConnOnDoneFunc_updates hd)
  · simp only [Outcome.bind_eq_done] at hd
    obtain ⟨s₂, h₂, hd⟩ := hd
    have hpeer : Updates L s (s.setState .peer) := .of (.setState .peer)
    exact (hpeer.trans (engageFinisher_updates hL h₂)).trans (invokeConnOnDoneFunc_updates hd)

/-! ### Connecting -/

/-- An attempt begins. -/
theorem begin_updates (attempt : Nat) (subClass : Bool) (s : Client) :
    Updates L s (s.begin attempt subClass) := by
  have h₁ : Updates L s (s.setState .connecting) := .of (.setState .connecting)
  exact h₁.tail (.setOnDone _)

/-- `async_connect()` makes the channel and sends the log-in request. -/
theorem asyncConnect_updates {attempt : Nat} {subClass : Bool} {b : Builder}
    (hL : ∀ k, k.isConnect = true → L k)
    (hd : s.asyncConnect cfg attempt subClass b o = .done s') : Updates L s s' := by
  simp only [asyncConnect] at hd
  split at hd
  · cases hd; exact .of (.mark rfl)
  · have h₁ : Updates L s (s.begin attempt subClass) := begin_updates attempt subClass s
    split at hd
    · exact h₁.trans (connectFailed_updates hd)
    · rename_i pid hpid
      simp only [Outcome.bind_eq_done] at hd
      obtain ⟨s₂, h₂, hd⟩ := hd
      obtain ⟨b₂, hb₂, rfl⟩ := liftUnit_done h₂
      obtain ⟨-, -, -, rfl⟩ := Session.setSrvNamespace_done hb₂
      have h₂ := h₁.tail (.srvNamespace (pidToString pid))
      split at hd
      · exact h₂.trans (connectFailed_updates hd)
      · simp only [Outcome.bind_eq_done, Outcome.check_eq_done, Prod.exists] at hd
        obtain ⟨-, hm, c, s₃, h₃, hd⟩ := hd
        have h₃' := h₂.tail (.makeChannel (Option.isNone_iff_eq_none.mp hm))
        obtain ⟨b₃, hb₃, rfl⟩ := lift_done h₃
        obtain ⟨ch, hch, hr⟩ := Session.send_done hb₃
        have hsent := h₃'.trans (Updates.session (hr.updates (fun _ => hL _ rfl) hch))
        generalize hsend : o.send = r at hr
        cases hr with
        | ok hh =>
          cases hd
          refine hsent.tail (.awaitRsp rfl ?_ ch.nextMsgId attempt)
          exact hh
        | refusedOld hh e => cases hd; exact hsent
        | refusedNew hh e => cases hd; exact hsent
        | failed hh e => exact (hsent.tail .dropChannel).trans (connectFailed_updates hd)

/-- The log-in response is read. -/
theorem readLogInRsp_updates {attempt : Nat} {m : Msg} {res : Except Err (Nat × Mdt)}
    (hd : s.readLogInRsp cfg attempt m = .done (res, s')) : Updates L s s' := by
  obtain ⟨⟨v, w, name, rfl⟩, -⟩ := readLogInRsp_done hd
  have h₁ : Updates L s (s.setSession (s.putCliNamespace name)) := .of (.cliNamespace name)
  exact h₁.tail (.negotiators v w)

/-- The server's requests for channels are expected from now on. -/
theorem expectOpenChannelReqs_updates {h : OpenReqHandler} {r : Ret} {ok : Bool} (hL : L .expect)
    (hd : s.lift (·.expectOpenChannelReqs h r) = .done (ok, s')) : Updates L s s' := by
  obtain ⟨b, hb, rfl⟩ := lift_done hd
  cases h with
  | openChannelReq => exact .session (Session.expectOpenChannelReqs_updates hL hb)
  | initOpenChannel cap =>
    obtain ⟨ch, hm, hr⟩ := Session.expectOpenChannelReqs_done hb
    cases hr with
    | ok hh => exact .ofMark hL (.expectInit hm hh cap)
    | refusedOld => exact .refl s
    | refusedNew hh e => exact .of (.session (.emitError hm hh e))

/-- The handler of the log-in response. -/
theorem onMasterChannelLogInRsp_updates {chan attempt : Nat} {m : Msg}
    (hL : ∀ k, k.isConnect = true → L k)
    (hd : s.onMasterChannelLogInRsp cfg chan m attempt o = .done s') : Updates L s s' := by
  simp only [onMasterChannelLogInRsp, Outcome.bind_eq_done, Prod.exists] at hd
  obtain ⟨res, s₁, h₁, -, -, -, -, hd⟩ := hd
  have hread : Updates L s s₁ := readLogInRsp_updates h₁
  split at hd
  · exact (hread.trans (backToNull_updates s₁)).trans (invokeConnOnDoneFunc_updates hd)
  · split at hd
    · simp only [Outcome.bind_eq_done, Prod.exists] at hd
      obtain ⟨-, -, ok, s₂, h₂, hd⟩ := hd
      have hexpect := (hread.tail (.setOut _ _)).trans (expectOpenChannelReqs_updates (hL _ rfl) h₂)
      split at hd
      · exact hexpect.trans (connectSucceeded_updates hd)
      · cases hd; exact hexpect
    · simp only [Outcome.bind_eq_done, Prod.exists] at hd
      obtain ⟨-, -, ok, s₂, h₂, hd⟩ := hd
      cases hd
      exact (hread.tail (.setVec _ _)).trans (expectOpenChannelReqs_updates (hL _ rfl) h₂)

/-- A message of the client's goes out, or emits the error. -/
theorem send_updates {rspTo : Option Nat} {hndl : Option NativeHandle} {body : Body} {r : Ret}
    {c : Called} (hL : ∀ id, L (.transmit ⟨id, rspTo, hndl, body⟩))
    (hd : s.lift (·.send rspTo hndl body r) = .done (c, s')) : Updates L s s' := by
  obtain ⟨b, hb, rfl⟩ := lift_done hd
  obtain ⟨ch, hm, hr⟩ := Session.send_done hb
  exact .session (hr.updates hL hm)

/-- The channels go into the user's containers. -/
theorem emitInitChannels_updates {cap : InitCapture} {chans : Channels}
    (hd : s.emitInitChannels cap chans = .done s') : Updates L s s' := by
  simp only [emitInitChannels, Outcome.bind_eq_done] at hd
  obtain ⟨-, -, -, -, -, -, hd⟩ := hd
  cases hd
  exact .of (.setOut _ _)

/-- The last init-channel is acknowledged. -/
theorem initChannelsComplete_updates {m : Msg} {cap : InitCapture} {chans : Channels}
    (hL : ∀ k, k.isConnect = true → L k)
    (hd : s.initChannelsComplete cfg m cap chans o = .done s') : Updates L s s' := by
  simp only [initChannelsComplete, Outcome.bind_eq_done, Prod.exists] at hd
  obtain ⟨ok, s₁, h₁, hd⟩ := hd
  obtain ⟨b, hb, rfl⟩ := lift_done h₁
  have hundo : Updates L s (s.setSession b) := 
    .session (Session.undoExpectOpenChannelReqs_updates (hL _ rfl) hb)
  split at hd
  · cases hd; exact hundo
  · simp only [Outcome.bind_eq_done, Prod.exists] at hd
    obtain ⟨ok, s₂, h₂, hd⟩ := hd
    have hexpect := hundo.trans (expectOpenChannelReqs_updates (hL _ rfl) h₂)
    split at hd
    · cases hd; exact hexpect
    · simp only [Outcome.bind_eq_done, Prod.exists] at hd
      obtain ⟨c, s₃, h₃, hd⟩ := hd
      have hsent := hexpect.trans (send_updates (fun _ => hL _ rfl) h₃)
      split at hd
      · cases hd; exact hsent
      · exact (hsent.tail (.setState .null)).trans (invokeConnOnDoneFunc_updates hd)
      · simp only [Outcome.bind_eq_done] at hd
        obtain ⟨s₄, h₄, hd⟩ := hd
        exact (hsent.trans (emitInitChannels_updates h₄)).trans (connectSucceeded_updates hd)

/-- The handler of an init-channel. -/
theorem onMasterChannelInitOpenChannel_updates {m : Msg} {cap : InitCapture}
    (hL : ∀ k, k.isConnect = true → L k)
    (hd : s.onMasterChannelInitOpenChannel cfg m cap o = .done s') : Updates L s s' := by
  have hmark : Updates L s (s.record (.initOpenChannelRan m.id)) := .of (.mark rfl)
  simp only [onMasterChannelInitOpenChannel, Outcome.bind_eq_done] at hd
  obtain ⟨-, -, -, -, hd⟩ := hd
  split at hd
  · simp only [Outcome.bind_eq_done, Prod.exists] at hd
    obtain ⟨ch, s₁, h₁, -, -, hd⟩ := hd
    obtain ⟨b, hb, rfl⟩ := lift_done h₁
    have h₁ := hmark.trans (Updates.session (Session.createChannelObj_updates hb))
    split at hd
    · cases hd; exact h₁.tail (.setVec _ _)
    · exact (h₁.tail (.setVec _ _)).trans (initChannelsComplete_updates hL hd)
  · cases hd

/-! ### PEER state -/

/-- The report of an error. -/
theorem onMasterChannelError_updates {chan : Nat} {e : Err} (hL : L .finisher)
    (hH : L (.hose e .masterChannelError))
    (hd : s.onMasterChannelError cfg chan e = .done s') : Updates L s s' := by
  simp only [onMasterChannelError] at hd
  split at hd
  · cases hd; exact .refl s
  · split at hd
    · cases hd
    · simp only [Outcome.bind_eq_done] at hd
      obtain ⟨-, -, hd⟩ := hd
      exact (backToNull_updates s).trans (invokeConnOnDoneFunc_updates hd)
    · exact liftUnit_updates hd fun b hb => Session.onMasterChannelErrorPeer_updates hL hH hb

/-- The server's answer to `open_channel()` is read. -/
theorem openChannelRsp_updates {b b' : Session} {call req : Nat} {mqOpen : ErrorCode} {m : Msg}
    (hL : ∀ k, k.isOpenChannel = true → L k)
    (hd : openChannelRsp cfg call req mqOpen m b = .done b') : b.Updates L b' := by
  simp only [openChannelRsp] at hd
  split at hd
  · simp only [Outcome.bind_eq_done, Prod.exists] at hd
    obtain ⟨ch, b₁, h₁, hd⟩ := hd
    cases hd
    have h₁' : b.Updates L b₁ := Session.createChannelObj_updates h₁
    exact h₁'.tailMark (hL _ rfl) Session.returned_update
  · cases hd; exact .ofMark (hL _ rfl) Session.returned_update
  · cases hd; exact .ofMark (hL _ rfl) Session.returned_update
  · cases hd
  · cases hd

/-- `open_channel()` comes back from its `sync_request()`. -/
theorem openChannelSyncReturn_updates {b b' : Session} {call req : Nat} {mqOpen : ErrorCode}
    {rsp : Option Msg} {r : Session.SyncRes} (hL : ∀ k, k.isOpenChannel = true → L k)
    (hw : b.w.isServing = true)
    (hd : b.openChannelSyncReturn (openChannelRsp cfg call req mqOpen) call req rsp r = .done b') :
    b.Updates L b' := by
  rcases Session.openChannelSyncReturn_done hd with ⟨m, -, -, hr⟩ | ⟨-, hr⟩
  · have hidle : b.Updates L (b.setW .idle) := .ofMark (hL _ rfl) (.setW hw rfl rfl)
    exact hidle.trans (openChannelRsp_updates hL hr)
  · exact hr.updates hL hw

/-- What the server's request asks for is made, or cannot be. -/
theorem prepare_updates {b b' : Session} {m : Msg} {mqOpen : ErrorCode} {p : Session.Prepared}
    (hd : prepare cfg m mqOpen b = .done (p, b')) : b.Updates L b' := by
  simp only [prepare] at hd
  split at hd
  · split at hd
    · simp only [Outcome.bind_eq_done, Prod.exists] at hd
      obtain ⟨ch, b₁, h₁, hd⟩ := hd
      cases hd
      exact Session.createChannelObj_updates h₁
    · cases hd
  · cases hd; exact .refl b

/-- What it does once it has been recorded that it runs. -/
theorem onMasterChannelOpenChannelReq_session {b b' : Session} {m : Msg}
    (hL : ∀ k, k.isRespond = true → L k)
    (hT : ∀ id hndl rsp, L (.transmit ⟨id, some m.id, hndl, rsp⟩))
    (hd : onMasterChannelOpenChannelReq cfg m o b = .done b') :
    (b.record (.openChannelReqRan m.id)).Updates L b' := by
  simp only [onMasterChannelOpenChannelReq, Outcome.bind_eq_done] at hd
  obtain ⟨h, -, hd⟩ := hd
  split at hd
  · cases hd
    exact .refl _
  · simp only [Outcome.bind_eq_done, Prod.exists] at hd
    obtain ⟨-, -, p, b₁, hprep, hd⟩ := hd
    obtain ⟨ch, hm, hr⟩ := Session.openChannelReqRespond_done hd
    exact (prepare_updates hprep).trans (hr.updates hL (fun _ => hT _ _ _) hm)

/-- The handler of the server's request for a channel. -/
theorem onMasterChannelOpenChannelReq_updates {m : Msg} (hL : ∀ k, k.isRespond = true → L k)
    (hT : ∀ id hndl rsp, L (.transmit ⟨id, some m.id, hndl, rsp⟩))
    (hd : s.liftUnit (onMasterChannelOpenChannelReq cfg m o) = .done s') : Updates L s s' := by
  have hmark : Updates L s (s.record (.openChannelReqRan m.id)) := .of (.mark rfl)
  obtain ⟨b, hb, rfl⟩ := liftUnit_done hd
  exact hmark.trans (Updates.session (onMasterChannelOpenChannelReq_session hL hT hb))

/-! ### A step -/

/-- Thread U's part of `open_channel()`. -/
theorem openChannel_updates {b b' : Session} {call : Nat} (hL : ∀ k, k.isOpenChannel = true → L k)
    (hd : openChannel call b = .done b') :
    b.Updates L b' := by
  simp only [openChannel, Outcome.bind_eq_done, Prod.exists] at hd
  obtain ⟨bl, b₁, h₁, hd⟩ := hd
  have htake : b.Updates L b₁ := .of (.takeBuilder h₁)
  cases bl with
  | none => cases hd; exact htake.tailMark (hL _ rfl) Session.returned_update
  | some bl => cases hd; exact .of (.useBuilder h₁)

/-- Thread U's part of a connect. -/
theorem connect_updates {call attempt : Nat} {out : OutArgs} {subClass : Bool}
    (hd : s.connect call attempt out subClass = .done s') : Updates L s s' := by
  simp only [connect, Outcome.bind_eq_done, Prod.exists] at hd
  obtain ⟨bl, s₁, h₁, hd⟩ := hd
  obtain ⟨b, hb, rfl⟩ := lift_done h₁
  have htake : Updates L s (s.setSession b) := .of (.session (.takeBuilder hb))
  split at hd
  · cases hd
  · simp only [Outcome.bind_eq_done] at hd
    obtain ⟨-, -, hd⟩ := hd
    cases hd
    exact (htake.tail (.setOut _ _)).tail (.postConnect _ _ _)

/-- `session_token()` runs. -/
theorem sessionToken_updates (hL : ∀ nil, L (.call (.sessionTokenReturned nil)))
    (hd : s.sessionToken = .done s') : Updates L s s' := by
  simp only [sessionToken] at hd
  split at hd
  · cases hd; exact .ofMark (hL true) (.session (.record rfl))
  · exact liftUnit_updates hd fun b hb => Session.sessionToken_updates hL hb

/-- What running a task does, other than those of the destructor. -/
theorem runTask_updates {t : Task} (hw : s.w = .idle) (hdt : t.isDtor = false)
    (hd : s.runTask cfg o t = .done s') : Updates (Mark.ofTask t) s s' := by
  cases t with
  | masterChannelError chan e => exact onMasterChannelError_updates (.inl rfl) (.inr (.inl rfl)) hd
  | logInRsp chan m attempt => exact onMasterChannelLogInRsp_updates (fun _ => id) hd
  | initOpenChannel chan m cap => exact onMasterChannelInitOpenChannel_updates (fun _ => id) hd
  | openChannelReq chan m =>
    exact onMasterChannelOpenChannelReq_updates (fun _ => .inl)
      (fun id hndl rsp => .inr ⟨id, hndl, rsp, rfl⟩) hd
  | gracefulSessionEnd chan =>
    exact liftUnit_updates hd fun b hb =>
      Session.onGracefulSessionEnd_updates (.inl rfl) (.inr rfl) hb
  | asyncConnect attempt subClass b => exact asyncConnect_updates (fun _ => id) hd
  | mdtBuilder call mdt =>
    simp only [runTask, mdtBuilder] at hd
    split at hd <;> cases hd <;>
      exact .of (.session (.giveBuilder _ fun bl h => by cases h <;> rfl))
  | openChannel call b =>
    exact liftUnit_updates hd fun b hb =>
      Session.openChannelBody_updates (fun _ => .inl) (fun id => .inr ⟨id, rfl⟩) hw hb
  | sessionToken => exact sessionToken_updates (fun nil => ⟨nil, rfl⟩) hd
  | dtorFinisherQuery => cases hdt
  | dtorSendEnd => cases hdt
  | dtorFlush => cases hdt
  | logInReq => cases hd
  | acceptLogIn => cases hd
  | initHandlers => cases hd
  | preInitError => cases hd

/-- The marks that a step can bring, but for the destructor's own. -/
def marks (s : Client) : Act → Mark → Prop
  | .run _, k => ∃ t, s.queue.head? = some t ∧ Mark.ofTask t k
  | .deliver m, k => k = .arrive m
  | .openChannel _, k => k.isOpenChannel = true
  | .syncReturn .., k => k.isOpenChannel = true
  | .subClassSend _, k => ∃ id, k = .transmit ⟨id, none, none, .jemallocShmSetup⟩
  | .complete .., k => k = .finisher
  | _, _ => False

/-- What a step does: elementary updates, or the destructor's work. -/
inductive StepUpdates (s : Client) : Act → Client → Prop
  | common {a : Act} {s' : Client} (h : Updates (marks s a) s s') : StepUpdates s a s'
  | dtorAct {a : Act} {b : Session} (h : s.toSession.DtorAct b) : StepUpdates s a (s.setSession b)
  | dtorTask {o : ClientOracle} {t : Task} {b b' : Session} (ht : s.takeTask = .done (t, b))
      (h : b.DtorTask t b') (hf : t = .dtorFlush → b' = b.dtorFlush o.flushRuns) :
      StepUpdates s (.run o) (s.setSession b')

/-- **Every step is made of updates**, or is one of the destructor's. -/
theorem step_updates {a : Act} (hd : step cfg s a = .done s') : StepUpdates s a s' := by
  cases a with
  | mdtBuilder call mdt =>
    simp only [step, Outcome.bind_eq_done] at hd
    obtain ⟨-, -, hd⟩ := hd
    cases hd
    exact .common (.of (.session (.post rfl)))
  | connect call attempt out subClass =>
    simp only [step, Outcome.bind_eq_done] at hd
    obtain ⟨-, -, hd⟩ := hd
    exact .common (connect_updates hd)
  | openChannel call =>
    simp only [step, Outcome.bind_eq_done] at hd
    obtain ⟨-, -, hd⟩ := hd
    exact .common (liftUnit_updates hd fun b hb => openChannel_updates (fun _ => id) hb)
  | sessionToken =>
    simp only [step, Outcome.bind_eq_done] at hd
    obtain ⟨-, -, hd⟩ := hd
    cases hd
    exact .common (.of (.session (.post rfl)))
  -- The destructor's tasks keep their own form, since they move `dtor`'s data.
  | run o =>
    simp only [step, Outcome.bind_eq_done, Prod.exists] at hd
    obtain ⟨t, s₁, h₁, hd⟩ := hd
    obtain ⟨b, hb, rfl⟩ := lift_done h₁
    obtain ⟨hw, hq, hbs⟩ := Session.takeTask_done hb
    have hwb : b.w = .idle := by rw [hbs]; exact hw
    cases hdt : t.isDtor with
    | true =>
      cases t with
      | dtorFinisherQuery => cases hd; exact .dtorTask hb .finisherQuery (by rintro ⟨⟩)
      | dtorSendEnd =>
        obtain ⟨b', hb', rfl⟩ := liftUnit_done hd
        exact .dtorTask (s := s) hb (Session.dtorSendEnd_task hb') (by rintro ⟨⟩)
      | dtorFlush =>
        cases hd
        exact .dtorTask hb (Session.dtorFlush_task _) fun _ => rfl
      | _ => cases hdt
    | false =>
      -- Every mark of the task's body is a mark of the step that runs it.
      have hrun : Updates (marks s (.run o)) (s.setSession b) s' :=
        (runTask_updates hwb hdt hd).mono fun k hk => ⟨t, by rw [hq]; rfl, hk⟩
      have htake : Updates (marks s (.run o)) s (s.setSession b) :=
        .of (.session (.takeTask hdt hb))
      exact .common (htake.trans hrun)
  | syncReturn r mqOpen =>
    simp only [step] at hd
    split at hd
    · rename_i hw
      have hserv : s.w.isServing = true := by rw [hw]; rfl
      exact .common (liftUnit_updates hd fun b hb =>
        openChannelSyncReturn_updates (fun _ => id) hserv hb)
    · cases hd
  | subClassSend r =>
    simp only [step, Outcome.bind_eq_done, Prod.exists] at hd
    obtain ⟨-, -, c, s₁, h₁, hd⟩ := hd
    cases hd
    exact .common (send_updates (fun id => ⟨id, rfl⟩) h₁)
  | complete e r =>
    simp only [step, Outcome.bind_eq_done] at hd
    obtain ⟨-, -, hd⟩ := hd
    exact .common (completeAsyncConnectAfterCancelingPeerState_updates rfl hd)
  | deliver m =>
    exact .common (liftUnit_updates hd fun b hb => Session.deliver_updates rfl hb)
  | channelError e =>
    exact .common (liftUnit_updates hd fun b hb => Session.channelError_updates hb)
  | dtorStart =>
    obtain ⟨b, hb, rfl⟩ := liftUnit_done hd
    exact .dtorAct (Session.dtorStart_act hb)
  | dtorStep =>
    obtain ⟨b, hb, rfl⟩ := liftUnit_done hd
    exact .dtorAct (Session.dtorStep_act hb)
  | flushDone =>
    obtain ⟨b, hb, rfl⟩ := liftUnit_done hd
    exact .dtorAct (Session.dtorFlushDone_act hb)

end Client

end IpcSession
