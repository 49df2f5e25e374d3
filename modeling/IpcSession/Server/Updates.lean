import IpcSession.Base.Updates
import IpcSession.Server.Errors

namespace IpcSession

/-!
# The server's steps as elementary updates

`Server.Update cfg s l s'` is an elementary update of a server: one of its session part, one of the
server's own members, or an attempt to make the MQs of a channel; `l` is its `Mark`, if it has one.
Every step of a server is a
sequence of them (`Server.step_updates`), but for the destructor's own steps and for the two tasks
in which the log-in reads what the OS and the client have to say: `acceptLogIn()`, and
`checkLogInReq()` at the start of `onLogInReq()`.
-/

/-- What the server records of its own accord: the calls it has come to, and all resources but
    MQs. -/
def Event.isMark : Event → Bool
  | initHandlersReturned _ => true
  | openChannelReqRan _ => true
  | initChannelSent _ => true
  | pairMade _ => true
  | resourcesCreated .. => true
  | _ => false

/-- The tasks with which a server goes to PEER state. -/
def Task.isToPeer : Task → Bool
  | initHandlers _ => true
  | preInitError => true
  | _ => false

/-- The log-in request is to be handled. -/
def Task.isLogInReq : Task → Bool
  | logInReq .. => true
  | _ => false

namespace Server

variable {cfg : Cfg} {s s' s'' : Server} {o : ServerOracle} {l : Option Mark} {L : Mark → Prop}

/-- An elementary update. -/
inductive Update (cfg : Cfg) (s : Server) : Option Mark → Server → Prop
  | session {l : Option Mark} {b : Session} (h : s.toSession.Update l b) :
      Update cfg s l (s.setSession b)
  | mark {e : Event} (he : e.isMark = true) : Update cfg s none (s.record e)
  | mqs (hn : s.cliNamespace ≠ []) (r : ResourceOracle) :
      Update cfg s none (s.makeChannelMqs cfg r).2
  | mqRemoved (name : SharedName) : Update cfg s none (s.record (.mqRemoved name))
  | pair (n : Nat) : Update cfg s none { s with nextPair := n }
  | post {t : Task} (ht : t.isToPeer = true) (ha : s.accepted = true) : Update cfg s none (s.post t)
  | setHandlers (passiveOpen : Bool) : Update cfg s none (s.setHandlers passiveOpen)
  | preInitErrCode (e : Err) :
      Update cfg s (some (.keepErr e)) { s with preInitErrCode := some e }
  | dropChannel : Update cfg s none s.resetChannel
  | out (out : OutArgs) : Update cfg s none { s with out }
  | logInDone {e : ErrorCode} {site : LogInSite} {s' : Server}
      (hn : e = none → s.cliNamespace ≠ []) (hd : s.logInDone e site = .done s') :
      Update cfg s none s'
  /-- Thread W waits for the answer to the last init-channel. -/
  | awaitAnswer {k : SyncCall} {id : Nat} (hw : s.w.isServing = true) (hn : s.cliNamespace ≠ []) :
      Update cfg s (some (.setW (.inSyncRequest k id none)))
        (s.setSession (s.setW (.inSyncRequest k id none)))

/-- Any number of elementary updates, with marks in `L` only. -/
abbrev Updates (cfg : Cfg) (L : Mark → Prop) : Server → Server → Prop :=
  Relation.ReflTransGen fun s s' => ∃ l, Mark.Within L l ∧ Update cfg s l s'

namespace Updates

theorem refl (s : Server) : Updates cfg L s s := Relation.ReflTransGen.refl

theorem trans (h : Updates cfg L s s') (h' : Updates cfg L s' s'') : Updates cfg L s s'' :=
  Relation.ReflTransGen.trans h h'

/-- An update without a mark. -/
theorem of (h : Update cfg s none s') : Updates cfg L s s' := .single ⟨none, .none, h⟩

/-- An update with a mark in `L`. -/
theorem ofMark {k : Mark} (hk : L k) (h : Update cfg s (some k) s') : Updates cfg L s s' :=
  .single ⟨some k, fun _ he => Option.some.inj he ▸ hk, h⟩

/-- One more update without a mark. -/
theorem tail (h : Updates cfg L s s') (hu : Update cfg s' none s'') : Updates cfg L s s'' :=
  h.trans (.of hu)

/-- Fewer marks. -/
theorem mono {L' : Mark → Prop} (h : Updates cfg L s s') (hL : ∀ k, L k → L' k) :
    Updates cfg L' s s' := by
  induction h with
  | refl => exact .refl s
  | tail _ hu ih =>
    obtain ⟨l, hl, hu⟩ := hu
    exact ih.trans (.single ⟨l, fun k hk => hL k (hl k hk), hu⟩)

/-- Session code inside the server. -/
theorem session {b : Session} (h : s.toSession.Updates L b) : Updates cfg L s (s.setSession b) := by
  refine h.keeps (P := fun b => Updates cfg L s (s.setSession b)) (.refl s)
    fun b₁ l b₂ ih hl hu => ?_
  have h₁ : Update cfg (s.setSession b₁) l (s.setSession b₂) := .session hu
  exact ih.trans (.single ⟨l, hl, h₁⟩)

/-- **What every update keeps, sequences of them keep.** -/
theorem keeps {P : Server → Prop} (h : Updates cfg L s s') (hs : P s)
    (hstep : ∀ t l t', P t → Mark.Within L l → Update cfg t l t' → P t') : P s' := by
  induction h with
  | refl => exact hs
  | tail _ hu ih =>
    obtain ⟨l, hl, hu⟩ := hu
    exact hstep _ _ _ ih hl hu

end Updates

/-- The first task of the log-in, seen from the session part. -/
inductive AcceptSession (s : Session) : Session → Prop
  | failed (e : Err) (out : OutArgs) : AcceptSession s (s.record (.logInDone (some e) .accept out))
  | refused (e : Err) :
      AcceptSession s ((s.setChannel (.fresh 0 true)).emitError (.fresh 0 true) e)
  | expecting :
      AcceptSession s (s.setChannel { MasterChannel.fresh 0 true with expectsLogInReq := true })

/-- The start of a log-in, as far as the session goes. -/
theorem acceptLogIn_session (hd : s.acceptLogIn o = .done s') :
    AcceptSession s.toSession s'.toSession := by
  simp only [acceptLogIn] at hd
  split at hd
  · obtain ⟨-, rfl⟩ := logInDone_done hd; exact .failed _ _
  · obtain ⟨-, rfl⟩ := logInDone_done hd; exact .failed _ _
  · simp only [Outcome.bind_eq_done, Prod.exists] at hd
    obtain ⟨-, -, ok, s₂, h₂, hd⟩ := hd
    obtain ⟨b, hb, rfl⟩ := lift_done h₂
    obtain ⟨ch, hch, hr⟩ := Session.callNoError_done hb
    cases hch
    cases hr with
    | ok hh => cases hd; exact .expecting
    | refusedOld hh => cases hh
    | refusedNew hh e => cases hd; exact .refused e

/-- A log-in that has started is no success yet. -/
theorem acceptLogIn_accepted (hd : s.acceptLogIn o = .done s') :
    s'.accepted = true → s.accepted = true := by
  intro ha
  simp only [acceptLogIn] at hd
  split at hd
  · obtain ⟨-, rfl⟩ := logInDone_done hd; cases ha
  · obtain ⟨-, rfl⟩ := logInDone_done hd; cases ha
  · simp only [Outcome.bind_eq_done, Prod.exists] at hd
    obtain ⟨-, -, ok, s₂, h₂, hd⟩ := hd
    obtain ⟨b, hb, rfl⟩ := lift_done h₂
    split at hd <;> cases hd <;> exact ha

/-! ### Channel resources -/

/-- The names of the MQs that the next `make_channel_mqs()` tries to create. -/
def nextMqName (cfg : Cfg) (s : Server) (c2s : Bool) : SharedName :=
  SharedName.channelMqName cfg s.srvNamespace ((s.cliAppPtr.map (·.name)).getD []) s.cliNamespace
    c2s ((s.lastChannelMqId + 1) % 2 ^ 32)

/-- An attempt to make the MQs of a channel, with the events it leaves; `c2s` and `s2c` are the
    names. -/
inductive MqsTried (c2s s2c : SharedName) : List Event → Bool → Prop
  | noC2s : MqsTried c2s s2c [.mqTried true c2s] false
  | noS2c : MqsTried c2s s2c
      [.mqTried true c2s, .mqCreated c2s, .mqTried false s2c, .mqRemoved c2s] false
  | made : MqsTried c2s s2c
      [.mqTried true c2s, .mqCreated c2s, .mqTried false s2c, .mqCreated s2c] true

/-- `make_channel_mqs()` tries the two names one after the other. -/
theorem makeChannelMqs_tried (cfg : Cfg) (r : ResourceOracle) (s : Server) :
    ∃ es made, MqsTried (s.nextMqName cfg true) (s.nextMqName cfg false) es made ∧
      (s.makeChannelMqs cfg r).2 = { s with
        toSession := { s.toSession with log := s.log ++ es }
        lastChannelMqId :=
          if made then (s.lastChannelMqId + 1) % 2 ^ 32 else s.lastChannelMqId } := by
  simp only [makeChannelMqs]
  split
  · exact ⟨_, _, .noC2s, rfl⟩
  · split
    · refine ⟨_, _, .noS2c, ?_⟩
      simp [record, setSession, Session.record, nextMqName]
    · refine ⟨_, _, .made, ?_⟩
      simp [record, setSession, Session.record, nextMqName]


/-- Thread W is not stopped, nor sent into the final flush, by an update. -/
theorem Update.isServing (h : Update cfg s l s') : s'.w.isServing = s.w.isServing := by
  cases h with
  | session hu => exact hu.isServing
  | mqs hn r =>
    obtain ⟨es, made, -, hs⟩ := makeChannelMqs_tried cfg r s
    rw [hs]
  | logInDone hn hd =>
    obtain ⟨-, rfl⟩ := logInDone_done hd
    rfl
  | awaitAnswer hw hn => exact hw.symm
  | _ => rfl

/-- Updates leave thread W serving, or not. -/
theorem Updates.isServing (h : Updates cfg L s s') : s'.w.isServing = s.w.isServing :=
  h.keeps (P := fun t => t.w.isServing = s.w.isServing) rfl fun _ _ _ ht _ hu =>
    hu.isServing.trans ht

/-- What the names of a session's MQs are made of. -/
structure SameNaming (s s' : Server) : Prop where
  srvNamespace : s'.srvNamespace = s.srvNamespace
  cliNamespace : s'.cliNamespace = s.cliNamespace
  cliAppPtr : s'.cliAppPtr = s.cliAppPtr

theorem SameNaming.refl (s : Server) : SameNaming s s := ⟨rfl, rfl, rfl⟩

theorem SameNaming.trans (h : SameNaming s s') (h' : SameNaming s' s'') : SameNaming s s'' :=
  ⟨h'.1.trans h.1, h'.2.trans h.2, h'.3.trans h.3⟩

/-- No update changes the names. -/
theorem Update.naming (h : Update cfg s l s') : SameNaming s s' := by
  cases h with
  | session hu => exact ⟨hu.namespaces.1, hu.namespaces.2, rfl⟩
  | mqs hn r =>
    obtain ⟨es, made, -, hs⟩ := makeChannelMqs_tried cfg r s
    rw [hs]
    exact ⟨rfl, rfl, rfl⟩
  | logInDone hn hd =>
    obtain ⟨-, rfl⟩ := logInDone_done hd
    exact ⟨rfl, rfl, rfl⟩
  | _ => exact ⟨rfl, rfl, rfl⟩

/-- Nor do any number of them. -/
theorem Updates.naming (h : Updates cfg L s s') : SameNaming s s' :=
  h.keeps (P := fun t => SameNaming s t) (.refl s) fun _ _ _ ht _ hu => ht.trans hu.naming

/-- A session that makes channels, or is about to, has its client namespace. -/
structure Named (s : Server) : Prop where
  accepted : s.accepted = true → s.cliNamespace ≠ []
  waiting : s.w.inInitChannels = true → s.cliNamespace ≠ []

/-- The socket pair is made, or cannot be. -/
theorem SockStmMade.updates {r : ResourceOracle} {socks : Option (NativeHandle × NativeHandle)}
    (h : SockStmMade r s socks s') : Updates cfg L s s' := by
  cases h with
  | failed e he => exact .refl s
  | made he hc hm =>
    have h₁ : Updates cfg L s (s.record (.pairMade s.nextPair)) := .of (.mark rfl)
    exact h₁.tail (.pair (s.nextPair + 1))

/-- The part of `create_channel_and_resources()` for MQs: the pair, and the channel or the
    clean-up. -/
theorem constructMqsChannel_updates {nickname : Nickname} {c2s s2c : SharedName}
    {r : ResourceOracle} {made : Resources}
    (hd : s.constructMqsChannel cfg nickname c2s s2c r = .done (made, s')) :
    Updates cfg L s s' := by
  simp only [constructMqsChannel, Outcome.bind_eq_done, Prod.exists] at hd
  obtain ⟨socks, s₁, h₁, hd⟩ := hd
  have hsocks : Updates cfg L s s₁ := by
    split at h₁
    · exact (makeSockStm_done h₁).updates
    · cases h₁
      exact .refl s
  split at hd
  · cases hd
    exact (hsocks.tail (.mqRemoved c2s)).tail (.mqRemoved s2c)
  · cases hd
    exact hsocks.tail (.mark rfl)

/-- Once the client has its namespace, resources are made under it. -/
theorem createChannelAndResources_updates {active : Bool} {r : ResourceOracle} {made : Resources}
    (hn : s.cliNamespace ≠ [])
    (hd : s.createChannelAndResources cfg active r = .done (made, s')) : Updates cfg L s s' := by
  have h₀ : Updates cfg L s (s.setSession (s.nextNickname active).2) :=
    .of (.session (.nickname active))
  simp only [createChannelAndResources] at hd
  split at hd
  · have hn₀ : (s.setSession (s.nextNickname active).2).cliNamespace ≠ [] := by
      rw [h₀.naming.cliNamespace]
      exact hn
    have h₁ := h₀.tail (.mqs hn₀ r)
    split at hd
    · rename_i hr
      rw [hr] at h₁
      cases hd
      exact h₁
    · rename_i c2s s2c s₁ hr
      rw [hr] at h₁
      exact h₁.trans (constructMqsChannel_updates hd)
  · simp only [constructSockChannel, Outcome.bind_eq_done, Prod.exists] at hd
    obtain ⟨socks, s₁, h₁, hd⟩ := hd
    have hsocks : Updates cfg L s s₁ := h₀.trans (makeSockStm_done h₁).updates
    split at hd
    · cases hd
      exact hsocks
    · cases hd
      exact hsocks.tail (.mark rfl)

/-! ### The log-in -/

/-- The log-in fails. -/
theorem logInFailed_updates {e : Err} {site : LogInSite}
    (hd : s.logInFailed e site = .done s') : Updates cfg L s s' := by
  have h₁ : Updates cfg L s s.resetChannel := .of .dropChannel
  exact h₁.tail (.logInDone (fun h => by cases h) hd)

/-- A message of the server's goes out, or emits the error. -/
theorem send_updates {rspTo : Option Nat} {hndl : Option NativeHandle} {body : Body} {r : Ret}
    {c : Called} (hL : ∀ id, L (.transmit ⟨id, rspTo, hndl, body⟩))
    (hd : s.lift (·.send rspTo hndl body r) = .done (c, s')) : Updates cfg L s s' := by
  obtain ⟨b, hb, rfl⟩ := lift_done hd
  obtain ⟨ch, hm, hr⟩ := Session.send_done hb
  exact .session (hr.updates hL hm)

/-- The loop makes resources and sends requests. -/
theorem initChannelsLoop_updates {s s' : Server} {nByCli k : Nat} {mdt : Mdt}
    {os : List InitOracle} {chans : Channels} (hL : ∀ k, k.isLogIn = true → L k)
    (hw : s.w.isServing = true) (hn : s.cliNamespace ≠ [])
    (hd : initChannelsLoop cfg nByCli mdt k os chans s = .done s') : Updates cfg L s s' := by
  induction k generalizing os chans s with
  | zero => cases hd; exact .refl _
  | succ k ih =>
    simp only [initChannelsLoop, Outcome.bind_eq_done, Prod.exists] at hd
    obtain ⟨r, s₁, h₁, hd⟩ := hd
    have hr : Updates cfg L s s₁ := createChannelAndResources_updates hn h₁
    split at hd
    · exact hr.trans (logInFailed_updates hd)
    · simp only [Outcome.bind_eq_done, Prod.exists] at hd
      obtain ⟨c, s₂, h₂, hd⟩ := hd
      have hsent := hr.trans (send_updates (fun _ => hL _ rfl) h₂)
      split at hd
      · cases hd; exact hsent
      · exact hsent.trans (logInFailed_updates hd)
      · rename_i id
        have hmark := hsent.tail (.mark (e := .initChannelSent id) rfl)
        have hw' : (s₂.record (.initChannelSent id)).w.isServing = true :=
          (Updates.isServing hmark).trans hw
        have hn' : (s₂.record (.initChannelSent id)).cliNamespace ≠ [] := by
          rw [(Updates.naming hmark).cliNamespace]
          exact hn
        split at hd
        · cases hd
          exact hmark.trans (.ofMark (hL _ rfl) (.awaitAnswer hw' hn'))
        · exact hmark.trans (ih hw' hn' hd)

/-- The handler of the log-in request, from the time the request is checked. -/
theorem onLogInReq_updates {m : Msg} (hw : s.w.isServing = true)
    (hd : s.onLogInReq cfg m o = .done s') :
    ∃ r e s₁, m.body = .logInReq r ∧ s.checkLogInReq cfg r o = .done (e, s₁) ∧
      Updates cfg (·.isLogIn = true) s₁ s' ∧ ∀ e', e = some e' →
        s₁.logInFailed e' .request = .done s' := by
  simp only [onLogInReq, Outcome.bind_eq_done] at hd
  obtain ⟨-, -, hd⟩ := hd
  split at hd
  · rename_i r hb
    simp only [Outcome.bind_eq_done, Prod.exists] at hd
    obtain ⟨e, s₁, h₁, hd⟩ := hd
    refine ⟨r, e, s₁, hb, h₁, ?_⟩
    have hw₁ : s₁.w.isServing = true := by rw [(checkLogInReq_done h₁).worker]; exact hw
    cases e with
    | some e => exact ⟨logInFailed_updates hd, fun e' he => by cases he; exact hd⟩
    | none =>
      refine ⟨?_, nofun⟩
      -- A request that passed the checks has brought the client's namespace.
      have hn₁ : s₁.cliNamespace ≠ [] := by
        generalize hnone : (none : ErrorCode) = e at h₁
        cases checkLogInReq_done h₁ with
        | rejected e hb hl => cases hnone
        | passed hn hname hb hl => rw [hb]; exact hname
      simp only [Outcome.bind_eq_done, Prod.exists] at hd
      obtain ⟨c, s₂, h₂, hd⟩ := hd
      have hsent : Updates cfg (·.isLogIn = true) s₁ s₂ := send_updates (fun _ => rfl) h₂
      -- The response leaves that namespace in place.
      have hn₂ : s₂.cliNamespace ≠ [] := by rw [hsent.naming.cliNamespace]; exact hn₁
      split at hd
      · cases hd; exact hsent
      · exact hsent.trans (logInFailed_updates hd)
      · split at hd
        · have hout := hsent.tail
            (.out { s₂.out with mdt := s₂.out.mdt.map fun _ => some r.metadata })
          exact hout.tail (.logInDone (fun _ => hn₂) hd)
        · simp only [Outcome.bind_eq_done] at hd
          obtain ⟨-, -, hd⟩ := hd
          exact hsent.trans
            (initChannelsLoop_updates (fun _ => id) (hsent.isServing.trans hw₁) hn₂ hd)
  · cases hd

/-- The client has answered for the last init-channel, or will not. -/
theorem initChannelsSyncReturn_updates {chans : Channels} {nByCli : Nat} {mdt : Mdt}
    {rsp : Option Msg} {r : Session.SyncRes} {eo : EmitOracle} (hL : L (.setW .idle))
    (hw : s.w.isServing = true) (hn : s.cliNamespace ≠ [])
    (hd : s.initChannelsSyncReturn cfg chans nByCli mdt rsp r eo = .done s') :
    Updates cfg L s s' := by
  simp only [initChannelsSyncReturn] at hd
  split at hd
  · simp only [Outcome.bind_eq_done] at hd
    obtain ⟨s₁, h₁, hd⟩ := hd
    obtain ⟨out, rfl⟩ := emitInitChannels_done h₁
    have hidle : Updates cfg L s (s.setSession (s.setW .idle)) :=
      .ofMark hL (.session (.setW hw rfl rfl))
    exact (hidle.tail (.out _)).tail (.logInDone (fun _ => hn) hd)
  · simp only [Outcome.bind_eq_done, Prod.exists] at hd
    obtain ⟨-, -, e, s₁, h₁, hd⟩ := hd
    obtain ⟨b, hb, rfl⟩ := lift_done h₁
    have hret : Updates cfg L s (s.setSession b) :=
      .session ((Session.syncReturnNoResponse_done hb).2.updates hL hw)
    cases e with
    | none => cases hd; exact hret
    | some e => exact hret.trans (logInFailed_updates hd)

/-! ### To PEER state, and in it -/

/-- The handlers are set, and the finisher is engaged. -/
theorem initHandlers_updates {passiveOpen : Bool} (hF : L .finisher) (hE : L .expect)
    (ha : s.accepted = true)
    (hd : s.initHandlers cfg passiveOpen o = .done s') : Updates cfg L s s' := by
  have hset : Updates cfg L s (s.setHandlers passiveOpen) := .of (.setHandlers passiveOpen)
  simp only [initHandlers] at hd
  split at hd
  · cases hd; exact .of (.mark rfl)
  · simp only [Outcome.bind_eq_done] at hd
    obtain ⟨-, -, hd⟩ := hd
    split at hd
    · simp only [Outcome.bind_eq_done] at hd
      obtain ⟨-, -, hd⟩ := hd
      cases hd
      exact (hset.tail (.post (t := .preInitError) rfl ha)).tail (.mark rfl)
    · simp only [Outcome.bind_eq_done, Prod.exists] at hd
      obtain ⟨ok, s₁, h₁, hd⟩ := hd
      obtain ⟨b₁, hb₁, rfl⟩ := lift_done h₁
      have h₁ : Updates cfg L s ((s.setHandlers passiveOpen).setSession b₁) :=
        hset.trans (Updates.session (Session.expectOpenChannelReqs_updates hE hb₁))
      split at hd
      · simp only [Outcome.bind_eq_done] at hd
        obtain ⟨s₂, h₂, hd⟩ := hd
        obtain ⟨b₂, hb₂, rfl⟩ := liftUnit_done h₂
        cases hd
        have h₂ := h₁.trans (Updates.session (Session.emplaceGracefulFinisher_updates hF hb₂))
        exact h₂.tail (.mark rfl)
      · cases hd
        exact h₁.tail (.mark rfl)

/-- The error from before that is reported. -/
theorem preInitError_updates (hL : ∀ e, s.preInitErrCode = some e → L (.hose e .preInit))
    (hd : s.preInitError = .done s') :
    Updates cfg L s s' := by
  simp only [preInitError] at hd
  split at hd
  · obtain ⟨b, hb, rfl⟩ := liftUnit_done hd
    exact .session (Session.hoseIfNot_updates (hL _ ‹_›) rfl hb)
  · cases hd

/-- The channel's error is reported, or kept until `init_handlers()`. -/
theorem onMasterChannelError_updates {e : Err} (hL : L .finisher)
    (hH : L (.hose e .masterChannelError)) (hK : L (.keepErr e))
    (hd : s.onMasterChannelError cfg e = .done s') : Updates cfg L s s' := by
  simp only [onMasterChannelError] at hd
  split at hd
  · cases hd; exact .refl _
  · split at hd
    · exact logInFailed_updates hd
    · split at hd
      · simp only [Outcome.bind_eq_done] at hd
        obtain ⟨-, -, hd⟩ := hd
        cases hd
        exact .ofMark hK (.preInitErrCode e)
      · obtain ⟨b, hb, rfl⟩ := liftUnit_done hd
        exact .session (Session.onMasterChannelErrorPeer_updates hL hH hb)

/-- `mdt_builder()` makes resources for the user's channel. -/
theorem mdtBuilder_updates {call : Nat} {mdt : Mdt} {r : ResourceOracle}
    (hn : s.onErrFuncSet = true → s.cliNamespace ≠ [])
    (hd : s.mdtBuilder cfg call mdt r = .done s') : Updates cfg L s s' := by
  simp only [mdtBuilder] at hd
  split at hd
  · cases hd; exact .of (.session (.giveBuilder _ fun bl h => by cases h))
  · rename_i hset
    have hn := hn (by simpa using hset)
    simp only [Outcome.bind_eq_done] at hd
    obtain ⟨h, -, -, -, hd⟩ := hd
    split at hd
    · cases hd; exact .of (.session (.giveBuilder _ fun bl h => by cases h; rfl))
    · simp only [Outcome.bind_eq_done, Prod.exists] at hd
      obtain ⟨made, s₁, h₁, -, -, hd⟩ := hd
      cases hd
      have hmade : Updates cfg L s s₁ := createChannelAndResources_updates hn h₁
      refine hmade.tail (.session (.giveBuilder _ fun bl h => ?_))
      cases h
      split <;> rfl

/-- Thread U's part of `open_channel()`. -/
theorem openChannel_updates {b b' : Session} {call : Nat} (hL : ∀ k, k.isOpenChannel = true → L k)
    (hd : openChannel call b = .done b') :
    b.Updates L b' := by
  simp only [openChannel, Outcome.bind_eq_done, Prod.exists] at hd
  obtain ⟨bl, b₁, h₁, hd⟩ := hd
  have htake : b.Updates L b₁ := .of (.takeBuilder h₁)
  cases bl with
  | none => cases hd; exact htake.tailMark (hL _ rfl) Session.returned_update
  | some bl =>
    simp only at hd
    split at hd
    · cases hd; exact htake.tailMark (hL _ rfl) Session.returned_update
    · cases hd; exact .of (.useBuilder h₁)

/-- The client's answer to it is read. -/
theorem openChannelRsp_updates {b b' : Session} {call req : Nat} {opened : Option ChannelObj}
    {m : Msg} (hL : ∀ k, k.isOpenChannel = true → L k)
    (hd : openChannelRsp call req opened m b = .done b') : b.Updates L b' := by
  simp only [openChannelRsp] at hd
  split at hd
  · simp only [Outcome.bind_eq_done] at hd
    obtain ⟨-, -, hd⟩ := hd
    cases hd
    exact .ofMark (hL _ rfl) Session.returned_update
  · cases hd; exact .ofMark (hL _ rfl) Session.returned_update
  · cases hd
  · cases hd
  · cases hd

/-- It comes back from its `sync_request()`. -/
theorem openChannelSyncReturn_updates {b b' : Session} {call req : Nat}
    {opened : Option ChannelObj} {rsp : Option Msg} {r : Session.SyncRes}
    (hL : ∀ k, k.isOpenChannel = true → L k) (hw : b.w.isServing = true)
    (hd : b.openChannelSyncReturn (openChannelRsp call req opened) call req rsp r = .done b') :
    b.Updates L b' := by
  rcases Session.openChannelSyncReturn_done hd with ⟨m, -, -, hr⟩ | ⟨-, hr⟩
  · have hidle : b.Updates L (b.setW .idle) := .ofMark (hL _ rfl) (.setW hw rfl rfl)
    exact hidle.trans (openChannelRsp_updates hL hr)
  · exact hr.updates hL hw

/-- What the client's request asks for is made, or cannot be. -/
theorem prepare_updates {m : Msg} {r : ResourceOracle} {p : Session.Prepared}
    (hn : s.cliNamespace ≠ []) (hd : s.prepare cfg m r = .done (p, s')) : Updates cfg L s s' := by
  simp only [prepare] at hd
  split at hd
  · simp only [Outcome.bind_eq_done, Prod.exists] at hd
    obtain ⟨made, s₁, h₁, hd⟩ := hd
    have hmade : Updates cfg L s s₁ := createChannelAndResources_updates hn h₁
    split at hd
    · cases hd
      exact hmade
    · simp only [Outcome.bind_eq_done] at hd
      obtain ⟨-, -, hd⟩ := hd
      split at hd
      · cases hd; exact hmade
      · cases hd
  · cases hd; exact .refl _

/-- The handler of the client's request for a channel. -/
theorem onMasterChannelOpenChannelReq_updates {m : Msg} (hL : ∀ k, k.isRespond = true → L k)
    (hT : ∀ id hndl rsp, L (.transmit ⟨id, some m.id, hndl, rsp⟩))
    (hn : s.onErrFuncSet = true → s.cliNamespace ≠ [])
    (hd : s.onMasterChannelOpenChannelReq cfg m o = .done s') : Updates cfg L s s' := by
  have hmark : Updates cfg L s (s.record (.openChannelReqRan m.id)) := .of (.mark rfl)
  simp only [onMasterChannelOpenChannelReq, Outcome.bind_eq_done] at hd
  obtain ⟨h, hh, hd⟩ := hd
  have hn := hn (Session.hosed_done hh).1
  split at hd
  · cases hd; exact hmark
  · simp only [Outcome.bind_eq_done, Prod.exists] at hd
    obtain ⟨-, -, p, s₁, hprep, hd⟩ := hd
    obtain ⟨b, hb, rfl⟩ := liftUnit_done hd
    obtain ⟨ch, hm, hr⟩ := Session.openChannelReqRespond_done hb
    exact (hmark.trans (prepare_updates hn hprep)).trans 
      (Updates.session (hr.updates hL (fun _ => hT _ _ _) hm))

/-! ### A step -/

/-- The marks that running a task can bring. -/
def marksOf (s : Server) : Task → Mark → Prop
  | .preInitError, k => ∃ e, s.preInitErrCode = some e ∧ k = .hose e .preInit
  | t, k => Mark.ofTask t k

/-- What running a task does, other than those of the destructor and the two that the log-in
    consists of. -/
theorem runTask_updates {t : Task} (hw : s.w = .idle) (hdt : t.isDtor = false)
    (hacc : t.isAcceptLogIn = false) (hreq : t.isLogInReq = false)
    (hinit : t.isInitHandlers = true → s.accepted = true)
    (hn : s.onErrFuncSet = true → s.cliNamespace ≠ []) (hd : s.runTask cfg o t = .done s') :
    Updates cfg (marksOf s t) s s' := by
  cases t with
  | masterChannelError chan e =>
    exact onMasterChannelError_updates (.inl rfl) (.inr (.inl rfl)) (.inr (.inr rfl)) hd
  | openChannelReq chan m =>
    exact onMasterChannelOpenChannelReq_updates (fun _ => .inl)
      (fun id hndl rsp => .inr ⟨id, hndl, rsp, rfl⟩) hn hd
  | gracefulSessionEnd chan =>
    obtain ⟨b, hb, rfl⟩ := liftUnit_done hd
    exact .session (Session.onGracefulSessionEnd_updates (.inl rfl) (.inr rfl) hb)
  | initHandlers passiveOpen =>
    exact initHandlers_updates (.inl rfl) (.inr rfl) (hinit rfl) hd
  | preInitError => exact preInitError_updates (fun e he => ⟨e, he, rfl⟩) hd
  | mdtBuilder call mdt => exact mdtBuilder_updates hn hd
  | openChannel call b =>
    obtain ⟨b, hb, rfl⟩ := liftUnit_done hd
    exact .session (Session.openChannelBody_updates (fun _ => .inl)
      (fun id => .inr ⟨id, rfl⟩) hw hb)
  | sessionToken =>
    obtain ⟨b, hb, rfl⟩ := liftUnit_done hd
    exact .session (Session.sessionToken_updates (fun nil => ⟨nil, rfl⟩) hb)
  | logInReq chan m => cases hreq
  | acceptLogIn => cases hacc
  | dtorFinisherQuery => cases hdt
  | dtorSendEnd => cases hdt
  | dtorFlush => cases hdt
  | logInRsp => cases hd
  | initOpenChannel => cases hd
  | asyncConnect => cases hd

/-- The marks that a step can bring, but for the log-in's and the destructor's own. -/
def marks (s : Server) : Act → Mark → Prop
  | .run _, k => ∃ t, s.queue.head? = some t ∧ marksOf s t k
  | .deliver m, k => k = .arrive m
  | .openChannel _, k => k.isOpenChannel = true
  | .syncReturn .., k => k.isOpenChannel = true
  | _, _ => False

/-- What a step does: elementary updates, one of the two tasks of the log-in, or the destructor's
    work. -/
inductive StepUpdates (cfg : Cfg) (s : Server) : Act → Server → Prop
  | common {a : Act} {s' : Server} (h : Updates cfg (marks s a) s s') : StepUpdates cfg s a s'
  | acceptLogIn {o : ServerOracle} {b : Session} {s' : Server}
      (ht : s.takeTask = .done (.acceptLogIn, b))
      (hd : (s.setSession b).acceptLogIn o = .done s') : StepUpdates cfg s (.run o) s'
  | logInReq {o : ServerOracle} {b : Session} {chan : Nat} {m : Msg} {s' : Server}
      (ht : s.takeTask = .done (.logInReq chan m, b))
      (hd : (s.setSession b).onLogInReq cfg m o = .done s') : StepUpdates cfg s (.run o) s'
  | dtorAct {a : Act} {b : Session} (h : s.toSession.DtorAct b)
      (hstart : a = .dtorStart ∨ s.dtor ≠ .notStarted ∨ s.w = .flushing true) :
      StepUpdates cfg s a (s.setSession b)
  | dtorTask {o : ServerOracle} {t : Task} {b b' : Session} (ht : s.takeTask = .done (t, b))
      (h : b.DtorTask t b') (hf : t = .dtorFlush → b' = b.dtorFlush o.flushRuns) :
      StepUpdates cfg s (.run o) (s.setSession b')
  /-- The destructor returns. -/
  | returned (hd : s.dtor = .stopped) {s' : Server} (h : s' = s.setSession (s.setDtor .returned) ∨
      s' = (s.setSession (s.setDtor .returned)).record
        (.logInDone (some .objectShutdownAbortedCompletionHandler) .destructor s.out)) :
      StepUpdates cfg s .dtorFinish s'

/-- **Every step is made of updates**, or is one of the log-in's or of the destructor's. -/
theorem step_updates {a : Act} (hp : Phases cfg s) (hn : Named s) (hd : step cfg s a = .done s') :
    StepUpdates cfg s a s' := by
  cases a with
  | initHandlers passiveOpen =>
    simp only [step, Outcome.bind_eq_done, Outcome.require_eq_done, Bool.and_eq_true] at hd
    obtain ⟨-, ⟨ha, -⟩, hd⟩ := hd
    cases hd
    exact .common (.of (.post rfl ha))
  | mdtBuilder call mdt =>
    simp only [step, Outcome.bind_eq_done] at hd
    obtain ⟨-, -, hd⟩ := hd
    cases hd
    exact .common (.of (.session (.post rfl)))
  | openChannel call =>
    simp only [step, Outcome.bind_eq_done] at hd
    obtain ⟨-, -, hd⟩ := hd
    obtain ⟨b, hb, rfl⟩ := liftUnit_done hd
    exact .common (.session (openChannel_updates (fun _ => id) hb))
  | sessionToken =>
    simp only [step, Outcome.bind_eq_done] at hd
    obtain ⟨-, -, hd⟩ := hd
    cases hd
    exact .common (.of (.session (.post rfl)))
  -- Tasks of the destructor are taken apart from the others: they alone touch `dtor`'s own data.
  | run o =>
    simp only [step, Outcome.bind_eq_done, Prod.exists] at hd
    obtain ⟨t, s₁, h₁, hd⟩ := hd
    obtain ⟨b, hb, rfl⟩ := lift_done h₁
    obtain ⟨hw, hq, hbs⟩ := Session.takeTask_done hb
    have hwb : b.w = .idle := by rw [hbs]; exact hw
    cases hdt : t.isDtor with
    | true =>
      cases t with
      | dtorFinisherQuery => cases hd; exact .dtorTask hb .finisherQuery (by rintro ⟨⟩)
      | dtorSendEnd =>
        obtain ⟨b', hb', rfl⟩ := liftUnit_done hd
        exact .dtorTask (s := s) hb (Session.dtorSendEnd_task hb') (by rintro ⟨⟩)
      | dtorFlush =>
        cases hd
        exact .dtorTask hb (Session.dtorFlush_task _) fun _ => rfl
      | _ => cases hdt
    | false =>
      -- Any other task: the update that takes it, then those of its body, under the marks of the
      -- step.
      have htake : Updates cfg (marks s (.run o)) s (s.setSession b) :=
        .of (.session (.takeTask hdt hb))
      have hmono : Updates cfg (marksOf (s.setSession b) t) (s.setSession b) s' →
          Updates cfg (marks s (.run o)) (s.setSession b) s' :=
        fun h => h.mono fun k hk => ⟨t, by rw [hq]; rfl, hk⟩
      -- A session with an error handler has been accepted, so it knows the client's namespace.
      have hnb : b.onErrFuncSet = true → b.cliNamespace ≠ [] := by
        rw [hbs]
        exact fun ho => hn.accepted (hp.peer ho)
      cases t with
      -- The two stages of the log-in replace the server's own fields and keep their own form.
      | acceptLogIn => exact .acceptLogIn hb hd
      | logInReq chan m => exact .logInReq hb hd
      | initHandlers passiveOpen =>
        have hacc := hp.accepted_of_initHandlers hb
        exact .common (htake.trans (hmono (initHandlers_updates (.inl rfl) (.inr rfl) hacc hd)))
      | _ =>
        exact .common (htake.trans (hmono
          (runTask_updates hwb hdt rfl rfl (fun h => by cases h) hnb hd)))
  -- Thread W waits in an open_channel() of the user or in the init-channel loop of the log-in.
  | syncReturn r =>
    simp only [step] at hd
    split at hd
    · rename_i hw
      obtain ⟨b, hb, rfl⟩ := liftUnit_done hd
      exact .common (.session (openChannelSyncReturn_updates (fun _ => id) (by rw [hw]; rfl) hb))
    · rename_i hw
      have hn' := hn.waiting (by rw [hw]; rfl)
      exact .common (initChannelsSyncReturn_updates rfl (by rw [hw]; rfl) hn' hd)
    · cases hd
  | deliver m =>
    obtain ⟨b, hb, rfl⟩ := liftUnit_done hd
    exact .common (.session (Session.deliver_updates rfl hb))
  | channelError e =>
    obtain ⟨b, hb, rfl⟩ := liftUnit_done hd
    exact .common (.session (Session.channelError_updates hb))
  | dtorStart =>
    obtain ⟨b, hb, rfl⟩ := liftUnit_done hd
    exact .dtorAct (Session.dtorStart_act hb) (.inl rfl)
  | dtorStep =>
    obtain ⟨b, hb, rfl⟩ := liftUnit_done hd
    exact .dtorAct (Session.dtorStep_act hb) (.inr (.inl (Session.dtorStep_started hb)))
  | flushDone =>
    obtain ⟨b, hb, rfl⟩ := liftUnit_done hd
    exact .dtorAct (Session.dtorFlushDone_act hb)
      (.inr (.inr (Session.dtorFlushDone_worker hb)))
  -- Only a destructor that has posted its last task can finish.
  | dtorFinish =>
    simp only [step, dtorFinish, Outcome.bind_eq_done, Outcome.require_eq_done] at hd
    obtain ⟨-, hdt, hd⟩ := hd
    split at hd
    · cases hd; exact .returned (of_decide_eq_true hdt) (.inr rfl)
    · cases hd; exact .returned (of_decide_eq_true hdt) (.inl rfl)

/-! ### The client namespace -/

/-- A session as it is made has no client yet. -/
theorem named_constructed (srvNamespace : SharedName) : Named (constructed srvNamespace) :=
  ⟨nofun, nofun⟩

/-- Nor has one whose log-in has just been asked for. -/
theorem named_fresh (srvNamespace : SharedName) (out : OutArgs) : Named (fresh srvNamespace out) :=
  ⟨nofun, nofun⟩

namespace Named

/-- The same client namespace, and no more that asks for one. -/
theorem keep (h : Named s) (hn : s'.cliNamespace = s.cliNamespace)
    (ha : s'.accepted = true → s.accepted = true)
    (hw : s'.w.inInitChannels = true → s.w.inInitChannels = true) : Named s' :=
  ⟨fun h' => by rw [hn]; exact h.accepted (ha h'), fun h' => by rw [hn]; exact h.waiting (hw h')⟩

theorem session {b : Session} (h : Named s) (hu : s.toSession.Update l b) :
    Named (s.setSession b) := by
  refine h.keep hu.namespaces.2 id fun hw => ?_
  by_contra hno
  have hb := hu.inInitChannels (by simpa using hno)
  rw [show (s.setSession b).w = b.w from rfl, hb] at hw
  cases hw

/-- An update of the server. -/
theorem update (h : Named s) (hu : Update cfg s l s') : Named s' := by
  cases hu with
  | session hu => exact h.session hu
  | mqs hn r =>
    obtain ⟨es, made, -, hs⟩ := makeChannelMqs_tried cfg r s
    rw [hs]
    exact ⟨h.accepted, h.waiting⟩
  | @logInDone e site s₁ hn hd =>
    obtain ⟨-, rfl⟩ := logInDone_done hd
    exact ⟨fun ha => hn (Option.isNone_iff_eq_none.mp ha), h.waiting⟩
  | awaitAnswer hw hn => exact ⟨h.accepted, fun _ => hn⟩
  | _ => exact ⟨h.accepted, h.waiting⟩

/-- And any number of them. -/
theorem updates (h : Named s) (hu : Updates cfg L s s') : Named s' :=
  hu.keeps h fun _ _ _ ht _ hu => ht.update hu

/-- A task leaves the queue. -/
theorem taken {t : Task} {b : Session} (h : Named s) (hd : s.takeTask = .done (t, b)) :
    Named (s.setSession b) := by
  obtain ⟨hw, hq, hb⟩ := Session.takeTask_done hd
  exact h.keep (by rw [hb]; rfl) id fun hb' => by rw [hb] at hb'; exact hb'

/-- The log-in starts. -/
theorem acceptLogIn (h : Named s) (hd : s.acceptLogIn o = .done s') : Named s' := by
  have hacc := acceptLogIn_session hd
  have ha := acceptLogIn_accepted hd
  generalize hb : s'.toSession = b at hacc
  cases hacc <;> exact h.keep (by rw [hb]; rfl) ha fun hw => by rw [hb] at hw; exact hw

/-- The request gives the client its namespace, once it has passed. -/
theorem onLogInReq (h : Named s) {m : Msg} (hw : s.w.isServing = true)
    (hd : s.onLogInReq cfg m o = .done s') : Named s' := by
  obtain ⟨r, e, s₁, -, hc, hu, -⟩ := onLogInReq_updates hw hd
  refine Named.updates ?_ hu
  cases checkLogInReq_done hc with
  | rejected e hb hl =>
    exact h.keep (by rw [hb]) (by rw [hl.accepted]; exact id) (by rw [hb]; exact id)
  | passed hn hname hb hl =>
      exact ⟨fun _ => by rw [hb]; exact hname, fun _ => by rw [hb]; exact hname⟩

/-- What the destructor does in thread U. -/
theorem dtorAct {b : Session} (h : Named s) (ha : s.toSession.DtorAct b) :
    Named (s.setSession b) := by
  cases ha <;> exact h.keep rfl id (fun hw => by first | exact hw | cases hw)

/-- A task of the destructor in thread W. -/
theorem dtorTask {t : Task} {b : Session} (h : Named s) (ht : s.toSession.DtorTask t b) :
    Named (s.setSession b) := by
  cases ht with
  | finisherQuery => exact h.keep rfl id id
  | @sendEnd b₁ hf hu hw =>
    have h₁ : Named (s.setSession b₁) := hu.keeps (P := fun b => Named (s.setSession b)) h
      fun _ _ _ hb _ hu => hb.session hu
    exact h₁.keep rfl id id
  | noChannel hm => exact h.keep rfl id id
  | flush hm willRun => exact h.keep rfl id (fun hw => by cases hw)

/-- So a client that has logged in has its namespace. -/
theorem step {a : Act} (h : Named s) (hp : Phases cfg s) (hd : step cfg s a = .done s') :
    Named s' := by
  cases step_updates hp h hd with
  | common hu => exact h.updates hu
  | acceptLogIn ht hd => exact (h.taken ht).acceptLogIn hd
  | @logInReq o b chan m s₁ ht hd =>
    obtain ⟨hw, -, hb⟩ := Session.takeTask_done ht
    have hwb : b.w.isServing = true := by rw [hb, hw]; rfl
    exact (h.taken ht).onLogInReq hwb hd
  | dtorAct ha => exact h.dtorAct ha
  | dtorTask ht hb hf => exact (h.taken ht).dtorTask hb
  | returned hdt hs => rcases hs with rfl | rfl <;> exact ⟨h.accepted, h.waiting⟩

end Named

end Server

end IpcSession
