import IpcSession.Base.Hosing
import IpcSession.Client.State

namespace IpcSession

/-!
# Errors of the client's master channel

* `Client.ErrInv` — whatever the state, an error of the channel is on its way to where it belongs:
  to the completion handler while CONNECTING, to the on-error handler and the finisher in PEER.
* `step_errInv` — every step keeps it.  What it says of the reports is for the runs in which no call
  of a sub-class's own emits the error; what it says of the finisher, for those in which a call that
  emits the error finds the peer's `GracefulSessionEnd` there if a finisher waits for it, and no
  sub-class completes a connect with success on a channel whose error nobody is to report.
-/

namespace Client

variable {F S G : Prop} {cfg : Cfg} {s s' : Client} {o : ClientOracle}

/-- Where an error of the channel is, in state `st`; `S` says that the run is one in which no call
    of a sub-class's own emits the error, `G` that it is one in which the finisher is left with
    nobody to hear from. -/
structure ErrorsIn (cfg : Cfg) (S G : Prop) (st : ClientState) (b : Session) : Prop where
  finisher : b.gracefulFinisher.isSome = true → st = .peer ∧ cfg.gracefulFinishRequired = true
  connecting : S → st = .connecting → ∀ chan, b.errorState = some (chan, true) →
    b.ErrorPending chan ∨ b.peerStateErrCodeOrOk.isSome = true
  reported : S → st = .peer → b.Reported
  finishable : G → b.Finishable
  hosing : b.Hosing

/-- Where an error of the channel is. -/
abbrev ErrInv (cfg : Cfg) (S G : Prop) (s : Client) : Prop := ErrorsIn cfg S G s.state s.toSession

/-- There is no channel yet, and so no error. -/
theorem errInv_fresh (passiveOpen : Bool) : ErrInv cfg S G (fresh passiveOpen) where
  finisher := nofun
  connecting := fun _ => nofun
  reported := fun _ => nofun
  finishable := fun _ => nofun
  hosing := ⟨rfl, trivial, nofun⟩

namespace ErrorsIn

variable {st : ClientState} {b b' : Session}

/-- A finisher is engaged in PEER state only. -/
theorem no_finisher (h : ErrorsIn cfg S G st b) (hs : st ≠ .peer) : b.gracefulFinisher = none := by
  cases hf : b.gracefulFinisher with
  | none => rfl
  | some f => exact absurd (h.finisher (by rw [hf]; rfl)).1 hs

/-- Without a finisher there is no promise to fulfil. -/
theorem finishable_of_none (hf : b.gracefulFinisher = none) : b.Finishable := by
  intro chan _ h
  rw [hf] at h
  cases h

/-- Common code keeps it. -/
theorem of_did (h : ErrorsIn cfg S G st b) (hd : b.Did F b')
    (hF : G → F → b.gracefulFinisher = some false → ∃ c, Task.gracefulSessionEnd c ∈ b.queue) :
    ErrorsIn cfg S G st b' where
  finisher := fun hf => h.finisher (hd.gracefulFinisher ▸ hf)
  connecting := fun hS hs chan hc => by
    rcases hd.channelError hc with ⟨hc, hpend, hp, -⟩ | hpend | hp | ⟨hg, -⟩
    · exact (h.connecting hS hs chan hc).imp hpend (hp ▸ ·)
    · exact .inl hpend
    · exact .inr hp
    · rw [h.no_finisher (by simp [hs])] at hg
      cases hg
  reported := fun hS hs => hd.reported (h.reported hS hs)
  finishable := fun hg => hd.finishable (h.finishable hg) (hF hg)
  hosing := hd.hosing h.hosing

/-- Common code that makes no call that can emit an error. -/
theorem of_calm (h : ErrorsIn cfg S G st b) (hd : b.Did False b') : ErrorsIn cfg S G st b' :=
  h.of_did hd fun _ => nofun

/-- Quiet code keeps it. -/
theorem of_quiet (h : ErrorsIn cfg S G st b) (hq : b.Quiet b') : ErrorsIn cfg S G st b' :=
  h.of_calm (.quiet hq)

/-- To NULL state without a finisher. -/
theorem null (hf : b.gracefulFinisher = none) (hh : b.Hosing) : ErrorsIn cfg S G .null b where
  finisher := fun h => by rw [hf] at h; cases h
  connecting := fun _ => nofun
  reported := fun _ => nofun
  finishable := fun _ => finishable_of_none hf
  hosing := hh

end ErrorsIn

/-- Common session code, with the finisher served wherever it emits the error. -/
theorem ErrInv.liftUnit {f : Session → Outcome Failure Session} (h : ErrInv cfg S G s)
    (hf : ∀ b', f s.toSession = .done b' → s.toSession.Did F b')
    (hF : G → F → s.gracefulFinisher = some false → ∃ c, Task.gracefulSessionEnd c ∈ s.queue)
    (hd : s.liftUnit f = .done s') : ErrInv cfg S G s' := by
  obtain ⟨b, hb, rfl⟩ := liftUnit_done hd
  exact ErrorsIn.of_did h (hf _ hb) hF

/-- Code that makes no call that can emit an error. -/
theorem ErrInv.liftCalm {f : Session → Outcome Failure Session} (h : ErrInv cfg S G s)
    (hf : ∀ b', f s.toSession = .done b' → s.toSession.Did False b')
    (hd : s.liftUnit f = .done s') : ErrInv cfg S G s' :=
  h.liftUnit hf (fun _ => nofun) hd

/-! ### The ends of a connect attempt -/

/-- The end of an attempt is not the on-error handler. -/
theorem hosing_connectDone (h : s.Hosing) {e : ErrorCode} {out : OutArgs} :
    (s.record (.connectDone e out)).Hosing :=
  Session.Quiet.hosing (.record rfl) h

/-- Reporting an error from NULL state. -/
theorem InvokeResult.errInv_null {f : OnDone} {e : Err} (h : InvokeResult s f (some e) s')
    (hs : s.state = .null) (hf : s.gracefulFinisher = none) (hh : s.Hosing) :
    ErrInv cfg S G s' := by
  cases h with
  | plain =>
    show ErrorsIn cfg S G s.state (s.record (.connectDone (some e) (s.out f.attempt))).toSession
    rw [hs]
    exact .null hf (hosing_connectDone hh)

/-- Reporting success from PEER state, entered from CONNECTING. -/
theorem InvokeResult.errInv_peer {f : OnDone} (h : InvokeResult (s.setState .peer) f none s')
    (hi : ErrInv cfg S G s) (hs : s.state = .connecting) : ErrInv cfg S G s' := by
  have hf : s.gracefulFinisher = none := ErrorsIn.no_finisher hi (by simp [hs])
  cases h with
  | plain =>
    refine ⟨fun h => by simp [record, hf] at h, (by rintro _ ⟨⟩), fun hS _ chan hc => ?_,
      fun _ => ErrorsIn.finishable_of_none hf, ?_⟩
    · rcases hi.connecting hS hs chan hc with hp | hp
      · exact .inl hp
      · exact .inr (.inl hp)
    · exact hosing_connectDone hi.hosing
  | toNull =>
    exact ErrorsIn.null hf (Session.Quiet.hosing (.record rfl) hi.hosing.dropChannel)
  | toConnecting =>
    exact ⟨fun h => by simp [hf] at h, fun hS _ => hi.connecting hS hs, (by rintro _ ⟨⟩),
      fun _ => ErrorsIn.finishable_of_none hf, hi.hosing⟩

/-- An attempt succeeds, with the on-error handler set and not run. -/
theorem connectSucceeded_errInv {hook : Hook} (hd : s.connectSucceeded cfg hook = .done s')
    (hi : ErrInv cfg S G s) (hs : s.state = .connecting) : ErrInv cfg S G s' := by
  obtain ⟨-, f, -, hr⟩ := connectSucceeded_done hd
  exact hr.errInv_peer hi hs

/-! ### The tasks -/

/-- Taking a task that reports no error to the channel at hand. -/
theorem ErrorsIn.takeTask {st : ClientState} {b b' : Session} {t : Task} (h : ErrorsIn cfg S G st b)
    (hd : b.takeTask = .done (t, b'))
    (ht : ∀ chan e, t = .masterChannelError chan e → b.errorState ≠ some (chan, true))
    (hg : ∀ c, t ≠ .gracefulSessionEnd c) : ErrorsIn cfg S G st b' := by
  obtain ⟨-, hq, hb⟩ := Session.takeTask_done hd
  have key : ∀ chan, b.errorState = some (chan, true) → b.ErrorPending chan →
      b'.ErrorPending chan := by
    intro chan hc hp
    rcases Session.takeTask_errorPending hd hp with ⟨e, rfl⟩ | hp
    · exact absurd hc (ht chan e rfl)
    · exact hp
  have hes : b'.errorState = b.errorState := by rw [hb]; rfl
  have hpe : b'.peerStateErrCodeOrOk = b.peerStateErrCodeOrOk := by rw [hb]
  have hdt : b'.dtor = b.dtor := by rw [hb]
  refine ⟨fun hf => h.finisher (by rw [hb] at hf; exact hf), fun hS hs chan hc => ?_,
    fun hS hs chan hc => ?_, fun hG => (h.finishable hG).takeTask hd ht hg, ?_⟩
  · rcases h.connecting hS hs chan (hes ▸ hc) with hp | hp
    · exact .inl (key chan (hes ▸ hc) hp)
    · exact .inr (hpe ▸ hp)
  · rcases h.reported hS hs chan (hes ▸ hc) with hp | hp | hp
    · exact .inl (key chan (hes ▸ hc) hp)
    · exact .inr (.inl (hpe ▸ hp))
    · exact .inr (.inr (hdt ▸ hp))
  · exact h.hosing.of_log (by rw [hb]) hpe (by rw [hb])

/-- A new attempt has a new channel, with no error so far. -/
theorem asyncConnect_errInv {attempt : Nat} {subClass : Bool} {b : Builder} (h : ErrInv cfg S G s)
    (hd : s.asyncConnect cfg attempt subClass b o = .done s') : ErrInv cfg S G s' := by
  cases asyncConnect_done hd with
  | ignored hs =>
    have hq : s.toSession.Quiet (s.record .connectIgnored).toSession := .record rfl
    exact h.of_quiet hq
  | cnsFailed hs e hc =>
    have hf := h.no_finisher (by simp [hs])
    exact ErrorsIn.null hf (hosing_connectDone (h.hosing.of_log rfl rfl rfl))
  | sockFailed hs pid hc hn hsrv e =>
    have hf := h.no_finisher (by simp [hs])
    have hh : (s.setSession (s.putSrvNamespace (pidToString pid))).Hosing :=
      h.hosing.of_log rfl rfl rfl
    exact ErrorsIn.null hf (hosing_connectDone (hh.of_log rfl rfl rfl))
  | sendFailed hs pid hc hn hsrv hm t ht ch hch e =>
    have hf : t.gracefulFinisher = none := by rw [ht]; exact h.no_finisher (by simp [hs])
    have hh : t.Hosing := h.hosing.of_log (by rw [ht]; rfl) (by rw [ht]; rfl) (by rw [ht]; rfl)
    -- The send itself emits the error; the channel is dropped before anybody else sees it.
    have hh₁ : (t.failCall ch e).Hosing := hh.channelError (e := e) rfl rfl rfl
    exact ErrorsIn.null hf (hosing_connectDone hh₁.dropChannel)
  | refused hs pid hc hn hsrv hm t ht ch hch e =>
    have hf : t.gracefulFinisher = none := by rw [ht]; exact h.no_finisher (by simp [hs])
    have hst : t.state = .connecting := by rw [ht]; rfl
    have hh : t.Hosing := h.hosing.of_log (by rw [ht]; rfl) (by rw [ht]; rfl) (by rw [ht]; rfl)
    -- The channel is hosed with its report still to come.
    refine ⟨fun h' => ?_, fun _ _ chan hc => .inl ?_, fun _ h' => ?_,
      fun _ => ErrorsIn.finishable_of_none hf, ?_⟩
    · simp [hf] at h'
    · exact Session.emitError_errorPending ch e hc
    · simp [hst] at h'
    · exact hh.channelError (e := e) rfl rfl rfl
  | sent hs pid hc hn hsrv hm t ht ch hch =>
    have hf : t.gracefulFinisher = none := by rw [ht]; exact h.no_finisher (by simp [hs])
    have hst : t.state = .connecting := by rw [ht]; rfl
    have hh : t.Hosing := h.hosing.of_log (by rw [ht]; rfl) (by rw [ht]; rfl) (by rw [ht]; rfl)
    -- A fresh channel is not hosed, so the send is the only event.
    have hho : ch.hosed = false := by rw [ht] at hch; cases hch; rfl
    refine ⟨fun h' => ?_, fun _ _ chan hc => ?_, fun _ h' => ?_,
      fun _ => ErrorsIn.finishable_of_none hf, ?_⟩
    · simp [hf] at h'
    · simp [Session.errorState, hho] at hc
    · simp [hst] at h'
    · have hq : t.toSession.Quiet (t.transmit ch ⟨ch.nextMsgId, none, none,
          logInReq cfg (s.out attempt) b.body.mdt⟩) := .transmit hch _
      exact (hq.hosing hh).of_log rfl rfl rfl

/-- The log-in response comes in. -/
theorem onMasterChannelLogInRsp_errInv {chan attempt : Nat} {m : Msg} (h : ErrInv cfg S G s)
    (hd : s.onMasterChannelLogInRsp cfg chan m attempt o = .done s') : ErrInv cfg S G s' := by
  simp only [onMasterChannelLogInRsp, Outcome.bind_eq_done, Prod.exists,
    Outcome.check_eq_done] at hd
  obtain ⟨res, s₁, hread, -, hstate, -, -, hd⟩ := hd
  have hs : s₁.state = .connecting := of_decide_eq_true hstate
  have h₁ : ErrInv cfg S G s₁ := by
    obtain ⟨⟨v, w, name, rfl⟩, -⟩ := readLogInRsp_done hread
    exact ⟨h.finisher, h.connecting, h.reported, h.finishable, h.hosing.of_log rfl rfl rfl⟩
  have hf : s₁.gracefulFinisher = none := h₁.no_finisher (by simp [hs])
  cases res with
  | error e =>
    obtain ⟨f, -, hr⟩ := invokeConnOnDoneFunc_done hd
    exact hr.errInv_null rfl hf h₁.hosing.dropChannel
  | ok res =>
    obtain ⟨n, mdt⟩ := res
    simp only at hd
    split at hd
    · simp only [Outcome.bind_eq_done, Prod.exists] at hd
      obtain ⟨-, -, ok, s₂, h₂, hd⟩ := hd
      obtain ⟨b, hb, rfl⟩ := lift_done h₂
      have hdid := h₁.of_calm (Session.expectOpenChannelReqs_did hb)
      cases ok with
      | true => exact connectSucceeded_errInv hd hdid hs
      | false => cases hd; exact hdid
    · simp only [Outcome.bind_eq_done, Prod.exists] at hd
      obtain ⟨-, -, ok, s₂, h₂, hd⟩ := hd
      obtain ⟨b, hb, rfl⟩ := lift_done h₂
      cases hd
      exact h₁.of_calm (Session.expectOpenChannelReqs_did hb)

/-- The last init-channel is there: the attempt has ended. -/
theorem initChannelsComplete_errInv {m : Msg} {cap : InitCapture} {chans : Channels}
    (hd : s.initChannelsComplete cfg m cap chans o = .done s') (h : ErrInv cfg S G s)
    (hs : s.state = .connecting) : ErrInv cfg S G s' := by
  have hf : s.gracefulFinisher = none := h.no_finisher (by simp [hs])
  simp only [initChannelsComplete, Outcome.bind_eq_done, Prod.exists] at hd
  obtain ⟨ok₁, s₁, h₁, hd⟩ := hd
  obtain ⟨b₁, hb₁, rfl⟩ := lift_done h₁
  have hi₁ := h.of_calm (Session.undoExpectOpenChannelReqs_did hb₁)
  cases ok₁ with
  | false => cases hd; exact hi₁
  | true =>
    simp only [Bool.not_true, Bool.false_eq_true, if_false, Outcome.bind_eq_done,
      Prod.exists] at hd
    obtain ⟨ok₂, s₂, h₂, hd⟩ := hd
    obtain ⟨b₂, hb₂, rfl⟩ := lift_done h₂
    have hi₂ := hi₁.of_calm (Session.expectOpenChannelReqs_did hb₂)
    cases ok₂ with
    | false => cases hd; exact hi₂
    | true =>
      simp only [Bool.not_true, Bool.false_eq_true, if_false, Outcome.bind_eq_done,
        Prod.exists] at hd
      obtain ⟨c, s₃, h₃, hd⟩ := hd
      obtain ⟨b₃, hb₃, rfl⟩ := lift_done h₃
      obtain ⟨ch, hm, hr⟩ := Session.send_done hb₃
      have hf₂ := hi₂.no_finisher (by simp [hs])
      generalize hsend : o.send = r at hr
      cases hr with
      | ok =>
        simp only [Outcome.bind_eq_done] at hd
        obtain ⟨s₄, h₄, hd⟩ := hd
        -- Filling the out-arguments touches nothing that the invariant is about.
        obtain ⟨out, rfl⟩ := emitInitChannels_frame h₄
        have hi₃ : ErrorsIn cfg S G s.state (b₂.transmit ch ⟨ch.nextMsgId, some m.id, none,
            .openChannelToClientRsp .accepted⟩) := hi₂.of_quiet (.transmit hm _)
        exact connectSucceeded_errInv hd hi₃ hs
      | refusedOld => cases hd; exact hi₂
      | refusedNew hh e => cases hd; exact hi₂.of_calm (.emitError hm hh e)
      | failed hh e =>
        obtain ⟨f, -, hr⟩ := invokeConnOnDoneFunc_done hd
        -- The acknowledgement failed: the log-in ends in NULL state although the channel stays.
        exact hr.errInv_null rfl hf₂ (hi₂.hosing.channelError (e := e) rfl rfl rfl)

/-- An init-channel comes in. -/
theorem onMasterChannelInitOpenChannel_errInv {m : Msg} {cap : InitCapture} (h : ErrInv cfg S G s)
    (hd : s.onMasterChannelInitOpenChannel cfg m cap o = .done s') : ErrInv cfg S G s' := by
  simp only [onMasterChannelInitOpenChannel, Outcome.bind_eq_done, Outcome.check_eq_done] at hd
  obtain ⟨-, hstate, -, -, hd⟩ := hd
  have hs : s.state = .connecting := of_decide_eq_true hstate
  split at hd
  · simp only [Outcome.bind_eq_done, Prod.exists] at hd
    obtain ⟨obj, s₁, h₁, -, -, hd⟩ := hd
    obtain ⟨b₁, hb₁, rfl⟩ := lift_done h₁
    have hrec : s.toSession.Quiet (s.record (.initOpenChannelRan m.id)).toSession := .record rfl
    have hi := h.of_quiet (hrec.trans (Session.createChannelObj_quiet hb₁))
    split at hd
    · cases hd; exact hi
    · exact initChannelsComplete_errInv hd hi hs
  · cases hd

/-- The error of the channel reaches the client. -/
theorem onMasterChannelError_errInv {b : Session} {chan : Nat} {e : Err} (h : ErrInv cfg S G s)
    (ht : s.takeTask = .done (.masterChannelError chan e, b))
    (hd : (s.setSession b).onMasterChannelError cfg chan e = .done s') : ErrInv cfg S G s' := by
  obtain ⟨hw, -, hb⟩ := Session.takeTask_done ht
  have hf : b.gracefulFinisher = s.gracefulFinisher := by rw [hb]
  have hh : b.Hosing := h.hosing.of_log (by rw [hb]) (by rw [hb]) (by rw [hb])
  simp only [onMasterChannelError] at hd
  split at hd
  -- The report is of a channel that is gone: nothing happens.
  · rename_i hne
    cases hd
    refine h.takeTask ht ?_ (by rintro _ ⟨⟩)
    rintro chan' e' ⟨⟩ hes
    have hm : b.masterChannel = s.masterChannel := by rw [hb]
    cases hms : s.masterChannel with
    | none => simp [Session.errorState, hms] at hes
    | some ch => simp [Session.errorState, hms] at hes; simp [hm, hms, hes] at hne
  · cases hs : s.state with
    | null => simp [hs] at hd
    -- The connect fails with it and the channel goes.
    | connecting =>
      simp only [setSession_state, hs, Outcome.bind_eq_done] at hd
      obtain ⟨-, -, hd⟩ := hd
      obtain ⟨f, -, hr⟩ := invokeConnOnDoneFunc_done hd
      have hn : s.gracefulFinisher = none := h.no_finisher (by simp [hs])
      exact hr.errInv_null rfl (hf.trans hn) hh.dropChannel
    | peer =>
      simp only [setSession_state, hs] at hd
      obtain ⟨b', hb', rfl⟩ := liftUnit_done hd
      obtain ⟨b₁, h₁, h₂⟩ := Session.onMasterChannelErrorPeer_done hb'
      have hwb : b.w.inOpenChannel = false := by rw [hb, hw]; rfl
      have hh₁ : b₁.Hosing ∧ b₁.peerStateErrCodeOrOk.isSome = true ∧
          b₁.gracefulFinisher = b.gracefulFinisher := by
        rcases h₁ with ⟨hp, rfl⟩ | ⟨hp, rfl⟩
        · exact ⟨hh, hp, rfl⟩
        · exact ⟨hh.emitHosed hp .masterChannelError [] rfl rfl (by simp) (by simp) hwb, rfl, rfl⟩
      -- In PEER state the session is hosed, and a finisher that is engaged is told.
      have hst : ErrorsIn cfg S G .peer b' := by
        rcases h₂ with ⟨hreq, -, rfl⟩ | ⟨hreq, rfl⟩
        · exact ⟨fun _ => ⟨rfl, hreq⟩, (by rintro _ ⟨⟩), fun _ _ _ _ => .inr (.inl hh₁.2.1),
            fun _ _ _ => (by rintro ⟨⟩), hh₁.1.of_log rfl rfl rfl⟩
        · refine ⟨fun hf' => ?_, (by rintro _ ⟨⟩), fun _ _ _ _ => .inr (.inl hh₁.2.1),
            fun _ _ _ hf' => ?_, hh₁.1⟩
          · rw [hh₁.2.2, hf] at hf'
            have := (h.finisher hf').2
            rw [hreq] at this
            cases this
          · rw [hh₁.2.2, hf] at hf'
            have := (h.finisher (by rw [hf']; rfl)).2
            rw [hreq] at this
            cases this
      show ErrorsIn cfg S G s.state b'
      rw [hs]
      exact hst

/-- The peer's `GracefulSessionEnd` reaches the client. -/
theorem onGracefulSessionEnd_errInv {b : Session} {chan : Nat} (h : ErrInv cfg S G s)
    (ht : s.takeTask = .done (.gracefulSessionEnd chan, b))
    (hd : (s.setSession b).liftUnit (·.onGracefulSessionEnd) = .done s') : ErrInv cfg S G s' := by
  obtain ⟨hw, -, hb⟩ := Session.takeTask_done ht
  obtain ⟨b', hb', rfl⟩ := liftUnit_done hd
  obtain ⟨hf, -, hr⟩ := Session.onGracefulSessionEnd_done hb'
  have hf : b.gracefulFinisher = some false := hf
  have hs : s.state = .peer ∧ cfg.gracefulFinishRequired = true :=
    h.finisher (by rw [hb] at hf; rw [hf]; rfl)
  have hwb : b.w.inOpenChannel = false := by rw [hb, hw]; rfl
  have hh : (b.setFinisher true).Hosing := h.hosing.of_log (by rw [hb]; rfl) (by rw [hb]; rfl)
    (by rw [hb]; rfl)
  show ErrorsIn cfg S G s.state b'
  rw [hs.1]
  rcases hr with ⟨hp, rfl⟩ | ⟨hp, rfl⟩
  · exact ⟨fun _ => ⟨rfl, hs.2⟩, fun _ => nofun, fun _ _ _ _ => .inr (.inl hp), fun _ _ _ => nofun,
      hh⟩
  · exact ⟨fun _ => ⟨rfl, hs.2⟩, fun _ => nofun, fun _ _ _ _ => .inr (.inl rfl), fun _ _ _ => nofun,
      hh.emitHosed hp .gracefulSessionEnd [] rfl rfl (by simp) (by simp) hwb⟩

/-- The report of the channel's error, if there has been one, is on its way. -/
def ReportQueued (b : Session) : Prop :=
    ∀ chan, b.errorState = some (chan, true) → b.ErrorPending chan

/-- The finisher is engaged in a session that a sub-class has kept from PEER state. -/
theorem emplaceGracefulFinisher_errorsIn {r : Ret} {b b' : Session}
    (h : ErrorsIn cfg S G .connecting b) (hp : b.peerStateErrCodeOrOk = none)
    (hC : G → S ∨ ReportQueued b) (hreq : cfg.gracefulFinishRequired = true)
    (hd : b.emplaceGracefulFinisher r = .done b') : ErrorsIn cfg S G .peer b' := by
  obtain ⟨ch, hm, hr⟩ := Session.emplaceGracefulFinisher_done hd
  have hpend : S → ReportQueued b := by
    intro hS chan hc
    rcases h.connecting hS rfl chan hc with he | he
    · exact he
    · rw [hp] at he; cases he
  have hi : ErrorsIn cfg S G .peer (b.setFinisher false) := by
    refine ⟨fun _ => ⟨rfl, hreq⟩, fun _ => nofun, fun hS _ chan hc => .inl (hpend hS chan hc),
      fun hG chan hc _ => .inl ?_, h.hosing.of_log rfl rfl rfl⟩
    exact (hC hG).elim (fun hS => hpend hS chan hc) fun hq => hq chan hc
  exact hi.of_calm (hr.did hm)

/-- A sub-class completes the attempt: in PEER state a report of an error is on its way, if it is
    needed. -/
theorem complete_errInv {e : ErrorCode} {r : Ret} (h : ErrInv cfg S G s)
    (hs : s.state = .connecting) (hp : s.peerStateErrCodeOrOk = none)
    (hC : e = none → G → S ∨ ReportQueued s.toSession)
    (hd : s.completeAsyncConnectAfterCancelingPeerState cfg e r = .done s') :
    ErrInv cfg S G s' := by
  have hn : s.gracefulFinisher = none := h.no_finisher (by simp [hs])
  -- The invariant as it is in CONNECTING state, where nothing has been reported yet.
  have hi : ErrorsIn cfg S G .connecting s.toSession := hs ▸ h
  simp only [completeAsyncConnectAfterCancelingPeerState, Outcome.bind_eq_done, Prod.exists] at hd
  obtain ⟨hosed, s₁, h₁, -, -, hd⟩ := hd
  obtain ⟨b₁, hb₁, rfl⟩ := lift_done h₁
  simp only [Outcome.bind_eq_done] at hb₁
  obtain ⟨h, -, hb₁⟩ := hb₁
  cases hb₁
  cases e with
  | some e =>
    obtain ⟨f, -, hr⟩ := invokeConnOnDoneFunc_done hd
    exact hr.errInv_null rfl hn h.hosing.dropChannel
  | none =>
    simp only [Outcome.bind_eq_done] at hd
    obtain ⟨s₂, h₂, hd⟩ := hd
    obtain ⟨f, -, rfl⟩ := invokeConnOnDoneFunc_passOn_done hd
    -- The finisher is put in place, if there is to be one, on the way to PEER state.
    have h₂ : ErrorsIn cfg S G .peer s₂.toSession ∧ s₂.state = .peer := by
      simp only [engageFinisher] at h₂
      split at h₂
      · rename_i hreq
        obtain ⟨b, hb, rfl⟩ := liftUnit_done h₂
        exact ⟨emplaceGracefulFinisher_errorsIn hi hp (hC rfl) hreq hb, rfl⟩
      · cases h₂
        refine ⟨⟨fun hf => ?_, (by rintro _ ⟨⟩), fun hS _ chan hc => ?_, fun _ => ?_, h.hosing⟩,
          rfl⟩
        · have hf : s.gracefulFinisher.isSome = true := hf
          rw [hn] at hf
          cases hf
        · exact (h.connecting hS hs chan hc).imp_right .inl
        · exact ErrorsIn.finishable_of_none hn
    have hq : s₂.toSession.Quiet (s₂.record (.connectDone none (s₂.out f.attempt))).toSession :=
      .record rfl
    show ErrorsIn cfg S G s₂.state (s₂.record (.connectDone none (s₂.out f.attempt))).toSession
    rw [h₂.2]
    exact h₂.1.of_quiet hq

/-! ### PEER state -/

/-- An answer of the server to `open_channel()` makes nothing of an error. -/
theorem openChannelRsp_quiet {b b' : Session} {call req : Nat} {mqOpen : ErrorCode} {m : Msg}
    (hp : b.peerStateErrCodeOrOk = none)
    (hd : openChannelRsp cfg call req mqOpen m b = .done b') : b.Quiet b' := by
  simp only [openChannelRsp] at hd
  split at hd
  · simp only [Outcome.bind_eq_done, Prod.exists] at hd
    obtain ⟨obj, b₁, hc, hd⟩ := hd
    cases hd
    have h₁ := Session.createChannelObj_quiet hc
    exact h₁.trans (.returned (h₁.peerStateErrCodeOrOk.trans hp))
  · cases hd; exact .returned hp
  · cases hd; exact .returned hp
  · cases hd
  · cases hd

/-- Nor does making what the server asks for. -/
theorem prepare_quiet {b b' : Session} {m : Msg} {mqOpen : ErrorCode} {p : Session.Prepared}
    (hd : prepare cfg m mqOpen b = .done (p, b')) : b.Quiet b' ∧ b'.w = b.w := by
  simp only [prepare] at hd
  split at hd
  · split at hd
    · simp only [Outcome.bind_eq_done, Prod.exists] at hd
      obtain ⟨obj, b₁, hc, hd⟩ := hd
      cases hd
      refine ⟨Session.createChannelObj_quiet hc, ?_⟩
      simp [Session.createChannelObj] at hc
      obtain ⟨-, -, -, -, rfl⟩ := hc
      rfl
    · cases hd
  · cases hd; exact ⟨.refl _, rfl⟩

/-- The server's request hoses the session only if the answer's `send()` emits the error. -/
theorem onMasterChannelOpenChannelReq_did {b b' : Session} {m : Msg} (hw : b.w = .idle)
    (hd : onMasterChannelOpenChannelReq cfg m o b = .done b') :
    b.Did ((∃ e, o.send = .failed e) ∧ b.peerStateErrCodeOrOk = none) b' := by
  simp only [onMasterChannelOpenChannelReq, Outcome.bind_eq_done] at hd
  obtain ⟨h, hh, hd⟩ := hd
  obtain ⟨-, rfl⟩ := Session.hosed_done hh
  have hrec : b.Quiet (b.record (.openChannelReqRan m.id)) := .record rfl
  cases hp : b.peerStateErrCodeOrOk with
  | some e => simp [hp] at hd; subst hd; exact .quiet hrec
  | none =>
    simp only [Session.record_peerStateErrCodeOrOk, hp, Option.isSome_none, Bool.false_eq_true,
      if_false, Outcome.bind_eq_done, Prod.exists] at hd
    obtain ⟨-, -, p, b₁, hprep, hd⟩ := hd
    obtain ⟨hq, hw₁⟩ := prepare_quiet hprep
    obtain ⟨ch, hm, hr⟩ := Session.openChannelReqRespond_done hd
    have hp₁ : b₁.peerStateErrCodeOrOk = none := hq.peerStateErrCodeOrOk.trans hp
    have hw₁ : b₁.w.inOpenChannel = false := by rw [hw₁]; simp [hw, Worker.inOpenChannel]
    exact ((hr.did hm hp₁ hw₁).mono fun he => ⟨he, rfl⟩).after (hrec.trans hq)

/-- Nor does `open_channel()`, unless its `sync_request()` emitted it. -/
theorem openChannelSyncReturn_did {b b' : Session} {call req : Nat} {mqOpen : ErrorCode}
    {rsp : Option Msg} {r : Session.SyncRes} (hp : b.peerStateErrCodeOrOk = none)
    (hw : b.w ≠ .stopped) (hd : b.openChannelSyncReturn (openChannelRsp cfg call req mqOpen) call
      req rsp r = .done b') :
    b.Did (∃ e, r = .failed e) b' := by
  rcases Session.openChannelSyncReturn_done hd with ⟨m, -, -, hr⟩ | ⟨-, hr⟩
  · have hidle : b.Quiet (b.setW .idle) := .setIdle hw
    exact .quiet (hidle.trans (openChannelRsp_quiet hp hr))
  · exact hr.did hp hw

/-! ### A step -/

/-- The step makes a call that emits the error of the channel itself, in PEER state. -/
def emitsFromCall (s : Client) : Act → Bool
  | .run o => match o.send, s.queue with
    | .failed _, .openChannelReq .. :: _ => s.peerStateErrCodeOrOk.isNone
    | .failed _, .openChannel .. :: _ => s.peerStateErrCodeOrOk.isNone
    | .failed _, .dtorSendEnd :: _ => true
    | _, _ => false
  | .syncReturn (.failed _) _ => true
  | _ => false

/-- A sub-class's own call emits the error. -/
def Act.subClassFails : Act → Bool
  | .subClassSend (.failed _) => true
  | _ => false

/-- A sub-class completes a connect with success on a channel that has emitted its error, and no
    report of the error is queued. -/
def completesStuck (s : Client) : Act → Bool
  | .complete none _ => s.masterChannel.any fun ch => ch.hosed && s.queue.all fun
    | .masterChannelError chan _ => chan ≠ ch.id
    | _ => true
  | _ => false

/-- A sub-class that completes a connect elsewhere leaves the finisher somebody to hear from. -/
theorem reportQueued_of_completesStuck {r : Ret} (h : s.completesStuck (.complete none r) = false) :
    ReportQueued s.toSession := by
  intro chan hc
  cases hm : s.masterChannel with
  | none => simp [Session.errorState, hm] at hc
  | some ch =>
    obtain ⟨rfl, hh⟩ : ch.id = chan ∧ ch.hosed = true := by simpa [Session.errorState, hm] using hc
    simp only [completesStuck, hm, Option.any_some, hh, Bool.true_and, List.all_eq_false] at h
    obtain ⟨t, ht, hn⟩ := h
    cases t with
    | masterChannelError chan e =>
      have hid : chan = ch.id := by simpa using hn
      exact ⟨e, hid ▸ ht⟩
    | _ => exact absurd rfl hn

/-- Whatever task it is, the books of the error are kept. -/
theorem runTask_errInv {t : Task} {b : Session} (h : ErrInv cfg S G s)
    (ht : s.takeTask = .done (t, b))
    (hG : G → emitsFromCall s (.run o) = true → s.finisherServed = true)
    (hd : (s.setSession b).runTask cfg o t = .done s') : ErrInv cfg S G s' := by
  obtain ⟨hw, hq, hb⟩ := Session.takeTask_done ht
  have hwb : b.w = .idle := by rw [hb, hw]
  have hpb : b.peerStateErrCodeOrOk = s.peerStateErrCodeOrOk := by rw [hb]
  -- A finisher served before the task is served after it was taken.
  have served := fun hg hs => Session.finisherServed_takeTask ht hg hs
  cases t with
  | masterChannelError chan e => exact onMasterChannelError_errInv h ht hd
  | gracefulSessionEnd chan => exact onGracefulSessionEnd_errInv h ht hd
  | logInRsp chan m attempt =>
    exact onMasterChannelLogInRsp_errInv (s := s.setSession b)
      (h.takeTask ht (by rintro _ _ ⟨⟩) (by rintro _ ⟨⟩)) hd
  | initOpenChannel chan m cap =>
    exact onMasterChannelInitOpenChannel_errInv (s := s.setSession b)
      (h.takeTask ht (by rintro _ _ ⟨⟩) (by rintro _ ⟨⟩)) hd
  | asyncConnect attempt subClass bl =>
    exact asyncConnect_errInv (s := s.setSession b)
      (h.takeTask ht (by rintro _ _ ⟨⟩) (by rintro _ ⟨⟩)) hd
  -- The three bodies that may hose from a call: the finisher must have been told by then.
  | openChannelReq chan m =>
    have h₁ : ErrInv cfg S G (s.setSession b) := h.takeTask ht (by rintro _ _ ⟨⟩) (by rintro _ ⟨⟩)
    refine h₁.liftUnit (fun _ hb' => onMasterChannelOpenChannelReq_did hwb hb') ?_ hd
    rintro hg ⟨⟨e, he⟩, hp⟩
    have hp : b.peerStateErrCodeOrOk = none := hp
    exact served (by rintro _ ⟨⟩) (hG hg (by simp [emitsFromCall, hq, he, ← hpb, hp]))
  | openChannel call bl =>
    have h₁ : ErrInv cfg S G (s.setSession b) := h.takeTask ht (by rintro _ _ ⟨⟩) (by rintro _ ⟨⟩)
    refine h₁.liftUnit (fun _ hb' => Session.openChannelBody_did hwb hb') ?_ hd
    rintro hg ⟨⟨e, he⟩, hp⟩
    have hp : b.peerStateErrCodeOrOk = none := hp
    exact served (by rintro _ ⟨⟩) (hG hg (by simp [emitsFromCall, hq, he, ← hpb, hp]))
  | dtorSendEnd =>
    have h₁ : ErrInv cfg S G (s.setSession b) := h.takeTask ht (by rintro _ _ ⟨⟩) (by rintro _ ⟨⟩)
    refine h₁.liftUnit (fun _ hb' => Session.dtorSendEnd_did hwb hb') ?_ hd
    rintro hg ⟨e, he⟩
    exact served (by rintro _ ⟨⟩) (hG hg (by simp [emitsFromCall, hq, he]))
  -- The bodies below emit no error at all.
  | mdtBuilder call mdt =>
    cases hd
    have h₁ : ErrInv cfg S G (s.setSession b) := h.takeTask ht (by rintro _ _ ⟨⟩) (by rintro _ ⟨⟩)
    simp only [mdtBuilder]
    split <;> exact ErrorsIn.of_quiet h₁ (.giveBuilder _ _)
  | sessionToken =>
    have h₁ : ErrInv cfg S G (s.setSession b) := h.takeTask ht (by rintro _ _ ⟨⟩) (by rintro _ ⟨⟩)
    simp only [runTask, sessionToken] at hd
    split at hd
    · cases hd
      have hrec : b.Quiet (b.record (.sessionTokenReturned true)) := .record rfl
      exact ErrorsIn.of_quiet h₁ hrec
    · exact h₁.liftCalm (fun _ hb' => .quiet (Session.sessionToken_quiet hb')) hd
  | dtorFinisherQuery =>
    cases hd
    have h₁ : ErrInv cfg S G (s.setSession b) := h.takeTask ht (by rintro _ _ ⟨⟩) (by rintro _ ⟨⟩)
    exact ErrorsIn.of_quiet h₁ (Session.dtorFinisherQuery_quiet hwb)
  | dtorFlush =>
    cases hd
    have h₁ : ErrInv cfg S G (s.setSession b) := h.takeTask ht (by rintro _ _ ⟨⟩) (by rintro _ ⟨⟩)
    exact ErrorsIn.of_quiet h₁ (Session.dtorFlush_quiet (by simp [hwb]) _)
  -- Tasks of the server: a client has none of them.
  | logInReq => cases hd
  | acceptLogIn => cases hd
  | initHandlers => cases hd
  | preInitError => cases hd

/-- **Errors stay on their way**, at every step. -/
theorem step_errInv {a : Act} (h : ErrInv cfg S G s) (hsub : S → a.subClassFails = false)
    (hG : G → emitsFromCall s a = true → s.finisherServed = true)
    (hC : G → S ∨ s.completesStuck a = false) (hd : step cfg s a = .done s') :
    ErrInv cfg S G s' := by
  cases a with
  | mdtBuilder call mdt =>
    simp only [step, Outcome.bind_eq_done] at hd
    obtain ⟨-, -, hd⟩ := hd
    cases hd
    have hq : s.toSession.Quiet (s.toSession.post (.mdtBuilder call mdt)) := .post rfl
    exact h.of_quiet hq
  | connect call attempt out subClass =>
    simp only [step, connect, Outcome.bind_eq_done, Prod.exists] at hd
    obtain ⟨-, -, b, s₁, h₁, hd⟩ := hd
    obtain ⟨b₁, hb₁, rfl⟩ := lift_done h₁
    cases b with
    | none => cases hd
    | some b =>
      simp only [Outcome.bind_eq_done] at hd
      obtain ⟨-, -, hd⟩ := hd
      cases hd
      have hq : b₁.Quiet (b₁.post (.asyncConnect attempt subClass b)) := .post rfl
      exact h.of_quiet ((Session.Quiet.takeBuilder hb₁).trans hq)
  | openChannel call =>
    simp only [step, Outcome.bind_eq_done] at hd
    obtain ⟨-, -, hd⟩ := hd
    refine h.liftCalm (fun b' hb => ?_) hd
    simp only [openChannel, Outcome.bind_eq_done, Prod.exists] at hb
    obtain ⟨bl, b₁, h₁, hb⟩ := hb
    have hq := Session.Quiet.takeBuilder h₁
    cases bl with
    | none => cases hb; exact .quiet (hq.trans .returnedNothing)
    | some bl => cases hb; exact .quiet (hq.trans (.post rfl))
  | sessionToken =>
    simp only [step, Outcome.bind_eq_done] at hd
    obtain ⟨-, -, hd⟩ := hd
    cases hd
    have hq : s.toSession.Quiet (s.toSession.post .sessionToken) := .post rfl
    exact h.of_quiet hq
  | run o =>
    simp only [step, Outcome.bind_eq_done, Prod.exists] at hd
    obtain ⟨t, s₁, h₁, hd⟩ := hd
    obtain ⟨b₁, hb₁, rfl⟩ := lift_done h₁
    exact runTask_errInv h hb₁ hG hd
  | syncReturn r mqOpen =>
    simp only [step] at hd
    split at hd
    · rename_i call opened req rsp hw
      have hp : s.peerStateErrCodeOrOk = none := h.hosing.waiting (by rw [hw]; rfl)
      refine h.liftUnit (fun _ hb => openChannelSyncReturn_did hp (by simp [hw]) hb) ?_ hd
      rintro hg ⟨e, rfl⟩
      exact Session.mem_of_finisherServed (hG hg rfl)
    · cases hd
  | subClassSend r =>
    simp only [step, Outcome.bind_eq_done, Prod.exists] at hd
    obtain ⟨_, ht, c, s₁, h₁, hd⟩ := hd
    obtain ⟨b₁, hb₁, rfl⟩ := lift_done h₁
    obtain ⟨ch, hm, hr⟩ := Session.send_done hb₁
    cases hd
    cases hr with
    | ok => exact h.of_quiet (.transmit hm _)
    | refusedOld => exact h
    | refusedNew hh e => exact h.of_calm (.emitError hm hh e)
    | failed hh e =>
      -- the finisher is not there yet
      have hs : s.state = .connecting := takenOver_state (Outcome.require_eq_done.mp ht)
      have hf : s.gracefulFinisher = none := h.no_finisher (by simp [hs])
      refine ⟨h.finisher, fun hS => absurd (hsub hS) (by simp [Act.subClassFails]),
        fun hS => absurd (hsub hS) (by simp [Act.subClassFails]),
        fun _ => ErrorsIn.finishable_of_none hf, h.hosing.channelError (e := e) rfl rfl rfl⟩
  | complete e r =>
    simp only [step, Outcome.bind_eq_done, Outcome.require_eq_done, Bool.and_eq_true] at hd
    obtain ⟨-, ⟨ht, hp⟩, hd⟩ := hd
    refine complete_errInv h (takenOver_state ht) (Option.isNone_iff_eq_none.mp hp) ?_ hd
    rintro rfl hg
    exact (hC hg).imp_right reportQueued_of_completesStuck
  | deliver m => exact h.liftCalm (fun _ hb => .quiet (Session.deliver_quiet hb)) hd
  | channelError e => exact h.liftCalm (fun _ hb => Session.channelError_did hb) hd
  | dtorStart => exact h.liftCalm (fun _ hb => .quiet (Session.dtorStart_quiet hb)) hd
  | dtorStep => exact h.liftCalm (fun _ hb => Session.dtorStep_did hb) hd
  | flushDone => exact h.liftCalm (fun _ hb => .quiet (Session.dtorFlushDone_quiet hb)) hd

end Client

end IpcSession
