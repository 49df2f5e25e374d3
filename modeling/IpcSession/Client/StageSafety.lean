import IpcSession.Base.Safe
import IpcSession.Client.Stages

namespace IpcSession

/-!
# No assertion fails in a connect attempt

* `Client.serverConforms`, `Client.subClassConforms` — what the handlers may expect of the opposing
  process and of a sub-class.
* `Client.stage_safe` — with that **no assertion fails in the handlers of a connect attempt**, and
  with a namespace that is not set none in `async_connect()` (`asyncConnect_safe`).
-/

namespace Client

variable {cfg : Cfg} {s s' : Client} {o : ClientOracle} {passiveOpen : Bool}

/-! ### What the handlers may expect -/

/-- The message has the resources that a channel needs, and they can be had. -/
def hasResources (cfg : Cfg) (mqC2s mqS2c : SharedName) (hndl : Option NativeHandle)
    (mqOpen : ErrorCode) : Bool :=
  cfg.socketStreamEnabled = hndl.isSome && !cfg.mqsEnabled = mqC2s.isEmpty &&
    (!cfg.mqsEnabled || mqOpen.isNone && !mqS2c.isEmpty)

/-- A request of the server for an init-channel. -/
def isInitRequest (cfg : Cfg) (mqOpen : ErrorCode) (m : Msg) : Bool :=
  match m.body with
  | .openChannelToClientReq mqC2s mqS2c _ => hasResources cfg mqC2s mqS2c m.hndl mqOpen
  | _ => false

/-- What a server answers to `OpenChannelToServerReq`. -/
def isServerRsp (cfg : Cfg) (mqOpen : ErrorCode) (m : Msg) : Bool :=
  match m.body with
  | .openChannelToServerRsp .accepted mqC2s mqS2c => hasResources cfg mqC2s mqS2c m.hndl mqOpen
  | .openChannelToServerRsp .rejectedPassiveOpen _ _ => true
  | .openChannelToServerRsp .rejectedResourceUnavailable _ _ => true
  | _ => false

/-- The message that thread W is about to handle is one that a server sends: as many init-channels
    as announced, each with its resources. -/
def serverConforms (cfg : Cfg) (s : Client) : Act → Bool
  | .run o =>
    match s.queue with
    | .logInRsp _ m attempt :: _ => countable cfg (s.out attempt) m
    | .initOpenChannel _ m cap :: _ => s.awaitsMore cap && isInitRequest cfg o.mqOpen m
    | _ => true
  | .syncReturn _ mqOpen =>
    match s.w with
    | .inSyncRequest _ _ rsp => rsp.all (isServerRsp cfg mqOpen)
    | _ => true
  | _ => true

/-- Where the session type needs a finisher, a sub-class's wrapper completes the connect, and does
    not just pass the success on. -/
def subClassConforms (cfg : Cfg) (s : Client) : Act → Bool
  | .run o =>
    !cfg.gracefulFinishRequired || !(s.queue.head?.any Task.isStage) ||
      s.connOnDoneFuncOrEmpty.any (fun f => f.kind = .wrapper) && o.hook ≠ .passOn
  | _ => true

/-- A server that conforms announces no more than can be counted and held. -/
theorem announcesCountable_of_serverConforms {a : Act} (h : serverConforms cfg s a = true) :
    announcesCountable cfg s a = true := by
  cases a with
  | run o =>
    simp only [serverConforms, announcesCountable] at h ⊢
    split at h <;> simp_all
  | _ => rfl

/-! ### No assertion fails in a connect attempt -/

/-- Session code with a result, run by a client. -/
theorem lift_safe {α : Type} {g : Session → Outcome Failure (α × Session)}
    (h : Safe (g s.toSession)) : Safe (s.lift g) := by
  simp [lift, h]

/-- Session code without a result, run by a client. -/
theorem liftUnit_safe {g : Session → Outcome Failure Session} (h : Safe (g s.toSession)) :
    Safe (s.liftUnit g) := by
  simp [liftUnit, h]

/-- There must be a handler to run. -/
theorem invokeConnOnDoneFunc_safe {e : ErrorCode} {hook : Hook}
    (h : s.connOnDoneFuncOrEmpty.isSome = true) : Safe (s.invokeConnOnDoneFunc e hook) := by
  obtain ⟨f, hf⟩ := Option.isSome_iff_exists.mp h
  simp only [invokeConnOnDoneFunc, hf]
  split <;> simp

/-- An attempt that goes on can fail. -/
theorem connectFailed_safe {e : Err} (hs : s.state = .connecting)
    (h : s.connOnDoneFuncOrEmpty.isSome = true) : Safe (s.connectFailed e) := by
  simp only [connectFailed, Outcome.failsOnly_bind]
  exact ⟨check_safe (decide_eq_true hs), fun _ _ => ⟨check_safe h, fun _ _ =>
    invokeConnOnDoneFunc_safe h⟩⟩

/-- The sub-class's wrapper leaves PEER state again. -/
theorem connectSucceeded_safe {hook : Hook} (h : s.connOnDoneFuncOrEmpty.isSome = true)
    (hsub : cfg.gracefulFinishRequired = true →
      s.connOnDoneFuncOrEmpty.any (fun f => f.kind = .wrapper) = true ∧ hook ≠ .passOn) :
    Safe (s.connectSucceeded cfg hook) := by
  simp only [connectSucceeded, Outcome.failsOnly_bind]
  refine ⟨invokeConnOnDoneFunc_safe h, fun s₁ h₁ => ?_⟩
  cases hg : cfg.gracefulFinishRequired with
  | false => simp
  | true =>
    obtain ⟨hwrap, hhook⟩ := hsub hg
    obtain ⟨f, hf⟩ := Option.isSome_iff_exists.mp h
    have hf' : (s.setState .peer).connOnDoneFuncOrEmpty = some f := hf
    have hkind : f.kind = .wrapper := by simpa [hf] using hwrap
    simp only [if_true, Outcome.failsOnly_bind]
    refine ⟨check_safe ?_, fun _ _ => by simp⟩
    simp only [invokeConnOnDoneFunc, hf', hkind] at h₁
    cases hook with
    | passOn => exact absurd rfl hhook
    | toNull e => cases h₁; rfl
    | toConnecting => cases h₁; rfl

/-- An attempt starts on an object without a channel, and gets past the CNS where no earlier one
    did, with a PID other than the sentinel. -/
theorem asyncConnect_safe {attempt : Nat} {subClass : Bool} {b : Builder}
    (hm : s.srvNamespace = [] → s.masterChannel = none)
    (hpid : ∀ pid, s.state = .null → readCns o = .ok pid → s.srvNamespace = [] ∧ pid ≠ 0) :
    Safe (s.asyncConnect cfg attempt subClass b o) := by
  simp only [asyncConnect]
  split
  · simp
  · rename_i hs
    have hs : s.state = .null := not_not.mp hs
    have hdone : ∀ t : Client, t.state = .connecting → t.connOnDoneFuncOrEmpty.isSome = true →
        ∀ e, Safe (t.connectFailed e) := fun t h₁ h₂ e => connectFailed_safe h₁ h₂
    split
    · exact hdone _ rfl rfl _
    · rename_i pid hc
      obtain ⟨hsrv, hne⟩ := hpid pid hs hc
      obtain ⟨hname, hsen⟩ := pidToString_fine pid
      simp only [Outcome.failsOnly_bind]
      refine ⟨liftUnit_safe ?_, fun s₁ h₁ => ?_⟩
      · have hb : (s.begin attempt subClass).srvNamespace = [] := hsrv
        simp [Session.setSrvNamespace, hname, hsen, hne, hb, Outcome.failsOnly_bind]
      · obtain ⟨b₁, hb₁, rfl⟩ := liftUnit_done h₁
        obtain ⟨-, -, -, rfl⟩ := Session.setSrvNamespace_done hb₁
        split
        · exact hdone _ rfl rfl _
        · simp only [Outcome.failsOnly_bind]
          refine ⟨check_safe ?_, fun _ _ => ⟨lift_safe (Session.send_safe rfl), fun r hr => ?_⟩⟩
          · show s.masterChannel.isNone = true
            rw [hm hsrv]
            rfl
          · obtain ⟨c, s₂⟩ := r
            obtain ⟨b₂, hb₂, rfl⟩ := lift_done hr
            split
            · exact hdone _ rfl rfl _
            · simp
            · simp

/-- The cli-namespace is set for the first time. -/
theorem readLogInRsp_safe {attempt : Nat} {m : Msg} (hn : s.cliNamespace = []) :
    Safe (s.readLogInRsp cfg attempt m) := by
  simp only [readLogInRsp]
  split
  · split
    · simp
    · split
      · simp
      · split
        · simp
        · split
          · simp
          · rename_i hname
            simp only [not_or] at hname
            simp only [Outcome.failsOnly_bind]
            refine ⟨liftUnit_safe ?_, fun _ _ => by simp⟩
            simp [Session.setCliNamespace, hname, hn]
  · simp

/-- The log-in response of a server that conforms is handled without a failed assertion. -/
theorem onMasterChannelLogInRsp_safe {chan attempt : Nat} {m : Msg} (hn : s.cliNamespace = [])
    (hp : Placed s) (hs : s.state = .connecting) (hm : countable cfg (s.out attempt) m = true)
    (hsub : cfg.gracefulFinishRequired = true →
      s.connOnDoneFuncOrEmpty.any (fun f => f.kind = .wrapper) = true ∧ o.hook ≠ .passOn) :
    Safe (s.onMasterChannelLogInRsp cfg chan m attempt o) := by
  obtain ⟨hdone, hch⟩ := hp.connecting hs
  simp only [onMasterChannelLogInRsp, Outcome.failsOnly_bind]
  refine ⟨readLogInRsp_safe hn, fun r hr => ?_⟩
  obtain ⟨res, s₁⟩ := r
  obtain ⟨⟨v, w, name, rfl⟩, hres⟩ := readLogInRsp_done hr
  refine ⟨check_safe (decide_eq_true hs), fun _ _ => ⟨check_safe hdone, fun _ _ => ?_⟩⟩
  cases res with
  | error e => exact invokeConnOnDoneFunc_safe hdone
  | ok p =>
    obtain ⟨n, mdt⟩ := p
    obtain ⟨x, hbody, -, hcount, -⟩ := hres n mdt rfl
    simp only [countable, hbody, Bool.and_eq_true, decide_eq_true_eq] at hm
    rw [Nat.mod_eq_of_lt hm.1] at hcount
    simp only
    split
    · rename_i h0
      simp only [Outcome.failsOnly_bind]
      refine ⟨check_safe (decide_eq_true ?_), fun _ _ =>
        ⟨lift_safe (Session.expectOpenChannelReqs_safe hch), fun c hc => ?_⟩⟩
      · exact List.length_eq_zero_iff.mp
          (by show ((s.out attempt).initChannelsByCliReq.getD []).length = 0; omega)
      · obtain ⟨ok, s₂⟩ := c
        obtain ⟨b, -, rfl⟩ := lift_done hc
        split
        · exact connectSucceeded_safe hdone hsub
        · simp
    · simp only [Outcome.failsOnly_bind]
      refine ⟨check_safe (decide_eq_true (by omega)), fun _ _ =>
        ⟨lift_safe (Session.expectOpenChannelReqs_safe hch), fun _ _ => by simp⟩⟩

/-- A channel can be made of resources that are there. -/
theorem createChannelObj_safe {b : Session} {mqC2s mqS2c : SharedName} {hndl : Option NativeHandle}
    {active : Bool} {mqOpen : ErrorCode} (h : hasResources cfg mqC2s mqS2c hndl mqOpen = true) :
    Safe (b.createChannelObj cfg mqC2s mqS2c hndl active mqOpen) := by
  simp only [hasResources, Bool.and_eq_true] at h
  simp only [Session.createChannelObj, Outcome.failsOnly_bind]
  exact ⟨check_safe h.1.1, fun _ _ => ⟨check_safe h.1.2, fun _ _ => ⟨check_safe h.2, fun _ _ =>
    by simp⟩⟩⟩

/-- The last init-channel is, where as many have come as were announced. -/
theorem initChannelsComplete_safe {m : Msg} {cap : InitCapture} {chans : Channels}
    (hdone : s.connOnDoneFuncOrEmpty.isSome = true) (hch : s.masterChannel.isSome = true)
    (hlen : chans.length = cap.nInitChannels) (hfits : Fits (s.out cap.attempt) cap)
    (hsub : cfg.gracefulFinishRequired = true →
      s.connOnDoneFuncOrEmpty.any (fun f => f.kind = .wrapper) = true ∧ o.hook ≠ .passOn) :
    Safe (s.initChannelsComplete cfg m cap chans o) := by
  simp only [initChannelsComplete, Outcome.failsOnly_bind]
  refine ⟨lift_safe (Session.undoExpectOpenChannelReqs_safe hch), fun r₁ h₁ => ?_⟩
  obtain ⟨ok₁, s₁⟩ := r₁
  obtain ⟨b₁, hb₁, rfl⟩ := lift_done h₁
  -- The channel stays in place through all four calls.
  have hch₁ := (Session.undoExpectOpenChannelReqs_frame hb₁).channel.trans hch
  split
  · simp
  · simp only [Outcome.failsOnly_bind]
    refine ⟨lift_safe (Session.expectOpenChannelReqs_safe hch₁), fun r₂ h₂ => ?_⟩
    obtain ⟨ok₂, s₂⟩ := r₂
    obtain ⟨b₂, hb₂, rfl⟩ := lift_done h₂
    have hch₂ := (Session.expectOpenChannelReqs_frame hb₂).channel.trans hch₁
    split
    · simp
    · simp only [Outcome.failsOnly_bind]
      refine ⟨lift_safe (Session.send_safe hch₂), fun r₃ h₃ => ?_⟩
      obtain ⟨c, s₃⟩ := r₃
      obtain ⟨b₃, hb₃, rfl⟩ := lift_done h₃
      split
      · simp
      -- The acknowledgement failed: the on-done handler is still there to be told.
      · exact invokeConnOnDoneFunc_safe hdone
      · simp only [emitInitChannels, Outcome.failsOnly_bind]
        refine ⟨⟨check_safe (decide_eq_true ?_), fun _ _ => ⟨check_safe ?_, fun _ _ =>
          ⟨check_safe (decide_eq_true hfits.mdt), fun _ _ => by simp⟩⟩⟩, fun s₄ h₄ => ?_⟩
        -- The assertions of the emission: enough channels, none left over, and a place for the
        -- metadata.
        · exact hfits.byCli.trans hlen.ge
        · cases hsrv : (s.out cap.attempt).initChannelsBySrvReq with
          | none =>
            have hsrv' : (((s.setSession b₁).setSession b₂).setSession b₃ |>.out
              cap.attempt).initChannelsBySrvReq = none := hsrv
            rw [hsrv']
            exact decide_eq_true (hfits.bySrv hsrv)
          | some l =>
            have hsrv' : (((s.setSession b₁).setSession b₂).setSession b₃ |>.out
              cap.attempt).initChannelsBySrvReq = some l := hsrv
            rw [hsrv']
            rfl
        · simp only [Outcome.bind_eq_done] at h₄
          obtain ⟨-, -, -, -, -, -, h₄⟩ := h₄
          cases h₄
          exact connectSucceeded_safe hdone hsub

/-- So is any init-channel of a server that conforms. -/
theorem onMasterChannelInitOpenChannel_safe {m : Msg} {cap : InitCapture} (hp : Placed s)
    (hs : s.state = .connecting) (hmore : s.awaitsMore cap = true)
    (hm : isInitRequest cfg o.mqOpen m = true) (hfits : Fits (s.out cap.attempt) cap)
    (hsub : cfg.gracefulFinishRequired = true →
      s.connOnDoneFuncOrEmpty.any (fun f => f.kind = .wrapper) = true ∧ o.hook ≠ .passOn) :
    Safe (s.onMasterChannelInitOpenChannel cfg m cap o) := by
  obtain ⟨hdone, hch⟩ := hp.connecting hs
  simp only [onMasterChannelInitOpenChannel, Outcome.failsOnly_bind]
  refine ⟨check_safe (decide_eq_true hs), fun _ _ => ⟨check_safe hdone, fun _ _ => ?_⟩⟩
  split
  · rename_i mqC2s mqS2c mdt hbody
    simp only [isInitRequest, hbody] at hm
    simp only [Outcome.failsOnly_bind]
    refine ⟨lift_safe (createChannelObj_safe hm), fun r hr => ?_⟩
    obtain ⟨obj, s₁⟩ := r
    obtain ⟨b₁, hb₁, rfl⟩ := lift_done hr
    have hch₁ := (Session.createChannelObj_frame hb₁).channel.trans hch
    refine ⟨check_safe hmore, fun _ _ => ?_⟩
    split
    · simp
    · rename_i hlen
      exact initChannelsComplete_safe hdone hch₁ (not_not.mp hlen) hfits hsub
  · rename_i hno
    exfalso
    cases hb : m.body with
    | openChannelToClientReq mqC2s mqS2c mdt => exact hno _ _ _ hb
    | _ => simp [isInitRequest, hb] at hm

/-- So is the report of an error. -/
theorem onMasterChannelError_safe {chan : Nat} {e : Err} (hp : Placed s)
    (hs : s.state = .connecting) : Safe (s.onMasterChannelError cfg chan e) := by
  simp only [onMasterChannelError]
  split
  · simp
  · simp only [hs, Outcome.failsOnly_bind]
    exact ⟨check_safe (hp.connecting hs).1, fun _ _ =>
      invokeConnOnDoneFunc_safe (hp.connecting hs).1⟩

/-- A sub-class may complete an attempt that it has taken over. -/
theorem complete_safe {e : ErrorCode} {r : Ret} (ho : s.onErrFuncSet = true) (hp : Placed s)
    (hs : s.state = .connecting) (hn : s.peerStateErrCodeOrOk = none) :
    Safe (s.completeAsyncConnectAfterCancelingPeerState cfg e r) := by
  obtain ⟨hdone, hch⟩ := hp.connecting hs
  simp only [completeAsyncConnectAfterCancelingPeerState, Outcome.failsOnly_bind]
  refine ⟨lift_safe (by simp [Session.hosed_safe ho]), fun r hr => ?_⟩
  obtain ⟨hosed, s₁⟩ := r
  obtain ⟨b₁, hb₁, rfl⟩ := lift_done hr
  simp only [Outcome.bind_eq_done] at hb₁
  obtain ⟨x, hx, hb₁⟩ := hb₁
  obtain ⟨-, rfl⟩ := Session.hosed_done hx
  cases hb₁
  refine ⟨check_safe (by rw [hn]; rfl), fun _ _ => ?_⟩
  cases e with
  | some e => exact invokeConnOnDoneFunc_safe hdone
  | none =>
    simp only [Outcome.failsOnly_bind]
    refine ⟨?_, fun s₂ h₂ => invokeConnOnDoneFunc_safe ?_⟩
    · simp only [engageFinisher]
      split
      · exact liftUnit_safe (Session.emplaceGracefulFinisher_safe hch)
      · simp
    · simp only [engageFinisher] at h₂
      split at h₂
      · obtain ⟨b₂, -, rfl⟩ := liftUnit_done h₂
        exact hdone
      · cases h₂
        exact hdone

/-- **The handlers of a connect attempt fail no assertion.** -/
theorem stage_safe {t : Task} {b : Session} (h : StageInv s)
    (hk : serverConforms cfg s (.run o) = true) (hsub : subClassConforms cfg s (.run o) = true)
    (ht : s.takeTask = .done (t, b)) (hst : t.isStage = true) :
    Safe ((s.setSession b).runTask cfg o t) := by
  obtain ⟨-, hq, hb⟩ := Session.takeTask_done ht
  have hmem : t ∈ s.queue := by rw [hq]; exact List.mem_cons_self
  have htame : s.toSession.Tame b := .takeTask ht
  have hp := h.placed.of_tame htame
  have hsub : cfg.gracefulFinishRequired = true →
      s.connOnDoneFuncOrEmpty.any (fun f => f.kind = .wrapper) = true ∧ o.hook ≠ .passOn := by
    intro hg
    simpa [subClassConforms, hq, hg, hst] using hsub
  have hstate : s.underWay = true → s.state = .connecting := by
    intro hu
    simp only [underWay, Bool.and_eq_true, decide_eq_true_eq] at hu
    exact hu.1
  cases t with
  | logInRsp chan m attempt =>
    have hlog : 0 < s.logIns := by
      simp only [Session.logIns, hq, List.countP_cons, Task.isLogInRsp, if_true]
      omega
    obtain ⟨hu, hn, -⟩ := h.logIn hlog
    simp only [serverConforms, hq] at hk
    exact onMasterChannelLogInRsp_safe (htame.cliNamespace.trans hn) hp (hstate hu) hk hsub
  | initOpenChannel chan m cap =>
    simp only [serverConforms, hq, Bool.and_eq_true] at hk
    obtain ⟨hu, hfits⟩ := h.init cap (Session.mem_inits.mpr (.inl ⟨_, hmem, rfl⟩)) hk.1
    exact onMasterChannelInitOpenChannel_safe hp (hstate hu) hk.1 hk.2 hfits hsub
  | _ => cases hst

end Client

end IpcSession
