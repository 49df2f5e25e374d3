import IpcSession.Base.Tame
import IpcSession.Client.Fresh
import IpcSession.Client.Updates

namespace IpcSession

/-!
# The stages of a connect attempt

A connect attempt goes through messages of the server: the log-in response, and one request for each
init-channel.  Their handlers assert that the attempt is still under way.

* `Client.StageInv` — a message of a stage waits only while the attempt is under way, or when all
  announced init-channels are there.
* `Client.Settled` — nothing of an attempt is to come: what every end of one leaves behind.
* `stageInv_step` — every step keeps the invariant, where a further attempt gets past the CNS only
  on an object as constructed.
-/

namespace Client

variable {cfg : Cfg} {s s' : Client} {o : ClientOracle} {passiveOpen : Bool}

/-- A connect attempt is under way, and no sub-class has taken it over. -/
def underWay (s : Client) : Bool :=
  s.state = .connecting && s.connOnDoneFuncOrEmpty.any (fun f => f.kind ≠ .takenOver)

/-- Not all of the announced init-channels are there. -/
def awaitsMore (s : Client) (cap : InitCapture) : Bool :=
  ((s.vecs.lookup cap.vec).getD []).length < cap.nInitChannels

/-- The init-channels and the metadata can be emitted into these out-arguments. -/
structure Fits (out : OutArgs) (cap : InitCapture) : Prop where
  byCli : (out.initChannelsByCliReq.getD []).length ≤ cap.nInitChannels
  bySrv : out.initChannelsBySrvReq = none →
    (out.initChannelsByCliReq.getD []).length = cap.nInitChannels
  mdt : out.mdt.isSome = cap.mdtFromSrv.isSome

/-- Outside of NULL state there is a channel, and while CONNECTING a handler to complete it with. -/
structure Placed (s : Client) : Prop where
  connecting : s.state = .connecting →
    s.connOnDoneFuncOrEmpty.isSome = true ∧ s.masterChannel.isSome = true
  peer : s.state = .peer → s.masterChannel.isSome = true

/-- What waits of a connect attempt, and what it may rely on. -/
structure StageInv (s : Client) : Prop where
  placed : Placed s
  ordered : s.Ordered
  logIn : 0 < s.logIns → s.underWay = true ∧ s.cliNamespace = [] ∧ s.inits = []
  once : s.logIns ≤ 1
  same : ∀ cap ∈ s.inits, ∀ cap' ∈ s.inits, cap = cap'
  init : ∀ cap ∈ s.inits, s.awaitsMore cap = true → s.underWay = true ∧ Fits (s.out cap.attempt) cap

/-- Nothing of a connect attempt is to come. -/
structure Settled (s : Client) : Prop where
  ordered : s.Ordered
  logIns : s.logIns = 0
  same : ∀ cap ∈ s.inits, ∀ cap' ∈ s.inits, cap = cap'
  full : ∀ cap ∈ s.inits, s.awaitsMore cap = false

/-- No attempt has begun. -/
theorem stageInv_fresh (passiveOpen : Bool) : StageInv (fresh passiveOpen) where
  placed := ⟨fun h => (by cases h), fun h => (by cases h)⟩
  ordered := ⟨fun _ h => (by cases h), .nil⟩
  logIn := fun h => (by cases h)
  once := Nat.zero_le 1
  same := fun _ h => (by cases h)
  init := fun _ h => (by cases h)

/-- Where no attempt is under way nothing is to come. -/
theorem StageInv.settled (h : StageInv s) (hu : s.underWay = false) : Settled s where
  ordered := h.ordered
  logIns := by
    by_contra hn
    have hu' := (h.logIn (Nat.pos_of_ne_zero hn)).1
    rw [hu] at hu'
    cases hu'
  same := h.same
  full := fun cap hc => by
    cases ha : s.awaitsMore cap with
    | false => rfl
    | true =>
      have hu' := (h.init cap hc ha).1
      rw [hu] at hu'
      cases hu'

namespace Settled

variable {b : Session}

/-- Where nothing of an attempt is to come, the invariant holds. -/
theorem stageInv (h : Settled s) (hp : Placed s) : StageInv s where
  placed := hp
  ordered := h.ordered
  logIn := fun hl => by rw [h.logIns] at hl; cases hl
  once := by rw [h.logIns]; exact Nat.zero_le 1
  same := h.same
  init := fun cap hc ha => by rw [h.full cap hc] at ha; cases ha

/-- Tame code brings nothing of an attempt. -/
theorem of_tame (h : Settled s) (hb : s.toSession.Tame b) : Settled (s.setSession b) where
  ordered := hb.ordered h.ordered
  logIns := Nat.le_zero.mp (h.logIns ▸ hb.logIns)
  same := fun cap hc cap' hc' => h.same cap (hb.inits cap hc) cap' (hb.inits cap' hc')
  full := fun cap hc => h.full cap (hb.inits cap hc)

/-- Nothing is posted, and the channel stays or goes. -/
theorem of_same (h : Settled s) (hq : s'.queue = s.queue)
    (hm : s'.masterChannel = s.masterChannel ∨ s'.masterChannel = none) (hv : s'.vecs = s.vecs) :
    Settled s' := by
  have hi : ∀ cap ∈ s'.inits, cap ∈ s.inits := by
    intro cap hc
    rw [Session.mem_inits, hq] at hc
    rw [Session.mem_inits]
    refine hc.imp id fun ⟨ch, x, hch, hx⟩ => ?_
    rcases hm with hm | hm
    · exact ⟨ch, x, hm ▸ hch, hx⟩
    · rw [hm] at hch
      cases hch
  have hl : s'.logIns ≤ s.logIns := by
    simp only [Session.logIns, hq]
    rcases hm with hm | hm <;> simp [hm]
  refine ⟨h.ordered.of_queue hq fun ch hch hh => ?_, Nat.le_zero.mp (h.logIns ▸ hl),
    fun cap hc cap' hc' => h.same cap (hi cap hc) cap' (hi cap' hc'), fun cap hc => ?_⟩
  · rcases hm with hm | hm
    · exact ⟨ch, hm ▸ hch, hh⟩
    · rw [hm] at hch
      cases hch
  · simpa only [awaitsMore, hv] using h.full cap (hi cap hc)

/-- An event is noted. -/
theorem record (h : Settled s) (e : Event) : Settled (s.record e) := h.of_same rfl (.inl rfl) rfl

/-- The state changes. -/
theorem setState (h : Settled s) (st : ClientState) : Settled (s.setState st) :=
  h.of_same rfl (.inl rfl) rfl

/-- The handler of the attempt changes. -/
theorem setOnDone (h : Settled s) (f : Option OnDone) : Settled (s.setOnDone f) :=
  h.of_same rfl (.inl rfl) rfl

/-- Out-arguments are filled in. -/
theorem setOut (h : Settled s) (attempt : Nat) (out : OutArgs) : Settled (s.setOut attempt out) :=
  h.of_same rfl (.inl rfl) rfl

/-- The channel goes. -/
theorem backToNull (h : Settled s) : Settled s.backToNull := h.of_same rfl (.inr rfl) rfl

end Settled

/-- NULL state is in place, whatever there is of a channel. -/
theorem Placed.null (hs : s.state = .null) : Placed s :=
  ⟨fun h => (by rw [hs] at h; cases h), fun h => (by rw [hs] at h; cases h)⟩

/-- Tame code keeps the channel. -/
theorem Placed.of_tame {b : Session} (h : Placed s) (hb : s.toSession.Tame b) :
    Placed (s.setSession b) :=
  ⟨fun hs => ⟨(h.connecting hs).1, hb.channel.trans (h.connecting hs).2⟩,
    fun hs => hb.channel.trans (h.peer hs)⟩

/-- Common session code keeps the invariant. -/
theorem StageInv.of_tame {b : Session} (h : StageInv s) (hb : s.toSession.Tame b) :
    StageInv (s.setSession b) where
  placed := h.placed.of_tame hb
  ordered := hb.ordered h.ordered
  logIn := fun hl => by
    obtain ⟨hu, hn, hi⟩ := h.logIn (lt_of_lt_of_le hl hb.logIns)
    refine ⟨hu, hb.cliNamespace.trans hn, List.eq_nil_iff_forall_not_mem.mpr fun cap hc => ?_⟩
    have hc := hb.inits cap hc
    rw [hi] at hc
    cases hc
  once := hb.logIns.trans h.once
  same := fun cap hc cap' hc' => h.same cap (hb.inits cap hc) cap' (hb.inits cap' hc')
  init := fun cap hc ha => h.init cap (hb.inits cap hc) ha

/-- Common session code is tame. -/
theorem StageInv.liftUnit {f : Session → Outcome Failure Session} (h : StageInv s)
    (hf : ∀ b, f s.toSession = .done b → s.toSession.Updates Mark.any b)
    (hd : s.liftUnit f = .done s') :
    StageInv s' := by
  obtain ⟨b, hb, rfl⟩ := liftUnit_done hd
  exact h.of_tame (hf b hb).tame

/-! ### The ends of a connect attempt -/

/-- The handler of the attempt runs. -/
theorem InvokeResult.settled {f : OnDone} {e : ErrorCode} (h : InvokeResult s f e s')
    (hs : Settled s) : Settled s' := by
  cases h with
  | plain => exact (hs.setOnDone _).record _
  | toNull => exact ((hs.setOnDone _).backToNull).record _
  | toConnecting => exact ((hs.setOnDone _).setState _).setOnDone _

/-- An error is reported from NULL state. -/
theorem InvokeResult.stageInv_null {f : OnDone} {e : Err} (h : InvokeResult s f (some e) s')
    (hs : Settled s) (hn : s.state = .null) : StageInv s' := by
  refine (h.settled hs).stageInv (.null ?_)
  cases h with
  | plain => exact hn

/-- Success is reported from PEER state. -/
theorem connectSucceeded_stageInv {hook : Hook} (hd : s.connectSucceeded cfg hook = .done s')
    (hs : Settled s) (hm : s.masterChannel.isSome = true) : StageInv s' := by
  obtain ⟨-, f, -, hr⟩ := connectSucceeded_done hd
  refine (hr.settled (hs.setState .peer)).stageInv ?_
  cases hr with
  | plain => exact ⟨fun h => (by cases h), fun _ => hm⟩
  | toNull => exact .null rfl
  | toConnecting => exact ⟨fun _ => ⟨rfl, hm⟩, fun h => (by cases h)⟩

/-! ### The first stage -/

/-- All that waits on a clean object is of the user's making. -/
theorem Clean.not_stage {t : Task} (h : Clean passiveOpen s) (ht : t ∈ s.queue) :
    t.isStage = false ∧ t.isMasterChannelError = false := by
  have hu := h.queue t ht
  cases t <;> first | exact ⟨rfl, rfl⟩ | cases hu

/-- Without a task of the log-in there is no log-in response. -/
theorem countP_isLogInRsp_eq_zero {q : List Task} (h : ∀ t ∈ q, t.isStage = false) :
    q.countP Task.isLogInRsp = 0 := by
  rw [List.countP_eq_zero]
  intro t ht
  have hst := h t ht
  simp only [Task.isStage, Bool.or_eq_false_iff] at hst
  simp [hst.1]

/-- A task that is of no stage is no init-channel. -/
theorem not_initCapture {t : Task} {cap : InitCapture} (h : t.isStage = false) :
    t.initCapture ≠ some cap := by
  intro hc
  simp [Task.isStage, hc] at h

/-- Without a message of a stage, and without a handler for one. -/
theorem not_mem_inits {b : Session} (hq : ∀ t ∈ b.queue, t.isStage = false)
    (hm : ∀ ch, b.masterChannel = some ch → ch.openReqHandler = none) (cap : InitCapture) :
    cap ∉ b.inits := by
  intro hc
  rcases Session.mem_inits.mp hc with ⟨t, ht, htc⟩ | ⟨ch, h, hch, ho, -⟩
  · exact not_initCapture (hq t ht) htc
  · rw [hm ch hch] at ho
    cases ho

/-- In NULL state no attempt is under way. -/
theorem not_underWay_of_null (hs : s.state = .null) : s.underWay = false := by
  simp [underWay, hs]

/-- A connect attempt gets past the CNS on a clean object only. -/
theorem asyncConnect_stageInv {attempt : Nat} {subClass : Bool} {b : Builder} (h : StageInv s)
    (hclean : s.srvNamespace = [] → Clean passiveOpen s)
    (hd : s.asyncConnect cfg attempt subClass b o = .done s') : StageInv s' := by
  cases asyncConnect_done hd with
  | ignored hs => exact h.of_tame (.record _ _)
  -- The first three failures leave no channel behind: the session settles in NULL state.
  | cnsFailed hs e hc =>
    have hset := h.settled (not_underWay_of_null hs)
    exact (((hset.setState .null).setOnDone none).record _).stageInv (.null rfl)
  | sockFailed hs pid hc hn hsrv e hsock =>
    have hset := h.settled (not_underWay_of_null hs)
    exact Settled.stageInv (hset.of_same rfl (.inl rfl) rfl) (.null rfl)
  | sendFailed hs pid hc hn hsrv hm t ht ch hch e hsend =>
    have hset := h.settled (not_underWay_of_null hs)
    exact Settled.stageInv (hset.of_same (by rw [ht]; rfl) (.inr rfl) (by rw [ht]; rfl)) (.null rfl)
  -- The log-in request hosed the new channel: its error is posted, nothing else is queued.
  | refused hs pid hc hn hsrv hm t ht ch hch e hsend =>
    have hset := h.settled (not_underWay_of_null hs)
    -- The namespace was empty, so the attempt starts from a clean state.
    have hq := fun u hu => ((hclean hsrv).not_stage (t := u) hu).1
    subst ht
    cases hch
    have hq' : ∀ u ∈ s.queue ++ [.masterChannelError s.nextChan e], Task.isStage u = false := by
      intro u hu
      rcases List.mem_append.mp hu with hu | hu
      · exact hq u hu
      · rw [List.mem_singleton.mp hu]
        rfl
    refine Settled.stageInv ⟨?_, ?_, ?_, ?_⟩ ⟨fun _ => ⟨rfl, rfl⟩, fun h => (by cases h)⟩
    · have hord : Session.Ordered (((s.begin attempt subClass).setSession
          (s.putSrvNamespace (pidToString pid))).makeChannel).toSession :=
        ⟨fun _ _ _ u hu => ((hclean hsrv).not_stage hu).2, h.ordered.last⟩
      exact hord.emitError
    · exact Nat.add_eq_zero_iff.mpr ⟨countP_isLogInRsp_eq_zero hq', rfl⟩
    · intro cap hc
      refine absurd hc (not_mem_inits ?_ ?_ cap)
      · exact hq'
      · intro ch' hch'
        cases hch'
        rfl
    · intro cap hc
      refine absurd hc (not_mem_inits ?_ ?_ cap)
      · exact hq'
      · intro ch' hch'
        cases hch'
        rfl
  -- The request is out: its response is the one thing awaited.
  | sent hs pid hc hn hsrv hm t ht ch hch hsend =>
    have hq := fun u hu => ((hclean hsrv).not_stage (t := u) hu).1
    have hcli : s.cliNamespace = [] :=
      congrArg (fun c : Client => c.cliNamespace) (hclean hsrv).core
    subst ht
    cases hch
    have hu : Client.underWay (((s.begin attempt subClass).setSession
        (s.putSrvNamespace (pidToString pid))).makeChannel) = true := by
      cases subClass <;> rfl
    have hlog : s.queue.countP Task.isLogInRsp = 0 := countP_isLogInRsp_eq_zero hq
    refine ⟨⟨fun _ => ⟨rfl, rfl⟩, fun h => (by cases h)⟩, ?_, fun _ => ⟨hu, hcli, ?_⟩, ?_, ?_, ?_⟩
    · exact ⟨fun _ _ _ u hu => ((hclean hsrv).not_stage hu).2, h.ordered.last⟩
    · refine List.eq_nil_iff_forall_not_mem.mpr (not_mem_inits ?_ ?_)
      · exact hq
      · intro ch' hch'
        cases hch'
        rfl
    · show s.queue.countP Task.isLogInRsp + 1 ≤ 1
      omega
    · intro cap hc
      refine absurd hc (not_mem_inits ?_ ?_ cap)
      · exact hq
      · intro ch' hch'
        cases hch'
        rfl
    · intro cap hc
      refine absurd hc (not_mem_inits ?_ ?_ cap)
      · exact hq
      · intro ch' hch'
        cases hch'
        rfl

/-! ### The second stage -/

/-- Still under way, and nothing more to come: an error of the channel will end it. -/
theorem Settled.stageInv_of_placed {b : Session} (h : Settled s) (hp : Placed s)
    (hb : s.toSession.Tame b) : StageInv (s.setSession b) :=
  (h.of_tame hb).stageInv (hp.of_tame hb)

/-- The number of init-channels that the response announces can be counted, and held. -/
def countable (cfg : Cfg) (out : OutArgs) (m : Msg) : Bool :=
  match m.body with
  | .logInRsp r =>
    let n := r.numInitChannelsBySrvReq + (out.initChannelsByCliReq.getD []).length
    n < 2 ^ 64 && n ≤ cfg.maxVecSize
  | _ => true

/-- After the log-in response the init-channels announced are to come, or nothing is. -/
theorem onMasterChannelLogInRsp_stageInv {chan attempt : Nat} {m : Msg} (h : Settled s)
    (hp : Placed s) (hi : s.inits = []) (hu : s.underWay = true)
    (hm : countable cfg (s.out attempt) m = true)
    (hd : s.onMasterChannelLogInRsp cfg chan m attempt o = .done s') : StageInv s' := by
  simp only [onMasterChannelLogInRsp, Outcome.bind_eq_done, Prod.exists,
    Outcome.check_eq_done] at hd
  obtain ⟨res, s₁, hread, -, hst, -, -, hd⟩ := hd
  obtain ⟨⟨v, w, name, rfl⟩, hres⟩ := readLogInRsp_done hread
  -- reading leaves everything here as it was
  generalize hs₁ : ({ s with
    toSession := s.putCliNamespace name, protocolNegotiator := v,
    protocolNegotiatorAux := w } : Client) = s₁ at hd
  have h₁ : Settled s₁ := by rw [← hs₁]; exact h.of_same rfl (.inl rfl) rfl
  have hp₁ : Placed s₁ := by rw [← hs₁]; exact ⟨hp.connecting, hp.peer⟩
  have hst₁ : s₁.state = .connecting := by
    rw [hs₁] at hst
    exact of_decide_eq_true hst
  have hch₁ := (hp₁.connecting hst₁).2
  have hout : ∀ a, s₁.out a = s.out a := by rw [← hs₁]; exact fun _ => rfl
  cases res with
  | error e =>
    obtain ⟨f, -, hr⟩ := invokeConnOnDoneFunc_done hd
    exact hr.stageInv_null h₁.backToNull rfl
  | ok p =>
    obtain ⟨n, mdt⟩ := p
    obtain ⟨r, hbody, -, hn, hnull⟩ := hres n mdt rfl
    simp only [countable, hbody, Bool.and_eq_true, decide_eq_true_eq] at hm
    have hn : n = r.numInitChannelsBySrvReq +
        ((s.out attempt).initChannelsByCliReq.getD []).length := by
      rw [hn]
      exact Nat.mod_eq_of_lt hm.1
    simp only at hd
    split at hd
    · simp only [Outcome.bind_eq_done, Prod.exists] at hd
      obtain ⟨-, -, ok, s₂, h₂, hd⟩ := hd
      obtain ⟨b, hb, rfl⟩ := lift_done h₂
      have ht := (Session.expectOpenChannelReqs_updates (L := Mark.any) trivial hb).tame
      split at hd
      · exact connectSucceeded_stageInv hd (Settled.of_tame (h₁.setOut _ _) ht)
          (ht.channel.trans hch₁)
      · cases hd
        exact (h₁.setOut _ _).stageInv_of_placed ⟨hp₁.connecting, hp₁.peer⟩ ht
    · simp only [Outcome.bind_eq_done, Prod.exists] at hd
      obtain ⟨-, -, ok, s₂, h₂, hd⟩ := hd
      obtain ⟨b, hb, rfl⟩ := lift_done h₂
      cases hd
      generalize hcap : InitCapture.mk n chan attempt ((s₁.out attempt).mdt.map fun _ => mdt) = cap
        at hb
      have hi₁ : s₁.inits = [] := by rw [← hs₁]; exact hi
      have hnil : ∀ c, c ∉ (s₁.setVec chan []).inits := by
        intro c hc
        have hc : c ∈ s₁.inits := hc
        rw [hi₁] at hc
        cases hc
      have hset : Settled (s₁.setVec chan []) :=
        ⟨h₁.ordered, h₁.logIns, fun c hc => absurd hc (hnil c), fun c hc => absurd hc (hnil c)⟩
      have hpl : Placed (s₁.setVec chan []) := ⟨hp₁.connecting, hp₁.peer⟩
      obtain ⟨ch, hch, hr⟩ := Session.expectOpenChannelReqs_done hb
      cases hr with
      | refusedOld hh => exact hset.stageInv_of_placed hpl (.refl _)
      | refusedNew hh e =>
        exact hset.stageInv_of_placed hpl (Session.Update.emitError hch hh e).tame
      | ok hh =>
        have hall : ∀ c ∈ ((s₁.setVec chan []).toSession.flushTo ch (.initOpenChannel cap)).inits,
            c = cap := fun c hc => Session.eq_of_mem_inits_flushTo hi₁ hc
        refine ⟨⟨fun _ => ⟨(hp₁.connecting hst₁).1, rfl⟩, fun _ => rfl⟩, ?_, fun hl => ?_,
          ?_, ?_, ?_⟩
        · refine hset.ordered.of_channel hch hh (Session.flushTo_queue _ _ _) fun t ht => ?_
          obtain ⟨m', -, rfl⟩ := List.mem_map.mp ht
          rfl
        · have hl' := (Session.Frame.flushTo hch (.initOpenChannel cap)).logIns
          rw [hset.logIns] at hl'
          have hl : 0 < Session.logIns
            ((s₁.setVec chan []).toSession.flushTo ch (.initOpenChannel cap)) := hl
          omega
        · have hl' := (Session.Frame.flushTo hch (.initOpenChannel cap)).logIns
          rw [hset.logIns] at hl'
          exact hl'.le.trans (Nat.zero_le 1)
        · intro c hc c' hc'
          rw [hall c hc, hall c' hc']
        · intro c hc _
          rw [hall c hc, ← hcap]
          have hu₁ : s₁.underWay = true := by rw [← hs₁]; exact hu
          refine ⟨hu₁, ?_, fun hsrv => ?_, ?_⟩
          · show ((s₁.out attempt).initChannelsByCliReq.getD []).length ≤ n
            rw [hout, hn]
            omega
          · have hsrv : (s₁.out attempt).initChannelsBySrvReq = none := hsrv
            show ((s₁.out attempt).initChannelsByCliReq.getD []).length = n
            have h0 : r.numInitChannelsBySrvReq = 0 := by
              by_contra h0
              exact hnull h0 (hout attempt ▸ hsrv)
            rw [hout, hn, h0, Nat.zero_add]
          · show (s₁.out attempt).mdt.isSome = ((s₁.out attempt).mdt.map fun _ => mdt).isSome
            cases (s₁.out attempt).mdt <;> rfl

/-! ### The init-channels -/

/-- After the last init-channel nothing is to come. -/
theorem initChannelsComplete_stageInv {m : Msg} {cap : InitCapture} {chans : Channels}
    (h : Settled s) (hp : Placed s) (hs : s.state = .connecting)
    (hd : s.initChannelsComplete cfg m cap chans o = .done s') : StageInv s' := by
  have hm := (hp.connecting hs).2
  simp only [initChannelsComplete, Outcome.bind_eq_done, Prod.exists] at hd
  obtain ⟨ok₁, s₁, h₁, hd⟩ := hd
  obtain ⟨b₁, hb₁, rfl⟩ := lift_done h₁
  have ht₁ := (Session.undoExpectOpenChannelReqs_updates (L := Mark.any) trivial hb₁).tame
  split at hd
  · cases hd
    exact h.stageInv_of_placed hp ht₁
  · simp only [Outcome.bind_eq_done, Prod.exists] at hd
    obtain ⟨ok₂, s₂, h₂, hd⟩ := hd
    obtain ⟨b₂, hb₂, rfl⟩ := lift_done h₂
    have ht₂ := ht₁.trans (Session.expectOpenChannelReqs_updates (L := Mark.any) trivial hb₂).tame
    split at hd
    · cases hd
      exact h.stageInv_of_placed hp ht₂
    · simp only [Outcome.bind_eq_done, Prod.exists] at hd
      obtain ⟨c, s₃, h₃, hd⟩ := hd
      obtain ⟨b₃, hb₃, rfl⟩ := lift_done h₃
      obtain ⟨ch, hch, hr⟩ := Session.send_done hb₃
      have ht₃ := ht₂.trans (hr.updates (L := Mark.any) (fun _ => trivial) hch).tame
      have hset : Settled (s.setSession b₃) := h.of_tame ht₃
      split at hd
      · cases hd
        exact h.stageInv_of_placed hp ht₃
      · obtain ⟨f, -, hr⟩ := invokeConnOnDoneFunc_done hd
        exact hr.stageInv_null (hset.setState .null) rfl
      · simp only [Outcome.bind_eq_done] at hd
        obtain ⟨s₄, h₄, hd⟩ := hd
        obtain ⟨out, rfl⟩ := emitInitChannels_frame h₄
        exact connectSucceeded_stageInv hd (hset.setOut _ _) (ht₃.channel.trans hm)

/-- After an init-channel the same ones are still to come, or nothing is. -/
theorem onMasterChannelInitOpenChannel_stageInv {m : Msg} {cap : InitCapture} (h : StageInv s)
    (hl : s.logIns = 0) (hu : s.underWay = true) (hall : ∀ c ∈ s.inits, c = cap)
    (hfits : Fits (s.out cap.attempt) cap)
    (hd : s.onMasterChannelInitOpenChannel cfg m cap o = .done s') : StageInv s' := by
  simp only [onMasterChannelInitOpenChannel, Outcome.bind_eq_done, Outcome.check_eq_done] at hd
  obtain ⟨-, hstate, -, -, hd⟩ := hd
  have hs : s.state = .connecting := of_decide_eq_true hstate
  split at hd
  · simp only [Outcome.bind_eq_done, Prod.exists] at hd
    obtain ⟨obj, s₁, h₁, -, -, hd⟩ := hd
    obtain ⟨b₁, hb₁, rfl⟩ := lift_done h₁
    have ht : s.toSession.Tame b₁ :=
      (Session.Tame.record _ _).trans (Session.createChannelObj_updates (L := Mark.any) hb₁).tame
    have hl₁ : b₁.logIns = 0 := Nat.le_zero.mp (hl ▸ ht.logIns)
    have hall₁ : ∀ c ∈ b₁.inits, c = cap := fun c hc => hall c (ht.inits c hc)
    have hp := h.placed.of_tame ht
    split at hd
    · cases hd
      refine ⟨⟨hp.connecting, hp.peer⟩, ht.ordered h.ordered, fun hl' => ?_,
        hl₁.le.trans (Nat.zero_le 1), fun c hc c' hc' => ?_, fun c hc _ => ?_⟩
      · have hl' : 0 < b₁.logIns := hl'
        omega
      · rw [hall₁ c hc, hall₁ c' hc']
      · rw [hall₁ c hc]
        exact ⟨hu, hfits⟩
    · rename_i hlen
      refine initChannelsComplete_stageInv ?_ (by exact ⟨hp.connecting, hp.peer⟩) (by exact hs) hd
      refine ⟨ht.ordered h.ordered, hl₁, fun c hc c' hc' => ?_, fun c hc => ?_⟩
      · rw [hall₁ c hc, hall₁ c' hc']
      · rw [hall₁ c hc]
        have hlen := not_not.mp hlen
        simp only [awaitsMore, setVec, List.lookup_cons_self, Option.getD_some,
          decide_eq_false_iff_not]
        omega
  · cases hd

/-! ### Errors of the channel, and the sub-class -/

/-- Behind an error of the channel nothing of a stage waits. -/
theorem onMasterChannelError_stageInv {chan : Nat} {e : Err} (h : StageInv s)
    (hq : ∀ t ∈ s.queue, t.isStage = false)
    (hd : s.onMasterChannelError cfg chan e = .done s') : StageInv s' := by
  simp only [onMasterChannelError] at hd
  split at hd
  · cases hd
    exact h
  · split at hd
    · cases hd
    · simp only [Outcome.bind_eq_done] at hd
      obtain ⟨-, -, hd⟩ := hd
      obtain ⟨f, -, hr⟩ := invokeConnOnDoneFunc_done hd
      have hnil : ∀ c, c ∉ s.backToNull.inits := by
        apply not_mem_inits
        · exact hq
        · intro ch hch
          cases hch
      refine hr.stageInv_null ⟨h.ordered.dropChannel, ?_, fun c hc => absurd hc (hnil c),
        fun c hc => absurd hc (hnil c)⟩ rfl
      exact Nat.add_eq_zero_iff.mpr ⟨countP_isLogInRsp_eq_zero hq, rfl⟩
    · exact h.liftUnit (fun b hb => Session.onMasterChannelErrorPeer_updates trivial trivial hb) hd

/-- After a sub-class's completion nothing is to come. -/
theorem complete_stageInv {e : ErrorCode} {r : Ret} (h : StageInv s) (ht : s.takenOver = true)
    (hd : s.completeAsyncConnectAfterCancelingPeerState cfg e r = .done s') : StageInv s' := by
  have hs := takenOver_state ht
  have hu : s.underWay = false := by
    simp only [takenOver, Bool.and_eq_true] at ht
    cases hf : s.connOnDoneFuncOrEmpty with
    | none => simp [underWay, hf]
    | some f => simp [underWay, hf] at ht ⊢; simp [ht.2]
  have hset := h.settled hu
  have hm := (h.placed.connecting hs).2
  simp only [completeAsyncConnectAfterCancelingPeerState, Outcome.bind_eq_done,
    Prod.exists] at hd
  obtain ⟨hosed, s₁, h₁, -, -, hd⟩ := hd
  obtain ⟨b₁, hb₁, rfl⟩ := lift_done h₁
  obtain ⟨hosed', -, hb₁⟩ := Outcome.bind_eq_done.mp hb₁
  cases hb₁
  cases e with
  | some e =>
    obtain ⟨f, -, hr⟩ := invokeConnOnDoneFunc_done hd
    exact hr.stageInv_null hset.backToNull rfl
  | none =>
    simp only [Outcome.bind_eq_done] at hd
    obtain ⟨s₂, h₂, hd⟩ := hd
    obtain ⟨f, -, rfl⟩ := invokeConnOnDoneFunc_passOn_done hd
    obtain ⟨b₂, ht₂, rfl⟩ : ∃ b₂, s.toSession.Tame b₂ ∧ s₂ = (s.setState .peer).setSession b₂ := by
      simp only [engageFinisher] at h₂
      split at h₂
      · obtain ⟨b₂, hb₂, rfl⟩ := liftUnit_done h₂
        exact ⟨b₂, (Session.emplaceGracefulFinisher_updates (L := Mark.any) trivial hb₂).tame, rfl⟩
      · cases h₂
        exact ⟨s.toSession, .refl _, rfl⟩
    have hset₂ : Settled ((s.setState .peer).setSession b₂) :=
      Settled.of_tame (s := s.setState .peer) (hset.setState .peer) ht₂
    refine Settled.stageInv ((hset₂.setOnDone none).record _) ⟨fun h => (by cases h), fun _ => ?_⟩
    exact ht₂.channel.trans hm

/-! ### Steps -/

/-- What the log-in response announces can be counted, and held, when thread W comes to it. -/
def announcesCountable (cfg : Cfg) (s : Client) : Act → Bool
  | .run _ =>
    match s.queue with
    | .logInRsp _ m attempt :: _ => countable cfg (s.out attempt) m
    | _ => true
  | _ => true

/-- The server's request for a channel is no stage of the log-in. -/
theorem onMasterChannelOpenChannelReq_tame {b b' : Session} {m : Msg}
    (hd : onMasterChannelOpenChannelReq cfg m o b = .done b') : b.Tame b' := by
  have hrec : b.Tame (b.record (.openChannelReqRan m.id)) := .record _ _
  have hrun : (b.record (.openChannelReqRan m.id)).Updates Mark.any b' :=
    onMasterChannelOpenChannelReq_session (fun _ _ => trivial) (fun _ _ _ => trivial) hd
  exact hrec.trans hrun.tame

/-- Thread W takes task `t`, and runs it. -/
theorem runTask_stageInv {t : Task} {b : Session} (h : StageInv s)
    (hclean : s.srvNamespace = [] → Clean passiveOpen s)
    (hk : announcesCountable cfg s (.run o) = true) (ht : s.takeTask = .done (t, b))
    (hd : (s.setSession b).runTask cfg o t = .done s') : StageInv s' := by
  obtain ⟨hw, hq, hb⟩ := Session.takeTask_done ht
  have hwb : b.w = .idle := by rw [hb]; exact hw
  have hmb : b.masterChannel = s.masterChannel := by rw [hb]
  have hord := h.ordered.takeTask ht
  have h₁ : StageInv (s.setSession b) := h.of_tame (.takeTask ht)
  have hi₁ : ∀ c ∈ b.inits, c ∈ s.inits := (Session.Tame.takeTask ht).inits
  have hmem : t ∈ s.queue := by rw [hq]; exact List.mem_cons_self
  cases t with
  | masterChannelError chan e =>
    exact onMasterChannelError_stageInv h₁ (h.ordered.behind ht rfl) hd
  -- The one log-in response: it leaves the queue, so no init-channel was announced yet and no other
  -- response can follow.
  | logInRsp chan m attempt =>
    have hlog : s.logIns = b.logIns + 1 := by
      simp only [Session.logIns, hq, hmb, List.countP_cons, Task.isLogInRsp, if_true]
      omega
    obtain ⟨hu, -, hi⟩ := h.logIn (by omega)
    have hone := h.once
    -- `Settled` is what holds while its handler runs: the response is gone and nothing is captured.
    have hset : Settled (s.setSession b) :=
      { ordered := hord, logIns := by rw [setSession_toSession]; omega, same := h₁.same,
        full := fun cap hc => by
          have hc := hi₁ cap hc
          rw [hi] at hc
          cases hc }
    refine onMasterChannelLogInRsp_stageInv hset h₁.placed ?_ hu ?_ hd
    · refine List.eq_nil_iff_forall_not_mem.mpr fun cap hc => ?_
      have hc := hi₁ cap hc
      rw [hi] at hc
      cases hc
    · simp only [announcesCountable, hq] at hk
      exact hk
  -- An announced init-channel: its capture is among those of the one response.
  | initOpenChannel chan m cap =>
    have hmemc : cap ∈ s.inits := Session.mem_inits.mpr (.inl ⟨_, hmem, rfl⟩)
    have hl : s.logIns = 0 := by
      by_contra hn
      have hi := (h.logIn (Nat.pos_of_ne_zero hn)).2.2
      rw [hi] at hmemc
      cases hmemc
    -- The handler's own check, `size() < n_init_channels`, passed.
    have hmore : s.awaitsMore cap = true := by
      simp only [runTask, onMasterChannelInitOpenChannel, Outcome.bind_eq_done] at hd
      obtain ⟨-, -, -, -, hd⟩ := hd
      split at hd
      · simp only [Outcome.bind_eq_done, Prod.exists, Outcome.check_eq_done] at hd
        obtain ⟨obj, s₁, h₁, -, hlt, -⟩ := hd
        obtain ⟨b₁, -, rfl⟩ := lift_done h₁
        exact hlt
      · cases hd
    obtain ⟨hu, hfits⟩ := h.init cap hmemc hmore
    have hlb := (Session.Tame.takeTask ht).logIns
    refine onMasterChannelInitOpenChannel_stageInv h₁ ?_ hu (fun c hc => ?_) hfits hd
    · exact Nat.le_zero.mp (hl ▸ hlb)
    · exact h.same c (hi₁ c hc) cap hmemc
  | openChannelReq chan m =>
    obtain ⟨b', hb', rfl⟩ := liftUnit_done hd
    exact h₁.of_tame (onMasterChannelOpenChannelReq_tame hb')
  | gracefulSessionEnd chan =>
    exact h₁.liftUnit (fun b hb => Session.onGracefulSessionEnd_updates trivial trivial hb) hd
  -- An empty namespace means that no attempt left a trace, which `Clean` states of the whole state.
  | asyncConnect attempt subClass bl =>
    refine asyncConnect_stageInv h₁ (fun hsrv => (?_ : Clean passiveOpen _)) hd
    rw [hb]
    have hsrv : s.srvNamespace = [] := by rw [hb] at hsrv; exact hsrv
    exact (hclean hsrv).of_core rfl (hclean hsrv).worker fun u hu => by
      rw [hq]
      exact List.mem_cons_of_mem _ hu
  | mdtBuilder call mdt =>
    simp only [runTask, mdtBuilder] at hd
    split at hd <;> cases hd <;>
      exact h₁.of_tame (Session.Update.giveBuilder _ fun bl h => by cases h <;> rfl).tame
  | openChannel call bl =>
    exact h₁.liftUnit (fun b' hb' =>
      Session.openChannelBody_updates (fun _ _ => trivial) (fun _ => trivial) hwb hb') hd
  | sessionToken =>
    simp only [runTask, sessionToken] at hd
    split at hd
    · cases hd
      exact h₁.of_tame (.record _ _)
    · exact h₁.liftUnit (fun b' hb' => Session.sessionToken_updates (fun _ => trivial) hb') hd
  -- The server's tasks are never run by a client.
  | logInReq => cases hd
  | acceptLogIn => cases hd
  | initHandlers => cases hd
  | preInitError => cases hd
  | dtorFinisherQuery =>
    cases hd
    exact h₁.of_tame (.of_same rfl rfl rfl rfl)
  | dtorSendEnd =>
    obtain ⟨b', hb', rfl⟩ := liftUnit_done hd
    cases Session.dtorSendEnd_task hb' with
    | sendEnd hf hu => exact h₁.of_tame (hu.tame.trans (.of_same rfl rfl rfl rfl))
  | dtorFlush =>
    cases hd
    have hflush : b.Tame (b.dtorFlush o.flushRuns) := by
      unfold Session.dtorFlush
      split <;> exact .of_same rfl rfl rfl rfl
    exact h₁.of_tame hflush

/-- Nor is what the destructor does. -/
theorem dtorAct_tame {b b' : Session} (h : b.DtorAct b') : b.Tame b' := by
  cases h with
  | flushDone | stop => exact .of_same rfl rfl rfl rfl
  | _ => exact (Session.Tame.post rfl rfl).trans (.of_same rfl rfl rfl rfl)

/-- Out-arguments are set that no attempt under way has use for. -/
theorem StageInv.setOut {attempt : Nat} {out : OutArgs} (h : StageInv s)
    (hc : s.underWay = true → ∀ cap ∈ s.inits, cap.attempt ≠ attempt) :
    StageInv (s.setOut attempt out) where
  placed := ⟨h.placed.connecting, h.placed.peer⟩
  ordered := h.ordered
  logIn := h.logIn
  once := h.once
  same := h.same
  init := fun cap hcap ha => by
    obtain ⟨hu, hfits⟩ := h.init cap hcap ha
    refine ⟨hu, ?_⟩
    have hne : (cap.attempt == attempt) = false := by simpa using hc hu cap hcap
    have hout : (s.setOut attempt out).out cap.attempt = s.out cap.attempt := by
      simp only [Client.out, setOut_mem, List.lookup_cons, hne]
    rw [hout]
    exact hfits

/-- **Every step keeps the invariant**, if the response announces what can be counted, the call of
    an attempt brings out-arguments of its own while another is under way, and a further attempt
    gets past the CNS on a clean object only. -/
theorem stageInv_step {a : Act} (h : StageInv s)
    (hclean : s.srvNamespace = [] → Clean passiveOpen s)
    (hk : announcesCountable cfg s a = true)
    (hc : ∀ call attempt out subClass, a = .connect call attempt out subClass →
      s.underWay = true → ∀ cap ∈ s.inits, cap.attempt ≠ attempt)
    (hd : step cfg s a = .done s') : StageInv s' := by
  cases a with
  | mdtBuilder call mdt =>
    simp only [step, Outcome.bind_eq_done] at hd
    obtain ⟨-, -, hd⟩ := hd
    cases hd
    exact h.of_tame (.post rfl rfl)
  -- The call renews the out-arguments of its own attempt; no capture under way is of that one.
  | connect call attempt out subClass =>
    simp only [step, connect, Outcome.bind_eq_done, Prod.exists] at hd
    obtain ⟨-, -, bl, s₁, h₁, hd⟩ := hd
    obtain ⟨b, hb, rfl⟩ := lift_done h₁
    split at hd
    · cases hd
    · simp only [Outcome.bind_eq_done] at hd
      obtain ⟨-, -, hd⟩ := hd
      cases hd
      have ht : s.toSession.Tame b := (Session.Update.takeBuilder hb).tame
      have hout : StageInv ((s.setSession b).setOut attempt out) :=
        (h.of_tame ht).setOut fun hu cap hcap =>
          hc call attempt out subClass rfl hu cap (ht.inits cap hcap)
      exact hout.of_tame (.post rfl rfl)
  | openChannel call =>
    simp only [step, Outcome.bind_eq_done] at hd
    obtain ⟨-, -, hd⟩ := hd
    exact h.liftUnit (fun b hb => openChannel_updates (fun _ _ => trivial) hb) hd
  | sessionToken =>
    simp only [step, Outcome.bind_eq_done] at hd
    obtain ⟨-, -, hd⟩ := hd
    cases hd
    exact h.of_tame (.post rfl rfl)
  | run o =>
    simp only [step, Outcome.bind_eq_done, Prod.exists] at hd
    obtain ⟨t, s₁, h₁, hd⟩ := hd
    obtain ⟨b, hb, rfl⟩ := lift_done h₁
    exact runTask_stageInv h hclean hk hb hd
  -- Thread W leaves a sync_request() of an open_channel(), which stages nothing.
  | syncReturn r mqOpen =>
    simp only [step] at hd
    split at hd
    · rename_i hw
      have hserv : s.w.isServing = true := by rw [hw]; rfl
      exact h.liftUnit (fun b hb =>
        openChannelSyncReturn_updates (fun _ _ => trivial) hserv hb) hd
    · cases hd
  | subClassSend r =>
    simp only [step, Outcome.bind_eq_done, Prod.exists] at hd
    obtain ⟨-, -, c, s₁, h₁, hd⟩ := hd
    cases hd
    obtain ⟨b, hb, rfl⟩ := lift_done h₁
    obtain ⟨ch, hm, hr⟩ := Session.send_done hb
    exact h.of_tame (hr.updates (L := Mark.any) (fun _ => trivial) hm).tame
  -- The sub-class ends the attempt it took over.
  | complete e r =>
    simp only [step, Outcome.bind_eq_done, Outcome.require_eq_done, Bool.and_eq_true] at hd
    obtain ⟨-, ⟨ht, -⟩, hd⟩ := hd
    exact complete_stageInv h ht hd
  | deliver m => exact h.liftUnit (fun b hb => Session.deliver_updates trivial hb) hd
  | channelError e => exact h.liftUnit (fun b hb => Session.channelError_updates hb) hd
  | dtorStart =>
    obtain ⟨b, hb, rfl⟩ := liftUnit_done hd
    exact h.of_tame (dtorAct_tame (Session.dtorStart_act hb))
  | dtorStep =>
    obtain ⟨b, hb, rfl⟩ := liftUnit_done hd
    exact h.of_tame (dtorAct_tame (Session.dtorStep_act hb))
  | flushDone =>
    obtain ⟨b, hb, rfl⟩ := liftUnit_done hd
    exact h.of_tame (dtorAct_tame (Session.dtorFlushDone_act hb))

end Client

end IpcSession
