import IpcSession.Client.OutArgs

namespace IpcSession

/-!
# All of the out-arguments, or none

The steps of a client that take a connect attempt to its end, and what they do with its
out-arguments.

* `Client.Noted` — what a piece of code does to the invariant of the notes; there is a lemma about
  it for each of the functions that can end an attempt.
* `Client.endsWell_of_kept` — where no log-in response makes the out-arguments change before the
  attempt fails, success sets them all, and an error leaves them alone.
* `Client.not_endsWell_expectRefused` — without init-channels they are written before the last call
  that can fail.
-/

namespace Client

variable {cfg : Cfg} {K : Prop} {s s₁ s' : Client} {o : ClientOracle} {passiveOpen : Bool}
  {n : ConnectNotes} {a : Nat}

/-- Between `s` and `s'` the attempt `a` has ended as often as is recorded, and the notes say so. -/
def Noted (K : Prop) (s s' : Client) (a : Nat) (n : ConnectNotes) : Prop :=
  ∃ es, s'.log = s.log ++ es ∧
    OutInv K s' { n with ended := n.ended ++ (es.filterMap Event.connectCode).map fun e => (a, e) }

namespace Noted

/-- No attempt ends. -/
theorem of_log (h : OutInv K s' n)
    (hl : ∃ es, s'.log = s.log ++ es ∧ es.filterMap Event.connectCode = []) : Noted K s s' a n := by
  obtain ⟨es, hl, hes⟩ := hl
  refine ⟨es, hl, ?_⟩
  rw [hes, List.map_nil, List.append_nil]
  exact h

/-- The attempt ends with `e`. -/
theorem of_end {e : ErrorCode} {l : List Event} (h : OutInv K s' (n.finish a e))
    (hs : ∃ es, l = s.log ++ es ∧ es.filterMap Event.connectCode = [])
    (hl : ∃ out, s'.log = l ++ [.connectDone e out]) : Noted K s s' a n := by
  obtain ⟨es, hs, hes⟩ := hs
  obtain ⟨out, hl⟩ := hl
  refine ⟨es ++ [.connectDone e out], by rw [hl, hs, List.append_assoc], ?_⟩
  rw [List.filterMap_append, hes]
  exact h

/-- Something is recorded before that ends no attempt. -/
theorem after (h : Noted K s₁ s' a n)
    (hs : ∃ es, s₁.log = s.log ++ es ∧ es.filterMap Event.connectCode = []) : Noted K s s' a n := by
  obtain ⟨es, hl, hinv⟩ := h
  obtain ⟨es₁, hs, hes₁⟩ := hs
  refine ⟨es₁ ++ es, by rw [hl, hs, List.append_assoc], ?_⟩
  rw [List.filterMap_append, hes₁]
  exact hinv

end Noted

/-- Session code that has nothing to do with connecting keeps the invariant. -/
theorem OutInv.steady {b : Session} (h : OutInv K s n) (hs : s.toSession.Steady b) :
    OutInv K (s.setSession b) n :=
  h.fewer hs.toFewer rfl rfl (fun _ _ => rfl) fun _ => rfl

/-- It ends no attempt. -/
theorem OutInv.noted {b : Session} (h : OutInv K s n) (hs : s.toSession.Steady b) :
    Noted K s (s.setSession b) a n :=
  .of_log (h.steady hs) hs.log

/-! ### The log-in request -/

/-- Where no message of a stage waits, the log-in response alone can be expected. -/
theorem awaits_logInRsp {b : Session} {x : Nat} (hx : b.Awaits x)
    (hq : ∀ t ∈ b.queue, t.isStage = false)
    (hm : ∀ ch, b.masterChannel = some ch → ch.openReqHandler = none) :
    ∃ ch id, b.masterChannel = some ch ∧ ch.expectsLogInRsp = some (id, x) := by
  rcases hx with ⟨chan, m, ht⟩ | he | ⟨cap, hc, -⟩
  · have hst := hq _ ht
    cases hst
  · exact he
  · exact absurd hc (not_mem_inits hq hm cap)

/-- An attempt gets past the CNS on a clean object only; there it waits for the log-in response, or
    ends at once. -/
theorem asyncConnect_noted {b : Builder} (h : OutInv K s n)
    (hclean : s.srvNamespace = [] → Clean passiveOpen s) (ha : a ∉ s.connects)
    (hend : a ∉ n.ended.map Prod.fst) (hb : a ∈ n.before.map Prod.fst)
    (hd : s.asyncConnect cfg a false b o = .done s') : Noted K s s' a n := by
  cases asyncConnect_done hd with
  | ignored hs => exact h.noted (.record rfl _)
  -- The synchronous failures end the attempt at once: the code is emitted and nothing stays behind.
  | cnsFailed hs e hc =>
    -- What is queued and expected afterwards is at most what was before.
    have hfew : s.toSession.Fewer (s.toSession.record (.connectDone (some e) (s.out a))) :=
      .of_same rfl rfl id
    exact .of_end (h.failsAtOnce hs ha hend hb e hfew rfl rfl rfl) (Session.log_same rfl) ⟨_, rfl⟩
  | sockFailed hs pid hc hn hsrv e hsock =>
    have hfew : s.toSession.Fewer ((s.toSession.putSrvNamespace (pidToString pid)).record
        (.connectDone (some e) (s.out a))) :=
      .of_same rfl rfl fun hn' => absurd hn' hn
    exact .of_end (h.failsAtOnce hs ha hend hb e hfew rfl rfl rfl) (Session.log_same rfl) ⟨_, rfl⟩
  | sendFailed hs pid hc hn hsrv hm t ht ch hch e hsend =>
    subst ht
    have hfew : s.toSession.Fewer (((((s.begin a false).setSession
        (s.putSrvNamespace (pidToString pid))).makeChannel).setSession
          ((((s.begin a false).setSession
            (s.putSrvNamespace (pidToString pid))).makeChannel).failCall
            ch e)).backToNull.toSession.record (.connectDone (some e) (s.out a))) :=
      .of_dropped rfl rfl fun hn' => absurd hn' hn
    refine .of_end (h.failsAtOnce hs ha hend hb e hfew rfl rfl rfl)
      (Session.log_snoc (e := .channelError false e) rfl rfl) ⟨_, rfl⟩
  -- The attempt has begun: the channel's own error will end it.
  | refused hs pid hc hn hsrv hm t ht ch hch e hsend =>
    -- A clean state queues nothing of an earlier attempt.
    have hq := fun u hu => ((hclean hsrv).not_stage (t := u) hu).1
    subst ht
    cases hch
    have hq' : ∀ u ∈ s.queue ++ [.masterChannelError s.nextChan e], Task.isStage u = false := by
      intro u hu
      rcases List.mem_append.mp hu with hu | hu
      · exact hq u hu
      · rw [List.mem_singleton.mp hu]
        rfl
    refine .of_log (h.begins hs ha hend hb (h.unnamed hsrv) ?_ ?_ ?_ ?_ ?_ rfl rfl)
      (Session.log_snoc (e := .channelError true e) rfl rfl)
    · refine Session.connects_append (s := s.toSession) rfl fun u hu => ?_
      rw [List.mem_singleton.mp hu]
      rfl
    · intro x bl hx
      rcases List.mem_append.mp hx with hx | hx
      · exact hx
      · cases List.mem_singleton.mp hx
    · intro x hx
      obtain ⟨ch, id, hch, he⟩ := awaits_logInRsp hx hq' fun ch hch => by cases hch; rfl
      cases hch
      cases he
    · refine List.eq_nil_iff_forall_not_mem.mpr (not_mem_inits hq' fun ch hch => ?_)
      cases hch
      rfl
    · show (s.queue ++ [Task.masterChannelError s.nextChan e]).countP Task.isLogInRsp + 0 ≤ 1
      rw [countP_isLogInRsp_eq_zero hq']
      exact Nat.zero_le 1
  -- The attempt has begun and waits for its response.
  | sent hs pid hc hn hsrv hm t ht ch hch hsend =>
    have hq := fun u hu => ((hclean hsrv).not_stage (t := u) hu).1
    subst ht
    cases hch
    refine .of_log (h.begins hs ha hend hb (h.unnamed hsrv) rfl (fun _ _ hx => hx) ?_ ?_ ?_ rfl rfl)
      (Session.log_snoc (e := .sent _) rfl rfl)
    · intro x hx
      obtain ⟨ch, id, hch, he⟩ := awaits_logInRsp hx hq fun ch hch => by cases hch; rfl
      cases hch
      cases he
      rfl
    · refine List.eq_nil_iff_forall_not_mem.mpr (not_mem_inits hq fun ch hch => ?_)
      cases hch
      rfl
    · show s.queue.countP Task.isLogInRsp + 1 ≤ 1
      rw [countP_isLogInRsp_eq_zero hq]

/-! ### The ends of an attempt that is under way -/

/-- The handler is the user's own: it is run, whatever a sub-class would do. -/
theorem InvokeResult.of_user {f : OnDone} {e : ErrorCode} (h : InvokeResult s f e s')
    (hf : f.kind = .user) : s' = (s.setOnDone none).record (.connectDone e (s.out f.attempt)) := by
  cases h with
  | plain => rfl
  | toNull hw => rw [hf] at hw; cases hw
  | toConnecting hw => rw [hf] at hw; cases hw

/-- An error ends the attempt, and the channel goes. -/
theorem backToNull_noted {e : Err} (h : OutInv K s n)
    (ha : ∀ f, s.connOnDoneFuncOrEmpty = some f → f.attempt = a)
    (hd : s.backToNull.invokeConnOnDoneFunc (some e) .passOn = .done s') : Noted K s s' a n := by
  obtain ⟨f, hf, rfl⟩ := invokeConnOnDoneFunc_passOn_done hd
  have hf : s.connOnDoneFuncOrEmpty = some f := hf
  obtain rfl := ha f hf
  have hfew : s.toSession.Fewer
      (s.toSession.dropChannel.record (.connectDone (some e) (s.backToNull.out f.attempt))) :=
    .of_dropped rfl rfl id
  exact .of_end (h.fails hf e hfew rfl rfl rfl) (Session.log_same rfl) ⟨_, rfl⟩

/-- Success ends the attempt, once the out-arguments are what they should be. -/
theorem connectSucceeded_noted {hook : Hook} {out' : OutArgs} {b : Session} {before : OutArgs}
    {r : LogInRsp} (h : OutInv K s n)
    (ha : ∀ f, s.connOnDoneFuncOrEmpty = some f → f.attempt = a) (hb : (a, before) ∈ n.before)
    (hr : (a, r) ∈ n.responses) (hemits : Emits before r n.made out')
    (hs : s.toSession.Steady b)
    (hd : ((s.setSession b).setOut a out').connectSucceeded cfg hook = .done s') :
    Noted K s s' a n := by
  obtain ⟨-, f, hf, hres⟩ := connectSucceeded_done hd
  have hf : s.connOnDoneFuncOrEmpty = some f := hf
  obtain rfl := ha f hf
  have hs' := hres.of_user (h.user f hf)
  have hfew : s.toSession.Fewer s'.toSession := by
    rw [hs']
    exact hs.toFewer.trans (.of_same rfl rfl id)
  have hinv := h.succeeds hf hb hr hemits hfew (by rw [hs']; rfl) (by rw [hs']; rfl)
      (by rw [hs']; rfl)
    (by rw [hs']; rfl)
  subst hs'
  exact .of_end hinv hs.log ⟨_, rfl⟩

/-! ### The log-in response -/

/-- A call on a channel that has not reported an error works if the environment lets it. -/
theorem expectOpenChannelReqs_ok {b b' : Session} {ch : MasterChannel} {hnd : OpenReqHandler}
    {ok : Bool}
    (hm : b.masterChannel = some ch) (hh : ch.hosed = false)
    (hd : b.expectOpenChannelReqs hnd .ok = .done (ok, b')) : ok = true := by
  simp only [Session.expectOpenChannelReqs, Session.callNoError, Session.call, hm, hh,
    Outcome.done_bind, Outcome.pure_eq, Outcome.done.injEq, Prod.mk.injEq] at hd
  exact hd.1.symm

/-- The response passes all checks. -/
def accepts (cfg : Cfg) (s : Client) (out : OutArgs) (r : LogInRsp) : Bool :=
  (computeNegotiatedProtoVer cfg.negotiate s.protocolNegotiator r.maxProtoVer).1 = none &&
    (computeNegotiatedProtoVer cfg.negotiateAux s.protocolNegotiatorAux r.maxProtoVerAux).1 =
      none &&
    (r.numInitChannelsBySrvReq = 0 || out.initChannelsBySrvReq ≠ none) &&
    r.clientNamespace ≠ [] && r.clientNamespace ≠ SharedName.sentinel

/-- Neither side asks for init-channels. -/
def asksNone (out : OutArgs) (r : LogInRsp) : Bool :=
  out.initChannelsByCliReq.getD [] = [] && r.numInitChannelsBySrvReq % 2 ^ 64 = 0

/-- The out-arguments are what they would be set to. -/
def alreadyHolds (out : OutArgs) (r : LogInRsp) : Bool :=
  out.initChannelsBySrvReq.getD [] = [] && out.mdt.all (· = some r.metadata)

/-- The channel has not reported an error, and reports none when it is told what to expect. -/
def channelExpects (s : Client) (o : ClientOracle) : Bool :=
  !s.masterChannel.any (·.hosed) && o.expect = .ok

/-- The response does not make the out-arguments change before the attempt fails. -/
def rspKeepsOut (cfg : Cfg) (s : Client) (out : OutArgs) (r : LogInRsp) (o : ClientOracle) : Bool :=
  !(accepts cfg s out r && asksNone out r) || channelExpects s o || alreadyHolds out r

/-- What is read out of the response has passed the checks. -/
theorem accepts_of_readLogInRsp {m : Msg} {r : LogInRsp} {p : Nat × Mdt}
    (hd : s.readLogInRsp cfg a m = .done (.ok p, s')) (hm : m.body = .logInRsp r) :
    accepts cfg s (s.out a) r = true := by
  simp only [readLogInRsp, hm] at hd
  split at hd
  · cases hd
  · rename_i he
    split at hd
    · cases hd
    · rename_i he'
      split at hd
      · cases hd
      · rename_i hnull
        split at hd
        · cases hd
        · rename_i hname
          simp only [not_and_or, not_or] at hnull hname
          simp only [accepts, Bool.and_eq_true, Bool.or_eq_true, decide_eq_true_eq]
          exact ⟨⟨⟨⟨he, he'⟩, hnull.imp not_not.mp id⟩, hname.1⟩, hname.2⟩

/-- What the out-arguments are set to where there are no init-channels. -/
def emptied (mdt : Mdt) (out : OutArgs) : OutArgs :=
  { out with
    initChannelsBySrvReq := out.initChannelsBySrvReq.map fun _ => []
    mdt := out.mdt.map fun _ => some mdt }

/-- It is what success is to leave. -/
theorem Emits.of_none {out : OutArgs} {r : LogInRsp} (hcli : out.initChannelsByCliReq.getD [] = [])
    (hsrv : r.numInitChannelsBySrvReq % 2 ^ 64 = 0)
    (hnull : r.numInitChannelsBySrvReq ≠ 0 → out.initChannelsBySrvReq ≠ none) :
    Emits out r [] (emptied r.metadata out) := by
  refine ⟨rfl, ?_, fun hn => ?_, ?_, rfl⟩
  · show (out.initChannelsBySrvReq.map fun _ => []).map List.length = _
    rw [Option.map_map, hsrv]
    rfl
  · by_contra h0
    exact hnull h0 hn
  · show out.initChannelsByCliReq.getD [] ++ (out.initChannelsBySrvReq.map fun _ => []).getD [] = []
    rw [hcli]
    cases out.initChannelsBySrvReq <;> rfl

/-- Out-arguments that hold all of it already stay as they are. -/
theorem emptied_of_alreadyHolds {out : OutArgs} {r : LogInRsp} (h : alreadyHolds out r = true) :
    emptied r.metadata out = out := by
  simp only [alreadyHolds, Bool.and_eq_true, decide_eq_true_eq] at h
  obtain ⟨hsrv, hmdt⟩ := h
  obtain ⟨byCli, bySrv, mdt⟩ := out
  have hsrv' : bySrv.map (fun _ => []) = bySrv := by
    cases bySrv with
    | none => rfl
    | some chans => exact congrArg some hsrv.symm
  have hmdt' : mdt.map (fun _ => some r.metadata) = mdt := by
    cases mdt with
    | none => rfl
    | some v =>
      have hv : v = some r.metadata := of_decide_eq_true hmdt
      rw [hv]
      rfl
  simp only [emptied, hsrv', hmdt']

/-- Writing what is there changes nothing. -/
theorem out_setOut_self (s : Client) (a x : Nat) : (s.setOut a (s.out a)).out x = s.out x := by
  by_cases hx : x = a
  · simp only [hx, out, setOut_mem, List.lookup_cons_self, Option.getD_some]
  · have hne : (x == a) = false := by simp [hx]
    simp only [out, setOut_mem, List.lookup_cons, hne]

/-- The handler of init-channels is set up for the attempt under way. -/
theorem announces_noted {ch : MasterChannel} {cap : InitCapture} {chan : Nat} {before : OutArgs}
    {r : LogInRsp} (h : OutInv K s n) (hf : s.connOnDoneFuncOrEmpty.isSome = true)
    (ha : ∀ f, s.connOnDoneFuncOrEmpty = some f → f.attempt = cap.attempt) (hi : s.inits = [])
    (hch : s.masterChannel = some ch)
    (hcap : Captured ((s.setVec chan []).setSession (s.flushTo ch (.initOpenChannel cap))) n
      cap before
      r) : OutInv K ((s.setVec chan []).setSession (s.flushTo ch (.initOpenChannel cap))) n := by
  obtain ⟨f, hf⟩ := Option.isSome_iff_exists.mp hf
  have hposted : ∀ t ∈ (s.flushTo ch (.initOpenChannel cap)).queue,
      t ∈ s.queue ∨ ∃ m, t = .initOpenChannel ch.id m cap := by
    intro t ht
    rw [Session.flushTo_queue, List.mem_append, List.mem_map] at ht
    exact ht.imp_right fun ⟨m, _, hm⟩ => ⟨m, hm.symm⟩
  refine h.announces hf (ha f hf).symm (List.ne_nil_of_mem hcap.response) hcap ?_ ?_ ?_ ?_
    ?_ rfl rfl
    rfl rfl
  · refine Session.connects_append (Session.flushTo_queue _ _ _) fun t ht => ?_
    obtain ⟨m, -, rfl⟩ := List.mem_map.mp ht
    rfl
  · intro x b hx
    rcases hposted _ hx with hx | ⟨m, hx⟩
    · exact hx
    · cases hx
  · intro x hx
    rcases hx with ⟨chan', m, hx⟩ | ⟨ch', id, hch', he⟩ | ⟨c, hc, rfl⟩
    · rcases hposted _ hx with hx | ⟨m', hx⟩
      · exact .inl (.inl ⟨chan', m, hx⟩)
      · cases hx
    · cases hch'
      exact .inl (.inr (.inl ⟨ch, id, hch, he⟩))
    · rw [Session.eq_of_mem_inits_flushTo hi hc]
      exact .inr rfl
  · exact fun c hc => Session.eq_of_mem_inits_flushTo hi hc
  · exact (Session.Frame.flushTo hch (.initOpenChannel cap)).logIns.le

/-- What thread W does with the log-in response. -/
theorem onMasterChannelLogInRsp_noted {chan : Nat} {m : Msg} (h : OutInv K s n)
    (ha : ∀ f, s.connOnDoneFuncOrEmpty = some f → f.attempt = a) (hi : s.inits = [])
    (hmade : n.made = []) (hr : ∀ r, m.body = .logInRsp r → (a, r) ∈ n.responses)
    (hb : n.responses ≠ [] → (a, s.out a) ∈ n.before)
    (hk : K → ∀ r, m.body = .logInRsp r → rspKeepsOut cfg s (s.out a) r o = true)
    (hd : s.onMasterChannelLogInRsp cfg chan m a o = .done s') : Noted K s s' a n := by
  simp only [onMasterChannelLogInRsp, Outcome.bind_eq_done, Prod.exists,
    Outcome.check_eq_done] at hd
  obtain ⟨res, s₁, hread, -, -, -, hsome, hd⟩ := hd
  obtain ⟨⟨v, w, name, hs₁⟩, hres⟩ := readLogInRsp_done hread
  -- reading leaves everything here as it was
  have hq : s₁.queue = s.queue := by subst hs₁; rfl
  have hch : s₁.masterChannel = s.masterChannel := by subst hs₁; rfl
  have hf₁ : s₁.connOnDoneFuncOrEmpty = s.connOnDoneFuncOrEmpty := by subst hs₁; rfl
  have hout : ∀ x, s₁.out x = s.out x := by subst hs₁; exact fun _ => rfl
  have hfew : s.toSession.Fewer s₁.toSession := .of_same hq hch (by subst hs₁; exact id)
  have h₁ : OutInv K s₁ n :=
    h.fewer hfew (by subst hs₁; rfl) hf₁ (by subst hs₁; exact fun _ _ => rfl) hout
  have hi₁ : s₁.inits = [] := by rw [Session.inits, hq, hch]; exact hi
  have ha₁ : ∀ f, s₁.connOnDoneFuncOrEmpty = some f → f.attempt = a := by rw [hf₁]; exact ha
  have hlog : ∃ es, s₁.log = s.log ++ es ∧ es.filterMap Event.connectCode = [] :=
    Session.log_same (by subst hs₁; rfl)
  suffices hs : Noted K s₁ s' a n from hs.after hlog
  cases res with
  | error e => exact backToNull_noted h₁ ha₁ hd
  | ok p =>
    obtain ⟨num, mdt⟩ := p
    obtain ⟨r, hbody, hmdt, hn, hnull⟩ := hres num mdt rfl
    have hacc := accepts_of_readLogInRsp hread hbody
    have hresp := hr r hbody
    have hne : n.responses ≠ [] := List.ne_nil_of_mem hresp
    have hb := hb hne
    rw [hout] at hd
    simp only at hd
    split at hd
    · rename_i h0
      simp only [Outcome.bind_eq_done, Prod.exists, Outcome.check_eq_done] at hd
      obtain ⟨-, hcli, ok, s₂, h₂, hd⟩ := hd
      obtain ⟨b, hexp, rfl⟩ := lift_done h₂
      have hcli : (s.out a).initChannelsByCliReq.getD [] = [] := of_decide_eq_true hcli
      have hsrv : r.numInitChannelsBySrvReq % 2 ^ 64 = 0 := by
        rw [hcli, List.length_nil, Nat.add_zero] at hn
        rw [← hn]
        exact h0
      have hst : s₁.toSession.Steady b :=
        (Session.expectOpenChannelReqs_updates (L := Mark.any) trivial hexp).steady
      split at hd
      · have hemits : Emits (s.out a) r n.made (emptied mdt (s.out a)) := by
          rw [hmade, hmdt]
          exact .of_none hcli hsrv hnull
        exact connectSucceeded_noted h₁ ha₁ hb hresp hemits hst hd
      · rename_i hok
        cases hd
        -- the out-arguments are written, and the attempt is to fail
        obtain ⟨f, hf⟩ := Option.isSome_iff_exists.mp hsome
        have hno := h₁.no_success hf
        have hnil : ∀ c, c ∉ b.inits := fun c hc => by
          have hc := hst.inits c hc
          rw [hi₁] at hc
          cases hc
        refine .of_log (h₁.carry hst.toFewer rfl rfl (fun hkeep x => ?_)
          (fun x hx => absurd hx (hno x)) fun c hc => absurd hc (hnil c)) hst.log
        have hsame : alreadyHolds (s.out a) r = true := by
          have hkeep := hk (hkeep.resolve_right hne) r hbody
          simp only [rspKeepsOut, Bool.or_eq_true, Bool.not_eq_true'] at hkeep
          rcases hkeep with (hkeep | hkeep) | hkeep
          · have hnone : asksNone (s.out a) r = true := by
              simp only [asksNone, hcli, decide_true, Bool.true_and]
              exact decide_eq_true hsrv
            rw [hacc, hnone] at hkeep
            cases hkeep
          · simp only [channelExpects, Bool.and_eq_true, Bool.not_eq_true',
              decide_eq_true_eq] at hkeep
            obtain ⟨hh, ho⟩ := hkeep
            obtain ⟨ch, hm, -⟩ := Session.expectOpenChannelReqs_done hexp
            have hm : s₁.masterChannel = some ch := hm
            rw [← hch, hm] at hh
            rw [ho] at hexp
            exact absurd (expectOpenChannelReqs_ok hm hh hexp) hok
          · exact hkeep
        have hout' : emptied mdt (s.out a) = s₁.out a := by
          rw [hmdt, emptied_of_alreadyHolds hsame, hout]
        show (s₁.setOut a (emptied mdt (s.out a))).out x = s₁.out x
        rw [hout', out_setOut_self]
    · simp only [Outcome.bind_eq_done, Prod.exists] at hd
      obtain ⟨-, -, ok, s₂, h₂, hd⟩ := hd
      obtain ⟨b, hexp, rfl⟩ := lift_done h₂
      cases hd
      obtain ⟨ch, hm, hres⟩ := Session.expectOpenChannelReqs_done hexp
      have hnil : ∀ c, c ∉ s₁.inits := fun c hc => by rw [hi₁] at hc; cases hc
      cases hres with
      | refusedOld hh =>
        exact .of_log (h₁.fewer (.refl _) rfl rfl (fun c hc => absurd hc (hnil c)) fun _ => rfl)
          (Session.log_same rfl)
      | refusedNew hh e =>
        have hst := (Session.Update.emitError hm hh e).steady
        exact .of_log (h₁.fewer hst.toFewer rfl rfl
          (fun c hc => absurd (hst.inits c hc) (hnil c)) fun _ => rfl) hst.log
      | ok hh =>
        have hcap : Captured ((s₁.setVec chan []).setSession
            (s₁.flushTo ch (.initOpenChannel ⟨num, chan, a, (s.out a).mdt.map fun _ => mdt⟩))) n
            ⟨num, chan, a, (s.out a).mdt.map fun _ => mdt⟩ (s.out a) r := by
          refine ⟨hb, hresp, hn, fun hsrv => ?_, ?_, fun _ => hout a, ?_⟩
          · by_contra h0
            exact hnull h0 hsrv
          · rw [hmdt]
          · rw [hmade]
            show (List.lookup chan ((chan, []) :: s₁.vecs)).getD [] = []
            rw [List.lookup_cons_self]
            rfl
        exact .of_log (announces_noted h₁ hsome ha₁ hi₁ hm hcap) (Session.log_same rfl)

/-! ### The init-channels -/

/-- The channel that is hooked up depends on nothing of the session but the number of the last
    one. -/
theorem createChannelObj_same {b b₁ : Session} (b' : Session) {mqC2s mqS2c : SharedName}
    {hndl : Option NativeHandle} {mqOpen : ErrorCode} {obj : ChannelObj}
    (hd : b.createChannelObj cfg mqC2s mqS2c hndl false mqOpen = .done (obj, b₁))
    (hl : b'.lastPassivelyOpenedChannelId = b.lastPassivelyOpenedChannelId) :
    ∃ b₁', b'.createChannelObj cfg mqC2s mqS2c hndl false mqOpen = .done (obj, b₁') := by
  simp only [Session.createChannelObj, Session.nextNickname, Outcome.bind_eq_done,
    Outcome.check_eq_done] at hd ⊢
  obtain ⟨u, hu, v, hv, w, hw, hd⟩ := hd
  cases hd
  exact ⟨_, u, hu, v, hv, w, hw, by rw [hl]; rfl⟩

/-- What is emitted, and the assertions that are made of it. -/
theorem emitInitChannels_done {cap : InitCapture} {chans : Channels}
    (hd : s.emitInitChannels cap chans = .done s') :
    ((s.out cap.attempt).initChannelsByCliReq.getD []).length ≤ chans.length ∧
      s' = s.setOut cap.attempt {
        initChannelsByCliReq := (s.out cap.attempt).initChannelsByCliReq.map fun _ =>
          chans.take ((s.out cap.attempt).initChannelsByCliReq.getD []).length
        initChannelsBySrvReq := (s.out cap.attempt).initChannelsBySrvReq.map fun _ =>
          chans.drop ((s.out cap.attempt).initChannelsByCliReq.getD []).length
        mdt := (s.out cap.attempt).mdt.map fun _ => cap.mdtFromSrv } ∧
      ((s.out cap.attempt).initChannelsBySrvReq = none →
        ((s.out cap.attempt).initChannelsByCliReq.getD []).length = cap.nInitChannels) := by
  simp only [emitInitChannels, Outcome.bind_eq_done, Outcome.check_eq_done] at hd
  obtain ⟨-, hle, -, hnull, -, -, hd⟩ := hd
  cases hd
  refine ⟨of_decide_eq_true hle, rfl, fun hn => ?_⟩
  simpa [hn] using hnull

/-- Where all init-channels are there, what is emitted is what success is to leave. -/
theorem Emits.of_channels {cap : InitCapture} {before : OutArgs} {r : LogInRsp}
    (h : Captured s n cap before r)
    (hlen : ((s.vecs.lookup cap.vec).getD []).length = cap.nInitChannels)
    (hle : (before.initChannelsByCliReq.getD []).length ≤ cap.nInitChannels)
    (hnull : before.initChannelsBySrvReq = none →
      (before.initChannelsByCliReq.getD []).length = cap.nInitChannels) :
    Emits before r n.made {
      initChannelsByCliReq := before.initChannelsByCliReq.map fun _ =>
        ((s.vecs.lookup cap.vec).getD []).take (before.initChannelsByCliReq.getD []).length
      initChannelsBySrvReq := before.initChannelsBySrvReq.map fun _ =>
        ((s.vecs.lookup cap.vec).getD []).drop (before.initChannelsByCliReq.getD []).length
      mdt := before.mdt.map fun _ => cap.mdtFromSrv } := by
  have hcount := h.count
  have hchans := h.channels
  -- What is left is about one list and its first `k` elements.
  generalize (s.vecs.lookup cap.vec).getD [] = chans at hlen hchans ⊢
  generalize hbyCli : (before.initChannelsByCliReq.getD []).length = k at hle hnull hcount ⊢
  refine ⟨?_, ?_, h.bySrvNull, ?_, ?_⟩
  · cases hb : before.initChannelsByCliReq with
    | none => rfl
    | some cs =>
      rw [hb] at hbyCli
      have hbyCli : cs.length = k := hbyCli
      simp only [Option.map_some, List.length_take, hlen, hbyCli, Nat.min_eq_left hle]
  · rw [Option.map_map]
    refine Option.map_congr fun _ _ => ?_
    show (chans.drop k).length = _
    rw [List.length_drop, hlen, hcount]
    omega
  · rw [← hchans]
    cases hc : before.initChannelsByCliReq with
    | none =>
      rw [hc] at hbyCli
      cases hbyCli
      cases hs : before.initChannelsBySrvReq with
      | none =>
        -- Neither container: the two counts are zero and so is the list.
        have hz := hnull hs
        exact (List.eq_nil_of_length_eq_zero (hlen.trans hz.symm)).symm
      | some _ => rfl
    | some cs =>
      cases hs : before.initChannelsBySrvReq with
      | none =>
        -- No by-srv container: the first `k` are all there are.
        have hk := hnull hs
        show chans.take k ++ [] = chans
        rw [List.append_nil, List.take_of_length_le (by omega)]
      | some _ => exact List.take_append_drop k chans
  · rw [h.mdt]
    cases before.mdt <;> rfl

/-- The last init-channel is there. -/
theorem initChannelsComplete_noted {m : Msg} {cap : InitCapture} {chans : Channels}
    {before : OutArgs} {r : LogInRsp} (h : OutInv K s n)
    (ha : ∀ f, s.connOnDoneFuncOrEmpty = some f → f.attempt = cap.attempt)
    (hsome : s.connOnDoneFuncOrEmpty.isSome = true) (hcap : Captured s n cap before r)
    (hvec : (s.vecs.lookup cap.vec).getD [] = chans) (hlen : chans.length = cap.nInitChannels)
    (hd : s.initChannelsComplete cfg m cap chans o = .done s') : Noted K s s' cap.attempt n := by
  subst hvec
  simp only [initChannelsComplete, Outcome.bind_eq_done, Prod.exists] at hd
  obtain ⟨ok₁, s₁, h₁, hd⟩ := hd
  obtain ⟨b₁, hb₁, rfl⟩ := lift_done h₁
  have hst₁ := (Session.undoExpectOpenChannelReqs_updates (L := Mark.any) trivial hb₁).steady
  split at hd
  · cases hd
    exact h.noted hst₁
  · simp only [Outcome.bind_eq_done, Prod.exists] at hd
    obtain ⟨ok₂, s₂, h₂, hd⟩ := hd
    obtain ⟨b₂, hb₂, rfl⟩ := lift_done h₂
    have hst₂ := hst₁.trans
      (Session.expectOpenChannelReqs_updates (L := Mark.any) trivial hb₂).steady
    split at hd
    · cases hd
      exact h.noted hst₂
    · simp only [Outcome.bind_eq_done, Prod.exists] at hd
      obtain ⟨c, s₃, h₃, hd⟩ := hd
      obtain ⟨b₃, hb₃, rfl⟩ := lift_done h₃
      obtain ⟨ch, hch, hres⟩ := Session.send_done hb₃
      have hst₃ := hst₂.trans (hres.updates (L := Mark.any) (fun _ => trivial) hch).steady
      split at hd
      · cases hd
        exact h.noted hst₃
      -- The acknowledgement failed: the attempt ends with an error and its memory untouched.
      · rename_i e
        obtain ⟨f, hf, rfl⟩ := invokeConnOnDoneFunc_passOn_done hd
        have hf : s.connOnDoneFuncOrEmpty = some f := hf
        rw [← ha f hf]
        refine .of_end (h.fails hf e ?_ rfl rfl rfl) hst₃.log ⟨_, rfl⟩
        exact hst₃.toFewer.trans (.of_same rfl rfl id)
      · simp only [Outcome.bind_eq_done] at hd
        obtain ⟨s₄, h₄, hd⟩ := hd
        obtain ⟨hle, rfl, hnull⟩ := emitInitChannels_done h₄
        obtain ⟨f, hf⟩ := Option.isSome_iff_exists.mp hsome
        -- Until this very step the out-arguments hold what they held before the call.
        have hbefore : before = s.out cap.attempt := (hcap.out (h.no_success hf _)).symm
        have hb := hbefore ▸ hcap.call
        have hemits := Emits.of_channels hcap hlen (by rw [hbefore, ← hlen]; exact hle)
          (by rw [hbefore]; exact hnull)
        rw [hbefore] at hemits
        exact connectSucceeded_noted h ha hb hcap.response hemits hst₃ hd

/-- What thread W does with an init-channel. -/
theorem onMasterChannelInitOpenChannel_noted {m : Msg} {cap : InitCapture} {before : OutArgs}
    {r : LogInRsp} {objs : List ChannelObj} (h : OutInv K s n)
    (ha : ∀ f, s.connOnDoneFuncOrEmpty = some f → f.attempt = cap.attempt)
    (hcap : Captured s n cap before r) (hall : ∀ c ∈ s.inits, c = cap)
    (hobjs : ∀ mqC2s mqS2c mdt, m.body = .openChannelToClientReq mqC2s mqS2c mdt → ∀ obj b,
      s.createChannelObj cfg mqC2s mqS2c m.hndl false o.mqOpen = .done (obj, b) → objs = [obj])
    (hd : s.onMasterChannelInitOpenChannel cfg m cap o = .done s') :
    Noted K s s' cap.attempt { n with made := n.made ++ objs } := by
  simp only [onMasterChannelInitOpenChannel, Outcome.bind_eq_done, Outcome.check_eq_done] at hd
  obtain ⟨-, -, -, hsome, hd⟩ := hd
  split at hd
  · rename_i mqC2s mqS2c mdt hbody
    simp only [Outcome.bind_eq_done, Prod.exists] at hd
    obtain ⟨obj, s₁, h₁, -, -, hd⟩ := hd
    obtain ⟨b₁, hb₁, rfl⟩ := lift_done h₁
    have hst : s.toSession.Steady b₁ := (Session.Steady.record rfl _).trans
      (Session.createChannelObj_updates (L := Mark.any) hb₁).steady
    obtain ⟨b', hb'⟩ := createChannelObj_same s.toSession hb₁ rfl
    rw [hobjs mqC2s mqS2c mdt hbody obj b' hb']
    obtain ⟨f, hf⟩ := Option.isSome_iff_exists.mp hsome
    have hcap₁ : Captured (s.setSession b₁) n cap before r :=
      ⟨hcap.call, hcap.response, hcap.count, hcap.bySrvNull, hcap.mdt, hcap.out, hcap.channels⟩
    obtain ⟨hinv, hcap₂⟩ := (h.steady hst).hooksUp (f := f) hf hcap₁
      (fun c hc => hall c (hst.inits c hc)) obj
    suffices hs : Noted K ((s.setSession b₁).setVec cap.vec
        (((s.setSession b₁).vecs.lookup cap.vec).getD [] ++ [some obj])) s' cap.attempt
          (n.hookUp obj) from
      hs.after hst.log
    split at hd
    · cases hd
      exact .of_log hinv (Session.log_same rfl)
    · rename_i hlen
      refine initChannelsComplete_noted hinv ha hsome hcap₂ ?_ (not_not.mp hlen) hd
      rw [setVec_vecs, List.lookup_cons_self]
      rfl
  · cases hd

/-! ### Errors of the channel -/

/-- The report of the channel's error leaves the out-arguments alone. -/
theorem onMasterChannelError_noted {chan : Nat} {e : Err} (h : OutInv K s n)
    (ha : ∀ f, s.connOnDoneFuncOrEmpty = some f → f.attempt = a)
    (hd : s.onMasterChannelError cfg chan e = .done s') : Noted K s s' a n := by
  simp only [onMasterChannelError] at hd
  split at hd
  · cases hd
    exact .of_log h (Session.log_same rfl)
  · split at hd
    · cases hd
    · simp only [Outcome.bind_eq_done] at hd
      obtain ⟨-, -, hd⟩ := hd
      exact backToNull_noted h ha hd
    · obtain ⟨b, hb, rfl⟩ := liftUnit_done hd
      exact h.noted
        (Session.onMasterChannelErrorPeer_updates (L := Mark.any) trivial trivial hb).steady

/-! ### Steps -/

/-- Thread U calls `sync_connect()` of a client that no sub-class has its wrapper in, under a name
    that no earlier call had. -/
def vanillaCall (n : ConnectNotes) : Act → Bool
  | .connect _ attempt _ subClass => !subClass && attempt ∉ n.before.map Prod.fst
  | _ => true

/-- Where thread W comes to the log-in response, that does not make the out-arguments change before
    the attempt fails. -/
def keepsOut (cfg : Cfg) (s : Client) : Act → Bool
  | .run o =>
    match s.queue with
    | .logInRsp _ m attempt :: _ =>
      match m.body with
      | .logInRsp r => rspKeepsOut cfg s (s.out attempt) r o
      | _ => true
    | _ => true
  | _ => true

/-- The notes of a step, but for the ends of attempts. -/
def withStep (cfg : Cfg) (s : Client) (act : Act) (n : ConnectNotes) : ConnectNotes :=
  { before := n.before ++ called act
    responses := n.responses ++ s.responded act
    made := n.made ++ s.hookedUp cfg act
    ended := n.ended }

/-- What is noted of a step keeps the invariant. -/
theorem Noted.outInv {act : Act} (hd : step cfg s act = .done s')
    (h : Noted K s s' (s.ending act) (withStep cfg s act n)) :
    OutInv K s' (takeConnectNotes cfg s act n) := by
  obtain ⟨es, hl, hinv⟩ := h
  rw [takeConnectNotes_eq hd hl rfl]
  exact hinv

/-- Where nothing is called, handled or hooked up, there is nothing else to note. -/
theorem withStep_eq {act : Act} (hc : called act = []) (hr : s.responded act = [])
    (hm : s.hookedUp cfg act = []) : withStep cfg s act n = n := by
  simp only [withStep, hc, hr, hm, List.append_nil]

/-- The handler that is set is that of the attempt that ends. -/
theorem ending_eq {f : OnDone} (o : ClientOracle)
    (hq : ∀ t, s.queue.head? = some t → t.connectAttempt = none)
    (hf : s.connOnDoneFuncOrEmpty = some f) : f.attempt = s.ending (.run o) := by
  simp only [ending, hf, Option.map_some, Option.getD_some]
  split
  · rename_i attempt _ _ _ hs
    have hh := hq _ (by rw [hs]; rfl)
    cases hh
  · rfl

/-- The server's request for a channel is no matter of an attempt. -/
theorem onMasterChannelOpenChannelReq_steady {b b' : Session} {m : Msg}
    (hd : onMasterChannelOpenChannelReq cfg m o b = .done b') : b.Steady b' := by
  have hrec : b.Steady (b.record (.openChannelReqRan m.id)) := .record rfl _
  have hrun : (b.record (.openChannelReqRan m.id)).Updates Mark.any b' :=
    onMasterChannelOpenChannelReq_session (fun _ _ => trivial) (fun _ _ _ => trivial) hd
  exact hrec.trans hrun.steady

/-- Thread W takes the log-in response. -/
theorem logInRsp_outInv {chan attempt : Nat} {m : Msg} {b : Session} (h : OutInv K s n)
    (hclean : s.srvNamespace = [] → Clean passiveOpen s) (hk : K → keepsOut cfg s (.run o) = true)
    (ht : s.takeTask = .done (.logInRsp chan m attempt, b))
    (hd : (s.setSession b).onMasterChannelLogInRsp cfg chan m attempt o = .done s') :
    Noted K s s' (s.ending (.run o)) (withStep cfg s (.run o) n) := by
  obtain ⟨-, hq, hb⟩ := Session.takeTask_done ht
  have hst := Session.Steady.takeTask ht
  have h₁ := h.steady hst
  have hmem : .logInRsp chan m attempt ∈ s.queue := by rw [hq]; exact List.mem_cons_self
  have hlog : s.logIns = b.logIns + 1 := by
    have hm : b.masterChannel = s.masterChannel := by rw [hb]
    simp only [Session.logIns, hq, hm, List.countP_cons, Task.isLogInRsp, if_true]
    omega
  have hone := h.logIns
  -- The response counts itself, so none was noted before.
  have hnone : n.responses = [] := List.eq_nil_of_length_eq_zero (by omega)
  obtain ⟨hi, hmade⟩ := h.nothing hnone
  have hi₁ : b.inits = [] := List.eq_nil_iff_forall_not_mem.mpr fun cap hc => by
    have hc := hst.inits cap hc
    rw [hi] at hc
    cases hc
  -- A response can be queued only after a request, hence under a namespace.
  have hsrv : s.srvNamespace ≠ [] := by
    intro hn
    have hu := (hclean hn).queue _ hmem
    cases hu
  have hsrv₁ : b.srvNamespace ≠ [] := fun hn => hsrv (hst.srvNamespace hn)
  obtain ⟨f, hf⟩ : ∃ f, s.connOnDoneFuncOrEmpty = some f := by
    simp only [onMasterChannelLogInRsp, Outcome.bind_eq_done, Prod.exists,
      Outcome.check_eq_done] at hd
    obtain ⟨res, s₁, hread, -, -, -, hsome, -⟩ := hd
    obtain ⟨⟨v, w, name, rfl⟩, -⟩ := readLogInRsp_done hread
    exact Option.isSome_iff_exists.mp hsome
  -- The on-done handler in place is of the attempt that asked.
  have hown : ∀ g, s.connOnDoneFuncOrEmpty = some g → g.attempt = attempt :=
    fun g hg => h.owner attempt g (.inl ⟨chan, m, hmem⟩) hg
  have hend : s.ending (.run o) = attempt := by
    rw [← ending_eq o (fun t htq => ?_) hf, hown f hf]
    rw [hq] at htq
    cases htq
    rfl
  have hb' := h.out_eq (.inr hnone) hf
  rw [hown f hf] at hb'
  have hhook : s.hookedUp cfg (.run o) = [] := by simp only [hookedUp, hq]
  rw [hend]
  cases hbody : m.body with
  -- The note of the response comes first, as of the step; then the handler's effects under it.
  | logInRsp r =>
    have hnotes : withStep cfg s (.run o) n = n.respond attempt r := by
      simp only [withStep, called, responded, hq, hbody, hhook, List.append_nil,
        ConnectNotes.respond]
    rw [hnotes]
    have h₂ : OutInv K (s.setSession b) (n.respond attempt r) :=
      h₁.responds (by rw [setSession_toSession]; omega) hnone hsrv₁ attempt r
    refine (onMasterChannelLogInRsp_noted h₂ hown hi₁ hmade (fun r' hr' => ?_) (fun _ => hb')
      (fun hK r' hr' => ?_) hd).after hst.log
    · rw [hbody] at hr'
      cases hr'
      exact List.mem_append_right _ (List.mem_singleton_self _)
    · rw [hbody] at hr'
      cases hr'
      have hm : b.masterChannel = s.masterChannel := by rw [hb]
      have hsame : channelExpects (s.setSession b) o = channelExpects s o := by
        simp only [channelExpects, setSession_toSession, hm]
      have hk := hk hK
      simp only [keepsOut, hq, hbody] at hk
      rw [rspKeepsOut, hsame]
      exact hk
  -- Not a log-in response at all: the handler reports it and nothing is noted.
  | _ =>
    have hnotes : withStep cfg s (.run o) n = n := by
      refine withStep_eq rfl ?_ hhook
      simp only [responded, hq, hbody]
    rw [hnotes]
    refine (onMasterChannelLogInRsp_noted h₁ hown hi₁ hmade (fun r' hr' => ?_) (fun _ => hb')
      (fun hK r' hr' => ?_) hd).after hst.log
    · rw [hbody] at hr'
      cases hr'
    · rw [hbody] at hr'
      cases hr'

/-- Thread W takes a request for an init-channel. -/
theorem initOpenChannel_outInv {chan : Nat} {m : Msg} {cap : InitCapture} {b : Session}
    (h : OutInv K s n) (ht : s.takeTask = .done (.initOpenChannel chan m cap, b))
    (hd : (s.setSession b).onMasterChannelInitOpenChannel cfg m cap o = .done s') :
    Noted K s s' (s.ending (.run o)) (withStep cfg s (.run o) n) := by
  obtain ⟨-, hq, hb⟩ := Session.takeTask_done ht
  have hst := Session.Steady.takeTask ht
  have h₁ := h.steady hst
  have hmem : .initOpenChannel chan m cap ∈ s.queue := by rw [hq]; exact List.mem_cons_self
  have hcapi : cap ∈ s.inits := Session.mem_inits.mpr (.inl ⟨_, hmem, rfl⟩)
  obtain ⟨before, r, hcap⟩ := h.captured cap hcapi
  have hcap₁ : Captured (s.setSession b) n cap before r :=
    ⟨hcap.call, hcap.response, hcap.count, hcap.bySrvNull, hcap.mdt, hcap.out, hcap.channels⟩
  have hall : ∀ c ∈ b.inits, c = cap := fun c hc => h.same c (hst.inits c hc) cap hcapi
  obtain ⟨f, hf⟩ : ∃ f, s.connOnDoneFuncOrEmpty = some f := by
    simp only [onMasterChannelInitOpenChannel, Outcome.bind_eq_done, Outcome.check_eq_done] at hd
    obtain ⟨-, -, -, hsome, -⟩ := hd
    exact Option.isSome_iff_exists.mp hsome
  have hown : ∀ g, s.connOnDoneFuncOrEmpty = some g → g.attempt = cap.attempt :=
    fun g hg => h.owner cap.attempt g (.inr (.inr ⟨cap, hcapi, rfl⟩)) hg
  have hend : s.ending (.run o) = cap.attempt := by
    rw [← ending_eq o (fun t htq => ?_) hf, hown f hf]
    rw [hq] at htq
    cases htq
    rfl
  have hnotes : withStep cfg s (.run o)
      n = { n with made := n.made ++ s.hookedUp cfg (.run o) } := by
    simp only [withStep, called, responded, hq, List.append_nil]
  rw [hend, hnotes]
  refine (onMasterChannelInitOpenChannel_noted h₁ hown hcap₁ hall ?_ hd).after hst.log
  intro mqC2s mqS2c mdt hbody obj b' hobj
  obtain ⟨b'', hobj'⟩ := createChannelObj_same s.toSession hobj (by rw [setSession_toSession, hb])
  simp only [hookedUp, hq, hbody, hobj']

/-- Thread W starts a connect attempt. -/
theorem asyncConnect_outInv {attempt : Nat} {subClass : Bool} {bl : Builder} {b : Session}
    (h : OutInv K s n) (hclean : s.srvNamespace = [] → Clean passiveOpen s)
    (ht : s.takeTask = .done (.asyncConnect attempt subClass bl, b))
    (hd : (s.setSession b).asyncConnect cfg attempt subClass bl o = .done s') :
    Noted K s s' (s.ending (.run o)) (withStep cfg s (.run o) n) := by
  obtain ⟨-, hq, hb⟩ := Session.takeTask_done ht
  have hst := Session.Steady.takeTask ht
  have hmem : .asyncConnect attempt subClass bl ∈ s.queue := by rw [hq]; exact List.mem_cons_self
  have hvan : subClass = false := by
    cases subClass with
    | false => rfl
    | true => exact absurd hmem (h.vanilla attempt bl)
  subst hvan
  have hcon : s.connects = attempt :: b.connects := by
    simp only [Session.connects, hq, List.filterMap_cons, Task.connectAttempt]
  have hin : attempt ∈ s.connects := by rw [hcon]; exact List.mem_cons_self
  have hnodup := h.connects
  rw [hcon] at hnodup
  have hend : s.ending (.run o) = attempt := by simp only [ending, hq]
  have hnotes : withStep cfg s (.run o) n = n :=
    withStep_eq rfl (by simp only [responded, hq]) (by simp only [hookedUp, hq])
  rw [hend, hnotes]
  refine (asyncConnect_noted (h.steady hst) (fun hsrv => (?_ : Clean passiveOpen _))
    (List.nodup_cons.mp hnodup).1 (h.toStart _ hin) (h.known _ (.inl hin)) hd).after hst.log
  rw [hb]
  have hsrv : s.srvNamespace = [] := by rw [hb] at hsrv; exact hsrv
  exact (hclean hsrv).of_core rfl (hclean hsrv).worker fun u hu => by
    rw [hq]
    exact List.mem_cons_of_mem _ hu

/-- Thread W takes task `t`, and runs it. -/
theorem runTask_outInv {t : Task} {b : Session} (h : OutInv K s n)
    (hclean : s.srvNamespace = [] → Clean passiveOpen s) (hk : K → keepsOut cfg s (.run o) = true)
    (ht : s.takeTask = .done (t, b)) (hd : (s.setSession b).runTask cfg o t = .done s') :
    Noted K s s' (s.ending (.run o)) (withStep cfg s (.run o) n) := by
  obtain ⟨hw, hq, hb⟩ := Session.takeTask_done ht
  have hst := Session.Steady.takeTask ht
  have h₁ := h.steady hst
  have hwb : b.w = .idle := by rw [hb]; exact hw
  -- A task that takes no response and hooks up no channel adds nothing to the notes.
  have quiet : s.responded (.run o) = [] → s.hookedUp cfg (.run o) = [] →
      ∀ b', b.Steady b' → Noted K s (s.setSession b') (s.ending (.run o))
        (withStep cfg s (.run o) n) := by
    intro hr hm b' hb'
    rw [withStep_eq rfl hr hm]
    exact h.noted (hst.trans hb')
  cases t with
  | asyncConnect attempt subClass bl => exact asyncConnect_outInv h hclean ht hd
  | logInRsp chan m attempt => exact logInRsp_outInv h hclean hk ht hd
  | initOpenChannel chan m cap => exact initOpenChannel_outInv h ht hd
  -- The error may end the attempt under way, the one `ending` names.
  | masterChannelError chan e =>
    rw [withStep_eq rfl (by simp only [responded, hq]) (by simp only [hookedUp, hq])]
    refine (onMasterChannelError_noted h₁ (fun f hf => ?_) hd).after hst.log
    refine ending_eq o (fun t htq => ?_) hf
    rw [hq] at htq
    cases htq
    rfl
  | openChannelReq chan m =>
    obtain ⟨b', hb', rfl⟩ := liftUnit_done hd
    exact quiet (by simp only [responded, hq]) (by simp only [hookedUp, hq]) b'
      (onMasterChannelOpenChannelReq_steady hb')
  | gracefulSessionEnd chan =>
    obtain ⟨b', hb', rfl⟩ := liftUnit_done hd
    exact quiet (by simp only [responded, hq]) (by simp only [hookedUp, hq]) b'
      (Session.onGracefulSessionEnd_updates (L := Mark.any) trivial trivial hb').steady
  | mdtBuilder call mdt =>
    simp only [runTask, mdtBuilder] at hd
    split at hd <;> cases hd <;>
      exact quiet (by simp only [responded, hq]) (by simp only [hookedUp, hq]) _
        (Session.Update.giveBuilder _ fun bl h => by cases h <;> rfl).steady
  | openChannel call bl =>
    obtain ⟨b', hb', rfl⟩ := liftUnit_done hd
    exact quiet (by simp only [responded, hq]) (by simp only [hookedUp, hq]) b'
      (Session.openChannelBody_updates (L := Mark.any) (fun _ _ => trivial) (fun _ => trivial) hwb
        hb').steady
  | sessionToken =>
    simp only [runTask, sessionToken] at hd
    split at hd
    · cases hd
      exact quiet (by simp only [responded, hq]) (by simp only [hookedUp, hq]) _ (.record rfl b)
    · obtain ⟨b', hb', rfl⟩ := liftUnit_done hd
      exact quiet (by simp only [responded, hq]) (by simp only [hookedUp, hq]) b'
        (Session.sessionToken_updates (L := Mark.any) (fun _ => trivial) hb').steady
  -- The destructor's tasks end no attempt and touch no argument.
  | dtorFinisherQuery =>
    cases hd
    exact quiet (by simp only [responded, hq]) (by simp only [hookedUp, hq]) _
      (Session.DtorTask.steady .finisherQuery)
  | dtorSendEnd =>
    obtain ⟨b', hb', rfl⟩ := liftUnit_done hd
    exact quiet (by simp only [responded, hq]) (by simp only [hookedUp, hq]) b'
      (Session.dtorSendEnd_task hb').steady
  | dtorFlush =>
    cases hd
    exact quiet (by simp only [responded, hq]) (by simp only [hookedUp, hq]) _
      (Session.dtorFlush_task _).steady
  | logInReq => cases hd
  | acceptLogIn => cases hd
  | initHandlers => cases hd
  | preInitError => cases hd

/-- No sub-class takes a vanilla client's connect over. -/
theorem OutInv.not_takenOver (h : OutInv K s n) : s.takenOver = false := by
  simp only [takenOver, Bool.and_eq_false_iff]
  refine .inr ?_
  cases hf : s.connOnDoneFuncOrEmpty with
  | none => rfl
  | some f =>
    have hk := h.user f hf
    simp [hk]

/-- Thread U calls `sync_connect()`. -/
theorem connect_outInv {call attempt : Nat} {out' : OutArgs} (h : OutInv K s n)
    (ha : attempt ∉ n.before.map Prod.fst)
    (hd : s.connect call attempt out' false = .done s') :
    OutInv K s' { n with before := n.before ++ [(attempt, out')] } ∧ s'.log = s.log := by
  simp only [connect, Outcome.bind_eq_done, Prod.exists] at hd
  obtain ⟨bl, s₁, h₁, hd⟩ := hd
  obtain ⟨b, hb, rfl⟩ := lift_done h₁
  split at hd
  · cases hd
  · rename_i bl
    simp only [Outcome.bind_eq_done] at hd
    obtain ⟨-, -, hd⟩ := hd
    cases hd
    obtain ⟨-, hbs⟩ := Session.takeBuilder_done hb
    subst hbs
    have htame : s.toSession.Tame (s.toSession.post (.asyncConnect attempt false bl)) :=
      .post rfl rfl
    refine ⟨h.calls ha ?_ ?_ ?_ ?_ ?_ rfl rfl rfl rfl rfl, rfl⟩
    · exact List.filterMap_append
    · intro x b' hx
      rcases List.mem_append.mp hx with hx | hx
      · exact hx
      · cases List.mem_singleton.mp hx
    · intro x hx
      have hx : (s.toSession.post (.asyncConnect attempt false bl)).Awaits x := hx
      exact hx.of_post rfl rfl
    · exact htame.inits
    · exact htame.logIns

/-- **A step keeps the invariant of the notes that are taken of it.** -/
theorem outInv_step {act : Act} (h : OutInv K s n)
    (hclean : s.srvNamespace = [] → Clean passiveOpen s)
    (hv : vanillaCall n act = true) (hk : K → keepsOut cfg s act = true)
    (hd : step cfg s act = .done s') :
    OutInv K s' (takeConnectNotes cfg s act n) := by
  refine Noted.outInv hd ?_
  -- A step that calls nothing, takes no response and hooks nothing up leaves the notes alone.
  have quiet : called act = [] → s.responded act = [] → s.hookedUp cfg act = [] →
      ∀ b, s.toSession.Steady b →
        Noted K s (s.setSession b) (s.ending act) (withStep cfg s act n) := by
    intro hc hr hm b hb
    rw [withStep_eq hc hr hm]
    exact h.noted hb
  cases act with
  -- The one step that notes what the out-arguments held before the call.
  | connect call attempt out' subClass =>
    simp only [vanillaCall, Bool.and_eq_true, Bool.not_eq_true', decide_eq_true_eq] at hv
    obtain ⟨rfl, ha⟩ := hv
    simp only [step, Outcome.bind_eq_done] at hd
    obtain ⟨-, -, hd⟩ := hd
    obtain ⟨hinv, hl⟩ := connect_outInv h ha hd
    refine .of_log ?_ (Session.log_same hl)
    simpa only [withStep, called, responded, hookedUp, List.append_nil] using hinv
  | run o =>
    simp only [step, Outcome.bind_eq_done, Prod.exists] at hd
    obtain ⟨t, s₁, h₁, hd⟩ := hd
    obtain ⟨b, hb, rfl⟩ := lift_done h₁
    exact runTask_outInv h hclean hk hb hd
  | mdtBuilder call mdt =>
    simp only [step, Outcome.bind_eq_done] at hd
    obtain ⟨-, -, hd⟩ := hd
    cases hd
    exact quiet rfl rfl rfl _ (Session.Update.post rfl).steady
  | openChannel call =>
    simp only [step, Outcome.bind_eq_done] at hd
    obtain ⟨-, -, hd⟩ := hd
    obtain ⟨b, hb, rfl⟩ := liftUnit_done hd
    exact quiet rfl rfl rfl b (openChannel_updates (L := Mark.any) (fun _ _ => trivial) hb).steady
  | sessionToken =>
    simp only [step, Outcome.bind_eq_done] at hd
    obtain ⟨-, -, hd⟩ := hd
    cases hd
    exact quiet rfl rfl rfl _ (Session.Update.post rfl).steady
  | syncReturn r mqOpen =>
    simp only [step] at hd
    split at hd
    · rename_i hw
      have hserv : s.w.isServing = true := by rw [hw]; rfl
      obtain ⟨b, hb, rfl⟩ := liftUnit_done hd
      exact quiet rfl rfl rfl b
        (openChannelSyncReturn_updates (L := Mark.any) (fun _ _ => trivial) hserv hb).steady
    · cases hd
  -- A vanilla session never hands its completion over, so the sub-class's two acts are out.
  | subClassSend r =>
    simp only [step, Outcome.bind_eq_done, Outcome.require_eq_done] at hd
    obtain ⟨-, ht, -⟩ := hd
    rw [h.not_takenOver] at ht
    cases ht
  | complete e r =>
    simp only [step, Outcome.bind_eq_done, Outcome.require_eq_done, Bool.and_eq_true] at hd
    obtain ⟨-, ⟨ht, -⟩, -⟩ := hd
    rw [h.not_takenOver] at ht
    cases ht
  | deliver m =>
    obtain ⟨b, hb, rfl⟩ := liftUnit_done hd
    exact quiet rfl rfl rfl b (Session.deliver_updates (L := Mark.any) trivial hb).steady
  | channelError e =>
    obtain ⟨b, hb, rfl⟩ := liftUnit_done hd
    exact quiet rfl rfl rfl b (Session.channelError_updates (L := Mark.any) hb).steady
  | dtorStart =>
    obtain ⟨b, hb, rfl⟩ := liftUnit_done hd
    exact quiet rfl rfl rfl b (Session.dtorStart_act hb).steady
  | dtorStep =>
    obtain ⟨b, hb, rfl⟩ := liftUnit_done hd
    exact quiet rfl rfl rfl b (Session.dtorStep_act hb).steady
  | flushDone =>
    obtain ⟨b, hb, rfl⟩ := liftUnit_done hd
    exact quiet rfl rfl rfl b (Session.dtorFlushDone_act hb).steady

/-! ### All or nothing -/

/-- How attempts end: each once at most; with an error, leaving the out-arguments as the call was
    given them; or with success, setting them to what success is to leave. -/
structure EndsWell (s : Client) (n : ConnectNotes) : Prop where
  once : (n.ended.map Prod.fst).Nodup
  called : ∀ a ∈ n.ended.map Prod.fst, a ∈ n.before.map Prod.fst
  error : ∀ a e b, (a, some e) ∈ n.ended → (a, b) ∈ n.before → s.out a = b
  success : ∀ a b, (a, none) ∈ n.ended → (a, b) ∈ n.before →
    ∃ r, n.responses = [(a, r)] ∧ Emits b r n.made (s.out a)

/-- The invariant says all that is claimed of how attempts end. -/
theorem OutInv.endsWell (h : OutInv True s n) : EndsWell s n where
  once := h.once
  called := fun a ha => h.known a (.inr (.inr (.inr ha)))
  error := fun a e b he hb => by
    refine h.untouched (.inl trivial) a b hb fun hn => ?_
    have heq := List.inj_on_of_nodup_map h.once he hn rfl
    cases heq
  success := fun a b hn hb => by
    obtain ⟨r, hr, hemits⟩ := h.emits a b hn hb
    refine ⟨r, ?_, hemits⟩
    have hone := h.logIns
    have hpos := List.length_pos_of_mem hr
    obtain ⟨p, hp⟩ := List.length_eq_one_iff.mp (by omega : n.responses.length = 1)
    rw [hp] at hr ⊢
    rw [List.mem_singleton.mp hr]

/-- **The out-arguments of `sync_connect()`.**  Where no log-in response makes them change before
    the attempt fails, success sets them completely, and an error leaves them alone. -/
theorem endsWell_of_kept {p : Client × ConnectNotes}
    (hr : Machine.Reaches (Machine.observed (takeConnectNotes cfg) (step cfg))
      (fun p act => vanillaCall p.2 act = true ∧ keepsOut cfg p.1 act = true)
      (fresh passiveOpen, {}) p) : EndsWell p.1 p.2 := by
  have hinv : Machine.Reaches (step cfg) Machine.anyStep (fresh passiveOpen) p.1 ∧
      OutInv True p.1 p.2 := by
    refine hr.invariant (P := fun p => Machine.Reaches (step cfg) Machine.anyStep
      (fresh passiveOpen) p.1 ∧
      OutInv True p.1 p.2) ⟨.refl, outInv_fresh passiveOpen⟩ fun p act p' hp hg hd => ?_
    obtain ⟨hstep, hnote⟩ := Machine.observed_done hd
    rw [hnote]
    exact ⟨hp.1.tail trivial hstep,
      outInv_step hp.2 (clean_of_reaches hp.1) hg.1 (fun _ => hg.2) hstep⟩
  exact hinv.2.endsWell

/-- One init-channel from the server, and a metadata pointer. -/
theorem endsWell_of_kept_oneInitChannel : ∃ p,
    Machine.Reaches (Machine.observed (takeConnectNotes .sample) (step .sample))
      (fun p act => vanillaCall p.2 act = true ∧ keepsOut .sample p.1 act = true)
      (fresh true, {}) p ∧
    p.2.ended = [(0, none)] ∧ p.1.out 0 = ⟨none, some (p.2.made.map some), some (some [5])⟩ ∧
    EndsWell p.1 p.2 := by
  obtain ⟨p, hr, hp⟩ := Machine.Reaches.exists_of_run
    (Machine.guarded (fun p act => vanillaCall p.2 act && keepsOut .sample p.1 act)
      (Machine.observed (takeConnectNotes .sample) (step .sample))) (fresh true, {})
    (connectPrefix ⟨none, some [none], some none⟩ ⟨1, 1, ['1'], [5], 1⟩ ++
      [.deliver ⟨1, none, some ⟨0, true⟩, .openChannelToClientReq [] [] []⟩, .run {}])
    (fun p => decide (p.2.ended = [(0, none)] ∧
      p.1.out 0 = ⟨none, some (p.2.made.map some), some (some [5])⟩)) (by decide)
  have hr := hr.of_guarded.mono fun p act hg => Bool.and_eq_true_iff.mp hg
  exact ⟨p, hr, (of_decide_eq_true hp).1, (of_decide_eq_true hp).2, endsWell_of_kept hr⟩

/-- **Without init-channels they are written too early**: the channel then refuses to be told what
    to expect, and the attempt ends with an error. -/
theorem not_endsWell_expectRefused :
    ¬ ∀ (cfg : Cfg) (passiveOpen : Bool) (p : Client × ConnectNotes),
      Machine.Reaches (Machine.observed (takeConnectNotes cfg) (step cfg))
        (fun p act => vanillaCall p.2 act = true) (fresh passiveOpen, {}) p → EndsWell p.1 p.2 := by
  intro hall
  obtain ⟨p, hr, hp⟩ := Machine.Reaches.exists_of_run
    (Machine.guarded (fun p act => vanillaCall p.2 act)
      (Machine.observed (takeConnectNotes .sample) (step .sample))) (fresh true, {})
    ((connectPrefix ⟨none, some [none], some none⟩ ⟨1, 1, ['1'], [5], 0⟩).dropLast ++
      [.run { expect := .refused (.other 32) }, .run {}])
    (fun p => decide (p.2.ended = [(0, some (.other 32))] ∧
      p.2.before = [(0, ⟨none, some [none], some none⟩)] ∧
      p.1.out 0 = ⟨none, some [], some (some [5])⟩)) (by decide)
  obtain ⟨hended, hbefore, hout⟩ := of_decide_eq_true hp
  have hsame := (hall _ _ p hr.of_guarded).error 0 (.other 32) ⟨none, some [none], some none⟩
    (by rw [hended]; exact List.mem_singleton_self _)
      (by rw [hbefore]; exact List.mem_singleton_self _)
  rw [hout] at hsame
  cases hsame

end Client

end IpcSession
