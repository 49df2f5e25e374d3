import IpcSession.Server.Hooks
import IpcSession.Server.InitChannels

namespace IpcSession

/-!
# The out-arguments of a log-in

`async_accept()` is given pointers to two containers of channels and to a metadata pointer, each of
which may be null.  They are written in the success path of the log-in handler, once before its
`sync_request()` and once after it, and nowhere else.

* `Server.Emits` — what success is to leave in them.
* `Server.LogInOut` — what the handler of the log-in request does with them, and `syncReturn_out`,
  the same for its second half.
* `Server.clears` — the handler does not succeed without init-channels over containers that have
  some.
* `Server.OutInv` — along every run whose steps are so, they are as before or as success is to leave
  them.
-/

/-- The channel whose resources are made. -/
def Event.channelMade : Event → Option ChannelObj
  | resourcesCreated ch .. => some ch
  | _ => none

/-- The channels that are made according to a record of events, in order. -/
def madeIn (l : List Event) : Channels := (l.filterMap Event.channelMade).map some

/-- The channels made in two stretches of a log are those of the first and those of the second. -/
@[simp] theorem madeIn_append (l l' : List Event) : madeIn (l ++ l') = madeIn l ++ madeIn l' := by
  simp [madeIn]

/-- A longer log has more channels at most at its end. -/
theorem madeIn_mono {l l' : List Event} (h : l <+: l') : madeIn l <+: madeIn l' := by
  obtain ⟨t, rfl⟩ := h
  rw [madeIn_append]
  exact List.prefix_append _ _

/-- Where nothing was made there are no channels. -/
theorem madeIn_eq_nil {l : List Event} (h : ∀ e ∈ l, e.isResourcesCreated = false) :
    madeIn l = [] := by
  rw [madeIn, List.map_eq_nil_iff, List.filterMap_eq_nil_iff]
  intro e he
  have hno := h e he
  cases e <;> first | rfl | cases hno

/-- Nothing is made before a log-in request is taken. -/
theorem madeIn_of_needsLogIn {l : List Event} (h : ∀ e ∈ l, e.needsLogIn = false) :
    madeIn l = [] := by
  refine madeIn_eq_nil fun e he => ?_
  have hno := h e he
  cases e <;> first | rfl | cases hno

namespace Server

variable {cfg : Cfg} {s s' : Server} {r : LogInReq} {o : ServerOracle}

/-- What success leaves in the out-arguments: where they are not null, as many channels as each side
    asked for, the first that this session has `made`; and the client's metadata. -/
structure Emits (before : OutArgs) (r : LogInReq) (nBySrv : Nat) (made : Channels)
    (after : OutArgs) : Prop where
  byCli : after.initChannelsByCliReq.map List.length =
    before.initChannelsByCliReq.map fun _ => r.numInitChannelsByCliReq
  bySrv : after.initChannelsBySrvReq.map List.length =
    before.initChannelsBySrvReq.map fun _ => nBySrv
  byCliNull : before.initChannelsByCliReq = none → r.numInitChannelsByCliReq = 0
  channels : after.initChannelsByCliReq.getD [] ++ after.initChannelsBySrvReq.getD [] <+: made
  mdt : after.mdt = before.mdt.map fun _ => some r.metadata

/-- What is emitted stays among the channels made so far. -/
theorem Emits.mono {before after : OutArgs} {n : Nat} {made made' : Channels}
    (h : Emits before r n made after) (hm : made <+: made') : Emits before r n made' after :=
  ⟨h.byCli, h.bySrv, h.byCliNull, h.channels.trans hm, h.mdt⟩

/-! ### The loop -/

/-- What the loop, with `k` rounds to go and with the channels `chans`, does with the out-arguments:
    nothing. -/
inductive LoopOut (nByCli : Nat) (mdt : Mdt) (k : Nat) (chans : Channels) (s s' : Server) :
    Prop where
  | stopped (hout : s'.out = s.out) (hacc : s'.accepted = false) (hw : s'.w = .idle)
  /-- The last request is sent, and not yet answered. -/
  | awaits (new : Channels) (id : Nat)
      (hw : s'.w = .inSyncRequest (.initChannels (chans ++ new) nByCli mdt) id none)
      (hlen : new.length = k) (hmade : madeIn s'.log = madeIn s.log ++ new) (hout : s'.out = s.out)
      (hacc : s'.accepted = false)

/-- A log-in that fails leaves the out-arguments as they were. -/
theorem logInFailed_out {e : Err} {site : LogInSite} (hd : s.logInFailed e site = .done s') :
    s'.out = s.out ∧ s'.accepted = false ∧ s'.w = s.w := by
  obtain ⟨-, rfl⟩ := logInDone_done hd
  exact ⟨rfl, rfl, rfl⟩

/-- One round of the loop leaves the out-arguments alone; it ends the log-in, or one more channel is
    made and the loop goes on. -/
theorem initChannelsLoop_round_out {nByCli k : Nat} {mdt : Mdt} {os : List InitOracle}
    {chans : Channels} (hacc : s.accepted = false) (hw : s.w = .idle)
    (hd : initChannelsLoop cfg nByCli mdt (k + 1) os chans s = .done s') :
    (s'.out = s.out ∧ s'.accepted = false ∧ s'.w = .idle) ∨
      ∃ ch id t, madeIn t.log = madeIn s.log ++ [some ch] ∧ t.out = s.out ∧ t.accepted = false ∧
        t.w = .idle ∧ (if k = 0 then
          (.done (t.setSession (t.setW
            (.inSyncRequest (.initChannels (chans ++ [some ch]) nByCli mdt) id none))) :
            Outcome Failure Server)
        else initChannelsLoop cfg nByCli mdt k os.tail (chans ++ [some ch]) t) = .done s' := by
  simp only [initChannelsLoop, Outcome.bind_eq_done, Prod.exists] at hd
  obtain ⟨r, s₁, h₁, hd⟩ := hd
  obtain ⟨hl, es, ⟨n, m, hb⟩, -, -, hyes⟩ := createChannelAndResources_made h₁
  have hw₁ : s₁.w = .idle := by rw [hb]; exact hw
  have hacc₁ : s₁.accepted = false := hl.accepted.trans hacc
  split at hd
  · obtain ⟨hout, ha, hw'⟩ := logInFailed_out hd
    exact .inl ⟨hout.trans hl.out, ha, hw'.trans hw₁⟩
  -- The channel was made: the by-one longer list goes to the next round, or the loop ends.
  · rename_i hrok
    obtain ⟨ch, es', hopened, -, hes', hno⟩ := hyes (by simpa using hrok)
    have hlog : s₁.log = s.log ++ es := by rw [hb]
    have hmade : madeIn s₁.log = madeIn s.log ++ [some ch] := by
      rw [hlog, hes', madeIn_append, madeIn_append, madeIn_eq_nil hno]
      rfl
    simp only [Outcome.bind_eq_done, Prod.exists] at hd
    obtain ⟨c, s₂, h₂, hd⟩ := hd
    obtain ⟨b, hsd, rfl⟩ := lift_done h₂
    obtain ⟨mc, -, hsend⟩ := Session.send_done hsd
    generalize (os.headD {}).send = ret at hsend
    cases hsend with
    | refusedOld hh e => cases hd; exact .inl ⟨hl.out, hacc₁, hw₁⟩
    | refusedNew hh e => cases hd; exact .inl ⟨hl.out, hacc₁, hw₁⟩
    -- The log-in fails: what was made is closed, and the containers are as they were.
    | failed hh e =>
      obtain ⟨hout, ha, hw'⟩ := logInFailed_out hd
      exact .inl ⟨hout.trans hl.out, ha, hw'.trans hw₁⟩
    | ok hh =>
      rw [hopened] at hd
      refine .inr ⟨ch, mc.nextMsgId, _, ?_, ?_, ?_, ?_, hd⟩
      · show madeIn (s₁.log ++ [_] ++ [_]) = _
        rw [madeIn_append, madeIn_append, hmade]
        simp [madeIn, Event.channelMade]
      · exact hl.out
      · exact hacc₁
      · exact hw₁

/-- So does the loop, however it ends. -/
theorem initChannelsLoop_out {nByCli k : Nat} {mdt : Mdt} {os : List InitOracle} {chans : Channels}
    {s s' : Server} (hacc : s.accepted = false) (hw : s.w = .idle)
    (hd : initChannelsLoop cfg nByCli mdt (k + 1) os chans s = .done s') :
    LoopOut nByCli mdt (k + 1) chans s s' := by
  induction k generalizing os chans s with
  | zero =>
    rcases initChannelsLoop_round_out hacc hw hd with
      ⟨hout, ha, hw'⟩ | ⟨ch, id, t, hmade, hout, ha, hwt, hd⟩
    · exact .stopped hout ha hw'
    · rw [if_pos rfl] at hd
      cases hd
      exact .awaits [some ch] id rfl rfl hmade hout ha
  | succ k ih =>
    rcases initChannelsLoop_round_out hacc hw hd with
      ⟨hout, ha, hw'⟩ | ⟨ch, id, t, hmade, hout, ha, hwt, hd⟩
    · exact .stopped hout ha hw'
    · rw [if_neg (Nat.succ_ne_zero k)] at hd
      cases ih ha hwt hd with
      | stopped hout' ha' hw' => exact .stopped (hout'.trans hout) ha' hw'
      | awaits new id' hw' hlen hmade' hout' ha' =>
        refine .awaits (some ch :: new) id' ?_ (by simp [hlen]) ?_ (hout'.trans hout) ha'
        · rw [hw', List.append_assoc]
          rfl
        · rw [hmade', hmade, List.append_assoc]
          rfl

/-! ### The handler of the log-in request -/

/-- A request that passes the check does pass. -/
theorem checkLogInReq_passes {s₁ : Server} (h : Ready s)
    (hd : s.checkLogInReq cfg r o = .done (none, s₁)) : Passes cfg r o s := by
  have hauth : Authenticated cfg s.osProcCreds s.osProcInvokedAs r := by
    by_contra hno
    rcases checkLogInReq_refused (o := o) h.protocolNegotiator h.protocolNegotiatorAux h.cliAppPtr
      hno with ⟨e, s₂, heq, -⟩ | ⟨-, heq⟩
    · rw [heq] at hd
      cases hd
    · rw [heq] at hd
      cases hd
  refine ⟨hauth, fun hne => ?_, ?_⟩
  · obtain ⟨hv₁, hv₂, hshm, hmq, hnh, -⟩ := hauth
    rw [Option.isSome_iff_ne_none]
    intro hnone
    -- the check of the null container comes before the rest
    simp only [checkLogInReq, computeNegotiatedProtoVer, h.protocolNegotiator,
      h.protocolNegotiatorAux, hv₁, hv₂, hshm, hmq, hnh, ne_eq, not_true_eq_false,
      or_self, if_false,
      hne, not_false_eq_true, hnone, and_self, if_true] at hd
    cases hd
  · have hck := checkLogInReq_done hd
    generalize he : (none : ErrorCode) = e at hck
    cases hck with
    | rejected e' => cases he
    | passed => rfl

/-- Where the log-in succeeds without init-channels, the containers have none to be left over; and
    the sum of the counts does not wrap around. -/
def ClearsOut (cfg : Cfg) (r : LogInReq) (o : ServerOracle) (s : Server) : Prop :=
  Passes cfg r o s → Responds o s → initChannelCount r o s < 2 ^ 64 ∧
    (initChannelCount r o s = 0 →
      s.out.initChannelsByCliReq.getD [] = [] ∧ s.out.initChannelsBySrvReq.getD [] = [])

/-- The handler waits for the answer to the last init-channel, with everything made that success is
    to emit. -/
structure AwaitsOut (before : OutArgs) (r : LogInReq) (nBySrv : Nat) (s : Server) : Prop where
  worker : ∃ chans id rsp, s.w =
    .inSyncRequest (.initChannels chans r.numInitChannelsByCliReq r.metadata) id rsp ∧
      chans = madeIn s.log ∧ chans.length = r.numInitChannelsByCliReq +
        if before.initChannelsBySrvReq.isSome then nBySrv else 0
  byCliNull : before.initChannelsByCliReq = none → r.numInitChannelsByCliReq = 0
  out : s.out = before
  accepted : s.accepted = false

/-- With no init-channels, and none to be left over, the containers are as they should be. -/
theorem emits_of_count_eq_zero {made : Channels} (hz : initChannelCount r o s = 0)
    (hempty : s.out.initChannelsByCliReq.getD [] = [] ∧ s.out.initChannelsBySrvReq.getD [] = [])
    (hnull : s.out.initChannelsByCliReq = none → r.numInitChannelsByCliReq = 0) :
    Emits s.out r o.nInitChannelsBySrvReq made
      { s.out with mdt := s.out.mdt.map fun _ => some r.metadata } := by
  obtain ⟨hcli, hsrv⟩ := hempty
  unfold initChannelCount at hz
  refine ⟨?_, ?_, hnull, ?_, rfl⟩
  · cases hs : s.out.initChannelsByCliReq with
    | none => rfl
    | some cs =>
      rw [hs] at hcli
      obtain rfl : cs = [] := hcli
      simp only [Option.map_some, List.length_nil, Option.some.injEq]
      omega
  · cases hs : s.out.initChannelsBySrvReq with
    | none => rfl
    | some cs =>
      rw [hs] at hsrv hz
      obtain rfl : cs = [] := hsrv
      simp only [Option.isSome_some, if_true] at hz
      simp only [Option.map_some, List.length_nil, Option.some.injEq]
      omega
  · rw [hcli, hsrv]
    exact List.nil_prefix

/-- What the handler of the log-in request does with the out-arguments. -/
inductive LogInOut (r : LogInReq) (nBySrv : Nat) (s s' : Server) : Prop where
  | untouched (hout : s'.out = s.out) (hacc : s'.accepted = false)
      (hw : s'.w.inInitChannels = false)
  | awaits (h : AwaitsOut s.out r nBySrv s')
  | emits (hout : Emits s.out r nBySrv (madeIn s'.log) s'.out) (hacc : s'.accepted = true)
      (hw : s'.w.inInitChannels = false)

/-- The handler of the request writes them if the log-in is over with it, and then all of them. -/
theorem onLogInReq_out {m : Msg} (h : Ready s) (hacc : s.accepted = false)
    (hm : m.body = .logInReq r) (hc : ClearsOut cfg r o s)
    (hd : s.onLogInReq cfg m o = .done s') : LogInOut r o.nInitChannelsBySrvReq s s' := by
  simp only [onLogInReq, h.channel, Outcome.check_true, Outcome.done_bind, hm, Outcome.bind_eq_done,
    Prod.exists] at hd
  obtain ⟨e, s₁, hck, hd⟩ := hd
  obtain ⟨hl, -, hw, hch, -⟩ := h.checked hck
  have hacc₁ : s₁.accepted = false := hl.accepted.trans hacc
  -- A failed log-in leaves the containers untouched, wherever it failed.
  have hfailed : ∀ {t : Server} {e : Err} {site : LogInSite}, t.out = s.out → t.w = .idle →
      t.logInFailed e site = .done s' → LogInOut r o.nInitChannelsBySrvReq s s' := by
    intro t e site hout hwt hd
    obtain ⟨hout', ha, hw'⟩ := logInFailed_out hd
    exact .untouched (hout'.trans hout) ha (by rw [hw', hwt]; rfl)
  cases e with
  | some e => exact hfailed hl.out hw hd
  | none =>
    have hpass := checkLogInReq_passes h hck
    have hidle : s₁.w.inInitChannels = false := by rw [hw]; rfl
    -- No init-channel was made before this handler ran.
    have hmade₁ : madeIn s₁.log = [] := by
      generalize hnone : (none : ErrorCode) = e at hck
      cases checkLogInReq_done hck with
      | rejected e => cases hnone
      | passed hn hname hb hl =>
        rw [hb]
        show madeIn (s.log ++ [_] ++ [_]) = []
        rw [madeIn_append, madeIn_append, madeIn_of_needsLogIn h.log]
        rfl
    simp only [Outcome.bind_eq_done, Prod.exists] at hd
    obtain ⟨c, s₂, h₂, hd⟩ := hd
    obtain ⟨b, hsd, rfl⟩ := lift_done h₂
    obtain ⟨mc, hmc, hsend⟩ := Session.send_done hsd
    generalize hret : o.send = ret at hsend
    -- The response is refused, failed or sent; only the last goes on to the init-channels.
    cases hsend with
    | refusedOld hh e => cases hd; exact .untouched hl.out hacc₁ hidle
    | refusedNew hh e => cases hd; exact .untouched hl.out hacc₁ hidle
    | failed hh e => exact hfailed (t := s₁.setSession (s₁.failCall mc e)) hl.out hw hd
    | ok hh =>
      -- The response is sent, so the condition's conclusion on the containers applies.
      have hresp : Responds o s := ⟨hret, by simp [Session.channelHosed, ← hch, hmc, hh]⟩
      obtain ⟨hlt, hclear⟩ := hc hpass hresp
      have hn : nInitChannels r o s₁ = initChannelCount r o s := by
        rw [nInitChannels, hl.out]
        exact Nat.mod_eq_of_lt hlt
      -- A null container asks for no channels: the log-in request was checked for that.
      have hnull : s.out.initChannelsByCliReq = none → r.numInitChannelsByCliReq = 0 := by
        intro hnone
        by_contra hne
        have hsome := hpass.container hne
        rw [hnone] at hsome
        cases hsome
      simp only [hn] at hd
      split at hd
      · rename_i hzero
        obtain ⟨-, rfl⟩ := logInDone_done hd
        refine .emits ?_ rfl hidle
        have hout : s₁.out = s.out := hl.out
        simp only [setSession_out, hout]
        exact emits_of_count_eq_zero hzero (hclear hzero) hnull
      · rename_i hne
        obtain ⟨k, hk⟩ := Nat.exists_eq_succ_of_ne_zero hne
        simp only [Outcome.bind_eq_done] at hd
        obtain ⟨-, -, hd⟩ := hd
        rw [hk] at hd
        cases initChannelsLoop_out (by exact hacc₁) (by exact hw) hd with
        | stopped hout ha hw' => exact .untouched (hout.trans hl.out) ha (by rw [hw']; rfl)
        | awaits new id hw' hlen hmade hout ha =>
          refine .awaits ⟨⟨new, id, none, hw', ?_, ?_⟩, hnull, hout.trans hl.out, ha⟩
          · rw [hmade]
            show new = madeIn (s₁.log ++ [_]) ++ new
            rw [madeIn_append, hmade₁]
            rfl
          · exact hlen.trans hk.symm

/-! ### While the handler waits, and after -/

/-- An in-message, an error of the channel and the destructor leave the waiting handler alone. -/
theorem AwaitsOut.step {before : OutArgs} {n : Nat} {a : Act} (h : AwaitsOut before r n s)
    (hhalts : s.Halts) (ha : a.isSyncReturn = false) (hd : step cfg s a = .done s') :
    AwaitsOut before r n s' := by
  obtain ⟨chans, id, rsp, hw, hmade, hlen⟩ := h.worker
  obtain ⟨b, es, rfl, ⟨rsp', hw'⟩, hlog, hes⟩ := waiting_step hw h.accepted hhalts ha hd
  refine ⟨⟨chans, id, rsp', hw', ?_, hlen⟩, h.byCliNull, h.out, h.accepted⟩
  have hnone : madeIn es = [] := madeIn_eq_nil fun e he => by
    obtain ⟨err, rfl⟩ := hes e he
    rfl
  rw [hmade]
  show _ = madeIn b.log
  rw [hlog, madeIn_append, hnone, List.append_nil]

/-- What the emission writes is what success is to leave. -/
theorem emits_of_split {before out : OutArgs} {n : Nat} {chans : Channels}
    (hnull : before.initChannelsByCliReq = none → r.numInitChannelsByCliReq = 0)
    (hlen : chans.length = r.numInitChannelsByCliReq +
      if before.initChannelsBySrvReq.isSome then n else 0)
    (hout : out = {
      initChannelsByCliReq := before.initChannelsByCliReq.map fun _ =>
        chans.take (if before.initChannelsByCliReq.isSome then r.numInitChannelsByCliReq else 0)
      initChannelsBySrvReq := before.initChannelsBySrvReq.map fun _ =>
        chans.drop (if before.initChannelsByCliReq.isSome then r.numInitChannelsByCliReq else 0)
      mdt := before.mdt.map fun _ => some r.metadata }) : Emits before r n chans out := by
  -- a null container stands for a count of zero
  have hidx : (if before.initChannelsByCliReq.isSome then r.numInitChannelsByCliReq else 0) =
      r.numInitChannelsByCliReq := by
    cases hc : before.initChannelsByCliReq with
    | none => exact (hnull hc).symm
    | some cs => rfl
  rw [hidx] at hout
  subst hout
  refine ⟨?_, ?_, hnull, ?_, rfl⟩
  · rw [Option.map_map]
    refine congrArg (fun f => before.initChannelsByCliReq.map f) (funext fun cs => ?_)
    show (chans.take _).length = _
    rw [List.length_take]
    omega
  · cases hs : before.initChannelsBySrvReq with
    | none => rfl
    | some cs =>
      rw [hs] at hlen
      simp only [Option.isSome_some, if_true] at hlen
      simp only [Option.map_some, List.length_drop, Option.some.injEq]
      omega
  · cases hs : before.initChannelsBySrvReq with
    | none =>
      rw [hs] at hlen
      cases before.initChannelsByCliReq with
      | none => exact List.nil_prefix
      | some cs =>
        show chans.take _ ++ [] <+: chans
        rw [List.append_nil]
        exact List.take_prefix _ _
    | some cs =>
      cases hc : before.initChannelsByCliReq with
      | none =>
        rw [hnull hc]
        exact List.prefix_rfl
      | some cs' =>
        show chans.take _ ++ chans.drop _ <+: chans
        exact ⟨[], (List.append_nil _).trans (List.take_append_drop _ _)⟩

/-- **The second half of the handler** emits what was made, or leaves everything alone. -/
theorem AwaitsOut.syncReturn {before : OutArgs} {n : Nat} {res : Session.SyncRes}
    {eo : EmitOracle} (h : AwaitsOut before r n s)
    (hd : Server.step cfg s (.syncReturn res eo) = .done s') :
    (s'.out = before ∧ s'.accepted = false ∨
      Emits before r n (madeIn s'.log) s'.out ∧ s'.accepted = true) ∧
      s'.w.inInitChannels = false := by
  obtain ⟨chans, id, rsp, hw, hmade, hlen⟩ := h.worker
  simp only [Server.step, hw, initChannelsSyncReturn] at hd
  split at hd
  · simp only [Outcome.bind_eq_done] at hd
    obtain ⟨s₁, h₁, hd⟩ := hd
    simp only [emitInitChannels, Outcome.bind_eq_done] at h₁
    obtain ⟨-, -, -, -, -, -, -, -, h₁⟩ := h₁
    cases h₁
    obtain ⟨-, rfl⟩ := logInDone_done hd
    refine ⟨.inr ⟨?_, rfl⟩, rfl⟩
    have hemits : Emits before r n chans _ := emits_of_split h.byCliNull hlen rfl
    show Emits before r n (madeIn (s.log ++ [_])) _
    rw [madeIn_append, ← hmade]
    simp only [setSession_out, h.out]
    exact hemits.mono (List.prefix_append _ _)
  · simp only [Outcome.bind_eq_done, Prod.exists] at hd
    obtain ⟨-, -, e, s₁, h₁, hd⟩ := hd
    obtain ⟨b, hb, rfl⟩ := lift_done h₁
    have hwb : b.w = .idle := by
      cases (Session.syncReturnNoResponse_done hb).2 <;> rfl
    split at hd
    · cases hd
      exact ⟨.inl ⟨h.out, h.accepted⟩, by rw [setSession_toSession, hwb]; rfl⟩
    · obtain ⟨hout, hacc, hw'⟩ := logInFailed_out hd
      exact ⟨.inl ⟨hout.trans h.out, hacc⟩, by rw [hw', setSession_toSession, hwb]; rfl⟩

/-! ### Everything else -/

/-- The step has nothing to do with the out-arguments. -/
structure LeavesOut (s s' : Server) : Prop where
  out : s'.out = s.out
  accepted : s'.accepted = s.accepted
  worker : s'.w.inInitChannels = false

/-- Session code makes no thread W wait in a log-in. -/
theorem LeavesOut.session {L : Mark → Prop} {b : Session} (hw : s.w.inInitChannels = false)
    (hu : s.toSession.Updates L b) : LeavesOut s (s.setSession b) :=
  ⟨rfl, rfl, hu.keeps (P := fun b => b.w.inInitChannels = false) hw
    fun _ _ _ hb _ hu => hu.inInitChannels hb⟩

/-- Nor does server code that brings no mark of it. -/
theorem Updates.inInitChannels {L : Mark → Prop} (hL : ∀ w, ¬ L (.setW w))
    (hu : Updates cfg L s s') (hw : s.w.inInitChannels = false) : s'.w.inInitChannels = false := by
  refine hu.keeps (P := fun t => t.w.inInitChannels = false) hw fun t l t' ht hl h => ?_
  cases h with
  | session hu => exact hu.inInitChannels ht
  | mqs hn r =>
    obtain ⟨es, made, -, hs⟩ := makeChannelMqs_tried cfg r t
    rw [hs]
    exact ht
  | logInDone hn hd =>
    obtain ⟨-, rfl⟩ := logInDone_done hd
    exact ht
  | awaitAnswer => exact absurd (hl _ rfl) (hL _)
  | _ => exact ht

/-- The tasks of thread W, but for that of the log-in request. -/
theorem runTask_leavesOut {t : Task} {b : Session} (hp : Phases cfg s) (hn : Named s)
    (ht : s.takeTask = .done (t, b)) (hreq : t.isLogInReq = false)
    (hd : (s.setSession b).runTask cfg o t = .done s') : LeavesOut s s' := by
  obtain ⟨hw, hq, hb⟩ := Session.takeTask_done ht
  have hwb : b.w = .idle := by rw [hb]; exact hw
  have hb₁ : (s.setSession b).w.inInitChannels = false := by
    show b.w.inInitChannels = false
    rw [hwb]
    rfl
  have hnb : b.onErrFuncSet = true → b.cliNamespace ≠ [] := by
    rw [hb]
    exact fun ho => hn.accepted (hp.peer ho)
  have hres := runTask_result ht hd
  -- tasks whose marks are not those of waiting
  have hplain : t.isAcceptLogIn = false → t.isDtor = false → (∀ w, ¬ Mark.ofTask t (.setW w)) →
      s'.w.inInitChannels = false := by
    intro hacc hdt hL
    refine (runTask_updates (by exact hwb) hdt hacc hreq (fun hi => ?_) hnb hd).inInitChannels
      (fun w hk => ?_) hb₁
    · cases t with
      | initHandlers passiveOpen => exact hp.accepted_of_initHandlers ht
      | _ => cases hi
    · cases t with
      | preInitError =>
        obtain ⟨e, -, hk⟩ := hk
        cases hk
      | _ => exact hL w hk
  cases t with
  | acceptLogIn =>
    obtain ⟨h₁, -, -, hset⟩ := hp.atAccept ht
    have hacc : s.accepted = false := (h₁.logIn hset).2.2
    have hworker : s'.w.inInitChannels = false := by
      have hs := acceptLogIn_session hd
      generalize hb' : s'.toSession = b' at hs
      cases hs <;> exact hb₁
    cases acceptLogIn_done hd with
    | failed hset e => exact ⟨rfl, hacc.symm, hworker⟩
    | started hm hs₁ hl hdid hl' =>
      exact ⟨hl'.out.trans hl.out, hl'.accepted.trans hl.accepted, hworker⟩
  | masterChannelError chan e =>
    have hworker := hplain rfl rfl (fun w hk => by rcases hk with hk | hk | hk <;> cases hk)
    cases onMasterChannelError_done hd with
    | dropped hm => exact ⟨rfl, rfl, hworker⟩
    | logInFailed hm hset => exact ⟨rfl, ((hp.takeTask ht rfl).logIn hset).2.2.symm, hworker⟩
    | cached hm hset ho hpre => exact ⟨rfl, rfl, hworker⟩
    | inPeer hm ho h₁ h₂ => exact ⟨rfl, rfl, hworker⟩
  | gracefulSessionEnd chan =>
    have hworker := hplain rfl rfl (fun w hk => by rcases hk with hk | hk <;> cases hk)
    obtain ⟨b', hb', rfl⟩ := liftUnit_done hd
    exact ⟨rfl, rfl, hworker⟩
  | initHandlers passiveOpen =>
    have hworker := hplain rfl rfl (fun w hk => by rcases hk with hk | hk <;> cases hk)
    cases initHandlers_done hd <;> exact ⟨rfl, rfl, hworker⟩
  | preInitError =>
    have hworker := hplain rfl rfl (fun w hk => hk)
    simp only [Server.runTask, Server.preInitError] at hd
    split at hd
    · obtain ⟨b', hb', rfl⟩ := liftUnit_done hd
      exact ⟨rfl, rfl, hworker⟩
    · cases hd
  | openChannelReq chan m =>
    have hworker := hplain rfl rfl (fun w hk => by
      rcases hk with hk | ⟨id, hndl, rsp, hk⟩
      · exact Bool.false_ne_true hk
      · cases hk)
    cases hres with
    | plain _ _ hl => exact ⟨hl.out, hl.accepted, hworker⟩
  | openChannel call bl =>
    obtain ⟨b', hb', rfl⟩ := liftUnit_done hd
    have hu : b.Updates Mark.any b' := Session.openChannelBody_updates (fun _ _ => trivial)
      (fun _ => trivial) hwb hb'
    have hl : LeavesOut (s.setSession b) ((s.setSession b).setSession b') := .session hb₁ hu
    exact ⟨hl.out, hl.accepted, hl.worker⟩
  | mdtBuilder call mdt =>
    have hworker := hplain rfl rfl (fun w hk => hk)
    cases hres with
    | plain _ _ hl => exact ⟨hl.out, hl.accepted, hworker⟩
  | sessionToken =>
    have hworker := hplain rfl rfl (fun w hk => by obtain ⟨nil, hk⟩ := hk; cases hk)
    obtain ⟨b', hb', rfl⟩ := liftUnit_done hd
    exact ⟨rfl, rfl, hworker⟩
  | dtorFinisherQuery =>
    cases hd
    exact ⟨rfl, rfl, hb₁⟩
  | dtorSendEnd =>
    obtain ⟨b', hb', rfl⟩ := liftUnit_done hd
    cases Session.dtorSendEnd_task hb' with
    | sendEnd hf hu hw' => exact ⟨rfl, rfl, (congrArg Worker.inInitChannels hw').trans hb₁⟩
  | dtorFlush =>
    cases hd
    refine ⟨rfl, rfl, ?_⟩
    show (b.dtorFlush o.flushRuns).w.inInitChannels = false
    unfold Session.dtorFlush
    split
    · exact hb₁
    · rfl
  | logInReq chan m => cases hreq
  | logInRsp => cases hd
  | initOpenChannel => cases hd
  | asyncConnect => cases hd

/-- **No other step** has to do with the out-arguments. -/
theorem step_leavesOut {a : Act} (hp : Phases cfg s) (hn : Named s)
    (hw : s.w.inInitChannels = false)
    (hreq : ∀ o chan m b, a = .run o → s.takeTask ≠ .done (.logInReq chan m, b))
    (hd : step cfg s a = .done s') : LeavesOut s s' := by
  -- The destructor's acts touch neither the arguments nor the loop.
  have hdtor : ∀ {b : Session}, s.toSession.DtorAct b → LeavesOut s (s.setSession b) := by
    intro b hact
    cases hact with
    | flushDone => exact ⟨rfl, rfl, rfl⟩
    | stop => exact ⟨rfl, rfl, rfl⟩
    | _ => exact ⟨rfl, rfl, hw⟩
  cases a with
  | initHandlers passiveOpen =>
    simp only [step, Outcome.bind_eq_done] at hd
    obtain ⟨-, -, hd⟩ := hd
    cases hd
    exact ⟨rfl, rfl, hw⟩
  | mdtBuilder call mdt =>
    simp only [step, Outcome.bind_eq_done] at hd
    obtain ⟨-, -, hd⟩ := hd
    cases hd
    exact ⟨rfl, rfl, hw⟩
  | openChannel call =>
    simp only [step, Outcome.bind_eq_done] at hd
    obtain ⟨-, -, hd⟩ := hd
    obtain ⟨b, hb, rfl⟩ := liftUnit_done hd
    have hu : s.toSession.Updates Mark.any b := openChannel_updates (fun _ _ => trivial) hb
    exact .session hw hu
  | sessionToken =>
    simp only [step, Outcome.bind_eq_done] at hd
    obtain ⟨-, -, hd⟩ := hd
    cases hd
    exact ⟨rfl, rfl, hw⟩
  -- Any task but the log-in request: the hypothesis excludes that one.
  | run o =>
    simp only [step, Outcome.bind_eq_done, Prod.exists] at hd
    obtain ⟨t, s₁, h₁, hd⟩ := hd
    obtain ⟨b, hb, rfl⟩ := lift_done h₁
    refine runTask_leavesOut hp hn hb ?_ hd
    cases t with
    | logInReq chan m => exact absurd hb (hreq o chan m b rfl)
    | _ => rfl
  -- Thread W returns to an open_channel(); outside the loop it cannot return to the loop.
  | syncReturn res =>
    simp only [step] at hd
    split at hd
    · rename_i hw'
      obtain ⟨b, hb, rfl⟩ := liftUnit_done hd
      have hu : s.toSession.Updates Mark.any b :=
        openChannelSyncReturn_updates (fun _ _ => trivial) (by rw [hw']; rfl) hb
      exact .session hw hu
    · rename_i hw'
      rw [hw'] at hw
      cases hw
    · cases hd
  | deliver m =>
    obtain ⟨b, hb, rfl⟩ := liftUnit_done hd
    have hu : s.toSession.Updates Mark.any b := Session.deliver_updates trivial hb
    exact .session hw hu
  | channelError e =>
    obtain ⟨b, hb, rfl⟩ := liftUnit_done hd
    have hu : s.toSession.Updates Mark.any b := Session.channelError_updates hb
    exact .session hw hu
  | dtorStart =>
    obtain ⟨b, hb, rfl⟩ := liftUnit_done hd
    exact hdtor (Session.dtorStart_act hb)
  | dtorStep =>
    obtain ⟨b, hb, rfl⟩ := liftUnit_done hd
    exact hdtor (Session.dtorStep_act hb)
  | flushDone =>
    obtain ⟨b, hb, rfl⟩ := liftUnit_done hd
    exact hdtor (Session.dtorFlushDone_act hb)
  | dtorFinish =>
    simp only [step, dtorFinish, Outcome.bind_eq_done] at hd
    obtain ⟨-, -, hd⟩ := hd
    split at hd <;> cases hd <;> exact ⟨rfl, rfl, hw⟩

/-! ### Every run -/

/-- The log-in request that this step handles, with what `n_init_channels_by_srv_req_func()`
    yields. -/
def logInReqTaken (s : Server) : Act → Option (LogInReq × Nat)
  | .run o =>
    match s.w, s.queue with
    | .idle, .logInReq _ m :: _ =>
      match m.body with
      | .logInReq r => some (r, o.nInitChannelsBySrvReq)
      | _ => none
    | _, _ => none
  | _ => none

/-- The handler does not succeed without init-channels over containers that have some. -/
def clears (cfg : Cfg) (s : Server) (a : Act) : Prop :=
  ∀ o chan m b r, a = .run o → s.takeTask = .done (.logInReq chan m, b) → m.body = .logInReq r →
    ClearsOut cfg r o s

/-- The out-arguments of a log-in that handled the request `asked`, or none yet: as `before` until
    the log-in succeeds, and then as success is to leave them. -/
structure OutInv (cfg : Cfg) (before : OutArgs) (asked : Option (LogInReq × Nat)) (s : Server) :
    Prop where
  access : AccessInv cfg (fun _ => True) before s
  untouched : s.accepted = false → s.out = before
  emits : s.accepted = true → ∃ r n, asked = some (r, n) ∧ Emits before r n (madeIn s.log) s.out
  awaits : s.w.inInitChannels = true → ∃ r n, asked = some (r, n) ∧ AwaitsOut before r n s

/-- The out-arguments are as the user gave them. -/
theorem outInv_fresh (srvNamespace : SharedName) (before : OutArgs) :
    OutInv cfg before none (fresh srvNamespace before) where
  access := ⟨logInInv_fresh srvNamespace before, apiCalls_fresh srvNamespace before,
    named_fresh srvNamespace before, .inl (untouched_fresh srvNamespace before)⟩
  untouched _ := rfl
  emits := nofun
  awaits := nofun

/-- A step that takes no log-in request has none to be noted. -/
theorem logInReqTaken_eq_none {a : Act}
    (h : ∀ o chan m b, a = .run o → s.takeTask ≠ .done (.logInReq chan m, b)) :
    s.logInReqTaken a = none := by
  cases a with
  | run o =>
    simp only [logInReqTaken]
    split
    · rename_i chan m ts hw hq
      refine absurd ?_ (h o chan m { s.toSession with queue := ts } rfl)
      simp [Session.takeTask, hw, hq, Outcome.require_true]
    · rfl
  | _ => rfl

/-- **Step lemma.** -/
theorem OutInv.step {before : OutArgs} {asked : Option (LogInReq × Nat)} {a : Act}
    (h : OutInv cfg before asked s) (hk : clears cfg s a) (hd : step cfg s a = .done s') :
    OutInv cfg before ((s.logInReqTaken a).or asked) s' := by
  have haccess := h.access.step (fun _ _ => trivial) hd
  have hp := h.access.logIn.err.phases
  have hlog : s.log <+: s'.log := (step_log hp h.access.named hd).1
  by_cases hreq : ∃ o chan m b, a = .run o ∧ s.takeTask = .done (.logInReq chan m, b)
  · -- the log-in request is taken
    obtain ⟨o, chan, m, b, rfl, ht⟩ := hreq
    obtain ⟨hw, hq, hb⟩ := Session.takeTask_done ht
    obtain ⟨hready, hacc⟩ := h.access.ready hw hq
    have hbody : ∃ r, m.body = .logInReq r := by
      rcases h.access.access with hu | hl
      · exact (hu.early.asked chan m (by rw [hq]; exact List.mem_cons_self)).2
      · have hz := hl.reqs
        have hr := Session.logInReqs_takeTask ht
        simp only [Task.isLogInReq, Bool.toNat_true] at hr
        omega
    obtain ⟨r, hm⟩ := hbody
    have hasked : s.logInReqTaken (.run o) = some (r, o.nInitChannelsBySrvReq) := by
      simp only [logInReqTaken, hw, hq, hm]
    rw [step_run_logInReq hw hq] at hd
    rw [hasked, Option.some_or]
    have hout : (s.taken b.queue).out = before := h.untouched hacc
    have hclears : ClearsOut cfg r o (s.taken b.queue) := by
      intro hpass hresp
      exact hk o chan m b r rfl ht hm (passes_taken.mp hpass) hresp
    cases onLogInReq_out (hready.taken _) (by exact hacc) hm hclears hd with
    | untouched hout' hacc' hw' =>
      refine ⟨haccess, fun _ => hout'.trans hout, fun ha => ?_, fun hi => ?_⟩
      · rw [hacc'] at ha
        cases ha
      · rw [hw'] at hi
        cases hi
    | awaits haw =>
      rw [hout] at haw
      refine ⟨haccess, fun _ => haw.out, fun ha => ?_, fun _ => ⟨r, _, rfl, haw⟩⟩
      rw [haw.accepted] at ha
      cases ha
    | emits hemits hacc' hw' =>
      rw [hout] at hemits
      refine ⟨haccess, fun ha => ?_, fun _ => ⟨r, _, rfl, hemits⟩, fun hi => ?_⟩
      · rw [hacc'] at ha
        cases ha
      · rw [hw'] at hi
        cases hi
  · have hno : ∀ o chan m b, a = .run o → s.takeTask ≠ .done (.logInReq chan m, b) :=
      fun o chan m b ha ht => hreq ⟨o, chan, m, b, ha, ht⟩
    rw [logInReqTaken_eq_none hno, Option.none_or]
    by_cases hw : s.w.inInitChannels = true
    · obtain ⟨r, n, rfl, haw⟩ := h.awaits hw
      cases hsync : a.isSyncReturn with
      | true =>
        -- the last init-channel is answered, or not
        cases a with
        | syncReturn res =>
          obtain ⟨hends, hw'⟩ := haw.syncReturn hd
          refine ⟨haccess, fun ha => ?_, fun ha => ?_, fun hi => ?_⟩
          · rcases hends with ⟨hout, -⟩ | ⟨-, hacc⟩
            · exact hout
            · rw [hacc] at ha
              cases ha
          · rcases hends with ⟨-, hacc⟩ | ⟨hemits, -⟩
            · rw [hacc] at ha
              cases ha
            · exact ⟨r, n, rfl, hemits⟩
          · rw [hw'] at hi
            cases hi
        | _ => cases hsync
      | false =>
        have haw' := haw.step h.access.logIn.once.halts hsync hd
        refine ⟨haccess, fun _ => haw'.out, fun ha => ?_, fun _ => ⟨r, n, rfl, haw'⟩⟩
        rw [haw'.accepted] at ha
        cases ha
    · rw [Bool.not_eq_true] at hw
      have hl := step_leavesOut hp h.access.named hw hno hd
      refine ⟨haccess, fun ha => ?_, fun ha => ?_, fun hi => ?_⟩
      · exact hl.out.trans (h.untouched (hl.accepted.symm.trans ha))
      · obtain ⟨r, n, hr, hemits⟩ := h.emits (hl.accepted.symm.trans ha)
        rw [hl.out]
        exact ⟨r, n, hr, hemits.mono (madeIn_mono hlog)⟩
      · rw [hl.worker] at hi
        cases hi

end Server

end IpcSession
