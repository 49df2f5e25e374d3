import IpcSession.Base.Safe
import IpcSession.Server.Access
import IpcSession.Server.Progress

namespace IpcSession

/-!
# What comes of a log-in request

The log-in handler takes a number of init-channels from the request, adds one of its own user's,
sizes vectors by the sum and makes as many channels in a loop, whose last round waits for the
client.

* `Server.initChannelCount` — the true sum of the two counts.
* `Server.LoopEnds`, `initChannelsLoop_ends` — what the loop comes to, and when.
* `Server.HandlesLogIn` — what the handler is to come to: no failure, the true sum, and either a
  report of an error or a success with as many channels as that.
* `Server.CountsFit` — the sum fits, vectors of that many channels can be had, and the queries that
  the loop makes are not in vain.
* `Server.handlesLogIn_iff` — the handler comes to that exactly where the counts fit.
-/

namespace Event

/-- A request to open a channel is sent. -/
def isOpenReqSent : Event → Bool
  | sent m => match m.body with
    | .openChannelToClientReq .. => true
    | _ => false
  | _ => false

end Event

namespace Server

variable {cfg : Cfg} {s s' : Server}

/-! ### Ways to end -/

/-- An error has been reported through the handler of the log-in. -/
structure LogInReported (s : Server) : Prop where
  error : ∃ e site out, Event.logInDone (some e) site out ∈ s.log
  logInOnDoneFuncSet : s.logInOnDoneFuncSet = false
  accepted : s.accepted = false
  masterChannel : s.masterChannel = none
  worker : s.w = .idle

/-- The channel has reported its error, and nobody has completed the log-in: the error handler
    will. -/
structure LogInRefused (s : Server) : Prop where
  logInOnDoneFuncSet : s.logInOnDoneFuncSet = true
  hosed : s.toSession.channelHosed = true
  worker : s.w = .idle

/-- The failure of a log-in is reported, and nothing else happens. -/
theorem logInFailed_yields (hset : s.logInOnDoneFuncSet = true) (hw : s.w = .idle) (e : Err)
    (site : LogInSite) : (s.logInFailed e site).Yields LogInReported := by
  rw [logInFailed_eq hset]
  exact ⟨⟨e, site, s.out, by simp⟩, rfl, rfl, rfl, hw⟩

/-! ### The rounds of the loop -/

/-- Each of the `k` rounds makes its resources and sends its request. -/
def allWork (cfg : Cfg) : Nat → List InitOracle → Bool
  | 0, _ => true
  | k + 1, os => (os.headD {}).works cfg && allWork cfg k os.tail

/-- No round of the `k`, of those that the loop gets to, asks for the peer's credentials in vain. -/
def neverAsksInVain (cfg : Cfg) : Nat → List InitOracle → Bool
  | 0, _ => true
  | k + 1, os => !(os.headD {}).res.asksInVain cfg &&
      (!(os.headD {}).works cfg || neverAsksInVain cfg k os.tail)

section

variable {k : Nat} {os : List InitOracle}

/-- A first round that asks in vain is one that is reached. -/
theorem neverAsksInVain_of_inVain (hv : (os.headD {}).res.asksInVain cfg = true) :
    neverAsksInVain cfg (k + 1) os = false := by
  rw [neverAsksInVain, hv]
  rfl

/-- The loop does not get past a round that does not work. -/
theorem neverAsksInVain_of_stops (hv : (os.headD {}).res.asksInVain cfg = false)
    (hw : (os.headD {}).works cfg = false) : neverAsksInVain cfg (k + 1) os = true := by
  rw [neverAsksInVain, hv, hw]
  rfl

/-- After a first round that works, the others decide. -/
theorem neverAsksInVain_succ (hv : (os.headD {}).res.asksInVain cfg = false)
    (hw : (os.headD {}).works cfg = true) :
    neverAsksInVain cfg (k + 1) os = neverAsksInVain cfg k os.tail := by
  rw [neverAsksInVain, hv, hw]
  rfl

/-- A first round that does not work stops the loop. -/
theorem allWork_of_stops (hw : (os.headD {}).works cfg = false) :
    allWork cfg (k + 1) os = false := by
  rw [allWork, hw, Bool.false_and]

/-- After a first round that works, the others decide. -/
theorem allWork_succ (hw : (os.headD {}).works cfg = true) :
    allWork cfg (k + 1) os = allWork cfg k os.tail := by
  rw [allWork, hw, Bool.true_and]

end

/-- All channels are made and all requests sent; the last one is not answered yet. -/
structure LoopAwaits (nByCli : Nat) (mdt : Mdt) (k : Nat) (chans : Channels) (s s' : Server) :
    Prop where
  worker : ∃ new id, s'.w = .inSyncRequest (.initChannels (chans ++ new) nByCli mdt) id none ∧
    new.length = k ∧ ∀ ch ∈ new, ch.isSome = true
  same : SameLogIn s s'
  channel : s'.masterChannel.isSome = true
  channelHosed : s'.toSession.channelHosed = false
  log : s.log <+: s'.log
  created : s'.log.countP Event.isResourcesCreated = s.log.countP Event.isResourcesCreated + k
  asked : s'.log.countP Event.isOpenReqSent = s.log.countP Event.isOpenReqSent + k

/-- **What the loop, with `k` rounds to go and with the channels `chans`, comes to**: an assertion
    fails where a round asks in vain; else it stops with an error at the first round that does not
    work, or it waits. -/
inductive LoopEnds (cfg : Cfg) (nByCli : Nat) (mdt : Mdt) (k : Nat) (os : List InitOracle)
    (chans : Channels) (s : Server) : Outcome Failure Server → Prop
  | inVain (hv : neverAsksInVain cfg k os = false) :
      LoopEnds cfg nByCli mdt k os chans s (.failed .noPeerCreds)
  | stops {x : Outcome Failure Server} (hv : neverAsksInVain cfg k os = true)
      (hw : allWork cfg k os = false) (hx : x.Yields fun t => LogInReported t ∨ LogInRefused t) :
      LoopEnds cfg nByCli mdt k os chans s x
  | awaits {s' : Server} (hv : neverAsksInVain cfg k os = true) (hw : allWork cfg k os = true)
      (h : LoopAwaits nByCli mdt k chans s s') : LoopEnds cfg nByCli mdt k os chans s (.done s')

/-- Session code inside the server. -/
theorem lift_yields {α : Type} {f : Session → Outcome Failure (α × Session)} {Q : α × Server → Prop}
    (h : (f s.toSession).Yields fun p => Q (p.1, s.setSession p.2)) : (s.lift f).Yields Q := by
  simp only [lift, Outcome.yields_bind]
  exact h.mono fun _ hp => hp

/-- `send()` on a channel that is there. -/
theorem send_yields {b : Session} {ch : MasterChannel} {rspTo : Option Nat}
    {hndl : Option NativeHandle} {body : Body} {r : Ret} (hm : b.masterChannel = some ch) :
    (b.send rspTo hndl body r).Yields fun p =>
      Session.SendResult b ch (fun id => ⟨id, rspTo, hndl, body⟩) r p.1 p.2 := by
  refine Outcome.yields_iff.mpr ⟨Session.send_safe (by rw [hm]; rfl), ?_⟩
  rintro ⟨c, b'⟩ hd
  obtain ⟨ch', hm', hr⟩ := Session.send_done hd
  rw [hm] at hm'
  cases hm'
  exact hr

/-- `send()` that works puts the message on the wire. -/
theorem lift_send_ok {ch : MasterChannel} {rspTo : Option Nat} {hndl : Option NativeHandle}
    {body : Body} (hm : s.masterChannel = some ch) (hh : ch.hosed = false) :
    s.lift (·.send rspTo hndl body .ok) = .done (.ok ch.nextMsgId,
      s.setSession (s.transmit ch ⟨ch.nextMsgId, rspTo, hndl, body⟩)) := by
  simp [lift, Session.send, Session.call, hm, hh]

/-- One channel is made, and its request is sent. -/
structure Round (s s' : Server) : Prop where
  same : SameLogIn s s'
  worker : s'.w = .idle
  channel : s'.masterChannel.isSome = true
  channelHosed : s'.toSession.channelHosed = false
  log : s.log <+: s'.log
  created : s'.log.countP Event.isResourcesCreated = s.log.countP Event.isResourcesCreated + 1
  asked : s'.log.countP Event.isOpenReqSent = s.log.countP Event.isOpenReqSent + 1

/-- A round before the others. -/
theorem LoopAwaits.after {nByCli k : Nat} {mdt : Mdt} {chans : Channels} {ch : ChannelObj}
    {s₁ : Server} (h : LoopAwaits nByCli mdt k (chans ++ [some ch]) s₁ s') (hr : Round s s₁) :
    LoopAwaits nByCli mdt (k + 1) chans s s' := by
  obtain ⟨new, id, hw, hlen, hnew⟩ := h.worker
  have hcreated := h.created
  have hasked := h.asked
  have hcreated₁ := hr.created
  have hasked₁ := hr.asked
  refine ⟨⟨some ch :: new, id, ?_, by simp [hlen], ?_⟩, hr.same.trans h.same, h.channel,
    h.channelHosed, hr.log.trans h.log, by omega, by omega⟩
  · rw [hw, List.append_assoc]
    rfl
  · intro c hmem
    rcases List.mem_cons.mp hmem with rfl | hmem
    · rfl
    · exact hnew c hmem

/-- Events of resources send nothing. -/
theorem countP_isOpenReqSent_of_isResource {es : List Event}
    (h : ∀ e ∈ es, e.isResource = true) : es.countP Event.isOpenReqSent = 0 := by
  rw [List.countP_eq_zero]
  intro e he
  have hr := h e he
  cases e <;> first | exact Bool.false_ne_true | cases hr

/-- **What a round of the loop comes to**: an assertion fails, or the loop stops with an error, or
    it goes on with one more channel. -/
inductive RoundEnds (cfg : Cfg) (nByCli : Nat) (mdt : Mdt) (k : Nat) (os : List InitOracle)
    (chans : Channels) (s : Server) : Outcome Failure Server → Prop
  | inVain (hv : (os.headD {}).res.asksInVain cfg = true) :
      RoundEnds cfg nByCli mdt k os chans s (.failed .noPeerCreds)
  | stops {x : Outcome Failure Server} (hv : (os.headD {}).res.asksInVain cfg = false)
      (hw : (os.headD {}).works cfg = false)
      (hx : x.Yields fun t => LogInReported t ∨ LogInRefused t) :
      RoundEnds cfg nByCli mdt k os chans s x
  | goesOn {s' : Server} (hv : (os.headD {}).res.asksInVain cfg = false)
      (hw : (os.headD {}).works cfg = true) (ch : ChannelObj) (id : Nat) (h : Round s s') :
      RoundEnds cfg nByCli mdt k os chans s
        (if k = 0 then
          .done (s'.setSession
            (s'.setW (.inSyncRequest (.initChannels (chans ++ [some ch]) nByCli mdt) id none)))
        else initChannelsLoop cfg nByCli mdt k os.tail (chans ++ [some ch]) s')

/-- What a round of the loop comes to. -/
theorem initChannelsLoop_succ (cfg : Cfg) (nByCli k : Nat) (mdt : Mdt) (os : List InitOracle)
    (chans : Channels) (hset : s.logInOnDoneFuncSet = true) (hw : s.w = .idle) {ch : MasterChannel}
    (hm : s.masterChannel = some ch) (hh : ch.hosed = false) :
    RoundEnds cfg nByCli mdt k os chans s
      (initChannelsLoop cfg nByCli mdt (k + 1) os chans s) := by
  rw [initChannelsLoop]
  -- The environment's answers decide whether the round aborts, fails or has a channel.
  obtain ⟨hvain, hreturns⟩ := createChannelAndResources_returnsUnless cfg true
    (os.headD {}).res (by rw [hm]; rfl : s.masterChannel.isSome = true)
  cases hv : (os.headD {}).res.asksInVain cfg with
  | true =>
    simp only [hvain hv, Outcome.failed_bind]
    exact .inVain hv
  -- The resources' function returns: its events are the first of this round.
  | false =>
    obtain ⟨r, s₁, hd, hok⟩ := hreturns hv
    obtain ⟨hl, es, hadds, hes, -, hyes⟩ := createChannelAndResources_made hd
    obtain ⟨hch, hw', hlog⟩ := hadds.frame
    have hm₁ : s₁.masterChannel = some ch := hch.trans hm
    have hw₁ : s₁.w = .idle := hw'.trans hw
    have hset₁ : s₁.logInOnDoneFuncSet = true := hl.logInOnDoneFuncSet.trans hset
    simp only [hd, Outcome.done_bind]
    cases hmade : r.ok with
    | false =>
      have hnot : (os.headD {}).works cfg = false := by
        rw [InitOracle.works, ← hok, hmade, Bool.false_and]
      simp only [Bool.not_false, if_true]
      exact .stops hv hnot ((logInFailed_yields hset₁ hw₁ _ _).mono fun _ => .inl)
    | true =>
      obtain ⟨c, es', hopened, -, hes', hno⟩ := hyes hmade
      simp only [Bool.not_true, Bool.false_eq_true, if_false]
      -- The request that announces the channel is sent or not.
      by_cases hsend : (os.headD {}).send = .ok
      · have hworks : (os.headD {}).works cfg = true := by
          simp only [InitOracle.works, ← hok, hmade, hsend, decide_true, Bool.and_self]
        simp only [hsend, lift_send_ok hm₁ hh, Outcome.done_bind, hopened]
        refine .goesOn hv hworks c ch.nextMsgId ?_
        have hcreated : es.countP Event.isResourcesCreated = 1 := by
          rw [hes', List.countP_append, List.countP_eq_zero.mpr fun e he => by simp [hno e he]]
          rfl
        refine ⟨hl.trans ((SameLogIn.setSession _).trans (.setSession _)), hw₁, rfl, ?_, ?_, ?_, ?_⟩
        · simpa [record, Session.channelHosed] using hh
        · simp [record, hlog]
        · simp [record, hlog, hcreated, Event.isResourcesCreated]
        · simp [record, hlog, countP_isOpenReqSent_of_isResource hes]
          rfl
      · have hnot : (os.headD {}).works cfg = false := by
          simp only [InitOracle.works, hsend, decide_false, Bool.and_false]
        -- It is not: the log-in fails here, or the channel was hosed and its error will end it.
        refine .stops hv hnot ?_
        simp only [Outcome.yields_bind]
        refine lift_yields ((send_yields hm₁).mono ?_)
        rintro ⟨called, b⟩ hr
        generalize (os.headD {}).send = ret at hr hsend
        cases hr with
        | refusedOld hh' e => rw [hh] at hh'; cases hh'
        | refusedNew hh' e =>
          exact .inr ⟨hset₁, by simp [Session.channelHosed], hw₁⟩
        | failed hh' e =>
          exact (logInFailed_yields (by exact hset₁) (by exact hw₁) _ _).mono fun _ => .inl
        | ok hh' => exact absurd rfl hsend

/-- What the loop comes to, by induction on the rounds to go. -/
theorem initChannelsLoop_ends (cfg : Cfg) (nByCli k : Nat) (mdt : Mdt) (os : List InitOracle)
    (chans : Channels) (hset : s.logInOnDoneFuncSet = true) (hw : s.w = .idle)
    (hm : s.masterChannel.isSome = true)
    (hh : s.toSession.channelHosed = false) :
    LoopEnds cfg nByCli mdt (k + 1) os chans s
      (initChannelsLoop cfg nByCli mdt (k + 1) os chans s) := by
  induction k generalizing os chans s with
  | zero =>
    obtain ⟨ch, hm⟩ := Option.isSome_iff_exists.mp hm
    have hround := initChannelsLoop_succ cfg nByCli 0 mdt os chans hset hw hm
      (by simpa [Session.channelHosed, hm] using hh)
    generalize initChannelsLoop cfg nByCli mdt (0 + 1) os chans s = x at hround ⊢
    cases hround with
    | inVain hv => exact .inVain (neverAsksInVain_of_inVain hv)
    | stops hv hw hx => exact .stops (neverAsksInVain_of_stops hv hw) (allWork_of_stops hw) hx
    | goesOn hv hw c id h =>
      rw [if_pos rfl]
      refine .awaits ((neverAsksInVain_succ hv hw).trans rfl) ((allWork_succ hw).trans rfl)
        ⟨⟨[some c], id, rfl, rfl, by simp⟩, h.same.trans (.setSession _), h.channel, h.channelHosed,
          h.log, h.created, h.asked⟩
  | succ k ih =>
    obtain ⟨ch, hm⟩ := Option.isSome_iff_exists.mp hm
    have hround := initChannelsLoop_succ cfg nByCli (k + 1) mdt os chans hset hw hm
      (by simpa [Session.channelHosed, hm] using hh)
    generalize initChannelsLoop cfg nByCli mdt (k + 1 + 1) os chans s = x at hround ⊢
    cases hround with
    | inVain hv => exact .inVain (neverAsksInVain_of_inVain hv)
    | stops hv hw hx => exact .stops (neverAsksInVain_of_stops hv hw) (allWork_of_stops hw) hx
    | @goesOn s₁ hv hw c id h =>
      rw [if_neg (Nat.succ_ne_zero k)]
      -- the rounds that are left decide
      have hrest := ih os.tail (chans ++ [some c])
        (h.same.logInOnDoneFuncSet.trans hset) h.worker h.channel h.channelHosed
      generalize initChannelsLoop cfg nByCli mdt (k + 1) os.tail (chans ++ [some c]) s₁ = x
        at hrest ⊢
      have hvain := neverAsksInVain_succ (k := k + 1) hv hw
      have hall := allWork_succ (k := k + 1) hw
      cases hrest with
      | inVain hv' => exact .inVain (hvain.trans hv')
      | stops hv' hw' hx => exact .stops (hvain.trans hv') (hall.trans hw') hx
      | awaits hv' hw' ha => exact .awaits (hvain.trans hv') (hall.trans hw') (ha.after h)

/-! ### The check -/

variable {r : LogInReq} {o : ServerOracle}

/-- The true sum of the two counts. -/
def initChannelCount (r : LogInReq) (o : ServerOracle) (s : Server) : Nat :=
  r.numInitChannelsByCliReq + if s.out.initChannelsBySrvReq.isSome
    then o.nInitChannelsBySrvReq else 0

/-- The request is one that the server answers. -/
structure Passes (cfg : Cfg) (r : LogInReq) (o : ServerOracle) (s : Server) : Prop where
  authenticated : Authenticated cfg s.osProcCreds s.osProcInvokedAs r
  container : r.numInitChannelsByCliReq ≠ 0 → s.out.initChannelsByCliReq.isSome = true
  preRspSetup : o.preRspSetup = none

/-- A server that has not taken a log-in request yet. -/
structure Ready (s : Server) : Prop where
  protocolNegotiator : s.protocolNegotiator = none
  protocolNegotiatorAux : s.protocolNegotiatorAux = none
  cliAppPtr : s.cliAppPtr = none
  cliNamespace : s.cliNamespace = []
  logInOnDoneFuncSet : s.logInOnDoneFuncSet = true
  worker : s.w = .idle
  channel : s.masterChannel.isSome = true
  log : ∀ e ∈ s.log, e.needsLogIn = false

/-- **The check comes to a result**: to none exactly for a request that passes. -/
theorem checkLogInReq_ok (h : Ready s) (hc : r.claimedOwnProcessCredentials.isSome = true)
    (ho : o.cliNamespace ≠ [] ∧ o.cliNamespace ≠ SharedName.sentinel) :
    ∃ e s₁, s.checkLogInReq cfg r o = .done (e, s₁) ∧ (e = none ↔ Passes cfg r o s) := by
  by_cases hauth : Authenticated cfg s.osProcCreds s.osProcInvokedAs r
  · obtain ⟨hv₁, hv₂, hshm, hmq, hnh, hallowed, hclaimed, app, happ, hpath, hu, hg⟩ := hauth
    have hauth : Authenticated cfg s.osProcCreds s.osProcInvokedAs r :=
      ⟨hv₁, hv₂, hshm, hmq, hnh, hallowed, hclaimed, app, happ, hpath, hu, hg⟩
    simp only [checkLogInReq, computeNegotiatedProtoVer, h.protocolNegotiator,
      h.protocolNegotiatorAux, hv₁, hv₂, hshm, hmq, hnh, ne_eq, not_true_eq_false,
      or_self, if_false]
    by_cases hnull : ¬ r.numInitChannelsByCliReq = 0 ∧ s.out.initChannelsByCliReq = none
    · rw [if_pos hnull]
      refine ⟨_, _, rfl, (by rintro ⟨⟩), fun hp => ?_⟩
      have hsome := hp.container hnull.1
      rw [hnull.2] at hsome
      cases hsome
    · -- nothing that the request says is in the way
      rw [if_neg hnull]
      have hn : s.cliNamespace = [] := h.cliNamespace
      simp only [hclaimed, happ, hallowed, not_true_eq_false, if_false, h.cliAppPtr,
        Option.isNone_none, Outcome.check_true, Outcome.done_bind, hpath, hu, hg, or_self]
      have hset : ∀ t : Server, t.cliNamespace = [] →
          t.liftUnit (·.setCliNamespace o.cliNamespace) =
            .done (t.setSession (t.putCliNamespace o.cliNamespace)) := by
        intro t ht
        simp [liftUnit, Session.setCliNamespace, ho.1, ho.2, ht, Outcome.check]
      rw [hset, Outcome.done_bind]
      · refine ⟨_, _, rfl, fun hpre => ⟨hauth, fun hne => ?_, hpre⟩, fun hp => hp.preRspSetup⟩
        rw [Option.isSome_iff_ne_none]
        exact fun hnone => hnull ⟨hne, hnone⟩
      · exact hn
  -- A request that is not authentic ends in an error, or in the assertion on its credentials.
  · rcases checkLogInReq_refused (o := o) h.protocolNegotiator h.protocolNegotiatorAux h.cliAppPtr
      hauth with ⟨e, s₁, heq, -⟩ | ⟨hnone, -⟩
    · exact ⟨_, s₁, heq, (by rintro ⟨⟩), fun hp => absurd hp.authenticated hauth⟩
    · rw [hnone] at hc
      cases hc

/-! ### The handler -/

/-- The response has been sent, with the number of init-channels that the server adds. -/
def Responded (r : LogInReq) (o : ServerOracle) (s s' : Server) : Prop :=
  ∃ m rsp, Event.sent m ∈ s'.log ∧ m.body = .logInRsp rsp ∧
    rsp.numInitChannelsBySrvReq = initChannelCount r o s - r.numInitChannelsByCliReq

/-- The log-in has succeeded: as many channels have been made, asked for and emitted as the sum
    says.  With none of them the containers are left alone. -/
structure Succeeded (r : LogInReq) (o : ServerOracle) (s s' : Server) : Prop where
  accepted : s'.accepted = true
  worker : s'.w = .idle
  done : ∃ site, Event.logInDone none site s'.out ∈ s'.log
  responded : Responded r o s s'
  created : s'.log.countP Event.isResourcesCreated = initChannelCount r o s
  asked : s'.log.countP Event.isOpenReqSent = initChannelCount r o s
  untouched : initChannelCount r o s = 0 →
    s'.out.initChannelsByCliReq = s.out.initChannelsByCliReq ∧
      s'.out.initChannelsBySrvReq = s.out.initChannelsBySrvReq
  emitted : initChannelCount r o s ≠ 0 →
    (s'.out.initChannelsByCliReq.getD []).length = r.numInitChannelsByCliReq ∧
    (s'.out.initChannelsByCliReq.getD [] ++ s'.out.initChannelsBySrvReq.getD []).length =
      initChannelCount r o s ∧
    ∀ ch ∈ s'.out.initChannelsByCliReq.getD [] ++ s'.out.initChannelsBySrvReq.getD [],
      ch.isSome = true

/-- The handler waits in its `sync_request()`, with everything made and asked for. -/
structure Awaits (r : LogInReq) (o : ServerOracle) (s s' : Server) : Prop where
  worker : ∃ chans mdt id rsp, s'.w =
    .inSyncRequest (.initChannels chans r.numInitChannelsByCliReq mdt) id rsp ∧
      chans.length = initChannelCount r o s ∧ ∀ ch ∈ chans, ch.isSome = true
  container : r.numInitChannelsByCliReq ≠ 0 → s.out.initChannelsByCliReq.isSome = true
  same : SameLogIn s s'
  responded : Responded r o s s'
  created : s'.log.countP Event.isResourcesCreated = initChannelCount r o s
  asked : s'.log.countP Event.isOpenReqSent = initChannelCount r o s

/-- The ways in which the handler ends. -/
inductive LogInEnds (r : LogInReq) (o : ServerOracle) (s : Server) : Server → Prop
  | reported {s' : Server} (h : LogInReported s') : LogInEnds r o s s'
  | refused {s' : Server} (h : LogInRefused s') : LogInEnds r o s s'
  | succeeded {s' : Server} (h : Succeeded r o s s') : LogInEnds r o s s'

/-- A log-in that has ended leaves thread W idle. -/
theorem LogInEnds.worker (h : LogInEnds r o s s') : s'.w = .idle := by
  cases h with
  | reported h => exact h.worker
  | refused h => exact h.worker
  | succeeded h => exact h.worker

/-- What the handler comes to before it ends: it ends right here, or it waits. -/
def LogInGoesOn (r : LogInReq) (o : ServerOracle) (s s' : Server) : Prop :=
  LogInEnds r o s s' ∨ (Awaits r o s s' ∧ initChannelCount r o s ≠ 0)

/-- The response goes out. -/
def Responds (o : ServerOracle) (s : Server) : Prop :=
  o.send = .ok ∧ s.toSession.channelHosed = false

/-- There is memory for what the emission puts into the user's containers. -/
structure EmissionFits (r : LogInReq) (o : ServerOracle) (eo : EmitOracle) (s : Server) :
    Prop where
  byCli : s.out.initChannelsByCliReq.isSome = true → r.numInitChannelsByCliReq ≠ 0 → eo.byCli = true
  bySrv : s.out.initChannelsBySrvReq.isSome = true → o.nInitChannelsBySrvReq ≠ 0 → eo.bySrv = true

/-- The init-channels can be taken on: a vector takes that many and there is memory for it, no round
    of the loop asks for the peer's credentials in vain, and, if all rounds work, there is memory
    for the user's containers. -/
structure WorkFits (cfg : Cfg) (r : LogInReq) (o : ServerOracle) (eo : EmitOracle) (s : Server) :
    Prop where
  vector : initChannelCount r o s ≤ cfg.maxVecSize
  memory : o.reserve = true
  creds : neverAsksInVain cfg (initChannelCount r o s) o.init = true
  emission : allWork cfg (initChannelCount r o s) o.init = true → EmissionFits r o eo s

/-- What is left of that once the handler waits. -/
structure AwaitsFit (cfg : Cfg) (r : LogInReq) (o : ServerOracle) (eo : EmitOracle) (s : Server) :
    Prop where
  nonzero : initChannelCount r o s ≠ 0
  vector : initChannelCount r o s ≤ cfg.maxVecSize
  emission : EmissionFits r o eo s

/-- For a request that passes, the sum of the counts fits a `size_t`, and the init-channels, if
    there are any, can be taken on if it comes to that. -/
def CountsFit (cfg : Cfg) (r : LogInReq) (o : ServerOracle) (eo : EmitOracle) (s : Server) : Prop :=
  Passes cfg r o s → initChannelCount r o s < 2 ^ 64 ∧
    (Responds o s → initChannelCount r o s ≠ 0 → WorkFits cfg r o eo s)

/-- A log so far without anything that takes a log-in has no channels and no requests. -/
theorem counts_of_needsLogIn {l : List Event} (h : ∀ e ∈ l, e.needsLogIn = false) :
    l.countP Event.isResourcesCreated = 0 ∧ l.countP Event.isOpenReqSent = 0 := by
  constructor <;> rw [List.countP_eq_zero] <;> intro e he hc <;> have hn := h e he <;>
    cases e <;> first | exact Bool.false_ne_true hc | exact Bool.false_ne_true hn.symm

/-- What the check leaves behind, when it finds nothing. -/
theorem Ready.checked {s₁ : Server} {e : ErrorCode} (h : Ready s)
    (hd : s.checkLogInReq cfg r o = .done (e, s₁)) :
    SameLogIn s s₁ ∧ s₁.logInOnDoneFuncSet = true ∧ s₁.w = .idle ∧
      s₁.masterChannel = s.masterChannel ∧
      s₁.log.countP Event.isResourcesCreated = 0 ∧ s₁.log.countP Event.isOpenReqSent = 0 := by
  have hck := checkLogInReq_done hd
  have hl := hck.same
  obtain ⟨hcreated, hasked⟩ := counts_of_needsLogIn h.log
  refine ⟨hl, hl.logInOnDoneFuncSet.trans h.logInOnDoneFuncSet, hck.worker.trans h.worker, ?_⟩
  cases hck with
  | rejected e hb => rw [hb]; exact ⟨rfl, hcreated, hasked⟩
  | passed hn hname hb =>
    rw [hb]
    refine ⟨rfl, ?_, ?_⟩
    · simp [hcreated, Event.isResourcesCreated]
    · simp [hasked, Event.isOpenReqSent]

/-- The end of a log-in that goes on, written out. -/
theorem logInDone_eq (hset : s.logInOnDoneFuncSet = true) (e : ErrorCode) (site : LogInSite) :
    s.logInDone e site = .done { s with
      toSession := s.toSession.record (.logInDone e site s.out)
      logInOnDoneFuncSet := false
      accepted := e.isNone } := by
  simp [logInDone, hset, Outcome.check]

/-- More events do not unsend the response. -/
theorem Responded.mono {s₁ : Server} (h : Responded r o s s₁) (hlog : s₁.log <+: s'.log) :
    Responded r o s s' := by
  obtain ⟨m, rsp, hmem, hbody, hnum⟩ := h
  exact ⟨m, rsp, hlog.subset hmem, hbody, hnum⟩

/-- The response is out, and nothing else has been done for the request. -/
structure AfterResponse (r : LogInReq) (o : ServerOracle) (s s' : Server) : Prop where
  same : SameLogIn s s'
  logInOnDoneFuncSet : s'.logInOnDoneFuncSet = true
  worker : s'.w = .idle
  channel : s'.masterChannel.isSome = true
  channelHosed : s'.toSession.channelHosed = false
  responded : Responded r o s s'
  created : s'.log.countP Event.isResourcesCreated = 0
  asked : s'.log.countP Event.isOpenReqSent = 0

/-- The handler from the time the response is out. -/
def respondedLogIn (cfg : Cfg) (r : LogInReq) (o : ServerOracle) (n : Nat) (s : Server) :
    Outcome Failure Server :=
  if n = 0 then
    ({ s with out := { s.out with mdt := s.out.mdt.map (fun _ => some r.metadata) } } :
        Server).logInDone
      none .request
  else do
    reserve cfg n o.reserve
    initChannelsLoop cfg r.numInitChannelsByCliReq r.metadata n o.init [] s

/-- **The handler up to the response**, for a request that passes: the response goes out. -/
theorem onLogInReq_responds {m : Msg} (h : Ready s) (hm : m.body = .logInReq r)
    (hc : r.claimedOwnProcessCredentials.isSome = true)
    (ho : o.cliNamespace ≠ [] ∧ o.cliNamespace ≠ SharedName.sentinel) (hp : Passes cfg r o s)
    (hlt : initChannelCount r o s < 2 ^ 64) (hresp : Responds o s) :
    ∃ s₂, AfterResponse r o s s₂ ∧
      s.onLogInReq cfg m o = respondedLogIn cfg r o (initChannelCount r o s) s₂ := by
  obtain ⟨e, s₁, hd, hpass⟩ : ∃ e s₁, s.checkLogInReq cfg r o = .done (e, s₁) ∧
    (e = none ↔ Passes cfg r o s) := checkLogInReq_ok h hc ho
  obtain rfl := hpass.mpr hp
  obtain ⟨hl, hset, hw, hch, hcreated, hasked⟩ := h.checked hd
  obtain ⟨ch, hm₀⟩ := Option.isSome_iff_exists.mp h.channel
  have hm₁ : s₁.masterChannel = some ch := hch.trans hm₀
  have hh : ch.hosed = false := by simpa [Session.channelHosed, hm₀] using hresp.2
  have hn : nInitChannels r o s₁ = initChannelCount r o s := by
    rw [nInitChannels, hl.out]
    exact Nat.mod_eq_of_lt hlt
  refine ⟨s₁.setSession (s₁.transmit ch ⟨ch.nextMsgId, some m.id, none, logInRsp cfg r o s₁⟩),
    ⟨hl.trans (.setSession _), hset, hw, rfl, ?_, ?_, ?_, ?_⟩, ?_⟩
  · simpa [Session.channelHosed] using hh
  · refine ⟨_, _, List.mem_append_right _ (List.mem_singleton_self _), rfl, ?_⟩
    have hge : r.numInitChannelsByCliReq ≤ initChannelCount r o s := Nat.le_add_right _ _
    simp only [hn]
    omega
  · simp [hcreated, Event.isResourcesCreated]
  · simp [hasked, Event.isOpenReqSent, logInRsp]
  · simp only [onLogInReq, h.channel, Outcome.check_true, Outcome.done_bind, hm, hd, hresp.1,
      lift_send_ok hm₁ hh, hn, respondedLogIn]

/-- The handler reports an error, or the error handler will, if it does not come to the response. -/
theorem onLogInReq_refuses {m : Msg} (h : Ready s) (hm : m.body = .logInReq r)
    (hc : r.claimedOwnProcessCredentials.isSome = true)
    (ho : o.cliNamespace ≠ [] ∧ o.cliNamespace ≠ SharedName.sentinel)
    (hno : Passes cfg r o s → ¬ Responds o s) :
    (s.onLogInReq cfg m o).Yields (LogInEnds r o s) := by
  obtain ⟨e, s₁, hd, hpass⟩ : ∃ e s₁, s.checkLogInReq cfg r o = .done (e, s₁) ∧
    (e = none ↔ Passes cfg r o s) := checkLogInReq_ok h hc ho
  obtain ⟨hl, hset, hw, hch, -⟩ := h.checked hd
  obtain ⟨ch, hm₀⟩ := Option.isSome_iff_exists.mp h.channel
  have hm₁ : s₁.masterChannel = some ch := hch.trans hm₀
  simp only [onLogInReq, h.channel, Outcome.check_true, Outcome.done_bind, hm, hd]
  cases e with
  | some e => exact (logInFailed_yields hset hw _ _).mono fun _ => .reported
  | none =>
    simp only [Outcome.yields_bind]
    refine lift_yields ((send_yields hm₁).mono ?_)
    rintro ⟨called, b⟩ hsend
    generalize hret : o.send = ret at hsend
    cases hsend with
    | refusedOld hh e => exact .refused ⟨hset, by simp [Session.channelHosed, hm₁, hh], hw⟩
    | refusedNew hh e => exact .refused ⟨hset, by simp [Session.channelHosed], hw⟩
    | failed hh e =>
      exact (logInFailed_yields (by exact hset) (by exact hw) _ _).mono fun _ => .reported
    | ok hh =>
      exact absurd ⟨hret, by simp [Session.channelHosed, hm₀, hh]⟩ (hno (hpass.mp rfl))

/-- With no init-channels, that is it. -/
theorem AfterResponse.noInitChannels (h : AfterResponse r o s s')
    (hz : initChannelCount r o s = 0) :
    (respondedLogIn cfg r o (initChannelCount r o s) s').Yields (LogInEnds r o s) := by
  rw [respondedLogIn, if_pos hz, logInDone_eq (by exact h.logInOnDoneFuncSet)]
  refine .succeeded ⟨rfl, h.worker,
    ⟨.request, List.mem_append_right _ (List.mem_singleton_self _)⟩,
    h.responded.mono (List.prefix_append _ _), ?_, ?_, fun _ => ⟨?_, ?_⟩, fun hne => absurd hz hne⟩
  · simp [h.created, hz, Event.isResourcesCreated]
  · simp [h.asked, hz, Event.isOpenReqSent]
  · rw [← h.same.out]
  · rw [← h.same.out]

/-- Sizing a vector throws nothing where there can be such a vector, and there is memory for it. -/
theorem reserve_yields {n : Nat} {mem : Bool} {Q : Unit → Prop} :
    (reserve cfg n mem).Yields Q ↔ n ≤ cfg.maxVecSize ∧ (n ≠ 0 → mem = true) ∧ Q () := by
  simp only [reserve, Outcome.yields_bind, Outcome.yields_check, decide_eq_true_eq]
  cases mem <;> simp

/-- The loop waits with everything made and asked for. -/
theorem AfterResponse.awaits {s₂ : Server} (h : AfterResponse r o s s₂)
    (hcont : r.numInitChannelsByCliReq ≠ 0 → s.out.initChannelsByCliReq.isSome = true)
    (hl : LoopAwaits r.numInitChannelsByCliReq r.metadata (initChannelCount r o s) [] s₂ s') :
    Awaits r o s s' := by
  obtain ⟨new, id, hw, hlen, hnew⟩ := hl.worker
  have hcreated := hl.created
  have hasked := hl.asked
  have hcreated₂ := h.created
  have hasked₂ := h.asked
  exact ⟨⟨new, _, id, none, hw, hlen, hnew⟩, hcont, h.same.trans hl.same,
    h.responded.mono hl.log, by omega, by omega⟩

/-- **What the handler comes to**, where the counts fit. -/
theorem onLogInReq_yields {m : Msg} {eo : EmitOracle} (h : Ready s) (hm : m.body = .logInReq r)
    (hc : r.claimedOwnProcessCredentials.isSome = true)
    (ho : o.cliNamespace ≠ [] ∧ o.cliNamespace ≠ SharedName.sentinel)
    (hfit : CountsFit cfg r o eo s) :
    (s.onLogInReq cfg m o).Yields fun s' =>
      LogInEnds r o s s' ∨ (Awaits r o s s' ∧ AwaitsFit cfg r o eo s) := by
  by_cases hp : Passes cfg r o s ∧ Responds o s
  · obtain ⟨hp, hresp⟩ := hp
    obtain ⟨hlt, hwork⟩ := hfit hp
    obtain ⟨s₂, hafter, heq⟩ := onLogInReq_responds h hm hc ho hp hlt hresp
    rw [heq]
    by_cases hz : initChannelCount r o s = 0
    · exact (hafter.noInitChannels hz).mono fun _ => .inl
    · obtain ⟨hmax, hmem, hcreds, hemit⟩ := hwork hresp hz
      obtain ⟨k, hk⟩ := Nat.exists_eq_succ_of_ne_zero hz
      rw [respondedLogIn, if_neg hz]
      simp only [Outcome.yields_bind, reserve_yields]
      refine ⟨hmax, fun _ => hmem, ?_⟩
      have hends := initChannelsLoop_ends cfg r.numInitChannelsByCliReq k r.metadata o.init []
        hafter.logInOnDoneFuncSet hafter.worker hafter.channel hafter.channelHosed
      rw [hk] at hcreds hemit ⊢
      generalize initChannelsLoop cfg r.numInitChannelsByCliReq r.metadata (k + 1) o.init [] s₂ = x
        at hends ⊢
      cases hends with
      | inVain hv => rw [hcreds] at hv; cases hv
      | stops hv hw hx =>
        refine hx.mono ?_
        rintro t (ht | ht)
        · exact .inl (.reported ht)
        · exact .inl (.refused ht)
      | awaits hv hw ha =>
        exact .inr ⟨hafter.awaits hp.container (hk ▸ ha), hz, hk ▸ hmax, hemit hw⟩
  · exact (onLogInReq_refuses h hm hc ho fun hp' hr => hp ⟨hp', hr⟩).mono fun _ => .inl

/-! ### While the handler waits -/

/-- Thread W returns from a `sync_request()`. -/
def Act.isSyncReturn : Act → Bool
  | syncReturn .. => true
  | _ => false

/-- An in-message leaves thread W in its `sync_request()`. -/
theorem deliver_inSync {b b' : Session} {m : Msg} {k : SyncCall} {id : Nat} {rsp : Option Msg}
    (hw : b.w = .inSyncRequest k id rsp) (hd : b.deliver m = .done b') :
    (∃ rsp', b'.w = .inSyncRequest k id rsp') ∧ b'.log = b.log := by
  obtain ⟨ch, -, -, ⟨req, -, rfl⟩ | ⟨-, rfl⟩⟩ := Session.deliver_done hd
  · unfold Session.deliverRsp
    split
    · split <;> exact ⟨⟨rsp, hw⟩, rfl⟩
    · split
      · rename_i hw'
        rw [hw] at hw'
        cases hw'
        split
        · exact ⟨⟨_, rfl⟩, rfl⟩
        · exact ⟨⟨_, hw⟩, rfl⟩
      · exact ⟨⟨rsp, hw⟩, rfl⟩
  · simp only [Session.deliverUnsolicited]
    split
    · split <;> exact ⟨⟨rsp, hw⟩, rfl⟩
    · split <;> exact ⟨⟨rsp, hw⟩, rfl⟩
    · split <;> exact ⟨⟨rsp, hw⟩, rfl⟩

/-- **While thread W waits in a log-in** the server does nothing: the channel and the destructor go
    on around it, and nothing but the error of the channel is recorded. -/
theorem waiting_step {a : Act} {k : SyncCall} {id : Nat} {rsp : Option Msg}
    (hw : s.w = .inSyncRequest k id rsp) (hacc : s.accepted = false) (hhalts : s.Halts)
    (ha : a.isSyncReturn = false) (hd : step cfg s a = .done s') :
    ∃ b es, s' = s.setSession b ∧ (∃ rsp', b.w = .inSyncRequest k id rsp') ∧
      b.log = s.log ++ es ∧ ∀ e ∈ es, ∃ err, e = .channelError true err := by
  have hidle : s.w ≠ .idle := by rw [hw]; exact nofun
  -- The destructor's acts leave thread W where it is: waiting.
  have hdtor : ∀ {b : Session}, s.toSession.DtorAct b →
      ∃ b' es, s.setSession b = s.setSession b' ∧ (∃ rsp', b'.w = .inSyncRequest k id rsp') ∧
        b'.log = s.log ++ es ∧ ∀ e ∈ es, ∃ err, e = Event.channelError true err := by
    intro b hact
    cases hact with
    | flushDone hw' => rw [hw] at hw'; cases hw'
    | stop hd hw' => rw [hw] at hw'; cases hw'
    | _ => exact ⟨_, [], rfl, ⟨rsp, hw⟩, (List.append_nil _).symm, fun e he => by cases he⟩
  cases a with
  -- The user has no session object before the log-in is accepted.
  | initHandlers => simp [step, hacc, Outcome.require] at hd
  | mdtBuilder => simp [step, hacc, Outcome.require] at hd
  | openChannel => simp [step, hacc, Outcome.require] at hd
  | sessionToken => simp [step, hacc, Outcome.require] at hd
  -- Thread W runs no task while it waits.
  | run o' =>
    simp only [step, Outcome.bind_eq_done, Prod.exists] at hd
    obtain ⟨t, s₁, h₁, -⟩ := hd
    obtain ⟨b, hb, rfl⟩ := lift_done h₁
    exact absurd (Session.takeTask_done hb).1 hidle
  | syncReturn => cases ha
  | deliver m =>
    obtain ⟨b, hb, rfl⟩ := liftUnit_done hd
    obtain ⟨hw', hlog⟩ := deliver_inSync hw hb
    exact ⟨b, [], rfl, hw', by rw [hlog, List.append_nil], fun e he => by cases he⟩
  -- The channel may fail in the meantime, which sync_request() will return with.
  | channelError e =>
    obtain ⟨b, hb, rfl⟩ := liftUnit_done hd
    obtain ⟨ch, -, -, rfl⟩ := Session.channelError_done hb
    refine ⟨_, [.channelError true e], rfl, ⟨rsp, hw⟩, rfl, fun e' he => ?_⟩
    exact ⟨e, List.mem_singleton.mp he⟩
  | dtorStart =>
    obtain ⟨b, hb, rfl⟩ := liftUnit_done hd
    exact hdtor (Session.dtorStart_act hb)
  | dtorStep =>
    obtain ⟨b, hb, rfl⟩ := liftUnit_done hd
    exact hdtor (Session.dtorStep_act hb)
  | flushDone =>
    obtain ⟨b, hb, rfl⟩ := liftUnit_done hd
    exact hdtor (Session.dtorFlushDone_act hb)
  -- The destructor joins thread W first, so it cannot have come to its end.
  | dtorFinish =>
    simp only [step, dtorFinish, Outcome.bind_eq_done, Outcome.require_eq_done] at hd
    obtain ⟨-, hdt, -⟩ := hd
    have hstop := hhalts (by rw [of_decide_eq_true hdt]; rfl)
    rw [hw] at hstop
    cases hstop

/-- **While the handler waits** nothing happens to what it has done. -/
theorem Awaits.step {s₁ s₂ : Server} {a : Act} (h : Awaits r o s s₁) (hacc : s.accepted = false)
    (hhalts : s₁.Halts) (ha : a.isSyncReturn = false) (hd : step cfg s₁ a = .done s₂) :
    Awaits r o s s₂ := by
  obtain ⟨chans, mdt, id, rsp, hw, hchans⟩ := h.worker
  obtain ⟨b, es, rfl, ⟨rsp', hw'⟩, hlog, hes⟩ :=
    waiting_step hw (h.same.accepted.trans hacc) hhalts ha hd
  have hcreated : es.countP Event.isResourcesCreated = 0 := List.countP_eq_zero.mpr fun e he => by
    obtain ⟨err, rfl⟩ := hes e he
    exact Bool.false_ne_true
  have hasked : es.countP Event.isOpenReqSent = 0 := List.countP_eq_zero.mpr fun e he => by
    obtain ⟨err, rfl⟩ := hes e he
    exact Bool.false_ne_true
  refine ⟨⟨chans, mdt, id, rsp', hw', hchans⟩, h.container, h.same.trans (.setSession _),
    h.responded.mono ?_, ?_, ?_⟩
  · show s₁.log <+: b.log
    rw [hlog]
    exact List.prefix_append _ _
  · show b.log.countP _ = _
    rw [hlog, List.countP_append, hcreated, h.created, Nat.add_zero]
  · show b.log.countP _ = _
    rw [hlog, List.countP_append, hasked, h.asked, Nat.add_zero]

/-- `sync_request()` returns without a response. -/
theorem syncReturnNoResponse_yields {b : Session} {rsp : Option Msg} {res : Session.SyncRes}
    (hm : b.masterChannel.isSome = true) :
    (b.syncReturnNoResponse res rsp).Yields fun p => Session.SyncNoResponse b res p.1 p.2 := by
  refine Outcome.yields_iff.mpr ⟨?_, fun p hd => (Session.syncReturnNoResponse_done hd).2⟩
  refine Safe.not_failed ?_
  simp only [Session.syncReturnNoResponse, Outcome.failsOnly_bind, Outcome.failsOnly_require,
    true_and]
  intro _ _
  cases res with
  | response => simp
  | timeout => simp
  | refused e =>
    simp only [Outcome.failsOnly_bind]
    exact ⟨Session.callNoError_safe (by exact hm), fun _ _ => by simp⟩
  | failed e =>
    simp only [Outcome.failsOnly_bind, Outcome.failsOnly_require, true_and]
    intro _ _
    refine ⟨Session.call_safe (by exact hm), fun _ _ => ?_⟩
    split <;> simp

/-- A container is sized if it is given. -/
theorem reserve_yields_of_given {given : Bool} {n : Nat} {mem : Bool} {Q : Unit → Prop} :
    (if given = true then reserve cfg n mem else .done ()).Yields Q ↔
      (given = true → n ≤ cfg.maxVecSize ∧ (n ≠ 0 → mem = true)) ∧ Q () := by
  cases given with
  | true => simp [reserve_yields, and_assoc]
  | false => simp

/-- **When the emission goes through**: there is memory, there are enough channels, and none is left
    over.  The first `idx` of them are the client's. -/
theorem emitInitChannels_yields_iff (idx : Nat) {chans : Channels} {nByCli : Nat} {mdt : Mdt}
    {eo : EmitOracle} {Q : Server → Prop}
    (hidx : (if s.out.initChannelsByCliReq.isSome then nByCli else 0) = idx) :
    (s.emitInitChannels cfg chans nByCli mdt eo).Yields Q ↔
      (s.out.initChannelsByCliReq.isSome = true →
        nByCli ≤ cfg.maxVecSize ∧ (nByCli ≠ 0 → eo.byCli = true)) ∧
      idx ≤ chans.length ∧
      (s.out.initChannelsBySrvReq.isSome = true →
        chans.length - idx ≤ cfg.maxVecSize ∧ (chans.length - idx ≠ 0 → eo.bySrv = true)) ∧
      (s.out.initChannelsBySrvReq.isSome = true ∨ idx = chans.length) ∧
      Q { s with out := {
        initChannelsByCliReq := s.out.initChannelsByCliReq.map fun _ => chans.take idx
        initChannelsBySrvReq := s.out.initChannelsBySrvReq.map fun _ => chans.drop idx
        mdt := s.out.mdt.map fun _ => some mdt } } := by
  subst hidx
  simp only [emitInitChannels, Outcome.yields_bind, Outcome.yields_check, decide_eq_true_eq,
    Outcome.pure_eq, reserve_yields_of_given, Bool.or_eq_true, Outcome.yields_done]

/-- The emission has room for what is there, and leaves nothing over. -/
theorem emitInitChannels_yields {chans : Channels} {nByCli : Nat} {mdt : Mdt} {eo : EmitOracle}
    (hmax : chans.length ≤ cfg.maxVecSize) (hle : nByCli ≤ chans.length)
    (hcli : nByCli ≠ 0 → s.out.initChannelsByCliReq.isSome = true)
    (hsrv : s.out.initChannelsBySrvReq = none → chans.length = nByCli)
    (hmemCli : s.out.initChannelsByCliReq.isSome = true → nByCli ≠ 0 → eo.byCli = true)
    (hmemSrv : s.out.initChannelsBySrvReq.isSome = true → chans.length ≠ nByCli → eo.bySrv = true) :
    (s.emitInitChannels cfg chans nByCli mdt eo).Yields fun s' =>
      (∃ out, s' = { s with out }) ∧
      (s'.out.initChannelsByCliReq.getD []).length = nByCli ∧
      s'.out.initChannelsByCliReq.getD [] ++ s'.out.initChannelsBySrvReq.getD [] = chans := by
  have hmaxSrv : ∀ k, chans.length - k ≤ cfg.maxVecSize :=
    fun k => Nat.le_trans (Nat.sub_le _ k) hmax
  cases hc : s.out.initChannelsByCliReq with
  | some cs =>
    rw [emitInitChannels_yields_iff nByCli (by simp [hc])]
    refine ⟨fun _ => ⟨Nat.le_trans hle hmax, hmemCli (by rw [hc]; rfl)⟩, hle,
      fun hs => ⟨hmaxSrv _, fun hne => hmemSrv hs (by omega)⟩, ?_, ⟨_, rfl⟩, ?_⟩
    · cases hs : s.out.initChannelsBySrvReq with
      | some cs' => exact .inl rfl
      | none => exact .inr (hsrv hs).symm
    · cases hs : s.out.initChannelsBySrvReq with
      | some cs' => simp [hc, hle]
      | none => simp [hc, ← hsrv hs]
  | none =>
    -- A request for channels has a container to go to, so without one there were none.
    have hz : nByCli = 0 := by
      by_contra hne
      have := hcli hne
      rw [hc] at this
      cases this
    subst hz
    rw [emitInitChannels_yields_iff 0 (by simp [hc])]
    refine ⟨(by rw [hc]; exact nofun), Nat.zero_le _, fun hs => ⟨hmaxSrv _, hmemSrv hs⟩, ?_,
      ⟨_, rfl⟩, ?_⟩
    · cases hs : s.out.initChannelsBySrvReq with
      | some cs' => exact .inl rfl
      | none => exact .inr (hsrv hs).symm
    · cases hs : s.out.initChannelsBySrvReq with
      | some cs' => simp [hc]
      | none => simp [hc, List.length_eq_zero_iff.mp (hsrv hs)]

/-- **The handler after its `sync_request()`**: it emits what it has made, or the log-in fails. -/
theorem Awaits.syncReturn {s₁ : Server} {res : Session.SyncRes} {eo : EmitOracle}
    (h : Awaits r o s s₁) (hf : AwaitsFit cfg r o eo s) (hset : s₁.logInOnDoneFuncSet = true)
    (hm : s₁.masterChannel.isSome = true) :
    (Server.step cfg s₁ (.syncReturn res eo)).Yields (LogInEnds r o s) := by
  obtain ⟨chans, mdt, id, rsp, hw, hlen, hsome⟩ := h.worker
  -- Without a response every result of the call is an error, reported or swallowed.
  have hnone : (s₁.notAcknowledged res rsp).Yields (LogInEnds r o s) := by
    simp only [notAcknowledged, Outcome.yields_bind, Outcome.yields_require]
    intro hres
    refine lift_yields ((syncReturnNoResponse_yields hm).mono ?_)
    rintro ⟨e, b⟩ hr
    cases hr with
    | timeout => simp at hres
    | refusedOld ch hm hh e =>
      exact .refused ⟨hset, by simp [Session.channelHosed, hm, hh], rfl⟩
    | refusedNew ch hm hh e => exact .refused ⟨hset, by simp [Session.channelHosed], rfl⟩
    | failed ch hm hh e he =>
      exact (logInFailed_yields (by exact hset) rfl _ _).mono fun _ h => .reported h
  simp only [Server.step, hw, initChannelsSyncReturn]
  cases rsp with
  | none => cases res <;> exact hnone
  | some m =>
    cases res with
    | response =>
      have hout : s₁.out = s.out := h.same.out
      -- The lengths that the emission needs: the first part by the client, the rest by the server.
      have hle : r.numInitChannelsByCliReq ≤ chans.length := by
        rw [hlen]
        exact Nat.le_add_right _ _
      have hleft : s.out.initChannelsBySrvReq.isSome = true →
          chans.length ≠ r.numInitChannelsByCliReq → o.nInitChannelsBySrvReq ≠ 0 := by
        intro hs hne hz
        exact hne (by rw [hlen, initChannelCount, if_pos hs, hz, Nat.add_zero])
      simp only [Outcome.yields_bind]
      refine (emitInitChannels_yields (s := s₁.setSession (s₁.setW .idle)) (hlen ▸ hf.vector) hle
        (hout ▸ h.container) (fun hs => ?_) (hout ▸ hf.emission.byCli) (fun hs hne => ?_)).mono ?_
      · have hs' : s.out.initChannelsBySrvReq = none := hout ▸ hs
        rw [hlen, initChannelCount, hs']
        rfl
      · have hs' : s.out.initChannelsBySrvReq.isSome = true := hout ▸ hs
        exact hf.emission.bySrv hs' (hleft hs' hne)
      · rintro s' ⟨⟨out, rfl⟩, hbyCli, hall⟩
        rw [logInDone_eq (by exact hset)]
        -- The log-in is done: each conjunct is read off what `Awaits` counted.
        refine .succeeded ⟨rfl, rfl, ⟨.initChannels, List.mem_append_right _
          (List.mem_singleton_self _)⟩, h.responded.mono (List.prefix_append _ _), ?_, ?_,
          fun hz => absurd hz hf.nonzero, fun _ => ⟨hbyCli, ?_, ?_⟩⟩
        · simp [h.created, Event.isResourcesCreated]
        · simp [h.asked, Event.isOpenReqSent]
        · exact (congrArg List.length hall).trans hlen
        · intro ch hmem
          exact hsome ch (hall ▸ hmem)
    | timeout => exact hnone
    | refused e => exact hnone
    | failed e => exact hnone

/-! ### Every log-in request -/

/-- The error handler has an error to report. -/
def ReportPending (s : Server) : Prop :=
  ∃ ch e, s.masterChannel = some ch ∧ Task.masterChannelError ch.id e ∈ s.queue

/-- **What the handler is to come to** when thread W takes the log-in request `r` in state `s`: it
    does not fail, before its `sync_request()` or after it; it computes the true sum; it ends with a
    report, or with a success that has as many channels as that, or the error handler reports.
    `eo` is what the environment decides at the emission. -/
structure HandlesLogIn (cfg : Cfg) (r : LogInReq) (o : ServerOracle) (eo : EmitOracle)
    (s : Server) :
    Prop where
  count : Passes cfg r o s → nInitChannels r o s = initChannelCount r o s
  handler : (step cfg s (.run o)).Yields fun s₁ =>
    LogInGoesOn r o s s₁ ∧ (LogInRefused s₁ → ReportPending s₁)
  /-- Whatever else happens while it waits. -/
  finishes : ∀ s₁ s₂ res, step cfg s (.run o) = .done s₁ → s₁.w.inInitChannels = true →
    Machine.Reaches (step cfg) (fun _ a => a.isSyncReturn = false) s₁ s₂ →
      (step cfg s₂ (.syncReturn res eo)).Yields fun s₃ =>
        LogInEnds r o s s₃ ∧ (LogInRefused s₃ → ReportPending s₃)

/-- A channel that has reported its error, with the log-in outstanding, has the report queued. -/
theorem LogInRefused.pending {G : Prop} (h : LogInRefused s) (hinv : ErrInv cfg G s) :
    ReportPending s := by
  obtain ⟨ho, hpre, -⟩ := hinv.phases.logIn h.logInOnDoneFuncSet
  cases hm : s.masterChannel with
  | none =>
    have hh := h.hosed
    rw [Session.channelHosed, hm] at hh
    cases hh
  | some ch =>
    have hh : ch.hosed = true := by simpa [Session.channelHosed, hm] using h.hosed
    -- nothing has taken the error yet
    rcases hinv.reported ch.id (by simp [Session.errorState, hm, hh]) with
      ⟨e, he⟩ | h₁ | h₁ | ⟨h₁, -⟩
    · exact ⟨ch, e, hm, he⟩
    · rw [hpre] at h₁
      cases h₁
    · rw [hinv.phases.notPeer ho] at h₁
      cases h₁
    · rw [ho] at h₁
      cases h₁

/-- When thread W comes to take a log-in request, it is the first. -/
theorem AccessInv.ready {D : Msg → Prop} {out : OutArgs} {chan : Nat} {m : Msg} {ts : List Task}
    (h : AccessInv cfg D out s) (hw : s.w = .idle) (hq : s.queue = .logInReq chan m :: ts) :
    Ready s ∧ s.accepted = false := by
  have hreq : 0 < s.queue.countP Task.isLogInReq := by
    rw [hq]
    simp [Task.isLogInReq]
  have hpos : 0 < s.logInReqs := by
    simp only [Session.logInReqs]
    omega
  rcases h.access with ha | ha
  · obtain ⟨hv, hv', happ⟩ := ha.unset hpos
    have hch := ha.early.channel hreq
    have hset : s.logInOnDoneFuncSet = true := by
      cases hs : s.logInOnDoneFuncSet with
      | true => rfl
      | false =>
        have hnone := h.logIn.err.phases.failed hs ha.accepted
        rw [hnone] at hch
        cases hch
    exact ⟨⟨hv, hv', happ, ha.early.cliNamespace, hset, hw, hch, ha.early.log⟩, ha.accepted⟩
  · have hz := ha.reqs
    omega

/-- The state in which the handler starts: thread W has taken the request from the queue. -/
def taken (ts : List Task) (s : Server) : Server := s.setSession { s.toSession with queue := ts }

/-- Thread W takes the request, and handles it. -/
theorem step_run_logInReq {chan : Nat} {m : Msg} {ts : List Task} (hw : s.w = .idle)
    (hq : s.queue = .logInReq chan m :: ts) :
    step cfg s (.run o) = (s.taken ts).onLogInReq cfg m o := by
  have ht : s.takeTask = .done (.logInReq chan m, { s.toSession with queue := ts }) := by
    simp [Session.takeTask, hw, hq, Outcome.require_true]
  simp [step, lift, ht, runTask, taken]

/-- The handler that starts after the task is taken sees nothing else changed. -/
theorem Ready.taken (h : Ready s) (ts : List Task) : Ready (s.taken ts) :=
  ⟨h.1, h.2, h.3, h.4, h.5, h.6, h.7, h.8⟩

/-- Whether the request passes does not depend on the queue. -/
theorem passes_taken {ts : List Task} : Passes cfg r o (s.taken ts) ↔ Passes cfg r o s :=
  ⟨fun h => ⟨h.1, h.2, h.3⟩, fun h => ⟨h.1, h.2, h.3⟩⟩

/-- Nor does how its log-in ends. -/
theorem LogInEnds.of_taken {ts : List Task} (h : LogInEnds r o (s.taken ts) s') :
    LogInEnds r o s s' := by
  cases h with
  | reported h => exact .reported h
  | refused h => exact .refused h
  | succeeded h => exact .succeeded ⟨h.1, h.2, h.3, h.4, h.5, h.6, h.7, h.8⟩

/-- Nor what it waits for. -/
theorem Awaits.of_taken {ts : List Task} (h : Awaits r o (s.taken ts) s') : Awaits r o s s' :=
  ⟨h.1, h.2, ⟨h.3.1, h.3.2, h.3.3, h.3.4⟩, h.4, h.5, h.6⟩

/-- With the client's answer there, the handler emits. -/
theorem step_syncReturn_response {chans : Channels} {nByCli id : Nat} {mdt : Mdt} {m : Msg}
    {eo : EmitOracle} (hw : s.w = .inSyncRequest (.initChannels chans nByCli mdt) id (some m)) :
    step cfg s (.syncReturn .response eo) = (do
      let s' ← (s.setSession (s.setW .idle)).emitInitChannels cfg chans nByCli mdt eo
      s'.logInDone none .initChannels) := by
  simp only [step, hw, initChannelsSyncReturn]

/-- The answer to a request for which thread W waits is kept for it. -/
theorem deliver_answer (cfg : Cfg) {k : SyncCall} {id : Nat} (hown : Own s)
    (hw : s.w = .inSyncRequest k id none)
    (hm : s.masterChannel.isSome = true) (hh : s.toSession.channelHosed = false) (m : Msg)
    (hrsp : m.rspTo = some id) :
    step cfg s (.deliver m) = .done (s.setSession (s.setW (.inSyncRequest k id (some m)))) := by
  obtain ⟨ch, hm⟩ := Option.isSome_iff_exists.mp hm
  have hh : ch.hosed = false := by simpa [Session.channelHosed, hm] using hh
  simp [step, liftUnit, Session.deliver, hm, hh, hrsp, Session.deliverRsp,
    hown.noLogInRsp ch hm, hw,
    Outcome.require]

/-- A handler that does what it should has had counts that fit: else the sum wraps, or something
    throws, or an assertion fails. -/
theorem HandlesLogIn.countsFit {chan : Nat} {m : Msg} {ts : List Task} {eo : EmitOracle}
    (h : HandlesLogIn cfg r o eo s) (hr : Ready s)
    (hown : ∀ s₁, step cfg s (.run o) = .done s₁ → Own s₁) (hq : s.queue = .logInReq chan m :: ts)
    (hm : m.body = .logInReq r) (hc : r.claimedOwnProcessCredentials.isSome = true)
    (ho : o.cliNamespace ≠ [] ∧ o.cliNamespace ≠ SharedName.sentinel) : CountsFit cfg r o eo s := by
  intro hp
  have hlt : initChannelCount r o s < 2 ^ 64 := by
    rw [← h.count hp]
    exact Nat.mod_lt _ (by decide)
  refine ⟨hlt, fun hresp hne => ?_⟩
  obtain ⟨s₂, hafter, heq⟩ := onLogInReq_responds (hr.taken ts) hm hc ho
    (passes_taken.mpr hp) hlt hresp
  rw [← step_run_logInReq hr.worker hq] at heq
  have hhandler := h.handler
  obtain ⟨k, hk⟩ := Nat.exists_eq_succ_of_ne_zero hne
  have hk' : initChannelCount r o (s.taken ts) = k + 1 := hk
  rw [hk', respondedLogIn, if_neg (Nat.succ_ne_zero k)] at heq
  rw [heq] at hhandler
  simp only [Outcome.yields_bind, reserve_yields] at hhandler
  obtain ⟨hmax, hmem, hhandler⟩ := hhandler
  have hmem := hmem (Nat.succ_ne_zero k)
  have hends := initChannelsLoop_ends cfg r.numInitChannelsByCliReq k r.metadata o.init []
    hafter.logInOnDoneFuncSet hafter.worker hafter.channel hafter.channelHosed
  generalize hx : initChannelsLoop cfg r.numInitChannelsByCliReq r.metadata (k + 1) o.init [] s₂ = x
    at hends hhandler
  cases hends with
  | inVain hv => exact absurd hhandler (by simp)
  | stops hv hw hx =>
    exact ⟨hk ▸ hmax, hmem, hk ▸ hv, fun hall => by rw [hk, hw] at hall; cases hall⟩
  | @awaits s₁ hv hw ha =>
    refine ⟨hk ▸ hmax, hmem, hk ▸ hv, fun _ => ?_⟩
    -- the client answers, and the emission goes ahead
    obtain ⟨new, id, hwait, hlen, -⟩ := ha.worker
    have hrun : step cfg s (.run o) = .done s₁ := by
      rw [heq, reserve, hx]
      simp [hmax, hmem]
    have hans := deliver_answer cfg (hown s₁ hrun) hwait ha.channel ha.channelHosed
      ⟨0, some id, none, .openChannelToClientRsp .accepted⟩ rfl
    have hfin := h.finishes s₁ _ .response hrun (by rw [hwait]; rfl) (.tail .refl rfl hans)
    rw [step_syncReturn_response rfl, Outcome.yields_bind] at hfin
    have hout : s₁.out = s.out := ha.same.out.trans hafter.same.out
    rw [emitInitChannels_yields_iff _ rfl] at hfin
    obtain ⟨hcli, -, hsrv, -⟩ := hfin
    simp only [setSession, hout] at hcli hsrv
    refine ⟨fun hs => (hcli hs).2, fun hs hne => (hsrv hs).2 ?_⟩
    have hcount : new.length = r.numInitChannelsByCliReq + o.nInitChannelsBySrvReq := by
      rw [hlen]
      exact hk.symm.trans (by rw [initChannelCount, if_pos hs])
    have hidx : (if s.out.initChannelsByCliReq.isSome then r.numInitChannelsByCliReq else 0) ≤
        r.numInitChannelsByCliReq := by
      split <;> omega
    simp only [List.nil_append]
    omega

/-- **A log-in request never brings the server down**, whatever the client puts in it besides its
    credentials, and whatever fails on the way, exactly where the counts fit.  `o.cliNamespace` is
    what the session server makes up. -/
theorem handlesLogIn_iff (cfg : Cfg) (srvNamespace : SharedName) (out : OutArgs) (s : Server)
    (h : Machine.Reaches (step cfg) Machine.anyStep (fresh srvNamespace out) s) (chan : Nat)
    (m : Msg) (r : LogInReq) (ts : List Task) (o : ServerOracle) (eo : EmitOracle)
    (hw : s.w = .idle)
    (hq : s.queue = .logInReq chan m :: ts) (hm : m.body = .logInReq r)
    (hc : r.claimedOwnProcessCredentials.isSome = true)
    (ho : o.cliNamespace ≠ [] ∧ o.cliNamespace ≠ SharedName.sentinel) :
    HandlesLogIn cfg r o eo s ↔ CountsFit cfg r o eo s := by
  have hboth : AccessInv cfg (fun _ => True) out s ∧ Own s := Machine.Reaches.invariant
    (P := fun t => AccessInv cfg (fun _ => True) out t ∧ Own t) h
    ⟨⟨logInInv_fresh srvNamespace out, apiCalls_fresh srvNamespace out,
      named_fresh srvNamespace out, .inl (untouched_fresh srvNamespace out)⟩,
      own_fresh srvNamespace out⟩
    fun _ _ _ hinv _ hd => ⟨hinv.1.step (fun _ _ => trivial) hd,
      hinv.2.step hinv.1.logIn.err.phases hinv.1.named hd⟩
  obtain ⟨hinv, hown⟩ := hboth
  obtain ⟨hready, hacc⟩ := hinv.ready hw hq
  constructor
  · intro hh
    exact hh.countsFit hready (fun s₁ hd => hown.step hinv.logIn.err.phases hinv.named hd)
      hq hm hc ho
  · intro hfit
    have hfit' : CountsFit cfg r o eo (s.taken ts) := fun hp => by
      obtain ⟨hlt, hwork⟩ := hfit (passes_taken.mp hp)
      refine ⟨hlt, fun hresp hne => ?_⟩
      obtain ⟨hmax, hmem, hcreds, hemit⟩ := hwork hresp hne
      exact ⟨hmax, hmem, hcreds, fun hall => ⟨(hemit hall).1, (hemit hall).2⟩⟩
    have hrun : (step cfg s (.run o)).Yields fun s₁ =>
        LogInEnds r o s s₁ ∨ (Awaits r o s s₁ ∧ AwaitsFit cfg r o eo s) := by
      rw [step_run_logInReq hw hq]
      refine (onLogInReq_yields (hready.taken _) hm hc ho hfit').mono fun s₁ hg => ?_
      rcases hg with hg | ⟨ha, hf⟩
      · exact .inl hg.of_taken
      · exact .inr ⟨ha.of_taken, hf.1, hf.2, ⟨hf.3.1, hf.3.2⟩⟩
    refine ⟨fun hp => Nat.mod_eq_of_lt (hfit hp).1, ?_, ?_⟩
    · refine Outcome.yields_iff.mpr ⟨(Outcome.yields_iff.mp hrun).1,
        fun s₁ hd => ⟨?_, fun hr => ?_⟩⟩
      · exact ((Outcome.yields_iff.mp hrun).2 s₁ hd).imp id fun h => ⟨h.1, h.2.1⟩
      · exact hr.pending (hinv.step (fun _ _ => trivial) hd).logIn.err
    · intro s₁ s₂ res hd hwait hreach
      have hinv₁ := hinv.step (fun _ _ => trivial) hd
      obtain ⟨haw, hf⟩ : Awaits r o s s₁ ∧ AwaitsFit cfg r o eo s := by
        refine ((Outcome.yields_iff.mp hrun).2 s₁ hd).resolve_left fun hends => ?_
        rw [hends.worker] at hwait
        cases hwait
      -- the handler's work stays in place until the `sync_request()` returns
      have hboth := Machine.Reaches.invariant
        (P := fun t => AccessInv cfg (fun _ => True) out t ∧ Awaits r o s t) hreach ⟨hinv₁, haw⟩
        fun s₃ s₄ a hi ha hd' => ⟨hi.1.step (fun _ _ => trivial) hd',
          hi.2.step hacc hi.1.logIn.once.halts ha hd'⟩
      obtain ⟨hinv₂, haw₂⟩ := hboth
      have hwait₂ : s₂.w.inSync = true := by
        obtain ⟨chans, mdt, id, rsp, hw₂, -⟩ := haw₂.worker
        rw [hw₂]
        rfl
      have hset₂ := haw₂.same.logInOnDoneFuncSet.trans hready.logInOnDoneFuncSet
      have hends : (step cfg s₂ (.syncReturn res eo)).Yields (LogInEnds r o s) :=
        haw₂.syncReturn hf hset₂ (hinv₂.logIn.err.phases.sync hwait₂)
      refine Outcome.yields_iff.mpr ⟨(Outcome.yields_iff.mp hends).1,
        fun s₃ hd₃ => ⟨?_, fun hr => ?_⟩⟩
      · exact (Outcome.yields_iff.mp hends).2 s₃ hd₃
      · exact hr.pending (hinv₂.step (fun _ _ => trivial) hd₃).logIn.err

/-- A log-in request with this many init-channels, from a process that the server knows. -/
def sampleCountReq (n : Nat) : Msg :=
  ⟨0, none, none, .logInReq ⟨1, 1, .none, true, some ⟨5, 1, 1⟩, ['c'], .none, [], n⟩⟩

/-- One init-channel from each side: the handler does what it should. -/
theorem handlesLogIn_iff_oneFromEach :
    ∃ (s : Server) (r : LogInReq), s.w = .idle ∧ r.numInitChannelsByCliReq = 1 ∧
      HandlesLogIn .sample r { cliNamespace := ['1'], nInitChannelsBySrvReq := 1 } {} s := by
  obtain ⟨s, hr, hs⟩ := Machine.Reaches.exists_of_run (step .sample)
    (fresh ['7'] ⟨some [], some [], none⟩)
    [.run { osProcCreds := ⟨5, 1, 1⟩, osProcInvokedAs := ['/', 'c'] }, .deliver (sampleCountReq 1)]
    (fun s => decide (s.w = .idle) && decide (s.queue = [.logInReq 0 (sampleCountReq 1)]) &&
      decide (s.out = ⟨some [], some [], none⟩)) (by decide)
  simp only [Bool.and_eq_true, decide_eq_true_eq] at hs
  obtain ⟨⟨hw, hq⟩, hout⟩ := hs
  refine ⟨s, _, hw, rfl, (handlesLogIn_iff .sample _ _ s hr 0 _ _ [] _ {} hw hq rfl rfl
    ⟨by decide, by decide⟩).mpr fun _ => ?_⟩
  have hcount : initChannelCount ⟨1, 1, .none, true, some ⟨5, 1, 1⟩, ['c'], .none, [], 1⟩
      { cliNamespace := ['1'], nInitChannelsBySrvReq := 1 } s = 2 := by
    simp only [initChannelCount, hout]
    decide
  rw [hcount]
  refine ⟨by decide, fun _ _ => ⟨?_, rfl, ?_, fun _ => ⟨fun _ _ => rfl, fun _ _ => rfl⟩⟩⟩
  · rw [hcount]
    decide
  · rw [hcount]
    decide

/-- **A count that no vector can take ends the server**: `reserve()` throws. -/
theorem not_handlesLogIn_hugeCount :
    ¬ ∀ (cfg : Cfg) (srvNamespace : SharedName) (out : OutArgs) (s : Server),
      Machine.Reaches (step cfg) Machine.anyStep (fresh srvNamespace out) s →
        ∀ chan m r ts (o : ServerOracle) (eo : EmitOracle), s.w = .idle →
          s.queue = .logInReq chan m :: ts → m.body = .logInReq r →
            r.claimedOwnProcessCredentials.isSome = true →
              o.cliNamespace ≠ [] ∧ o.cliNamespace ≠ SharedName.sentinel →
                HandlesLogIn cfg r o eo s := by
  intro hall
  obtain ⟨s, hr, hs⟩ := Machine.Reaches.exists_of_run (step .sample)
    (fresh ['7'] ⟨some [], some [], none⟩)
    [.run { osProcCreds := ⟨5, 1, 1⟩, osProcInvokedAs := ['/', 'c'] },
      .deliver (sampleCountReq (2 ^ 64 - 1))]
    (fun s => decide (s.w = .idle) &&
      decide (s.queue = [.logInReq 0 (sampleCountReq (2 ^ 64 - 1))]) &&
      decide (step .sample s (.run { cliNamespace := ['1'] }) = .failed .lengthError)) (by decide)
  simp only [Bool.and_eq_true, decide_eq_true_eq] at hs
  obtain ⟨⟨hw, hq⟩, hf⟩ := hs
  have h := (hall _ _ _ s hr 0 _ _ [] { cliNamespace := ['1'] } {} hw hq rfl rfl
    ⟨by decide, by decide⟩).handler
  rw [hf] at h
  exact h

end Server

end IpcSession
