import IpcSession.Base.Errors
import IpcSession.Server.Model

namespace IpcSession

/-!
# What the server's functions can do

One lemma for each function of `Server_session_impl`: the results it can have, with the guards it
has passed.

* `ResourcesMade` — what `create_channel_and_resources()` leaves behind, and how the local
  channel and what goes to the peer fit together (`Cfg.Ends`).
* `Server.LogInDid` — what a piece of `async_accept_log_in()` can come to: it goes on, it
  completes the log-in, or it fails it and drops the channel.
-/

namespace Event

/-- Something happens to the resources of channels. -/
def isResource : Event → Bool
  | mqTried .. => true
  | mqCreated _ => true
  | mqRemoved _ => true
  | pairMade _ => true
  | resourcesCreated .. => true
  | _ => false

/-- `create_channel_and_resources()` returned `true`. -/
def isResourcesCreated : Event → Bool
  | resourcesCreated .. => true
  | _ => false

/-- Making resources makes nothing of an error. -/
theorem calm_of_isResource {e : Event} (h : e.isResource = true) (hosed : Bool) :
    e.calm hosed = true := by
  cases e <;> first | rfl | cases h

end Event

/-- `async_accept_log_in()` itself ran the handler. -/
def LogInSite.isOwn : LogInSite → Bool
  | masterChannelError => false
  | destructor => false
  | _ => true

/-- The server's end `ch` of a channel, and what the client gets in order to make the other end. -/
structure Cfg.Ends (cfg : Cfg) (ch : ChannelObj) (hndl : Option NativeHandle)
    (mqC2s mqS2c : SharedName) : Prop where
  mqOut : ch.mqOut = if cfg.mqsEnabled then some mqS2c else none
  mqIn : ch.mqIn = if cfg.mqsEnabled then some mqC2s else none
  sock : if cfg.socketStreamEnabled then
      ∃ pair, ch.sock = some ⟨pair, false⟩ ∧ hndl = some ⟨pair, true⟩
    else ch.sock = none ∧ hndl = none

/-- Session code that touches nothing but the running numbers of channels and the record of events,
    where it adds `es`. -/
def Session.Adds (s : Session) (es : List Event) (s' : Session) : Prop :=
  ∃ n m, s' = { s with
    lastPassivelyOpenedChannelId := n, lastActivelyOpenedChannelId := m, log := s.log ++ es }

theorem Session.Adds.refl (s : Session) : s.Adds [] s := ⟨_, _, by simp; rfl⟩

/-- One event is. -/
theorem Session.Adds.record (s : Session) (e : Event) : s.Adds [e] (s.record e) := ⟨_, _, rfl⟩

theorem Session.Adds.trans {s s' s'' : Session} {es es' : List Event} (h : s.Adds es s')
    (h' : s'.Adds es' s'') : s.Adds (es ++ es') s'' := by
  obtain ⟨n, m, rfl⟩ := h
  obtain ⟨n', m', rfl⟩ := h'
  exact ⟨n', m', by simp⟩

/-- Nothing else is touched on the way to a channel. -/
theorem Session.Adds.frame {s s' : Session} {es : List Event} (h : s.Adds es s') :
    s'.masterChannel = s.masterChannel ∧ s'.w = s.w ∧ s'.log = s.log ++ es := by
  obtain ⟨n, m, rfl⟩ := h
  exact ⟨rfl, rfl, rfl⟩

/-- Code that adds only what it makes is quiet. -/
theorem Session.Adds.quiet {s s' : Session} {es : List Event} (h : s.Adds es s')
    (he : ∀ e ∈ es, e.isResource = true) : s.Quiet s' := by
  obtain ⟨n, m, rfl⟩ := h
  exact { Quiet.refl s with
    log := ⟨es, rfl, fun e hm => Event.calm_of_isResource (he e hm) _⟩ }

namespace ResourceOracle

/-- The query for the credentials of the opposing process is made in `make_sock_stm_func()`, and
    fails. -/
def asksInVain (cfg : Cfg) (o : ResourceOracle) : Bool :=
  cfg.socketStreamEnabled && (!cfg.mqsEnabled || (o.mqC2s.isNone && o.mqS2c.isNone)) &&
    o.connectPair.isNone && o.peerCreds.isSome

/-- Each thing that `create_channel_and_resources()` is to make can be made. -/
def works (cfg : Cfg) (o : ResourceOracle) : Bool :=
  (!cfg.mqsEnabled || (o.mqC2s.isNone && o.mqS2c.isNone && o.channel.isNone)) &&
    (!cfg.socketStreamEnabled || o.connectPair.isNone)

end ResourceOracle

/-- A round of the init-channel loop makes its resources and sends its request. -/
def InitOracle.works (cfg : Cfg) (o : InitOracle) : Bool := o.res.works cfg && decide (o.send = .ok)

namespace Server

variable {cfg : Cfg} {s s' : Server}

/-- Session code with a result, run by a server. -/
theorem lift_done {α : Type} {f : Session → Outcome Failure (α × Session)} {a : α}
    (hd : s.lift f = .done (a, s')) :
    ∃ b, f s.toSession = .done (a, b) ∧ s' = s.setSession b := by
  simp [lift] at hd
  obtain ⟨b, hf, rfl⟩ := hd
  exact ⟨b, hf, rfl⟩

/-- Session code without a result, run by a server. -/
theorem liftUnit_done {f : Session → Outcome Failure Session} (hd : s.liftUnit f = .done s') :
    ∃ b, f s.toSession = .done b ∧ s' = s.setSession b := by
  simp [liftUnit] at hd
  obtain ⟨b, hf, rfl⟩ := hd
  exact ⟨b, hf, rfl⟩

/-! ### Channel resources -/

/-- The log-in stands where it stood. -/
structure SameLogIn (s s' : Server) : Prop where
  logInOnDoneFuncSet : s'.logInOnDoneFuncSet = s.logInOnDoneFuncSet
  preInitErrCode : s'.preInitErrCode = s.preInitErrCode
  accepted : s'.accepted = s.accepted
  out : s'.out = s.out

theorem SameLogIn.refl (s : Server) : SameLogIn s s := ⟨rfl, rfl, rfl, rfl⟩

/-- Session code does not touch the log-in. -/
theorem SameLogIn.setSession (b : Session) : SameLogIn s (s.setSession b) := ⟨rfl, rfl, rfl, rfl⟩

theorem SameLogIn.trans {s'' : Server} (h : SameLogIn s s') (h' : SameLogIn s' s'') :
    SameLogIn s s'' :=
  ⟨h'.1.trans h.1, h'.2.trans h.2, h'.3.trans h.3, h'.4.trans h.4⟩

/-- What `create_channel_and_resources()` leaves behind. -/
structure ResourcesMade (cfg : Cfg) (s : Server) (r : Resources) (s' : Server) : Prop where
  same : SameLogIn s s'
  session : ∃ es, s.toSession.Adds es s'.toSession ∧ (∀ e ∈ es, e.isResource = true) ∧
    (r.ok = false → ∀ e ∈ es, e.isResourcesCreated = false) ∧
    (r.ok = true → ∃ ch es', r.opened = some ch ∧
      cfg.Ends ch r.remoteHndl r.mqNameC2s r.mqNameS2c ∧
      es = es' ++ [.resourcesCreated ch r.remoteHndl r.mqNameC2s r.mqNameS2c] ∧
      ∀ e ∈ es', e.isResourcesCreated = false)

/-- Steps on the way to a channel: nothing but resources are made and removed. -/
structure OnlyResources (s s' : Server) : Prop where
  same : SameLogIn s s'
  session : ∃ es, s.toSession.Adds es s'.toSession ∧ (∀ e ∈ es, e.isResource = true) ∧
    ∀ e ∈ es, e.isResourcesCreated = false

theorem OnlyResources.trans {s'' : Server} (h : OnlyResources s s') (h' : OnlyResources s' s'') :
    OnlyResources s s'' where
  same := h.same.trans h'.same
  session := by
    obtain ⟨es, hs, hr, hc⟩ := h.session
    obtain ⟨es', hs', hr', hc'⟩ := h'.session
    refine ⟨es ++ es', hs.trans hs', fun e he => ?_, fun e he => ?_⟩
    · exact (List.mem_append.mp he).elim (hr e) (hr' e)
    · exact (List.mem_append.mp he).elim (hc e) (hc' e)

/-- An event of a resource, which is not that all are there. -/
theorem OnlyResources.record {e : Event} (hr : e.isResource = true)
    (hc : e.isResourcesCreated = false) : OnlyResources s (s.record e) where
  same := ⟨rfl, rfl, rfl, rfl⟩
  session := ⟨[e], .record _ e, by simpa using hr, by simpa using hc⟩

/-- A nickname is used up. -/
theorem OnlyResources.nextNickname (active : Bool) :
    OnlyResources s (s.setSession (s.nextNickname active).2) where
  same := .setSession _
  session := by
    refine ⟨[], ?_, by simp, by simp⟩
    cases active with
    | true => exact ⟨s.lastPassivelyOpenedChannelId, _, by simp [Session.nextNickname]; rfl⟩
    | false => exact ⟨_, s.lastActivelyOpenedChannelId, by simp [Session.nextNickname]; rfl⟩

/-- The credentials are asked for and are there. -/
theorem assertPeerCreds_done {e : ErrorCode} {b : Session} {u : Unit}
    (hd : assertPeerCreds e b = .done u) : b.masterChannel.isSome = true ∧ e = none := by
  simp only [assertPeerCreds, Outcome.bind_eq_done, Outcome.check_eq_done] at hd
  obtain ⟨-, hm, he⟩ := hd
  exact ⟨hm, Option.isNone_iff_eq_none.mp he⟩

/-- The results of `make_sock_stm_func()`: no pair, or the two ends of one. -/
inductive SockStmMade (o : ResourceOracle) (s : Server) :
    Option (NativeHandle × NativeHandle) → Server → Prop
  | failed (e : Err) (he : o.connectPair = some e) : SockStmMade o s none s
  | made (he : o.connectPair = none) (hc : o.peerCreds = none)
      (hm : s.masterChannel.isSome = true) :
      SockStmMade o s (some (⟨s.nextPair, false⟩, ⟨s.nextPair, true⟩))
        { s with
          toSession := s.toSession.record (.pairMade s.nextPair)
          nextPair := s.nextPair + 1 }

/-- `make_sock_stm_func()` makes the pair, or reports why it cannot. -/
theorem makeSockStm_done {o : ResourceOracle} {socks : Option (NativeHandle × NativeHandle)}
    (hd : s.makeSockStm o = .done (socks, s')) : SockStmMade o s socks s' := by
  cases he : o.connectPair with
  | some e =>
    simp only [makeSockStm, he] at hd
    cases hd
    exact .failed e he
  | none =>
    simp only [makeSockStm, he, Outcome.bind_eq_done] at hd
    obtain ⟨u, hc, hd⟩ := hd
    obtain ⟨hm, hc⟩ := assertPeerCreds_done hc
    cases hd
    exact .made he hc hm

/-- That is all that it does. -/
theorem SockStmMade.onlyResources {o : ResourceOracle}
    {socks : Option (NativeHandle × NativeHandle)} (h : SockStmMade o s socks s') :
    OnlyResources s s' := by
  cases h with
  | failed e he => exact ⟨.refl s, [], .refl _, by simp, by simp⟩
  | made he hc hm => exact ⟨⟨rfl, rfl, rfl, rfl⟩, [.pairMade s.nextPair], .record _ _,
      by simp [Event.isResource], by simp [Event.isResourcesCreated]⟩

/-- A number of an MQ is used up. -/
theorem OnlyResources.withMqId (h : OnlyResources s s') (id : Nat) :
    OnlyResources s { s' with lastChannelMqId := id } where
  same := ⟨h.same.1, h.same.2, h.same.3, h.same.4⟩
  session := h.session

/-- `make_channel_mqs()` makes MQs and does nothing else. -/
theorem makeChannelMqs_onlyResources (cfg : Cfg) (o : ResourceOracle) (s : Server) :
    OnlyResources s (s.makeChannelMqs cfg o).2 := by
  have three : ∀ c2s s2c, OnlyResources s
      (((s.record (.mqTried true c2s)).record (.mqCreated c2s)).record (.mqTried false s2c)) :=
    fun c2s s2c => ((OnlyResources.record rfl rfl).trans (.record rfl rfl)).trans (.record rfl rfl)
  simp only [makeChannelMqs]
  split
  · exact .record rfl rfl
  · split
    · exact (three _ _).trans (.record rfl rfl)
    · exact ((three _ _).trans (.record rfl rfl)).withMqId _

/-- Not everything could be made. -/
theorem ResourcesMade.failed {r : Resources} (h : OnlyResources s s') (hr : r.ok = false) :
    ResourcesMade cfg s r s' where
  same := h.same
  session := by
    obtain ⟨es, hs, he, hc⟩ := h.session
    exact ⟨es, hs, he, fun _ => hc, fun h => by rw [hr] at h; cases h⟩

/-- Steps on the way to a channel first. -/
theorem ResourcesMade.after {s'' : Server} {r : Resources} (h : ResourcesMade cfg s' r s'')
    (h₀ : OnlyResources s s') : ResourcesMade cfg s r s'' where
  same := h₀.same.trans h.same
  session := by
    obtain ⟨es, hs, he, hc⟩ := h₀.session
    obtain ⟨es', hs', he', hno, hyes⟩ := h.session
    refine ⟨es ++ es', hs.trans hs', fun e hm => ?_, fun hr e hm => ?_, fun hr => ?_⟩
    · exact (List.mem_append.mp hm).elim (he e) (he' e)
    · exact (List.mem_append.mp hm).elim (hc e) (hno hr e)
    · obtain ⟨ch, es₁, hch, hends, rfl, hes₁⟩ := hyes hr
      refine ⟨ch, es ++ es₁, hch, hends, (List.append_assoc _ _ _).symm, fun e hm => ?_⟩
      exact (List.mem_append.mp hm).elim (hc e) (hes₁ e)

/-- All that is configured is there. -/
theorem ResourcesMade.made {ch : ChannelObj} {hndl : Option NativeHandle}
    {c2s s2c : SharedName} (h : OnlyResources s s') (hends : cfg.Ends ch hndl c2s s2c) :
    ResourcesMade cfg s ⟨true, some ch, hndl, c2s, s2c⟩
      (s'.record (.resourcesCreated ch hndl c2s s2c)) where
  same := h.same.trans (.setSession _)
  session := by
    obtain ⟨es, hs, he, hc⟩ := h.session
    refine ⟨es ++ [.resourcesCreated ch hndl c2s s2c], hs.trans (.record _ _), ?_, nofun,
      fun _ => ⟨ch, es, rfl, hends, rfl, hc⟩⟩
    intro e hm
    rcases List.mem_append.mp hm with hm | hm
    · exact he e hm
    · rw [List.mem_singleton.mp hm]; rfl

/-- The part with MQs: with sockets or without. -/
theorem constructMqsChannel_made {nickname : Nickname} {c2s s2c : SharedName} {o : ResourceOracle}
    {r : Resources} (hmq : cfg.mqsEnabled = true)
    (hd : s.constructMqsChannel cfg nickname c2s s2c o = .done (r, s')) :
    ResourcesMade cfg s r s' := by
  have cleaned : ∀ {t : Server}, OnlyResources s t →
      OnlyResources s ((t.record (.mqRemoved c2s)).record (.mqRemoved s2c)) :=
    fun h => h.trans ((OnlyResources.record rfl rfl).trans (.record rfl rfl))
  simp only [constructMqsChannel, Outcome.bind_eq_done, Prod.exists] at hd
  obtain ⟨socks, s₁, h₁, hd⟩ := hd
  by_cases hsock : cfg.socketStreamEnabled = true
  · rw [if_pos hsock] at h₁
    have hmade := makeSockStm_done h₁
    have honly := hmade.onlyResources
    cases hmade with
    | failed e he =>
      simp [hsock] at hd
      obtain ⟨rfl, rfl⟩ := hd
      exact .failed (cleaned honly) rfl
    | made he hc hm =>
      split at hd
      · cases hd
        exact .failed (cleaned honly) rfl
      · cases hd
        refine .made honly ⟨by simp [hmq], by simp [hmq], ?_⟩
        rw [if_pos hsock]
        exact ⟨s.nextPair, rfl, rfl⟩
  · rw [if_neg hsock] at h₁
    cases h₁
    split at hd
    · cases hd
      exact .failed (cleaned ⟨.refl s, [], .refl _, by simp, by simp⟩) rfl
    · cases hd
      exact .made ⟨.refl s, [], .refl _, by simp, by simp⟩
        ⟨by simp [hmq], by simp [hmq], by simp [hsock]⟩

/-- The part without MQs: a channel is a socket stream. -/
theorem constructSockChannel_made {nickname : Nickname} {o : ResourceOracle} {r : Resources}
    (hmq : cfg.mqsEnabled = false) (hd : s.constructSockChannel nickname o = .done (r, s')) :
    ResourcesMade cfg s r s' := by
  have hsock : cfg.socketStreamEnabled = true := by simp [Cfg.socketStreamEnabled, hmq]
  simp only [constructSockChannel, Outcome.bind_eq_done, Prod.exists] at hd
  obtain ⟨socks, s₁, h₁, hd⟩ := hd
  have hmade := makeSockStm_done h₁
  have honly := hmade.onlyResources
  cases hmade with
  | failed e he =>
    cases hd
    exact .failed honly rfl
  | made he hc hm =>
    cases hd
    refine .made honly ⟨by simp [hmq], by simp [hmq], ?_⟩
    rw [if_pos hsock]
    exact ⟨s.nextPair, rfl, rfl⟩

/-- **What `create_channel_and_resources()` leaves behind** where it returns. -/
theorem createChannelAndResources_made {active : Bool} {o : ResourceOracle} {r : Resources}
    (hd : s.createChannelAndResources cfg active o = .done (r, s')) : ResourcesMade cfg s r s' := by
  have h₀ : OnlyResources s (s.setSession (s.nextNickname active).2) := .nextNickname active
  simp only [createChannelAndResources] at hd
  cases hmq : cfg.mqsEnabled with
  | true =>
    rw [if_pos hmq] at hd
    have hmqs : OnlyResources (s.setSession (s.nextNickname active).2)
        (makeChannelMqs cfg o (s.setSession (s.nextNickname active).2)).2 :=
      makeChannelMqs_onlyResources cfg o _
    have h₁ := h₀.trans hmqs
    cases hr : makeChannelMqs cfg o (s.setSession (s.nextNickname active).2) with
    | mk names s₁ =>
      rw [hr] at h₁ hd
      cases names with
      | none => cases hd; exact .failed h₁ rfl
      | some names => exact (constructMqsChannel_made hmq hd).after h₁
  | false =>
    rw [hmq, if_neg Bool.false_ne_true] at hd
    exact (constructSockChannel_made hmq hd).after h₀

/-! ### Where the resources are made -/

/-- What `x` comes to where `vain` says whether the query is in vain: then its assertion fails, and
    else `x` returns, with everything made if `works` says so. -/
def ReturnsUnless (vain works : Bool) (x : Outcome Failure (Resources × Server)) : Prop :=
  (vain = true → x = .failed .noPeerCreds) ∧
    (vain = false → ∃ r t, x = .done (r, t) ∧ r.ok = works)

/-- With the pair made, a query for the credentials that fails fails the assertion. -/
theorem makeSockStm_inVain {o : ResourceOracle} (hm : s.masterChannel.isSome = true)
    (hp : o.connectPair = none) (hc : o.peerCreds.isSome = true) :
    s.makeSockStm o = .failed .noPeerCreds := by
  obtain ⟨e, he⟩ := Option.isSome_iff_exists.mp hc
  simp [makeSockStm, hp, assertPeerCreds, hm, he, Outcome.check]

/-- A query that is not in vain leaves the making of the pair to `connect_pair()`. -/
theorem makeSockStm_kept {o : ResourceOracle} (hm : s.masterChannel.isSome = true)
    (hc : o.connectPair = none → o.peerCreds = none) :
    ∃ socks t, s.makeSockStm o = .done (socks, t) ∧ socks.isSome = o.connectPair.isNone := by
  cases hp : o.connectPair with
  | some e => exact ⟨none, s, by simp [makeSockStm, hp], rfl⟩
  | none =>
    simp only [makeSockStm, hp, assertPeerCreds, hm, hc hp, Option.isNone_none, Outcome.check_true,
      Outcome.done_bind]
    exact ⟨_, _, rfl, rfl⟩

/-- The names of the MQs come back where both MQs can be made. -/
theorem makeChannelMqs_isSome (cfg : Cfg) (o : ResourceOracle) (s : Server) :
    (s.makeChannelMqs cfg o).1.isSome = (o.mqC2s.isNone && o.mqS2c.isNone) := by
  simp only [makeChannelMqs]
  cases o.mqC2s with
  | some e => rfl
  | none => cases o.mqS2c <;> rfl

/-- With both MQs there. -/
theorem constructMqsChannel_returnsUnless (cfg : Cfg) (nickname : Nickname) (c2s s2c : SharedName)
    (o : ResourceOracle) (hm : s.masterChannel.isSome = true) :
    ReturnsUnless (cfg.socketStreamEnabled && o.connectPair.isNone && o.peerCreds.isSome)
      (o.channel.isNone && (!cfg.socketStreamEnabled || o.connectPair.isNone))
      (s.constructMqsChannel cfg nickname c2s s2c o) := by
  cases hsock : cfg.socketStreamEnabled with
  | false =>
    refine ⟨fun h => absurd h Bool.false_ne_true, fun _ => ?_⟩
    cases hch : o.channel <;> simp [constructMqsChannel, hsock, hch]
  | true =>
    constructor
    · intro hv
      simp only [Bool.true_and, Bool.and_eq_true, Option.isNone_iff_eq_none] at hv
      simp [constructMqsChannel, hsock, makeSockStm_inVain hm hv.1 hv.2]
    · intro hv
      obtain ⟨socks, t, hd, hsocks⟩ := makeSockStm_kept (o := o) hm fun hp => by
        simpa [hp] using hv
      simp only [constructMqsChannel, hsock, if_true, hd, Outcome.done_bind, Bool.true_and,
        Bool.not_true, Bool.false_or, ← hsocks]
      cases socks <;> cases hch : o.channel <;> simp

/-- **`create_channel_and_resources()` returns** unless it asks for the credentials in vain, and
    says whether it could make everything. -/
theorem createChannelAndResources_returnsUnless (cfg : Cfg) (active : Bool) (o : ResourceOracle)
    (hm : s.masterChannel.isSome = true) :
    ReturnsUnless (o.asksInVain cfg) (o.works cfg) (s.createChannelAndResources cfg active o) := by
  have h₀ : OnlyResources s (s.setSession (s.nextNickname active).2) := .nextNickname active
  simp only [createChannelAndResources, ResourceOracle.asksInVain, ResourceOracle.works]
  cases hmq : cfg.mqsEnabled with
  | true =>
    -- With MQs the names decide whether the channel is constructed at all.
    have hmqs := makeChannelMqs_onlyResources cfg o (s.setSession (s.nextNickname active).2)
    have hsome := makeChannelMqs_isSome cfg o (s.setSession (s.nextNickname active).2)
    have h₁ := h₀.trans hmqs
    cases hr : makeChannelMqs cfg o (s.setSession (s.nextNickname active).2) with
    | mk names s₁ =>
      rw [hr] at h₁ hsome
      have hm₁ : s₁.masterChannel.isSome = true := by
        obtain ⟨es, hadds, -⟩ := h₁.session
        rw [hadds.frame.1]
        exact hm
      cases names with
      | none =>
        have hno : (o.mqC2s.isNone && o.mqS2c.isNone) = false := hsome.symm
        simp [ReturnsUnless, hno]
      | some names =>
        have hyes : (o.mqC2s.isNone && o.mqS2c.isNone) = true := hsome.symm
        simpa [hyes, Bool.and_assoc] using
          constructMqsChannel_returnsUnless cfg (s.nextNickname active).1 names.1 names.2 o hm₁
  | false =>
    -- Without MQs there is a socket stream, and only its maker can assert or fail.
    have hsock : cfg.socketStreamEnabled = true := by simp [Cfg.socketStreamEnabled, hmq]
    have hm₁ : (s.setSession (s.nextNickname active).2).masterChannel.isSome = true := by
      obtain ⟨es, hadds, -⟩ := h₀.session
      rw [hadds.frame.1]
      exact hm
    simp only [Bool.false_eq_true, if_false, hsock, Bool.not_false, Bool.true_or, Bool.true_and,
      Bool.not_true, Bool.false_or]
    constructor
    · intro hv
      simp only [Bool.and_eq_true, Option.isNone_iff_eq_none] at hv
      simp [constructSockChannel, makeSockStm_inVain hm₁ hv.1 hv.2]
    · intro hv
      obtain ⟨socks, t, hd, hsocks⟩ := makeSockStm_kept (o := o) hm₁ fun hp => by
        simpa [hp] using hv
      simp only [constructSockChannel, hd, Outcome.done_bind, ← hsocks]
      cases socks <;> simp

/-! ### The log-in -/

/-- The end of a log-in runs the handler of `async_accept_log_in()`, once. -/
theorem logInDone_done {e : ErrorCode} {site : LogInSite} (hd : s.logInDone e site = .done s') :
    s.logInOnDoneFuncSet = true ∧ s' = { s with
      toSession := s.toSession.record (.logInDone e site s.out)
      logInOnDoneFuncSet := false
      accepted := e.isNone } := by
  simp [logInDone] at hd
  exact ⟨hd.1, hd.2.symm⟩

/-- What a piece of `async_accept_log_in()` can come to, from the time its channel is there. -/
inductive LogInDid (s : Server) : Server → Prop
  /-- The log-in goes on, or the error handler will complete it. -/
  | goesOn {s' : Server} (h : s.toSession.Did False s'.toSession) (hl : SameLogIn s s') :
      LogInDid s s'
  | succeeded {s₁ : Server} (h : s.toSession.Quiet s₁.toSession) (hl : SameLogIn s s₁)
      (hw : s₁.w = .idle) (hset : s.logInOnDoneFuncSet = true) (site : LogInSite) (out : OutArgs) :
      LogInDid s { s₁ with
        toSession := s₁.toSession.record (.logInDone none site out)
        logInOnDoneFuncSet := false
        accepted := true
        out := out }
  /-- The log-in fails, perhaps by an error that a call has emitted. -/
  | failed {s₁ : Server} (h : s.toSession.Quiet s₁.toSession) (hl : SameLogIn s s₁)
      (hw : s₁.w = .idle) (hset : s.logInOnDoneFuncSet = true) (b : Session)
      (hb : b = s₁.toSession ∨ ∃ ch e, s₁.masterChannel = some ch ∧ ch.hosed = false ∧
        b = s₁.failCall ch e)
      (e : Err) (site : LogInSite)
      (hsite : site.isOwn = true) :
      LogInDid s { s₁ with
        toSession := b.dropChannel.record (.logInDone (some e) site s₁.out)
        logInOnDoneFuncSet := false
        accepted := false }

namespace LogInDid

/-- Quiet code first. -/
theorem after {s'' : Server} (hq : s.toSession.Quiet s'.toSession) (hl : SameLogIn s s')
    (h : LogInDid s' s'') : LogInDid s s'' := by
  cases h with
  | goesOn h hl' => exact .goesOn (h.after hq) (hl.trans hl')
  | succeeded h hl' hw hset site out =>
    exact .succeeded (hq.trans h) (hl.trans hl') hw (hl.logInOnDoneFuncSet ▸ hset) site out
  | failed h hl' hw hset b hb e site hsite =>
    exact .failed (hq.trans h) (hl.trans hl') hw (hl.logInOnDoneFuncSet ▸ hset) b hb e site hsite

end LogInDid

/-- The log-in fails without an error of the channel. -/
theorem logInFailed_did {e : Err} {site : LogInSite}
    (hsite : site.isOwn = true) (hw : s.w = .idle)
    (hd : s.logInFailed e site = .done s') : LogInDid s s' := by
  obtain ⟨hset, rfl⟩ := logInDone_done hd
  exact .failed (.refl _) (.refl s) hw hset s.toSession (.inl rfl) e site hsite

/-- The log-in fails by an error of the channel. -/
theorem logInFailed_failCall_did {ch : MasterChannel} {e e' : Err} {site : LogInSite}
    (hm : s.masterChannel = some ch) (hh : ch.hosed = false)
    (hsite : site.isOwn = true) (hw : s.w = .idle)
    (hd : (s.setSession (s.failCall ch e)).logInFailed e' site = .done s') : LogInDid s s' := by
  obtain ⟨hset, rfl⟩ := logInDone_done hd
  exact .failed (.refl _) (.refl s) hw hset _ (.inr ⟨ch, e, hm, hh, rfl⟩) e' site hsite

/-- The session gets its cli-namespace. -/
theorem putCliNamespace_quiet {b : Session} (name : SharedName) :
    b.Quiet (b.putCliNamespace name) := { Session.Quiet.refl b with }

/-- The log-in request is past every check that could reject it for what it says. -/
inductive CheckedLogInReq (o : ServerOracle) (s : Server) : ErrorCode → Server → Prop
  | rejected {s' : Server} (e : Err) (hb : s'.toSession = s.toSession) (hl : SameLogIn s s') :
      CheckedLogInReq o s (some e) s'
  | passed {s' : Server} (hn : s.cliNamespace = []) (hname : o.cliNamespace ≠ [])
      (hb : s'.toSession = ((s.toSession.record (.cliNamespaceTaken o.cliNamespace)).putCliNamespace
        o.cliNamespace).record .preRspSetupRan)
      (hl : SameLogIn s s') : CheckedLogInReq o s o.preRspSetup s'

/-- The checks of the request are one of the cases of `CheckedLogInReq`. -/
theorem checkLogInReq_done {r : LogInReq} {o : ServerOracle} {e : ErrorCode}
    (hd : s.checkLogInReq cfg r o = .done (e, s')) : CheckedLogInReq o s e s' := by
  simp only [checkLogInReq] at hd
  split at hd
  · cases hd; exact .rejected _ rfl ⟨rfl, rfl, rfl, rfl⟩
  · split at hd
    · cases hd; exact .rejected _ rfl ⟨rfl, rfl, rfl, rfl⟩
    · split at hd
      · cases hd; exact .rejected _ rfl ⟨rfl, rfl, rfl, rfl⟩
      · split at hd
        · cases hd; exact .rejected _ rfl ⟨rfl, rfl, rfl, rfl⟩
        · split at hd
          · cases hd
          · cases hd; exact .rejected _ rfl ⟨rfl, rfl, rfl, rfl⟩
          · split at hd
            · cases hd; exact .rejected _ rfl ⟨rfl, rfl, rfl, rfl⟩
            · simp only [Outcome.bind_eq_done] at hd
              obtain ⟨-, -, hd⟩ := hd
              split at hd
              · cases hd; exact .rejected _ rfl ⟨rfl, rfl, rfl, rfl⟩
              · simp only [Outcome.bind_eq_done] at hd
                obtain ⟨s₁, h₁, hd⟩ := hd
                obtain ⟨b, hb, rfl⟩ := liftUnit_done h₁
                obtain ⟨hname, -, hn, rfl⟩ := Session.setCliNamespace_done hb
                cases hd
                exact .passed hn hname rfl ⟨rfl, rfl, rfl, rfl⟩

/-- They leave the log-in going on. -/
theorem CheckedLogInReq.same {o : ServerOracle} {e : ErrorCode} (h : CheckedLogInReq o s e s') :
    SameLogIn s s' := by
  cases h with
  | rejected e hb hl => exact hl
  | passed hn hname hb hl => exact hl

/-- They make nothing of an error. -/
theorem CheckedLogInReq.quiet {o : ServerOracle} {e : ErrorCode} (h : CheckedLogInReq o s e s') :
    s.toSession.Quiet s'.toSession := by
  cases h with
  | rejected e hb hl => exact hb ▸ .refl _
  | passed hn hname hb hl =>
    rw [hb]
    have h₁ : s.toSession.Quiet (s.toSession.record (.cliNamespaceTaken o.cliNamespace)) :=
      .record rfl
    exact (h₁.trans (putCliNamespace_quiet _)).trans (.record rfl)

/-- Thread W does not wait in them. -/
theorem CheckedLogInReq.worker {o : ServerOracle} {e : ErrorCode} (h : CheckedLogInReq o s e s') :
    s'.w = s.w := by
  cases h with
  | rejected e hb hl => rw [hb]
  | passed hn hname hb hl => rw [hb]; rfl

/-- The loop ends with thread W waiting for the client, or with the log-in over. -/
theorem initChannelsLoop_did {s s' : Server} {nByCli k : Nat} {mdt : Mdt} {os : List InitOracle}
    {chans : Channels}
    (hw : s.w = .idle) (hd : initChannelsLoop cfg nByCli mdt k os chans s = .done s') :
    LogInDid s s' := by
  induction k generalizing os chans s with
  | zero => cases hd; exact .goesOn (.quiet (.refl _)) (.refl _)
  | succ k ih =>
    simp only [initChannelsLoop, Outcome.bind_eq_done, Prod.exists] at hd
    obtain ⟨r, s₁, h₁, hd⟩ := hd
    have hmade := createChannelAndResources_made h₁
    obtain ⟨es, hadds, hes, -⟩ := hmade.session
    have hq := hadds.quiet hes
    have hw₁ : s₁.w = .idle := by
      obtain ⟨n, m, hs₁⟩ := hadds
      rw [hs₁]
      exact hw
    split at hd
    · exact (logInFailed_did (by rfl) hw₁ hd).after hq hmade.same
    · simp only [Outcome.bind_eq_done, Prod.exists] at hd
      obtain ⟨c, s₂, h₂, hd⟩ := hd
      obtain ⟨b, hb, rfl⟩ := lift_done h₂
      obtain ⟨ch, hm, hsend⟩ := Session.send_done hb
      generalize (os.headD {}).send = ret at hsend
      cases hsend with
      | refusedOld hh e => cases hd; exact .goesOn (.quiet hq) hmade.same
      | refusedNew hh e =>
        cases hd
        exact .goesOn ((Session.Did.emitError hm hh e).after hq) (hmade.same.trans (.setSession _))
      | failed hh e =>
        exact (logInFailed_failCall_did hm hh (by rfl) hw₁ hd).after hq hmade.same
      | ok hh =>
        -- the message is out: wait for the last answer, or go on with the loop
        have hq₂ := hq.trans ((Session.Quiet.transmit hm
          ⟨ch.nextMsgId, none, r.remoteHndl, .openChannelToClientReq r.mqNameC2s r.mqNameS2c
            []⟩).trans
            (.record (e := .initChannelSent ch.nextMsgId) rfl))
        simp only at hd
        split at hd
        · cases hd
          refine .goesOn (.quiet (hq₂.trans (.setW ?_ (by rintro ⟨⟩) ?_)))
            (hmade.same.trans (.setSession _))
          · simp [hw₁]
          · exact fun _ => .inr rfl
        · have hi := ih (by exact hw₁) hd
          exact hi.after hq₂ (hmade.same.trans (.setSession _))

/-- The handler of the request finds the channel. -/
theorem onLogInReq_channel {m : Msg} {o : ServerOracle} (hd : s.onLogInReq cfg m o = .done s') :
    s.masterChannel.isSome = true := by
  simp only [onLogInReq, Outcome.bind_eq_done, Outcome.check_eq_done] at hd
  obtain ⟨-, hm, -⟩ := hd
  exact hm

/-- It leaves the log-in going on, or over. -/
theorem onLogInReq_did {m : Msg} {o : ServerOracle} (hw : s.w = .idle)
    (hd : s.onLogInReq cfg m o = .done s') : LogInDid s s' := by
  simp only [onLogInReq, Outcome.bind_eq_done] at hd
  obtain ⟨-, -, hd⟩ := hd
  split at hd
  · rename_i r hr
    simp only [Outcome.bind_eq_done, Prod.exists] at hd
    obtain ⟨e, s₁, h₁, hd⟩ := hd
    have hck := checkLogInReq_done h₁
    have hl := hck.same
    have hq := hck.quiet
    have hw₁ : s₁.w = .idle := hck.worker.trans hw
    cases e with
    | some e => exact (logInFailed_did (by rfl) hw₁ hd).after hq hl
    | none =>
      simp only [Outcome.bind_eq_done, Prod.exists] at hd
      obtain ⟨c, s₂, h₂, hd⟩ := hd
      obtain ⟨b, hb, rfl⟩ := lift_done h₂
      obtain ⟨ch, hm, hsend⟩ := Session.send_done hb
      generalize o.send = ret at hsend
      cases hsend with
      | refusedOld hh e => cases hd; exact .goesOn (.quiet hq) hl
      | refusedNew hh e =>
        cases hd
        -- A refused response is not looked at: the hosing error comes as a task of its own.
        exact .goesOn ((Session.Did.emitError hm hh e).after hq) (hl.trans (.setSession _))
      | failed hh e => exact (logInFailed_failCall_did hm hh (by rfl) hw₁ hd).after hq hl
      | ok hh =>
        -- The response is out; what is left depends on the number of init-channels.
        have hq₂ := hq.trans (Session.Quiet.transmit hm
          ⟨ch.nextMsgId, some m.id, none, logInRsp cfg r o s₁⟩)
        simp only at hd
        split at hd
        · obtain ⟨hset, rfl⟩ := logInDone_done hd
          exact @LogInDid.succeeded s (s₁.setSession _) hq₂ (hl.trans (.setSession _)) hw₁
            (hl.logInOnDoneFuncSet ▸ hset) .request _
        · simp only [Outcome.bind_eq_done] at hd
          obtain ⟨-, -, hd⟩ := hd
          have hi := initChannelsLoop_did (by exact hw₁) hd
          exact hi.after hq₂ (hl.trans (.setSession _))
  · cases hd

/-- The results of the first thread-W body of `async_accept_log_in()`. -/
inductive AcceptResult (s : Server) : Server → Prop
  | failed (hset : s.logInOnDoneFuncSet = true) (e : Err) : AcceptResult s { s with
      toSession := s.toSession.record (.logInDone (some e) .accept s.out)
      logInOnDoneFuncSet := false
      accepted := false }
  /-- The channel is there. -/
  | started (hm : s.masterChannel = none) {s₁ s' : Server}
      (hs₁ : s₁.toSession = s.setChannel (.fresh 0 true)) (hl : SameLogIn s s₁)
      (h : s₁.toSession.Did False s'.toSession) (hl' : SameLogIn s₁ s') : AcceptResult s s'

/-- The start of the log-in is one of the cases of `AcceptResult`. -/
theorem acceptLogIn_done {o : ServerOracle} (hd : s.acceptLogIn o = .done s') :
    AcceptResult s s' := by
  simp only [acceptLogIn] at hd
  split at hd
  · obtain ⟨hset, rfl⟩ := logInDone_done hd; exact .failed hset _
  · obtain ⟨hset, rfl⟩ := logInDone_done hd; exact .failed hset _
  · simp only [Outcome.bind_eq_done, Outcome.check_eq_done, Prod.exists] at hd
    obtain ⟨-, hm, ok, s₂, h₂, hd⟩ := hd
    have hm : s.masterChannel = none := Option.isNone_iff_eq_none.mp hm
    obtain ⟨b, hb, rfl⟩ := lift_done h₂
    obtain ⟨ch, hch, hr⟩ := Session.callNoError_done hb
    refine @AcceptResult.started s hm { s with
      toSession := s.setChannel (.fresh 0 true)
      osProcCreds := o.osProcCreds
      osProcInvokedAs := o.osProcInvokedAs } _ rfl ⟨rfl, rfl, rfl, rfl⟩ ?_ ?_
    · cases hr with
      | ok hh =>
        cases hch
        cases hd
        exact .quiet (.setChannel rfl rfl rfl)
      | refusedOld hh => cases hd; exact .quiet (.refl _)
      | refusedNew hh e => cases hd; exact .emitError hch hh e
    · cases hr with
      | ok hh => cases hch; cases hd; exact ⟨rfl, rfl, rfl, rfl⟩
      | refusedOld hh => cases hd; exact ⟨rfl, rfl, rfl, rfl⟩
      | refusedNew hh e => cases hd; exact ⟨rfl, rfl, rfl, rfl⟩

/-- The last `sync_request()` returns without a response. -/
def notAcknowledged (r : Session.SyncRes) (rsp : Option Msg) (s : Server) :
    Outcome Failure Server := do
  Outcome.require (r ≠ .timeout)
  let (e, s) ← s.lift (·.syncReturnNoResponse r rsp)
  match e with
  | none => return s
  | some e => s.logInFailed e .initChannels

/-- Emission sets the out-arguments and nothing else. -/
theorem emitInitChannels_done {chans : Channels} {nByCli : Nat} {mdt : Mdt} {o : EmitOracle}
    (hd : s.emitInitChannels cfg chans nByCli mdt o = .done s') : ∃ out, s' = { s with out } := by
  simp only [emitInitChannels, Outcome.bind_eq_done] at hd
  obtain ⟨-, -, -, -, -, -, -, -, hd⟩ := hd
  cases hd
  exact ⟨_, rfl⟩

/-- After its `sync_request()` the log-in is over. -/
theorem initChannelsSyncReturn_did {chans : Channels} {nByCli : Nat} {mdt : Mdt}
    {rsp : Option Msg} {r : Session.SyncRes} {o : EmitOracle} (hw : s.w ≠ .stopped)
    (hd : s.initChannelsSyncReturn cfg chans nByCli mdt rsp r o = .done s') : LogInDid s s' := by
  have hidle : s.toSession.Quiet (s.setW .idle) := .setIdle hw
  have key : s.notAcknowledged r rsp = .done s' → LogInDid s s' := by
    intro hd
    simp only [notAcknowledged, Outcome.bind_eq_done, Outcome.require_eq_done, Prod.exists] at hd
    obtain ⟨-, hr, e, s₁, h₁, hd⟩ := hd
    obtain ⟨b, hb, rfl⟩ := lift_done h₁
    obtain ⟨-, hr'⟩ := Session.syncReturnNoResponse_done hb
    cases hr' with
    | timeout => simp at hr
    | refusedOld ch hm hh e => cases hd; exact .goesOn (.quiet hidle) (.setSession _)
    | refusedNew ch hm hh e =>
      cases hd
      have hm : (s.setW .idle).masterChannel = some ch := hm
      exact .goesOn ((Session.Did.emitError hm hh e).after hidle) (.setSession _)
    | failed ch hm hh e he =>
      have hd' := logInFailed_failCall_did (s := s.setSession (s.setW .idle)) hm hh (by rfl) rfl
        hd
      exact hd'.after hidle (.setSession _)
  cases rsp with
  | none => exact key (by cases r <;> exact hd)
  | some m =>
    cases r with
    | response =>
      simp only [initChannelsSyncReturn, Outcome.bind_eq_done] at hd
      obtain ⟨s₁, h₁, hd⟩ := hd
      obtain ⟨out, rfl⟩ := emitInitChannels_done h₁
      obtain ⟨hset, rfl⟩ := logInDone_done hd
      exact @LogInDid.succeeded s (s.setSession (s.setW .idle)) hidle (.setSession _) rfl hset
        .initChannels _
    | timeout => exact key hd
    | refused e => exact key hd
    | failed e => exact key hd

end Server

end IpcSession
