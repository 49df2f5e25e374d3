import IpcSession.Server.LogIn

namespace IpcSession

/-!
# Errors of the server's channel, routed by phase

* `Session.Routing` — each error of the channel that came through its handler goes to one place: it
  waits for thread W, or the log-in's handler has it, or it is cached, or the on-error handler
  has it; it is dropped only where the log-in has failed by itself or a `GracefulSessionEnd` has
  hosed the session.
* `Server.Routes` — the same for a server, with what becomes of the cached error.
* `Server.logInOnce_routed` — **the log-in completes once, and every error is routed by phase.**
-/

namespace Event

/-- An error of the channel completes the log-in. -/
def isErrorToOnDone : Event → Bool
  | logInDone (some _) .masterChannelError _ => true
  | _ => false

/-- What thread W does with an error of the channel, or the channel itself. -/
def isRouted : Event → Bool
  | channelError .. => true
  | logInDone (some _) .masterChannelError _ => true
  | onErr _ .masterChannelError => true
  | onErr _ .openChannel => true
  | onErr _ .openChannelReq => true
  | _ => false

/-- The on-error handler runs, from this place. -/
def isOnErrAt (site : HoseSite) : Event → Bool
  | onErr _ site' => site' = site
  | _ => false

end Event

/-- The task that emits the error cached in almost-PEER state. -/
def Task.isPreInitError : Task → Bool
  | preInitError => true
  | _ => false

namespace Session

variable {F : Prop} {s s' : Session} {pre : ErrorCode}

/-- Where the errors of the channel are: waiting, with the log-in's handler, in the cache `pre`,
    with the on-error handler. -/
def routed (s : Session) (pre : ErrorCode) : Nat :=
  s.queue.countP Task.isMasterChannelError + s.log.countP Event.isErrorToOnDone +
    pre.isSome.toNat + s.log.countP (Event.isOnErrAt .masterChannelError)

/-- The log-in has failed other than by a report of the channel, or a `GracefulSessionEnd` has hosed
    the session. -/
def Excused (s : Session) : Prop :=
  (∃ e site out, site.isOwn = true ∧ Event.logInDone (some e) site out ∈ s.log) ∨
    ∃ e, Event.onErr e .gracefulSessionEnd ∈ s.log

/-- Each error of the channel is in one place. -/
structure Routing (s : Session) (pre : ErrorCode) : Prop where
  le : s.routed pre ≤ s.log.countP Event.isAsyncError
  eq : s.Excused ∨ s.routed pre = s.log.countP Event.isAsyncError
  pendingCode : ∀ chan e, Task.masterChannelError chan e ∈ s.queue →
    Event.channelError true e ∈ s.log
  doneCode : ∀ e out, Event.logInDone (some e) .masterChannelError out ∈ s.log →
    Event.channelError true e ∈ s.log
  storedCode : ∀ e, pre = some e → Event.channelError true e ∈ s.log
  onErrCode : ∀ e, Event.onErr e .masterChannelError ∈ s.log → Event.channelError true e ∈ s.log
  callCode : ∀ e site, site = .openChannel ∨ site = .openChannelReq → Event.onErr e site ∈ s.log →
    Event.channelError false e ∈ s.log
  channelErrors : s.log.countP Event.isChannelError ≤ 1
  hosedErrors : s.masterChannel.isSome = true →
    s.log.countP Event.isChannelError = s.channelHosed.toNat

/-- An error that need not be reported anywhere stays so. -/
theorem Excused.of_traced (h : s.Excused) (ht : Traced s s') : s'.Excused :=
  h.imp (fun ⟨e, site, out, hs, hm⟩ => ⟨e, site, out, hs, ht.mem_log hm⟩)
    (fun ⟨e, hm⟩ => ⟨e, ht.mem_log hm⟩)

/-- Each error that has been found is on its way, or has come to some place. -/
theorem routed_traced (pre : ErrorCode) (ht : Traced s s') :
    s'.routed pre + s.log.countP Event.isAsyncError =
      s.routed pre + s'.log.countP Event.isAsyncError := by
  have h₁ := ht.outcomes Event.isErrorToOnDone fun e he => by
    cases e <;> first | rfl | cases he
  have h₂ := ht.outcomes (Event.isOnErrAt .masterChannelError) fun e he => by
    cases e with
    | onErr e site => rw [of_decide_eq_true he]; rfl
    | _ => cases he
  have h₃ := ht.reports
  simp only [routed, h₁, h₂]
  omega

/-- Session code keeps each error on its one way. -/
theorem Routing.of_traced (h : s.Routing pre) (ht : Traced s s')
    (hm : s'.masterChannel.isSome = s.masterChannel.isSome) : s'.Routing pre where
  le := by
    have h₁ := routed_traced pre ht
    have h₂ := h.le
    omega
  eq := h.eq.imp (·.of_traced ht) fun he => by
    have h₁ := routed_traced pre ht
    omega
  pendingCode := fun chan e he =>
    (ht.codes chan e he).elim (fun he => ht.mem_log (h.pendingCode chan e he)) id
  doneCode := fun e out he => ht.mem_log (h.doneCode e out ((ht.mem_outcome rfl).mp he))
  storedCode := fun e he => ht.mem_log (h.storedCode e he)
  onErrCode := fun e he => ht.mem_log (h.onErrCode e ((ht.mem_outcome rfl).mp he))
  callCode := fun e site hs he =>
    (ht.calls e site hs he).elim (fun he => ht.mem_log (h.callCode e site hs he)) id
  channelErrors := by
    have h₁ := ht.once
    cases hc : s.masterChannel with
    | none =>
      have hc' : s'.masterChannel = none := by simpa [hc] using hm
      have h₂ := h.channelErrors
      simp only [channelHosed, hc, hc', Option.any_none, Bool.toNat_false] at h₁
      omega
    | some ch =>
      have h₂ := h.hosedErrors (by rw [hc]; rfl)
      have h₃ := Bool.toNat_le s'.channelHosed
      omega
  hosedErrors := fun hs => by
    have h₁ := ht.once
    have h₂ := h.hosedErrors (hm ▸ hs)
    omega

/-- Thread W goes on, and neither an error nor what becomes of it is concerned. -/
theorem Routing.append (h : s.Routing pre) {l : List Event} (hl : s'.log = s.log ++ l)
    (hes : ∀ e ∈ l, e.isRouted = false)
    (hq : s'.queue.filter Task.isMasterChannelError = s.queue.filter Task.isMasterChannelError)
    (hm : s'.masterChannel = s.masterChannel ∨ s'.masterChannel = none) : s'.Routing pre := by
  -- Events that are not routed change no count of routed ones.
  have none : ∀ p : Event → Bool, (∀ e, p e = true → e.isRouted = true) →
      s'.log.countP p = s.log.countP p := by
    intro p hp
    rw [hl, List.countP_append, Nat.add_eq_left, List.countP_eq_zero]
    intro e he hpe
    have hr := hes e he
    rw [hp e hpe] at hr
    cases hr
  have mem : ∀ e : Event, e.isRouted = true → e ∈ s'.log → e ∈ s.log := by
    intro e hr he
    rw [hl] at he
    rcases List.mem_append.mp he with he | he
    · exact he
    · rw [hes e he] at hr
      cases hr
  -- And none is lost.
  have mem' : ∀ e : Event, e ∈ s.log → e ∈ s'.log := fun e he => by
    rw [hl]
    exact List.mem_append_left l he
  -- The report is in one place still: queued, delivered or cached.
  have hrouted : s'.routed pre = s.routed pre := by
    have h₁ := none Event.isErrorToOnDone fun e he => by
      cases e <;> first | cases he | skip
      rename_i e site out
      cases e <;> cases site <;> first | rfl | cases he
    have h₂ := none (Event.isOnErrAt .masterChannelError) fun e he => by
      cases e with
      | onErr e site => rw [of_decide_eq_true he]; rfl
      | _ => cases he
    simp only [routed, h₁, h₂, List.countP_eq_length_filter, hq]
  have hasync := none Event.isAsyncError fun e he => by cases e <;> first | rfl | cases he
  have herror := none Event.isChannelError fun e he => by cases e <;> first | rfl | cases he
  refine ⟨?_, ?_, fun chan e he => ?_, ?_, ?_, ?_, ?_, ?_, fun hs => ?_⟩
  · rw [hrouted, hasync]; exact h.le
  · rw [hrouted, hasync]
    exact h.eq.imp_left (Or.imp (fun ⟨e, site, out, hs, he⟩ => ⟨e, site, out, hs, mem' _ he⟩)
      fun ⟨e, he⟩ => ⟨e, mem' _ he⟩)
  · have he : Task.masterChannelError chan e ∈ s'.queue.filter Task.isMasterChannelError :=
      List.mem_filter.mpr ⟨he, rfl⟩
    rw [hq] at he
    exact mem' _ (h.pendingCode chan e (List.mem_filter.mp he).1)
  · exact fun e out he => mem' _ (h.doneCode e out (mem _ rfl he))
  · exact fun e he => mem' _ (h.storedCode e he)
  · exact fun e he => mem' _ (h.onErrCode e (mem _ rfl he))
  · rintro e site (rfl | rfl) he
    · exact mem' _ (h.callCode e _ (.inl rfl) (mem _ rfl he))
    · exact mem' _ (h.callCode e _ (.inr rfl) (mem _ rfl he))
  · rw [herror]; exact h.channelErrors
  · rcases hm with hm | hm
    · rw [hm] at hs
      rw [herror, h.hosedErrors hs]
      simp [channelHosed, hm]
    · rw [hm] at hs
      cases hs

/-! ### Thread W takes a report -/

/-- A report that waits is all that there is of errors of the channel. -/
structure Routing.Waiting (s : Session) (pre : ErrorCode) (e : Err) : Prop where
  async : s.log.countP Event.isAsyncError = 1
  errors : s.log.countP Event.isChannelError = 1
  mem : Event.channelError true e ∈ s.log
  queue : s.queue.countP Task.isMasterChannelError = 1
  toOnDone : s.log.countP Event.isErrorToOnDone = 0
  stored : pre = none
  onErr : s.log.countP (Event.isOnErrAt .masterChannelError) = 0

/-- An error that the channel finds on its own is an error of the channel. -/
theorem countP_isAsyncError_le (l : List Event) :
    l.countP Event.isAsyncError ≤ l.countP Event.isChannelError := by
  refine List.countP_mono_left fun e _ he => ?_
  cases e <;> first | rfl | cases he

/-- While the report is queued, nothing else has become of the error. -/
theorem Routing.waiting (h : s.Routing pre) (chan : Nat) {e : Err}
    (hq : Task.masterChannelError chan e ∈ s.queue) : Routing.Waiting s pre e := by
  have h₁ : 0 < s.queue.countP Task.isMasterChannelError :=
    List.countP_pos_iff.mpr ⟨_, hq, rfl⟩
  have h₂ := h.le
  have h₃ := h.channelErrors
  have h₄ := countP_isAsyncError_le s.log
  simp only [routed] at h₂
  have hpre : pre.isSome.toNat = 0 := by omega
  refine ⟨by omega, by omega, h.pendingCode chan e hq, by omega, by omega, ?_, by omega⟩
  cases pre with
  | none => rfl
  | some e' => cases hpre

/-- Where the handler has seen the error of the channel, no call has. -/
theorem no_call_of_async {l : List Event} (hl : l.countP Event.isChannelError ≤ 1)
    (ha : 0 < l.countP Event.isAsyncError) (e : Err) : Event.channelError false e ∉ l := by
  intro hm
  have h₁ : 0 < l.countP (fun ev => ev = .channelError false e) :=
    List.countP_pos_iff.mpr ⟨_, hm, by simp⟩
  have key : l.countP Event.isAsyncError + l.countP (fun ev => ev = .channelError false e) ≤
      l.countP Event.isChannelError := by
    clear hl ha hm h₁
    induction l with
    | nil => simp
    | cons ev l ih =>
      simp only [List.countP_cons]
      cases ev <;> simp [Event.isAsyncError, Event.isChannelError] <;> first | omega | skip
      rename_i via e'
      cases via <;> simp <;> first | omega | (split <;> omega)
  omega

/-- A session that was hosed before the report was taken has been hosed by a
    `GracefulSessionEnd`. -/
theorem Routing.excused_of_hosed (h : s.Routing pre) {e : Err} (hw : Routing.Waiting s pre e)
    (hh : s.Hosing) (hp : s.peerStateErrCodeOrOk.isSome = true)
    (hpre : ∀ e, Event.onErr e .preInit ∈ s.log → pre = some e) : s.Excused := by
  have hc : 0 < s.log.countP Event.isOnErr := by
    rw [hh.count, hp]
    exact Nat.one_pos
  obtain ⟨ev, hm, hev⟩ := List.countP_pos_iff.mp hc
  have no_call : ∀ e', Event.channelError false e' ∉ s.log :=
    no_call_of_async (Nat.le_of_eq hw.errors) (by rw [hw.async]; exact Nat.one_pos)
  cases ev with
  | onErr e' site =>
    cases site with
    | masterChannelError =>
      have h₁ := List.countP_eq_zero.mp hw.onErr _ hm
      exact absurd rfl h₁
    | openChannel => exact absurd (h.callCode e' _ (.inl rfl) hm) (no_call e')
    | openChannelReq => exact absurd (h.callCode e' _ (.inr rfl) hm) (no_call e')
    | gracefulSessionEnd => exact .inr ⟨e', hm⟩
    | preInit =>
      have h₁ := hpre e' hm
      rw [hw.stored] at h₁
      cases h₁
  | _ => cases hev

/-- The channel is there, and has emitted nothing. -/
theorem Routing.setFresh (h : s.Routing pre) (hn : s.log.countP Event.isChannelError = 0)
    (id : Nat) (isServer : Bool) : (s.setChannel (.fresh id isServer)).Routing pre :=
  ⟨h.le, h.eq, h.pendingCode, h.doneCode, h.storedCode, h.onErrCode, h.callCode, h.channelErrors,
    fun _ => hn⟩

/-- The report is taken, and something is made of it. -/
theorem Routing.report (h : s.Routing pre) {chan : Nat} {e : Err} {b : Session}
    (ht : s.takeTask = .done (.masterChannelError chan e, b)) {pre' : ErrorCode}
    {l : List Event} (hl : s'.log = b.log ++ l) (hq : s'.queue = b.queue)
    (hm : s'.masterChannel = b.masterChannel ∨ s'.masterChannel = none)
    (hto : ∀ ev ∈ l, (∃ out, ev = .logInDone (some e) .masterChannelError out) ∨
      ev = .onErr e .masterChannelError)
    (hpre : pre' = none ∨ pre' = some e)
    (hone : l.length + pre'.isSome.toNat = 1 ∨
      (l.length + pre'.isSome.toNat = 0 ∧ s.Excused)) : s'.Routing pre' := by
  obtain ⟨-, hqs, hb⟩ := takeTask_done ht
  -- While the report is queued it is the one error emitted, and nothing else told of it.
  have hw := h.waiting chan (e := e) (by rw [hqs]; exact List.mem_cons_self)
  have hls : s'.log = s.log ++ l := by rw [hl, hb]
  -- Running the task takes it out of the queue.
  have hq' : s'.queue.countP Task.isMasterChannelError = 0 := by
    have h₁ := hw.queue
    rw [hqs, List.countP_cons] at h₁
    rw [hq]
    simpa [Task.isMasterChannelError] using h₁
  -- The step itself emits no error of the channel: it only passes the code on.
  have hcalm : ∀ ev ∈ l, ev.isChannelError = false ∧ ev.isAsyncError = false := by
    intro ev hev
    rcases hto ev hev with ⟨out, rfl⟩ | rfl <;> exact ⟨rfl, rfl⟩
  have none : ∀ p : Event → Bool, (∀ ev ∈ l, p ev = false) →
      s'.log.countP p = s.log.countP p := by
    intro p hp
    rw [hls, List.countP_append, Nat.add_eq_left, List.countP_eq_zero]
    intro ev he
    simp [hp ev he]
  -- Each event the task logs is a delivery of the code, by on-done or by on-error.
  have hsum : l.countP Event.isErrorToOnDone +
      l.countP (Event.isOnErrAt .masterChannelError) = l.length := by
    clear hl hls hone hcalm none
    induction l with
    | nil => rfl
    | cons ev l ih =>
      have hi := ih fun ev' hm' => hto ev' (List.mem_cons_of_mem _ hm')
      simp only [List.countP_cons, List.length_cons]
      rcases hto ev List.mem_cons_self with ⟨out, rfl⟩ | rfl <;>
        simp [Event.isErrorToOnDone, Event.isOnErrAt] <;> omega
  have hrouted : s'.routed pre' = l.length + pre'.isSome.toNat := by
    simp only [routed, hq', hls, List.countP_append, hw.toOnDone, hw.onErr]
    omega
  have hasync : s'.log.countP Event.isAsyncError = 1 :=
    (none _ fun ev hev => (hcalm ev hev).2).trans hw.async
  have herrors : s'.log.countP Event.isChannelError = 1 :=
    (none _ fun ev hev => (hcalm ev hev).1).trans hw.errors
  have hmem : Event.channelError true e ∈ s'.log := by
    rw [hls]
    exact List.mem_append_left l hw.mem
  -- What the conclusion asks of an event logged before, the invariant already gives.
  have old : ∀ ev : Event, ev ∈ s'.log → ev ∉ l → ev ∈ s.log := by
    intro ev hev hn
    rw [hls] at hev
    exact (List.mem_append.mp hev).resolve_right hn
  refine ⟨?_, ?_, fun chan' e' hm' => ?_, fun e' out' hm' => ?_, fun e' he => ?_, fun e' hm' => ?_,
    fun e' site hs hm' => ?_, Nat.le_of_eq herrors, fun hs => ?_⟩
  · rw [hrouted, hasync]
    omega
  · rcases hone with h₁ | ⟨-, hx⟩
    · exact .inr (by rw [hrouted, hasync, h₁])
    · refine .inl ?_
      rw [Excused, hls]
      rcases hx with ⟨e, site, out, hs, he⟩ | ⟨e, he⟩
      · exact .inl ⟨e, site, out, hs, List.mem_append_left l he⟩
      · exact .inr ⟨e, List.mem_append_left l he⟩
  · have h₁ := List.countP_eq_zero.mp hq' _ hm'
    exact absurd rfl h₁
  · by_cases hev : Event.logInDone (some e') .masterChannelError out' ∈ l
    · rcases hto _ hev with ⟨out, heq⟩ | heq
      · cases heq; exact hmem
      · cases heq
    · have h₁ := List.countP_eq_zero.mp hw.toOnDone _ (old _ hm' hev)
      exact absurd rfl h₁
  · rcases hpre with rfl | rfl
    · cases he
    · cases he; exact hmem
  · by_cases hev : Event.onErr e' .masterChannelError ∈ l
    · rcases hto _ hev with ⟨out, heq⟩ | heq
      · cases heq
      · cases heq; exact hmem
    · have h₁ := List.countP_eq_zero.mp hw.onErr _ (old _ hm' hev)
      exact absurd rfl h₁
  · have hev : Event.onErr e' site ∉ l := by
      intro hev
      rcases hto _ hev with ⟨out, heq⟩ | heq
      · cases heq
      · cases heq
        rcases hs with hs | hs <;> cases hs
    rw [hls]
    exact List.mem_append_left l (h.callCode e' site hs (old _ hm' hev))
  · rcases hm with hm | hm
    · have hm : s'.masterChannel = s.masterChannel := by rw [hm, hb]
      rw [hm] at hs
      rw [herrors, ← hw.errors, h.hosedErrors hs]
      simp [channelHosed, hm]
    · rw [hm] at hs
      cases hs

end Session

namespace Server

variable {F : Prop} {cfg : Cfg} {s s' : Server}

/-- Errors of the server's channel, and what becomes of the one cached in almost-PEER state. -/
structure Routes (s : Server) : Prop where
  routing : s.Routing s.preInitErrCode
  unstarted : 0 < s.queue.countP Task.isAcceptLogIn → s.log.countP Event.isChannelError = 0
  ended : ∀ e, Event.onErr e .gracefulSessionEnd ∈ s.log → s.gracefulFinisher.isSome = true
  /-- Once the handlers are set, the cached error is on its way to the on-error handler or has been
      passed to it. -/
  cached : s.queue.countP Task.isPreInitError + s.log.countP (Event.isOnErrAt .preInit) =
    (s.onErrFuncSet && s.preInitErrCode.isSome).toNat
  preInitCode : ∀ e, Event.onErr e .preInit ∈ s.log → s.preInitErrCode = some e

/-- There has been no error. -/
theorem routes_fresh (srvNamespace : SharedName) (out : OutArgs) :
    Routes (fresh srvNamespace out) where
  routing := by
    refine ⟨Nat.zero_le _, .inr rfl, fun chan e he => ?_, nofun, nofun, nofun, ?_, Nat.zero_le _,
      nofun⟩
    · cases List.mem_singleton.mp he
    · exact fun e site _ he => by cases he
  unstarted := fun _ => rfl
  ended := nofun
  cached := rfl
  preInitCode := nofun

/-- The report of an earlier error is no calm task, nor the report of a new one. -/
theorem isPreInitError_not_calm : ∀ t : Task, t.isPreInitError = true →
    t.calm = false ∧ ∀ chan e, t ≠ .masterChannelError chan e := by
  intro t ht
  cases t <;> simp_all [Task.isPreInitError, Task.calm]

/-- Session code keeps the routes. -/
theorem Routes.of_did (h : Routes s) (hp : Phases cfg s) (hd : s.toSession.Did F s'.toSession)
    (hl : SameLogIn s s') : Routes s' where
  routing := by
    rw [hl.preInitErrCode]
    exact h.routing.of_traced hd.traced hd.channel_isSome
  unstarted := by
    rw [countP_did hd _ isAcceptLogIn_not_calm]
    intro hc
    rcases hp.accept with h₀ | ⟨-, hm, -⟩
    · omega
    · have hm' : s'.masterChannel = none := by
        have h₁ := hd.channel_isSome
        rw [hm] at h₁
        simpa using h₁
      have h₁ := hd.traced.once
      have h₂ := h.unstarted hc
      simp only [Session.channelHosed, hm, hm', Option.any_none, Bool.toNat_false] at h₁
      omega
  ended := fun e he => by
    rw [hd.gracefulFinisher]
    exact h.ended e ((hd.traced.mem_outcome rfl).mp he)
  cached := by
    rw [countP_did hd _ isPreInitError_not_calm, hd.onErrFuncSet, hl.preInitErrCode, ← h.cached]
    congr 1
    refine hd.traced.outcomes _ fun e he => ?_
    cases e with
    | onErr e site => rw [of_decide_eq_true he]; rfl
    | _ => cases he
  preInitCode := fun e he => by
    rw [hl.preInitErrCode]
    exact h.preInitCode e ((hd.traced.mem_outcome rfl).mp he)

/-- What happens is no error, nor does it make anything of one. -/
theorem Routes.append (h : Routes s) {l : List Event} (hl : s'.log = s.log ++ l)
    (hes : ∀ e ∈ l, e.isRouted = false ∧ e.isOnErrAt .preInit = false)
    (hend : (∃ e, Event.onErr e .gracefulSessionEnd ∈ l) → s'.gracefulFinisher.isSome = true)
    (hf : s.gracefulFinisher.isSome = true → s'.gracefulFinisher.isSome = true)
    (hq : s'.queue.filter Task.isMasterChannelError = s.queue.filter Task.isMasterChannelError)
    (ha : 0 < s'.queue.countP Task.isAcceptLogIn → 0 < s.queue.countP Task.isAcceptLogIn)
    (hc : s'.queue.countP Task.isPreInitError = s.queue.countP Task.isPreInitError)
    (hm : s'.masterChannel = s.masterChannel ∨ s'.masterChannel = none)
    (hpre : s'.preInitErrCode = s.preInitErrCode)
    (ho : s'.onErrFuncSet = s.onErrFuncSet ∨ s.preInitErrCode = none) : Routes s' where
  routing := by
    rw [hpre]
    exact h.routing.append hl (fun e he => (hes e he).1) hq hm
  unstarted := fun hacc => by
    have hn : l.countP Event.isChannelError = 0 := by
      rw [List.countP_eq_zero]
      intro e he hce
      have hr := (hes e he).1
      cases e with
      | channelError => cases hr
      | _ => cases hce
    rw [hl, List.countP_append, hn, h.unstarted (ha hacc)]
  ended := fun e he => by
    rw [hl] at he
    rcases List.mem_append.mp he with he | he
    · exact hf (h.ended e he)
    · exact hend ⟨e, he⟩
  -- The number of cached-error tasks and what they are for do not change.
  cached := by
    have hn : l.countP (Event.isOnErrAt .preInit) = 0 := by
      rw [List.countP_eq_zero]
      intro e he
      simp [(hes e he).2]
    rw [hc, hl, List.countP_append, hn, Nat.add_zero, h.cached, hpre]
    rcases ho with ho | ho
    · rw [ho]
    · simp [ho]
  preInitCode := fun e he => by
    rw [hpre]
    rw [hl] at he
    rcases List.mem_append.mp he with he | he
    · exact h.preInitCode e he
    · have hr := (hes _ he).2
      cases hr

/-- A task that is not a report leaves the queue. -/
theorem Routes.takeTask {t : Task} {b : Session} (h : Routes s)
    (ht : s.takeTask = .done (t, b)) (he : t.isMasterChannelError = false)
    (hpre : t.isPreInitError = false) : Routes (s.setSession b) := by
  obtain ⟨-, hq, hb⟩ := Session.takeTask_done ht
  refine h.append (l := []) ?_ (by simp) (by simp) ?_ ?_ ?_ ?_ (.inl ?_) rfl (.inl ?_)
  · rw [setSession_toSession, hb, List.append_nil]
  · rw [setSession_toSession, hb]
    exact id
  · rw [setSession_toSession, hq, List.filter_cons_of_neg (by simp [he])]
  · rw [setSession_toSession, hq, List.countP_cons]
    omega
  · rw [setSession_toSession, hq, List.countP_cons, hpre]
    rfl
  · rw [setSession_toSession, hb]
  · rw [setSession_toSession, hb]

/-- What is done for the log-in ends it with an error of its own, or with none. -/
theorem Routes.logInDid (h : Routes s) (hp : Phases cfg s) (hm : s.masterChannel.isSome = true)
    (hd : LogInDid s s') : Routes s' := by
  cases hd with
  | goesOn hd hl => exact h.of_did hp hd hl
  | @succeeded s₁ hq hl hw₁ hset site out =>
    have h₁ : Routes s₁ := h.of_did (F := False) hp (.quiet hq) hl
    exact h₁.append rfl (by simp [Event.isRouted, Event.isOnErrAt]) (by simp) id rfl id rfl
      (.inl rfl) rfl (.inl rfl)
  | @failed s₁ hq hl hw₁ hset b hb e site hsite =>
    have h₁ : Routes s₁ := h.of_did (F := False) hp (.quiet hq) hl
    have hes : ∀ ev ∈ [Event.logInDone (some e) site s₁.out],
        ev.isRouted = false ∧ ev.isOnErrAt .preInit = false := by
      intro ev hev
      rw [List.mem_singleton.mp hev]
      cases site <;> first | exact ⟨rfl, rfl⟩ | cases hsite
    rcases hb with rfl | ⟨ch, e', hm', hh, rfl⟩
    · exact h₁.append rfl hes (by simp) id rfl id rfl (.inr rfl) rfl (.inl rfl)
    · have hacc := (hp.of_did (F := False) (.quiet hq) hl).accept_eq_zero
        (hq.channel_isSome.trans hm)
      have h₂ : Routes (s₁.setSession (s₁.failCall ch e')) := by
        refine ⟨h₁.routing.of_traced (.failCall hm' hh e') (by rw [hm']; rfl), fun hc => ?_,
          fun e'' he => ?_, ?_, fun e'' he => ?_⟩
        · have hc : 0 < s₁.queue.countP Task.isAcceptLogIn := hc
          omega
        · exact h₁.ended e'' (by simpa using he)
        · simpa [Event.isOnErrAt] using h₁.cached
        · exact h₁.preInitCode e'' (by simpa using he)
      exact h₂.append rfl hes (by simp) id rfl id rfl (.inr rfl) rfl (.inl rfl)

/-- The log-in starts with a channel that has had no error. -/
theorem Routes.acceptResult {b : Session} (h : Routes s) (hp : Phases cfg s)
    (ht : s.takeTask = .done (.acceptLogIn, b)) (hd : AcceptResult (s.setSession b) s') :
    Routes s' := by
  obtain ⟨h₁, hacc, hm, hset⟩ := hp.atAccept ht
  have hun : b.log.countP Event.isChannelError = 0 := by
    obtain ⟨-, hq, hb⟩ := Session.takeTask_done ht
    rw [hb]
    refine h.unstarted ?_
    rw [hq, List.countP_cons]
    simp [Task.isAcceptLogIn]
  have hr := h.takeTask ht rfl rfl
  cases hd with
  | failed hset' e =>
    exact hr.append rfl (by simp [Event.isRouted, Event.isOnErrAt]) (by simp) id rfl id rfl
      (.inl rfl) rfl (.inl rfl)
  | @started hm' s₁ _ hs₁ hl hdid hl' =>
    refine Routes.of_did (s := s₁) ?_ (h₁.acceptStarted hacc hset hs₁ hl) hdid hl'
    obtain ⟨-, hpre, -, -⟩ := hl
    refine ⟨?_, ?_, ?_, ?_, ?_⟩
    · rw [hs₁, hpre]
      exact hr.routing.setFresh hun 0 true
    · rw [hs₁]
      exact fun _ => hun
    · rw [hs₁]
      exact hr.ended
    · rw [hs₁, hpre]
      exact hr.cached
    · rw [hs₁, hpre]
      exact hr.preInitCode

/-- What thread W finds when it takes up the report of the error: the log-in has long been started,
    and nothing has come of the report so far. -/
structure TakesReport (s : Server) (e : Err) (b : Session) : Prop where
  waiting : Session.Routing.Waiting s.toSession s.preInitErrCode e
  unstored : s.preInitErrCode = none
  noAccept : b.queue.countP Task.isAcceptLogIn = 0
  noReport : b.queue.countP Task.isPreInitError = 0
  unreported : s.log.countP (Event.isOnErrAt .preInit) = 0
  silent : ∀ e, Event.onErr e .preInit ∉ s.log
  masterChannel : b.masterChannel = s.masterChannel
  peerState : b.peerStateErrCodeOrOk = s.peerStateErrCodeOrOk
  finisher : b.gracefulFinisher = s.gracefulFinisher
  log : b.log = s.log

/-- Under the invariant that is what thread W finds. -/
theorem Routes.takesReport {chan : Nat} {e : Err} {b : Session} (h : Routes s)
    (ht : s.takeTask = .done (.masterChannelError chan e, b)) : TakesReport s e b := by
  obtain ⟨-, hq, hb⟩ := Session.takeTask_done ht
  have hwait : Session.Routing.Waiting s.toSession s.preInitErrCode e :=
    h.routing.waiting chan (by rw [hq]; exact List.mem_cons_self)
  have hpre : s.preInitErrCode = none := hwait.stored
  have hqc : ∀ p : Task → Bool, p (.masterChannelError chan e) = false →
      b.queue.countP p = s.queue.countP p := by
    intro p hp
    rw [hq, List.countP_cons, hp]
    rfl
  have hcached := h.cached
  rw [hpre] at hcached
  simp only [Option.isSome_none, Bool.and_false, Bool.toNat_false, Nat.add_eq_zero_iff] at hcached
  exact {
    waiting := hwait
    unstored := hpre
    noAccept := by
      rw [hqc _ rfl]
      by_contra hn
      have h₁ := h.unstarted (Nat.pos_of_ne_zero hn)
      rw [hwait.errors] at h₁
      cases h₁
    noReport := (hqc _ rfl).trans hcached.1
    unreported := hcached.2
    silent := by
      intro e he
      have h₁ := h.preInitCode e he
      rw [hpre] at h₁
      cases h₁
    masterChannel := by rw [hb]
    peerState := by rw [hb]
    finisher := by rw [hb]
    log := by rw [hb] }

/-- A session whose channel is gone drops the report: its log-in has failed by itself. -/
theorem Routes.errorDropped {chan : Nat} {e : Err} {b : Session} (h : Routes s)
    (hlog : LogInOnce s) (ht : s.takeTask = .done (.masterChannelError chan e, b))
    (hf : TakesReport s e b) (hm : b.masterChannel = none) : Routes (s.setSession b) := by
  have hex : s.Excused := by
    rcases hlog.noChannel (hf.masterChannel ▸ hm) with h₁ | ⟨e', site, out, hsite, hmem⟩
    · have hacc := h.unstarted (by omega)
      rw [hf.waiting.errors] at hacc
      cases hacc
    · refine .inl ⟨e', site, out, ?_, (List.mem_filter.mp hmem).1⟩
      cases site with
      | masterChannelError =>
        have h₁ := List.countP_eq_zero.mp hf.waiting.toOnDone _ (List.mem_filter.mp hmem).1
        exact absurd rfl h₁
      | destructor => exact absurd rfl hsite
      | _ => rfl
  refine ⟨?_, fun hc => ?_, ?_, ?_, ?_⟩
  · exact h.routing.report ht (l := []) (by simp) rfl (.inl rfl) (by simp) (.inl hf.unstored)
      (.inr ⟨by simp [hf.unstored], hex⟩)
  · have hc : 0 < b.queue.countP Task.isAcceptLogIn := hc
    rw [hf.noAccept] at hc
    cases hc
  · rw [setSession_toSession, hf.log, hf.finisher]
    exact h.ended
  · rw [setSession_toSession, hf.log, hf.noReport, hf.unreported]
    simp [hf.unstored]
  · rw [setSession_toSession, hf.log]
    exact fun e he => absurd he (hf.silent e)

/-- While the log-in goes on, the report ends it. -/
theorem Routes.errorFailsLogIn {chan : Nat} {e : Err} {b : Session} (h : Routes s)
    (ht : s.takeTask = .done (.masterChannelError chan e, b)) (hf : TakesReport s e b) :
    Routes { s.setSession b with
      toSession := b.dropChannel.record (.logInDone (some e) .masterChannelError s.out)
      logInOnDoneFuncSet := false
      accepted := false } := by
  refine ⟨?_, fun hc => ?_, fun e' he => ?_, ?_, fun e' he => ?_⟩
  · exact h.routing.report ht (l := [.logInDone (some e) .masterChannelError s.out]) rfl rfl
      (.inr rfl) (by simp) (.inl hf.unstored) (.inl (by simp [hf.unstored]))
  · have hc : 0 < b.queue.countP Task.isAcceptLogIn := hc
    rw [hf.noAccept] at hc
    cases hc
  · have he : Event.onErr e' .gracefulSessionEnd ∈ s.log := by simpa [hf.log] using he
    simpa [hf.finisher] using h.ended e' he
  · have hno := hf.noReport
    simp [hf.log, Event.isOnErrAt, hno, hf.unstored]
    simpa [Event.isOnErrAt] using hf.unreported
  · have he : Event.onErr e' .preInit ∈ s.log := by simpa [hf.log] using he
    exact absurd he (hf.silent e')

/-- Before `init_handlers()`, the report is stored. -/
theorem Routes.errorCached {chan : Nat} {e : Err} {b : Session} (h : Routes s)
    (ht : s.takeTask = .done (.masterChannelError chan e, b)) (hf : TakesReport s e b)
    (ho : b.onErrFuncSet = false) : Routes { s.setSession b with preInitErrCode := some e } := by
  refine ⟨?_, fun hc => ?_, ?_, ?_, ?_⟩
  · exact h.routing.report ht (l := []) (by simp) rfl (.inl rfl) (by simp) (.inr rfl)
      (.inl (by simp))
  · have hc : 0 < b.queue.countP Task.isAcceptLogIn := hc
    rw [hf.noAccept] at hc
    cases hc
  · rw [setSession_toSession, hf.log, hf.finisher]
    exact h.ended
  · rw [setSession_toSession, hf.log, hf.noReport, hf.unreported, ho]
    rfl
  · rw [setSession_toSession, hf.log]
    exact fun e he => absurd he (hf.silent e)

/-- What becomes of a report in PEER state: the session is as it was but for its queue and the
    finisher's promise, and nothing was said of it before. -/
theorem Routes.of_taken {e : Err} {b b' : Session} (h : Routes s) (hf : TakesReport s e b)
    (hr : b'.Routing none) (hq : b'.queue = b.queue)
    (hfin : b'.gracefulFinisher.isSome = b.gracefulFinisher.isSome)
    (hlog : ∀ e' site, site ≠ .masterChannelError → Event.onErr e' site ∈ b'.log →
      Event.onErr e' site ∈ s.log) : Routes ((s.setSession b).setSession b') := by
  have hno : b'.log.countP (Event.isOnErrAt .preInit) = 0 := by
    rw [List.countP_eq_zero]
    intro ev hev hpe
    cases ev with
    | onErr e' site =>
      have hs : site = .preInit := of_decide_eq_true hpe
      subst hs
      exact hf.silent e' (hlog e' .preInit nofun hev)
    | _ => cases hpe
  refine ⟨?_, fun hc => ?_, fun e' he => ?_, ?_, fun e' he => ?_⟩
  · rw [setSession_preInitErrCode, setSession_preInitErrCode, hf.unstored]
    exact hr
  · have hc : 0 < b'.queue.countP Task.isAcceptLogIn := hc
    rw [hq, hf.noAccept] at hc
    cases hc
  · rw [setSession_toSession, hfin, hf.finisher]
    exact h.ended e' (hlog e' .gracefulSessionEnd nofun he)
  · rw [setSession_toSession, hno, hq, hf.noReport]
    simp [hf.unstored]
  · exact absurd (hlog e' .preInit nofun he) (hf.silent e')

/-- In PEER state the report hoses the session, unless it is hosed already. -/
theorem Routes.errorInPeer {chan : Nat} {e : Err} {b b₁ b' : Session} (h : Routes s)
    (hh : s.Hosing) (ht : s.takeTask = .done (.masterChannelError chan e, b))
    (hf : TakesReport s e b)
    (h₁ : (b.peerStateErrCodeOrOk.isSome = true ∧ b₁ = b) ∨
      (b.peerStateErrCodeOrOk = none ∧ b₁ = b.emitHosed e .masterChannelError))
    (h₂ : (cfg.gracefulFinishRequired = true ∧ b.gracefulFinisher.isSome = true ∧
      b' = b₁.setFinisher true) ∨ (cfg.gracefulFinishRequired = false ∧ b' = b₁)) :
    Routes ((s.setSession b).setSession b') := by
  -- the promise of the finisher does not matter here
  have hb' : b'.log = b₁.log ∧ b'.queue = b₁.queue ∧ b'.masterChannel = b₁.masterChannel ∧
      (b₁.gracefulFinisher = b.gracefulFinisher →
        b'.gracefulFinisher.isSome = b.gracefulFinisher.isSome) := by
    rcases h₂ with ⟨-, hs, rfl⟩ | ⟨-, rfl⟩
    · exact ⟨rfl, rfl, rfl, fun _ => hs.symm⟩
    · exact ⟨rfl, rfl, rfl, fun hs => by rw [hs]⟩
  obtain ⟨hl', hq', hm', hf'⟩ := hb'
  rcases h₁ with ⟨hhosed, rfl⟩ | ⟨hnot, rfl⟩
  · have hex : s.Excused :=
      h.routing.excused_of_hosed hf.waiting hh (hf.peerState ▸ hhosed) h.preInitCode
    refine h.of_taken hf ?_ hq' (hf' rfl) fun e' site _ he => ?_
    · exact h.routing.report ht (l := []) (by rw [hl']; simp) hq' (.inl hm') (by simp) (.inl rfl)
        (.inr ⟨by simp, hex⟩)
    · rwa [hl', hf.log] at he
  · refine h.of_taken hf ?_ hq' (hf' rfl) fun e' site hs he => ?_
    · exact h.routing.report ht (l := [.onErr e .masterChannelError]) (by rw [hl']; rfl) hq'
        (.inl hm') (by simp) (.inl rfl) (.inl (by simp))
    · have he : Event.onErr e' site ∈ s.log ∨ e' = e ∧ site = .masterChannelError := by
        simpa [hl', hf.log] using he
      exact he.resolve_right fun hsite => hs hsite.2

/-- **A report comes to one place**: the phase says which. -/
theorem Routes.errorResult {chan : Nat} {e : Err} {b : Session} (h : Routes s)
    (hlog : LogInOnce s) (hh : s.Hosing)
    (ht : s.takeTask = .done (.masterChannelError chan e, b))
    (hd : ErrorResult cfg (s.setSession b) e s') : Routes s' := by
  have hf := h.takesReport ht
  cases hd with
  | dropped hm => exact h.errorDropped hlog ht hf hm
  | logInFailed => exact h.errorFailsLogIn ht hf
  | cached _ _ ho => exact h.errorCached ht hf ho
  | inPeer _ _ h₁ h₂ => exact h.errorInPeer hh ht hf h₁ h₂

/-- The peer's `GracefulSessionEnd` is no error of the channel. -/
theorem Routes.gracefulSessionEnd {b : Session} (h : Routes s)
    (hd : s.onGracefulSessionEnd = .done b) : Routes (s.setSession b) := by
  obtain ⟨-, -, ⟨-, rfl⟩ | ⟨-, rfl⟩⟩ := Session.onGracefulSessionEnd_done hd
  · exact h.append (by simp) (l := []) (by simp) (by simp) (fun _ => rfl) rfl id rfl (.inl rfl) rfl
      (.inl rfl)
  · exact h.append (l := [.onErr .sessionFinished .gracefulSessionEnd]) rfl
      (by simp [Event.isRouted, Event.isOnErrAt]) (fun _ => rfl) (fun _ => rfl) rfl id rfl
        (.inl rfl)
      rfl (.inl rfl)

/-- `init_handlers()` posts the report of an error that came before it. -/
theorem Routes.initHandlersResult {passiveOpen : Bool} (h : Routes s) (hp : Phases cfg s)
    (ha : s.accepted = true) (hd : InitHandlersResult cfg s passiveOpen s') : Routes s' := by
  cases hd with
  | again ho =>
    exact h.append rfl (by simp [Event.isRouted, Event.isOnErrAt]) (by simp) id rfl id rfl
      (.inl rfl)
      rfl (.inl rfl)
  | cached ho hpre hpn =>
    have hc := h.cached
    rw [ho, Bool.false_and, Bool.toNat_false, Nat.add_eq_zero_iff] at hc
    refine ⟨?_, ?_, fun e he => h.ended e (by simpa [post, record] using he), ?_,
      fun e he => h.preInitCode e (by simpa [post, record] using he)⟩
    · refine h.routing.append (l := [.initHandlersReturned true]) rfl ?_ ?_ (.inl rfl)
      · simp [Event.isRouted]
      · simp [record, post, Task.isMasterChannelError]
    · simpa [record, post, Task.isAcceptLogIn, Event.isChannelError] using h.unstarted
    · simp [record, post, Task.isPreInitError, Event.isOnErrAt, hc.1, hc.2, hpre]
  | @plain ho hpre b₁ b₂ hdid h₂ =>
    have h₁ : Routes (s.setHandlers passiveOpen) :=
      h.append (l := []) (by simp) (by simp) (by simp) id rfl id rfl (.inl rfl) rfl (.inr hpre)
    have hp₁ := hp.setHandlers ha passiveOpen ho
    have h₃ : Routes ((s.setHandlers passiveOpen).setSession b₁) :=
      h₁.of_did hp₁ hdid (.setSession _)
    have hp₃ : Phases cfg ((s.setHandlers passiveOpen).setSession b₁) :=
      hp₁.of_did hdid (.setSession _)
    have h₄ : Routes ((s.setHandlers passiveOpen).setSession b₂) := by
      rcases h₂ with ⟨hreq, ch, hm, hr⟩ | ⟨-, rfl⟩
      · have hf : Routes ((s.setHandlers passiveOpen).setSession (b₁.setFinisher false)) :=
          h₃.append (l := []) (by simp) (by simp) (by simp) (fun _ => rfl) rfl id rfl (.inl rfl) rfl
            (.inl rfl)
        exact hf.of_did (F := False) (hp₃.setFinisher hdid.onErrFuncSet hreq hpre) (hr.did hm)
          (.setSession _)
      · exact h₃
    exact h₄.append rfl (by simp [Event.isRouted, Event.isOnErrAt]) (by simp) id rfl id rfl
      (.inl rfl) rfl (.inl rfl)

/-- With an error in the cache nothing else has hosed the session. -/
theorem Routes.not_hosed (h : Routes s) (hp : Phases cfg s) (hh : s.Hosing)
    (hq : Task.preInitError ∈ s.queue) : s.peerStateErrCodeOrOk = none := by
  have hc := h.cached
  have hpos : 0 < s.queue.countP Task.isPreInitError := List.countP_pos_iff.mpr ⟨_, hq, rfl⟩
  have hle := Bool.toNat_le (s.onErrFuncSet && s.preInitErrCode.isSome)
  -- The task is queued because an error is cached and the handlers are set.
  have hand : (s.onErrFuncSet && s.preInitErrCode.isSome) = true := by
    cases hb : s.onErrFuncSet && s.preInitErrCode.isSome with
    | true => rfl
    | false =>
      rw [hb, Bool.toNat_false] at hc
      omega
  simp only [Bool.and_eq_true] at hand
  obtain ⟨ho, hpre⟩ := hand
  obtain ⟨e₀, hpre₀⟩ := Option.isSome_iff_exists.mp hpre
  have hasync : 0 < s.log.countP Event.isAsyncError :=
    List.countP_pos_iff.mpr ⟨_, h.routing.storedCode e₀ hpre₀, rfl⟩
  have no_call := Session.no_call_of_async h.routing.channelErrors hasync
  -- The cached error is the channel's only one, so nobody else had one to deliver.
  have hle' := Session.countP_isAsyncError_le s.log
  have hr := h.routing.le
  have he := h.routing.channelErrors
  simp only [Session.routed, hpre, Bool.toNat_true] at hr
  by_contra hn
  have hsome : s.peerStateErrCodeOrOk.isSome = true := Option.isSome_iff_ne_none.mpr hn
  have hcount : 0 < s.log.countP Event.isOnErr := by
    rw [hh.count, hsome]
    exact Nat.one_pos
  obtain ⟨ev, hm, hev⟩ := List.countP_pos_iff.mp hcount
  -- Whatever would have hosed the session delivered an error too many.
  cases ev with
  | onErr e' site =>
    cases site with
    | masterChannelError =>
      have h₁ : 0 < s.log.countP (Event.isOnErrAt .masterChannelError) :=
        List.countP_pos_iff.mpr ⟨_, hm, rfl⟩
      omega
    | openChannel => exact no_call e' (h.routing.callCode e' _ (.inl rfl) hm)
    | openChannelReq => exact no_call e' (h.routing.callCode e' _ (.inr rfl) hm)
    | gracefulSessionEnd =>
      have h₁ := (hp.finisher (h.ended e' hm)).2.2
      rw [h₁] at hpre
      cases hpre
    | preInit =>
      have h₁ : 0 < s.log.countP (Event.isOnErrAt .preInit) :=
        List.countP_pos_iff.mpr ⟨_, hm, rfl⟩
      omega
  | _ => cases hev

/-- That report comes to the on-error handler. -/
theorem Routes.preInitError {b : Session} (h : Routes s) (hp : Phases cfg s) (hh : s.Hosing)
    (ht : s.takeTask = .done (.preInitError, b))
    (hd : (s.setSession b).preInitError = .done s') : Routes s' := by
  obtain ⟨-, hq, hb⟩ := Session.takeTask_done ht
  -- The session is not hosed yet: the cached error is the only one.
  have hpn : b.peerStateErrCodeOrOk = none := by
    rw [hb]
    exact h.not_hosed hp hh (by rw [hq]; exact List.mem_cons_self)
  have hlb : b.log = s.log := by rw [hb]
  have hfb : b.gracefulFinisher = s.gracefulFinisher := by rw [hb]
  have hmb : b.masterChannel = s.masterChannel := by rw [hb]
  have hob : b.onErrFuncSet = s.onErrFuncSet := by rw [hb]
  simp only [Server.preInitError] at hd
  split at hd
  · rename_i e hpre
    have hpre : s.preInitErrCode = some e := hpre
    obtain ⟨b', hb', rfl⟩ := liftUnit_done hd
    obtain ⟨ho, ⟨hn, -⟩ | ⟨-, rfl⟩⟩ := Session.hoseIfNot_done hb'
    · have hn : b.peerStateErrCodeOrOk.isSome = true := hn
      rw [hpn] at hn
      cases hn
    · have ho : s.onErrFuncSet = true := hob ▸ ho
      -- One such task for one cached error, which the handlers set in between will be told of.
      have hc := h.cached
      rw [hq, List.countP_cons, ho, hpre] at hc
      simp only [Task.isPreInitError, if_true, Option.isSome_some, Bool.and_true,
        Bool.toNat_true] at hc
      refine ⟨?_, fun hacc => ?_, fun e' he => ?_, ?_, fun e' he => ?_⟩
      · refine h.routing.append (l := [.onErr e .preInit]) ?_ (by simp [Event.isRouted])
          ?_ (.inl ?_)
        · simp [hlb]
        · simp [hq, Task.isMasterChannelError]
        · simp [hmb]
      · have hacc : 0 < b.queue.countP Task.isAcceptLogIn := hacc
        have h₁ := h.unstarted (by rw [hq, List.countP_cons]; omega)
        simpa [hlb, Event.isChannelError] using h₁
      · have h₁ : Event.onErr e' .gracefulSessionEnd ∈ s.log := by simpa [hlb] using he
        simpa [hfb] using h.ended e' h₁
      · simp only [setSession_toSession, Session.emitHosed_queue, Session.emitHosed_log, hlb,
          List.countP_append, Session.emitHosed_onErrFuncSet, hob, ho,
          setSession_preInitErrCode, hpre]
        simp [Event.isOnErrAt]
        omega
      · have he : Event.onErr e' .preInit ∈ s.log ∨ e' = e := by simpa [hlb] using he
        rw [setSession_preInitErrCode, setSession_preInitErrCode, hpre]
        rcases he with he | rfl
        · rw [← hpre]; exact h.preInitCode e' he
        · rfl
  · cases hd

/-- **Every error is routed by phase**, at every step. -/
theorem Routes.step (h : Routes s) (hlog : LogInOnce s) (hp : Phases cfg s) (hh : s.Hosing)
    (hd : StepResult cfg F s s') : Routes s' := by
  cases hd with
  | common hd hl => exact h.of_did hp hd hl
  -- The task of init_handlers() is no report of an error.
  | wantsPeer ha passiveOpen =>
    refine h.append (l := []) (by simp [post]) (by simp) (by simp) id ?_ ?_ ?_ (.inl rfl) rfl
      (.inl rfl)
    · simp [post, Task.isMasterChannelError]
    · simp [post, Task.isAcceptLogIn]
    · simp [post, Task.isPreInitError]
  | initChannels hw hd => exact h.logInDid hp (hp.sync hw) hd
  -- The destructor's end: a pending log-in gets the abort code, which is no error of the channel.
  | returned hdt hs' hl =>
    obtain ⟨-, hpre, -, -⟩ := hl
    cases hset : s.logInOnDoneFuncSet with
    | true =>
      rw [hset, if_pos rfl] at hs'
      refine h.append (l := [.logInDone (some .objectShutdownAbortedCompletionHandler) .destructor
        s.out]) ?_ ?_ ?_ ?_ ?_ ?_ ?_ (.inl ?_) hpre (.inl ?_)
      · rw [hs']; rfl
      · simp [Event.isRouted, Event.isOnErrAt]
      · simp
      · rw [hs']; exact id
      · rw [hs']; rfl
      · rw [hs']; exact id
      · rw [hs']; rfl
      · rw [hs']; rfl
      · rw [hs']; rfl
    | false =>
      rw [hset, if_neg Bool.false_ne_true] at hs'
      refine h.append (l := []) ?_ (by simp) (by simp) ?_ ?_ ?_ ?_ (.inl ?_) hpre (.inl ?_)
      · rw [hs']; simp
      · rw [hs']; exact id
      · rw [hs']; rfl
      · rw [hs']; exact id
      · rw [hs']; rfl
      · rw [hs']; rfl
      · rw [hs']; rfl
  | @task t b _ ht hr =>
    cases hr with
    -- Neither the report, nor the cached error, nor the acceptance.
    | plain hplain hdid hl =>
      have hne : t.isMasterChannelError = false ∧ t.isPreInitError = false ∧
          t.isAcceptLogIn = false := by
        cases t <;> first | exact ⟨rfl, rfl, rfl⟩ | cases hplain
      exact (h.takeTask ht hne.1 hne.2.1).of_did (hp.takeTask ht hne.2.2) hdid hl
    | logInReq hm hd => exact (h.takeTask ht rfl rfl).logInDid (hp.takeTask ht rfl) hm hd
    | acceptLogIn hd => exact h.acceptResult hp ht hd
    | masterChannelError hd => exact h.errorResult hlog hh ht (onMasterChannelError_done hd)
    | gracefulSessionEnd hd => exact (h.takeTask ht rfl rfl).gracefulSessionEnd hd
    | initHandlers hd =>
      exact (h.takeTask ht rfl rfl).initHandlersResult (hp.takeTask ht rfl)
        (hp.accepted_of_initHandlers ht) (initHandlers_done hd)
    | preInitError hd => exact h.preInitError hp hh ht hd

/-- What the session server and its user can rely on, from `async_accept_log_in()` until the
    destructor has returned. -/
structure LogInCompletes (s : Server) : Prop where
  atMostOnce : s.log.countP Event.isLogInDone ≤ 1
  byReturn : s.dtor = .returned → s.log.countP Event.isLogInDone = 1
  /-- The destructor runs the handler last, with operation-aborted. -/
  aborted : ∀ e out, Event.logInDone (some e) .destructor out ∈ s.log →
    e = .objectShutdownAbortedCompletionHandler ∧ s.dtor = .returned
  /-- With an error out of the log-in itself the channel is gone. -/
  failure : ∀ e site out, site ≠ .destructor → Event.logInDone (some e) site out ∈ s.log →
    s.masterChannel = none
  oneError : s.log.countP Event.isAsyncError ≤ 1
  /-- The error that came through the handler is in one place. -/
  oneFate : s.routed s.preInitErrCode ≤ s.log.countP Event.isAsyncError
  notLost : s.Excused ∨ s.routed s.preInitErrCode = s.log.countP Event.isAsyncError
  doneCode : ∀ e out, Event.logInDone (some e) .masterChannelError out ∈ s.log →
    Event.channelError true e ∈ s.log
  /-- The error is cached in almost-PEER state only, and is the one that the channel emitted. -/
  storedCode : ∀ e, s.preInitErrCode = some e →
    Event.channelError true e ∈ s.log ∧ s.logInOnDoneFuncSet = false
  /-- It goes to the on-error handler in PEER state. -/
  onErrCode : ∀ e, Event.onErr e .masterChannelError ∈ s.log →
    Event.channelError true e ∈ s.log ∧ s.onErrFuncSet = true
  /-- The cached error goes to the on-error handler once, after `init_handlers()`. -/
  cached : s.queue.countP Task.isPreInitError + s.log.countP (Event.isOnErrAt .preInit) =
    (s.onErrFuncSet && s.preInitErrCode.isSome).toNat
  cachedCode : ∀ e, Event.onErr e .preInit ∈ s.log → s.preInitErrCode = some e

/-- The invariants of a server's log-in, together. -/
structure LogInInv (cfg : Cfg) (s : Server) : Prop where
  err : ErrInv cfg False s
  once : LogInOnce s
  routes : Routes s

/-- Nothing has been done yet. -/
theorem logInInv_fresh (srvNamespace : SharedName) (out : OutArgs) :
    LogInInv cfg (fresh srvNamespace out) :=
  ⟨errInv_fresh srvNamespace out, logInOnce_fresh srvNamespace out, routes_fresh srvNamespace out⟩

/-- What is known of a log-in is kept by every step. -/
theorem LogInInv.step {a : Act} (h : LogInInv cfg s) (hd : step cfg s a = .done s') :
    LogInInv cfg s' := by
  have hr := step_result h.err.hosing.waiting hd
  exact ⟨h.err.step (fun h => h.elim) hd, h.once.step h.err.phases hr,
    h.routes.step h.once h.err.phases h.err.hosing hr⟩

/-- It says all that is claimed of how log-ins end. -/
theorem LogInInv.completes (h : LogInInv cfg s) : LogInCompletes s := by
  have hdone := h.once.done
  rw [← List.countP_eq_length_filter] at hdone
  have mem : ∀ e site out, Event.logInDone (some e) site out ∈ s.log →
      Event.logInDone (some e) site out ∈ s.log.filter Event.isLogInDone :=
    fun e site out he => List.mem_filter.mpr ⟨he, rfl⟩
  refine ⟨?_, fun hr => ?_, fun e out he => ?_, fun e site out hs he => ?_, ?_, h.routes.routing.le,
    h.routes.routing.eq, h.routes.routing.doneCode, fun e he => ⟨?_, ?_⟩, fun e he => ⟨?_, ?_⟩,
    h.routes.cached, h.routes.preInitCode⟩
  · rw [hdone]
    split
    · exact Nat.le_refl 1
    · exact Bool.toNat_le _
  · rw [hdone, if_pos hr]
  · rcases h.once.failure e _ out (mem _ _ _ he) with ⟨-, h₁, h₂⟩ | ⟨hs, -⟩
    · exact ⟨h₁, h₂⟩
    · exact absurd rfl hs
  · rcases h.once.failure e site out (mem _ _ _ he) with ⟨h₁, -⟩ | ⟨-, hset, hacc⟩
    · exact absurd h₁ hs
    · exact h.err.phases.failed hset hacc
  · exact Nat.le_trans (Session.countP_isAsyncError_le _) h.routes.routing.channelErrors
  · exact h.routes.routing.storedCode e he
  · cases hset : s.logInOnDoneFuncSet with
    | false => rfl
    | true =>
      have h₁ := (h.err.phases.logIn hset).2.1
      rw [he] at h₁
      cases h₁
  · exact h.routes.routing.onErrCode e he
  · cases ho : s.onErrFuncSet with
    | true => rfl
    | false =>
      have h₁ := h.err.hosing.count_eq_zero (h.err.phases.notPeer ho)
      exact absurd rfl (List.countP_eq_zero.mp h₁ _ he)

/-- **The log-in completes once, and every error of the channel is routed by phase**, in every run
    of a server whose log-in has been asked for. -/
theorem logInCompletes_of_reaches (cfg : Cfg) (srvNamespace : SharedName) (out : OutArgs)
    (s : Server) (h : Machine.Reaches (step cfg) Machine.anyStep (fresh srvNamespace out) s) :
    s.LogInCompletes := by
  have hi : LogInInv cfg s := Machine.Reaches.invariant h (logInInv_fresh srvNamespace out)
    fun _ _ _ hinv _ hd => hinv.step hd
  exact hi.completes

/-- The log-in channel emits its error while the log-in is outstanding; then the destructor runs. -/
theorem logInCompletes_of_reaches_asyncError :
    ∃ s : Server, s.log.countP Event.isErrorToOnDone = 1 ∧ s.dtor = .returned ∧
      s.LogInCompletes := by
  obtain ⟨s, hr, hs⟩ := Machine.Reaches.exists_of_run (step .sample)
    (fresh ['7'] ⟨none, none, none⟩)
    [.run {}, .channelError (.other 1), .run {}, .dtorStart, .run {}, .dtorStep, .dtorFinish]
    (fun s => decide (s.log.countP Event.isErrorToOnDone = 1) && decide (s.dtor = .returned))
    (by decide)
  simp only [Bool.and_eq_true, decide_eq_true_eq] at hs
  exact ⟨s, hs.1, hs.2, logInCompletes_of_reaches .sample _ _ s hr⟩

/-- **An error does not always find the channel gone, nor a handler**: the destructor runs the
    log-in's handler with the channel still there, and in PEER state an error is dropped where a
    `GracefulSessionEnd` has hosed the session before. -/
theorem not_logInCompletes_literally :
    (¬ ∀ (cfg : Cfg) (srvNamespace : SharedName) (out : OutArgs) (s : Server),
      Machine.Reaches (step cfg) Machine.anyStep (fresh srvNamespace out) s →
        ∀ e site out', Event.logInDone (some e) site out' ∈ s.log → s.masterChannel = none) ∧
    (¬ ∀ (cfg : Cfg) (srvNamespace : SharedName) (out : OutArgs) (s : Server),
      Machine.Reaches (step cfg) Machine.anyStep (fresh srvNamespace out) s →
        s.accepted = true → s.routed s.preInitErrCode = s.log.countP Event.isAsyncError) := by
  constructor
  · intro hall
    obtain ⟨s, hr, hs⟩ := Machine.Reaches.exists_of_run (step .sample)
      (fresh ['7'] ⟨none, none, none⟩)
      [.run {}, .dtorStart, .run {}, .flushDone, .dtorStep, .dtorFinish]
      (fun s => s.masterChannel.isSome && s.log.any (· = .logInDone
        (some .objectShutdownAbortedCompletionHandler) .destructor ⟨none, none, none⟩)) (by decide)
    simp only [Bool.and_eq_true, List.any_eq_true, decide_eq_true_eq] at hs
    obtain ⟨hm, ev, hev, rfl⟩ := hs
    rw [hall _ _ _ s hr _ _ _ hev] at hm
    cases hm
  · intro hall
    obtain ⟨s, hr, hs⟩ := Machine.Reaches.exists_of_run
      (step { Cfg.sample with gracefulFinishRequired := true }) (fresh ['7'] ⟨none, none, none⟩)
      [.run { osProcCreds := ⟨5, 1, 1⟩, osProcInvokedAs := ['/', 'c'] },
        .deliver ⟨0, none, none,
          .logInReq ⟨1, 1, .none, true, some ⟨5, 1, 1⟩, ['c'], .none, [], 0⟩⟩,
        .run {}, .initHandlers true, .run {}, .deliver ⟨1, none, none, .gracefulSessionEnd⟩,
        .run {},
        .channelError (.other 1), .run {}]
      (fun s => s.accepted && decide (s.routed s.preInitErrCode = 0) &&
        decide (s.log.countP Event.isAsyncError = 1)) (by decide)
    simp only [Bool.and_eq_true, decide_eq_true_eq] at hs
    have heq := hall _ _ _ s hr hs.1.1
    rw [hs.1.2, hs.2] at heq
    cases heq

end Server

end IpcSession
