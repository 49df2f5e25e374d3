import IpcSession.Base.Hosing

namespace IpcSession

/-!
# Errors of the channel, counted

The channel's error is recorded when it is emitted, its report is queued for thread W, and what
thread W makes of the report is recorded again.  `Session.Traced s s'` says how common session
code keeps the three in step: it emits no second error, it queues a report for each error that
came through the handler, and it makes nothing of reports itself.
-/

namespace Event

/-- The channel's on-error handler ran. -/
def isAsyncError : Event → Bool
  | channelError viaHandler _ => viaHandler
  | _ => false

/-- The handler of `async_accept_log_in()` ran. -/
def isLogInDone : Event → Bool
  | logInDone .. => true
  | _ => false

/-- Thread W made something of a report, or a handler ran that common session code does not run: the
    log-in's handler, the on-error handler other than out of a failed call. -/
def isOutcome : Event → Bool
  | logInDone .. => true
  | onErr _ .openChannel => false
  | onErr _ .openChannelReq => false
  | onErr .. => true
  | _ => false

/-- What is calm makes nothing of an error. -/
theorem isOutcome_of_calm {e : Event} {hosed : Bool} (h : e.calm hosed = true) :
    e.isOutcome = false := by
  cases e <;> simp_all [calm, isOutcome]

/-- It is not the error itself. -/
theorem isChannelError_of_calm {e : Event} {hosed : Bool} (h : e.calm hosed = true) :
    e.isChannelError = false := by
  cases e <;> simp_all [calm, isChannelError]

/-- Nor one that the channel finds on its own. -/
theorem isAsyncError_of_calm {e : Event} {hosed : Bool} (h : e.calm hosed = true) :
    e.isAsyncError = false := by
  cases e <;> simp_all [calm, isAsyncError]

end Event

/-- The report of an error of the channel. -/
def Task.isMasterChannelError : Task → Bool
  | masterChannelError .. => true
  | _ => false

/-- A calm task is no report of an error. -/
theorem Task.isMasterChannelError_of_calm {t : Task} (h : t.calm = true) :
    t.isMasterChannelError = false := by
  cases t <;> simp_all [calm, isMasterChannelError]

namespace Session

variable {F : Prop} {s s' s'' : Session} {ch : MasterChannel}

/-- What is recorded and queued is in step with the errors that the channel emits. -/
structure Traced (s s' : Session) : Prop where
  /-- Each error through the handler is reported once. -/
  reports : s'.log.countP Event.isAsyncError + s.queue.countP Task.isMasterChannelError =
    s.log.countP Event.isAsyncError + s'.queue.countP Task.isMasterChannelError
  /-- Each error hoses the channel, which was not hosed before. -/
  once : s'.log.countP Event.isChannelError + s.channelHosed.toNat =
    s.log.countP Event.isChannelError + s'.channelHosed.toNat
  outcomes : ∀ p : Event → Bool, (∀ e, p e = true → e.isOutcome = true) →
    s'.log.countP p = s.log.countP p
  log : ∃ es, s'.log = s.log ++ es
  codes : ∀ chan e, Task.masterChannelError chan e ∈ s'.queue →
    Task.masterChannelError chan e ∈ s.queue ∨ Event.channelError true e ∈ s'.log
  /-- A failed call is recorded as an error of the channel. -/
  calls : ∀ e site, site = .openChannel ∨ site = .openChannelReq → Event.onErr e site ∈ s'.log →
    Event.onErr e site ∈ s.log ∨ Event.channelError false e ∈ s'.log

namespace Traced

/-- The log only grows. -/
theorem mem_log (h : Traced s s') {e : Event} (he : e ∈ s.log) : e ∈ s'.log := by
  obtain ⟨es, hl⟩ := h.log
  rw [hl]
  exact List.mem_append_left es he

/-- Outcomes are neither made nor lost. -/
theorem mem_outcome (h : Traced s s') {e : Event} (he : e.isOutcome = true) :
    e ∈ s'.log ↔ e ∈ s.log := by
  have hc := h.outcomes (fun x => x = e) (by simp [he])
  have key : ∀ l : List Event, e ∈ l ↔ 0 < l.countP (fun x => x = e) := by
    intro l
    simp [List.countP_pos_iff]
  rw [key, key, hc]

/-- Outcomes are recorded in the same order, too. -/
theorem filter (h : Traced s s') {p : Event → Bool} (hp : ∀ e, p e = true → e.isOutcome = true) :
    s'.log.filter p = s.log.filter p := by
  obtain ⟨es, hl⟩ := h.log
  have hc := h.outcomes p hp
  rw [hl, List.countP_append, Nat.add_eq_left, List.countP_eq_length_filter,
    List.length_eq_zero_iff] at hc
  rw [hl, List.filter_append, hc, List.append_nil]

theorem trans (h : Traced s s') (h' : Traced s' s'') : Traced s s'' where
  reports := by
    have h₁ := h.reports
    have h₂ := h'.reports
    omega
  once := by
    have h₁ := h.once
    have h₂ := h'.once
    omega
  outcomes := fun p hp => (h'.outcomes p hp).trans (h.outcomes p hp)
  log := by
    obtain ⟨es, hl⟩ := h.log
    obtain ⟨es', hl'⟩ := h'.log
    exact ⟨es ++ es', by rw [hl', hl, List.append_assoc]⟩
  codes := fun chan e he => by
    rcases h'.codes chan e he with he | he
    · exact (h.codes chan e he).imp_right h'.mem_log
    · exact .inr he
  calls := fun e site hs he => by
    rcases h'.calls e site hs he with he | he
    · exact (h.calls e site hs he).imp_right h'.mem_log
    · exact .inr he

end Traced

/-- Whether the channel is hosed can be told from its error state. -/
theorem channelHosed_eq_of_errorState (h : s'.errorState = s.errorState) :
    s'.channelHosed = s.channelHosed := by
  have key : ∀ b : Session, b.channelHosed = b.errorState.any (·.2) := by
    intro b
    cases hm : b.masterChannel <;> simp [channelHosed, errorState, hm]
  rw [key, key, h]

/-- Quiet code leaves nothing to be traced. -/
theorem Quiet.traced (h : Quiet s s') : Traced s s' := by
  obtain ⟨es, hl, he⟩ := h.log
  obtain ⟨ts, hq, ht⟩ := h.queue
  have none : ∀ p : Event → Bool, (∀ e, e.calm s.peerStateErrCodeOrOk.isSome = true → p e = false) →
      s'.log.countP p = s.log.countP p := by
    intro p hp
    rw [hl, List.countP_append, Nat.add_eq_left, List.countP_eq_zero]
    intro e hm
    simp [hp e (he e hm)]
  have hts : s'.queue.countP Task.isMasterChannelError =
      s.queue.countP Task.isMasterChannelError := by
    rw [hq, List.countP_append, Nat.add_eq_left, List.countP_eq_zero]
    intro t hm
    simp [Task.isMasterChannelError_of_calm (ht t hm)]
  refine ⟨?_, ?_, fun p hp => none p fun e hc => ?_, ⟨es, hl⟩, fun chan e hm => .inl ?_,
    fun e site _ hm => .inl ?_⟩
  · rw [none _ fun _ => Event.isAsyncError_of_calm, hts]
  · rw [none _ fun _ => Event.isChannelError_of_calm, channelHosed_eq_of_errorState h.channel]
  · by_contra hpe
    have hpe := hp e (by simpa using hpe)
    rw [Event.isOutcome_of_calm hc] at hpe
    cases hpe
  · rw [hq] at hm
    rcases List.mem_append.mp hm with hm | hm
    · exact hm
    · have hc := ht _ hm
      cases hc
  · rw [hl] at hm
    rcases List.mem_append.mp hm with hm | hm
    · exact hm
    · have hc := he _ hm
      cases hc

/-- The channel emits its error through its handler. -/
theorem Traced.emitError (hm : s.masterChannel = some ch) (hh : ch.hosed = false) (e : Err) :
    Traced s (s.emitError ch e) := by
  have hs : s.channelHosed = false := by simp [channelHosed, hm, hh]
  refine ⟨?_, ?_, fun p hp => ?_, ⟨_, rfl⟩, fun chan e' hq => ?_, fun e' site _ hl => .inl ?_⟩
  · simp [Event.isAsyncError, Task.isMasterChannelError]
    omega
  · rw [hs]
    simp [Event.isChannelError, channelHosed]
  · have hn : p (.channelError true e) = false := by
      by_contra hpe
      cases hp _ (by simpa using hpe)
    simp [hn]
  · rcases List.mem_append.mp hq with hq | hq
    · exact .inl hq
    · cases List.mem_singleton.mp hq
      exact .inr (List.mem_append_right _ (List.mem_singleton.mpr rfl))
  · rcases List.mem_append.mp hl with hl | hl
    · exact hl
    · cases List.mem_singleton.mp hl

/-- A call emits the error. -/
theorem Traced.failCall (hm : s.masterChannel = some ch) (hh : ch.hosed = false) (e : Err) :
    Traced s (s.failCall ch e) := by
  have hs : s.channelHosed = false := by simp [channelHosed, hm, hh]
  refine ⟨?_, ?_, fun p hp => ?_, ⟨_, rfl⟩, fun chan e' => .inl, fun e' site _ hl => .inl ?_⟩
  · simp [Event.isAsyncError]
  · rw [hs]
    simp [Event.isChannelError, channelHosed]
  · have hn : p (.channelError false e) = false := by
      by_contra hpe
      cases hp _ (by simpa using hpe)
    simp [hn]
  · rcases List.mem_append.mp hl with hl | hl
    · exact hl
    · cases List.mem_singleton.mp hl

/-- The session is hosed with an error that a call has emitted. -/
theorem Traced.emitHosed {e : Err} {site : HoseSite}
    (hsite : site = .openChannel ∨ site = .openChannelReq)
    (he : Event.channelError false e ∈ s.log) :
    Traced s (s.emitHosed e site) := by
  refine ⟨?_, ?_, fun p hp => ?_, ⟨_, rfl⟩, fun chan e' => .inl, fun e' site' _ hl => ?_⟩
  · simp [Event.isAsyncError]
  · simp [Event.isChannelError, channelHosed]
  · have hn : p (.onErr e site) = false := by
      by_contra hpe
      have hpe := hp _ (by simpa using hpe)
      rcases hsite with rfl | rfl <;> cases hpe
    simp [hn]
  · rcases List.mem_append.mp hl with hl | hl
    · exact .inl hl
    · cases List.mem_singleton.mp hl
      exact .inr (List.mem_append_left _ he)

/-- What was done notes each error and what became of it. -/
theorem Did.traced (h : Did F s s') : Traced s s' := by
  cases h with
  | quiet h => exact h.traced
  | emitted h ch hm hh e h' => exact (h.traced.trans (.emitError hm hh e)).trans h'.traced
  | @hosedInOpenChannel s₁ h ch hm hh hp hw hF e call req =>
    have hf : Traced s (s₁.failCall ch e) := h.traced.trans (.failCall hm hh e)
    have hmem : Event.channelError false e ∈ (s₁.failCall ch e).log :=
      List.mem_append_right _ (List.mem_singleton.mpr rfl)
    exact (hf.trans (.emitHosed (.inl rfl) hmem)).trans (Quiet.traced .returnedNothing)
  | @hosedInOpenChannelReq s₁ h ch hm hh hp hw hF e =>
    have hf : Traced s (s₁.failCall ch e) := h.traced.trans (.failCall hm hh e)
    have hmem : Event.channelError false e ∈ (s₁.failCall ch e).log :=
      List.mem_append_right _ (List.mem_singleton.mpr rfl)
    exact hf.trans (.emitHosed (.inr rfl) hmem)
  | @ignoredInDtor s₁ h ch hm hh hg hw hF e =>
    have hf : Traced s (s₁.failCall ch e) := h.traced.trans (.failCall hm hh e)
    exact ⟨hf.reports, hf.once, hf.outcomes, hf.log, hf.codes, hf.calls⟩
  | halted h hw =>
    have hq := h.traced
    exact ⟨hq.reports, hq.once, hq.outcomes, hq.log, hq.codes, hq.calls⟩

end Session

end IpcSession
