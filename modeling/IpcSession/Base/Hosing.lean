import IpcSession.Base.Errors

namespace IpcSession

/-!
# Hosing a session

Three invariants of the common session code, each kept by whatever `Session.Did` allows:

* `Session.Reported` — an error of the channel has hosed the session, or is about to.
* `Session.Finishable` — where a finisher waits for its promise, an error of the channel is about
  to fulfil it.
* `Session.Hosing` — the record of events: the on-error handler runs once at most, no
  passive-open handler after it, and the `open_channel()` that hoses the session returns nothing.
-/

namespace Event

/-- What can be recorded after the on-error handler has run. -/
def fitsHosed : Event → Bool
  | onErr .. => false
  | passiveOpen .. => false
  | openChannelReturned call req ret err target =>
    (openChannelReturned call req ret err target).returnsNothing ||
      (req.isNone && err = some .sessionOpenChannelServerCannotProceedResourceUnavailable &&
        target.isNone)
  | _ => true

/-- What is calm on a hosed session fits one. -/
theorem fitsHosed_of_calm {e : Event} (h : e.calm true = true) : e.fitsHosed = true := by
  cases e <;> simp_all [calm, fitsHosed]

/-- What is calm is not a run of the on-error handler. -/
theorem isOnErr_of_calm {e : Event} {hosed : Bool} (h : e.calm hosed = true) :
    e.isOnErr = false := by
  cases e <;> simp_all [calm, isOnErr]

/-- Nor is what fits a hosed session. -/
theorem isOnErr_of_fitsHosed {e : Event} (h : e.fitsHosed = true) : e.isOnErr = false := by
  cases e <;> simp_all [fitsHosed, isOnErr]

end Event

/-- What a record of events promises about the on-error handler: after it has run only what fits is
    recorded, and an `open_channel()` that hosed the session returns nothing right away. -/
def HosingSpec : List Event → Prop
  | [] => True
  | .onErr _ site :: l =>
    (∀ ev ∈ l, ev.fitsHosed = true) ∧
      (site = .openChannel → ∃ call req l', l = .openChannelReturned call req false none none :: l')
  | _ :: l => HosingSpec l

namespace HosingSpec

variable {l es : List Event}

/-- Before the on-error handler has run there is nothing to keep. -/
theorem append_of_none (h : l.countP Event.isOnErr = 0) : HosingSpec (l ++ es) ↔ HosingSpec es := by
  induction l with
  | nil => rfl
  | cons e l ih =>
    rw [List.countP_cons] at h
    have hl : l.countP Event.isOnErr = 0 := by omega
    cases e with
    | onErr => simp [Event.isOnErr] at h
    | _ => exact ih hl

/-- A log without a run of the on-error handler is fine. -/
theorem of_none (h : l.countP Event.isOnErr = 0) : HosingSpec l := by
  rw [← List.append_nil l]
  exact (append_of_none h).mpr trivial

/-- What fits can follow. -/
theorem append (h : HosingSpec l) (he : ∀ e ∈ es, e.fitsHosed = true) : HosingSpec (l ++ es) := by
  induction l with
  | nil =>
    refine of_none ?_
    rw [List.nil_append, List.countP_eq_zero]
    intro e hm
    simp [Event.isOnErr_of_fitsHosed (he e hm)]
  | cons e l ih =>
    cases e with
    | onErr e site =>
      refine ⟨fun ev hm => (List.mem_append.mp hm).elim (h.1 ev) (he ev), fun hs => ?_⟩
      obtain ⟨call, req, l', rfl⟩ := h.2 hs
      exact ⟨call, req, l' ++ es, rfl⟩
    | _ => exact ih h

/-- What the specification says of any run of the handler. -/
theorem after {l₁ l₂ : List Event} {e : Err} {site : HoseSite}
    (h : HosingSpec (l₁ ++ .onErr e site :: l₂)) :
    (∀ ev ∈ l₂, ev.fitsHosed = true) ∧ (site = .openChannel →
      ∃ call req l', l₂ = .openChannelReturned call req false none none :: l') := by
  induction l₁ with
  | nil => exact h
  | cons e₁ l₁ ih =>
    cases e₁ with
    | onErr e₁ site₁ =>
      have := h.1 (.onErr e site) (by simp)
      cases this
    | _ => exact ih h

end HosingSpec

/-- The peer's `GracefulSessionEnd`. -/
def Task.isGracefulSessionEnd : Task → Bool
  | gracefulSessionEnd _ => true
  | _ => false

namespace Session

variable {F : Prop} {s s' : Session} {cfg : Cfg} {e : Err}

/-! ### An error of the channel hoses the session -/

/-- The error of the channel is waiting for thread W. -/
def ErrorPending (s : Session) (chan : Nat) : Prop := ∃ e, Task.masterChannelError chan e ∈ s.queue

/-- The channel has emitted its error. -/
def channelHosed (s : Session) : Bool := s.masterChannel.any (·.hosed)

/-- A hosed channel is in its error state, under its name. -/
theorem errorState_of_channelHosed (h : s.channelHosed = true) :
    ∃ chan, s.errorState = some (chan, true) := by
  cases hm : s.masterChannel with
  | none => simp [channelHosed, hm] at h
  | some ch =>
    have hh : ch.hosed = true := by simpa [channelHosed, hm] using h
    exact ⟨ch.id, by simp [errorState, hm, hh]⟩

/-- An error of the channel has hosed the session, or is about to; once the destructor runs, it may
    also have been ignored. -/
def Reported (s : Session) : Prop :=
  ∀ chan, s.errorState = some (chan, true) →
    s.ErrorPending chan ∨ s.peerStateErrCodeOrOk.isSome = true ∨ s.dtor ≠ .notStarted

/-- Where the finisher waits, an error of the channel or the peer's `GracefulSessionEnd` is
    about to fulfil its promise. -/
def Finishable (s : Session) : Prop :=
  ∀ chan, s.errorState = some (chan, true) → s.gracefulFinisher = some false →
    s.ErrorPending chan ∨ ∃ c, Task.gracefulSessionEnd c ∈ s.queue

/-- The finisher has no promise to wait for, or the peer's `GracefulSessionEnd` is there. -/
def finisherServed (s : Session) : Bool :=
  s.gracefulFinisher ≠ some false || s.queue.any Task.isGracefulSessionEnd

/-- A finisher that is served, but unfulfilled, has its message in the queue. -/
theorem mem_of_finisherServed (h : s.finisherServed = true)
    (hf : s.gracefulFinisher = some false) : ∃ c, Task.gracefulSessionEnd c ∈ s.queue := by
  simp only [finisherServed, hf, ne_eq, not_true_eq_false, decide_false, Bool.false_or,
    List.any_eq_true] at h
  obtain ⟨t, ht, he⟩ := h
  cases t with
  | gracefulSessionEnd c => exact ⟨c, ht⟩
  | _ => cases he

/-- Quiet code takes no task away. -/
theorem Quiet.mem_queue (h : Quiet s s') {t : Task} (ht : t ∈ s.queue) : t ∈ s'.queue := by
  obtain ⟨ts, hq, -⟩ := h.queue
  rw [hq]
  exact List.mem_append_left ts ht

/-- So a report that is pending stays so. -/
theorem Quiet.errorPending (h : Quiet s s') {chan : Nat} (hp : s.ErrorPending chan) :
    s'.ErrorPending chan :=
  hp.imp fun _ ht => h.mem_queue ht

/-- And a finisher that can be fulfilled stays so. -/
theorem Quiet.finishable (h : Quiet s s') (hr : s.Finishable) : s'.Finishable := by
  intro chan hc hf
  rcases hr chan (h.channel ▸ hc) (h.gracefulFinisher ▸ hf) with hp | ⟨c, hp⟩
  · exact .inl (h.errorPending hp)
  · exact .inr ⟨c, h.mem_queue hp⟩

/-- The error that the channel has just emitted through its handler is waiting. -/
theorem emitError_errorPending (ch : MasterChannel) (e : Err) {chan : Nat}
    (hc : (s.emitError ch e).errorState = some (chan, true)) :
    (s.emitError ch e).ErrorPending chan := by
  simp only [errorState, emitError_masterChannel, Option.map_some, Option.some.injEq,
    Prod.mk.injEq] at hc
  exact ⟨e, by simp [hc.1]⟩

/-- An error of the channel was there before, or it is new: then it waits for thread W, or it has
    hosed the session, or the destructor has ignored it. -/
theorem Did.channelError (h : Did F s s') {chan : Nat} (hc : s'.errorState = some (chan, true)) :
    (s.errorState = some (chan, true) ∧ (s.ErrorPending chan → s'.ErrorPending chan) ∧
        s'.peerStateErrCodeOrOk = s.peerStateErrCodeOrOk ∧
        (s'.dtor = .notStarted → s.dtor = .notStarted)) ∨
      s'.ErrorPending chan ∨ s'.peerStateErrCodeOrOk.isSome = true ∨
      (s.gracefulFinisher.isSome = true ∧ s'.dtor ≠ .notStarted) := by
  cases h with
  | quiet h =>
    exact .inl ⟨h.channel ▸ hc, h.errorPending, h.peerStateErrCodeOrOk, h.dtor_notStarted⟩
  | emitted h ch hm hh e h' =>
    have hc' : (Session.emitError ch e _).errorState = some (chan, true) := h'.channel ▸ hc
    exact .inr (.inl (h'.errorPending (emitError_errorPending ch e hc')))
  | hosedInOpenChannel => exact .inr (.inr (.inl rfl))
  | hosedInOpenChannelReq => exact .inr (.inr (.inl rfl))
  | ignoredInDtor h ch hm hh hg => exact .inr (.inr (.inr ⟨h.gracefulFinisher ▸ hg, nofun⟩))
  | halted h => exact .inl ⟨h.channel ▸ hc, h.errorPending, h.peerStateErrCodeOrOk, nofun⟩

/-- The error of the channel stays reported, or on its way to be. -/
theorem Did.reported (h : Did F s s') (hr : s.Reported) : s'.Reported := by
  intro chan hc
  rcases h.channelError hc with ⟨hc, hpend, hp, hd⟩ | hpend | hp | ⟨-, hd⟩
  · rcases hr chan hc with h | h | h
    · exact .inl (hpend h)
    · exact .inr (.inl (hp ▸ h))
    · exact .inr (.inr fun hd' => h (hd hd'))
  · exact .inl hpend
  · exact .inr (.inl hp)
  · exact .inr (.inr hd)

/-- `F` has to say that the peer's `GracefulSessionEnd` is there where an error comes out of a
    call. -/
theorem Did.finishable (h : Did F s s') (hr : s.Finishable)
    (hF : F → s.gracefulFinisher = some false → ∃ c, Task.gracefulSessionEnd c ∈ s.queue) :
    s'.Finishable := by
  cases h with
  | quiet h => exact h.finishable hr
  | emitted h ch hm hh e h' =>
    exact h'.finishable fun chan hc _ => .inl (emitError_errorPending ch e hc)
  | hosedInOpenChannel h ch hm hh hp hw hf =>
    intro chan _ hg
    obtain ⟨c, hc⟩ := hF hf (h.gracefulFinisher ▸ hg)
    exact .inr ⟨c, h.mem_queue hc⟩
  | hosedInOpenChannelReq h ch hm hh hp hw hf =>
    intro chan _ hg
    obtain ⟨c, hc⟩ := hF hf (h.gracefulFinisher ▸ hg)
    exact .inr ⟨c, h.mem_queue hc⟩
  | ignoredInDtor h ch hm hh _ _ hf =>
    intro chan _ hg
    obtain ⟨c, hc⟩ := hF hf (h.gracefulFinisher ▸ hg)
    exact .inr ⟨c, h.mem_queue hc⟩
  | halted h => exact h.finishable hr

/-! ### Taking a task -/

/-- A report stays pending unless it is the task that is taken. -/
theorem takeTask_errorPending {t : Task} (hd : s.takeTask = .done (t, s')) {chan : Nat}
    (hp : s.ErrorPending chan) : (∃ e, t = .masterChannelError chan e) ∨ s'.ErrorPending chan := by
  obtain ⟨e, he⟩ := hp
  obtain ⟨-, hq, -⟩ := takeTask_done hd
  rw [hq] at he
  rcases List.mem_cons.mp he with he | he
  · exact .inl ⟨e, he.symm⟩
  · exact .inr ⟨e, he⟩

/-- The finisher is served after the task has been taken, too. -/
theorem finisherServed_takeTask {t : Task} (ht : s.takeTask = .done (t, s'))
    (hg : ∀ c, t ≠ .gracefulSessionEnd c) (h : s.finisherServed = true)
    (hf : s'.gracefulFinisher = some false) : ∃ c, Task.gracefulSessionEnd c ∈ s'.queue := by
  obtain ⟨-, hq, hb⟩ := takeTask_done ht
  rw [hb] at hf
  obtain ⟨c, hc⟩ := mem_of_finisherServed h hf
  rw [hq] at hc
  rcases List.mem_cons.mp hc with hc | hc
  · exact absurd hc.symm (hg c)
  · exact ⟨c, hc⟩

/-- A task that neither reports an error nor is the peer's `GracefulSessionEnd` is taken. -/
theorem Finishable.takeTask {t : Task} (h : s.Finishable) (ht : s.takeTask = .done (t, s'))
    (he : ∀ chan e, t = .masterChannelError chan e → s.errorState ≠ some (chan, true))
    (hg : ∀ c, t ≠ .gracefulSessionEnd c) : s'.Finishable := by
  obtain ⟨-, hq, hb⟩ := takeTask_done ht
  have hes : s'.errorState = s.errorState := by rw [hb]; rfl
  intro chan hc hf
  rw [hes] at hc
  rw [hb] at hf
  rcases h chan hc hf with hp | ⟨c, hp⟩
  · rcases takeTask_errorPending ht hp with ⟨e, rfl⟩ | hp
    · exact absurd hc (he chan e rfl)
    · exact .inl hp
  · rw [hq] at hp
    rcases List.mem_cons.mp hp with hp | hp
    · exact absurd hp.symm (hg c)
    · exact .inr ⟨c, hp⟩

/-! ### The record of events -/

/-- The record of events and the flag that `hosed()` reads agree, and so does thread W. -/
structure Hosing (s : Session) : Prop where
  count : s.log.countP Event.isOnErr = s.peerStateErrCodeOrOk.isSome.toNat
  spec : HosingSpec s.log
  waiting : s.w.inOpenChannel = true → s.peerStateErrCodeOrOk = none

/-- While the session is not hosed, its on-error handler has not run. -/
theorem Hosing.count_eq_zero (h : s.Hosing) (hp : s.peerStateErrCodeOrOk = none) :
    s.log.countP Event.isOnErr = 0 := by
  rw [h.count, hp]
  rfl

/-- Something else is recorded. -/
theorem Hosing.append (h : s.Hosing) (es : List Event) (hl : s'.log = s.log ++ es)
    (hp : s'.peerStateErrCodeOrOk = s.peerStateErrCodeOrOk)
    (he : ∀ e ∈ es, e.isOnErr = false ∧
      (s.peerStateErrCodeOrOk.isSome = true → e.fitsHosed = true))
    (hw : s'.w.inOpenChannel = true → s.peerStateErrCodeOrOk = none) : s'.Hosing where
  count := by
    have hes : es.countP Event.isOnErr = 0 :=
      List.countP_eq_zero.mpr fun e hm => by simp [(he e hm).1]
    rw [hl, hp, List.countP_append, hes, h.count]
    rfl
  spec := by
    rw [hl]
    cases hs : s.peerStateErrCodeOrOk with
    | some e => exact h.spec.append fun ev hm => (he ev hm).2 (by rw [hs]; rfl)
    | none =>
      have hes : es.countP Event.isOnErr = 0 :=
        List.countP_eq_zero.mpr fun e hm => by simp [(he e hm).1]
      exact (HosingSpec.append_of_none (h.count_eq_zero hs)).mpr (.of_none hes)
  waiting := fun h' => hp ▸ hw h'

/-- Nothing is recorded. -/
theorem Hosing.of_log (h : s.Hosing) (hl : s'.log = s.log)
    (hp : s'.peerStateErrCodeOrOk = s.peerStateErrCodeOrOk) (hw : s'.w = s.w) : s'.Hosing :=
  h.append [] (by rw [hl, List.append_nil]) hp (by simp) fun h' => h.waiting (hw ▸ h')

/-- The channel goes, and the log stays. -/
theorem Hosing.dropChannel (h : s.Hosing) : s.dropChannel.Hosing := h.of_log rfl rfl rfl

/-- Quiet code runs no on-error handler. -/
theorem Quiet.hosing (h : Quiet s s') (hs : s.Hosing) : s'.Hosing := by
  obtain ⟨es, hl, he⟩ := h.log
  refine hs.append es hl h.peerStateErrCodeOrOk (fun e hm => ?_) fun hw => ?_
  · exact ⟨Event.isOnErr_of_calm (he e hm), fun hp => Event.fitsHosed_of_calm (hp ▸ he e hm)⟩
  · exact (h.worker hw).elim hs.waiting id

/-- The on-error handler runs for the first time. -/
theorem Hosing.emitHosed (h : s.Hosing) (hp : s.peerStateErrCodeOrOk = none) (site : HoseSite)
    (es : List Event) (hl : s'.log = s.log ++ .onErr e site :: es)
    (hp' : s'.peerStateErrCodeOrOk = some e) (hes : ∀ ev ∈ es, ev.fitsHosed = true)
    (hsite : site = .openChannel →
      ∃ call req l', es = .openChannelReturned call req false none none :: l')
    (hw : s'.w.inOpenChannel = false) : s'.Hosing where
  count := by
    have hes' : es.countP Event.isOnErr = 0 :=
      List.countP_eq_zero.mpr fun ev hm => by simp [Event.isOnErr_of_fitsHosed (hes ev hm)]
    rw [hl, hp', List.countP_append, List.countP_cons, h.count_eq_zero hp, hes']
    rfl
  spec := by
    rw [hl]
    exact (HosingSpec.append_of_none (h.count_eq_zero hp)).mpr ⟨hes, hsite⟩
  waiting := fun h' => by rw [hw] at h'; cases h'

/-- The channel's own events change nothing. -/
theorem Hosing.channelError (h : s.Hosing) {via : Bool} {e : Err}
    (hl : s'.log = s.log ++ [.channelError via e])
    (hp : s'.peerStateErrCodeOrOk = s.peerStateErrCodeOrOk) (hw : s'.w = s.w) : s'.Hosing :=
  h.append _ hl hp (by simp [Event.isOnErr, Event.fitsHosed]) fun h' => h.waiting (hw ▸ h')

/-- What was done runs it at most once, and makes the session hosed. -/
theorem Did.hosing (h : Did F s s') (hs : s.Hosing) : s'.Hosing := by
  cases h with
  | quiet h => exact h.hosing hs
  | emitted h ch hm hh e h' =>
    exact h'.hosing ((h.hosing hs).channelError (e := e) rfl rfl rfl)
  | @hosedInOpenChannel s₁ h ch hm hh hp hw hf e call req =>
    have h₁ : (s₁.failCall ch e).Hosing := (h.hosing hs).channelError (e := e) rfl rfl rfl
    refine h₁.emitHosed hp.2 .openChannel [.openChannelReturned call req false none none]
      ?_ rfl ?_ ?_ hw
    · simp
    · simp [Event.fitsHosed, Event.returnsNothing]
    · exact fun _ => ⟨call, req, [], rfl⟩
  | @hosedInOpenChannelReq s₁ h ch hm hh hp hw hf e =>
    have h₁ : (s₁.failCall ch e).Hosing := (h.hosing hs).channelError (e := e) rfl rfl rfl
    exact h₁.emitHosed hp.2 .openChannelReq [] rfl rfl (by simp) (by simp) hw
  | ignoredInDtor h ch hm hh hg hw hf e =>
    exact (h.hosing hs).channelError (e := e) rfl rfl rfl
  | halted h => exact (h.hosing hs).append [] (by simp) rfl (by simp) (by rintro ⟨⟩)

end Session

end IpcSession
