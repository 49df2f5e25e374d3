import IpcSession.Machine.Outcome

/-!
# Runs of a machine

A machine is a step function `σ → α → Outcome ε σ`: the action carries everything the step does
not decide itself.  `Reaches step G s₀ s` is reachability by steps that satisfy the guard `G`
in the state they are taken in; `G := anyStep` gives plain reachability.  The rules below are
the only inductions over runs that the developments on top of this file need:

* `Reaches.invariant` — a property of `s₀` that every guarded step keeps holds where the run ends;
* `Reaches.invariant_of` — the same, with another invariant already known along the run;
* `Reaches.exists_of_measure` — steps that bring a measure down lead to what they aim at;
* `observed` — a machine with an observer that takes notes of the run;
* `Reaches.of_run` — a list of actions that runs through gives a reachable state.
-/

namespace Machine

variable {ε σ α : Type*}

/-- The guard that allows every step. -/
def anyStep : σ → α → Prop := fun _ _ => True

/-- The states reached from `s₀` by steps that satisfy `G`. -/
inductive Reaches (step : σ → α → Outcome ε σ) (G : σ → α → Prop) (s₀ : σ) : σ → Prop
  | refl : Reaches step G s₀ s₀
  | tail {s s' : σ} {a : α} :
      Reaches step G s₀ s → G s a → step s a = .done s' → Reaches step G s₀ s'

variable {step : σ → α → Outcome ε σ} {G H : σ → α → Prop} {s₀ s s' : σ}

/-- **Invariant rule.** -/
theorem Reaches.invariant {P : σ → Prop} (h : Reaches step G s₀ s) (h₀ : P s₀)
    (hstep : ∀ s a s', P s → G s a → step s a = .done s' → P s') : P s := by
  induction h with
  | refl => exact h₀
  | tail _ hg hs ih => exact hstep _ _ _ ih hg hs

/-- The invariant rule with an invariant `Q` that is already known along the run. -/
theorem Reaches.invariant_of {P Q : σ → Prop} (h : Reaches step G s₀ s)
    (hQ : ∀ s, Reaches step G s₀ s → Q s) (h₀ : P s₀)
    (hstep : ∀ s a s', Q s → P s → G s a → step s a = .done s' → P s') : P s := by
  induction h with
  | refl => exact h₀
  | tail hr hg hs ih => exact hstep _ _ _ (hQ _ hr) ih hg hs

/-- A weaker guard reaches at least as much. -/
theorem Reaches.mono (h : Reaches step G s₀ s) (hGH : ∀ s a, G s a → H s a) :
    Reaches step H s₀ s := by
  induction h with
  | refl => exact .refl
  | tail _ hg hs ih => exact .tail ih (hGH _ _ hg) hs

/-- A run can be continued by another one. -/
theorem Reaches.trans (h : Reaches step G s₀ s) (h' : Reaches step G s s') :
    Reaches step G s₀ s' := by
  induction h' with
  | refl => exact h
  | tail _ hg hs ih => exact .tail ih hg hs

/-- One step is a run. -/
theorem Reaches.single {a : α} (hg : G s a) (hs : step s a = .done s') :
    Reaches step G s s' :=
  .tail .refl hg hs

/-- **Progress rule.**  Where `Q` does not hold yet, some step brings a measure down: then steps
    lead to `Q`. -/
theorem Reaches.exists_of_measure {P Q : σ → Prop} (m : σ → Nat) (hP : P s)
    (hstep : ∀ s, P s → ¬ Q s → ∃ a s', G s a ∧ step s a = .done s' ∧ P s' ∧ m s' < m s) :
    ∃ s', Reaches step G s s' ∧ P s' ∧ Q s' := by
  induction hn : m s using Nat.strongRecOn generalizing s with
  | ind n ih =>
    by_cases hQ : Q s
    · exact ⟨s, .refl, hP, hQ⟩
    · obtain ⟨a, s₁, hg, hs, hP₁, hlt⟩ := hstep s hP hQ
      obtain ⟨s', hr, hP', hQ'⟩ := ih _ (hn ▸ hlt) hP₁ rfl
      exact ⟨s', (Reaches.single hg hs).trans hr, hP', hQ'⟩

/-! ### A machine under observation -/

/-- The machine with a note beside its state: every step `note`s what it likes of the run. -/
def observed {ν : Type*} (note : σ → α → ν → ν) (step : σ → α → Outcome ε σ) (s : σ × ν) (a : α) :
    Outcome ε (σ × ν) :=
  match step s.1 a with
  | .done s' => .done (s', note s.1 a s.2)
  | .disabled => .disabled
  | .failed e => .failed e

/-- A step of an observed machine is one of the machine itself, with its note added. -/
theorem observed_done {ν : Type*} {note : σ → α → ν → ν} {s s' : σ × ν} {a : α}
    (h : observed note step s a = .done s') : step s.1 a = .done s'.1 ∧ s'.2 = note s.1 a s.2 := by
  simp only [observed] at h
  split at h
  · rename_i hs
    cases h
    exact ⟨hs, rfl⟩
  · cases h
  · cases h

/-! ### Running a list of actions -/

/-- The machine with the steps that satisfy `g` only. -/
def guarded (g : σ → α → Bool) (step : σ → α → Outcome ε σ) (s : σ) (a : α) : Outcome ε σ :=
  if g s a then step s a else .disabled

/-- A guarded machine takes a step where the guard holds and the machine itself takes it. -/
theorem guarded_done {g : σ → α → Bool} {a : α} (h : guarded g step s a = .done s') :
    g s a = true ∧ step s a = .done s' := by
  simp only [guarded] at h
  split at h
  · exact ⟨‹_›, h⟩
  · cases h

/-- Run a list of actions. -/
def run (step : σ → α → Outcome ε σ) : σ → List α → Outcome ε σ
  | s, [] => .done s
  | s, a :: as =>
    match step s a with
    | .done s' => run step s' as
    | .disabled => .disabled
    | .failed e => .failed e

@[simp] theorem run_nil (s : σ) : run step s [] = .done s := rfl

/-- A run over two lists of actions is a run over the first and then one over the second. -/
theorem run_append (s : σ) (as bs : List α) :
    run step s (as ++ bs) = run step s as >>= fun s' => run step s' bs := by
  induction as generalizing s with
  | nil => rfl
  | cons a as ih =>
    simp only [List.cons_append, run]
    cases step s a with
    | done s' => exact ih s'
    | disabled => rfl
    | failed e => rfl

/-- A run fails in a state that it reaches by the actions of its list. -/
theorem run_failed {s : σ} {as : List α} {e : ε} (h : run step s as = .failed e) :
    ∃ s' a, Reaches step (fun _ a => a ∈ as) s s' ∧ a ∈ as ∧ step s' a = .failed e := by
  induction as generalizing s with
  | nil => cases h
  | cons a as ih =>
    simp only [run] at h
    cases hs : step s a with
    | done s₁ =>
      rw [hs] at h
      obtain ⟨s', a', hr, ha', he⟩ := ih h
      have h₁ : Reaches step (fun _ b => b ∈ a :: as) s s₁ := .single List.mem_cons_self hs
      have h₂ : Reaches step (fun _ b => b ∈ a :: as) s₁ s' :=
        hr.mono (fun _ b hb => List.mem_cons_of_mem a hb)
      exact ⟨s', a', h₁.trans h₂, List.mem_cons_of_mem a ha', he⟩
    | disabled => rw [hs] at h; cases h
    | failed e' =>
      rw [hs] at h
      cases h
      exact ⟨s, a, .refl, List.mem_cons_self, hs⟩

/-- A list of actions that runs through ends in a reachable state. -/
theorem Reaches.of_run {s s' : σ} (as : List α) (h : run step s as = .done s') :
    Reaches step anyStep s s' := by
  induction as generalizing s with
  | nil => simp only [run_nil, Outcome.done.injEq] at h; subst h; exact .refl
  | cons a as ih =>
    simp only [run] at h
    cases hs : step s a with
    | done s₁ =>
      rw [hs] at h
      exact (Reaches.single trivial hs).trans (ih h)
    | disabled => rw [hs] at h; cases h
    | failed e => rw [hs] at h; cases h

/-- A run of the guarded machine is a guarded run of the machine. -/
theorem Reaches.of_guarded {g : σ → α → Bool} (h : Reaches (guarded g step) anyStep s s') :
    Reaches step (fun s a => g s a = true) s s' := by
  induction h with
  | refl => exact .refl
  | tail _ _ hs ih => exact .tail ih (guarded_done hs).1 (guarded_done hs).2

/-- **Counting rule.** An action with property `p` uses up one unit of a measure that no step gives
    back. -/
theorem count_le_of_run {P : σ → Prop} {c : σ → Nat} {p : α → Bool} {as : List α}
    (h : run step s as = .done s') (hP : P s)
    (hstep : ∀ s a s', P s → step s a = .done s' → P s' ∧ c s + (p a).toNat ≤ c s') :
    c s + as.countP p ≤ c s' := by
  induction as generalizing s with
  | nil =>
    cases h
    simp
  | cons a as ih =>
    simp only [run] at h
    cases hs : step s a with
    | done s₁ =>
      rw [hs] at h
      obtain ⟨hP₁, hc⟩ := hstep s a s₁ hP hs
      have hrest := ih h hP₁
      have hcons : (a :: as).countP p = as.countP p + (p a).toNat := by
        cases hp : p a <;> simp [hp]
      omega
    | disabled => rw [hs] at h; cases h
    | failed e => rw [hs] at h; cases h

/-- A list of actions that runs through to a state with property `p`. -/
theorem Reaches.exists_of_run (step : σ → α → Outcome ε σ) (s : σ) (as : List α) (p : σ → Bool)
    (h : (run step s as).any p = true) : ∃ s', Reaches step anyStep s s' ∧ p s' = true := by
  obtain ⟨s', hs', hp⟩ := Outcome.any_iff.mp h
  exact ⟨s', .of_run as hs', hp⟩

end Machine
