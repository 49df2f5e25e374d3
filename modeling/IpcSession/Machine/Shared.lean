import IpcSession.Machine.Run
import Mathlib.Data.List.Count

/-!
# Parties that share a state

A list of parties, each with a state of its own, take turns in any order; a turn changes the party
and what all of them share.

* `System.turn`, `System.join` — one party's step, and a new party.
* `System.Exclusive` — where `locked` says that a lock is taken, one party `holds` it, and else
  none.
* `Exclusive.turn` — the count survives a step that takes the lock with it, or gives it back.
* `Exclusive.others_idle`, `holds_unique` — while one party holds the lock, no other does.
* `Exclusive.exists_holder` — a lock that is taken is held by somebody.
* `System.left` — how much the parties have left to do, together; a turn brings it down that brings
  the party's own part down.
* `Exclusive.turn_owns` — **the resource rule**: what the parties know of a resource that only the
  holder of the lock changes outlasts every turn.
-/

namespace Machine

variable {ε σ ρ κ α : Type*}

/-- Parties, and what they share. -/
structure System (σ ρ : Type*) where
  parties : List σ
  shared : ρ
  deriving DecidableEq, Repr

namespace System

variable {step : σ → ρ → α → Outcome ε (σ × ρ)} {w w' : System σ ρ} {holds : σ → Bool}
  {locked : ρ → Bool} {content : ρ → κ} {a : α} {i : Nat} {p p' : σ} {r r' : ρ}

/-- Party `i` takes a step. -/
def turn (step : σ → ρ → α → Outcome ε (σ × ρ)) (w : System σ ρ) (i : Nat) (a : α) :
    Outcome ε (System σ ρ) :=
  match w.parties[i]? with
  | none => .disabled
  | some p =>
    match step p w.shared a with
    | .done (p', r) => .done ⟨w.parties.set i p', r⟩
    | .disabled => .disabled
    | .failed e => .failed e

/-- A new party. -/
def join (w : System σ ρ) (p : σ) : System σ ρ := { w with parties := w.parties ++ [p] }

/-- The others stay as they are. -/
theorem turn_done (h : turn step w i a = .done w') :
    ∃ before p after p' r, w.parties = before ++ p :: after ∧ before.length = i ∧
      step p w.shared a = .done (p', r) ∧ w' = ⟨before ++ p' :: after, r⟩ := by
  unfold turn at h
  split at h
  · cases h
  · rename_i p hp
    obtain ⟨hi, hget⟩ := List.getElem?_eq_some_iff.mp hp
    split at h
    · rename_i p' r hs
      cases h
      refine ⟨w.parties.take i, p, w.parties.drop (i + 1), p', r, ?_, ?_, hs, ?_⟩
      · rw [← hget, List.getElem_cons_drop, List.take_append_drop]
      · exact List.length_take_of_le (by omega)
      · rw [List.set_eq_take_append_cons_drop, if_pos hi]
    · cases h
    · cases h

/-- A turn fails in the party's own step. -/
theorem turn_failed {e : ε} (h : turn step w i a = .failed e) :
    ∃ p ∈ w.parties, step p w.shared a = .failed e := by
  unfold turn at h
  split at h
  · cases h
  · rename_i p hp
    split at h
    · cases h
    · cases h
    · rename_i hs
      cases h
      exact ⟨p, List.mem_of_getElem? hp, hs⟩

/-- The turn of one party leaves the others as they are. -/
theorem turn_getElem?_ne {j : Nat} (h : turn step w j a = .done w') (hij : j ≠ i) :
    w'.parties[i]? = w.parties[i]? := by
  obtain ⟨before, p, after, p', r, hw, hj, -, rfl⟩ := turn_done h
  show (before ++ p' :: after)[i]? = w.parties[i]?
  rw [hw]
  by_cases hlt : i < before.length
  · rw [List.getElem?_append_left hlt, List.getElem?_append_left hlt]
  · obtain ⟨k, rfl⟩ : ∃ k, i = before.length + (k + 1) := ⟨i - before.length - 1, by omega⟩
    rw [List.getElem?_append_right (by omega), List.getElem?_append_right (by omega)]
    simp

/-- The party whose turn it is takes a step of its own program. -/
theorem turn_getElem?_self (h : turn step w i a = .done w') :
    ∃ p p', w.parties[i]? = some p ∧ step p w.shared a = .done (p', w'.shared) ∧
      w'.parties[i]? = some p' := by
  obtain ⟨before, p, after, p', r, hw, rfl, hs, rfl⟩ := turn_done h
  exact ⟨p, p', by rw [hw]; simp, hs, by simp⟩

/-- A party that joins takes the last place, and the others keep theirs. -/
theorem join_getElem? (h : w.parties[i]? = some p) (q : σ) : (w.join q).parties[i]? = some p := by
  obtain ⟨hlt, -⟩ := List.getElem?_eq_some_iff.mp h
  show (w.parties ++ [q])[i]? = some p
  rw [List.getElem?_append_left hlt, h]

/-- A party that can step can have its turn. -/
theorem turn_of_step (hi : w.parties[i]? = some p) (hs : step p w.shared a = .done (p', r)) :
    turn step w i a = .done ⟨w.parties.set i p', r⟩ := by
  unfold turn
  rw [hi]
  simp only [hs]

/-- What the parties have left to do, where `m` says how much of it each has. -/
def left (m : σ → Nat) (w : System σ ρ) : Nat := w.parties.foldr (fun p n => m p + n) 0

/-- What is left to some comes on top of what is left to the others. -/
theorem foldr_add (m : σ → Nat) (ps : List σ) (n : Nat) :
    ps.foldr (fun p n => m p + n) n = ps.foldr (fun p n => m p + n) 0 + n := by
  induction ps with
  | nil => simp
  | cons p ps ih =>
    show m p + ps.foldr _ n = m p + ps.foldr _ 0 + n
    omega

/-- What is left to do shrinks with the party whose turn it is. -/
theorem left_turn_lt {m : σ → Nat} (h : turn step w i a = .done w') (hi : w.parties[i]? = some p)
    (hi' : w'.parties[i]? = some p') (hlt : m p' < m p) : w'.left m < w.left m := by
  obtain ⟨before, q, after, q', r, hw, rfl, -, rfl⟩ := turn_done h
  obtain rfl : q = p := by
    rw [hw] at hi
    simpa using hi
  obtain rfl : q' = p' := by simpa using hi'
  unfold left
  rw [hw, List.foldr_append, List.foldr_append, foldr_add m before,
    foldr_add m before (List.foldr _ _ _)]
  show _ + (m q' + _) < _ + (m q + _)
  omega

/-! ### Mutual exclusion -/

/-- As many parties hold the lock as it admits. -/
def Exclusive (holds : σ → Bool) (locked : ρ → Bool) (w : System σ ρ) : Prop :=
  w.parties.countP holds = (locked w.shared).toNat

/-- What a step does to the lock it does to the party; who holds the lock finds it taken. -/
def Balanced (holds : σ → Bool) (locked : ρ → Bool) (step : σ → ρ → α → Outcome ε (σ × ρ)) : Prop :=
  ∀ {p r a p' r'}, (holds p = true → locked r = true) → step p r a = .done (p', r') →
    (holds p').toNat + (locked r).toNat = (holds p).toNat + (locked r').toNat

/-- How many parties hold, counted with one of them taken out. -/
theorem countP_middle (holds : σ → Bool) (before after : List σ) (p : σ) :
    (before ++ p :: after).countP holds = (before ++ after).countP holds + (holds p).toNat := by
  rw [List.countP_append, List.countP_cons, List.countP_append]
  cases holds p with
  | true => rw [if_pos rfl, Bool.toNat_true]; omega
  | false => rw [if_neg (by decide), Bool.toNat_false]; omega

/-- Who holds the lock finds it taken. -/
theorem Exclusive.locked_of_holds (h : Exclusive holds locked w) (hmem : p ∈ w.parties)
    (hp : holds p = true) :
    locked w.shared = true := by
  unfold Exclusive at h
  have hpos : 0 < w.parties.countP holds := List.countP_pos_iff.mpr ⟨p, hmem, hp⟩
  cases hl : locked w.shared with
  | true => rfl
  | false =>
    rw [h, hl] at hpos
    exact absurd hpos (by decide)

/-- A program that keeps count of the lock keeps the exclusion. -/
theorem Exclusive.turn (h : Exclusive holds locked w) (hb : Balanced holds locked step)
    (hd : w.turn step i a = .done w') : Exclusive holds locked w' := by
  obtain ⟨before, p, after, p', r, hw, -, hs, rfl⟩ := turn_done hd
  have hmem : p ∈ w.parties := hw ▸ List.mem_append_right _ List.mem_cons_self
  have hbal := hb (h.locked_of_holds hmem) hs
  unfold Exclusive at h ⊢
  rw [hw, countP_middle] at h
  show (before ++ p' :: after).countP holds = (locked r).toNat
  rw [countP_middle]
  omega

/-- A party that joins without the lock disturbs nobody. -/
theorem Exclusive.join (h : Exclusive holds locked w) (hp : holds p = false) :
    Exclusive holds locked (w.join p) := by
  unfold Exclusive at h ⊢
  show (w.parties ++ [p]).countP holds = (locked w.shared).toNat
  rw [List.countP_append, h, List.countP_singleton, hp]
  rfl

/-- Nobody holds the lock beside the one that does. -/
theorem Exclusive.others_idle {before after : List σ} (h : Exclusive holds locked w)
    (hw : w.parties = before ++ p :: after) (hp : holds p = true) :
    ∀ q ∈ before ++ after, holds q = false := by
  unfold Exclusive at h
  rw [hw, countP_middle, hp, Bool.toNat_true] at h
  have hle : (locked w.shared).toNat ≤ 1 := Bool.toNat_le _
  have hzero : (before ++ after).countP holds = 0 := by omega
  intro q hq
  by_contra hne
  exact List.countP_eq_zero.mp hzero q hq (Bool.not_eq_false _ |>.mp hne)

/-- Two parties that hold the lock are one. -/
theorem Exclusive.holds_unique {j : Nat} {q : σ} (h : Exclusive holds locked w)
    (hi : w.parties[i]? = some p)
    (hp : holds p = true) (hj : w.parties[j]? = some q) (hq : holds q = true) : i = j := by
  by_contra hne
  obtain ⟨hlt, hget⟩ := List.getElem?_eq_some_iff.mp hi
  have hw : w.parties = w.parties.take i ++ p :: w.parties.drop (i + 1) := by
    rw [← hget, List.getElem_cons_drop, List.take_append_drop]
  have hmem : q ∈ w.parties.take i ++ w.parties.drop (i + 1) := by
    by_cases hji : j < i
    · refine List.mem_append_left _ (List.mem_of_getElem? (i := j) ?_)
      rw [List.getElem?_take_of_lt hji, hj]
    · refine List.mem_append_right _ (List.mem_of_getElem? (i := j - (i + 1)) ?_)
      rw [List.getElem?_drop, show i + 1 + (j - (i + 1)) = j by omega, hj]
  have hno := h.others_idle hw hp q hmem
  rw [hq] at hno
  cases hno

/-- A lock that is taken is held by a party. -/
theorem Exclusive.exists_holder (h : Exclusive holds locked w) (hl : locked w.shared = true) :
    ∃ (i : Nat) (p : σ), w.parties[i]? = some p ∧ holds p = true := by
  unfold Exclusive at h
  rw [hl] at h
  have hpos : 0 < w.parties.countP holds := by
    rw [h]
    decide
  obtain ⟨p, hmem, hp⟩ := List.countP_pos_iff.mp hpos
  obtain ⟨i, hi⟩ := List.getElem?_of_mem hmem
  exact ⟨i, p, hi, hp⟩

/-! ### The resource rule -/

/-- **Resource rule.** `Owns` is what a party knows of the resource; without the lock it knows
    nothing that others could change, and it changes nothing. -/
theorem Exclusive.turn_owns {Owns : σ → κ → Prop} (h : Exclusive holds locked w)
    (hown : ∀ p ∈ w.parties, Owns p (content w.shared))
    (hfree : ∀ {p c c'}, holds p = false → Owns p c → Owns p c')
    (hframe : ∀ {p r a p' r'}, step p r a = .done (p', r') → holds p = false →
      content r' = content r)
    (hstep : ∀ {p r a p' r'}, Owns p (content r) → step p r a = .done (p', r') →
      Owns p' (content r'))
    (hd : w.turn step i a = .done w') : ∀ p ∈ w'.parties, Owns p (content w'.shared) := by
  obtain ⟨before, p, after, p', r, hw, -, hs, rfl⟩ := turn_done hd
  intro q hq
  have hown : ∀ x ∈ before ++ p :: after, Owns x (content w.shared) := hw ▸ hown
  have hrest : q = p' ∨ q ∈ before ++ after := by
    rcases List.mem_append.mp hq with hq | hq
    · exact .inr (List.mem_append_left _ hq)
    · exact (List.mem_cons.mp hq).imp id (List.mem_append_right _)
  rcases hrest with rfl | hq
  · exact hstep (hown p (List.mem_append_right _ List.mem_cons_self)) hs
  · have hqown : Owns q (content w.shared) := by
      refine hown q ?_
      rcases List.mem_append.mp hq with hq | hq
      · exact List.mem_append_left _ hq
      · exact List.mem_append_right _ (List.mem_cons_of_mem _ hq)
    by_cases hp : holds p = true
    · -- the others do not hold the lock
      exact hfree (h.others_idle hw hp q hq) hqown
    · have hkeep := hframe hs (Bool.not_eq_true _ |>.mp hp)
      show Owns q (content r)
      rw [hkeep]
      exact hqown

end System

end Machine
