import Mathlib.Data.List.Basic

/-!
# Regular expressions without alternatives

A pattern is a sequence of literal characters and of capturing groups, each a greedily repeated
class of characters.  `Regex.fullMatch` matches a whole string the way a backtracking engine does: a
group first takes all it can, and gives characters back while the rest of the pattern does not
match.

* `Regex.Matches` — what a match is, whichever way it was found.
* `Regex.fullMatch_sound`, `fullMatch_complete` — the engine finds a match if there is one.
* `Regex.Separated` — each group ends where the next literal begins; then there is one match at
  most, and the engine finds just that one (`fullMatch_eq_some_iff`).
-/

namespace Regex

variable {α β : Type*}

/-- A part of a pattern. -/
inductive Piece (α : Type*) where
  /-- This character. -/
  | lit (a : α)
  /-- `([p]+)`. -/
  | plus (p : α → Bool)
  /-- `([p]*)`. -/
  | star (p : α → Bool)

/-- A pattern for a whole string. -/
abbrev Pattern (α : Type*) := List (Piece α)

/-- This string, character by character. -/
def literal (s : List α) : Pattern α := s.map .lit

/-! ### The engine -/

/-- A group that can still take characters in `p`, before what `k` matches: the longest run
    first. -/
def greedy (p : α → Bool) (k : List α → Option β) : List α → Option (List α × β)
  | [] => (k []).map fun r => ([], r)
  | a :: s =>
    match if p a then greedy p k s else none with
    | some (x, r) => some (a :: x, r)
    | none => (k (a :: s)).map fun r => ([], r)

/-- Match the whole string; the result is what the groups have captured. -/
def fullMatch [DecidableEq α] : Pattern α → List α → Option (List (List α))
  | [], [] => some []
  | [], _ :: _ => none
  | .lit _ :: _, [] => none
  | .lit a :: ps, b :: s => if a = b then fullMatch ps s else none
  | .plus _ :: _, [] => none
  | .plus p :: ps, a :: s =>
    if p a then (greedy p (fullMatch ps) s).map fun (x, r) => (a :: x) :: r else none
  | .star p :: ps, s => (greedy p (fullMatch ps) s).map fun (x, r) => x :: r

/-! ### What a match is -/

/-- The pattern matches the string, with these captures. -/
inductive Matches : Pattern α → List α → List (List α) → Prop
  | nil : Matches [] [] []
  | lit {ps : Pattern α} {s : List α} {caps : List (List α)} (a : α) (h : Matches ps s caps) :
      Matches (.lit a :: ps) (a :: s) caps
  | plus {ps : Pattern α} {s : List α} {caps : List (List α)} {p : α → Bool} {x : List α}
      (hne : x ≠ []) (hx : ∀ a ∈ x, p a = true) (h : Matches ps s caps) :
      Matches (.plus p :: ps) (x ++ s) (x :: caps)
  | star {ps : Pattern α} {s : List α} {caps : List (List α)} {p : α → Bool} {x : List α}
      (hx : ∀ a ∈ x, p a = true) (h : Matches ps s caps) : Matches (.star p :: ps) (x ++ s)
        (x :: caps)

/-- A literal string matches itself. -/
theorem matches_literal_append {ps : Pattern α} {s t : List α} {caps : List (List α)} :
    Matches (literal t ++ ps) s caps ↔ ∃ s', s = t ++ s' ∧ Matches ps s' caps := by
  induction t generalizing s with
  | nil => simp [literal]
  | cons a t ih =>
    constructor
    · intro h
      cases h with
      | lit _ h =>
        obtain ⟨s', rfl, h'⟩ := ih.mp h
        exact ⟨s', rfl, h'⟩
    · rintro ⟨s', rfl, h⟩
      exact .lit a (ih.mpr ⟨s', rfl, h⟩)

/-- A literal matches itself, and what follows it the rest. -/
theorem matches_lit {ps : Pattern α} {a : α} {s : List α} {caps : List (List α)} :
    Matches (.lit a :: ps) s caps ↔ ∃ s', s = a :: s' ∧ Matches ps s' caps := by
  constructor
  · intro h
    cases h with
    | lit _ h => exact ⟨_, rfl, h⟩
  · rintro ⟨s', rfl, h⟩
    exact .lit a h

/-- A group of at least one matches a non-empty run of the class, and what follows it the rest. -/
theorem matches_plus {ps : Pattern α} {p : α → Bool} {s : List α} {caps : List (List α)} :
    Matches (.plus p :: ps) s caps ↔ ∃ x s' caps', x ≠ [] ∧ (∀ a ∈ x, p a = true) ∧ s = x ++ s' ∧
      caps = x :: caps' ∧ Matches ps s' caps' := by
  constructor
  · intro h
    cases h with
    | plus hne hx h => exact ⟨_, _, _, hne, hx, rfl, rfl, h⟩
  · rintro ⟨x, s', caps', hne, hx, rfl, rfl, h⟩
    exact .plus hne hx h

/-- The last group. -/
theorem matches_star_nil {p : α → Bool} {s : List α} {caps : List (List α)} :
    Matches [.star p] s caps ↔ (∀ a ∈ s, p a = true) ∧ caps = [s] := by
  constructor
  · intro h
    cases h with
    | star hx h =>
      cases h
      rw [List.append_nil]
      exact ⟨hx, rfl⟩
  · rintro ⟨hx, rfl⟩
    have h : Matches [Piece.star p] (s ++ []) [s] := .star hx .nil
    rwa [List.append_nil] at h

/-! ### The engine finds matches -/

/-- What a greedy group takes is of its class, and the continuation accepts what is left. -/
theorem greedy_sound {p : α → Bool} {k : List α → Option β} {s x : List α} {r : β}
    (h : greedy p k s = some (x, r)) :
    ∃ s', s = x ++ s' ∧ (∀ a ∈ x, p a = true) ∧ k s' = some r := by
  induction s generalizing x with
  | nil =>
    simp only [greedy, Option.map_eq_some_iff] at h
    obtain ⟨r', hr, heq⟩ := h
    cases heq
    exact ⟨[], rfl, fun a ha => (by cases ha), hr⟩
  | cons a s ih =>
    simp only [greedy] at h
    split at h
    · rename_i x' r' hrun
      cases h
      split at hrun
      · rename_i hp
        obtain ⟨s', rfl, hx, hr⟩ := ih hrun
        refine ⟨s', rfl, fun b hb => ?_, hr⟩
        rcases List.mem_cons.mp hb with rfl | hb
        · exact hp
        · exact hx b hb
      · cases hrun
    · simp only [Option.map_eq_some_iff] at h
      obtain ⟨r', hr, heq⟩ := h
      cases heq
      exact ⟨a :: s, rfl, fun a ha => (by cases ha), hr⟩

/-- Where some split works, backtracking finds one. -/
theorem greedy_complete {p : α → Bool} {k : List α → Option β} {x s : List α} {r : β}
    (hx : ∀ a ∈ x, p a = true) (hr : k s = some r) : (greedy p k (x ++ s)).isSome = true := by
  induction x with
  | nil =>
    cases s with
    | nil => simp [greedy, hr]
    | cons a s =>
      simp only [List.nil_append, greedy]
      split
      · rfl
      · simp [hr]
  | cons a x ih =>
    have hrest := ih fun b hb => hx b (List.mem_cons_of_mem a hb)
    obtain ⟨⟨y, r'⟩, hy⟩ := Option.isSome_iff_exists.mp hrest
    simp [greedy, hx a List.mem_cons_self, hy]

variable {ps : Pattern α} {s : List α} {caps caps' : List (List α)}

/-- **What the engine finds is a match.** -/
theorem fullMatch_sound [DecidableEq α] (h : fullMatch ps s = some caps) : Matches ps s caps := by
  induction ps generalizing s caps with
  | nil =>
    cases s with
    | nil =>
      cases h
      exact .nil
    | cons a s => cases h
  | cons piece ps ih =>
    cases piece with
    | lit a =>
      cases s with
      | nil => cases h
      | cons b s =>
        simp only [fullMatch] at h
        split at h
        · rename_i hab
          subst hab
          exact .lit a (ih h)
        · cases h
    | plus p =>
      cases s with
      | nil => cases h
      | cons a s =>
        simp only [fullMatch] at h
        split at h
        · rename_i hp
          simp only [Option.map_eq_some_iff, Prod.exists] at h
          obtain ⟨x, r, hrun, rfl⟩ := h
          obtain ⟨s', rfl, hx, hr⟩ := greedy_sound hrun
          -- The first element was tested by the matcher itself, the others by the greedy run.
          have hall : ∀ b ∈ a :: x, p b = true := by
            intro b hb
            rcases List.mem_cons.mp hb with rfl | hb
            · exact hp
            · exact hx b hb
          exact .plus (List.cons_ne_nil a x) hall (ih hr)
        · cases h
    | star p =>
      simp only [fullMatch, Option.map_eq_some_iff, Prod.exists] at h
      obtain ⟨x, r, hrun, rfl⟩ := h
      obtain ⟨s', rfl, hx, hr⟩ := greedy_sound hrun
      exact .star hx (ih hr)

/-- **Where there is a match the engine finds one.** -/
theorem fullMatch_complete [DecidableEq α] (h : Matches ps s caps) :
    (fullMatch ps s).isSome = true := by
  induction h with
  | nil => rfl
  | lit a h ih => simpa [fullMatch] using ih
  | @plus ps s caps p x hne hx h ih =>
    obtain ⟨r, hr⟩ := Option.isSome_iff_exists.mp ih
    cases x with
    | nil => exact absurd rfl hne
    | cons a x =>
      have hrun := greedy_complete (fun b hb => hx b (List.mem_cons_of_mem a hb)) hr
      simp [fullMatch, hx a List.mem_cons_self, hrun]
  | @star ps s caps p x hx h ih =>
    obtain ⟨r, hr⟩ := Option.isSome_iff_exists.mp ih
    simp [fullMatch, greedy_complete hx hr]

/-! ### Patterns with one match -/

/-- Each group is followed by a literal that is not of its class, or is the last piece. -/
def Separated : Pattern α → Prop
  | [] => True
  | .lit _ :: ps => Separated ps
  | .plus p :: .lit a :: ps => p a = false ∧ Separated ps
  | .star p :: .lit a :: ps => p a = false ∧ Separated ps
  | .plus _ :: ps => ps = []
  | .star _ :: ps => ps = []

/-- A run of characters of a class ends at the first that is not of it. -/
theorem run_unique {p : α → Bool} {a : α} {x x' s s' : List α} (ha : p a = false)
    (hx : ∀ b ∈ x, p b = true) (hx' : ∀ b ∈ x', p b = true) (h : x ++ a :: s = x' ++ a :: s') :
    x = x' ∧ s = s' := by
  induction x generalizing x' with
  | nil =>
    cases x' with
    | nil => exact ⟨rfl, (List.cons.inj h).2⟩
    | cons b x' =>
      have hb := hx' b List.mem_cons_self
      rw [← (List.cons.inj h).1, ha] at hb
      cases hb
  | cons b x ih =>
    cases x' with
    | nil =>
      have hb := hx b List.mem_cons_self
      rw [(List.cons.inj h).1, ha] at hb
      cases hb
    | cons b' x' =>
      obtain ⟨rfl, htail⟩ := List.cons.inj h
      obtain ⟨rfl, hs⟩ := ih (fun c hc => hx c (List.mem_cons_of_mem _ hc))
        (fun c hc => hx' c (List.mem_cons_of_mem _ hc)) htail
      exact ⟨rfl, hs⟩

/-- A group and the rest of the pattern share a string in one way only. -/
theorem group_unique {p : α → Bool} {ps : Pattern α}
    (hsep : (∃ a ps', ps = .lit a :: ps' ∧ p a = false) ∨ ps = []) {x x' s s' : List α}
    (hx : ∀ b ∈ x, p b = true) (hx' : ∀ b ∈ x', p b = true) (h : Matches ps s caps)
    (h' : Matches ps s' caps') (heq : x ++ s = x' ++ s') : x = x' ∧ s = s' := by
  rcases hsep with ⟨a, ps', rfl, ha⟩ | rfl
  · cases h with
    | lit _ h =>
      cases h' with
      | lit _ h' =>
        obtain ⟨hxx, hss⟩ := run_unique ha hx hx' heq
        exact ⟨hxx, congrArg (a :: ·) hss⟩
  · cases h
    cases h'
    rw [List.append_nil, List.append_nil] at heq
    exact ⟨heq, rfl⟩

/-- What comes after a group in a separated pattern is a literal outside of its class, or nothing.
    -/
theorem separated_group {p : α → Bool} {ps : Pattern α} :
    (Separated (.plus p :: ps) ∨ Separated (.star p :: ps)) →
      ((∃ a ps', ps = .lit a :: ps' ∧ p a = false) ∨ ps = []) ∧ Separated ps := by
  intro h
  cases ps with
  | nil => exact ⟨.inr rfl, trivial⟩
  | cons piece ps =>
    cases piece with
    | lit a =>
      have h : p a = false ∧ Separated ps := h.elim id id
      exact ⟨.inl ⟨a, ps, rfl, h.1⟩, h.2⟩
    | plus q => rcases h with h | h <;> cases h
    | star q => rcases h with h | h <;> cases h

/-- **A separated pattern matches in one way.** -/
theorem Matches.unique (hsep : Separated ps) (h : Matches ps s caps) (h' : Matches ps s caps') :
    caps = caps' := by
  induction h generalizing caps' with
  | nil =>
    cases h'
    rfl
  | lit a h ih =>
    cases h' with
    | lit _ h' => exact ih hsep h'
  | @plus ps s caps p x hne hx h ih =>
    obtain ⟨hnext, hrest⟩ := separated_group (.inl hsep)
    generalize hs : x ++ s = full at h'
    cases h' with
    | plus hne' hx' h' =>
      obtain ⟨rfl, rfl⟩ := group_unique hnext hx hx' h h' hs
      rw [ih hrest h']
  | @star ps s caps p x hx h ih =>
    obtain ⟨hnext, hrest⟩ := separated_group (.inr hsep)
    generalize hs : x ++ s = full at h'
    cases h' with
    | star hx' h' =>
      obtain ⟨rfl, rfl⟩ := group_unique hnext hx hx' h h' hs
      rw [ih hrest h']

/-- **The engine finds the match** of a separated pattern. -/
theorem fullMatch_eq_some_iff [DecidableEq α] (hsep : Separated ps) :
    fullMatch ps s = some caps ↔ Matches ps s caps := by
  constructor
  · exact fullMatch_sound
  · intro h
    obtain ⟨caps', hc⟩ := Option.isSome_iff_exists.mp (fullMatch_complete h)
    rw [hc, (fullMatch_sound hc).unique hsep h]

end Regex
