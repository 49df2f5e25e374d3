import IpcSession.Cns.Leads

namespace IpcSession

/-!
# The mutex of the Current Namespace Store

* `Cns.oneInside` — **one at a time**: what the file holds is changed by the one party that has the
  mutex, and while a constructor has the file open it finds in it what it has put there.
* `CnsParty.abandoned` — the process has died with the mutex, which nobody gives back.
* `Cns.getsMutex` — who waits for the mutex can be let in, by steps in which nobody dies, unless it
  is abandoned; then nobody is let in any more.
-/

/-- The turn is a death. -/
def CnsTurn.isDeath : CnsTurn → Bool
  | die => true
  | _ => false

/-- How many steps a constructor that has the mutex is from giving it back. -/
def CtorStage.toGo : CtorStage → Nat
  | openFile => 7
  | flush => 6
  | checkOwner => 5
  | setPermissions => 4
  | write => 3
  | close => 2
  | unlock => 1
  | _ => 0

namespace CnsParty

variable {cfg : Cfg} {app : Owner} {acceptorType : SharedName} {p p' : CnsParty} {f f' : CnsFile}
    {t : CnsTurn}

/-- The party waits for the mutex. -/
def waits : CnsParty → Bool
  | server c => c.stage = .lock
  | client c => c = .lock

/-- The process has died with the mutex. -/
def abandoned : CnsParty → Bool
  | server c => c.stage = .dead true
  | client c => c = .dead true

/-- How many steps a party that has the mutex is from giving it back. -/
def toGo : CnsParty → Nat
  | server c => c.stage.toGo
  | client .read => 2
  | client (.unlock _) => 1
  | client _ => 0

/-- Who dies inside the critical section still holds the mutex. -/
theorem holds_of_abandoned (hp : p.abandoned = true) : p.holds = true := by
  cases p with
  | server c =>
    have hs : c.stage = .dead true := of_decide_eq_true hp
    show c.stage.holds = true
    rw [hs]
    rfl
  | client c =>
    obtain rfl : c = .dead true := of_decide_eq_true hp
    rfl

/-- What is abandoned stays so. -/
theorem abandoned_step (hp : p.abandoned = true)
    (hd : p.step cfg app acceptorType f t = .done (p', f')) :
    p'.abandoned = true := by
  cases p with
  | server c =>
    have hs : c.stage = .dead true := of_decide_eq_true hp
    cases t with
    | server o =>
      have hc : c.ended = true := by
        unfold Ctor.ended
        rw [hs]
      simp only [step, Outcome.bind_eq_done, Prod.exists] at hd
      obtain ⟨c', f₁, hstep, -⟩ := hd
      exact absurd hstep (Ctor.step_of_ended hc)
    | client o => cases hd
    | die =>
      cases hd
      show decide (CtorStage.dead c.stage.holds = .dead true) = true
      rw [hs]
      rfl
  | client c =>
    obtain rfl : c = .dead true := of_decide_eq_true hp
    cases t with
    | server o => cases hd
    | client o => cases hd
    | die =>
      cases hd
      rfl

variable (cfg app acceptorType)

/-- **A living party gives the mutex back**: some step brings it nearer to that, whatever is in the
    file. -/
theorem toGo_step (hp : p.holds = true) (ha : p.abandoned = false) (f : CnsFile) :
    ∃ t p' f', t.isDeath = false ∧ p.step cfg app acceptorType f t = .done (p', f') ∧
      p'.abandoned = false ∧ p'.toGo < p.toGo := by
  cases p with
  | server c =>
    -- nothing fails in this step
    let o : CtorOracle := { ownCreds := app, fstat := .ok app }
    have steps : ∀ {c' : Ctor} {f' : CnsFile}, c.step app f o = .done (c', f') →
        (server c').abandoned = false → c'.stage.toGo < c.stage.toGo →
        ∃ t p' f', t.isDeath = false ∧ (server c).step cfg app acceptorType f t = .done (p', f') ∧
          p'.abandoned = false ∧ p'.toGo < (server c).toGo := by
      intro c' f' hd ha' hlt
      refine ⟨.server o, server c', f', rfl, ?_, ha', hlt⟩
      simp only [step, hd, Outcome.done_bind, Outcome.pure_eq]
    obtain ⟨pid, stage, code, created, file⟩ := c
    cases stage with
    | openFile => exact steps rfl rfl (Nat.lt_succ_self 6)
    | flush => exact steps rfl rfl (Nat.lt_succ_self 5)
    | checkOwner => exact steps rfl rfl (Nat.lt_succ_self 4)
    | setPermissions => exact steps rfl rfl (Nat.lt_succ_self 3)
    | write =>
      cases code with
      | some e => exact steps rfl rfl (Nat.lt_succ_self 2)
      | none => exact steps rfl rfl (Nat.lt_succ_self 2)
    | close => exact steps rfl rfl (Nat.lt_succ_self 1)
    | unlock => exact steps rfl rfl (Nat.lt_succ_self 0)
    | dead holding =>
      cases holding with
      | true => cases ha
      | false => cases hp
    | ownCreds => cases hp
    | openMutex => cases hp
    | lock => cases hp
    | listen => cases hp
    | returned => cases hp
  | client c =>
    cases c with
    | read =>
      -- the file need not be there
      exact ⟨.client { cnsOpen := some (.other 0) }, _, _, rfl, rfl, rfl, Nat.lt_succ_self 1⟩
    | unlock line =>
      exact ⟨.client {}, _, _, rfl, rfl, rfl, Nat.lt_succ_self 0⟩
    | dead holding =>
      cases holding with
      | true => cases ha
      | false => cases hp
    | openMutex => cases hp
    | lock => cases hp
    | parse line => cases hp
    | finished res => cases hp

/-- Who waits for a mutex that is free gets it. -/
theorem waits_step (hp : p.waits = true) (hf : f.locked = false) :
    ∃ t p' f', t.isDeath = false ∧ p.step cfg app acceptorType f t = .done (p', f') ∧
      p'.holds = true := by
  cases p with
  | server c =>
    have hs : c.stage = .lock := of_decide_eq_true hp
    refine ⟨.server { ownCreds := app, fstat := .ok app }, .server { c with stage := .openFile },
      { f with locked := true }, rfl, ?_, rfl⟩
    simp only [step, Ctor.step, hs, hf, Bool.not_false, Outcome.require_true, Outcome.done_bind,
      Outcome.pure_eq]
  | client c =>
    obtain rfl : c = .lock := of_decide_eq_true hp
    refine ⟨.client {}, .client .read, { f with locked := true }, rfl, ?_, rfl⟩
    simp only [step, Connect.step, hf, Bool.not_false, Outcome.require_true, Outcome.done_bind,
      Outcome.pure_eq]

/-- Who waits for the mutex does not hold it. -/
theorem holds_of_waits (hp : p.waits = true) : p.holds = false := by
  cases p with
  | server c =>
    have hs : c.stage = .lock := of_decide_eq_true hp
    show c.stage.holds = false
    rw [hs]
    rfl
  | client c =>
    obtain rfl : c = .lock := of_decide_eq_true hp
    rfl

end CnsParty

namespace Cns

variable {cfg : Cfg} {app : Owner} {acceptorType : SharedName} {w w' : Cns} {a : Act} {i j : Nat}
  {p q : CnsParty}

/-! ### One at a time -/

/-- What the mutex is for. -/
structure OneInside (cfg : Cfg) (app : Owner) (acceptorType : SharedName) (w : Cns) : Prop where
  /-- One party has the mutex. -/
  unique : ∀ (i j : Nat) (p q : CnsParty), w.parties[i]? = some p → p.holds = true →
    w.parties[j]? = some q → q.holds = true → i = j
  /-- It alone changes what is in the file. -/
  disk : ∀ (i : Nat) (t : CnsTurn) (w' : Cns) (p : CnsParty), w.parties[i]? = some p →
    p.holds = false →
    step cfg app acceptorType w (.turn i t) = .done w' → w'.shared.disk = w.shared.disk
  /-- A constructor that has opened the file finds it empty until it closes it. -/
  own : ∀ c, .server c ∈ w.parties → c.stage.writing = true → c.cnsFile.isOpen = true →
    w.shared.disk = some []

/-- **The critical sections are exclusive**, in every run of constructors and connect attempts that
    may fail or die anywhere. -/
theorem oneInside (hr : Machine.Reaches (step cfg app acceptorType) Machine.anyStep boot w) :
    OneInside cfg app acceptorType w := by
  have hs : Sound cfg acceptorType w := hr.invariant sound_boot fun _ _ _ hw _ hd => hw.step hd
  refine ⟨fun i j p q hi hp hj hq => hs.exclusive.holds_unique hi hp hj hq, ?_, ?_⟩
  · intro i t w' p hi hp hd
    obtain ⟨p₀, p', hi₀, hstep, -⟩ := Machine.System.turn_getElem?_self
      (show w.turn (CnsParty.step cfg app acceptorType) i t = .done w' from hd)
    obtain rfl := Option.some.inj (hi₀.symm.trans hi)
    exact CnsParty.step_disk hstep hp
  · intro c hc hw hopen
    exact (hs.owns _ hc hw).disk hopen

/-- A server's process has the file open, and a client waits. -/
theorem oneInside_opened : ∃ w, w.shared = ⟨some [], true⟩ ∧ OneInside .sample ⟨1, 1⟩ ['a'] w := by
  let serverStep : Act := .turn 0 (.server { ownCreds := ⟨1, 1⟩, fstat := .ok ⟨1, 1⟩ })
  obtain ⟨w, hr, hw⟩ := Machine.Reaches.exists_of_run (step .sample ⟨1, 1⟩ ['a']) boot
    [.startServer 7, .startConnect, serverStep, serverStep, serverStep, serverStep,
      .turn 1 (.client {})]
    (fun w => w.shared = ⟨some [], true⟩) (by decide)
  exact ⟨w, of_decide_eq_true hw, oneInside hr⟩

/-! ### Who gets the mutex -/

/-- A process dies in this step. -/
def Act.isDeath : Act → Bool
  | turn _ t => t.isDeath
  | _ => false

/-- Who is abandoned with the mutex stays in the way. -/
theorem abandoned_of_step (hj : w.parties[j]? = some q) (hq : q.abandoned = true)
    (hd : step cfg app acceptorType w a = .done w') :
    ∃ q', w'.parties[j]? = some q' ∧ q'.abandoned = true := by
  cases a with
  | startServer pid =>
    simp only [step, Outcome.bind_eq_done] at hd
    obtain ⟨-, -, hd⟩ := hd
    cases hd
    exact ⟨q, Machine.System.join_getElem? hj _, hq⟩
  | startConnect =>
    cases hd
    exact ⟨q, Machine.System.join_getElem? hj _, hq⟩
  | turn i t =>
    have hturn : w.turn (CnsParty.step cfg app acceptorType) i t = .done w' := hd
    by_cases hij : i = j
    · subst hij
      obtain ⟨p, p', hi, hstep, hi'⟩ := Machine.System.turn_getElem?_self hturn
      obtain rfl := Option.some.inj (hi.symm.trans hj)
      exact ⟨p', hi', CnsParty.abandoned_step hq hstep⟩
    · exact ⟨q, (Machine.System.turn_getElem?_ne hturn hij).trans hj, hq⟩

/-- Party `i` waits, and the mutex is to be had. -/
structure Waiting (i : Nat) (p : CnsParty) (w : Cns) : Prop where
  exclusive : w.Exclusive CnsParty.holds CnsFile.locked
  party : w.parties[i]? = some p
  alive : ∀ q ∈ w.parties, q.abandoned = false

/-- Where the mutex is taken, its owner comes nearer to giving it back. -/
theorem Waiting.step (h : Waiting i p w) (hp : p.waits = true) (hl : w.shared.locked = true) :
    ∃ a w', a.isDeath = false ∧ Cns.step cfg app acceptorType w a = .done w' ∧ Waiting i p w' ∧
      w'.left CnsParty.toGo < w.left CnsParty.toGo := by
  obtain ⟨j, q, hj, hq⟩ := h.exclusive.exists_holder hl
  have hij : j ≠ i := by
    rintro rfl
    obtain rfl := Option.some.inj (hj.symm.trans h.party)
    rw [CnsParty.holds_of_waits hp] at hq
    cases hq
  obtain ⟨t, q', f', ht, hstep, ha, hlt⟩ :=
    CnsParty.toGo_step cfg app acceptorType hq (h.alive q (List.mem_of_getElem? hj)) w.shared
  have hturn := Machine.System.turn_of_step hj hstep
  have hlen : j < w.parties.length := (List.getElem?_eq_some_iff.mp hj).1
  refine ⟨.turn j t, _, ht, hturn, ⟨h.exclusive.turn CnsParty.step_balanced hturn, ?_, ?_⟩, ?_⟩
  · rw [Machine.System.turn_getElem?_ne hturn hij, h.party]
  · intro r hr
    rcases List.mem_or_eq_of_mem_set hr with hr | rfl
    · exact h.alive r hr
    · exact ha
  · exact Machine.System.left_turn_lt hturn hj (List.getElem?_set_self hlen) hlt

/-- **Who waits for the mutex gets it, unless a process has died with it.**  In the first case no
    further death is needed; in the second nobody who waits is ever let in, whatever happens. -/
theorem getsMutex (hr : Machine.Reaches (step cfg app acceptorType) Machine.anyStep boot w)
    (hi : w.parties[i]? = some p) (hp : p.waits = true) :
    ((∀ q ∈ w.parties, q.abandoned = false) →
      ∃ w' p', Machine.Reaches (step cfg app acceptorType) (fun _ a => a.isDeath = false) w w' ∧
        w'.parties[i]? = some p' ∧ p'.holds = true) ∧
    ((∃ q ∈ w.parties, q.abandoned = true) →
      ∀ w' p', Machine.Reaches (step cfg app acceptorType) Machine.anyStep w w' →
        w'.parties[i]? = some p' → p'.holds = false) := by
  have sound : ∀ {w}, Machine.Reaches (step cfg app acceptorType) Machine.anyStep boot w →
      Sound cfg acceptorType w :=
    fun hr => hr.invariant sound_boot fun _ _ _ hw _ hd => hw.step hd
  refine ⟨fun halive => ?_, ?_⟩
  · -- those who have the mutex go on until one of them has given it back
    have hget : ∃ w₁, Machine.Reaches (step cfg app acceptorType)
        (fun _ a => a.isDeath = false) w w₁ ∧
        Waiting i p w₁ ∧ w₁.shared.locked = false :=
      Machine.Reaches.exists_of_measure (Machine.System.left CnsParty.toGo)
        ⟨(sound hr).exclusive, hi, halive⟩ fun w hw hl => hw.step hp (Bool.not_eq_false _ |>.mp hl)
    obtain ⟨w₁, hr₁, hw₁, hfree⟩ := hget
    obtain ⟨t, p', f', ht, hstep, hholds⟩ := CnsParty.waits_step cfg app acceptorType hp hfree
    have hturn := Machine.System.turn_of_step hw₁.party hstep
    have hlen : i < w₁.parties.length := (List.getElem?_eq_some_iff.mp hw₁.party).1
    exact ⟨_, p', hr₁.tail (a := .turn i t) ht hturn, List.getElem?_set_self hlen, hholds⟩
  -- An abandoned mutex stays with the dead, and exclusion keeps all others out.
  · rintro ⟨q, hq, hqa⟩ w' p' hr' hi'
    obtain ⟨j, hj⟩ := List.getElem?_of_mem hq
    have hij : i ≠ j := by
      rintro rfl
      obtain rfl := Option.some.inj (hi.symm.trans hj)
      have hno := CnsParty.holds_of_waits hp
      rw [CnsParty.holds_of_abandoned hqa] at hno
      cases hno
    obtain ⟨q', hj', hqa'⟩ := hr'.invariant
      (P := fun w => ∃ q : CnsParty, w.parties[j]? = some q ∧ q.abandoned = true) ⟨q, hj, hqa⟩
      fun _ _ _ hw _ hd => by
        obtain ⟨q, hj, hqa⟩ := hw
        exact abandoned_of_step hj hqa hd
    by_contra hp'
    have hexcl := (sound (hr.trans hr')).exclusive
    exact hij (hexcl.holds_unique hi' (Bool.not_eq_false _ |>.mp hp') hj'
      (CnsParty.holds_of_abandoned hqa'))

/-- A server's process dies with the mutex, and a client waits for it. -/
def Act.diesInside : List Act :=
  let serverStep : Act := .turn 0 (.server { ownCreds := ⟨1, 1⟩, fstat := .ok ⟨1, 1⟩ })
  [.startServer 7, serverStep, serverStep, serverStep, .turn 0 .die, .startConnect,
    .turn 1 (.client {})]

/-- A constructor dies inside, and the connect attempt that waits is never let in. -/
theorem getsMutex_diesInside :
    ∃ w, Machine.Reaches (step .sample ⟨1, 1⟩ ['a']) Machine.anyStep boot w ∧
    w.parties[1]? = some (.client .lock) ∧
    ∀ w' p', Machine.Reaches (step .sample ⟨1, 1⟩ ['a']) Machine.anyStep w w' →
      w'.parties[1]? = some p' → p'.holds = false := by
  obtain ⟨w, hr, hw⟩ := Machine.Reaches.exists_of_run (step .sample ⟨1, 1⟩ ['a']) boot
    Act.diesInside
    (fun w => w.parties[1]? = some (.client .lock) && w.parties.any CnsParty.abandoned) (by decide)
  obtain ⟨hi, hany⟩ := Bool.and_eq_true_iff.mp hw
  have hi : w.parties[1]? = some (.client .lock) := of_decide_eq_true hi
  exact ⟨w, hr, hi, (getsMutex hr hi rfl).2 (List.any_eq_true.mp hany)⟩

end Cns

end IpcSession
