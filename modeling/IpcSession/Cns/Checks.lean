import IpcSession.Cns.Leads

namespace IpcSession

/-!
# The checks of a constructor

An observer notes what each constructor is told: its own credentials, who owns the file.

* `Ctor.Asked` — what the notes say of a constructor, from where it is and from its code.
* `Cns.Attributed` — what is in the file is of a party that has made both checks.
* `Cns.checkedBeforeWritten` — **the file is filled in by none but the application**, and a
  constructor that reports success has made both checks.
-/

/-- What the constructors were told: the party, what its constructor was to do, and the answer. -/
abbrev Answers := List (Nat × CtorStage × CtorOracle)

/-- Party `i` runs as the application, and has found that the file is the application's. -/
structure Checked (app : Owner) (n : Answers) (i : Nat) : Prop where
  ownCreds : ∃ o, (i, .ownCreds, o) ∈ n ∧ o.ownCreds = app
  owner : ∃ o, (i, .checkOwner, o) ∈ n ∧ o.probe = none ∧ o.fstat = .ok app

/-- An answer that was had once stays known. -/
theorem Checked.mono {app : Owner} {n n' : Answers} {i : Nat} (h : Checked app n i) (hn : n ⊆ n') :
    Checked app n' i := by
  obtain ⟨o, ho, hc⟩ := h.ownCreds
  obtain ⟨o', ho', hc'⟩ := h.owner
  exact ⟨⟨o, hn ho, hc⟩, ⟨o', hn ho', hc'⟩⟩

/-- From the check of the own credentials to where the mutex is given back. -/
def CtorStage.inside : CtorStage → Bool
  | openMutex => true
  | lock => true
  | dead _ => false
  | t => t.holds

/-- Past the check of the owner. -/
def CtorStage.pastOwner : CtorStage → Bool
  | setPermissions => true
  | write => true
  | close => true
  | t => t.written

namespace Ctor

variable {app : Owner} {n n' : Answers} {i : Nat} {c c' : Ctor} {f f' : CnsFile} {o : CtorOracle}

/-- What the notes say of a constructor. -/
structure Asked (app : Owner) (n : Answers) (i : Nat) (c : Ctor) : Prop where
  creds : c.stage.inside = true ∨ c.stage.pastOwner = true ∧ c.ourErrCode = none →
    ∃ o, (i, .ownCreds, o) ∈ n ∧ o.ownCreds = app
  owner : c.stage.pastOwner = true → c.ourErrCode = none →
    ∃ o, (i, .checkOwner, o) ∈ n ∧ o.probe = none ∧ o.fstat = .ok app
  buf : c.cnsFile.buf ≠ [] → Checked app n i

/-- So does what a constructor asked for before its stage. -/
theorem Asked.mono (h : Asked app n i c) (hn : n ⊆ n') : Asked app n' i c where
  creds hc := by
    obtain ⟨o, ho, ha⟩ := h.creds hc
    exact ⟨o, hn ho, ha⟩
  owner hp hc := by
    obtain ⟨o, ho, ha⟩ := h.owner hp hc
    exact ⟨o, hn ho, ha⟩
  buf hb := (h.buf hb).mono hn

/-- **Step lemma**: each check is noted when it is made. -/
theorem Asked.step (h : Asked app n i c) (hd : c.step app f o = .done (c', f')) :
    Asked app ((i, c.stage, o) :: n) i c' := by
  have hm : Asked app ((i, c.stage, o) :: n) i c := h.mono (List.subset_cons_self _ _)
  unfold Ctor.step at hd
  split at hd
  case h_1 hs =>
    split at hd
    · cases hd
      exact ⟨fun hc => (by rcases hc with hc | ⟨-, hc⟩ <;> cases hc),
        fun _ hc => (by cases hc), hm.buf⟩
    · rename_i hcreds
      cases hd
      refine ⟨fun _ => ⟨o, ?_, not_not.mp hcreds⟩, fun hp => (by cases hp), hm.buf⟩
      rw [hs]
      exact List.mem_cons_self
  case h_2 hs =>
    have hcreds := hm.creds (.inl (by rw [hs]; rfl))
    split at hd
    · cases hd
      exact ⟨fun _ => hcreds, fun _ hc => (by cases hc), hm.buf⟩
    · cases hd
      exact ⟨fun _ => hcreds, fun hp => (by cases hp), hm.buf⟩
  case h_3 hs =>
    simp only [Outcome.bind_eq_done] at hd
    obtain ⟨-, -, hd⟩ := hd
    cases hd
    exact ⟨fun _ => hm.creds (.inl (by rw [hs]; rfl)), fun hp => (by cases hp), hm.buf⟩
  case h_4 hs =>
    have hcreds := hm.creds (.inl (by rw [hs]; rfl))
    simp only at hd
    split at hd
    · cases hd
      exact ⟨fun _ => hcreds, fun hp => (by cases hp), fun hb => absurd rfl hb⟩
    · cases hd
      exact ⟨fun _ => hcreds, fun hp => (by cases hp), fun hb => absurd rfl hb⟩
  case h_5 hs =>
    cases hd
    exact ⟨fun _ => hm.creds (.inl (by rw [hs]; rfl)), fun hp => (by cases hp),
      fun hb => absurd rfl hb⟩
  case h_6 hs =>
    cases hd
    refine ⟨fun _ => hm.creds (.inl (by rw [hs]; rfl)), fun _ hc => ⟨o, ?_, ?_⟩, hm.buf⟩
    · rw [hs]
      exact List.mem_cons_self
    · exact ensureResourceOwnerIsApp_eq_none_iff.mp hc
  case h_7 hs =>
    have hpast : c.stage.pastOwner = true := by rw [hs]; rfl
    cases hd
    refine ⟨fun _ => hm.creds (.inl (by rw [hs]; rfl)), fun _ hc => hm.owner hpast ?_, hm.buf⟩
    by_contra hne
    rw [if_neg fun hb => hne (Option.isNone_iff_eq_none.mp (Bool.and_eq_true_iff.mp hb).1)] at hc
    exact hne hc
  case h_8 hs =>
    have hpast : c.stage.pastOwner = true := by rw [hs]; rfl
    have hcreds := hm.creds (.inl (by rw [hs]; rfl))
    split at hd
    · rename_i hsome
      cases hd
      refine ⟨fun _ => hcreds, fun _ hc => ?_, hm.buf⟩
      have hc : c.ourErrCode = none := hc
      rw [hc] at hsome
      cases hsome
    · rename_i hnone
      cases hd
      -- it writes only where both checks have passed
      have howner := hm.owner hpast (Option.not_isSome_iff_eq_none.mp hnone)
      exact ⟨fun _ => hcreds, fun _ _ => howner, fun _ => ⟨hcreds, howner⟩⟩
  case h_9 hs =>
    have hpast : c.stage.pastOwner = true := by rw [hs]; rfl
    cases hd
    exact ⟨fun _ => hm.creds (.inl (by rw [hs]; rfl)), fun _ hc => hm.owner hpast hc,
      fun hb => absurd rfl hb⟩
  case h_10 hs =>
    have hpast : c.stage.pastOwner = true := by rw [hs]; rfl
    cases hd
    exact ⟨fun _ => hm.creds (.inl (by rw [hs]; rfl)), fun _ hc => hm.owner hpast hc, hm.buf⟩
  case h_11 hs =>
    have hpast : c.stage.pastOwner = true := by rw [hs]; rfl
    cases hd
    have hold : ∀ {code : CtorCode}, (if c.ourErrCode.isNone then code else c.ourErrCode) = none →
        c.ourErrCode = none := by
      intro code hc
      by_contra hne
      rw [if_neg fun hb => hne (Option.isNone_iff_eq_none.mp hb)] at hc
      exact hne hc
    refine ⟨fun hc => ?_, fun _ hc => hm.owner hpast (hold hc), hm.buf⟩
    rcases hc with hc | ⟨-, hc⟩
    · cases hc
    · exact hm.creds (.inr ⟨hpast, hold hc⟩)
  case h_12 => cases hd
  case h_13 => cases hd

/-- A dead constructor has passed what it has passed. -/
theorem Asked.dies (h : Asked app n i c) (holding : Bool) :
    Asked app n i { c with stage := .dead holding } :=
  ⟨fun hc => (by rcases hc with hc | ⟨hc, -⟩ <;> cases hc), fun hp => (by cases hp), h.buf⟩

end Ctor

namespace Cns

variable {cfg : Cfg} {app : Owner} {acceptorType : SharedName} {w w' : Cns} {a : Act}
    {n n' : Answers}

/-- Note what this step's constructor is told. -/
def noteAnswer (w : Cns) (a : Act) (n : Answers) : Answers :=
  match a with
  | .turn i (.server o) =>
    match w.parties[i]? with
    | some (.server c) => (i, c.stage, o) :: n
    | _ => n
  | _ => n

/-- The step of a constructor is noted, with its stage. -/
theorem noteAnswer_server {i : Nat} {o : CtorOracle} {c : Ctor}
    (hi : w.parties[i]? = some (.server c)) :
    noteAnswer w (.turn i (.server o)) n = (i, c.stage, o) :: n := by
  unfold noteAnswer
  simp only [hi]

/-- No step takes back what was noted. -/
theorem subset_noteAnswer (w : Cns) (a : Act) (n : Answers) : n ⊆ noteAnswer w a n := by
  unfold noteAnswer
  split
  · split
    · exact List.subset_cons_self _ _
    · exact List.Subset.refl n
  · exact List.Subset.refl n

/-- What is in the file is of a party that has made both checks. -/
structure Attributed (app : Owner) (w : Cns) (n : Answers) : Prop where
  asked : ∀ (i : Nat) (c : Ctor), w.parties[i]? = some (.server c) → c.Asked app n i
  file : ∀ content, w.shared.disk = some content → content ≠ [] → ∃ (i : Nat) (c : Ctor),
    w.parties[i]? = some (.server c) ∧ content <+: cnsContent c.ownProcessId ∧ Checked app n i

/-- At boot nobody has written anything. -/
theorem attributed_boot : Attributed app boot [] where
  asked i c hi := by cases hi
  file content hc := by cases hc

/-- A new party has nothing to do with the file. -/
theorem Attributed.join {p : CnsParty} (h : Attributed app w n)
    (hp : ∀ c, p = .server c → c.stage = .ownCreds ∧ c.cnsFile.buf = []) :
    Attributed app (w.join p) n where
  asked i c hi := by
    by_cases hlt : i < w.parties.length
    · exact h.asked i c ((List.getElem?_append_left hlt).symm.trans hi)
    · obtain ⟨hs, hb⟩ := hp c (List.mem_singleton.mp
        (List.mem_of_getElem? ((List.getElem?_append_right (not_lt.mp hlt)).symm.trans hi))).symm
      refine ⟨fun hc => ?_, fun hc => ?_, fun hc => absurd hb hc⟩
      · rw [hs] at hc
        rcases hc with hc | ⟨hc, -⟩ <;> cases hc
      · rw [hs] at hc
        cases hc
  file content hc hne := by
    obtain ⟨i, c, hi, hpre, hck⟩ := h.file content hc hne
    exact ⟨i, c, Machine.System.join_getElem? hi p, hpre, hck⟩

/-- The line that a constructor spills into the file is its own, and checked. -/
theorem spill_checked {i k : Nat} {c : Ctor} {content : List Char} (ha : c.Asked app n i)
    (hw : CnsParty.Writes c w.shared.disk) (hc : c.cnsFile.spill k w.shared.disk = some content)
    (hne : content ≠ []) :
    w.shared.disk = some content ∨ content <+: cnsContent c.ownProcessId ∧ Checked app n i := by
  unfold OFStream.spill at hc
  by_cases ho : c.cnsFile.isOpen = true
  · rw [if_pos ho, hw.disk ho] at hc
    obtain rfl : c.cnsFile.buf.take k = content := Option.some.inj hc
    refine .inr ⟨?_, ha.buf fun hb => hne (by rw [hb, List.take_nil])⟩
    rcases hw.buf with hb | ⟨-, hb⟩
    · rw [hb, List.take_nil]
      exact List.nil_prefix
    · rw [hb]
      exact List.take_prefix k _
  · rw [if_neg ho] at hc
    exact .inl hc

/-- What a constructor's step leaves in the file. -/
theorem content_checked {i : Nat} {c c' : Ctor} {f' : CnsFile} {content : List Char}
    (ha : c.Asked app n i)
    (how : (CnsParty.server c).Owns w.shared.disk) (hm : c.Moves w.shared c' f')
    (hc : f'.disk = some content) (hne : content ≠ []) :
    w.shared.disk = some content ∨ content <+: cnsContent c.ownProcessId ∧ Checked app n i := by
  cases hm with
  | apart => exact .inl hc
  | locks => exact .inl hc
  | opensNot => exact .inl hc
  | opens => exact absurd (Option.some.inj hc).symm hne
  | flushes hs k ok => exact spill_checked ha (how (by rw [hs]; rfl)) hc hne
  | checks => exact .inl hc
  | writesNot => exact .inl hc
  | writes => exact .inl hc
  | closes hs k => exact spill_checked ha (how (by rw [hs]; rfl)) hc hne
  | unlocks => exact .inl hc

/-- Whatever is written stays attributed to a constructor that made its checks. -/
theorem Attributed.step (h : Attributed app w n) (hs : Sound cfg acceptorType w)
    (hd : Cns.step cfg app acceptorType w a = .done w') : Attributed app w' (noteAnswer w a n) := by
  cases a with
  | startServer pid =>
    simp only [Cns.step, Outcome.bind_eq_done] at hd
    obtain ⟨-, -, hd⟩ := hd
    cases hd
    exact h.join fun c hc => by cases hc; exact ⟨rfl, rfl⟩
  | startConnect =>
    cases hd
    exact h.join fun c hc => by cases hc
  | turn j t =>
    have hturn : w.turn (CnsParty.step cfg app acceptorType) j t = .done w' := hd
    obtain ⟨p, p', hj, hstep, hj'⟩ := Machine.System.turn_getElem?_self hturn
    have hsub := subset_noteAnswer w (.turn j t) n
    -- a server's turn leaves its process what it is
    have hpid : ∀ (i : Nat) (c : Ctor), w.parties[i]? = some (.server c) →
        ∃ c', w'.parties[i]? = some (.server c') ∧ c'.ownProcessId = c.ownProcessId := by
      intro i c hi
      by_cases hij : j = i
      · subst hij
        obtain rfl := Option.some.inj (hj.symm.trans hi)
        generalize w'.shared = r at hstep
        cases CnsParty.step_moves hstep with
        | @server _ c' _ hm => exact ⟨c', hj', hm.ownProcessId⟩
        | serverDies => exact ⟨_, hj', rfl⟩
      · exact ⟨c, (Machine.System.turn_getElem?_ne hturn hij).trans hi, rfl⟩
    have old : ∀ content, w.shared.disk = some content → content ≠ [] → ∃ (i : Nat) (c : Ctor),
        w'.parties[i]? = some (.server c) ∧ content <+: cnsContent c.ownProcessId ∧
          Checked app (noteAnswer w (.turn j t) n) i := by
      intro content hc hne
      obtain ⟨i, c, hi, hpre, hck⟩ := h.file content hc hne
      obtain ⟨c', hi', hpid⟩ := hpid i c hi
      exact ⟨i, c', hi', by rw [hpid]; exact hpre, hck.mono hsub⟩
    refine ⟨fun i c hi => ?_, fun content hc hne => ?_⟩
    · by_cases hij : j = i
      · subst hij
        obtain rfl := Option.some.inj (hj'.symm.trans hi)
        generalize w'.shared = r at hstep
        cases p with
        | client d => cases CnsParty.step_moves hstep
        | server c₀ =>
          cases t with
          | server o =>
            simp only [CnsParty.step, Outcome.bind_eq_done, Prod.exists] at hstep
            obtain ⟨c₁, f₁, hctor, heq⟩ := hstep
            cases heq
            rw [noteAnswer_server hj]
            exact (h.asked j c₀ hj).step hctor
          | client o => cases hstep
          | die =>
            cases hstep
            exact (h.asked j c₀ hj).dies _
      · exact (h.asked i c ((Machine.System.turn_getElem?_ne hturn hij).symm.trans hi)).mono hsub
    · generalize w'.shared = r at hstep hc
      cases CnsParty.step_moves hstep with
      | @server c₀ c₁ _ hm =>
        rcases content_checked (h.asked j c₀ hj) (hs.owns _ (List.mem_of_getElem? hj)) hm
          hc hne with
          hold | ⟨hpre, hck⟩
        · exact old content hold hne
        · exact ⟨j, c₁, hj', by rw [hm.ownProcessId]; exact hpre, hck.mono hsub⟩
      | @client d d' _ hm => exact old content (hm.disk.symm.trans hc) hne
      | serverDies c₀ => exact old content hc hne
      | clientDies d => exact old content hc hne

/-- **The file is filled in by none but the application.**  Whatever is in it was put there by a
    process that runs as the application, after it had found that the file is the application's; and
    no constructor reports success without either. -/
theorem checkedBeforeWritten {n : Answers}
    (hr : Machine.Reaches (Machine.observed noteAnswer (step cfg app acceptorType)) Machine.anyStep
      (boot, []) (w, n)) :
    (∀ content, w.shared.disk = some content → content ≠ [] → ∃ (i : Nat) (c : Ctor),
      w.parties[i]? = some (.server c) ∧ content <+: cnsContent c.ownProcessId ∧ Checked app n i) ∧
    ∀ (i : Nat) (c : Ctor), w.parties[i]? = some (.server c) → c.succeeded = true →
      Checked app n i := by
  have hinv : Sound cfg acceptorType w ∧ Attributed app w n :=
    hr.invariant (P := fun p => Sound cfg acceptorType p.1 ∧ Attributed app p.1 p.2)
      ⟨sound_boot, attributed_boot⟩ fun p a p' hp _ hd => by
        obtain ⟨hstep, hnote⟩ := Machine.observed_done hd
        rw [hnote]
        exact ⟨hp.1.step hstep, hp.2.step hp.1 hstep⟩
  refine ⟨hinv.2.file, fun i c hi hc => ?_⟩
  simp only [Ctor.succeeded, Bool.and_eq_true, decide_eq_true_eq, Option.isNone_iff_eq_none] at hc
  have hpast : c.stage.pastOwner = true := by
    rw [hc.1]
    rfl
  have hasked := hinv.2.asked i c hi
  exact ⟨hasked.creds (.inr ⟨hpast, hc.2⟩), hasked.owner hpast hc.2⟩

/-- A server in process 7 has written its line. -/
theorem checkedBeforeWritten_sample :
    ∃ p : Cns × Answers, p.1.shared.disk = some ['7', '\n'] ∧ ∃ (i : Nat) (c : Ctor),
    p.1.parties[i]? = some (.server c) ∧ ['7', '\n'] <+: cnsContent c.ownProcessId ∧
      Checked ⟨1, 1⟩ p.2 i := by
  let serverStep : Act :=
    .turn 0 (.server { ownCreds := ⟨1, 1⟩, fstat := .ok ⟨1, 1⟩, written := 2 })
  obtain ⟨⟨w, n⟩, hr, hw⟩ := Machine.Reaches.exists_of_run
    (Machine.observed noteAnswer (step .sample ⟨1, 1⟩ ['a'])) (boot, [])
    (.startServer 7 :: List.replicate 9 serverStep) (fun p => p.1.shared.disk = some ['7', '\n'])
      (by decide)
  have hdisk : w.shared.disk = some ['7', '\n'] := of_decide_eq_true hw
  exact ⟨(w, n), hdisk, (checkedBeforeWritten hr).1 _ hdisk (by decide)⟩

end Cns

end IpcSession
