import IpcSession.Base.SharedName
import IpcSession.Regex.Sequence

namespace IpcSession

/-!
# Conventional names, built and taken apart

* `SessionName`, `GlobalName` — the arguments of the two overloads of
  `build_conventional_shared_name()`, with what these assert.
* `SharedName.decomposeConventionalSharedName`, `decomposeConventionalSharedName₂` — the two
  overloads of `decompose_conventional_shared_name()`, each with its regular expression.
* `SharedName.decompose_build` — decomposing undoes building.
* `SharedName.decomposesWell_iff` — decomposing accepts just what building produces, but for names
  that have the sentinel where an application's name belongs.
-/

namespace SharedName

/-- `build_conventional_shared_name()`, overload 2: a name of all sessions of a server. -/
def buildConventionalSharedName₂ (cfg : Cfg) (resourceType srvAppName srvNamespaceOrSentinel :
    SharedName) : SharedName :=
  let name := buildConventionalSharedNamePrefix cfg resourceType srvAppName ++
    srvNamespaceOrSentinel
  div cfg name sentinel

/-- What `build_conventional_shared_name_prefix()` asserts. -/
def prefixAsserts (resourceType srvAppName : SharedName) : Bool :=
  resourceType ≠ [] && srvAppName ≠ [] && srvAppName ≠ sentinel

/-- What `.` does not match. -/
def isLineTerminator (c : Char) : Bool := c = '\n' || c = '\r'

/-- A part of a name that is one component. -/
def IsComponent (cfg : Cfg) (x : SharedName) : Prop := x ≠ [] ∧ cfg.separator ∉ x

/-- A string on one line. -/
def OneLine (x : SharedName) : Prop := ∀ c ∈ x, isLineTerminator c = false

/-- A name without a line terminator is one line. -/
theorem OneLine.of_all {x : SharedName} (h : x.all (fun c => !isLineTerminator c) = true) :
    OneLine x := fun c hc => by simpa using List.all_eq_true.mp h c hc

end SharedName

open SharedName

/-- The arguments of overload 1 of `build_conventional_shared_name()`. -/
structure SessionName where
  resourceType : SharedName
  srvAppName : SharedName
  srvNamespace : SharedName
  cliAppName : SharedName
  cliNamespaceOrSentinel : SharedName
  deriving DecidableEq, Repr

namespace SessionName

/-- Overload 1 of `build_conventional_shared_name()`. -/
def build (cfg : Cfg) (n : SessionName) : SharedName :=
  buildConventionalSharedName cfg n.resourceType n.srvAppName n.srvNamespace n.cliAppName
    n.cliNamespaceOrSentinel

/-- What it asserts. -/
def asserts (n : SessionName) : Bool :=
  n.srvNamespace ≠ [] && n.cliAppName ≠ [] && n.cliNamespaceOrSentinel ≠ [] &&
    n.srvNamespace ≠ sentinel && n.cliAppName ≠ sentinel && prefixAsserts n.resourceType
      n.srvAppName

/-- Each argument is one component. -/
structure Components (cfg : Cfg) (n : SessionName) : Prop where
  resourceType : IsComponent cfg n.resourceType
  srvAppName : IsComponent cfg n.srvAppName
  srvNamespace : IsComponent cfg n.srvNamespace
  cliAppName : IsComponent cfg n.cliAppName
  cliNamespaceOrSentinel : IsComponent cfg n.cliNamespaceOrSentinel

/-- The out-arguments of overload 1 of `decompose_conventional_shared_name()`; a null pointer is
    `none`, another one is what it points to. -/
structure Out where
  resourceType : Option SharedName
  srvAppName : Option SharedName
  srvNamespace : Option SharedName
  cliAppName : Option SharedName
  cliNamespaceOrSentinel : Option SharedName
  theRest : Option SharedName
  deriving DecidableEq, Repr

/-- Set every out-argument that is not null. -/
def Out.set (o : Out) (n : SessionName) (rest : SharedName) : Out where
  resourceType := o.resourceType.map fun _ => n.resourceType
  srvAppName := o.srvAppName.map fun _ => n.srvAppName
  srvNamespace := o.srvNamespace.map fun _ => n.srvNamespace
  cliAppName := o.cliAppName.map fun _ => n.cliAppName
  cliNamespaceOrSentinel := o.cliNamespaceOrSentinel.map fun _ => n.cliNamespaceOrSentinel
  theRest := o.theRest.map fun _ => rest

end SessionName

/-- The arguments of overload 2 of `build_conventional_shared_name()`. -/
structure GlobalName where
  resourceType : SharedName
  srvAppName : SharedName
  srvNamespaceOrSentinel : SharedName
  deriving DecidableEq, Repr

namespace GlobalName

/-- Overload 2 of `build_conventional_shared_name()`. -/
def build (cfg : Cfg) (n : GlobalName) : SharedName :=
  buildConventionalSharedName₂ cfg n.resourceType n.srvAppName n.srvNamespaceOrSentinel

/-- What it asserts. -/
def asserts (n : GlobalName) : Bool :=
  n.srvNamespaceOrSentinel ≠ [] && prefixAsserts n.resourceType n.srvAppName

/-- Each argument is one component. -/
structure Components (cfg : Cfg) (n : GlobalName) : Prop where
  resourceType : IsComponent cfg n.resourceType
  srvAppName : IsComponent cfg n.srvAppName
  srvNamespaceOrSentinel : IsComponent cfg n.srvNamespaceOrSentinel

/-- The out-arguments of overload 2 of `decompose_conventional_shared_name()`. -/
structure Out where
  resourceType : Option SharedName
  srvAppName : Option SharedName
  srvNamespaceOrSentinel : Option SharedName
  theRest : Option SharedName
  deriving DecidableEq, Repr

/-- Set every out-argument that is not null. -/
def Out.set (o : Out) (n : GlobalName) (rest : SharedName) : Out where
  resourceType := o.resourceType.map fun _ => n.resourceType
  srvAppName := o.srvAppName.map fun _ => n.srvAppName
  srvNamespaceOrSentinel := o.srvNamespaceOrSentinel.map fun _ => n.srvNamespaceOrSentinel
  theRest := o.theRest.map fun _ => rest

end GlobalName

namespace SharedName

/-! ### Decomposition -/

/-- `([^_]+)`, with the separator for `_`. -/
def componentGroup (cfg : Cfg) : Regex.Piece Char := .plus fun c => c ≠ cfg.separator

/-- `(.*)`. -/
def restGroup : Regex.Piece Char := .star fun c => !isLineTerminator c

/-- `non_global_scope_name_regex`. -/
def nonGlobalScopeNameRegex (cfg : Cfg) : Regex.Pattern Char :=
  .lit cfg.separator :: (Regex.literal cfg.rootMagic ++ [.lit cfg.separator,
    componentGroup cfg, .lit cfg.separator,
    componentGroup cfg, .lit cfg.separator,
    componentGroup cfg, .lit cfg.separator,
    componentGroup cfg, .lit cfg.separator,
    componentGroup cfg, .lit cfg.separator,
    restGroup])

/-- `global_scope_name_regex`. -/
def globalScopeNameRegex (cfg : Cfg) : Regex.Pattern Char :=
  .lit cfg.separator :: (Regex.literal cfg.rootMagic ++ [.lit cfg.separator,
    componentGroup cfg, .lit cfg.separator,
    componentGroup cfg, .lit cfg.separator,
    componentGroup cfg, .lit cfg.separator] ++
    (Regex.literal sentinel ++ [.lit cfg.separator, restGroup]))

/-- `decompose_conventional_shared_name()`, overload 1. -/
def decomposeConventionalSharedName (cfg : Cfg) (name : SharedName) (o : SessionName.Out) :
    Bool × SessionName.Out :=
  match Regex.fullMatch (nonGlobalScopeNameRegex cfg) name with
  | some [m₁, m₂, m₃, m₄, m₅, m₆] =>
    if m₃ = sentinel then (false, o) else (true, o.set ⟨m₁, m₂, m₃, m₄, m₅⟩ m₆)
  | _ => (false, o)

/-- `decompose_conventional_shared_name()`, overload 2. -/
def decomposeConventionalSharedName₂ (cfg : Cfg) (name : SharedName) (o : GlobalName.Out) :
    Bool × GlobalName.Out :=
  match Regex.fullMatch (globalScopeNameRegex cfg) name with
  | some [m₁, m₂, m₃, m₄] => (true, o.set ⟨m₁, m₂, m₃⟩ m₄)
  | _ => (false, o)

/-! ### What the regular expressions match -/

variable {cfg : Cfg} {name rest : SharedName} {caps : List (List Char)}

/-- A literal in front keeps a pattern separated. -/
theorem separated_literal_append {ps : Regex.Pattern Char} {x : SharedName}
    (h : Regex.Separated ps) : Regex.Separated (Regex.literal x ++ ps) := by
  induction x with
  | nil => exact h
  | cons a x ih => exact ih

/-- The pattern of session names is separated, so that greed makes no difference. -/
theorem separated_nonGlobalScopeNameRegex (cfg : Cfg) :
    Regex.Separated (nonGlobalScopeNameRegex cfg) := by
  show Regex.Separated (Regex.literal cfg.rootMagic ++ _)
  apply separated_literal_append
  simp [Regex.Separated, componentGroup, restGroup]

/-- So is that of application names. -/
theorem separated_globalScopeNameRegex (cfg : Cfg) :
    Regex.Separated (globalScopeNameRegex cfg) := by
  show Regex.Separated (Regex.literal cfg.rootMagic ++ _ ++ _)
  rw [List.append_assoc]
  apply separated_literal_append
  simp [Regex.Separated, componentGroup, restGroup, Regex.literal, sentinel]

/-- A component is what there is up to the next separator. -/
theorem matches_component {ps : Regex.Pattern Char} {s : SharedName} :
    Regex.Matches (componentGroup cfg :: .lit cfg.separator :: ps) s caps ↔
      ∃ x s' caps', IsComponent cfg x ∧ s = x ++ cfg.separator :: s' ∧ caps = x :: caps' ∧
        Regex.Matches ps s' caps' := by
  rw [componentGroup, Regex.matches_plus]
  constructor
  · rintro ⟨x, s', caps', hne, hx, rfl, rfl, h⟩
    obtain ⟨s'', rfl, h'⟩ := Regex.matches_lit.mp h
    refine ⟨x, s'', caps', ⟨hne, fun hmem => ?_⟩, rfl, rfl, h'⟩
    simpa using hx _ hmem
  · rintro ⟨x, s', caps', ⟨hne, hx⟩, rfl, rfl, h⟩
    refine ⟨x, _, caps', hne, fun c hc => ?_, rfl, rfl, .lit _ h⟩
    exact decide_eq_true fun heq => hx (heq ▸ hc)

/-- The rest of a name is anything on one line. -/
theorem matches_rest {s : SharedName} :
    Regex.Matches [restGroup] s caps ↔ OneLine s ∧ caps = [s] := by
  rw [restGroup, Regex.matches_star_nil]
  simp [OneLine]

/-- A name of overload 1, with what follows it, taken apart at its separators. -/
theorem SessionName.build_append (cfg : Cfg) (n : SessionName) (rest : SharedName) :
    div cfg (n.build cfg) rest = cfg.separator :: (cfg.rootMagic ++ cfg.separator ::
      (n.resourceType ++ cfg.separator :: (n.srvAppName ++ cfg.separator :: (n.srvNamespace ++
        cfg.separator :: (n.cliAppName ++ cfg.separator :: (n.cliNamespaceOrSentinel ++
          cfg.separator :: rest)))))) := by
  simp [SessionName.build, buildConventionalSharedName, buildConventionalSharedNamePrefix, div]

/-- A name of overload 2, with what follows it. -/
theorem GlobalName.build_append (cfg : Cfg) (n : GlobalName) (rest : SharedName) :
    div cfg (n.build cfg) rest = cfg.separator :: (cfg.rootMagic ++ cfg.separator ::
      (n.resourceType ++ cfg.separator :: (n.srvAppName ++ cfg.separator ::
        (n.srvNamespaceOrSentinel ++ cfg.separator :: (sentinel ++ cfg.separator :: rest))))) := by
  simp [GlobalName.build, buildConventionalSharedName₂, buildConventionalSharedNamePrefix, div]

/-- **What the regular expression of overload 1 matches.** -/
theorem matches_nonGlobalScopeNameRegex : Regex.Matches (nonGlobalScopeNameRegex cfg) name caps ↔
    ∃ n rest, SessionName.Components cfg n ∧ OneLine rest ∧
      name = div cfg (n.build cfg) rest ∧
      caps = [n.resourceType, n.srvAppName, n.srvNamespace, n.cliAppName, n.cliNamespaceOrSentinel,
        rest] := by
  rw [nonGlobalScopeNameRegex, Regex.matches_lit]
  constructor
  · rintro ⟨s, rfl, h⟩
    obtain ⟨s₀, rfl, h₀⟩ := Regex.matches_literal_append.mp h
    obtain ⟨s₁, rfl, h₁⟩ := Regex.matches_lit.mp h₀
    obtain ⟨t, s₂, caps₂, ht, rfl, rfl, h₂⟩ := matches_component.mp h₁
    obtain ⟨a, s₃, caps₃, ha, rfl, rfl, h₃⟩ := matches_component.mp h₂
    obtain ⟨n, s₄, caps₄, hn, rfl, rfl, h₄⟩ := matches_component.mp h₃
    obtain ⟨c, s₅, caps₅, hc, rfl, rfl, h₅⟩ := matches_component.mp h₄
    obtain ⟨k, s₆, caps₆, hk, rfl, rfl, h₆⟩ := matches_component.mp h₅
    obtain ⟨hrest, rfl⟩ := matches_rest.mp h₆
    refine ⟨⟨t, a, n, c, k⟩, s₆, ⟨ht, ha, hn, hc, hk⟩, hrest, ?_, rfl⟩
    rw [SessionName.build_append]
  · rintro ⟨n, rest, hn, hrest, rfl, rfl⟩
    refine ⟨_, SessionName.build_append cfg n rest,
      Regex.matches_literal_append.mpr ⟨_, rfl, .lit _ ?_⟩⟩
    refine matches_component.mpr ⟨_, _, _, hn.resourceType, rfl, rfl, ?_⟩
    refine matches_component.mpr ⟨_, _, _, hn.srvAppName, rfl, rfl, ?_⟩
    refine matches_component.mpr ⟨_, _, _, hn.srvNamespace, rfl, rfl, ?_⟩
    refine matches_component.mpr ⟨_, _, _, hn.cliAppName, rfl, rfl, ?_⟩
    refine matches_component.mpr ⟨_, _, _, hn.cliNamespaceOrSentinel, rfl, rfl, ?_⟩
    exact matches_rest.mpr ⟨hrest, rfl⟩

/-- **What the regular expression of overload 2 matches.** -/
theorem matches_globalScopeNameRegex : Regex.Matches (globalScopeNameRegex cfg) name caps ↔
    ∃ n rest, GlobalName.Components cfg n ∧ OneLine rest ∧
      name = div cfg (n.build cfg) rest ∧
      caps = [n.resourceType, n.srvAppName, n.srvNamespaceOrSentinel, rest] := by
  rw [globalScopeNameRegex, Regex.matches_lit]
  constructor
  · rintro ⟨s, rfl, h⟩
    rw [List.append_assoc] at h
    obtain ⟨s₀, rfl, h₀⟩ := Regex.matches_literal_append.mp h
    obtain ⟨s₁, rfl, h₁⟩ := Regex.matches_lit.mp h₀
    obtain ⟨t, s₂, caps₂, ht, rfl, rfl, h₂⟩ := matches_component.mp h₁
    obtain ⟨a, s₃, caps₃, ha, rfl, rfl, h₃⟩ := matches_component.mp h₂
    obtain ⟨n, s₄, caps₄, hn, rfl, rfl, h₄⟩ := matches_component.mp h₃
    obtain ⟨s₅, rfl, h₅⟩ := Regex.matches_literal_append.mp h₄
    obtain ⟨s₆, rfl, h₆⟩ := Regex.matches_lit.mp h₅
    obtain ⟨hrest, rfl⟩ := matches_rest.mp h₆
    refine ⟨⟨t, a, n⟩, s₆, ⟨ht, ha, hn⟩, hrest, ?_, rfl⟩
    rw [GlobalName.build_append]
  · rintro ⟨n, rest, hn, hrest, rfl, rfl⟩
    refine ⟨_, GlobalName.build_append cfg n rest, ?_⟩
    rw [List.append_assoc]
    refine Regex.matches_literal_append.mpr ⟨_, rfl, .lit _ ?_⟩
    refine matches_component.mpr ⟨_, _, _, hn.resourceType, rfl, rfl, ?_⟩
    refine matches_component.mpr ⟨_, _, _, hn.srvAppName, rfl, rfl, ?_⟩
    refine matches_component.mpr ⟨_, _, _, hn.srvNamespaceOrSentinel, rfl, rfl, ?_⟩
    refine Regex.matches_literal_append.mpr ⟨_, rfl, .lit _ ?_⟩
    exact matches_rest.mpr ⟨hrest, rfl⟩

/-- What overload 1 does with a name: it accepts it, or it leaves the out-arguments alone. -/
theorem decompose_cases (cfg : Cfg) (name : SharedName) :
    (∃ n rest, SessionName.Components cfg n ∧ n.srvNamespace ≠ sentinel ∧ OneLine rest ∧
      name = div cfg (n.build cfg) rest ∧
      ∀ o, decomposeConventionalSharedName cfg name o = (true, o.set n rest)) ∨
    ∀ o, decomposeConventionalSharedName cfg name o = (false, o) := by
  cases hm : Regex.fullMatch (nonGlobalScopeNameRegex cfg) name with
  | none => exact .inr fun o => by simp [decomposeConventionalSharedName, hm]
  | some caps =>
    obtain ⟨n, rest, hn, hrest, rfl, rfl⟩ :=
      matches_nonGlobalScopeNameRegex.mp (Regex.fullMatch_sound hm)
    by_cases hs : n.srvNamespace = sentinel
    · exact .inr fun o => by simp [decomposeConventionalSharedName, hm, hs]
    · exact .inl ⟨n, rest, hn, hs, hrest, rfl, fun o => by
        simp [decomposeConventionalSharedName, hm, hs]⟩

/-- What overload 2 does with a name. -/
theorem decompose₂_cases (cfg : Cfg) (name : SharedName) :
    (∃ n rest, GlobalName.Components cfg n ∧ OneLine rest ∧
      name = div cfg (n.build cfg) rest ∧
      ∀ o, decomposeConventionalSharedName₂ cfg name o = (true, o.set n rest)) ∨
    ∀ o, decomposeConventionalSharedName₂ cfg name o = (false, o) := by
  cases hm : Regex.fullMatch (globalScopeNameRegex cfg) name with
  | none => exact .inr fun o => by simp [decomposeConventionalSharedName₂, hm]
  | some caps =>
    obtain ⟨n, rest, hn, hrest, rfl, rfl⟩ :=
      matches_globalScopeNameRegex.mp (Regex.fullMatch_sound hm)
    exact .inl ⟨n, rest, hn, hrest, rfl, fun o => by simp [decomposeConventionalSharedName₂, hm]⟩

/-! ### Decomposing undoes building -/

/-- A name that is built of components is taken apart into them. -/
theorem decompose_of_components {n : SessionName} (hn : SessionName.Components cfg n)
    (hs : n.srvNamespace ≠ sentinel) (hrest : OneLine rest) (o : SessionName.Out) :
    decomposeConventionalSharedName cfg (div cfg (n.build cfg) rest) o = (true, o.set n rest) := by
  have hm := (Regex.fullMatch_eq_some_iff (separated_nonGlobalScopeNameRegex cfg)).mpr
    (matches_nonGlobalScopeNameRegex.mpr ⟨n, rest, hn, hrest, rfl, rfl⟩)
  simp [decomposeConventionalSharedName, hm, hs]

/-- So is a name of application scope. -/
theorem decompose₂_of_components {n : GlobalName} (hn : GlobalName.Components cfg n)
    (hrest : OneLine rest) (o : GlobalName.Out) :
    decomposeConventionalSharedName₂ cfg (div cfg (n.build cfg) rest) o = (true, o.set n rest) := by
  have hm := (Regex.fullMatch_eq_some_iff (separated_globalScopeNameRegex cfg)).mpr
    (matches_globalScopeNameRegex.mpr ⟨n, rest, hn, hrest, rfl, rfl⟩)
  simp [decomposeConventionalSharedName₂, hm]

/-- What the assertions of a session name say. -/
theorem SessionName.asserts_iff {n : SessionName} : n.asserts = true ↔
    (n.srvNamespace ≠ [] ∧ n.cliAppName ≠ [] ∧ n.cliNamespaceOrSentinel ≠ [] ∧
      n.resourceType ≠ [] ∧ n.srvAppName ≠ []) ∧
    n.srvNamespace ≠ sentinel ∧ n.cliAppName ≠ sentinel ∧ n.srvAppName ≠ sentinel := by
  simp [SessionName.asserts, prefixAsserts]
  tauto

/-- What those of an application name say. -/
theorem GlobalName.asserts_iff {n : GlobalName} : n.asserts = true ↔
    (n.srvNamespaceOrSentinel ≠ [] ∧ n.resourceType ≠ [] ∧ n.srvAppName ≠ []) ∧
    n.srvAppName ≠ sentinel := by
  simp [GlobalName.asserts, prefixAsserts]
  tauto

/-- **Decomposing undoes building**, for both overloads. -/
theorem decompose_build (cfg : Cfg) :
    (∀ n rest o, SessionName.Components cfg n → n.asserts = true → OneLine rest →
      decomposeConventionalSharedName cfg (div cfg (n.build cfg) rest) o = (true, o.set n rest)) ∧
    ∀ n rest o, GlobalName.Components cfg n → n.asserts = true → OneLine rest →
      decomposeConventionalSharedName₂ cfg (div cfg (n.build cfg) rest)
        o = (true, o.set n rest) := by
  constructor
  · intro n rest o hn ha hrest
    exact decompose_of_components hn (SessionName.asserts_iff.mp ha).2.1 hrest o
  · intro n rest o hn _ hrest
    exact decompose₂_of_components hn hrest o

/-- A name with a rest that looks like more components, and only some out-arguments wanted. -/
theorem decompose_build_sample :
    decomposeConventionalSharedName .sample
      (div .sample (SessionName.build .sample ⟨['m'], ['s'], ['7'], ['c'], ['0']⟩) ['x', '_', 'y'])
      ⟨some [], none, some ['z'], none, none, some []⟩ =
      (true, ⟨some ['m'], none, some ['7'], none, none, some ['x', '_', 'y']⟩) ∧
    decomposeConventionalSharedName₂ .sample
      (div .sample (GlobalName.build .sample ⟨['m'], ['s'], ['0']⟩) [])
        ⟨none, none, some [], some []⟩ =
      (true, ⟨none, none, some ['0'], some []⟩) := by
  constructor
  · refine (decompose_build .sample).1 ⟨['m'], ['s'], ['7'], ['c'], ['0']⟩ ['x', '_', 'y']
      ⟨some [], none, some ['z'], none, none, some []⟩ ?_ (by decide) ?_
    · constructor <;> exact ⟨by decide, by decide⟩
    · exact OneLine.of_all (by decide)
  · refine (decompose_build .sample).2 ⟨['m'], ['s'], ['0']⟩ [] ⟨none, none, some [], some []⟩ ?_
      (by decide) ?_
    · constructor <;> exact ⟨by decide, by decide⟩
    · exact OneLine.of_all (by decide)

/-! ### Decomposing accepts what building produces -/

/-- What the two overloads do with a name agrees with what building produces. -/
structure DecomposesWell (cfg : Cfg) (name : SharedName) : Prop where
  /-- A name that overload 1 accepts was built, of the components that it yields. -/
  accepted : ∀ o, (decomposeConventionalSharedName cfg name o).1 = true →
    ∃ n rest, SessionName.asserts n = true ∧ name = div cfg (n.build cfg) rest ∧
      ∀ o, decomposeConventionalSharedName cfg name o = (true, o.set n rest)
  accepted₂ : ∀ o, (decomposeConventionalSharedName₂ cfg name o).1 = true →
    ∃ n rest, GlobalName.asserts n = true ∧ name = div cfg (n.build cfg) rest ∧
      ∀ o, decomposeConventionalSharedName₂ cfg name o = (true, o.set n rest)
  /-- At most one of the overloads accepts it. -/
  once : ∀ o o₂, (decomposeConventionalSharedName cfg name o).1 = false ∨
    (decomposeConventionalSharedName₂ cfg name o₂).1 = false
  /-- A name that is not accepted leaves the out-arguments alone. -/
  rejected : ∀ o, (decomposeConventionalSharedName cfg name o).1 = false →
    (decomposeConventionalSharedName cfg name o).2 = o
  rejected₂ : ∀ o, (decomposeConventionalSharedName₂ cfg name o).1 = false →
    (decomposeConventionalSharedName₂ cfg name o).2 = o

/-- The sentinel stands where the name of the server application belongs; or where that of the
    client application belongs, in a name with all the components of overload 1. -/
def MisplacedSentinel (cfg : Cfg) (name : SharedName) : Prop :=
  (∃ n rest, SessionName.Components cfg n ∧ n.srvNamespace ≠ sentinel ∧
    (n.srvAppName = sentinel ∨ n.cliAppName = sentinel) ∧ OneLine rest ∧
    name = div cfg (n.build cfg) rest) ∨
  ∃ n rest, GlobalName.Components cfg n ∧ n.srvAppName = sentinel ∧ OneLine rest ∧
    name = div cfg (n.build cfg) rest

/-- A name that both overloads take apart has the sentinel for the client application. -/
theorem cliAppName_eq_sentinel {n : SessionName} {n₂ : GlobalName} {rest₂ : SharedName}
    (hn : SessionName.Components cfg n) (hn₂ : GlobalName.Components cfg n₂)
    (h : div cfg (n.build cfg) rest = div cfg (n₂.build cfg) rest₂) : n.cliAppName = sentinel := by
  rw [SessionName.build_append, GlobalName.build_append] at h
  have h := List.append_cancel_left (List.cons.inj h).2
  obtain ⟨-, h₁⟩ := component_injective hn.resourceType.2 hn₂.resourceType.2 (List.cons.inj h).2
  obtain ⟨-, h₂⟩ := component_injective hn.srvAppName.2 hn₂.srvAppName.2 h₁
  obtain ⟨-, h₃⟩ := component_injective hn.srvNamespace.2 hn₂.srvNamespaceOrSentinel.2 h₂
  by_cases hsep : cfg.separator ∈ sentinel
  · -- then an empty component would follow, which overload 1 does not accept
    obtain ⟨hne, hnot⟩ := hn.cliAppName
    have hs : cfg.separator = '0' := List.mem_singleton.mp hsep
    cases hc : n.cliAppName with
    | nil => exact absurd hc hne
    | cons a x =>
      rw [hc] at h₃ hnot
      have ha : a = '0' := (List.cons.inj h₃).1
      exact absurd (ha.trans hs.symm ▸ List.mem_cons_self) hnot
  · exact (component_injective hn.cliAppName.2 hsep h₃).1

/-- **Decomposing accepts what building produces**, and no name twice, but for names with the
    sentinel in the place of an application's name. -/
theorem decomposesWell_iff (cfg : Cfg) (name : SharedName) :
    DecomposesWell cfg name ↔ ¬ MisplacedSentinel cfg name := by
  constructor
  · intro h hbad
    rcases hbad with ⟨n, rest, hn, hs, happ, hrest, rfl⟩ | ⟨n, rest, hn, happ, hrest, rfl⟩
    · have htrue := decompose_of_components hn hs hrest
      obtain ⟨n', rest', ha, -, hset⟩ := h.accepted ⟨none, none, none, none, none, none⟩
        (by rw [htrue])
      -- what it yields is what stands there
      have hall := (htrue ⟨some [], some [], some [], some [], some [], some []⟩).symm.trans
        (hset ⟨some [], some [], some [], some [], some [], some []⟩)
      simp only [SessionName.Out.set, Option.map_some, Prod.mk.injEq, SessionName.Out.mk.injEq,
        Option.some.injEq, true_and] at hall
      obtain ⟨-, hsrv, -, hcli, -, -⟩ := hall
      obtain ⟨-, -, hc, ha⟩ := SessionName.asserts_iff.mp ha
      rcases happ with happ | happ
      · exact ha (hsrv.symm.trans happ)
      · exact hc (hcli.symm.trans happ)
    · have htrue := decompose₂_of_components hn hrest
      obtain ⟨n', rest', ha, -, hset⟩ := h.accepted₂ ⟨none, none, none, none⟩ (by rw [htrue])
      have hall := (htrue ⟨some [], some [], some [], some []⟩).symm.trans
        (hset ⟨some [], some [], some [], some []⟩)
      simp only [GlobalName.Out.set, Option.map_some, Prod.mk.injEq, GlobalName.Out.mk.injEq,
        Option.some.injEq, true_and] at hall
      exact (GlobalName.asserts_iff.mp ha).2 (hall.2.1.symm.trans happ)
  · intro hgood
    refine ⟨fun o ho => ?_, fun o ho => ?_, fun o o₂ => ?_, fun o ho => ?_, fun o ho => ?_⟩
    · rcases decompose_cases cfg name with ⟨n, rest, hn, hs, hrest, heq, hset⟩ | hno
      · refine ⟨n, rest, SessionName.asserts_iff.mpr ⟨⟨hn.srvNamespace.1, hn.cliAppName.1,
          hn.cliNamespaceOrSentinel.1, hn.resourceType.1, hn.srvAppName.1⟩, hs, ?_, ?_⟩, heq, hset⟩
        · exact fun hc => hgood (.inl ⟨n, rest, hn, hs, .inr hc, hrest, heq⟩)
        · exact fun ha => hgood (.inl ⟨n, rest, hn, hs, .inl ha, hrest, heq⟩)
      · rw [hno] at ho
        cases ho
    · rcases decompose₂_cases cfg name with ⟨n, rest, hn, hrest, heq, hset⟩ | hno
      · refine ⟨n, rest, GlobalName.asserts_iff.mpr ⟨⟨hn.srvNamespaceOrSentinel.1,
          hn.resourceType.1, hn.srvAppName.1⟩, ?_⟩, heq, hset⟩
        exact fun ha => hgood (.inr ⟨n, rest, hn, ha, hrest, heq⟩)
      · rw [hno] at ho
        cases ho
    · rcases decompose_cases cfg name with ⟨n, rest, hn, hs, hrest, heq, hset⟩ | hno
      · rcases decompose₂_cases cfg name with ⟨n₂, rest₂, hn₂, -, heq₂, -⟩ | hno₂
        · have hc := cliAppName_eq_sentinel hn hn₂ (heq.symm.trans heq₂)
          exact absurd (.inl ⟨n, rest, hn, hs, .inr hc, hrest, heq⟩) hgood
        · exact .inr (by rw [hno₂])
      · exact .inl (by rw [hno])
    · rcases decompose_cases cfg name with ⟨n, rest, -, -, -, -, hset⟩ | hno
      · rw [hset] at ho
        cases ho
      · rw [hno]
    · rcases decompose₂_cases cfg name with ⟨n, rest, -, -, -, hset⟩ | hno
      · rw [hset] at ho
        cases ho
      · rw [hno]

/-- **Both overloads accept** a name that overload 2 has built, if two components follow. -/
theorem not_decomposesWell_global :
    ¬ DecomposesWell .sample
      (div .sample (GlobalName.build .sample ⟨['m'], ['s'], ['7']⟩) ['x', '_', 'y']) := by
  intro h
  rcases h.once ⟨none, none, none, none, none, none⟩ ⟨none, none, none, none⟩ with h | h
  · exact absurd h (by decide)
  · exact absurd h (by decide)

end SharedName

end IpcSession
