import IpcSession.Base.Types

namespace IpcSession

/-!
# Conventional shared names

`build_conventional_shared_name()` and the names that a session derives from it.  The separator
and the root component are those of `util::Shared_name`.
-/

namespace SharedName

/-- `a /= b`: one separator, then the component. -/
def div (cfg : Cfg) (a b : SharedName) : SharedName := a ++ cfg.separator :: b

/-- `build_conventional_shared_name_prefix()`. -/
def buildConventionalSharedNamePrefix (cfg : Cfg) (resourceType srvAppName : SharedName) :
    SharedName :=
  div cfg (div cfg (div cfg (div cfg [] cfg.rootMagic) resourceType) srvAppName) []

/-- `build_conventional_shared_name()`, overload 1: a name of one session. -/
def buildConventionalSharedName (cfg : Cfg) (resourceType srvAppName srvNamespace cliAppName
    cliNamespaceOrSentinel : SharedName) : SharedName :=
  let name := buildConventionalSharedNamePrefix cfg resourceType srvAppName ++ srvNamespace
  div cfg (div cfg name cliAppName) cliNamespaceOrSentinel

/-- The name that `make_channel_mqs()` gives to an MQ of channel number `id` in the direction
    `c2s` or the opposite one. -/
def channelMqName (cfg : Cfg) (srvNamespace cliAppName cliNamespace : SharedName) (c2s : Bool)
    (id : Nat) : SharedName :=
  let name := buildConventionalSharedName cfg cfg.mqResourceType cfg.srvApp.name srvNamespace
    cliAppName cliNamespace
  div cfg (div cfg name (if c2s then ['c', '2', 's'] else ['s', '2', 'c'])) (Nat.toDigits 10 id)

/-- The two directions of one channel have different names, whatever the components are. -/
theorem channelMqName_c2s_ne_s2c (cfg : Cfg) (srvNamespace cliAppName cliNamespace : SharedName)
    (id : Nat) :
    channelMqName cfg srvNamespace cliAppName cliNamespace true id
      ≠ channelMqName cfg srvNamespace cliAppName cliNamespace false id := by
  intro h
  simp only [channelMqName, div, if_true, Bool.false_eq_true, if_false, List.append_assoc] at h
  have h' := List.append_cancel_left h
  simp at h'

/-! ### Names of MQs tell apart what they are made of -/

variable {cfg : Cfg}

/-- A component that has no separator in it ends at the first separator. -/
theorem component_injective {c : Char} {x x' y y' : List Char} (hx : c ∉ x) (hx' : c ∉ x')
    (h : x ++ c :: y = x' ++ c :: y') : x = x' ∧ y = y' := by
  induction x generalizing x' with
  | nil =>
    cases x' with
    | nil => exact ⟨rfl, (List.cons.inj h).2⟩
    | cons a x' =>
      rw [← (List.cons.inj h).1] at hx'
      exact absurd List.mem_cons_self hx'
  | cons a x ih =>
    cases x' with
    | nil =>
      rw [(List.cons.inj h).1] at hx
      exact absurd List.mem_cons_self hx
    | cons b x' =>
      obtain ⟨rfl, htail⟩ := List.cons.inj h
      obtain ⟨rfl, hy⟩ := ih (fun hm => hx (List.mem_cons_of_mem _ hm))
        (fun hm => hx' (List.mem_cons_of_mem _ hm)) htail
      exact ⟨rfl, hy⟩

/-- Decimal digits are no separator. -/
theorem separator_notMem_toDigits (h : cfg.separator.isAlphanum = false) (n : Nat) :
    cfg.separator ∉ Nat.toDigits 10 n := by
  intro hmem
  have hdigit := Nat.isDigit_of_mem_toDigits (by decide) (by decide) hmem
  rw [Char.isAlphanum, hdigit, Bool.or_true] at h
  cases h

/-- Different numbers are written differently. -/
theorem toDigits_injective {m n : Nat} (h : Nat.toDigits 10 m = Nat.toDigits 10 n) : m = n := by
  have hm := congrArg (fun l => Nat.ofDigitChars 10 l 0) h
  simpa [Nat.ofDigitChars_ten_toDigits] using hm

/-- The component that says the direction. -/
def direction (c2s : Bool) : SharedName := if c2s then ['c', '2', 's'] else ['s', '2', 'c']

/-- The two MQs of a channel go by different directions. -/
theorem direction_injective {d d' : Bool} (h : direction d = direction d') : d = d' := by
  cases d <;> cases d' <;> first | rfl | exact absurd h (by decide)

/-- A direction has no separator in it. -/
theorem separator_notMem_direction (h : cfg.separator.isAlphanum = false) (d : Bool) :
    cfg.separator ∉ direction d := by
  intro hmem
  have halpha : (direction d).all Char.isAlphanum = true := by cases d <;> decide
  rw [List.all_eq_true.mp halpha _ hmem] at h
  cases h

/-- The name of an MQ, taken apart at its separators. -/
theorem channelMqName_eq (cfg : Cfg) (srvNamespace cliAppName cliNamespace : SharedName) (d : Bool)
    (id : Nat) :
    channelMqName cfg srvNamespace cliAppName cliNamespace d id =
      (buildConventionalSharedNamePrefix cfg cfg.mqResourceType cfg.srvApp.name ++ srvNamespace) ++
        cfg.separator :: (cliAppName ++ cfg.separator :: (cliNamespace ++ cfg.separator ::
          (direction d ++ cfg.separator :: Nat.toDigits 10 id))) := by
  simp [channelMqName, buildConventionalSharedName, div, direction]

/-- **MQ names of one server are as different as the client, the session, the direction and the
    number.** -/
theorem channelMqName_injective (hsep : cfg.separator.isAlphanum = false)
    {srvNamespace app app' ns ns' : SharedName} {d d' : Bool} {id id' : Nat}
    (happ : cfg.separator ∉ app) (happ' : cfg.separator ∉ app') (hns : cfg.separator ∉ ns)
    (hns' : cfg.separator ∉ ns')
    (h : channelMqName cfg srvNamespace app ns d id = channelMqName cfg srvNamespace app'
      ns' d' id') :
    app = app' ∧ ns = ns' ∧ d = d' ∧ id = id' := by
  rw [channelMqName_eq, channelMqName_eq] at h
  have h := (List.cons_inj_right _).mp (List.append_cancel_left h)
  -- component by component, up to the next separator
  obtain ⟨rfl, h₁⟩ := component_injective happ happ' h
  obtain ⟨rfl, h₂⟩ := component_injective hns hns' h₁
  obtain ⟨hd, h₃⟩ := component_injective (separator_notMem_direction hsep d)
    (separator_notMem_direction hsep d') h₂
  exact ⟨rfl, rfl, direction_injective hd, toDigits_injective h₃⟩

end SharedName

end IpcSession
