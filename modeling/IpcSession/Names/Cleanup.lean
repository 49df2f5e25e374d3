import IpcSession.Names.Decompose
import IpcSession.Server.Updates

namespace IpcSession

/-!
# The names that the start-up cleanup removes

`build_conventional_shared_name_prefix()` yields a prefix of just those conventional names that are
of the same resource type and server application; where MQs are configured, the constructor of the
session server has the MQs removed whose names start with it (`SharedName.cleanup_exact`).
-/

namespace SharedName

variable {cfg : Cfg}

/-- What the constructor of the session server calls `remove_each_persistent_with_name_prefix()`
    with, if it does. -/
def startUpCleanup (cfg : Cfg) : Option SharedName :=
  if cfg.mqsEnabled then
    some (buildConventionalSharedNamePrefix cfg cfg.mqResourceType cfg.srvApp.name)
  else none

/-- A prefix is the root, and the two components with a separator after each. -/
theorem buildConventionalSharedNamePrefix_eq (cfg : Cfg) (t s : SharedName) :
    buildConventionalSharedNamePrefix cfg t s =
      (cfg.separator :: cfg.rootMagic ++ [cfg.separator]) ++
      (t ++ cfg.separator :: (s ++ [cfg.separator])) := by
  simp [buildConventionalSharedNamePrefix, div]

/-- Of two names that start with a type and an application, one is a start of the other just where
    these are the same. -/
theorem prefix_append_iff {t s t' s' suffix : SharedName} (ht : cfg.separator ∉ t)
    (hs : cfg.separator ∉ s) (ht' : cfg.separator ∉ t') (hs' : cfg.separator ∉ s') :
    buildConventionalSharedNamePrefix cfg t s <+: buildConventionalSharedNamePrefix cfg t'
      s' ++ suffix ↔
      t = t' ∧ s = s' := by
  constructor
  · rintro ⟨x, hx⟩
    rw [buildConventionalSharedNamePrefix_eq, buildConventionalSharedNamePrefix_eq] at hx
    simp only [List.append_assoc] at hx
    have hx := List.append_cancel_left (List.append_cancel_left hx)
    simp only [List.cons_append, List.append_assoc, List.nil_append] at hx
    obtain ⟨htt, hx⟩ := component_injective ht ht' hx
    exact ⟨htt, (component_injective hs hs' hx).1⟩
  · rintro ⟨rfl, rfl⟩
    exact List.prefix_append _ _

/-- The MQ of any server's channel. -/
theorem channelMqName_eq_prefix (cfg : Cfg) (srvNamespace cliAppName cliNamespace : SharedName)
    (d : Bool)
    (id : Nat) : ∃ suffix, channelMqName cfg srvNamespace cliAppName cliNamespace d id =
      buildConventionalSharedNamePrefix cfg cfg.mqResourceType cfg.srvApp.name ++ suffix := by
  rw [channelMqName_eq, List.append_assoc]
  exact ⟨_, rfl⟩

/-- The MQs that `make_channel_mqs()` creates have names of its server application. -/
theorem mqCreated_eq_prefix {cfg : Cfg} {s : Server} {o : ResourceOracle} {name : SharedName}
    (h : Event.mqCreated name ∈ (s.makeChannelMqs cfg o).2.log.drop s.log.length) :
    ∃ suffix, name =
      buildConventionalSharedNamePrefix cfg cfg.mqResourceType cfg.srvApp.name ++ suffix := by
  obtain ⟨es, made, htried, hs⟩ := Server.makeChannelMqs_tried cfg o s
  have hes : Event.mqCreated name ∈ es := by
    rw [hs] at h
    simpa using h
  have hname : ∃ d, name = s.nextMqName cfg d := by
    cases htried with
    | noC2s => simp at hes
    | noS2c => exact ⟨true, by simpa using hes⟩
    | made =>
      have hes : name = s.nextMqName cfg true ∨ name = s.nextMqName cfg false := by simpa using hes
      exact hes.elim (fun h => ⟨true, h⟩) (fun h => ⟨false, h⟩)
  obtain ⟨d, rfl⟩ := hname
  exact channelMqName_eq_prefix cfg _ _ _ d _

/-- **The cleanup is exact**: the prefix of a resource type and a server application starts just the
    names of these, of either overload and whatever follows; so the prefix that the constructor
    cleans up under starts the name of every MQ that `make_channel_mqs()` makes for its application
    and MQ type, in any process and any state of any session, and of none of another application or
    MQ type. -/
theorem cleanup_exact (cfg : Cfg) :
    (∀ t s t' s', IsComponent cfg t → IsComponent cfg s → IsComponent cfg t' → IsComponent cfg s' →
      (∀ srvNamespace cliAppName cliNamespace suffix,
        buildConventionalSharedNamePrefix cfg t s <+:
          buildConventionalSharedName cfg t' s' srvNamespace cliAppName cliNamespace ++ suffix ↔
        t = t' ∧ s = s') ∧
      ∀ srvNamespace suffix,
        buildConventionalSharedNamePrefix cfg t s <+:
          buildConventionalSharedName₂ cfg t' s' srvNamespace ++ suffix ↔
        t = t' ∧ s = s') ∧
    (startUpCleanup cfg = none ↔ cfg.mqsEnabled = false) ∧
    ∀ cfg' : Cfg, cfg'.separator = cfg.separator → cfg'.rootMagic = cfg.rootMagic →
      IsComponent cfg cfg.mqResourceType → IsComponent cfg cfg.srvApp.name →
      IsComponent cfg cfg'.mqResourceType → IsComponent cfg cfg'.srvApp.name →
      ∀ (s : Server) (o : ResourceOracle) (name : SharedName),
        Event.mqCreated name ∈ (s.makeChannelMqs cfg' o).2.log.drop s.log.length →
        ∀ start, startUpCleanup cfg = some start → (start <+: name ↔
          cfg'.mqResourceType = cfg.mqResourceType ∧ cfg'.srvApp.name = cfg.srvApp.name) := by
  refine ⟨fun t s t' s' ht hs ht' hs' => ⟨fun ns app cns suffix => ?_, fun ns suffix => ?_⟩, ?_, ?_⟩
  · have hbuild : buildConventionalSharedName cfg t' s' ns app cns ++ suffix =
        buildConventionalSharedNamePrefix cfg t' s' ++
          (ns ++ cfg.separator :: (app ++ cfg.separator :: (cns ++ suffix))) := by
      simp [buildConventionalSharedName, div]
    rw [hbuild]
    exact prefix_append_iff ht.2 hs.2 ht'.2 hs'.2
  · have hbuild : buildConventionalSharedName₂ cfg t' s' ns ++ suffix =
        buildConventionalSharedNamePrefix cfg t' s' ++
          (ns ++ cfg.separator :: (sentinel ++ suffix)) := by
      simp [buildConventionalSharedName₂, div]
    rw [hbuild]
    exact prefix_append_iff ht.2 hs.2 ht'.2 hs'.2
  · simp [startUpCleanup]
  · intro cfg' hsep hroot ht hs ht' hs' s o name hcreated start hstart
    obtain ⟨suffix, rfl⟩ := mqCreated_eq_prefix hcreated
    have hsame : buildConventionalSharedNamePrefix cfg' cfg'.mqResourceType cfg'.srvApp.name =
        buildConventionalSharedNamePrefix cfg cfg'.mqResourceType cfg'.srvApp.name := by
      simp only [buildConventionalSharedNamePrefix, div, hsep, hroot]
    simp only [startUpCleanup, Option.ite_none_right_eq_some, Option.some.injEq] at hstart
    obtain ⟨-, rfl⟩ := hstart
    rw [hsame, prefix_append_iff ht.2 hs.2 ht'.2 hs'.2]
    exact ⟨fun h => ⟨h.1.symm, h.2.symm⟩, fun h => ⟨h.1.symm, h.2.symm⟩⟩

/-- The configuration of an application whose name extends that of the sample's. -/
def sampleWithLongerName : Cfg := { Cfg.sampleWithMqs with srvApp := ⟨['s', 's'], [['c']]⟩ }

/-- An application whose name extends the other's keeps its MQ. -/
theorem cleanup_exact_longerName :
    (∃ start, startUpCleanup .sampleWithMqs = some start ∧
      ¬ start <+: (Server.constructed ['7']).nextMqName sampleWithLongerName true) ∧
    buildConventionalSharedNamePrefix .sampleWithMqs ['m'] ['s'] <+:
      buildConventionalSharedName .sampleWithMqs ['m'] ['s'] ['7'] ['c'] ['1'] ++ [] := by
  have hs : IsComponent .sampleWithMqs ['s'] := ⟨by decide, by decide⟩
  have hm : IsComponent .sampleWithMqs ['m'] := ⟨by decide, by decide⟩
  have hss : IsComponent .sampleWithMqs ['s', 's'] := ⟨by decide, by decide⟩
  obtain ⟨hstart, -, hmqs⟩ := cleanup_exact .sampleWithMqs
  refine ⟨⟨_, rfl, fun hprefix => ?_⟩, ?_⟩
  · have hiff := hmqs sampleWithLongerName rfl rfl hm hs hm hss (Server.constructed ['7']) {}
      ((Server.constructed ['7']).nextMqName sampleWithLongerName true)
      (by simp [Server.makeChannelMqs, Server.record, Server.setSession, Session.record,
        Server.nextMqName]) _ rfl
    have hne : ¬ (sampleWithLongerName.mqResourceType = Cfg.sampleWithMqs.mqResourceType ∧
        sampleWithLongerName.srvApp.name = Cfg.sampleWithMqs.srvApp.name) := by decide
    exact hne (hiff.mp hprefix)
  · exact ((hstart ['m'] ['s'] ['m'] ['s'] hm hs hm hs).1 ['7'] ['c'] ['1'] []).mpr ⟨rfl, rfl⟩

end SharedName

end IpcSession
