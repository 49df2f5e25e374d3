import IpcSession.SessionServer.Sessions
import Mathlib.Data.List.Count

namespace IpcSession

/-!
# Client namespaces and MQ names of one session server

The sessions of a session server run at the same time, so the record of what they do to MQs is any
interleaving of their records.

* `SessionServer.Namespaces` — the client namespaces are the numbers up to the last one given out,
  each given to one session.
* `IsInterleaving` — a record of events of several sessions.
* `SessionServer.NamesApart` — no construction of an MQ is given a name in use, by any session.
* `SessionServer.namesApart_of_reaches` — **MQ names never collide.**
-/

namespace SessionServer

variable {cfg : Cfg} {s s' : SessionServer} {i : Nat}

/-! ### Client namespaces -/

/-- Each number up to the last one is the client namespace of one session. -/
structure Namespaces (s : SessionServer) : Prop where
  count : s.servers.countP (fun c : Server => c.cliNamespace ≠ []) = s.lastCliNamespace
  range : ∀ (i : Nat) (c : Server), s.servers[i]? = some c → c.cliNamespace ≠ [] →
    ∃ k, 1 ≤ k ∧ k ≤ s.lastCliNamespace ∧ c.cliNamespace = Nat.toDigits 10 k
  distinct : ∀ (i j : Nat) (c d : Server), i ≠ j → s.servers[i]? = some c → s.servers[j]? = some d →
    c.cliNamespace ≠ [] → c.cliNamespace ≠ d.cliNamespace

/-- The same client namespaces. -/
theorem Namespaces.keep (h : Namespaces s) (hn : s'.lastCliNamespace = s.lastCliNamespace)
    (hs : s'.servers.map (fun c => c.cliNamespace) = s.servers.map fun c => c.cliNamespace) :
    Namespaces s' := by
  have hget : ∀ (i : Nat) (c : Server), s'.servers[i]? = some c →
      ∃ c₀ : Server, s.servers[i]? = some c₀ ∧ c₀.cliNamespace = c.cliNamespace := by
    intro i c hi
    have hi' : (s'.servers.map fun c => c.cliNamespace)[i]? = some c.cliNamespace := by simp [hi]
    rw [hs, List.getElem?_map, Option.map_eq_some_iff] at hi'
    exact hi'
  refine ⟨?_, fun i c hi hne => ?_, fun i j c d hij hi hj hne => ?_⟩
  · have hcount : ∀ l : List Server, l.countP (fun c => c.cliNamespace ≠ []) =
        (l.map fun c => c.cliNamespace).countP (· ≠ []) := by
      intro l
      rw [List.countP_map]
      rfl
    rw [hn, ← h.count, hcount, hcount, hs]
  · obtain ⟨c₀, hi₀, hc⟩ := hget i c hi
    rw [hn, ← hc]
    exact h.range i c₀ hi₀ (by rw [hc]; exact hne)
  · obtain ⟨c₀, hi₀, hc⟩ := hget i c hi
    obtain ⟨d₀, hj₀, hd⟩ := hget j d hj
    rw [← hc, ← hd]
    exact h.distinct i j c₀ d₀ hij hi₀ hj₀ (by rw [hc]; exact hne)

/-- One more session, without a namespace. -/
theorem Namespaces.made (h : Namespaces s) (hn : s'.lastCliNamespace = s.lastCliNamespace)
    {c₀ : Server} (hc₀ : c₀.cliNamespace = []) (hs : s'.servers = s.servers ++ [c₀]) :
    Namespaces s' := by
  have hget : ∀ {i : Nat} {c : Server}, s'.servers[i]? = some c → c.cliNamespace ≠ [] →
      s.servers[i]? = some c := by
    intro i c hi hne
    rw [hs] at hi
    by_cases hlt : i < s.servers.length
    · rwa [List.getElem?_append_left hlt] at hi
    · rw [List.getElem?_append_right (Nat.le_of_not_lt hlt), List.getElem?_singleton] at hi
      split at hi
      · cases hi
        exact absurd hc₀ hne
      · cases hi
  refine ⟨?_, fun i c hi hne => ?_, fun i j c d hij hi hj hne => ?_⟩
  · rw [hs, List.countP_append, hn, h.count]
    simp [hc₀]
  · rw [hn]
    exact h.range i c (hget hi hne) hne
  · by_cases hd : d.cliNamespace = []
    · rw [hd]
      exact hne
    · exact h.distinct i j c d hij (hget hi hne) (hget hj hd) hne

/-- A session gets the next namespace. -/
theorem Namespaces.named (h : Namespaces s) (hn : s'.lastCliNamespace = s.lastCliNamespace + 1)
    {c₀ server : Server} (hi₀ : s.servers[i]? = some c₀) (hc₀ : c₀.cliNamespace = [])
    (hserver : server.cliNamespace = Nat.toDigits 10 (s.lastCliNamespace + 1))
    (hs : s'.servers = s.servers.set i server) : Namespaces s' := by
  have hlt : i < s.servers.length := (List.getElem?_eq_some_iff.mp hi₀).1
  have hget₀ : s.servers[i] = c₀ := (List.getElem?_eq_some_iff.mp hi₀).2
  have hne₀ : server.cliNamespace ≠ [] := by rw [hserver]; exact Nat.toDigits_ne_nil
  have hget : ∀ {j : Nat} {c : Server}, s'.servers[j]? = some c → j = i ∧ c = server ∨
      j ≠ i ∧ s.servers[j]? = some c := by
    intro j c hj
    rw [hs] at hj
    by_cases hij : i = j
    · subst hij
      rw [List.getElem?_set_self hlt] at hj
      exact .inl ⟨rfl, (Option.some.inj hj).symm⟩
    · rw [List.getElem?_set_ne hij] at hj
      exact .inr ⟨fun h => hij h.symm, hj⟩
  -- the next number is none that was given out
  have hnew : ∀ {j : Nat} {c : Server}, s.servers[j]? = some c →
      c.cliNamespace ≠ server.cliNamespace := by
    intro j c hj heq
    obtain ⟨k, -, hk, hc⟩ := h.range j c hj (by rw [heq]; exact hne₀)
    rw [hc, hserver] at heq
    have := SharedName.toDigits_injective heq
    omega
  refine ⟨?_, fun j c hj hne => ?_, fun j k c d hjk hj hk hne => ?_⟩
  · rw [hs, List.countP_set hlt, h.count, hn]
    simp [hget₀, hc₀, hne₀]
  · rcases hget hj with ⟨-, rfl⟩ | ⟨-, hj⟩
    · exact ⟨_, Nat.le_add_left 1 _, Nat.le_of_eq hn.symm, hserver⟩
    · obtain ⟨k, h₁, hk, hc⟩ := h.range j c hj hne
      exact ⟨k, h₁, by omega, hc⟩
  · rcases hget hj with ⟨rfl, rfl⟩ | ⟨hj', hj⟩
    · rcases hget hk with ⟨rfl, -⟩ | ⟨-, hk⟩
      · exact absurd rfl hjk
      · exact (hnew hk).symm
    · rcases hget hk with ⟨rfl, rfl⟩ | ⟨-, hk⟩
      · exact hnew hj
      · exact h.distinct j k c d hjk hj hk hne

/-- What a session's step says of its namespace: there is an event if it gets one. -/
theorem taken_of_namespace {c server : Server} (hc : Server.MqNames cfg c)
    (hserver : Server.MqNames cfg server) (hlog : c.log <+: server.log) :
    (server.log.drop c.log.length).any Event.isCliNamespaceTaken = true ↔
      c.cliNamespace = [] ∧ server.cliNamespace ≠ [] := by
  obtain ⟨new, hnew⟩ := hlog
  have hdrop : server.log.drop c.log.length = new := by rw [← hnew, List.drop_left]
  have hany : new.any Event.isCliNamespaceTaken = true ↔
      new.filterMap Event.takenNamespace ≠ [] := by
    rw [Ne, List.filterMap_eq_nil_iff, List.any_eq_true]
    push Not
    refine exists_congr fun e => and_congr_right fun _ => ?_
    cases e <;> simp [Event.isCliNamespaceTaken, Event.takenNamespace]
  have htaken := hserver.taken
  rw [← hnew, List.filterMap_append, hc.taken] at htaken
  rw [hdrop, hany]
  by_cases h₁ : c.cliNamespace = []
  · by_cases h₂ : server.cliNamespace = []
    · rw [if_pos h₁, if_pos h₂, List.nil_append] at htaken
      simp [htaken, h₁, h₂]
    · rw [if_pos h₁, if_neg h₂, List.nil_append] at htaken
      simp [htaken, h₁, h₂]
  · by_cases h₂ : server.cliNamespace = []
    · rw [if_neg h₁, if_pos h₂] at htaken
      cases htaken
    · rw [if_neg h₁, if_neg h₂] at htaken
      have hnil : new.filterMap Event.takenNamespace = [] :=
        (List.cons.inj htaken).2
      simp [hnil, h₁]

/-- What is known of a session server's namespaces, while they are fewer than the counter can
    count. -/
structure NamespacesInv (cfg : Cfg) (s : SessionServer) : Prop where
  sessions : SessionsInv cfg s
  namespaces : s.sessions.length < 2 ^ 64 → Namespaces s

/-- No cli-namespace has been given out. -/
theorem namespacesInv_constructed (srvNamespace : SharedName) (errCodeGiven : Bool) :
    NamespacesInv cfg (constructed srvNamespace errCodeGiven) :=
  ⟨sessionsInv_constructed srvNamespace errCodeGiven, fun _ =>
    ⟨rfl, fun i c h => (by cases h), fun i j c d _ h => (by cases h)⟩⟩

/-- Every step keeps the namespaces of two sessions apart, and those of one. -/
theorem NamespacesInv.step {a : Act} (hsep : cfg.separator.isAlphanum = false)
    (h : NamespacesInv cfg s) (hd : step cfg s a = .done s') : NamespacesInv cfg s' := by
  refine ⟨h.sessions.step hd, fun hlen => ?_⟩
  rw [← servers_length] at hlen
  -- By what the step does to the sessions: nothing, one more, one moved out of its start, one
  -- stepped.
  cases (step_servers hd).1 with
  | same hs hn hw =>
    rw [hs, servers_length] at hlen
    exact (h.namespaces hlen).keep hn (by rw [hs])
  -- A new session has no namespace yet.
  | made hs hn hidle hw =>
    have hlt : s.sessions.length < 2 ^ 64 := by
      rw [hs, List.length_append, servers_length] at hlen
      omega
    exact (h.namespaces hlt).made hn rfl hs
  -- Starting the log-in leaves every session's namespace as it is.
  | started hidle hw hlen' hs hn =>
    rename_i i
    rw [hlen', servers_length] at hlen
    refine (h.namespaces hlen).keep hn ?_
    apply List.ext_getElem?
    intro j
    rw [List.getElem?_map, List.getElem?_map]
    rcases hs j with ⟨hsame, -⟩ | ⟨-, hstart⟩
    · rw [hsame]
    · cases hj : s'.servers[j]? with
      | none =>
        have hj' : s.servers[j]? = none := by
          rw [List.getElem?_eq_none_iff] at hj ⊢
          omega
        rw [hj']
      | some c' =>
        obtain ⟨out, c, hc, rfl⟩ := hstart c' hj
        rw [hc]
        rfl
  -- The counter moves exactly if the session takes its namespace in this step.
  | stepped hi ha hd hs hn hw =>
    rename_i i a c server
    rw [hs, List.length_set, servers_length] at hlen
    have hns := h.namespaces hlen
    have hrun := h.sessions.running_of_step hi ha hd
    have hi' : s.servers[i]? = some c.server := by rw [servers_getElem?, hi]; rfl
    obtain ⟨hnames, hnaming⟩ := (hrun.names hsep).step hrun.logIn.err.phases hrun.named hsep hd
    have htaken := taken_of_namespace (hrun.names hsep) hnames (hrun.log hd)
    by_cases hgets : c.server.cliNamespace = [] ∧ server.cliNamespace ≠ []
    · -- the session gets the next namespace
      rw [if_pos (htaken.mpr hgets)] at hn
      have hname : server.cliNamespace = s.nextCliNamespace := by
        rcases hnaming with hsame | ⟨-, hempty | ⟨o, hrun', ho⟩⟩
        · exact absurd (hsame.cliNamespace.trans hgets.1) hgets.2
        · exact absurd hempty hgets.2
        · cases a <;> simp [withHooks] at hrun'
          rw [ho, ← hrun']
      -- The session that takes one had none, so fewer than all are named and the counter has not
      -- wrapped.
      have hle : s.servers.countP (fun c : Server => c.cliNamespace ≠ []) < s.servers.length := by
        refine List.countP_lt_length_iff.mpr ⟨c.server, List.mem_of_getElem? hi', ?_⟩
        simp [hgets.1]
      rw [hns.count, servers_length] at hle
      have hlast : (s.lastCliNamespace + 1) % 2 ^ 64 = s.lastCliNamespace + 1 :=
        Nat.mod_eq_of_lt (by omega)
      rw [nextCliNamespace, hlast] at hname
      exact hns.named (hn.trans hlast) hi' hgets.1 hname hs
    -- No namespace taken: the session's own stays, named or not.
    · have hfalse : ¬ (server.log.drop c.server.log.length).any Event.isCliNamespaceTaken = true :=
        fun ht => hgets (htaken.mp ht)
      rw [if_neg hfalse] at hn
      refine hns.keep hn ?_
      have hsame : server.cliNamespace = c.server.cliNamespace := by
        rcases hnaming with hsame | ⟨hnone, -⟩
        · exact hsame.cliNamespace
        · by_contra hne
          exact hgets ⟨hnone, fun hempty => hne (hempty.trans hnone.symm)⟩
      rw [hs]
      apply List.ext_getElem?
      intro j
      by_cases hij : i = j
      · subst hij
        have hlt := (List.getElem?_eq_some_iff.mp hi').1
        rw [List.getElem?_map, List.getElem?_map, List.getElem?_set_self hlt, hi']
        simp [hsame]
      · rw [List.getElem?_map, List.getElem?_map, List.getElem?_set_ne hij]

/-! ### Names of MQs -/

/-- The record of session `i`. -/
def log (s : SessionServer) (i : Nat) : List Event := (s.servers[i]?.map fun c => c.log).getD []

end SessionServer

/-- `g` is a record of events of several sessions: each session's part of it is the beginning of the
    session's own record. -/
def IsInterleaving (g : List (Nat × Event)) (logs : Nat → List Event) : Prop :=
  ∀ i, (g.filter fun x => x.1 = i).map Prod.snd <+: logs i

/-- A name in use after `g` was created by one of the sessions, and is in use after what that one
    recorded. -/
theorem mem_mqsInUse_of_interleaved {g : List (Nat × Event)} {name : SharedName}
    (h : name ∈ mqsInUse (g.map Prod.snd)) :
    ∃ i, name ∈ mqsInUse ((g.filter fun x => x.1 = i).map Prod.snd) := by
  obtain ⟨pre, post, heq, hpost⟩ := mem_mqsInUse.mp h
  obtain ⟨g₁, g₂, rfl, rfl, hg₂⟩ := List.map_eq_append_iff.mp heq
  obtain ⟨⟨i, e⟩, g₃, rfl, rfl, rfl⟩ := List.map_eq_cons_iff.mp hg₂
  refine ⟨i, mem_mqsInUse.mpr ⟨(g₁.filter fun x => x.1 = i).map Prod.snd,
    (g₃.filter fun x => x.1 = i).map Prod.snd, by simp, fun hmem => hpost ?_⟩⟩
  obtain ⟨x, hx, hname⟩ := List.mem_map.mp hmem
  exact List.mem_map.mpr ⟨x, List.mem_of_mem_filter hx, hname⟩

namespace SessionServer

variable {cfg : Cfg} {s : SessionServer} {g : List (Nat × Event)}

/-- No construction of an MQ is given a name in use. -/
structure NamesApart (s : SessionServer) (g : List (Nat × Event)) : Prop where
  free : ∀ pre i c2s name post, g = pre ++ (i, .mqTried c2s name) :: post →
    name ∉ mqsInUse (pre.map Prod.snd)
  /-- In particular: the names of the two directions, -/
  directions : ∀ i name name', .mqTried true name ∈ s.log i → .mqTried false name' ∈ s.log i →
    name ≠ name'
  /-- of a channel and of one made later while the first has its MQs, -/
  channels : ∀ i pre name mid c2s name' post,
    s.log i = pre ++ .mqCreated name :: (mid ++ .mqTried c2s name' :: post) →
      .mqRemoved name ∉ mid → name' ≠ name
  /-- and of different sessions differ. -/
  sessions : ∀ i j c2s c2s' name name', i ≠ j → .mqTried c2s name ∈ s.log i →
    .mqTried c2s' name' ∈ s.log j → name ≠ name'

/-- What is known of a session's MQs in a run with fewer sessions and channels than the counters can
    count. -/
theorem mqs_of_log (h : NamespacesInv cfg s) (hsep : cfg.separator.isAlphanum = false)
    (happ : ∀ name app, cfg.cliAppLookup name = some app → cfg.separator ∉ app.name)
    (hsessions : s.sessions.length < 2 ^ 64)
    (hchannels : ∀ c ∈ s.sessions, c.server.log.countP Event.isChannelTried < 2 ^ 32)
    {i : Nat} {e : Event} (he : e ∈ s.log i) :
    ∃ c, s.servers[i]? = some c ∧ s.log i = c.log ∧ c.srvNamespace = s.srvNamespace ∧
      Server.MqNames cfg c ∧ Server.Separated cfg c ∧ Server.Numbered cfg c := by
  cases hi : s.servers[i]? with
  | none => simp [log, hi] at he
  | some c =>
    have hlog : s.log i = c.log := by simp [log, hi]
    obtain ⟨hn, hrun⟩ := h.sessions.running i c hi
    -- a session that is just being made has no record
    have hrun : Server.Running cfg c := hrun fun hw => by
      rw [hlog, h.sessions.made hw hi] at he
      cases he
    have hnames := hrun.names hsep
    have hsepd : Server.Separated cfg c := by
      refine ⟨?_, fun app ha => ?_⟩
      · by_cases hempty : c.cliNamespace = []
        · rw [hempty]
          exact List.not_mem_nil
        · obtain ⟨k, -, -, hk⟩ := (h.namespaces hsessions).range i c hi hempty
          rw [hk]
          exact SharedName.separator_notMem_toDigits hsep k
      · obtain ⟨name, hname⟩ := hnames.lookup app ha
        exact happ name app hname
    refine ⟨c, rfl, hlog, hn, hnames, hsepd, hnames.numbered hsepd ?_⟩
    rw [servers_getElem?, Option.map_eq_some_iff] at hi
    obtain ⟨a, ha, rfl⟩ := hi
    exact hchannels a (List.mem_of_getElem? ha)

/-- The name of a client application has no separator in it. -/
theorem separator_notMem_cliApp {c : Server} (hsc : Server.Separated cfg c) :
    cfg.separator ∉ (c.cliAppPtr.map (·.name)).getD [] := by
  cases ha : c.cliAppPtr with
  | none => exact List.not_mem_nil
  | some app => exact hsc.cliApp app ha

/-- MQs of different sessions have different names. -/
theorem mqName_ne_of_sessions (h : NamespacesInv cfg s) (hsep : cfg.separator.isAlphanum = false)
    (hsessions : s.sessions.length < 2 ^ 64) {i j : Nat} {c d : Server} (hij : i ≠ j)
    (hi : s.servers[i]? = some c) (hj : s.servers[j]? = some d) (hc : c.cliNamespace ≠ [])
    (hn : c.srvNamespace = d.srvNamespace)
    (hsc : Server.Separated cfg c) (hsd : Server.Separated cfg d) (c2s c2s' : Bool) (id id' : Nat) :
    c.mqName cfg c2s id ≠ d.mqName cfg c2s' id' := by
  intro heq
  simp only [Server.mqName, hn] at heq
  have hns := (SharedName.channelMqName_injective hsep (separator_notMem_cliApp hsc)
    (separator_notMem_cliApp hsd) hsc.cliNamespace hsd.cliNamespace heq).2.1
  exact (h.namespaces hsessions).distinct i j c d hij hi hj hc hns

/-- A session whose record has an MQ in it has its namespace. -/
theorem cliNamespace_ne_of_mq {c : Server} (h : Server.MqNames cfg c) {e : Event} (he : e ∈ c.log)
    (hmq : e.isMqUse = true) : c.cliNamespace ≠ [] := by
  intro hempty
  have hname := (h.unnamed hempty).2 e he
  rw [Event.isMqUse_of_isNameless hname] at hmq
  cases hmq

/-- **MQ names never collide**, in any run of one session server and its sessions, whatever fails on
    the way. -/
theorem namesApart_of_reaches (cfg : Cfg) (hsep : cfg.separator.isAlphanum = false)
    (happ : ∀ name app, cfg.cliAppLookup name = some app → cfg.separator ∉ app.name)
    (srvNamespace : SharedName) (errCodeGiven : Bool) (s : SessionServer)
    (h : Machine.Reaches (step cfg) Machine.anyStep (constructed srvNamespace errCodeGiven) s)
    (hsessions : s.sessions.length < 2 ^ 64)
    (hchannels : ∀ c ∈ s.sessions, c.server.log.countP Event.isChannelTried < 2 ^ 32)
    (g : List (Nat × Event)) (hg : IsInterleaving g s.log) : NamesApart s g := by
  have hinv : NamespacesInv cfg s := Machine.Reaches.invariant h
    (namespacesInv_constructed srvNamespace errCodeGiven) fun _ _ _ hi _ hd => hi.step hsep hd
  -- An event about a queue names its session, the session's namespaces and its numbering.
  have mqs := fun {i e} => mqs_of_log hinv hsep happ hsessions hchannels (i := i) (e := e)
  refine ⟨fun pre i c2s name post heq hmem => ?_, fun i name name' hc2s hs2c => ?_,
    fun i pre name mid c2s name' post heq hmid => ?_, fun i j c2s c2s' name name' hij hi hj => ?_⟩
  · -- the name is in use by some session: by this one, or by another
    obtain ⟨j, hmem⟩ := mem_mqsInUse_of_interleaved hmem
    -- This session's own events up to the try are a beginning of its log.
    have hstart : ((pre.filter fun x => x.1 = i).map Prod.snd) ++ [.mqTried c2s name] <+:
        s.log i := by
      have hi := hg i
      rw [heq, List.filter_append, List.filter_cons_of_pos (by simp), List.map_append,
        List.map_cons] at hi
      exact (List.prefix_append_right_inj _).mpr (by simp) |>.trans hi
    obtain ⟨rest, hrest⟩ := hstart
    have htried : .mqTried c2s name ∈ s.log i := by rw [← hrest]; simp
    obtain ⟨c, hci, hlog, hcn, hc, hsc, hnum⟩ := mqs htried
    -- Within one session the numbering keeps names apart; across sessions the namespaces do.
    by_cases hij : i = j
    · subst hij
      refine hnum.noCollision _ c2s name rest ?_ hmem
      rw [← hlog, ← hrest]
      simp
    · obtain ⟨pre', post', heq', -⟩ := mem_mqsInUse.mp hmem
      have hj := hg j
      rw [heq, List.filter_append, List.map_append, heq'] at hj
      have hcreated : .mqCreated name ∈ s.log j := hj.subset (by simp)
      obtain ⟨d, hdj, hlog', hdn, hd, hsd, -⟩ := mqs hcreated
      obtain ⟨id, hname⟩ := hc.tried c2s name (by rw [← hlog]; exact htried)
      obtain ⟨c2s', id', hname'⟩ := hd.created name (by rw [← hlog']; exact hcreated)
      have hne : c.cliNamespace ≠ [] :=
        cliNamespace_ne_of_mq hc (by rw [← hlog]; exact htried) rfl
      exact mqName_ne_of_sessions hinv hsep hsessions hij hci hdj hne (hcn.trans hdn.symm) hsc hsd
        c2s c2s' id id' (hname.symm.trans hname')
  · obtain ⟨c, -, hlog, -, hc, hsc, -⟩ := mqs hc2s
    rw [hlog] at hc2s hs2c
    obtain ⟨id, rfl⟩ := hc.tried true name hc2s
    obtain ⟨id', rfl⟩ := hc.tried false name' hs2c
    intro hsame
    -- The application's name has no separator in it, so the name can be taken apart again.
    have happ' : cfg.separator ∉ (c.cliAppPtr.map (·.name)).getD [] := separator_notMem_cliApp hsc
    have hd := (SharedName.channelMqName_injective hsep happ' happ' hsc.cliNamespace
      hsc.cliNamespace hsame).2.2.1
    cases hd
  · have htried : .mqTried c2s name' ∈ s.log i := by rw [heq]; simp
    obtain ⟨c, -, hlog, -, -, -, hnum⟩ := mqs htried
    -- One session tries no name twice.
    rintro rfl
    refine hnum.noCollision (pre ++ .mqCreated name' :: mid) c2s name' post ?_ ?_
    · rw [← hlog, heq]
      simp
    · exact mem_mqsInUse.mpr ⟨pre, mid, rfl, hmid⟩
  · obtain ⟨c, hci, hlog, hcn, hc, hsc, -⟩ := mqs hi
    obtain ⟨d, hdj, hlog', hdn, hd, hsd, -⟩ := mqs hj
    rw [hlog] at hi
    rw [hlog'] at hj
    obtain ⟨id, rfl⟩ := hc.tried c2s name hi
    obtain ⟨id', rfl⟩ := hd.tried c2s' name' hj
    exact mqName_ne_of_sessions hinv hsep hsessions hij hci hdj (cliNamespace_ne_of_mq hc hi rfl)
      (hcn.trans hdn.symm) hsc hsd c2s c2s' id id'

/-- Two sessions make channels at the same time; an attempt of the second one fails between its two
    MQs, and is made again. -/
theorem namesApart_of_reaches_twoSessions :
    ∃ (s : SessionServer) (g : List (Nat × Event)), NamesApart s g ∧
      (g.map Prod.fst).count 0 = (s.log 0).length ∧ (g.map Prod.fst).count 1 = (s.log 1).length ∧
      (s.log 0).countP Event.isChannelTried = 1 ∧ (s.log 1).countP Event.isChannelTried = 2 := by
  obtain ⟨s, hr, hp⟩ := Machine.Reaches.exists_of_run (step .sampleWithMqs) (constructed ['7'] true)
    (logInPrefix 0 ++ logInPrefix 1 ++
      [.session 0 (.initHandlers true), .session 1 (.initHandlers true), .session 0 (.run {}),
        .session 1 (.run {}), .session 0 (.mdtBuilder 0 []), .session 1 (.mdtBuilder 0 []),
        .session 1 (.run { res := { mqS2c := some (.other 1) } }), .session 0 (.run {}),
        .session 1 (.mdtBuilder 1 []), .session 1 (.run {})])
    (fun s => decide (s.sessions.length < 2 ^ 64) &&
      (s.sessions.all fun c => c.server.log.countP Event.isChannelTried < 2 ^ 32) &&
      decide ((s.log 0).countP Event.isChannelTried = 1) &&
      decide ((s.log 1).countP Event.isChannelTried = 2)) (by decide)
  simp only [Bool.and_eq_true, decide_eq_true_eq, List.all_eq_true] at hp
  obtain ⟨⟨⟨hsessions, hchannels⟩, h₀⟩, h₁⟩ := hp
  -- One session's events after the other's is an interleaving of the two.
  have hg : IsInterleaving ((s.log 0).map (Prod.mk 0) ++ (s.log 1).map (Prod.mk 1)) s.log := by
    intro i
    rw [List.filter_append, List.filter_map, List.filter_map]
    by_cases hi : i = 0
    · subst hi
      simp [Function.comp_def]
    · by_cases hi' : i = 1
      · subst hi'
        simp [Function.comp_def]
      · have h₀' : ¬ 0 = i := fun h => hi h.symm
        have h₁' : ¬ 1 = i := fun h => hi' h.symm
        simp [Function.comp_def, h₀', h₁']
  have happ : ∀ name app, Cfg.sampleWithMqs.cliAppLookup name = some app →
      Cfg.sampleWithMqs.separator ∉ app.name := by
    intro name app h
    simp only [Cfg.sampleWithMqs, Cfg.sample] at h
    split at h
    · cases h
      decide
    · cases h
  refine ⟨s, _, namesApart_of_reaches .sampleWithMqs (by decide) happ ['7'] true s hr hsessions
    hchannels _ hg, ?_, ?_, h₀, h₁⟩
  · simp [Function.comp_def, List.count_replicate]
  · simp [Function.comp_def, List.count_replicate]

end SessionServer

end IpcSession
