import IpcSession.Server.Updates
import Mathlib.Data.List.Induction

namespace IpcSession

/-!
# The names of a session's MQs

The number of a channel's MQs goes up with each channel, and is put back where the MQs could not be
made.  Whatever fails on the way, the names in use are those of numbers used before.

* `mqsInUse` — the names in use after what a record says: created, and not removed since.
* `NoCollision` — no construction of an MQ was given a name that was in use.
* `Server.MqNames` — what a session's record says of the names, and of the namespace they are in.
-/

namespace Event

/-- `make_channel_mqs()` ran. -/
def isChannelTried : Event → Bool
  | mqTried true _ => true
  | _ => false

/-- The namespace that `cli_namespace_func()` yielded. -/
def takenNamespace : Event → Option SharedName
  | cliNamespaceTaken name => some name
  | _ => none

/-- A construction of an MQ, or its success. -/
def isMqUse : Event → Bool
  | mqTried .. => true
  | mqCreated _ => true
  | _ => false

/-- Events that matter neither to the names in use nor to the namespace. -/
def isNameless : Event → Bool
  | mqTried .. => false
  | mqCreated _ => false
  | cliNamespaceTaken _ => false
  | _ => true

/-- A nameless event uses no MQ. -/
theorem isMqUse_of_isNameless {e : Event} (h : e.isNameless = true) : e.isMqUse = false := by
  cases e <;> first | rfl | cases h

/-- A common event is nameless. -/
theorem isNameless_of_isCommon {e : Event} (h : e.isCommon = true) : e.isNameless = true := by
  cases e <;> first | rfl | cases h

/-- So is the mark of an update. -/
theorem isNameless_of_isMark {e : Event} (h : e.isMark = true) : e.isNameless = true := by
  cases e <;> first | rfl | cases h

/-- It takes no namespace. -/
theorem takenNamespace_of_isNameless {e : Event} (h : e.isNameless = true) :
    e.takenNamespace = none := by
  cases e <;> first | rfl | cases h

/-- Nor does it try to make a channel. -/
theorem isChannelTried_of_isNameless {e : Event} (h : e.isNameless = true) :
    e.isChannelTried = false := by
  cases e with
  | mqTried c2s name => cases h
  | _ => rfl

end Event

/-! ### Names in use -/

/-- One event more. -/
def useMq (used : List SharedName) : Event → List SharedName
  | .mqCreated name => name :: used
  | .mqRemoved name => used.filter (· ≠ name)
  | _ => used

/-- The names in use after these events. -/
def mqsInUse (l : List Event) : List SharedName := l.foldl useMq []

/-- No construction of an MQ was given a name in use. -/
def NoCollision (l : List Event) : Prop :=
  ∀ pre c2s name post, l = pre ++ .mqTried c2s name :: post → name ∉ mqsInUse pre

@[simp] theorem mqsInUse_nil : mqsInUse [] = [] := rfl

/-- Which MQs are in use is told one event after the other. -/
theorem mqsInUse_snoc (l : List Event) (e : Event) :
    mqsInUse (l ++ [e]) = useMq (mqsInUse l) e := by
  simp [mqsInUse]

/-- An element of a list is the last one, or one before it. -/
theorem snoc_eq_append_cons {α : Type*} {l pre post : List α} {e x : α}
    (h : l ++ [e] = pre ++ x :: post) :
    (pre = l ∧ x = e) ∨ ∃ post', post = post' ++ [e] ∧ l = pre ++ x :: post' := by
  rcases List.eq_nil_or_concat post with rfl | ⟨post', e', rfl⟩
  · obtain ⟨hl, he⟩ := List.append_inj' h rfl
    exact .inl ⟨hl.symm, (List.cons.inj he).1.symm⟩
  · have h' : l ++ [e] = (pre ++ x :: post') ++ [e'] := by
      rw [h, List.concat_eq_append]
      simp
    obtain ⟨hl, he⟩ := List.append_inj' h' rfl
    exact .inr ⟨post', by rw [List.concat_eq_append, (List.cons.inj he).1], hl⟩

/-- A name in use was created, and not removed since. -/
theorem mem_mqsInUse {l : List Event} {name : SharedName} :
    name ∈ mqsInUse l ↔ ∃ pre post, l = pre ++ .mqCreated name :: post ∧
      .mqRemoved name ∉ post := by
  induction l using List.reverseRecOn with
  | nil => simp
  | append_singleton l e ih =>
    -- `e` is the creation, or it is a later event that is not a removal
    have hsplit : (∃ pre post, l ++ [e] = pre ++ .mqCreated name :: post ∧ .mqRemoved name ∉ post) ↔
        e = .mqCreated name ∨ (e ≠ .mqRemoved name ∧
          ∃ pre post, l = pre ++ .mqCreated name :: post ∧ .mqRemoved name ∉ post) := by
      constructor
      · rintro ⟨pre, post, heq, hpost⟩
        rcases snoc_eq_append_cons heq with ⟨rfl, he⟩ | ⟨post', rfl, hl⟩
        · exact .inl he.symm
        · rw [List.mem_append, not_or, List.mem_singleton] at hpost
          exact .inr ⟨fun h => hpost.2 h.symm, pre, post', hl, hpost.1⟩
      · rintro (rfl | ⟨hne, pre, post, rfl, hpost⟩)
        · exact ⟨l, [], rfl, nofun⟩
        · refine ⟨pre, post ++ [e], by simp, ?_⟩
          rw [List.mem_append, not_or]
          exact ⟨hpost, fun h => hne (List.mem_singleton.mp h).symm⟩
    rw [hsplit, mqsInUse_snoc, ← ih]
    cases e with
    | mqCreated name' => simp [useMq, eq_comm]
    | mqRemoved name' =>
      simp only [useMq, List.mem_filter, decide_eq_true_eq, ne_eq, reduceCtorEq, false_or,
        Event.mqRemoved.injEq]
      exact ⟨fun h => ⟨fun heq => h.2 heq.symm, h.1⟩, fun h => ⟨h.2, fun heq => h.1 heq.symm⟩⟩
    | _ => simp [useMq]

/-- With no event there is no collision. -/
theorem noCollision_nil : NoCollision [] := by
  intro pre c2s name post h
  cases pre <;> cases h

/-- Nor does the next one make one, if it tries a name that is not in use. -/
theorem NoCollision.snoc {l : List Event} {e : Event} (h : NoCollision l)
    (he : ∀ c2s name, e = .mqTried c2s name → name ∉ mqsInUse l) : NoCollision (l ++ [e]) := by
  intro pre c2s name post heq
  rcases snoc_eq_append_cons heq with ⟨rfl, htried⟩ | ⟨post', -, hl⟩
  · exact he c2s name htried.symm
  · exact h pre c2s name post' hl

/-- Events that use no MQ make none. -/
theorem NoCollision.append {l es : List Event} (h : NoCollision l)
    (hes : ∀ e ∈ es, e.isMqUse = false) : NoCollision (l ++ es) := by
  induction es using List.reverseRecOn with
  | nil => simpa using h
  | append_singleton es e ih =>
    rw [← List.append_assoc]
    refine (ih fun e' h' => hes e' (by simp [h'])).snoc fun c2s name he => ?_
    have huse := hes e (by simp)
    rw [he] at huse
    cases huse

/-- Nothing but a creation puts a name in use. -/
theorem mem_mqsInUse_append {l es : List Event} (hes : ∀ e ∈ es, e.isMqUse = false)
    {name : SharedName} (h : name ∈ mqsInUse (l ++ es)) : name ∈ mqsInUse l := by
  induction es using List.reverseRecOn with
  | nil => simpa using h
  | append_singleton es e ih =>
    refine ih (fun e' h' => hes e' (by simp [h'])) ?_
    have huse := hes e (by simp)
    rw [← List.append_assoc, mqsInUse_snoc] at h
    cases e with
    | mqCreated name' => cases huse
    | mqRemoved name' => exact List.mem_of_mem_filter h
    | _ => exact h

namespace Server

variable {cfg : Cfg} {s s' s'' : Server} {o : ServerOracle} {l : Option Mark} {L : Mark → Prop}

/-- The name of an MQ of this session. -/
def mqName (cfg : Cfg) (s : Server) (c2s : Bool) (id : Nat) : SharedName :=
  SharedName.channelMqName cfg s.srvNamespace ((s.cliAppPtr.map (·.name)).getD []) s.cliNamespace
    c2s id

/-- The name of an MQ is made of the session's names and a number. -/
theorem mqName_eq_of_naming (cfg : Cfg) (h : SameNaming s s') (c2s : Bool) (id : Nat) :
    s'.mqName cfg c2s id = s.mqName cfg c2s id := by
  simp only [mqName, h.srvNamespace, h.cliNamespace, h.cliAppPtr]

/-- The next one has the next number. -/
theorem nextMqName_eq (cfg : Cfg) (s : Server) (c2s : Bool) :
    s.nextMqName cfg c2s = s.mqName cfg c2s ((s.lastChannelMqId + 1) % 2 ^ 32) := rfl

/-! ### Code that has nothing to do with names -/

/-- The naming and the number are as before, and nothing recorded matters to them. -/
structure Nameless (s s' : Server) : Prop where
  naming : SameNaming s s'
  lastChannelMqId : s'.lastChannelMqId = s.lastChannelMqId
  log : ∃ es, s'.log = s.log ++ es ∧ ∀ e ∈ es, e.isNameless = true

namespace Nameless

/-- Nothing happens to the names. -/
theorem same (hn : SameNaming s s') (hid : s'.lastChannelMqId = s.lastChannelMqId)
    (hl : s'.log = s.log) : Nameless s s' :=
  ⟨hn, hid, [], by simp [hl], fun e h => by cases h⟩

/-- One nameless event. -/
theorem one {e : Event} (he : e.isNameless = true) (hn : SameNaming s s')
    (hid : s'.lastChannelMqId = s.lastChannelMqId) (hl : s'.log = s.log ++ [e]) : Nameless s s' :=
  ⟨hn, hid, [e], hl, fun e' h' => by rw [List.mem_singleton.mp h']; exact he⟩

theorem trans (h : Nameless s s') (h' : Nameless s' s'') : Nameless s s'' where
  naming := h.naming.trans h'.naming
  lastChannelMqId := h'.lastChannelMqId.trans h.lastChannelMqId
  log := by
    obtain ⟨es, hl, hes⟩ := h.log
    obtain ⟨es', hl', hes'⟩ := h'.log
    refine ⟨es ++ es', by rw [hl', hl, List.append_assoc], fun e he => ?_⟩
    rcases List.mem_append.mp he with he | he
    · exact hes e he
    · exact hes' e he

/-- An update of the session. -/
theorem session {b : Session} (h : s.toSession.Update l b) : Nameless s (s.setSession b) := by
  obtain ⟨es, hl, hes⟩ := h.log
  exact ⟨⟨h.namespaces.1, h.namespaces.2, rfl⟩, rfl, es, hl,
    fun e he => Event.isNameless_of_isCommon (hes e he)⟩

/-- And any number of them. -/
theorem sessions {b : Session} (h : s.toSession.Updates L b) : Nameless s (s.setSession b) :=
  h.keeps (P := fun b => Nameless s (s.setSession b)) (.same (.refl s) rfl rfl)
    fun b _ _ hb _ hu => hb.trans (session (s := s.setSession b) hu)

end Nameless

/-- An elementary update makes MQs, or it has nothing to do with names. -/
theorem Update.nameless (h : Update cfg s l s') : Nameless s s' ∨
    (s.cliNamespace ≠ [] ∧ ∃ r, s' = (s.makeChannelMqs cfg r).2) := by
  cases h with
  | session hu => exact .inl (.session hu)
  | mark he => exact .inl (.one (Event.isNameless_of_isMark he) ⟨rfl, rfl, rfl⟩ rfl rfl)
  | mqs hn r => exact .inr ⟨hn, r, rfl⟩
  | mqRemoved name => exact .inl (.one rfl ⟨rfl, rfl, rfl⟩ rfl rfl)
  | logInDone hn hd =>
    obtain ⟨-, rfl⟩ := logInDone_done hd
    exact .inl (.one rfl ⟨rfl, rfl, rfl⟩ rfl rfl)
  | _ => exact .inl (.same ⟨rfl, rfl, rfl⟩ rfl rfl)

/-- A task leaves the queue. -/
theorem takeTask_nameless {t : Task} {b : Session} (hd : s.takeTask = .done (t, b)) :
    Nameless s (s.setSession b) := by
  obtain ⟨-, -, hb⟩ := Session.takeTask_done hd
  rw [hb]
  exact .same ⟨rfl, rfl, rfl⟩ rfl rfl

/-- The log-in starts. -/
theorem acceptLogIn_nameless (hd : s.acceptLogIn o = .done s') : Nameless s s' := by
  simp only [acceptLogIn] at hd
  split at hd
  · obtain ⟨-, rfl⟩ := logInDone_done hd; exact .one rfl ⟨rfl, rfl, rfl⟩ rfl rfl
  · obtain ⟨-, rfl⟩ := logInDone_done hd; exact .one rfl ⟨rfl, rfl, rfl⟩ rfl rfl
  · simp only [Outcome.bind_eq_done, Prod.exists] at hd
    obtain ⟨-, -, ok, s₂, h₂, hd⟩ := hd
    obtain ⟨b, hb, rfl⟩ := lift_done h₂
    obtain ⟨ch, hch, hr⟩ := Session.callNoError_done hb
    cases hch
    cases hr with
    | ok hh => cases hd; exact .same ⟨rfl, rfl, rfl⟩ rfl rfl
    | refusedOld hh => cases hh
    | refusedNew hh e => cases hd; exact .one rfl ⟨rfl, rfl, rfl⟩ rfl rfl

/-- What the destructor does in thread U. -/
theorem dtorAct_nameless {b : Session} (h : s.toSession.DtorAct b) :
    Nameless s (s.setSession b) := by
  cases h <;> exact .same ⟨rfl, rfl, rfl⟩ rfl rfl

/-- A task of the destructor in thread W. -/
theorem dtorTask_nameless {t : Task} {b : Session} (h : s.toSession.DtorTask t b) :
    Nameless s (s.setSession b) := by
  cases h with
  | @sendEnd b₁ hf hu hw =>
    exact (Nameless.sessions hu).trans (.same ⟨rfl, rfl, rfl⟩ rfl rfl)
  | _ => exact .same ⟨rfl, rfl, rfl⟩ rfl rfl

/-! ### The log-in request -/

/-- The client application that the check of a log-in request sets. -/
theorem checkLogInReq_app {r : LogInReq} {e : ErrorCode}
    (hd : s.checkLogInReq cfg r o = .done (e, s')) :
    s'.lastChannelMqId = s.lastChannelMqId ∧
      (s'.cliAppPtr = s.cliAppPtr ∧ s'.toSession = s.toSession ∨
        s.cliAppPtr = none ∧ ∃ app, cfg.cliAppLookup r.ownApp = some app ∧
          s'.cliAppPtr = some app) := by
  simp only [checkLogInReq] at hd
  split at hd
  · cases hd; exact ⟨rfl, .inl ⟨rfl, rfl⟩⟩
  · split at hd
    · cases hd; exact ⟨rfl, .inl ⟨rfl, rfl⟩⟩
    · split at hd
      · cases hd; exact ⟨rfl, .inl ⟨rfl, rfl⟩⟩
      · split at hd
        · cases hd; exact ⟨rfl, .inl ⟨rfl, rfl⟩⟩
        · split at hd
          · cases hd
          · cases hd; exact ⟨rfl, .inl ⟨rfl, rfl⟩⟩
          · rename_i app hclaimed happ
            split at hd
            · cases hd; exact ⟨rfl, .inl ⟨rfl, rfl⟩⟩
            · simp only [Outcome.bind_eq_done, Outcome.check_eq_done] at hd
              obtain ⟨-, hnone, hd⟩ := hd
              have hnone : s.cliAppPtr = none := Option.isNone_iff_eq_none.mp hnone
              split at hd
              · cases hd; exact ⟨rfl, .inr ⟨hnone, app, happ, rfl⟩⟩
              · simp only [Outcome.bind_eq_done] at hd
                obtain ⟨s₁, h₁, hd⟩ := hd
                obtain ⟨b, hb, rfl⟩ := liftUnit_done h₁
                cases hd
                exact ⟨rfl, .inr ⟨hnone, app, happ, rfl⟩⟩

/-! ### The invariant -/

/-- The components of the names have no separator in them. -/
structure Separated (cfg : Cfg) (s : Server) : Prop where
  cliNamespace : cfg.separator ∉ s.cliNamespace
  cliApp : ∀ app, s.cliAppPtr = some app → cfg.separator ∉ app.name

/-- The names in use are those of numbers up to the last one. -/
structure Numbered (cfg : Cfg) (s : Server) : Prop where
  id_le : s.lastChannelMqId ≤ s.log.countP Event.isChannelTried
  inUse : ∀ name ∈ mqsInUse s.log, ∃ c2s id, name = s.mqName cfg c2s id ∧ id ≤ s.lastChannelMqId
  noCollision : NoCollision s.log

/-- What the record says of the names, and of the namespace they are in. -/
structure MqNames (cfg : Cfg) (s : Server) : Prop where
  app : s.cliNamespace ≠ [] → s.cliAppPtr ≠ none
  lookup : ∀ app, s.cliAppPtr = some app → ∃ name, cfg.cliAppLookup name = some app
  taken : s.log.filterMap Event.takenNamespace =
    if s.cliNamespace = [] then [] else [s.cliNamespace]
  unnamed : s.cliNamespace = [] → s.lastChannelMqId = 0 ∧ ∀ e ∈ s.log, e.isNameless = true
  tried : ∀ c2s name, .mqTried c2s name ∈ s.log → ∃ id, name = s.mqName cfg c2s id
  created : ∀ name, .mqCreated name ∈ s.log → ∃ c2s id, name = s.mqName cfg c2s id
  /-- As long as the number does not wrap around. -/
  numbered : Separated cfg s → s.log.countP Event.isChannelTried < 2 ^ 32 → Numbered cfg s

/-- Whether a separator is in the names is told by the names. -/
theorem Separated.of_naming (h : Separated cfg s') (hn : SameNaming s s') : Separated cfg s :=
  ⟨by rw [← hn.cliNamespace]; exact h.cliNamespace,
    fun app ha => h.cliApp app (by rw [hn.cliAppPtr]; exact ha)⟩

/-- An attempt to make the MQs of a channel, both of whose names are new: no collision, and the
    names are in use afterwards only where both MQs were made. -/
theorem MqsTried.inUse {l es : List Event} {c2s s2c : SharedName} {made : Bool}
    (hno : NoCollision l)
    (hc2s : c2s ∉ mqsInUse l) (hs2c : s2c ∉ mqsInUse l) (hne : c2s ≠ s2c)
    (h : MqsTried c2s s2c es made) :
    NoCollision (l ++ es) ∧ ∀ name ∈ mqsInUse (l ++ es),
      name ∈ mqsInUse l ∨ made = true ∧ (name = c2s ∨ name = s2c) := by
  -- The two names are tried one after the other, each unused when it is.
  have h₁ : NoCollision (l ++ [.mqTried true c2s]) := hno.snoc fun d name he => by
    cases he
    exact hc2s
  have h₂ : NoCollision (l ++ [.mqTried true c2s] ++ [.mqCreated c2s]) := h₁.snoc nofun
  have h₃ : NoCollision (l ++ [.mqTried true c2s] ++ [.mqCreated c2s] ++ [.mqTried false s2c]) := by
    refine h₂.snoc fun d name he => ?_
    cases he
    rw [mqsInUse_snoc, mqsInUse_snoc]
    intro hmem
    rcases List.mem_cons.mp hmem with heq | hmem
    · exact hne heq.symm
    · exact hs2c hmem
  cases h with
  | noC2s =>
    refine ⟨h₁, fun name hmem => .inl ?_⟩
    rw [mqsInUse_snoc] at hmem
    exact hmem
  -- The second failed: the first queue is removed again, so none is left.
  | noS2c =>
    have h₄ := h₃.snoc (e := .mqRemoved c2s) nofun
    simp only [List.append_assoc, List.cons_append, List.nil_append] at h₄
    refine ⟨h₄, fun name hmem => .inl ?_⟩
    have hl : l ++ [.mqTried true c2s, .mqCreated c2s, .mqTried false s2c, .mqRemoved c2s] =
        l ++ [.mqTried true c2s] ++ [.mqCreated c2s] ++ [.mqTried false s2c] ++
          [Event.mqRemoved c2s] := by simp
    rw [hl, mqsInUse_snoc, mqsInUse_snoc, mqsInUse_snoc, mqsInUse_snoc] at hmem
    simp only [useMq, List.mem_filter, decide_eq_true_eq, List.mem_cons] at hmem
    exact hmem.1.resolve_left hmem.2
  | made =>
    have h₄ := h₃.snoc (e := .mqCreated s2c) nofun
    simp only [List.append_assoc, List.cons_append, List.nil_append] at h₄
    refine ⟨h₄, fun name hmem => ?_⟩
    have hl : l ++ [.mqTried true c2s, .mqCreated c2s, .mqTried false s2c, .mqCreated s2c] =
        l ++ [.mqTried true c2s] ++ [.mqCreated c2s] ++ [.mqTried false s2c] ++
          [Event.mqCreated s2c] := by simp
    rw [hl, mqsInUse_snoc, mqsInUse_snoc, mqsInUse_snoc, mqsInUse_snoc] at hmem
    simp only [useMq, List.mem_cons] at hmem
    rcases hmem with rfl | rfl | hmem
    · exact .inr ⟨rfl, .inr rfl⟩
    · exact .inr ⟨rfl, .inl rfl⟩
    · exact .inl hmem

/-- Without MQs there are no names. -/
theorem numbered_of_no_mqs (hid : s.lastChannelMqId = 0) (hlog : ∀ e ∈ s.log, e.isMqUse = false) :
    Numbered cfg s where
  id_le := by rw [hid]; exact Nat.zero_le _
  inUse := fun name hname => by
    have h := mem_mqsInUse_append (l := []) hlog (by simpa using hname)
    cases h
  noCollision := by simpa using noCollision_nil.append hlog

/-- Only the client application is set, or only the log-in request is checked. -/
theorem mqNames_of_no_mqs (hid : s.lastChannelMqId = 0) (hlog : ∀ e ∈ s.log, e.isMqUse = false)
    (happ : s.cliNamespace ≠ [] → s.cliAppPtr ≠ none)
    (hlook : ∀ app, s.cliAppPtr = some app → ∃ name, cfg.cliAppLookup name = some app)
    (htaken : s.log.filterMap Event.takenNamespace =
      if s.cliNamespace = [] then [] else [s.cliNamespace])
    (hnone : s.cliNamespace = [] → ∀ e ∈ s.log, e.isNameless = true) : MqNames cfg s where
  app := happ
  lookup := hlook
  taken := htaken
  unnamed := fun h => ⟨hid, hnone h⟩
  tried := fun c2s name h => by cases hlog _ h
  created := fun name h => by cases hlog _ h
  numbered := fun _ _ => numbered_of_no_mqs hid hlog

/-- Nameless events take no namespace. -/
theorem filterMap_takenNamespace_of_nameless {es : List Event}
    (h : ∀ e ∈ es, e.isNameless = true) : es.filterMap Event.takenNamespace = [] :=
  List.filterMap_eq_nil_iff.mpr fun e he => Event.takenNamespace_of_isNameless (h e he)

/-- Nor do they try to make a channel. -/
theorem countP_isChannelTried_of_nameless {es : List Event}
    (h : ∀ e ∈ es, e.isNameless = true) : es.countP Event.isChannelTried = 0 :=
  List.countP_eq_zero.mpr fun e he => by simp [Event.isChannelTried_of_isNameless (h e he)]

namespace MqNames

/-- No MQ has been made. -/
theorem constructed (srvNamespace : SharedName) : MqNames cfg (constructed srvNamespace) := by
  refine mqNames_of_no_mqs rfl (fun e h => ?_) (fun h => absurd rfl h) (fun app h => ?_) rfl
    fun _ e h => ?_
  · cases h
  · cases h
  · cases h

/-- Nameless code keeps what is known of the MQs. -/
theorem nameless (h : MqNames cfg s) (hk : Nameless s s') : MqNames cfg s' := by
  obtain ⟨hnaming, hid, es, hlog, hes⟩ := hk
  have hname := mqName_eq_of_naming cfg hnaming
  have huse' : ∀ e ∈ es, e.isMqUse = false := fun e he => Event.isMqUse_of_isNameless (hes e he)
  -- An event with a name is of the time before the step.
  have old : ∀ {e : Event}, e.isNameless = false → e ∈ s'.log → e ∈ s.log := by
    intro e he hmem
    rw [hlog] at hmem
    rcases List.mem_append.mp hmem with hmem | hmem
    · exact hmem
    · rw [hes e hmem] at he
      cases he
  refine ⟨?_, ?_, ?_, ?_, ?_, ?_, ?_⟩
  · rw [hnaming.cliNamespace, hnaming.cliAppPtr]
    exact h.app
  · rw [hnaming.cliAppPtr]
    exact h.lookup
  · rw [hlog, List.filterMap_append, filterMap_takenNamespace_of_nameless hes, List.append_nil,
      hnaming.cliNamespace]
    exact h.taken
  · intro hnone
    rw [hnaming.cliNamespace] at hnone
    obtain ⟨hid₀, hall⟩ := h.unnamed hnone
    refine ⟨hid.trans hid₀, fun e he => ?_⟩
    rw [hlog] at he
    exact (List.mem_append.mp he).elim (hall e) (hes e)
  · intro c2s name hmem
    obtain ⟨id, heq⟩ := h.tried c2s name (old rfl hmem)
    exact ⟨id, by rw [hname]; exact heq⟩
  · intro name hmem
    obtain ⟨d, id, heq⟩ := h.created name (old rfl hmem)
    exact ⟨d, id, by rw [hname]; exact heq⟩
  · intro hsep hcount
    rw [hlog, List.countP_append, countP_isChannelTried_of_nameless hes, Nat.add_zero] at hcount
    -- The counter and the names in use are as they were, so the numbering goes on.
    obtain ⟨hle, huse, hno⟩ := h.numbered (hsep.of_naming hnaming) hcount
    refine ⟨?_, fun name hmem => ?_, ?_⟩
    · rw [hid, hlog, List.countP_append]
      exact Nat.le_add_right_of_le hle
    · rw [hlog] at hmem
      obtain ⟨d, id, heq, hid'⟩ := huse name (mem_mqsInUse_append huse' hmem)
      exact ⟨d, id, by rw [hname]; exact heq, by rw [hid]; exact hid'⟩
    · rw [hlog]
      exact hno.append huse'

/-- With the log-in just asked for. -/
theorem fresh (srvNamespace : SharedName) (out : OutArgs) : MqNames cfg (fresh srvNamespace out) :=
  (constructed srvNamespace).nameless (.same ⟨rfl, rfl, rfl⟩ rfl rfl)

/-- A session that makes channels: none of the names it tries is in use. -/
theorem mqs (h : MqNames cfg s) (hsep : cfg.separator.isAlphanum = false)
    (hn : s.cliNamespace ≠ []) (r : ResourceOracle) : MqNames cfg (s.makeChannelMqs cfg r).2 := by
  obtain ⟨es, made, htried, hs⟩ := makeChannelMqs_tried cfg r s
  rw [nextMqName_eq, nextMqName_eq] at htried
  generalize hid : (s.lastChannelMqId + 1) % 2 ^ 32 = id at htried hs
  have hlog : (s.makeChannelMqs cfg r).2.log = s.log ++ es := by rw [hs]
  have hnaming : SameNaming s (s.makeChannelMqs cfg r).2 := by rw [hs]; exact ⟨rfl, rfl, rfl⟩
  have hlast : (s.makeChannelMqs cfg r).2.lastChannelMqId =
      if made then id else s.lastChannelMqId := by rw [hs]
  generalize (s.makeChannelMqs cfg r).2 = s' at hlog hnaming hlast ⊢
  have hname := mqName_eq_of_naming cfg hnaming
  have hcount : es.countP Event.isChannelTried = 1 := by cases htried <;> rfl
  have htaken : es.filterMap Event.takenNamespace = [] := by cases htried <;> rfl
  refine ⟨?_, ?_, ?_, ?_, ?_, ?_, ?_⟩
  · rw [hnaming.cliNamespace, hnaming.cliAppPtr]
    exact h.app
  · rw [hnaming.cliAppPtr]
    exact h.lookup
  · rw [hlog, List.filterMap_append, htaken, List.append_nil, hnaming.cliNamespace]
    exact h.taken
  · rw [hnaming.cliNamespace]
    exact fun hnone => absurd hnone hn
  · intro c2s name hmem
    rw [hlog] at hmem
    rcases List.mem_append.mp hmem with hmem | hmem
    · obtain ⟨i, heq⟩ := h.tried c2s name hmem
      exact ⟨i, by rw [hname]; exact heq⟩
    · refine ⟨id, ?_⟩
      rw [hname]
      cases htried <;> simp at hmem <;> grind
  · intro name hmem
    rw [hlog] at hmem
    rcases List.mem_append.mp hmem with hmem | hmem
    · obtain ⟨d, i, heq⟩ := h.created name hmem
      exact ⟨d, i, by rw [hname]; exact heq⟩
    · have hone : name = s.mqName cfg true id ∨ name = s.mqName cfg false id := by
        cases htried <;> simp at hmem <;> grind
      rcases hone with rfl | rfl
      · exact ⟨true, id, by rw [hname]⟩
      · exact ⟨false, id, by rw [hname]⟩
  · intro hsepd hlt
    rw [hlog, List.countP_append, hcount] at hlt
    have hsepd := hsepd.of_naming hnaming
    obtain ⟨hle, huse, hno⟩ := h.numbered hsepd (by omega)
    have hid : id = s.lastChannelMqId + 1 := by rw [← hid]; omega
    -- the next number is in no name in use
    have hdiff : ∀ {d d' : Bool} {i i' : Nat}, s.mqName cfg d i = s.mqName cfg d' i' →
        d = d' ∧ i = i' := by
      intro d d' i i' heq
      have happ : cfg.separator ∉ (s.cliAppPtr.map (·.name)).getD [] := by
        cases ha : s.cliAppPtr with
        | none => exact List.not_mem_nil
        | some app => exact hsepd.cliApp app ha
      exact (SharedName.channelMqName_injective hsep happ happ hsepd.cliNamespace
        hsepd.cliNamespace heq).2.2
    have hfresh : ∀ d, s.mqName cfg d id ∉ mqsInUse s.log := by
      intro d hmem
      obtain ⟨d', i, heq, hi⟩ := huse _ hmem
      have := (hdiff heq).2
      omega
    have hne : s.mqName cfg true id ≠ s.mqName cfg false id := fun heq => by
      cases (hdiff heq).1
    have hcase := htried.inUse hno (hfresh true) (hfresh false) hne
    refine ⟨?_, fun name hmem => ?_, ?_⟩
    · rw [hlast, hlog, List.countP_append, hcount]
      split <;> omega
    · rw [hlog] at hmem
      rcases hcase.2 name hmem with hold | ⟨hmade, hnew⟩
      · obtain ⟨d, i, heq, hi⟩ := huse name hold
        refine ⟨d, i, by rw [hname]; exact heq, ?_⟩
        rw [hlast]
        split <;> omega
      · rw [hlast, if_pos hmade]
        rcases hnew with rfl | rfl
        · exact ⟨true, id, by rw [hname], Nat.le_refl _⟩
        · exact ⟨false, id, by rw [hname], Nat.le_refl _⟩
    · rw [hlog]
      exact hcase.1

/-- An update that makes MQs gives them the next name, which is new. -/
theorem update (h : MqNames cfg s) (hsep : cfg.separator.isAlphanum = false)
    (hu : Update cfg s l s') : MqNames cfg s' := by
  rcases hu.nameless with hk | ⟨hn, r, rfl⟩
  · exact h.nameless hk
  · exact h.mqs hsep hn r

/-- And so do any number of them. -/
theorem updates (h : MqNames cfg s) (hsep : cfg.separator.isAlphanum = false)
    (hu : Updates cfg L s s') : MqNames cfg s' :=
  hu.keeps h fun _ _ _ ht _ hu => ht.update hsep hu

/-- The log-in request is checked: the session gets its client application, and its namespace. -/
theorem checkLogInReq (h : MqNames cfg s) {r : LogInReq} {e : ErrorCode}
    (hd : s.checkLogInReq cfg r o = .done (e, s')) : MqNames cfg s' ∧
      (SameNaming s s' ∨ s.cliNamespace = [] ∧
        (s'.cliNamespace = [] ∨ s'.cliNamespace = o.cliNamespace)) := by
  obtain ⟨hid, happ⟩ := checkLogInReq_app hd
  rcases happ with ⟨happ, hb⟩ | ⟨hnone, app, hlook, happ⟩
  · have hsame : SameNaming s s' := ⟨by rw [hb], by rw [hb], happ⟩
    exact ⟨h.nameless (.same hsame hid (by rw [hb])), .inl hsame⟩
  · -- no application yet, hence no namespace
    have hns : s.cliNamespace = [] := by
      by_contra hne
      exact h.app hne hnone
    obtain ⟨hid₀, hlog⟩ := h.unnamed hns
    -- The application is one that the table knows.
    have hlook' : ∀ a, s'.cliAppPtr = some a → ∃ name, cfg.cliAppLookup name = some a := by
      intro a ha
      rw [happ] at ha
      cases ha
      exact ⟨_, hlook⟩
    have hsome : s'.cliAppPtr ≠ none := by rw [happ]; exact Option.some_ne_none _
    have htaken := h.taken
    rw [if_pos hns] at htaken
    cases checkLogInReq_done hd with
    -- Rejected after the application was set: no namespace was taken and no queue tried.
    | rejected e hb hl =>
      refine ⟨mqNames_of_no_mqs (hid.trans hid₀) ?_ (fun _ => hsome) hlook' ?_ ?_,
        .inr ⟨hns, .inl (by rw [hb]; exact hns)⟩⟩
      · rw [hb]
        exact fun e he => Event.isMqUse_of_isNameless (hlog e he)
      · rw [hb, if_pos hns]
        exact htaken
      · rw [hb]
        exact fun _ => hlog
    -- Passed: the namespace is taken, and it is the one the server's hook gave.
    | passed hn hname hb hl =>
      have hlog' : s'.log = s.log ++ [.cliNamespaceTaken o.cliNamespace, .preRspSetupRan] := by
        rw [hb]
        simp [Session.record, Session.putCliNamespace]
      have hns' : s'.cliNamespace = o.cliNamespace := by rw [hb]; rfl
      refine ⟨mqNames_of_no_mqs (hid.trans hid₀) ?_ (fun _ => hsome) hlook' ?_ ?_,
        .inr ⟨hns, .inr hns'⟩⟩
      · rw [hlog']
        intro e he
        rcases List.mem_append.mp he with he | he
        · exact Event.isMqUse_of_isNameless (hlog e he)
        · simp only [List.mem_cons, List.not_mem_nil, or_false] at he
          rcases he with rfl | rfl <;> rfl
      · rw [hlog', hns', List.filterMap_append, htaken, if_neg hname]
        rfl
      · rw [hns']
        exact fun habs => absurd habs hname

/-- **What a step makes of the names**: the naming of the session stays, or it gets its
    namespace. -/
theorem step {a : Act} (h : MqNames cfg s) (hp : Phases cfg s) (hn : Server.Named s)
    (hsep : cfg.separator.isAlphanum = false) (hd : step cfg s a = .done s') :
    MqNames cfg s' ∧ (SameNaming s s' ∨ s.cliNamespace = [] ∧
      (s'.cliNamespace = [] ∨ ∃ o, a = .run o ∧ s'.cliNamespace = o.cliNamespace)) := by
  cases step_updates hp hn hd with
  | common hu => exact ⟨h.updates hsep hu, .inl hu.naming⟩
  | acceptLogIn ht hd =>
    have hk := (takeTask_nameless ht).trans (acceptLogIn_nameless hd)
    exact ⟨h.nameless hk, .inl hk.naming⟩
  | @logInReq o b chan m s₁ ht hd =>
    obtain ⟨hw, -, hb⟩ := Session.takeTask_done ht
    have hwb : b.w.isServing = true := by rw [hb, hw]; rfl
    obtain ⟨r, e, s₂, -, hc, hu, -⟩ := onLogInReq_updates hwb hd
    have htake := takeTask_nameless ht
    obtain ⟨h₂, hnaming⟩ := (h.nameless htake).checkLogInReq hc
    refine ⟨h₂.updates hsep hu, ?_⟩
    rcases hnaming with hsame | ⟨hnone, hns⟩
    · exact .inl ((htake.naming.trans hsame).trans hu.naming)
    · refine .inr ⟨htake.naming.cliNamespace.symm.trans hnone, ?_⟩
      rw [hu.naming.cliNamespace]
      rcases hns with hns | hns
      · exact .inl hns
      · exact .inr ⟨o, rfl, hns⟩
  | dtorAct ha =>
    have hk := dtorAct_nameless ha
    exact ⟨h.nameless hk, .inl hk.naming⟩
  | dtorTask ht hb hf =>
    have hk := (takeTask_nameless ht).trans (dtorTask_nameless hb)
    exact ⟨h.nameless hk, .inl hk.naming⟩
  | returned hdt hs =>
    have hk : Nameless s s' := by
      rcases hs with rfl | rfl
      · exact .same ⟨rfl, rfl, rfl⟩ rfl rfl
      · exact .one rfl ⟨rfl, rfl, rfl⟩ rfl rfl
    exact ⟨h.nameless hk, .inl hk.naming⟩

end MqNames

end Server

end IpcSession
