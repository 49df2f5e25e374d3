import IpcSession.SessionServer.Stages

namespace IpcSession

/-!
# Where the sessions and the requests are

* `SessionServer.places` — how often a request is waiting for a socket, with a session, or handled.
* `SessionServer.Owners` — the members of `State` that hold sessions.
* `SessionServer.Accounting` — what is known of the sessions and the requests; every step at a quiet
  time keeps it (`Accounting.step`).
-/

namespace SessionServer

open LogInHandler (isOpen_pending)

variable {cfg : Cfg} {s s' s₁ : SessionServer} {i : Nat} {c c' : Accepted} {t : Thread}

/-! ### The requests -/

/-- The sessions that request `r` is with. -/
def openCount (s : SessionServer) (r : Nat) : Nat :=
  s.sessions.countP fun c => c.request = r && c.handler.isOpen

/-- How often request `r` is waiting for a socket, is with a session, and was handled. -/
def places (s : SessionServer) (r : Nat) : Nat :=
  s.waiting.count r + s.openCount r + s.handled.countP (·.1 = r)

/-- How a change of one session changes a count over all of them. -/
theorem countP_modify {p : Accepted → Bool} {f : Accepted → Accepted} {l : List Accepted}
    (hi : l[i]? = some c) :
    (l.modify i f).countP p + (p c).toNat = l.countP p + (p (f c)).toNat := by
  induction l generalizing i with
  | nil => cases hi
  | cons a l ih =>
    have hcons : ∀ b (l : List Accepted), (b :: l).countP p = l.countP p + (p b).toNat := by
      intro b l
      cases hb : p b <;> simp [hb]
    cases i with
    | zero =>
      cases hi
      rw [List.modify_zero_cons, hcons, hcons]
      omega
    | succ i =>
      have htail := ih (i := i) (by simpa using hi)
      rw [List.modify_succ_cons, hcons, hcons]
      omega

/-- A change that leaves the request where it is. -/
theorem countP_modify_same {p : Accepted → Bool} {f : Accepted → Accepted} {l : List Accepted}
    (hf : ∀ c, p (f c) = p c) : (l.modify i f).countP p = l.countP p := by
  cases hi : l[i]? with
  | none => rw [List.modify_eq_self (List.getElem?_eq_none_iff.mp hi)]
  | some c =>
    have hcount := countP_modify (p := p) (f := f) hi
    rw [hf c] at hcount
    omega

/-- A session that changes stays with its request. -/
theorem openCount_update {f : Accepted → Accepted} (hi : s.sessions[i]? = some c)
    (hreq : (f c).request = c.request) (hopen : (f c).handler.isOpen = c.handler.isOpen) (r : Nat) :
    (s.update i f).openCount r = s.openCount r := by
  have hcount := countP_modify (p := fun c => c.request = r && c.handler.isOpen) (f := f) hi
  simp only [hreq, hopen] at hcount
  exact Nat.add_right_cancel hcount

/-- The members of `State` that hold sessions, and those whose destruction is over. -/
structure Owners (s : SessionServer) : Prop where
  incompleteNodup : s.incompleteSessions.Nodup
  graveyardNodup : s.graveyard.Nodup
  lt : ∀ i, i ∈ s.incompleteSessions ∨ i ∈ s.graveyard ∨ s.wa.holds i = true → i < s.sessions.length
  acceptDone : s.dtor.hasAcceptor = false → s.wa = .idle ∧ s.waiting = []
  sessionsDone : s.dtor = .returned → s.incompleteSessions = []

/-- What is known of the sessions and the requests. -/
structure Accounting (cfg : Cfg) (s : SessionServer) : Prop where
  sessions : SessionsInv cfg s
  inv : ∀ i c, s.sessions[i]? = some c → SessionInv s i c
  owners : Owners s
  /-- Each request is at one place. -/
  places : ∀ r, s.places r = if r < s.requests.length then 1 else 0

/-- There is no session yet to account for. -/
theorem accounting_constructed (srvNamespace : SharedName) (errCodeGiven : Bool) :
    Accounting cfg (constructed srvNamespace errCodeGiven) where
  sessions := sessionsInv_constructed srvNamespace errCodeGiven
  inv := fun i c h => by cases h
  owners := ⟨List.nodup_nil, List.nodup_nil,
    fun i hi => by simp [constructed, AcceptThread.holds] at hi,
    fun h => (by cases h), fun h => (by cases h)⟩
  places := fun r => rfl

namespace Owners

/-- A step in which the members of `State` lose sessions only. -/
theorem shrink (h : Owners s) (hinc : s'.incompleteSessions.Sublist s.incompleteSessions)
    (hgrave : s'.graveyard.Sublist s.graveyard) (hlen : s'.sessions.length = s.sessions.length)
    (hwa : ∀ i, s'.wa.holds i = true → s.wa.holds i = true)
    (hacc : s'.dtor.hasAcceptor = false → s'.wa = .idle ∧ s'.waiting = [])
    (hdone : s'.dtor = .returned → s'.incompleteSessions = []) : Owners s' where
  incompleteNodup := h.incompleteNodup.sublist hinc
  graveyardNodup := h.graveyardNodup.sublist hgrave
  lt := fun i hi => by
    rw [hlen]
    exact h.lt i (hi.imp (fun hi => hinc.subset hi) (Or.imp (fun hi => hgrave.subset hi) (hwa i)))
  acceptDone := hacc
  sessionsDone := hdone

/-- A step that leaves the members of `State` alone. -/
theorem same (h : Owners s) (hinc : s'.incompleteSessions = s.incompleteSessions)
    (hgrave : s'.graveyard = s.graveyard) (hlen : s'.sessions.length = s.sessions.length)
    (hwa : s'.wa = s.wa) (hw : s'.waiting = s.waiting) (hd : s'.dtor = s.dtor) : Owners s' :=
  h.shrink (hinc ▸ List.Sublist.refl _) (hgrave ▸ List.Sublist.refl _) hlen (fun i hi => hwa ▸ hi)
    (fun hacc => by rw [hwa, hw]; exact h.acceptDone (hd ▸ hacc))
    (fun hr => by rw [hinc]; exact h.sessionsDone (hd ▸ hr))

end Owners

/-! ### Every step -/

namespace Accounting

/-- The handler of a log-in moves on by itself. -/
theorem handler (h : Accounting cfg s) {k : LogInHandler} (hi : s.sessions[i]? = some c)
    (hs : SessionsInv cfg (s.update i fun c => { c with handler := k }))
    (hk : SessionInv s i { c with handler := k }) (ho : k.isOpen = c.handler.isOpen) :
    Accounting cfg (s.update i fun c => { c with handler := k }) where
  sessions := hs
  inv := by
    have hc := changeOf_update i (fun c => { c with handler := k }) s
    refine hc.all h.inv (fun j c _ hj => hj.frame Iff.rfl Iff.rfl rfl rfl) fun c₀ hc₀ _ => ?_
    rw [hi, Option.some.injEq] at hc₀
    subst hc₀
    exact hk.frame Iff.rfl Iff.rfl rfl rfl
  owners := h.owners.same rfl rfl (changeOf_update i _ s).length rfl rfl rfl
  places := fun r => by
    show _ = if r < s.requests.length then 1 else 0
    rw [← h.places r, SessionServer.places, openCount_update hi rfl ho]
    rfl

/-- A pointer to session `i` goes in thread `t`, in a step that does nothing else. -/
theorem released (h : Accounting cfg s) (hs : SessionsInv cfg (s₁.release t i))
    (hsess : s₁.sessions = s.sessions) (ho : Owners (s₁.release t i))
    (hplaces : ∀ r, s₁.places r = s.places r) (hreq : s₁.requests = s.requests)
    (hother : ∀ j c, j ≠ i → SessionInv s j c → SessionInv s₁ j c)
    (hi : ∀ c, s.sessions[i]? = some c → SessionInv s i c → c.life = .alive ∧
      Stage (s₁.release t i) i (if s₁.held i = true then c else c.dying t)) :
    Accounting cfg (s₁.release t i) where
  sessions := hs
  inv := by
    have hc := changeOf_release t i s₁
    have hc₁ : ChangeOf i (fun c => if s₁.held i = true then c else c.dying t) s (s₁.release t i) :=
      ⟨fun j hj => (hc.same j hj).trans (by rw [hsess]), hc.changed.trans (by rw [hsess]),
        hc.length.trans (by rw [hsess])⟩
    refine hc₁.all h.inv (fun j c hj hcj => ?_) fun c hci hinv => ?_
    · exact (hother j c hj hcj).frame (by simp) (by simp) (by simp) (by simp)
    · obtain ⟨hl, hstage⟩ := hi c hci hinv
      exact hinv.released (by rw [hsess]; exact hci) hl hstage
  owners := ho
  places := fun r => by
    rw [release_requests, hreq, ← h.places r, ← hplaces r]
    have hsame : (s₁.release t i).openCount r = s₁.openCount r := by
      unfold release
      split
      · rfl
      · refine countP_modify_same fun c => ?_
        split <;> rfl
    simp only [SessionServer.places, release_waiting, release_handled, hsame]

/-- A session is made for a request. -/
theorem accepted (h : Accounting cfg s) {r : Nat} (hr : r ∈ s.waiting) (hw : s.wa = .idle)
    (hd : s.dtor = .notStarted) (hs : SessionsInv cfg { s with
      waiting := s.waiting.erase r
      incompleteSessions := s.sessions.length :: s.incompleteSessions
      wa := .starting s.sessions.length
      sessions := s.sessions ++ [.made s.srvNamespace r] }) :
    Accounting cfg { s with
      waiting := s.waiting.erase r
      incompleteSessions := s.sessions.length :: s.incompleteSessions
      wa := .starting s.sessions.length
      sessions := s.sessions ++ [.made s.srvNamespace r] } where
  sessions := hs
  inv := by
    -- The new session's number is used nowhere yet.
    have hnew : ∀ j, j ∈ s.incompleteSessions ∨ j ∈ s.graveyard ∨ s.wa.holds j = true →
        j ≠ s.sessions.length := fun j hj => Nat.ne_of_lt (h.owners.lt j hj)
    intro j c hj
    by_cases hlt : j < s.sessions.length
    · rw [List.getElem?_append_left hlt] at hj
      refine (h.inv j c hj).frame ?_ Iff.rfl ?_ rfl
      · simp [Nat.ne_of_lt hlt]
      · simp [hw, AcceptThread.holds, (Nat.ne_of_lt hlt).symm]
    · rw [List.getElem?_append_right (Nat.le_of_not_lt hlt), List.getElem?_singleton] at hj
      split at hj
      · cases hj
        obtain rfl : j = s.sessions.length := by omega
        refine ⟨.incomplete (.inl rfl) rfl List.mem_cons_self ?_, ?_, rfl,
          Server.dormant_constructed s.srvNamespace, fun hdt => absurd rfl hdt⟩
        · exact fun hg => hnew _ (.inr (.inl hg)) rfl
        · exact ⟨fun _ => .inl List.mem_cons_self, fun _ => rfl⟩
      · cases hj
  owners := {
    incompleteNodup := List.nodup_cons.mpr
      ⟨fun hi => Nat.lt_irrefl _ (h.owners.lt _ (.inl hi)), h.owners.incompleteNodup⟩
    -- Only the list of incomplete sessions grows, by that number.
    graveyardNodup := h.owners.graveyardNodup
    lt := fun j hj => by
      simp only [List.length_append, List.length_singleton]
      rcases hj with hj | hj | hj
      · rcases List.mem_cons.mp hj with rfl | hj
        · exact Nat.lt_succ_self _
        · exact Nat.lt_succ_of_lt (h.owners.lt j (.inl hj))
      · exact Nat.lt_succ_of_lt (h.owners.lt j (.inr (.inl hj)))
      · have hj : s.sessions.length = j := by simpa [AcceptThread.holds] using hj.symm
        omega
    -- The destructor has not started, so what is owed at its end is not due.
    acceptDone := fun hacc => by
      have hacc : s.dtor.hasAcceptor = false := hacc
      rw [hd] at hacc
      cases hacc
    sessionsDone := fun hr => by
      have hr : s.dtor = .returned := hr
      rw [hd] at hr
      cases hr }
  -- The request moves from the waiting ones to the session made for it.
  places := fun r' => by
    show _ = if r' < s.requests.length then 1 else 0
    rw [← h.places r']
    have hpos := List.count_pos_iff.mpr hr
    simp only [SessionServer.places, openCount, List.countP_append, List.countP_singleton,
      Accepted.made, isOpen_pending, Bool.and_true, decide_eq_true_eq, List.count_erase, beq_iff_eq]
    by_cases hrr : r = r'
    · subst hrr
      simp only [if_true]
      omega
    · simp [hrr]

/-- The handler of a log-in erases the session. -/
theorem erases (h : Accounting cfg s) {e : ErrorCode} (hi : s.sessions[i]? = some c)
    (hh : c.handler = .locked e) (hd : s.dtor = .notStarted)
    (hs : SessionsInv cfg ({ s with incompleteSessions := s.incompleteSessions.erase i }.update i
      fun c => { c with handler := .erased e })) :
    Accounting cfg ({ s with incompleteSessions := s.incompleteSessions.erase i }.update i
      fun c => { c with handler := .erased e }) where
  sessions := hs
  inv := by
    have hc := changeOf_update i (fun c => { c with handler := .erased e })
      { s with incompleteSessions := s.incompleteSessions.erase i }
    refine hc.all h.inv (fun j c hj hcj => ?_)
      fun c₀ hc₀ hinv => ?_
    · exact hcj.frame (List.mem_erase_of_ne hj) Iff.rfl rfl rfl
    · rw [hi, Option.some.injEq] at hc₀
      subst hc₀
      have herased : i ∉ s.incompleteSessions.erase i :=
        h.owners.incompleteNodup.not_mem_erase
      obtain ⟨hm, hmem, hg, -⟩ := hinv.stage.of_locked hh
      refine ⟨.erased e rfl hm herased hg fun _ => hd, ?_, ?_, hinv.dormant, hinv.dtor⟩
      · exact ⟨fun _ => .inr (.inr (.inr (.inl rfl))), fun _ => hinv.life.mpr (.inl hmem)⟩
      · exact Eq.trans (by rw [hh]; rfl) hinv.code
  owners := h.owners.shrink List.erase_sublist (List.Sublist.refl _) (changeOf_update i _ _).length
    (fun _ hj => hj) h.owners.acceptDone (fun hr => by
      have hr : s.dtor = .returned := hr
      rw [hd] at hr
      cases hr)
  places := fun r => by
    show _ = if r < s.requests.length then 1 else 0
    rw [← h.places r, SessionServer.places, openCount_update (by exact hi) rfl (by rw [hh]; rfl)]
    rfl

/-- It hands the session over to the graveyard. -/
theorem buries (h : Accounting cfg s) {e : Err} (hi : s.sessions[i]? = some c)
    (hh : c.handler = .erased (some e))
    (hs : SessionsInv cfg ({ s with graveyard := s.graveyard ++ [i] }.update i
      fun c => { c with handler := .settled (some e) })) :
    Accounting cfg ({ s with graveyard := s.graveyard ++ [i] }.update i
      fun c => { c with handler := .settled (some e) }) := by
  -- An erased session is held by nobody, so its place in the graveyard is its only one.
  obtain ⟨hm, hinc, hg, -⟩ := (h.inv i c hi).stage.of_erased hh
  have hc := changeOf_update i (fun c => { c with handler := .settled (some e) })
    { s with graveyard := s.graveyard ++ [i] }
  refine ⟨hs, ?_, ?_, fun r => ?_⟩
  · refine hc.all h.inv (fun j c hj hcj => ?_)
      fun c₀ hc₀ hinv => ?_
    · exact hcj.frame Iff.rfl (by simp [update, hj]) rfl rfl
    · rw [hi, Option.some.injEq] at hc₀
      subst hc₀
      refine ⟨.failed e (.inl rfl) hm hinc, ?_, ?_, hinv.dormant, hinv.dtor⟩
      · have hl : c.life = .alive := hinv.life.mpr (.inr (.inr (.inr (.inl (by rw [hh]; rfl)))))
        exact ⟨fun _ => .inr (.inl (by simp [update])), fun _ => hl⟩
      · exact Eq.trans (by rw [hh]; rfl) hinv.code
  · refine ⟨h.owners.incompleteNodup, ?_, fun j hj => ?_, h.owners.acceptDone,
      h.owners.sessionsDone⟩
    · exact List.nodup_append.mpr ⟨h.owners.graveyardNodup, by simp, by
        intro j hj k hk
        rw [List.mem_singleton.mp hk]
        exact fun hjk => hg (hjk ▸ hj)⟩
    · rw [hc.length]
      have hj : j ∈ s.incompleteSessions ∨ j ∈ s.graveyard ++ [i] ∨ s.wa.holds j = true := hj
      rcases hj with hj | hj | hj
      · exact h.owners.lt j (.inl hj)
      · rcases List.mem_append.mp hj with hj | hj
        · exact h.owners.lt j (.inr (.inl hj))
        · rw [List.mem_singleton.mp hj]
          exact (List.getElem?_eq_some_iff.mp hi).1
      · exact h.owners.lt j (.inr (.inr hj))
  -- The session has been accounted as ended since its log-in failed.
  · show _ = if r < s.requests.length then 1 else 0
    rw [← h.places r, SessionServer.places, openCount_update (by exact hi) rfl (by rw [hh]; rfl)]
    rfl

/-- It hands the session over to the user. -/
theorem emits (h : Accounting cfg s) (hi : s.sessions[i]? = some c) (hh : c.handler = .erased none)
    (hs : SessionsInv cfg
      (s.update i fun c => { c with handler := .settled none, moved := true })) :
    Accounting cfg (s.update i fun c => { c with handler := .settled none, moved := true }) where
  sessions := hs
  inv := by
    have hc := changeOf_update i (fun c => { c with handler := .settled none, moved := true }) s
    refine hc.all h.inv (fun j c _ hcj => hcj.frame Iff.rfl Iff.rfl rfl rfl)
      fun c₀ hc₀ hinv => ?_
    rw [hi, Option.some.injEq] at hc₀
    subst hc₀
    obtain ⟨-, hinc, -, -⟩ := hinv.stage.of_erased hh
    have hl : c.life = .alive := hinv.life.mpr (.inr (.inr (.inr (.inl (by rw [hh]; rfl)))))
    refine ⟨.emitted (.inl rfl) rfl hinc, ?_, ?_, hinv.dormant, fun _ => .inr rfl⟩
    · exact ⟨fun _ => .inr (.inr (.inr (.inr rfl))), fun _ => hl⟩
    · exact Eq.trans (by rw [hh]; rfl) hinv.code
  owners := h.owners.same rfl rfl (changeOf_update i _ s).length rfl rfl rfl
  places := fun r => by
    show _ = if r < s.requests.length then 1 else 0
    rw [← h.places r, SessionServer.places, openCount_update hi rfl (by rw [hh]; rfl)]
    rfl

/-- It runs the user's handler. -/
theorem handles (h : Accounting cfg s) {e : ErrorCode} (hi : s.sessions[i]? = some c)
    (hh : c.handler = .settled e)
    (hs : SessionsInv cfg ({ s with handled := s.handled ++ [(c.request, e)] }.update i
      fun c => { c with handler := .returned e })) :
    Accounting cfg ({ s with handled := s.handled ++ [(c.request, e)] }.update i
      fun c => { c with handler := .returned e }) where
  sessions := hs
  inv := by
    have hc := changeOf_update i (fun c => { c with handler := .returned e })
      { s with handled := s.handled ++ [(c.request, e)] }
    refine hc.all h.inv
      (fun j c _ hcj => hcj.frame Iff.rfl Iff.rfl rfl rfl) fun c₀ hc₀ hinv => ?_
    rw [hi, Option.some.injEq] at hc₀
    subst hc₀
    have hlife := hinv.life
    obtain ⟨hm, hinc⟩ := hinv.stage.of_settled (.inl hh)
    -- The handler's code is still the one that the session logged.
    have hcode : (LogInHandler.returned e).code = c.server.log.findSome? Event.logInCode :=
      Eq.trans (by rw [hh]; rfl) hinv.code
    cases e with
    | none =>
      refine ⟨.emitted (.inr rfl) hm hinc, ?_, hcode, hinv.dormant, hinv.dtor⟩
      exact ⟨fun _ => .inr (.inr (.inr (.inr hm))),
        fun _ => hlife.mpr (.inr (.inr (.inr (.inr hm))))⟩
    | some e =>
      refine ⟨.failed e (.inr rfl) hm hinc, ?_, hcode, hinv.dormant, hinv.dtor⟩
      rw [hh] at hlife
      exact hlife
  owners := h.owners.same rfl rfl (changeOf_update i _ _).length rfl rfl rfl
  places := fun r => by
    -- One session of `r` stops being open; the handler's call takes its place in the count.
    have hcount := countP_modify (p := fun c => c.request = r && c.handler.isOpen)
      (f := fun c => { c with handler := .returned e }) hi
    have hopen : c.handler.isOpen = true := by rw [hh]; rfl
    have hclosed : (LogInHandler.returned e).isOpen = false := rfl
    simp only [hopen, hclosed, Bool.and_true, Bool.and_false, Bool.toNat_false] at hcount
    show _ = if r < s.requests.length then 1 else 0
    rw [← h.places r]
    simp only [SessionServer.places, openCount, update, List.countP_append, List.countP_singleton]
    by_cases hr : c.request = r
    · simp only [hr, decide_true, Bool.toNat_true, if_true] at hcount ⊢
      omega
    · simp only [hr, decide_false, Bool.toNat_false, Bool.false_eq_true, if_false] at hcount ⊢
      omega

/-- The destructor destroys the next element of `m_incomplete_sessions`. -/
theorem dropped (h : Accounting cfg s) {rest : List Nat} (hd : s.dtor = .droppingSessions)
    (hg : s.incompleteSessions = i :: rest)
    (hs : SessionsInv cfg ({ s with incompleteSessions := rest }.release .user i)) :
    Accounting cfg ({ s with incompleteSessions := rest }.release .user i) := by
  have hnodup := h.owners.incompleteNodup
  rw [hg, List.nodup_cons] at hnodup
  have hidle : s.wa = .idle := (h.owners.acceptDone (by rw [hd]; rfl)).1
  refine h.released hs rfl ?_ (fun _ => rfl) rfl (fun j c hj hcj => ?_) fun c hi hinv => ?_
  · refine h.owners.shrink ?_ ?_ (changeOf_release _ i _).length (fun j hj => by simpa using hj)
      (fun _ => ?_) fun hr => ?_
    · simp [hg]
    · simp
    · simpa using h.owners.acceptDone (by rw [hd]; rfl)
    · rw [release_dtor] at hr
      have hr : s.dtor = .returned := hr
      rw [hd] at hr
      cases hr
  · exact hcj.frame (by simp [hg, hj]) Iff.rfl rfl rfl
  · have hmem : i ∈ s.incompleteSessions := by rw [hg]; exact List.mem_cons_self
    refine ⟨hinv.life.mpr (.inl hmem), ?_⟩
    cases hinv.stage with
    | incomplete hh hm _ hgrave =>
      have hp : c.handler = .pending := by
        rcases hh with hh | ⟨-, hdt⟩
        · exact hh
        · rw [hd] at hdt
          cases hdt
      -- nobody else holds it
      have hheld : held { s with incompleteSessions := rest } i = false := by
        have hiff := held_iff (s := { s with incompleteSessions := rest }) (i := i) (c := c) hi
        rw [Bool.eq_false_iff, Ne, hiff]
        rintro (hr | hr | hr | hr)
        · exact hnodup.1 hr
        · exact hgrave hr
        · have hr : s.wa.holds i = true := hr
          rw [hidle] at hr
          cases hr
        · rw [hp] at hr
          cases hr
      have hc : c.dying .user = { c with life := .dying .user } := by simp [Accepted.dying, hm]
      rw [hheld, if_neg Bool.false_ne_true, hc]
      exact .aborted (.inl hp) rfl hm (by simpa using hnodup.1) (by simpa using hd)
    | aborted _ _ _ hi => exact absurd hmem hi
    | erased _ _ _ hi => exact absurd hmem hi
    | emitted _ _ hi => exact absurd hmem hi
    | failed _ _ _ hi => exact absurd hmem hi

/-- A session that lives is where it is, also if the last pointer to it has just gone. -/
theorem stage_released {s₁ : SessionServer} (h : Stage s₁ i c) (hl : c.life = .alive) :
    Stage (s₁.release t i) i (if s₁.held i = true then c else c.dying t) := by
  have hkeep : Stage (s₁.release t i) i c := by
    refine h.keep (by simp) (by simp) (fun _ hd => by simpa using hd) fun _ hd => by simpa using hd
  split
  · exact hkeep
  · unfold Accepted.dying
    split
    · exact hkeep
    · cases hkeep with
      | incomplete hh hm hi hg => exact .incomplete hh hm hi hg
      | aborted _ hl' => rw [hl] at hl'; cases hl'
      | erased e hh hm hi hg hd => exact .erased e hh hm hi hg hd
      | emitted hh hm hi => exact .emitted hh hm hi
      | failed e hh hm hi => exact .failed e hh hm hi

/-- A task of the graveyard thread, run or destroyed in thread `t`. -/
theorem unburied (h : Accounting cfg s) {rest : List Nat} (hg : s.graveyard = i :: rest)
    (hs : SessionsInv cfg ({ s with graveyard := rest }.release t i)) :
    Accounting cfg ({ s with graveyard := rest }.release t i) := by
  have hnodup := h.owners.graveyardNodup
  rw [hg, List.nodup_cons] at hnodup
  refine h.released hs rfl ?_ (fun _ => rfl) rfl (fun j c hj hcj => ?_) fun c hi hinv => ?_
  · refine h.owners.shrink ?_ ?_ (changeOf_release _ i _).length (fun j hj => by simpa using hj)
      (fun ha => ?_) fun hr => ?_
    · simp
    · simp [hg]
    · simpa using h.owners.acceptDone (by simpa using ha)
    · simpa using h.owners.sessionsDone (by simpa using hr)
  · exact hcj.frame Iff.rfl (by simp [hg, hj]) rfl rfl
  · have hl : c.life = .alive := hinv.life.mpr (.inr (.inl (by rw [hg]; exact List.mem_cons_self)))
    refine ⟨hl, stage_released ?_ hl⟩
    refine hinv.stage.keep Iff.rfl (fun hi => ?_) (fun _ hd => hd) (fun _ hd => hd)
    rw [hg]
    exact List.mem_cons_of_mem i hi

/-- Thread Wa lets go of the session. -/
theorem acceptReturned (h : Accounting cfg s) (hw : s.wa = .returning i)
    (hs : SessionsInv cfg ({ s with wa := .idle }.release .accept i)) :
    Accounting cfg ({ s with wa := .idle }.release .accept i) := by
  refine h.released hs rfl ?_ (fun _ => rfl) rfl (fun j c hj hcj => ?_) fun c hi hinv => ?_
  · refine h.owners.shrink ?_ ?_ (changeOf_release _ i _).length (fun j hj => ?_) (fun ha => ?_)
      fun hr => ?_
    · simp
    · simp
    · simp [AcceptThread.holds] at hj
    · have hidle := (h.owners.acceptDone (by simpa using ha)).1
      rw [hw] at hidle
      cases hidle
    · simpa using h.owners.sessionsDone (by simpa using hr)
  · refine hcj.frame Iff.rfl Iff.rfl ?_ rfl
    simp [hw, AcceptThread.holds, hj.symm]
  · have hl : c.life = .alive :=
      hinv.life.mpr (.inr (.inr (.inl (by simp [hw, AcceptThread.holds]))))
    refine ⟨hl, stage_released ?_ hl⟩
    exact hinv.stage.keep Iff.rfl id (fun _ hd => hd) (fun _ hd => hd)

/-- A step that leaves the sessions and their holders alone. -/
theorem frame (h : Accounting cfg s) (hs : SessionsInv cfg s') (hsess : s'.sessions = s.sessions)
    (hinc : s'.incompleteSessions = s.incompleteSessions) (hgrave : s'.graveyard = s.graveyard)
    (hwa : s'.wa = s.wa)
    (hns : s'.dtor = s.dtor ∨
      ∀ c ∈ s.sessions, c.handler.usesServer = true → s.dtor = .notStarted → s'.dtor = .notStarted)
    (hdrop : s'.dtor = s.dtor ∨
      ∀ c ∈ s.sessions, c.life = .dying .user → s.dtor = .droppingSessions →
        s'.dtor = .droppingSessions)
    (hacc : s'.dtor.hasAcceptor = false → s'.wa = .idle ∧ s'.waiting = [])
    (hdone : s'.dtor = .returned → s'.incompleteSessions = [])
    (hplaces : ∀ r, s'.places r = if r < s'.requests.length then 1 else 0) : Accounting cfg s' where
  sessions := hs
  inv := fun j c hj => by
    rw [hsess] at hj
    have hmem := List.mem_of_getElem? hj
    refine (h.inv j c hj).keep (by rw [hinc]) (by rw [hgrave]) (by rw [hwa]) ?_ ?_
    · rcases hns with hd | hns
      · exact fun _ hn => hd.trans hn
      · exact hns c hmem
    · rcases hdrop with hd | hdrop
      · exact fun _ hn => hd.trans hn
      · exact hdrop c hmem
  owners := h.owners.shrink (by rw [hinc]) (by rw [hgrave]) (by rw [hsess]) (fun i hi => hwa ▸ hi)
    hacc hdone
  places := hplaces

/-- The request of a waiting handler is done. -/
theorem places_aborted (h : Accounting cfg s) {r : Nat} {e : ErrorCode} {waiting : List Nat}
    (hr : ∀ r', s.waiting.count r' = waiting.count r' + if r = r' then 1 else 0) (r' : Nat) :
    SessionServer.places { s with waiting, handled := s.handled ++ [(r, e)] } r' =
      if r' < s.requests.length then 1 else 0 := by
  rw [← h.places r']
  have hcount := hr r'
  simp only [SessionServer.places, openCount, List.countP_append, List.countP_singleton,
    decide_eq_true_eq]
  omega

/-- Thread Wa starts the log-in of a session. -/
theorem logInStarted (h : Accounting cfg s) (hw : s.wa = .starting i)
    (hs : SessionsInv cfg ({ s with wa := .returning i }.update i fun c => { c with
      server := c.server.asyncAcceptLogIn (s.requests.getD c.request ⟨none, none, none⟩) })) :
    Accounting cfg ({ s with wa := .returning i }.update i fun c => { c with
      server := c.server.asyncAcceptLogIn (s.requests.getD c.request ⟨none, none, none⟩) }) := by
  have hc := changeOf_update i (fun c => { c with
    server := c.server.asyncAcceptLogIn (s.requests.getD c.request ⟨none, none, none⟩) })
    { s with wa := .returning i }
  -- Thread Wa held the session before and holds it still.
  have hholds : ∀ j, (AcceptThread.returning i).holds j = s.wa.holds j := by
    intro j
    rw [hw]
    rfl
  refine ⟨hs, hc.all h.inv
    (fun j c _ hcj => hcj.frame Iff.rfl Iff.rfl (hholds j) rfl) fun c hi hinv => ?_, ?_,
      fun r => ?_⟩
  · refine ⟨?_, ?_, hinv.code, ?_, hinv.dtor⟩
    · cases hinv.stage with
      | incomplete hh hm hi hg => exact .incomplete hh hm hi hg
      | aborted hh hl hm hi hd => exact .aborted hh hl hm hi hd
      | erased e hh hm hi hg hd => exact .erased e hh hm hi hg hd
      | emitted hh hm hi => exact .emitted hh hm hi
      | failed e hh hm hi => exact .failed e hh hm hi
    · have hlife := hinv.life
      rw [← hholds i] at hlife
      exact hlife
    · -- the session is as it was made
      have hmade : c.server = Server.constructed s.srvNamespace :=
        h.sessions.made hw (by rw [servers_getElem?, hi]; rfl)
      show Server.Dormant (c.server.asyncAcceptLogIn _)
      rw [hmade]
      exact Server.dormant_fresh s.srvNamespace _
  · refine h.owners.shrink (List.Sublist.refl _) (List.Sublist.refl _) hc.length (fun j hj => ?_)
      (fun ha => ?_) h.owners.sessionsDone
    · rw [← hholds j]
      exact hj
    · have hidle := (h.owners.acceptDone ha).1
      rw [hw] at hidle
      cases hidle
  · show _ = if r < s.requests.length then 1 else 0
    rw [← h.places r]
    simp only [SessionServer.places, openCount, update]
    rw [countP_modify_same]
    intro c
    rfl

/-- A session takes a step. -/
theorem session (h : Accounting cfg s) {a : Server.Act} {server : Server}
    (hi : s.sessions[i]? = some c) (ha : allows c a = true) (hq : s.quiet (.session i a) = true)
    (hd : Server.step cfg c.server (s.withHooks a) = .done server)
    (hs : SessionsInv cfg (s.afterSession i c server)) :
    Accounting cfg (s.afterSession i c server) := by
  -- The session takes steps, so its threads are running and nothing has been destroyed.
  have hrun := h.sessions.running_of_step hi ha hd
  have hinv := (h.inv i c hi).session hrun hi ha hq hd
  have hlt := (List.getElem?_eq_some_iff.mp hi).1
  refine ⟨hs, fun j c' hj => ?_, h.owners.same rfl rfl (by simp [afterSession]) rfl rfl rfl,
    fun r => ?_⟩
  · by_cases hij : i = j
    · subst hij
      simp only [afterSession, List.getElem?_set_self hlt, Option.some.injEq] at hj
      subst hj
      exact hinv
    · simp only [afterSession, List.getElem?_set_ne hij] at hj
      exact (h.inv j c' hj).frame Iff.rfl Iff.rfl rfl rfl
  -- A step of the session does not change whether its log-in handler is still owed.
  · have hsame : (s.afterSession i c server).openCount r = s.openCount r := by
      have hset : (s.afterSession i c server).sessions = s.sessions.modify i fun c => { c with
          server
          handler := ((server.log.drop c.server.log.length).findSome? Event.logInCode).elim
            c.handler
            .entered } := by
        rw [List.modify_eq_set_getElem?, hi]
        rfl
      have hopen := (h.inv i c hi).isOpen_session hrun hd
      have hcount := countP_modify (p := fun c => c.request = r && c.handler.isOpen)
        (f := fun c => { c with
          server
          handler := ((server.log.drop c.server.log.length).findSome? Event.logInCode).elim
            c.handler
            .entered }) hi
      simp only [hopen] at hcount
      simp only [openCount, hset]
      exact Nat.add_right_cancel hcount
    show _ = if r < s.requests.length then 1 else 0
    rw [← h.places r, SessionServer.places, hsame]
    rfl

/-- The destructor of a session returns. -/
theorem destroyed (h : Accounting cfg s) (hi : s.sessions[i]? = some c) (hl : c.life = .dying t)
    (hcode : c.handler.code.isSome = true) (hp : c.handler.inProgress = false)
    (hs : SessionsInv cfg (s.update i fun c => { c with life := .dead t })) :
    Accounting cfg (s.update i fun c => { c with life := .dead t }) := by
  have hc := changeOf_update i (fun c => { c with life := .dead t }) s
  refine ⟨hs, hc.all h.inv (fun j c _ hcj => hcj.frame Iff.rfl Iff.rfl rfl rfl)
    fun c₀ hc₀ hinv => ?_, h.owners.same rfl rfl hc.length rfl rfl rfl, fun r => ?_⟩
  · rw [hi, Option.some.injEq] at hc₀
    subst hc₀
    have hdead : c.life ≠ .alive := by rw [hl]; exact nofun
    refine ⟨?_, ⟨nofun, fun hholder => absurd (hinv.life.mpr hholder) hdead⟩, hinv.code,
      hinv.dormant, fun _ => .inl nofun⟩
    cases hinv.stage with
    | incomplete _ _ hi => exact absurd (hinv.life.mpr (.inl hi)) hdead
    | aborted hh' =>
      rcases hh' with hh' | hh'
      · rw [hh'] at hcode
        cases hcode
      · rw [hh'] at hp
        cases hp
    | erased e hh hm hi hg hd => exact .erased e hh hm hi hg hd
    | emitted hh hm hi => exact .emitted hh hm hi
    | failed e hh hm hi => exact .failed e hh hm hi
  · show _ = if r < s.requests.length then 1 else 0
    rw [← h.places r, SessionServer.places, openCount_update hi rfl rfl]
    rfl

/-- **Every step at a quiet time** keeps what is known of the sessions and the requests. -/
theorem step {a : Act} (h : Accounting cfg s) (hq : s.quiet a = true)
    (hd : SessionServer.step cfg s a = .done s') : Accounting cfg s' := by
  have hs := h.sessions.step hd
  -- Before the destructor starts, the acceptor is still there.
  have notStarted : ∀ {P : Prop}, s.dtor = .notStarted → s.dtor.hasAcceptor = false → P := by
    intro P hn ha
    rw [hn] at ha
    cases ha
  cases Stepped.of_step hd with
  -- A new request `r` joins the requests waiting at the acceptor: it is open and in one place.
  | asyncAccept out hdt =>
    refine h.frame hs rfl rfl rfl rfl (.inl rfl) (.inl rfl) (fun ha => notStarted hdt ha)
      h.owners.sessionsDone fun r => ?_
    have hplaces := h.places r
    simp only [SessionServer.places, openCount, List.count_append, List.count_singleton,
      List.length_append, List.length_singleton, beq_iff_eq] at hplaces ⊢
    split at hplaces <;> split <;> split <;> omega
  -- The acceptor answers `r` with an error: it leaves the waiting requests and is answered.
  | @acceptFailed r e hr ha =>
    refine h.frame hs rfl rfl rfl rfl (.inl rfl) (.inl rfl) (fun ha' => ?_) h.owners.sessionsDone
      (h.places_aborted fun r' => ?_)
    · have ha' : s.dtor.hasAcceptor = false := ha'
      rw [ha] at ha'
      cases ha'
    · have hpos := List.count_pos_iff.mpr hr
      rw [List.count_erase]
      by_cases hrr : r = r'
      · subst hrr
        simp only [beq_self_eq_true, if_true]
        omega
      · simp [hrr]
  | accepted hr hw hdt => exact h.accepted hr hw hdt hs
  | startLogIn hw => exact h.logInStarted hw hs
  | acceptReturn hw => exact h.acceptReturned hw hs
  | session hi ha hstep => exact h.session hi ha hq hstep hs
  -- A handler that finds its session alive is inside the lambda now; the session was incomplete,
  -- since each other stage has its handler somewhere else.
  | @locks i c e hi hh hl =>
    have hinv := h.inv i c hi
    refine h.handler hi hs (hinv.handler ?_ (by rw [hh]; rfl) ?_) (by rw [hh]; rfl)
    · cases hinv.stage with
      | incomplete hh' hm hi hg =>
        rcases hh' with hh' | ⟨-, hd⟩
        · rw [hh] at hh'
          cases hh'
        · exact .incomplete (.inr ⟨⟨e, .inr rfl⟩, hd⟩) hm hi hg
      | aborted _ hl' => rw [hl] at hl'; cases hl'
      | erased e' hh' => rw [hh] at hh'; cases hh'
      | emitted hh' => rw [hh] at hh'; rcases hh' with hh' | hh' <;> cases hh'
      | failed e' hh' => rw [hh] at hh'; rcases hh' with hh' | hh' <;> cases hh'
    · exact ⟨fun _ => .inr (.inr (.inr (.inl rfl))), fun _ => hl⟩
  -- The session is gone already: only a session aborted by the destructor can be, and its handler
  -- then goes on with the failure alone.
  | @misses i c e hi hh hl =>
    have hinv := h.inv i c hi
    have hlife := hinv.life
    rw [hh] at hlife
    cases hinv.stage with
    | incomplete _ _ hi => exact absurd (hinv.life.mpr (.inl hi)) hl
    | aborted hh' _ hm hinc =>
      rw [hh] at hh'
      rcases hh' with hh' | hh' <;> cases hh'
      exact h.handler hi hs (hinv.handler (.failed _ (.inl rfl) hm hinc) (by rw [hh]; rfl) hlife)
        (by rw [hh]; rfl)
    | erased e' hh' => rw [hh] at hh'; cases hh'
    | emitted hh' => rw [hh] at hh'; rcases hh' with hh' | hh' <;> cases hh'
    | failed e' hh' => rw [hh] at hh'; rcases hh' with hh' | hh' <;> cases hh'
  | erases hi hh hdt => exact h.erases hi hh hdt hs
  | buries hi hh hdt => exact h.buries hi hh hs
  | emits hi hh => exact h.emits hi hh hs
  | handles hi hh => exact h.handles hi hh hs
  | graveyardRun hstart hdt hf hg => exact h.unburied hg hs
  | sessionDestroyed hi hl hcode hp => exact h.destroyed hi hl hcode hp hs
  -- `quiet` says that no handler of a log-in is still to use the session server.
  | dtorStart hdt =>
    refine h.frame hs rfl rfl rfl rfl (.inr fun c hmem huse _ => ?_) (.inr fun c _ _ hn => ?_)
      (fun ha => by cases ha) (fun hr => by cases hr) h.places
    · have hno := List.all_eq_true.mp hq c hmem
      rw [huse] at hno
      cases hno
    · rw [hdt] at hn
      cases hn
  -- From here to the end of the destructor only `dtor` moves: nothing is in use and no session is
  -- added.
  | graveyardJoined hdt hf =>
    refine h.frame hs rfl rfl rfl rfl (.inr fun c _ _ hn => ?_) (.inr fun c _ _ hn => ?_)
      (fun ha => by cases ha) (fun hr => by cases hr) h.places
    · rw [hdt] at hn
      cases hn
    · rw [hdt] at hn
      cases hn
  | graveyardTask hdt hf hg => exact h.unburied hg hs
  | graveyardGone hdt hg =>
    refine h.frame hs rfl rfl rfl rfl (.inr fun c _ _ hn => ?_) (.inr fun c _ _ hn => ?_)
      (fun ha => by cases ha) (fun hr => by cases hr) h.places
    · rw [hdt] at hn
      cases hn
    · rw [hdt] at hn
      cases hn
  -- `acceptor` is being destroyed: the request is answered with the abort code.
  | @acceptAborted r rest hdt hw =>
    refine h.frame hs rfl rfl rfl rfl (.inl rfl) (.inl rfl) (fun ha => ?_) h.owners.sessionsDone
      (h.places_aborted fun r' => ?_)
    · have ha : s.dtor.hasAcceptor = false := ha
      rw [hdt] at ha
      cases ha
    · rw [hw, List.count_cons]
      by_cases hrr : r = r' <;> simp [hrr]
  | acceptJoined hdt hi hf hw =>
    refine h.frame hs rfl rfl rfl rfl (.inr fun c _ _ hn => ?_) (.inr fun c _ _ hn => rfl)
      (fun _ => ⟨hi, hw⟩) (fun hr => by cases hr) h.places
    rw [hdt] at hn
    cases hn
  | sessionDropped hdt hf hg => exact h.dropped hdt hg hs
  -- The destructor returns only once every session it held is destroyed.
  | returned hdt hf hg =>
    refine h.frame hs rfl rfl rfl rfl (.inr fun c _ _ hn => ?_) (.inr fun c hmem hl _ => ?_)
      (fun _ => h.owners.acceptDone (by rw [hdt]; rfl)) (fun _ => hg) h.places
    · rw [hdt] at hn
      cases hn
    · have hno := List.all_eq_true.mp hf c hmem
      rw [hl] at hno
      simp at hno

end Accounting

end SessionServer

end IpcSession
