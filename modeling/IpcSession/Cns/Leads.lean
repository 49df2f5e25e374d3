import IpcSession.Cns.Steps

namespace IpcSession

/-!
# Clients find the server that lives

Whatever the opening, the flushing, the checks and the closing come to, in any order of the parties'
steps:

* `Cns.Sound` — **the file holds the beginning of one server's line**, and a client takes whole
  lines only.
* `Cns.Recent` — what holds from the start of the last constructor on, if none is under way before
  it.
* `Cns.Heads` — where a client goes that has read a server's line.
* `Cns.cnsLeads` — no client parses part of a line, and those that read the file find the server
  that has reported success.
-/

/-! ### The file holds the beginning of one line -/

namespace Cns

variable {cfg : Cfg} {app : Owner} {acceptorType : SharedName} {w w' : Cns} {a : Act} {pid : Nat}
  {d d' : ConnectStage} {f f' : CnsFile}

/-- A process with this ID has started to construct a session server. -/
def Started (w : Cns) (pid : Nat) : Prop := ∃ c, .server c ∈ w.parties ∧ c.ownProcessId = pid

/-- What the client has of the file, if anything, is the whole line of a server. -/
def TakesWhole (cfg : Cfg) (acceptorType : SharedName) (w : Cns) : ConnectStage → Prop
  | .unlock (.ok line) => ∃ pid, w.Started pid ∧ line = ownSrvNamespace pid
  | .parse (.ok line) => ∃ pid, w.Started pid ∧ line = ownSrvNamespace pid
  | .finished (.ok name) => ∃ pid, w.Started pid ∧
      name = sessionMasterSocketStreamAcceptorAbsoluteName cfg acceptorType (ownSrvNamespace pid)
  | _ => True

/-- The invariant: **the file holds the beginning of one server's line**, and clients take whole
    lines. -/
structure Sound (cfg : Cfg) (acceptorType : SharedName) (w : Cns) : Prop where
  exclusive : w.Exclusive CnsParty.holds CnsFile.locked
  owns : ∀ p ∈ w.parties, p.Owns w.shared.disk
  pids : ∀ pid, w.Started pid → 0 < pid ∧ pid < 2 ^ 31
  file : ∀ content, w.shared.disk = some content →
    content = [] ∨ ∃ pid, w.Started pid ∧ content <+: cnsContent pid
  clients : ∀ d, .client d ∈ w.parties → w.TakesWhole cfg acceptorType d

/-- Whole PIDs stay so as more processes start. -/
theorem TakesWhole.mono (hs : ∀ pid, w.Started pid → w'.Started pid)
    (h : w.TakesWhole cfg acceptorType d) :
    w'.TakesWhole cfg acceptorType d := by
  unfold TakesWhole at h ⊢
  split <;> first
    | trivial
    | (obtain ⟨pid, hp, hl⟩ := h; exact ⟨pid, hs pid hp, hl⟩)

/-- At boot there is no party, no file and nothing locked. -/
theorem sound_boot : Sound cfg acceptorType boot where
  exclusive := rfl
  owns := fun p hp => by cases hp
  pids := fun pid ⟨c, hc, _⟩ => by cases hc
  file := fun content hc => by cases hc
  clients := fun d hd => by cases hd

/-- A line that is read of such a file is whole. -/
theorem Sound.getline {content line : List Char} {k : Nat} (h : Sound cfg acceptorType w)
    (hd : w.shared.disk = some content) (hl : Connect.getline (content.take k) = .ok line) :
    ∃ pid, w.Started pid ∧ line = ownSrvNamespace pid ∧ content <+: cnsContent pid := by
  have hread : readLine (content.take k) = some line := by
    unfold Connect.getline at hl
    split at hl
    · cases hl
    · rename_i hr
      rw [hr, Except.ok.inj hl]
  rcases h.file content hd with rfl | ⟨pid, hp, hpre⟩
  · rw [List.take_nil] at hread
    cases hread
  · exact ⟨pid, hp, readLine_of_prefix ((List.take_prefix k content).trans hpre) hread, hpre⟩

/-- What a connect attempt takes next is whole, too. -/
theorem Sound.takesWhole (h : Sound cfg acceptorType w) (hd : w.TakesWhole cfg acceptorType d)
    (hm : Connect.Moves cfg acceptorType w.shared d d' f') : w.TakesWhole cfg acceptorType d' := by
  cases hm with
  | opens e => cases e <;> trivial
  | locks hf => trivial
  | readsNot e => trivial
  | @reads content hdisk k =>
    cases hl : Connect.getline (content.take k) with
    | error e => trivial
    | ok line =>
      obtain ⟨pid, hp, hline, -⟩ := h.getline hdisk hl
      exact ⟨pid, hp, hline⟩
  | unlocks line =>
    cases line with
    | error e => trivial
    | ok line => exact hd
  | givesUp e hl => trivial
  | @parses line i hp =>
    obtain ⟨pid, hs, rfl⟩ := hd
    rw [parse_ownSrvNamespace (h.pids pid hs).2] at hp
    cases hp
    exact ⟨pid, hs, rfl⟩

/-- The processes that have started stay so. -/
theorem started_of_step (hd : step cfg app acceptorType w a = .done w') (hs : w.Started pid) :
    w'.Started pid := by
  obtain ⟨c, hc, hpid⟩ := hs
  cases a with
  | startServer pid' =>
    simp only [step, Outcome.bind_eq_done] at hd
    obtain ⟨-, -, hd⟩ := hd
    cases hd
    exact ⟨c, List.mem_append_left _ hc, hpid⟩
  | startConnect =>
    cases hd
    exact ⟨c, List.mem_append_left _ hc, hpid⟩
  | turn i t =>
    obtain ⟨before, p, after, p', r, hw, -, hs, rfl⟩ := Machine.System.turn_done hd
    rw [hw] at hc
    have keep : .server c ∈ before ++ after → Started ⟨before ++ p' :: after, r⟩ pid := by
      intro hm
      refine ⟨c, ?_, hpid⟩
      rcases List.mem_append.mp hm with hm | hm
      · exact List.mem_append_left _ hm
      · exact List.mem_append_right _ (List.mem_cons_of_mem _ hm)
    have turned : p = .server c → Started ⟨before ++ p' :: after, r⟩ pid := by
      rintro rfl
      cases CnsParty.step_moves hs with
      | @server _ c' _ hm =>
        exact ⟨c', List.mem_append_right _ List.mem_cons_self, hm.ownProcessId.trans hpid⟩
      | serverDies => exact ⟨_, List.mem_append_right _ List.mem_cons_self, hpid⟩
    rcases List.mem_append.mp hc with hc | hc
    · exact keep (List.mem_append_left _ hc)
    · rcases List.mem_cons.mp hc with hc | hc
      · exact turned hc.symm
      · exact keep (List.mem_append_right _ hc)

/-- No other process has started in a turn. -/
theorem started_of_turn {i : Nat} {t : CnsTurn}
    (hd : w.turn (CnsParty.step cfg app acceptorType) i t = .done w') (hs : w'.Started pid) :
    w.Started pid := by
  obtain ⟨before, p, after, p', r, hw, -, hs', rfl⟩ := Machine.System.turn_done hd
  obtain ⟨c, hc, hpid⟩ := hs
  unfold Started
  rw [hw]
  rcases List.mem_append.mp hc with hc | hc
  · exact ⟨c, List.mem_append_left _ hc, hpid⟩
  · rcases List.mem_cons.mp hc with hc | hc
    · subst hc
      have hmem : p ∈ before ++ p :: after := List.mem_append_right _ List.mem_cons_self
      cases CnsParty.step_moves hs' with
      | @server c₀ _ _ hm => exact ⟨c₀, hmem, hm.ownProcessId.symm.trans hpid⟩
      | serverDies c₀ => exact ⟨c₀, hmem, hpid⟩
    · exact ⟨c, List.mem_append_right _ (List.mem_cons_of_mem _ hc), hpid⟩

/-- **Every step keeps it.** -/
theorem Sound.step (h : Sound cfg acceptorType w)
    (hd : Cns.step cfg app acceptorType w a = .done w') :
    Sound cfg acceptorType w' := by
  have hstarted : ∀ pid, w.Started pid → w'.Started pid := fun _ => started_of_step hd
  -- A step that leaves the file as it is keeps what is known of it: processes never un-start.
  have hfile : w'.shared.disk = w.shared.disk → ∀ content, w'.shared.disk = some content →
      content = [] ∨ ∃ pid, w'.Started pid ∧ content <+: cnsContent pid := by
    intro heq content hc
    exact (h.file content (heq ▸ hc)).imp id fun ⟨pid, hp, hpre⟩ => ⟨pid, hstarted pid hp, hpre⟩
  cases a with
  -- Joining parties have not read or written anything.
  | startServer pid' =>
    simp only [Cns.step, Outcome.bind_eq_done, Outcome.require_eq_done, Bool.and_eq_true,
      decide_eq_true_eq] at hd
    obtain ⟨-, hpid', hd⟩ := hd
    cases hd
    refine ⟨h.exclusive.join rfl, fun p hp => ?_, fun pid hp => ?_, hfile rfl, fun d hd => ?_⟩
    · rcases List.mem_append.mp hp with hp | hp
      · exact h.owns p hp
      · rw [List.mem_singleton.mp hp]
        intro hw
        cases hw
    · obtain ⟨c, hc, hcp⟩ := hp
      rcases List.mem_append.mp hc with hc | hc
      · exact h.pids pid ⟨c, hc, hcp⟩
      · cases List.mem_singleton.mp hc
        rw [← hcp]
        exact hpid'
    · rcases List.mem_append.mp hd with hd | hd
      · exact (h.clients d hd).mono hstarted
      · cases List.mem_singleton.mp hd
  | startConnect =>
    cases hd
    refine ⟨h.exclusive.join rfl, fun p hp => ?_, fun pid hp => ?_, hfile rfl, fun d hd => ?_⟩
    · rcases List.mem_append.mp hp with hp | hp
      · exact h.owns p hp
      · rw [List.mem_singleton.mp hp]
        trivial
    · obtain ⟨c, hc, hcp⟩ := hp
      rcases List.mem_append.mp hc with hc | hc
      · exact h.pids pid ⟨c, hc, hcp⟩
      · cases List.mem_singleton.mp hc
    · rcases List.mem_append.mp hd with hd | hd
      · exact (h.clients d hd).mono hstarted
      · cases List.mem_singleton.mp hd
        trivial
  -- One operation of one party. Exclusion and ownership come from the mutex; what it writes is a
  -- prefix of its own line.
  | turn i t =>
    have hturn : w.turn (CnsParty.step cfg app acceptorType) i t = .done w' := hd
    obtain ⟨before, p, after, p', r, hw, -, hs, rfl⟩ := Machine.System.turn_done hturn
    have hmem : p ∈ w.parties := hw ▸ List.mem_append_right _ List.mem_cons_self
    refine ⟨h.exclusive.turn CnsParty.step_balanced hturn, ?_, fun pid hp => h.pids pid
      (started_of_turn hturn hp), ?_, ?_⟩
    · exact h.exclusive.turn_owns h.owns (fun hp => CnsParty.Owns.free hp)
        (fun hs hp => CnsParty.step_disk hs hp) (fun ho hs => CnsParty.step_owns ho hs) hturn
    · rcases CnsParty.step_content (h.owns p hmem) hs with heq | hnil | ⟨c, content', rfl, hc, hpre⟩
      · exact hfile heq
      · intro content hc
        exact .inl (Option.some.inj (hc.symm.trans hnil))
      · intro content hcont
        obtain rfl : content = content' := Option.some.inj (hcont.symm.trans hc)
        exact .inr ⟨c.ownProcessId, hstarted _ ⟨c, hmem, rfl⟩, hpre⟩
    · intro d hd
      -- Every other client has read what it had read.
      have old : .client d ∈ before ++ after →
          TakesWhole cfg acceptorType ⟨before ++ p' :: after, r⟩ d := by
        intro hm
        refine (h.clients d ?_).mono hstarted
        rw [hw]
        rcases List.mem_append.mp hm with hm | hm
        · exact List.mem_append_left _ hm
        · exact List.mem_append_right _ (List.mem_cons_of_mem _ hm)
      rcases List.mem_append.mp hd with hd | hd
      · exact old (List.mem_append_left _ hd)
      · rcases List.mem_cons.mp hd with hd | hd
        · subst hd
          cases CnsParty.step_moves hs with
          -- The one that moved: what it takes from a file with a whole line is the line.
          | @client d₀ _ _ hm => exact (h.takesWhole (h.clients d₀ hmem) hm).mono hstarted
          | clientDies => trivial
        · exact old (List.mem_append_right _ hd)

/-! ### Nobody parses part of a line -/

/-- No client takes part of a line, or parts of two, for a PID, and no step fails. -/
structure WholeLines (cfg : Cfg) (app : Owner) (acceptorType : SharedName) (w : Cns) : Prop where
  clients : ∀ d, .client d ∈ w.parties → w.TakesWhole cfg acceptorType d
  safe : ∀ a e, step cfg app acceptorType w a ≠ .failed e

/-- The name space that a server's PID makes passes its assertions. -/
theorem Sound.connect_safe {o : ConnectOracle} {e : Failure} (h : Sound cfg acceptorType w)
    (hd : w.TakesWhole cfg acceptorType d) :
    Connect.step cfg acceptorType d w.shared o ≠ .failed e := by
  intro hf
  unfold Connect.step at hf
  split at hf
  case h_2 =>
    rcases Outcome.bind_eq_failed.mp hf with hf | ⟨-, -, hf⟩
    · exact Outcome.require_ne_failed hf
    · cases hf
  case h_6 line =>
    obtain ⟨pid, hs, rfl⟩ := hd
    obtain ⟨hpos, hlt⟩ := h.pids pid hs
    rw [parse_ownSrvNamespace hlt] at hf
    obtain ⟨hne, hsen⟩ := Client.pidToString_fine (pid : Int)
    have hpid : pidToString (pid : Int) ≠ SharedName.sentinel := by
      intro heq
      have hz := hsen.mp heq
      omega
    simp [Outcome.check, hne, hpid] at hf
  all_goals first
    | cases hf
    | (split at hf <;> cases hf)

/-- The invariant says what is promised of lines. -/
theorem Sound.wholeLines (h : Sound cfg acceptorType w) : WholeLines cfg app acceptorType w where
  clients := h.clients
  safe := fun a e hf => by
    cases a with
    | startServer pid =>
      rcases Outcome.bind_eq_failed.mp hf with hf | ⟨-, -, hf⟩
      · exact Outcome.require_ne_failed hf
      · cases hf
    | startConnect => cases hf
    | turn i t =>
      obtain ⟨p, hmem, hf⟩ := Machine.System.turn_failed hf
      unfold CnsParty.step at hf
      split at hf
      · rcases Outcome.bind_eq_failed.mp hf with hf | ⟨⟨c', f'⟩, -, hf⟩
        · exact Ctor.step_ne_failed hf
        · cases hf
      · rcases Outcome.bind_eq_failed.mp hf with hf | ⟨⟨c', f'⟩, -, hf⟩
        · exact h.connect_safe (h.clients _ hmem) hf
        · cases hf
      all_goals cases hf

/-! ### From the start of a constructor on -/

/-- No constructor is under way. -/
def Settled (w : Cns) : Prop := ∀ c, .server c ∈ w.parties → c.ended = true

/-- What holds from the start of constructor `n`, in the process `pid`, on, so long as no other has
    started: all others are over; and once it has written the file, with no error that it knows of,
    there is the beginning of its line. -/
def Recent (n pid : Nat) (w : Cns) : Prop :=
  ∃ c, w.parties[n]? = some (.server c) ∧ c.ownProcessId = pid ∧
    (∀ i c', i ≠ n → w.parties[i]? = some (.server c') → c'.ended = true) ∧
    (c.stage.written = true → c.ourErrCode = none →
      ∃ content, w.shared.disk = some content ∧ content <+: cnsContent pid)

/-- The steps that start no constructor. -/
def Act.startsServer : Act → Bool
  | startServer _ => true
  | _ => false

/-- A constructor that starts with nobody else at work is the most recent one. -/
theorem recent_of_startServer (hset : w.Settled)
    (hd : step cfg app acceptorType w (.startServer pid) = .done w') :
    w'.Recent w.parties.length pid := by
  simp only [step, Outcome.bind_eq_done] at hd
  obtain ⟨-, -, hd⟩ := hd
  cases hd
  refine ⟨.fresh pid, ?_, rfl, fun i c' hi hc => ?_, fun hw => by cases hw⟩
  · show (w.parties ++ [.server (.fresh pid)])[w.parties.length]? = _
    rw [List.getElem?_append_right (le_refl _), Nat.sub_self]
    rfl
  · have hc : (w.parties ++ [.server (.fresh pid)])[i]? = some (.server c') := hc
    by_cases hlt : i < w.parties.length
    · rw [List.getElem?_append_left hlt] at hc
      exact hset c' (List.mem_of_getElem? hc)
    · rw [List.getElem?_append_right (by omega)] at hc
      obtain ⟨k, hk⟩ : ∃ k, i - w.parties.length = k + 1 := ⟨i - w.parties.length - 1, by omega⟩
      rw [hk] at hc
      cases hc

/-- **Every step keeps it** that starts no constructor. -/
theorem Recent.step {n : Nat} (h : w.Recent n pid) (hs : Sound cfg acceptorType w)
    (ha : a.startsServer = false) (hd : Cns.step cfg app acceptorType w a = .done w') :
    w'.Recent n pid := by
  obtain ⟨c, hn, hpid, hothers, hpub⟩ := h
  cases a with
  | startServer => cases ha
  -- A joining client is no server; the file is as it was.
  | startConnect =>
    cases hd
    refine ⟨c, Machine.System.join_getElem? hn _, hpid, fun i c' hi hc => ?_, hpub⟩
    have hc : (w.parties ++ [.client .openMutex])[i]? = some (.server c') := hc
    by_cases hlt : i < w.parties.length
    · rw [List.getElem?_append_left hlt] at hc
      exact hothers i c' hi hc
    · have hmem := List.mem_of_getElem? (List.getElem?_append_right (Nat.le_of_not_lt hlt) ▸ hc)
      cases List.mem_singleton.mp hmem
  -- The turn is the recent server's own, or another party's.
  | turn i t =>
    have hturn : w.turn (CnsParty.step cfg app acceptorType) i t = .done w' := hd
    obtain ⟨p, p', hp, hstep, hp'⟩ := Machine.System.turn_getElem?_self hturn
    by_cases hi : i = n
    · subst hi
      obtain rfl : p = .server c := Option.some.inj (hp.symm.trans hn)
      -- Its own turn: the other servers have ended and do not move.
      have hrest : ∀ j c', j ≠ i → w'.parties[j]? = some (.server c') → c'.ended = true := by
        intro j c' hj hc
        rw [Machine.System.turn_getElem?_ne hturn (Ne.symm hj)] at hc
        exact hothers j c' hj hc
      have hown := hs.owns _ (List.mem_of_getElem? hn)
      generalize hshared : w'.shared = r at hstep
      cases CnsParty.step_moves hstep with
      | @server _ c' _ hm =>
        refine ⟨c', hp', hm.ownProcessId.trans hpid, hrest, fun hw hc => ?_⟩
        rw [hshared, ← hpid]
        exact hm.published hown (hpid ▸ hpub) hw hc
      | serverDies => exact ⟨_, hp', hpid, hrest, fun hw => by cases hw⟩
    · -- The others are clients, or over: none changes the file.
      have hsame : w'.shared.disk = w.shared.disk ∧ ∀ c', p' = .server c' → c'.ended = true := by
        generalize w'.shared = r at hstep
        cases p with
        | server c₀ =>
          have hended := hothers i c₀ hi hp
          cases t with
          | server o =>
            simp only [CnsParty.step, Outcome.bind_eq_done, Prod.exists] at hstep
            obtain ⟨c₁, f₁, hst, -⟩ := hstep
            exact absurd hst (Ctor.step_of_ended hended)
          | client o => cases hstep
          | die =>
            cases hstep
            exact ⟨rfl, fun c' hc => by cases hc; rfl⟩
        | client d =>
          cases CnsParty.step_moves hstep with
          | client hm => exact ⟨hm.disk, fun c' hc => by cases hc⟩
          | clientDies => exact ⟨rfl, fun c' hc => by cases hc⟩
      refine ⟨c, ?_, hpid, fun j c' hj hc => ?_, ?_⟩
      · rw [Machine.System.turn_getElem?_ne hturn hi]
        exact hn
      · by_cases hij : j = i
        · subst hij
          exact hsame.2 c' (Option.some.inj (hp'.symm.trans hc))
        · rw [Machine.System.turn_getElem?_ne hturn (Ne.symm hij)] at hc
          exact hothers j c' hj hc
      · rw [hsame.1]
        exact hpub

/-! ### Clients that read the file -/

/-- Client `i` has the line of the server in the process `pid`, and goes on to connect to it. -/
def Heads (cfg : Cfg) (acceptorType : SharedName) (i pid : Nat) (w : Cns) : Prop :=
  w.parties[i]? = some (.client (.unlock (.ok (ownSrvNamespace pid)))) ∨
  w.parties[i]? = some (.client (.parse (.ok (ownSrvNamespace pid)))) ∨
  w.parties[i]? = some (.client (.finished (.ok
    (sessionMasterSocketStreamAcceptorAbsoluteName cfg acceptorType (ownSrvNamespace pid))))) ∨
  ∃ holding, w.parties[i]? = some (.client (.dead holding))

/-- It stays ahead of those that start later, with a PID that fits a `pid_t`. -/
theorem Heads.step {i : Nat} (h : w.Heads cfg acceptorType i pid) (hp : pid < 2 ^ 31)
    (hd : Cns.step cfg app acceptorType w a = .done w') : w'.Heads cfg acceptorType i pid := by
  have keep : (∀ p, w.parties[i]? = some p → w'.parties[i]? = some p) →
      w'.Heads cfg acceptorType i pid := by
    intro hk
    exact h.imp (hk _) (.imp (hk _) (.imp (hk _) fun ⟨b, hb⟩ => ⟨b, hk _ hb⟩))
  cases a with
  | startServer pid' =>
    simp only [Cns.step, Outcome.bind_eq_done] at hd
    obtain ⟨-, -, hd⟩ := hd
    cases hd
    exact keep fun p hi => Machine.System.join_getElem? hi _
  | startConnect =>
    cases hd
    exact keep fun p hi => Machine.System.join_getElem? hi _
  | turn j t =>
    have hturn : w.turn (CnsParty.step cfg app acceptorType) j t = .done w' := hd
    by_cases hj : j = i
    · subst hj
      obtain ⟨p, p', hi, hstep, hi'⟩ := Machine.System.turn_getElem?_self hturn
      generalize w'.shared = r at hstep
      -- its own step, from one stage to the next
      rcases h with h | h | h | ⟨b, h⟩ <;> obtain rfl := Option.some.inj (hi.symm.trans h)
      · cases CnsParty.step_moves hstep with
        | client hm =>
          cases hm with
          | unlocks => exact .inr (.inl hi')
        | clientDies => exact .inr (.inr (.inr ⟨_, hi'⟩))
      · cases CnsParty.step_moves hstep with
        | client hm =>
          cases hm with
          | givesUp e hl =>
            have hparse := hl _ rfl
            rw [parse_ownSrvNamespace hp] at hparse
            cases hparse
          | parses hparse =>
            rw [parse_ownSrvNamespace hp] at hparse
            cases hparse
            exact .inr (.inr (.inl hi'))
        | clientDies => exact .inr (.inr (.inr ⟨_, hi'⟩))
      · cases CnsParty.step_moves hstep with
        | client hm => cases hm
        | clientDies => exact .inr (.inr (.inr ⟨_, hi'⟩))
      · cases CnsParty.step_moves hstep with
        | client hm => cases hm
        | clientDies => exact .inr (.inr (.inr ⟨_, hi'⟩))
    · exact keep fun p hi => (Machine.System.turn_getElem?_ne hturn hj).trans hi

/-- A client that reads the file here, and gets a line of it, connects to `name` if to anything,
    whatever comes after. -/
def ReadsLeadTo (cfg : Cfg) (app : Owner) (acceptorType name : SharedName) (w : Cns) : Prop :=
  ∀ i o w₁ line, w.parties[i]? = some (.client .read) →
    step cfg app acceptorType w (.turn i (.client o)) = .done w₁ →
    w₁.parties[i]? = some (.client (.unlock (.ok line))) →
    ∀ w₂ res, Machine.Reaches (step cfg app acceptorType) Machine.anyStep w₁ w₂ →
      w₂.parties[i]? = some (.client (.finished res)) → res = .ok name

/-- Once it has succeeded, a connect reads its PID and goes where it listens. -/
theorem Recent.readsLeadTo {n : Nat} {c : Ctor} (h : w.Recent n pid) (hs : Sound cfg acceptorType w)
    (hn : w.parties[n]? = some (.server c)) (hc : c.succeeded = true) :
    w.ReadsLeadTo cfg app acceptorType (c.listensOn cfg acceptorType) := by
  intro i o w₁ line hi hd hi₁ w₂ res hr hres
  obtain ⟨c', hn', hpid, -, hpub⟩ := h
  obtain rfl : c' = c := by
    have hcc := Option.some.inj (hn'.symm.trans hn)
    cases hcc
    rfl
  simp only [Ctor.succeeded, Bool.and_eq_true, decide_eq_true_eq, Option.isNone_iff_eq_none] at hc
  obtain ⟨content, hdisk, hpre⟩ := hpub (by rw [hc.1]; rfl) hc.2
  have hlt : pid < 2 ^ 31 := (hs.pids pid ⟨c', List.mem_of_getElem? hn, hpid⟩).2
  -- What the client has read is the line of this server.
  have hline : line = ownSrvNamespace pid := by
    obtain ⟨p, p', hp, hstep, hp'⟩ := Machine.System.turn_getElem?_self
      (show w.turn (CnsParty.step cfg app acceptorType) i (.client o) = .done w₁ from hd)
    obtain rfl := Option.some.inj (hp.symm.trans hi)
    obtain rfl := Option.some.inj (hp'.symm.trans hi₁)
    generalize w₁.shared = r at hstep
    cases CnsParty.step_moves hstep with
    | client hm =>
      generalize hl : Except.ok line = got at hm
      cases hm with
      | readsNot e => cases hl
      | @reads content' hd' k =>
        obtain rfl : content' = content := Option.some.inj (hd'.symm.trans hdisk)
        unfold Connect.getline at hl
        split at hl
        · cases hl
        · rename_i hread
          cases hl
          exact readLine_of_prefix ((List.take_prefix k content').trans hpre) hread
  have hheads : w₂.Heads cfg acceptorType i pid :=
    hr.invariant (P := fun w => w.Heads cfg acceptorType i pid) (.inl (hline ▸ hi₁))
      fun _ _ _ hw _ hd => Heads.step hw hlt hd
  have hname : c'.listensOn cfg acceptorType =
      sessionMasterSocketStreamAcceptorAbsoluteName cfg acceptorType (ownSrvNamespace pid) := by
    unfold Ctor.listensOn
    rw [hpid]
  rw [hname]
  rcases hheads with h | h | h | ⟨b, h⟩ <;> cases hres.symm.trans h
  rfl

/-- **The file leads clients to the server that lives.** In no run does a client take part of a
    line, or parts of two, for a PID; and from the time a constructor has reported success, having
    started while no other was under way, to the start of the next one, a client that gets a line
    out of the file goes on to connect to what this server listens on. -/
theorem cnsLeads (cfg : Cfg) (app : Owner) (acceptorType : SharedName) :
    (∀ w, Machine.Reaches (step cfg app acceptorType) Machine.anyStep boot w →
      WholeLines cfg app acceptorType w) ∧
    ∀ w₁ w₂ w₃ pid c, Machine.Reaches (step cfg app acceptorType) Machine.anyStep boot w₁ →
      w₁.Settled →
      step cfg app acceptorType w₁ (.startServer pid) = .done w₂ →
      Machine.Reaches (step cfg app acceptorType) (fun _ a => a.startsServer = false) w₂ w₃ →
      w₃.parties[w₁.parties.length]? = some (.server c) → c.succeeded = true →
      w₃.ReadsLeadTo cfg app acceptorType (c.listensOn cfg acceptorType) := by
  have sound : ∀ {w}, Machine.Reaches (step cfg app acceptorType) Machine.anyStep boot w →
      Sound cfg acceptorType w :=
    fun hr => hr.invariant sound_boot fun _ _ _ hw _ hd => hw.step hd
  refine ⟨fun w hr => (sound hr).wholeLines, fun w₁ w₂ w₃ pid c hr₁ hset hd hr hn hc => ?_⟩
  have hs₂ : Sound cfg acceptorType w₂ := (sound hr₁).step hd
  have hinv : Sound cfg acceptorType w₃ ∧ w₃.Recent w₁.parties.length pid :=
    hr.invariant (P := fun w => Sound cfg acceptorType w ∧ w.Recent w₁.parties.length pid)
      ⟨hs₂, recent_of_startServer hset hd⟩
      fun _ _ _ hw ha hd => ⟨hw.1.step hd, hw.2.step hw.1 ha hd⟩
  exact hinv.2.readsLeadTo hinv.1 hn hc

/-- A client is about to read the file that this server has written. -/
def readsNext (w : Cns) : Bool :=
  match w.parties with
  | [.server c, .client .read] => c.succeeded && w.shared.disk = some ['7', '\n']
  | _ => false

/-- A server in process 7 starts, and a client is about to read the file. -/
theorem cnsLeads_sample :
    ∃ (w : Cns) (c : Ctor), w.parties[0]? = some (.server c) ∧ c.succeeded = true ∧
    w.parties[1]? = some (.client .read) ∧ w.shared.disk = some ['7', '\n'] ∧
    w.ReadsLeadTo .sample ⟨1, 1⟩ ['a'] (c.listensOn .sample ['a']) := by
  let w₂ : Cns := boot.join (.server (.fresh 7))
  let serverStep : Act :=
    .turn 0 (.server { ownCreds := ⟨1, 1⟩, fstat := .ok ⟨1, 1⟩, written := 2 })
  obtain ⟨w, hr, hw⟩ := Machine.Reaches.exists_of_run
    (Machine.guarded (fun _ a => !Act.startsServer a) (step .sample ⟨1, 1⟩ ['a'])) w₂
    (List.replicate 11 serverStep ++ [.startConnect, .turn 1 (.client {}), .turn 1 (.client {})])
    readsNext (by decide)
  have hr := hr.of_guarded.mono fun _ a ha => (Bool.not_eq_true' _).mp ha
  unfold readsNext at hw
  split at hw
  · rename_i c hp
    have hn : w.parties[0]? = some (.server c) := by rw [hp]; rfl
    have hi : w.parties[1]? = some (.client .read) := by rw [hp]; rfl
    obtain ⟨hc, hdisk⟩ := Bool.and_eq_true_iff.mp hw
    refine ⟨w, c, hn, hc, hi, of_decide_eq_true hdisk, ?_⟩
    exact (cnsLeads .sample ⟨1, 1⟩ ['a']).2 boot w₂ w 7 c .refl (fun c hc => by cases hc)
      rfl hr hn hc
  · cases hw

end Cns

end IpcSession
