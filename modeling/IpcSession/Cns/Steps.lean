import IpcSession.Cns.Model

namespace IpcSession

/-!
# Steps on the Current Namespace Store

* `readLine_of_prefix` — what is read of the beginning of a server's line is all of it but the
  newline.
* `Ctor.Moves`, `Connect.Moves`, `CnsParty.Moves` — what a step does; each invariant is read off
  these.
* `CnsParty.step_balanced`, `step_disk` — the mutex is taken and given back, and guards the file.
* `CnsParty.Owns` — what a party that has the mutex knows of the file.
* `CnsParty.step_content` — **what is in the file after a step**.
* `Ctor.Moves.published` — what a constructor that reports success has left in the file.
-/

/-! ### Lines -/

/-- What is read up to a newline of the beginning of a server's line is the server's namespace. -/
theorem readLine_of_prefix {pid : Nat} {content line : List Char} (h : content <+: cnsContent pid)
    (hl : readLine content = some line) : line = ownSrvNamespace pid := by
  obtain ⟨rest, hrest⟩ := h
  obtain ⟨tail, rfl, hnot⟩ := readLine_eq_some_iff.mp hl
  have hns : '\n' ∉ ownSrvNamespace pid := by
    show '\n' ∉ pidToString pid
    rw [pidToString_natCast]
    exact (digits_toDigits pid).newline_not_mem
  have heq : line ++ '\n' :: (tail ++ rest) = ownSrvNamespace pid ++ '\n' :: [] := by
    rw [← List.cons_append, ← List.append_assoc, hrest]
    rfl
  exact (SharedName.component_injective hnot hns heq).1

/-- It parses, and its PID makes the server's namespace again. -/
theorem parse_ownSrvNamespace {pid : Nat} (hp : pid < 2 ^ 31) :
    Connect.parse (ownSrvNamespace pid) = .ok (pid : Int) := by
  have hparse : parsePid (ownSrvNamespace pid) = some (pid : Int) := by
    refine parsePid_eq_some_iff.mpr ⟨?_, by omega, by omega⟩
    show Represents (pidToString pid) pid
    rw [pidToString_natCast]
    exact .digits (digits_toDigits pid)
  unfold Connect.parse
  rw [hparse]

/-! ### What a step of the constructor does -/

namespace CtorStage

/-- Between opening the file and closing it. -/
def writing : CtorStage → Bool
  | flush | checkOwner | setPermissions | write | close => true
  | _ => false

/-- The file has been closed. -/
def written : CtorStage → Bool
  | unlock | listen | returned => true
  | _ => false

/-- A constructor writes inside the critical section only. -/
theorem holds_of_writing {t : CtorStage} (h : t.writing = true) : t.holds = true := by
  cases t <;> first | rfl | cases h

end CtorStage

namespace Ctor

variable {app : Owner} {c c' : Ctor} {f f' : CnsFile} {o : CtorOracle}

/-- What a step of the constructor does. -/
inductive Moves (c : Ctor) (f : CnsFile) : Ctor → CnsFile → Prop
  /-- It does without the file and the mutex; if it is past writing, an error stays one. -/
  | apart (hs : c.stage.holds = false) {t : CtorStage} (ht : t.holds = false) {code : CtorCode}
      (hc : t.written = true → code = none → c.stage.written = true ∧ c.ourErrCode = none) :
      Moves c f { c with stage := t, ourErrCode := code } f
  | locks (hs : c.stage = .lock) (hf : f.locked = false) :
      Moves c f { c with stage := .openFile } { f with locked := true }
  /-- The file cannot be opened. -/
  | opensNot (hs : c.stage = .openFile) (created : Bool) :
      Moves c f { c with weCreatedCns := created, stage := .flush, cnsFile := .unopened } f
  | opens (hs : c.stage = .openFile) (created : Bool) :
      Moves c f { c with weCreatedCns := created, stage := .flush, cnsFile := ⟨true, true, []⟩ }
        { f with disk := some [] }
  | flushes (hs : c.stage = .flush) (k : Nat) (ok : Bool) :
      Moves c f { c with cnsFile := c.cnsFile.flushed ok, stage := .checkOwner }
        { f with disk := c.cnsFile.spill k f.disk }
  /-- A check, after which it has this code. -/
  | checks (hs : c.stage = .checkOwner ∨ c.stage = .setPermissions) {t : CtorStage}
      (ht : t = .setPermissions ∨ t = .write) (code : CtorCode) :
      Moves c f { c with ourErrCode := code, stage := t } f
  /-- It does not write, for an error. -/
  | writesNot (hs : c.stage = .write) (hc : c.ourErrCode.isSome = true) :
      Moves c f { c with stage := .close } f
  | writes (hs : c.stage = .write) {code : CtorCode}
      (hg : code = none → (c.cnsFile.put (cnsContent c.ownProcessId)).good = true) :
      Moves c f { c with
        cnsFile := c.cnsFile.put (cnsContent c.ownProcessId)
        ourErrCode := code
        stage := .close } f
  | closes (hs : c.stage = .close) (k : Nat) :
      Moves c f { c with cnsFile := .unopened, stage := .unlock }
        { f with disk := c.cnsFile.spill k f.disk }
  | unlocks (hs : c.stage = .unlock) : Moves c f { c with stage := .listen }
      { f with locked := false }

/-- What a step of a constructor does. -/
theorem step_moves (hd : c.step app f o = .done (c', f')) : Moves c f c' f' := by
  unfold step at hd
  split at hd
  case h_1 hs =>
    -- An error at the start leads past the file, which is not success.
    split at hd
    · cases hd
      exact .apart (by rw [hs]; rfl) rfl fun _ hn => by cases hn
    · cases hd
      exact .apart (by rw [hs]; rfl) rfl fun hn => by cases hn
  case h_2 hs =>
    split at hd
    · cases hd
      exact .apart (by rw [hs]; rfl) rfl fun _ hn => by cases hn
    · cases hd
      exact .apart (by rw [hs]; rfl) rfl fun hn => by cases hn
  case h_3 hs =>
    simp only [Outcome.bind_eq_done, Outcome.require_eq_done, Bool.not_eq_true'] at hd
    obtain ⟨-, hf, hd⟩ := hd
    cases hd
    -- The mutex was free, so this process has it now.
    exact .locks hs hf
  case h_4 hs =>
    simp only at hd
    split at hd
    · cases hd
      exact .opensNot hs _
    · cases hd
      exact .opens hs _
  case h_5 hs =>
    cases hd
    exact .flushes hs _ _
  case h_6 hs =>
    cases hd
    exact .checks (.inl hs) (.inl rfl) _
  case h_7 hs =>
    cases hd
    exact .checks (.inr hs) (.inr rfl) _
  case h_8 hs =>
    split at hd
    · rename_i hc
      cases hd
      exact .writesNot hs hc
    · cases hd
      -- Writing is reached only with a checked file.
      refine .writes hs fun hn => ?_
      by_contra hg
      rw [if_neg hg] at hn
      cases hn
  case h_9 hs =>
    cases hd
    exact .closes hs _
  case h_10 hs =>
    cases hd
    exact .unlocks hs
  case h_11 hs =>
    cases hd
    refine .apart (by rw [hs]; rfl) rfl fun _ hn => ⟨by rw [hs]; rfl, ?_⟩
    -- The last stage keeps the error it found, so success means there was none.
    by_contra hc
    rw [if_neg fun h => hc (Option.isNone_iff_eq_none.mp h)] at hn
    exact hc hn
  case h_12 => cases hd
  case h_13 => cases hd

/-- No step changes the PID of the process. -/
theorem Moves.ownProcessId (h : Moves c f c' f') : c'.ownProcessId = c.ownProcessId := by
  cases h <;> rfl

end Ctor

/-! ### The mutex and the file -/

namespace Connect

variable {cfg : Cfg} {acceptorType : SharedName} {c c' : ConnectStage} {f f' : CnsFile}
    {o : ConnectOracle}

/-- What a step of a connect attempt does. -/
inductive Moves (cfg : Cfg) (acceptorType : SharedName) (f : CnsFile) :
    ConnectStage → ConnectStage → CnsFile → Prop
  | opens (e : ErrorCode) :
      Moves cfg acceptorType f .openMutex (e.elim .lock (.finished <| .error ·)) f
  | locks (hf : f.locked = false) : Moves cfg acceptorType f .lock .read { f with locked := true }
  | readsNot (e : Err) : Moves cfg acceptorType f .read (.unlock (.error e)) f
  | reads {content : List Char} (hd : f.disk = some content) (k : Nat) :
      Moves cfg acceptorType f .read (.unlock (getline (content.take k))) f
  | unlocks (line : Except Err (List Char)) :
      Moves cfg acceptorType f (.unlock line) (.parse line) { f with locked := false }
  | givesUp {line : Except Err (List Char)} (e : Err)
      (hl : ∀ l, line = .ok l → parse l = .error e) :
      Moves cfg acceptorType f (.parse line) (.finished (.error e)) f
  | parses {line : List Char} {pid : Int} (hp : parse line = .ok pid) :
      Moves cfg acceptorType f (.parse (.ok line))
        (.finished (.ok (sessionMasterSocketStreamAcceptorAbsoluteName cfg acceptorType
          (pidToString pid)))) f

/-- What a step of a connect attempt does. -/
theorem step_moves (hd : step cfg acceptorType c f o = .done (c', f')) :
    Moves cfg acceptorType f c c' f' := by
  unfold step at hd
  split at hd
  case h_1 =>
    split at hd
    · rename_i e _
      cases hd
      exact .opens (some e)
    · cases hd
      exact .opens none
  case h_2 =>
    simp only [Outcome.bind_eq_done, Outcome.require_eq_done, Bool.not_eq_true'] at hd
    obtain ⟨-, hf, hd⟩ := hd
    cases hd
    exact .locks hf
  case h_3 =>
    split at hd
    · cases hd
      exact .readsNot _
    · rename_i hdisk
      cases hd
      exact .reads hdisk _
    · cases hd
  case h_4 =>
    cases hd
    exact .unlocks _
  case h_5 =>
    cases hd
    exact .givesUp _ fun l hl => by cases hl
  case h_6 line =>
    split at hd
    · rename_i e hp
      cases hd
      exact .givesUp e fun l hl => by cases hl; exact hp
    · rename_i pid hp
      simp only [Outcome.bind_eq_done, Outcome.check_eq_done] at hd
      obtain ⟨-, -, hd⟩ := hd
      cases hd
      exact .parses hp
  case h_7 => cases hd
  case h_8 => cases hd

/-- It changes nothing in the file. -/
theorem Moves.disk (h : Moves cfg acceptorType f c c' f') : f'.disk = f.disk := by
  cases h <;> rfl

end Connect

namespace CnsParty

variable {cfg : Cfg} {app : Owner} {acceptorType : SharedName} {p p' : CnsParty} {f f' : CnsFile}
  {t : CnsTurn} {c : Ctor} {d : ConnectStage} {disk disk' : Option (List Char)}

/-- What a party's turn does. -/
inductive Moves (cfg : Cfg) (acceptorType : SharedName) (f : CnsFile) :
    CnsParty → CnsParty → CnsFile → Prop
  | server {c c' : Ctor} {f' : CnsFile} (h : c.Moves f c' f') :
      Moves cfg acceptorType f (.server c) (.server c') f'
  | client {c c' : ConnectStage} {f' : CnsFile} (h : Connect.Moves cfg acceptorType f c c' f') :
      Moves cfg acceptorType f (.client c) (.client c') f'
  | serverDies (c : Ctor) :
      Moves cfg acceptorType f (.server c) (.server { c with stage := .dead c.stage.holds }) f
  | clientDies (c : ConnectStage) : Moves cfg acceptorType f (.client c) (.client (.dead c.holds)) f

/-- What a step of either does. -/
theorem step_moves (hd : p.step cfg app acceptorType f t = .done (p', f')) :
    Moves cfg acceptorType f p p' f' := by
  unfold step at hd
  split at hd
  case h_1 =>
    simp only [Outcome.bind_eq_done, Prod.exists] at hd
    obtain ⟨c', f₁, hs, hd⟩ := hd
    cases hd
    exact .server (Ctor.step_moves hs)
  case h_2 =>
    simp only [Outcome.bind_eq_done, Prod.exists] at hd
    obtain ⟨c', f₁, hs, hd⟩ := hd
    cases hd
    exact .client (Connect.step_moves hs)
  case h_3 =>
    cases hd
    exact .serverDies _
  case h_4 =>
    cases hd
    exact .clientDies _
  case h_5 => cases hd

/-- The mutex is taken and given back with what the party has. -/
theorem step_balanced :
    Machine.System.Balanced holds CnsFile.locked (step cfg app acceptorType) := by
  intro p f t p' f' hl hd
  cases step_moves hd with
  | serverDies c => rfl
  | clientDies c => rfl
  | @server c c' f' h =>
    show c'.stage.holds.toNat + f.locked.toNat = c.stage.holds.toNat + f'.locked.toNat
    cases h with
    | apart hs ht hc => rw [hs, ht]
    | locks hs hf => rw [hs, hf]; rfl
    | opensNot hs => rw [hs]; rfl
    | opens hs => rw [hs]; rfl
    | flushes hs => rw [hs]; rfl
    | checks hs ht => rcases hs with hs | hs <;> rcases ht with rfl | rfl <;> rw [hs] <;> rfl
    | writesNot hs => rw [hs]; rfl
    | writes hs => rw [hs]; rfl
    | closes hs => rw [hs]; rfl
    | unlocks hs =>
      have hl : f.locked = true := hl (show c.stage.holds = true by rw [hs]; rfl)
      rw [hs, hl]
      rfl
  | @client c c' f' h =>
    show c'.holds.toNat + f.locked.toNat = c.holds.toNat + f'.locked.toNat
    cases h with
    | opens e => cases e <;> rfl
    | locks hf => rw [hf]; rfl
    | unlocks line =>
      have hl : f.locked = true := hl rfl
      rw [hl]
      rfl
    | _ => rfl

/-- Without the mutex the file is left alone. -/
theorem step_disk (hd : p.step cfg app acceptorType f t = .done (p', f')) (hp : p.holds = false) :
    f'.disk = f.disk := by
  cases step_moves hd with
  | serverDies c => rfl
  | clientDies c => rfl
  | client h => exact h.disk
  | @server c c' f' h =>
    have hfree : ∀ {u : CtorStage}, c.stage = u → u.holds = true → f'.disk = f.disk := by
      intro u hs hu
      have hp : c.stage.holds = false := hp
      rw [hs, hu] at hp
      cases hp
    cases h with
    | apart => rfl
    | locks => rfl
    | opensNot => rfl
    | opens hs => exact hfree hs rfl
    | flushes hs => exact hfree hs rfl
    | checks => rfl
    | writesNot => rfl
    | writes => rfl
    | closes hs => exact hfree hs rfl
    | unlocks => rfl

/-! ### What the writer knows -/

/-- What a writer knows of the file: where its stream is open, it is empty, and there is nothing in
    the buffer but its line; its code is that of a success only if it has put the line there. -/
structure Writes (c : Ctor) (disk : Option (List Char)) : Prop where
  disk : c.cnsFile.isOpen = true → disk = some []
  good : c.cnsFile.good = true → c.cnsFile.isOpen = true
  buf : c.cnsFile.buf = [] ∨ c.stage = .close ∧ c.cnsFile.buf = cnsContent c.ownProcessId
  opened : c.stage = .close → c.ourErrCode = none → c.cnsFile.isOpen = true

/-- What the party knows of the file. -/
def Owns : CnsParty → Option (List Char) → Prop
  | client _, _ => True
  | server c, disk => c.stage.writing = true → Writes c disk

/-- Without the mutex it knows nothing of the file. -/
theorem Owns.free (hp : p.holds = false) (h : p.Owns disk) : p.Owns disk' := by
  cases p with
  | client d => trivial
  | server c =>
    intro hw
    have hholds := CtorStage.holds_of_writing hw
    have hp : c.stage.holds = false := hp
    rw [hp] at hholds
    cases hholds

/-- Before the line is written the buffer is empty. -/
theorem Writes.buf_nil {u : CtorStage} (h : Writes c disk) (hs : c.stage = u) (hu : u ≠ .close) :
    c.cnsFile.buf = [] := by
  rcases h.buf with hb | ⟨hc, -⟩
  · exact hb
  · exact absurd (hs.symm.trans hc) hu

/-- The line is put in the buffer. -/
theorem Writes.put {code : CtorCode} (h : Writes c disk) (hs : c.stage = .write)
    (hg : code = none → (c.cnsFile.put (cnsContent c.ownProcessId)).good = true) :
    Writes { c with
      cnsFile := c.cnsFile.put (cnsContent c.ownProcessId)
      ourErrCode := code
      stage := .close } disk := by
  have hbuf : c.cnsFile.buf = [] := h.buf_nil hs (by decide)
  by_cases hgood : c.cnsFile.good = true
  · have hput : c.cnsFile.put (cnsContent c.ownProcessId) =
        { c.cnsFile with buf := cnsContent c.ownProcessId } := by
      unfold OFStream.put
      rw [if_pos hgood, hbuf]
      rfl
    rw [hput]
    exact {
      disk := h.disk
      good := h.good
      buf := .inr ⟨rfl, rfl⟩
      opened := fun _ _ => h.good hgood }
  · have hput : c.cnsFile.put (cnsContent c.ownProcessId) = c.cnsFile := by
      unfold OFStream.put
      rw [if_neg hgood]
    rw [hput] at hg ⊢
    exact {
      disk := h.disk
      good := h.good
      buf := .inl hbuf
      opened := fun _ hn => absurd (hg hn) hgood }

/-- The owner of what is on disk stays the constructor that wrote it. -/
theorem step_owns (h : p.Owns f.disk) (hd : p.step cfg app acceptorType f t = .done (p', f')) :
    p'.Owns f'.disk := by
  cases step_moves hd with
  | client h => trivial
  | clientDies c => trivial
  | serverDies c =>
    intro hw
    cases hw
  | @server c c' f' hm =>
    have known : ∀ {u : CtorStage}, c.stage = u → u.writing = true → Writes c f.disk :=
      fun hs hu => h (by rw [hs]; exact hu)
    cases hm with
    | apart hs ht hc =>
      intro hw
      rw [CtorStage.holds_of_writing hw] at ht
      cases ht
    | locks hs hf => intro hw; cases hw
    | opensNot hs created =>
      intro hw
      constructor
      · exact fun hn => by cases hn
      · exact fun hn => by cases hn
      · exact .inl rfl
      · exact fun hn => by cases hn
    | opens hs created =>
      intro hw
      exact {
        disk := fun _ => rfl
        good := fun _ => rfl
        buf := .inl rfl
        opened := fun _ _ => rfl }
    | flushes hs k ok =>
      intro hw
      have hk := known hs rfl
      refine { disk := fun ho => ?_, good := fun hg => hk.good (Bool.and_eq_true_iff.mp hg).1
               buf := .inl rfl, opened := fun hn => by cases hn }
      -- nothing has been put in the buffer yet
      show c.cnsFile.spill k f.disk = some []
      have ho : c.cnsFile.isOpen = true := ho
      unfold OFStream.spill
      rw [if_pos ho, hk.disk ho, hk.buf_nil hs (by decide), List.take_nil]
      rfl
    | @checks hs u ht code =>
      intro hw
      have hk : Writes c f.disk ∧ c.cnsFile.buf = [] := by
        rcases hs with hs | hs
        · exact ⟨known hs rfl, (known hs rfl).buf_nil hs (by decide)⟩
        · exact ⟨known hs rfl, (known hs rfl).buf_nil hs (by decide)⟩
      refine { disk := hk.1.disk, good := hk.1.good, buf := .inl hk.2, opened := fun hn => ?_ }
      have hn : u = .close := hn
      rcases ht with rfl | rfl <;> cases hn
    | writesNot hs hc =>
      intro hw
      have hk := known hs rfl
      refine { disk := hk.disk, good := hk.good, buf := .inl (hk.buf_nil hs (by decide))
               opened := fun _ hn => ?_ }
      have hn : c.ourErrCode = none := hn
      rw [hn] at hc
      cases hc
    | writes hs hg =>
      intro hw
      exact (known hs rfl).put hs hg
    | closes hs k => intro hw; cases hw
    | unlocks hs => intro hw; cases hw

/-- **What is in the file after a step**: what was there, nothing, or the beginning of the party's
    line. -/
theorem step_content (h : p.Owns f.disk) (hd : p.step cfg app acceptorType f t = .done (p', f')) :
    f'.disk = f.disk ∨ f'.disk = some [] ∨
      ∃ c content, p = .server c ∧ f'.disk = some content ∧
        content <+: cnsContent c.ownProcessId := by
  cases step_moves hd with
  | client h => exact .inl h.disk
  | clientDies c => exact .inl rfl
  | serverDies c => exact .inl rfl
  | @server c c' f' hm =>
    -- What leaves the buffer of an open file is the start of what the process writes.
    have spilt : ∀ (k : Nat), c.stage.writing = true → (c.cnsFile.spill k f.disk) = f.disk ∨
        ∃ content, c.cnsFile.spill k f.disk = some content ∧
          content <+: cnsContent c.ownProcessId := by
      intro k hw
      have hk : Writes c f.disk := h hw
      unfold OFStream.spill
      by_cases ho : c.cnsFile.isOpen = true
      · rw [if_pos ho, hk.disk ho]
        refine .inr ⟨c.cnsFile.buf.take k, rfl, ?_⟩
        rcases hk.buf with hbuf | ⟨-, hbuf⟩
        · rw [hbuf, List.take_nil]
          exact List.nil_prefix
        · rw [hbuf]
          exact List.take_prefix k _
      · rw [if_neg ho]
        exact .inl rfl
    cases hm with
    | apart => exact .inl rfl
    | locks => exact .inl rfl
    | opensNot => exact .inl rfl
    | opens => exact .inr (.inl rfl)
    | flushes hs k ok =>
      refine (spilt k (by rw [hs]; rfl)).imp id fun ⟨content, hc, hp⟩ =>
        .inr ⟨c, content, rfl, hc, hp⟩
    | checks => exact .inl rfl
    | writesNot => exact .inl rfl
    | writes => exact .inl rfl
    | closes hs k =>
      refine (spilt k (by rw [hs]; rfl)).imp id fun ⟨content, hc, hp⟩ =>
        .inr ⟨c, content, rfl, hc, hp⟩
    | unlocks => exact .inl rfl

end CnsParty

/-! ### The constructor's steps, once more -/

namespace Ctor

variable {app : Owner} {c c' : Ctor} {f f' : CnsFile} {o : CtorOracle}

/-- The constructor asserts nothing on the way. -/
theorem step_ne_failed {e : Failure} : c.step app f o ≠ .failed e := by
  intro h
  unfold Ctor.step at h
  split at h
  case h_3 =>
    rcases Outcome.bind_eq_failed.mp h with h | ⟨-, -, h⟩
    · exact Outcome.require_ne_failed h
    · cases h
  case h_4 =>
    simp only at h
    split at h <;> cases h
  all_goals first
    | cases h
    | (split at h <;> cases h)

/-- A constructor that is over takes no step. -/
theorem step_of_ended (h : c.ended = true) :
    c.step app f o ≠ .done (c', f') := by
  intro hd
  unfold ended at h
  unfold Ctor.step at hd
  cases hs : c.stage <;> rw [hs] at h hd <;> first | (cases h; done) | cases hd

/-- The constructor's own step. -/
theorem Moves.published (h : c.Moves f c' f')
    (hown : CnsParty.Owns (.server c) f.disk)
    (hold : c.stage.written = true → c.ourErrCode = none →
      ∃ content, f.disk = some content ∧ content <+: cnsContent c.ownProcessId)
    (hw : c'.stage.written = true) (hc : c'.ourErrCode = none) :
    ∃ content, f'.disk = some content ∧ content <+: cnsContent c.ownProcessId := by
  cases h with
  | apart hs ht hcode =>
    obtain ⟨hw₀, hc₀⟩ := hcode hw hc
    exact hold hw₀ hc₀
  | locks => cases hw
  | opensNot => cases hw
  | opens => cases hw
  | flushes => cases hw
  | checks hs ht => rcases ht with rfl | rfl <;> cases hw
  | writesNot => cases hw
  | writes => cases hw
  | closes hs k =>
    have hk : CnsParty.Writes c f.disk := hown (by rw [hs]; rfl)
    have hopen := hk.opened hs hc
    -- What the destructor has flushed is the beginning of the line.
    refine ⟨c.cnsFile.buf.take k, ?_, ?_⟩
    · show c.cnsFile.spill k f.disk = _
      unfold OFStream.spill
      rw [if_pos hopen, hk.disk hopen]
      rfl
    · rcases hk.buf with hb | ⟨-, hb⟩
      · rw [hb, List.take_nil]
        exact List.nil_prefix
      · rw [hb]
        exact List.take_prefix k _
  | unlocks hs => exact hold (by rw [hs]; rfl) hc

end Ctor

end IpcSession
