import IpcSession.Client.Fresh
import IpcSession.Server.Model

/-!
# What the client makes of the CNS file

The server writes its PID and a newline; the client reads up to a newline, parses what it has read
as a PID, and makes the server namespace of it by converting back.

* `parsePid_eq_some_iff`: what the parse takes, said with decimal representations;
* `CnsTaken`: a first attempt either finds the format bad and leaves the server namespace unset,
  or sets it to what the server with the PID at the start of the file calls itself;
* `cnsSound_iff`: it comes to one of the two, and no assertion fails, exactly on the files that do
  not begin with a number that is zero or less.
-/

namespace IpcSession

/-! ### Decimal representations -/

/-- Digits that stand for `n`, leading zeros or not. -/
structure Digits (ds : List Char) (n : Nat) : Prop where
  ne_nil : ds ≠ []
  isDigit : ∀ c ∈ ds, c.isDigit = true
  value : Nat.ofDigitChars 10 ds 0 = n

/-- A decimal representation of an integer: digits after a sign, if there is one. -/
inductive Represents : List Char → Int → Prop
  | digits {ds : List Char} {n : Nat} (h : Digits ds n) : Represents ds n
  | plus {ds : List Char} {n : Nat} (h : Digits ds n) : Represents ('+' :: ds) n
  | minus {ds : List Char} {n : Nat} (h : Digits ds n) : Represents ('-' :: ds) (-n)

/-- What is read as a number is a run of digits of that value. -/
theorem parseDigits_eq_some_iff {ds : List Char} {n : Nat} :
    parseDigits ds = some n ↔ Digits ds n := by
  have hval : ds.foldl (fun n c => 10 * n + (c.toNat - '0'.toNat)) 0 = Nat.ofDigitChars 10 ds 0 :=
    Nat.ofDigitChars_eq_foldl.symm
  unfold parseDigits
  rw [hval, Option.ite_none_right_eq_some, List.all_eq_true]
  constructor
  · rintro ⟨⟨hne, hd⟩, hv⟩
    exact ⟨hne, hd, Option.some.inj hv⟩
  · rintro ⟨hne, hd, hv⟩
    exact ⟨⟨hne, hd⟩, congrArg some hv⟩

/-- A sign is not a digit. -/
theorem Digits.not_of_sign {c : Char} {ds : List Char} {n : Nat} (hc : c = '+' ∨ c = '-') :
    ¬ Digits (c :: ds) n := by
  intro h
  have hd := h.isDigit c (by simp)
  rcases hc with rfl | rfl <;> cases hd

/-- **What the parse takes**: the decimal representations of the numbers that fit 32 bits. -/
theorem parsePid_eq_some_iff {cs : List Char} {i : Int} :
    parsePid cs = some i ↔ Represents cs i ∧ -2 ^ 31 ≤ i ∧ i < 2 ^ 31 := by
  unfold parsePid
  simp only [Option.filter_eq_some_iff, decide_eq_true_eq]
  refine and_congr_left fun _ => ?_
  constructor
  · intro h
    split at h <;> simp [Option.bind_eq_some_iff] at h <;> obtain ⟨n, hn, rfl⟩ := h
    · exact .minus (parseDigits_eq_some_iff.mp hn)
    · exact .plus (parseDigits_eq_some_iff.mp hn)
    · exact .digits (parseDigits_eq_some_iff.mp hn)
  · intro h
    cases h with
    | minus h => simp [parseDigits_eq_some_iff.mpr h]
    | plus h => simp [parseDigits_eq_some_iff.mpr h]
    | @digits ds n h =>
      split
      · exact absurd h (Digits.not_of_sign (.inr rfl))
      · exact absurd h (Digits.not_of_sign (.inl rfl))
      · simp [parseDigits_eq_some_iff.mpr h]

/-- The client reads up to the first newline, which must be there. -/
theorem readLine_eq_some_iff {content line : List Char} :
    readLine content = some line ↔ ∃ rest, content = line ++ '\n' :: rest ∧ '\n' ∉ line := by
  unfold readLine
  rw [Option.ite_none_right_eq_some]
  have htake : ∀ {pre rest : List Char}, '\n' ∉ pre →
      (pre ++ '\n' :: rest).takeWhile (· ≠ '\n') = pre := by
    intro pre rest hnot
    rw [List.takeWhile_append_of_pos]
    · simp
    · intro c hc
      simp only [ne_eq, decide_eq_true_eq]
      intro h
      exact hnot (h ▸ hc)
  constructor
  · rintro ⟨hmem, hl⟩
    obtain ⟨pre, rest, rfl, hnot⟩ := List.eq_append_cons_of_mem hmem
    have hline : pre = line := (htake hnot).symm.trans (Option.some.inj hl)
    exact ⟨rest, by rw [hline], hline ▸ hnot⟩
  · rintro ⟨rest, rfl, hnot⟩
    exact ⟨by simp, congrArg some (htake hnot)⟩

/-! ### What the server writes -/

/-- The server namespace that `Session_base` computes for a server with this PID. -/
def ownSrvNamespace (ownProcessId : Int) : SharedName := pidToString ownProcessId

/-- What the constructor of the session server writes to the CNS file. -/
def cnsContent (ownProcessId : Int) : List Char :=
  (Server.constructed (ownSrvNamespace ownProcessId)).srvNamespace ++ ['\n']

/-- The digits of a number are a representation of it. -/
theorem digits_toDigits (n : Nat) : Digits (Nat.toDigits 10 n) n :=
  ⟨Client.toDigits_ne_nil n, fun _ => Nat.isDigit_of_mem_toDigits (by decide) (by decide),
    Nat.ofDigitChars_ten_toDigits⟩

/-- A PID is written in decimal. -/
theorem pidToString_natCast (n : Nat) : pidToString n = Nat.toDigits 10 n := by
  have hn : ¬ (n : Int) < 0 := by omega
  rw [pidToString, if_neg hn, Int.natAbs_natCast]

/-- No digit is a newline. -/
theorem Digits.newline_not_mem {ds : List Char} {n : Nat} (h : Digits ds n) : '\n' ∉ ds := by
  intro hmem
  cases h.isDigit _ hmem

/-! ### What the client reads -/

/-- **The PID in the file**, said of its content. -/
theorem readCns_eq_ok_iff {o : ClientOracle} {i : Int} (hm : o.mutex = none)
    (ho : o.cnsOpen = none) :
    readCns o = .ok i ↔ ∃ line rest, o.cns = line ++ '\n' :: rest ∧ '\n' ∉ line ∧
      Represents line i ∧ -2 ^ 31 ≤ i ∧ i < 2 ^ 31 := by
  have hread : readCns o = .ok i ↔ (readLine o.cns).bind parsePid = some i := by
    simp only [readCns, hm, ho]
    cases (readLine o.cns).bind parsePid <;> simp
  rw [hread, Option.bind_eq_some_iff]
  constructor
  · rintro ⟨line, hl, hp⟩
    obtain ⟨rest, hc, hnot⟩ := readLine_eq_some_iff.mp hl
    exact ⟨line, rest, hc, hnot, parsePid_eq_some_iff.mp hp⟩
  · rintro ⟨line, rest, hc, hnot, hp⟩
    exact ⟨line, readLine_eq_some_iff.mpr ⟨rest, hc, hnot⟩, parsePid_eq_some_iff.mpr hp⟩

/-- A file that opens and yields no PID has a bad format. -/
theorem readCns_error {o : ClientOracle} {e : Err} (hm : o.mutex = none) (ho : o.cnsOpen = none)
    (h : readCns o = .error e) : e = .clientNamespaceStoreBadFormat := by
  simp only [readCns, hm, ho] at h
  split at h
  · cases h
    rfl
  · cases h

/-- The client reads back the PID that the server has written. -/
theorem readCns_cnsContent {o : ClientOracle} {p : Nat} (hm : o.mutex = none)
    (ho : o.cnsOpen = none) (hp : p < 2 ^ 31) (hc : o.cns = cnsContent p) :
    readCns o = .ok (p : Int) := by
  have hdigits := digits_toDigits p
  refine (readCns_eq_ok_iff hm ho).mpr ⟨Nat.toDigits 10 p, [], ?_, hdigits.newline_not_mem,
    .digits hdigits, by omega, by omega⟩
  rw [hc, cnsContent, ← pidToString_natCast]
  rfl

namespace Client

variable {cfg : Cfg} {o : ClientOracle} {s s' : Client}

/-- Nothing has been tried yet that could have left a trace. -/
structure Untried (s : Client) : Prop where
  state : s.state = .null
  srvNamespace : s.srvNamespace = []
  masterChannel : s.masterChannel = none

/-- What a first attempt may come to on a CNS file of this content. -/
def CnsTaken (content : List Char) (attempt : Nat) (s s' : Client) : Prop :=
  (s'.srvNamespace = [] ∧
    s'.log = s.log ++ [.connectDone (some .clientNamespaceStoreBadFormat) (s.out attempt)]) ∨
  ∃ (p : Nat) (line rest : List Char), 0 < p ∧ content = line ++ '\n' :: rest ∧
    Represents line p ∧ s'.srvNamespace = Nat.toDigits 10 p ∧
    s'.srvNamespace = (Server.constructed (ownSrvNamespace p)).srvNamespace

/-- **The client takes this content safely**: every first attempt that can open the file returns
    without a failed assertion and comes to one of the two; where a server with a positive PID has
    written it, to that server's namespace. -/
def CnsSound (content : List Char) : Prop :=
  ∀ (cfg : Cfg) (attempt : Nat) (subClass : Bool) (b : Builder) (o : ClientOracle) (s : Client),
    o.mutex = none → o.cnsOpen = none → o.cns = content → Untried s →
      ∃ s', s.asyncConnect cfg attempt subClass b o = .done s' ∧ CnsTaken content attempt s s' ∧
        ∀ p : Nat, 0 < p → p < 2 ^ 31 → content = cnsContent p →
          s'.srvNamespace = (Server.constructed (ownSrvNamespace p)).srvNamespace

/-- The content begins with a number that is zero or less, on a line of its own. -/
def NonPositive (content : List Char) : Prop :=
  ∃ (line rest : List Char) (i : Int), content = line ++ '\n' :: rest ∧ '\n' ∉ line ∧
    Represents line i ∧ -2 ^ 31 ≤ i ∧ i ≤ 0

/-! ### A first attempt -/

/-- A PID other than 0 becomes the server namespace, whatever comes of the attempt. -/
theorem asyncConnect_ok {attempt : Nat} {subClass : Bool} {b : Builder} {p : Int}
    (hu : Untried s) (hc : readCns o = .ok p) (hp : p ≠ 0) :
    ∃ s', s.asyncConnect cfg attempt subClass b o = .done s' ∧
      s'.srvNamespace = pidToString p := by
  obtain ⟨hs, hn, hm⟩ := hu
  obtain ⟨hne, hsen⟩ := pidToString_fine p
  have hset : (s.begin attempt subClass).liftUnit (·.setSrvNamespace (pidToString p)) =
      .done ((s.begin attempt subClass).setSession (s.putSrvNamespace (pidToString p))) := by
    have hb : (s.begin attempt subClass).srvNamespace = [] := hn
    simp [liftUnit, Session.setSrvNamespace, Outcome.check, hne, hsen, hp, hb]
    rfl
  simp only [asyncConnect, hs, ne_eq, not_true_eq_false, if_false, hc, hset, Outcome.done_bind]
  split
  · cases subClass <;> exact ⟨_, rfl, rfl⟩
  · obtain ⟨⟨⟩⟩ := s
    cases hm
    -- on a new master channel each outcome of the sending is one that the attempt handles
    cases o.send <;> cases subClass <;> exact ⟨_, rfl, rfl⟩

/-- Where the content is a PID of 0, the assertion on the reserved value fails. -/
theorem not_cnsSound_of_zero {content : List Char} (hc : readCns { cns := content } = .ok 0) :
    ¬ CnsSound content := by
  intro hall
  obtain ⟨s', hd, -⟩ := hall .sample 0 false ⟨true, .openChannelToServerReq [], none, none⟩
    { cns := content } (fresh true) rfl rfl rfl ⟨rfl, rfl, rfl⟩
  rw [asyncConnect_aborts rfl hc (.inr rfl)] at hd
  cases hd

/-- Where the content is a negative PID, its string is what no server calls itself. -/
theorem not_cnsSound_of_neg {content : List Char} {i : Int} (hi : i < 0)
    (hc : readCns { cns := content } = .ok i) : ¬ CnsSound content := by
  intro hall
  have hu : Untried (fresh true) := ⟨rfl, rfl, rfl⟩
  obtain ⟨s', hd, ht, -⟩ := hall .sample 0 false ⟨true, .openChannelToServerReq [], none, none⟩
    { cns := content } (fresh true) rfl rfl rfl hu
  obtain ⟨s₁, hd₁, hn⟩ := asyncConnect_ok hu hc (by omega)
  obtain rfl : s' = s₁ := Outcome.done.inj (hd.symm.trans hd₁)
  rcases ht with ⟨h, -⟩ | ⟨p, -, -, -, -, -, h, -⟩
  · exact (pidToString_fine i).1 (hn.symm.trans h)
  · rw [h, pidToString, if_pos hi] at hn
    exact Digits.not_of_sign (.inr rfl) (hn ▸ digits_toDigits p)

/-- **The content of the CNS file is taken safely** unless it begins with a number that is zero or
    less: 0 is the reserved value, and a negative number passes for a PID. -/
theorem cnsSound_iff (content : List Char) : CnsSound content ↔ ¬ NonPositive content := by
  constructor
  · rintro hall ⟨line, rest, i, hc, hnot, hrep, hlo, hi⟩
    have hread : readCns { cns := content } = .ok i :=
      (readCns_eq_ok_iff rfl rfl).mpr ⟨line, rest, hc, hnot, hrep, hlo, by omega⟩
    rcases Int.lt_or_eq_of_le hi with hneg | rfl
    · exact not_cnsSound_of_neg hneg hread hall
    · exact not_cnsSound_of_zero hread hall
  · intro hpos cfg attempt subClass b o s hm ho hcns hu
    cases hread : readCns o with
    | error e =>
      refine ⟨_, asyncConnect_error hu.state hread, .inl ⟨hu.srvNamespace, ?_⟩, ?_⟩
      · rw [readCns_error hm ho hread]
        rfl
      · intro p _ hp hc
        rw [readCns_cnsContent hm ho hp (hcns.trans hc)] at hread
        cases hread
    | ok i =>
      obtain ⟨line, rest, hc, hnot, hrep, hlo, hhi⟩ := (readCns_eq_ok_iff hm ho).mp hread
      rw [hcns] at hc
      have hi : 0 < i := by
        by_contra hle
        exact hpos ⟨line, rest, i, hc, hnot, hrep, hlo, by omega⟩
      obtain ⟨p, rfl⟩ := Int.eq_ofNat_of_zero_le (by omega : 0 ≤ i)
      obtain ⟨s', hd, hn⟩ : ∃ s', s.asyncConnect cfg attempt subClass b o = .done s' ∧
          s'.srvNamespace = pidToString p := asyncConnect_ok hu hread (by omega)
      refine ⟨s', hd, .inr ⟨p, line, rest, by omega, hc, hrep, ?_, hn⟩, ?_⟩
      · rw [hn, pidToString_natCast]
      · intro q _ hq hcq
        rw [readCns_cnsContent hm ho hq (hcns.trans hcq)] at hread
        rw [hn, ← Except.ok.inj hread]
        rfl

/-- A file that holds the number 0 aborts the process. -/
theorem not_cnsSound_zeroLine : ¬ ∀ content : List Char, CnsSound content := by
  intro hall
  have hread : readCns { cns := ['0', '\n'] } = .ok 0 := by decide
  exact not_cnsSound_of_zero hread (hall _)

end Client

end IpcSession
