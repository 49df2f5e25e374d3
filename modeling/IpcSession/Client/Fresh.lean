import IpcSession.Client.Failures
import IpcSession.Client.Retry

namespace IpcSession

/-!
# When a connect attempt behaves as on a new object

* `Client.OneLogIn` — an attempt that starts with no namespace set receives at most one response
  to its log-in request, so the second place does not fail.
* `Client.behavesAsFresh_iff` — the attempt behaves as on a new object exactly when no earlier
  one got as far as reading a PID, and it does not itself read the PID that is the sentinel.
-/

namespace Client

variable {cfg : Cfg} {s s' : Client} {o : ClientOracle} {passiveOpen : Bool}

/-- No assertion of `set_srv_namespace()` or `set_cli_namespace()` fails. -/
abbrev NamespacesFine {α : Type} (x : Outcome Failure α) : Prop := Fine true false false x

/-! ### One attempt, one response -/

/-- No connect attempt is about to start, at most one response to a log-in request is to come,
    and none once the client namespace is set. -/
structure OneLogIn (s : Client) : Prop where
  connects : s.queue.countP Task.isAsyncConnect = 0
  once : s.logIns ≤ 1
  unset : s.cliNamespace ≠ [] → s.logIns = 0

/-- One log-in at most stays one, whatever comes later. -/
theorem OneLogIn.of_later (h : OneLogIn s) (hl : Later s s') : OneLogIn s' where
  connects := hl.connects.trans h.connects
  once := hl.logIns.trans h.once
  unset := fun hn => by
    have h₀ := h.unset (hl.cliNamespace ▸ hn)
    have h₁ := hl.logIns
    omega

/-- What thread W leaves in the queue when it takes a task. -/
theorem takeTask_counts {b b' : Session} {t : Task} (hd : b.takeTask = .done (t, b')) :
    b.queue.countP Task.isAsyncConnect =
        b'.queue.countP Task.isAsyncConnect + t.isAsyncConnect.toNat ∧
      b.logIns = b'.logIns + t.isLogInRsp.toNat ∧ b'.cliNamespace = b.cliNamespace ∧
      b'.srvNamespace = b.srvNamespace := by
  obtain ⟨-, hq, hb⟩ := Session.takeTask_done hd
  have hm : b'.masterChannel = b.masterChannel := by rw [hb]
  refine ⟨?_, ?_, by rw [hb], by rw [hb]⟩
  · rw [hq, List.countP_cons]
    cases t.isAsyncConnect <;> rfl
  · simp only [Session.logIns, hq, List.countP_cons, hm]
    cases t.isLogInRsp
    · simp
    · simp; omega

/-- A step that starts no connect attempt keeps it. -/
theorem step_oneLogIn {a : Act} (h : OneLogIn s) (hc : a.isConnect = false)
    (hd : step cfg s a = .done s') : OneLogIn s' := by
  by_cases hr : ∃ o, a = .run o
  · obtain ⟨o, rfl⟩ := hr
    simp only [step, Outcome.bind_eq_done, Prod.exists] at hd
    obtain ⟨t, s₁, h₁, hd⟩ := hd
    obtain ⟨b₁, hb₁, rfl⟩ := lift_done h₁
    obtain ⟨hcount, hlog, hcli, -⟩ := takeTask_counts hb₁
    have hct : t.isAsyncConnect = false := by
      have := h.connects
      cases ht : t.isAsyncConnect with
      | false => rfl
      | true => rw [ht] at hcount; simp at hcount; omega
    have hc₁ : b₁.queue.countP Task.isAsyncConnect = 0 := by
      have := h.connects
      omega
    cases hl : t.isLogInRsp with
    | false =>
      have hlog : s.logIns = b₁.logIns := by simpa [hl] using hlog
      have h₁ : OneLogIn (s.setSession b₁) :=
        ⟨hc₁, hlog ▸ h.once, fun hn => hlog ▸ h.unset (hcli ▸ hn)⟩
      exact h₁.of_later (runTask_later hct hl hd)
    | true =>
      have hlog₁ : b₁.logIns = 0 := by
        have h₂ := h.once
        simp [hl] at hlog
        omega
      cases t with
      | logInRsp chan m attempt =>
        obtain ⟨-, hc', hl'⟩ := onMasterChannelLogInRsp_later hd
        have hl' : s'.logIns ≤ b₁.logIns := hl'
        exact ⟨hc'.trans hc₁, by omega, fun _ => by omega⟩
      | _ => cases hl
  · exact h.of_later (step_later hc (fun o ho => hr ⟨o, ho⟩) hd)

/-- No step of it fails on a namespace. -/
theorem OneLogIn.step_fine {a : Act} (h : OneLogIn s) :
    NamespacesFine (step cfg s a) := by
  refine Client.step_fine (fun o t b _ hb => ?_) nofun
  obtain ⟨hcount, hlog, hcli, -⟩ := takeTask_counts hb
  refine runTask_fine (fun _ hc => ?_) (fun _ hl => ?_) nofun
  · have := h.connects
    rw [hc] at hcount
    simp at hcount
    omega
  · by_contra hn
    have h₀ := h.unset (fun h' => hn (hcli.trans h'))
    simp [hl] at hlog
    omega

/-- No run of it without a further connect attempt fails on a namespace. -/
theorem OneLogIn.run_fine {as : List Act} (h : OneLogIn s)
    (hc : ∀ a ∈ as, a.isConnect = false) : NamespacesFine (Machine.run (step cfg) s as) := by
  intro e he
  obtain ⟨s', a, hr, ha, he⟩ := Machine.run_failed he
  have hinv : OneLogIn s' :=
    hr.invariant h (fun _ a _ h hg hd => step_oneLogIn h (hc a hg) hd)
  exact hinv.step_fine e he

/-! ### The server namespace over a run -/

/-- Thread W is about to run a connect attempt that reads a PID out of the CNS. -/
def readsPid (s : Client) : Act → Bool
  | .run o =>
    match s.queue, readCns o with
    | .asyncConnect .. :: _, .ok _ => s.state = .null
    | _, _ => false
  | _ => false

/-- A step that reads no PID leaves the server namespace alone. -/
theorem step_srvNamespace {a : Act} (hno : readsPid s a = false)
    (hd : step cfg s a = .done s') : s'.srvNamespace = s.srvNamespace := by
  by_cases hr : ∃ o, a = .run o
  · obtain ⟨o, rfl⟩ := hr
    simp only [step, Outcome.bind_eq_done, Prod.exists] at hd
    obtain ⟨t, s₁, h₁, hd⟩ := hd
    obtain ⟨b₁, hb₁, rfl⟩ := lift_done h₁
    obtain ⟨-, -, -, hsrv⟩ := takeTask_counts hb₁
    obtain ⟨-, hq, -⟩ := Session.takeTask_done hb₁
    cases hc : t.isAsyncConnect with
    -- The task of connect(): it sets the namespace only past the CNS file.
    | true =>
      cases t with
      | asyncConnect attempt subClass b =>
        -- The step that reads a process id in NULL state is the one excluded.
        have key : ∀ pid, readCns o = .ok pid → s.state ≠ .null := by
          intro pid hpid
          simpa [readsPid, hq, hpid] using hno
        cases asyncConnect_done hd with
        | ignored hs => exact hsrv
        | cnsFailed hs e hc => exact hsrv
        | sockFailed hs pid hc => exact absurd hs (key pid hc)
        | sendFailed hs pid hc => exact absurd hs (key pid hc)
        | refused hs pid hc => exact absurd hs (key pid hc)
        | sent hs pid hc => exact absurd hs (key pid hc)
      | _ => cases hc
    -- Any other task, the response included, leaves it alone.
    | false =>
      cases hl : t.isLogInRsp with
      | false => exact (runTask_later hc hl hd).srvNamespace.trans hsrv
      | true =>
        cases t with
        | logInRsp chan m attempt => exact (onMasterChannelLogInRsp_later hd).1.trans hsrv
        | _ => cases hl
  · cases hc : a.isConnect with
    | false => exact (step_later hc (fun o ho => hr ⟨o, ho⟩) hd).srvNamespace
    | true =>
      cases a with
      | connect call attempt out subClass =>
        simp only [step, connect, Outcome.bind_eq_done, Prod.exists] at hd
        obtain ⟨-, -, b, s₁, h₁, hd⟩ := hd
        obtain ⟨b₁, hb₁, rfl⟩ := lift_done h₁
        have hf := Session.takeBuilder_frame hb₁
        cases b with
        | none => cases hd
        | some b =>
          simp only [Outcome.bind_eq_done] at hd
          obtain ⟨-, -, hd⟩ := hd
          cases hd
          exact hf.srvNamespace
      | _ => cases hc

/-- A step that reads a PID leaves the server namespace set. -/
theorem step_named {a : Act} (hr : readsPid s a = true) (hd : step cfg s a = .done s') :
    s'.srvNamespace ≠ [] := by
  cases a with
  | run o =>
    simp only [step, Outcome.bind_eq_done, Prod.exists] at hd
    obtain ⟨t, s₁, h₁, hd⟩ := hd
    obtain ⟨b₁, hb₁, rfl⟩ := lift_done h₁
    obtain ⟨-, hq, -⟩ := Session.takeTask_done hb₁
    simp only [readsPid, hq] at hr
    split at hr
    · rename_i pid hl hpid
      cases hl
      have hs : s.state = .null := of_decide_eq_true hr
      cases asyncConnect_done hd with
      | ignored hs' => exact absurd hs hs'
      | cnsFailed _ e hc => rw [hpid] at hc; cases hc
      | sockFailed _ pid hc hn => exact hn
      | sendFailed _ pid hc hn hsrv hm t ht => rw [ht]; exact hn
      | refused _ pid hc hn hsrv hm t ht => rw [ht]; exact hn
      | sent _ pid hc hn hsrv hm t ht => rw [ht]; exact hn
    · cases hr
  | _ => cases hr

/-- An object whose server namespace is empty is as constructed. -/
theorem clean_of_reaches (h : Machine.Reaches (step cfg) Machine.anyStep (fresh passiveOpen) s)
    (hn : s.srvNamespace = []) : Clean passiveOpen s := by
  have hinv : Clean passiveOpen s ∨ s.srvNamespace ≠ [] := by
    refine h.invariant (P := fun s => Clean passiveOpen s ∨ s.srvNamespace ≠ [])
      (.inl (.fresh _)) ?_
    rintro s a s' (hc | hn) _ hd
    · exact step_clean_or_named hc hd
    · cases hr : readsPid s a with
      | true => exact .inr (step_named hr hd)
      | false => exact .inr (by rw [step_srvNamespace hr hd]; exact hn)
  exact hinv.resolve_right (fun h => h hn)

/-! ### A further attempt -/

/-- A further `sync_connect()`: the metadata that the user fills into its builder, the
    out-arguments, and what the environment decides until the log-in request is sent. -/
structure Attempt where
  mdt : Mdt
  out : OutArgs
  subClass : Bool
  o : ClientOracle

/-- The steps of thread U and thread W up to there. -/
def Attempt.acts (att : Attempt) : List Act :=
  [.mdtBuilder 0 att.mdt, .run {}, .connect 0 0 att.out att.subClass, .run att.o]

/-- No attempt is under way, and thread W has done what it was asked to (it works in order, so
    what an earlier attempt has left in the queue is done before a further attempt starts). -/
structure BetweenAttempts (s : Client) : Prop where
  state : s.state = .null
  worker : s.w = .idle
  queue : s.queue = []
  dtor : s.dtor = .notStarted

/-- The object without what is past: the record of events, the messages sent, the user's own
    variables and builders, and the numbers that the model has given to channels and vectors. -/
def setAsidePast (s : Client) : Client :=
  { s with builders := [], outbox := [], log := [], nextChan := 0, vecs := [], mem := [] }

/-- The attempt `att`, and all that can follow without a further one, goes as on a new object:
    the same calls return the same, the same messages are sent, the same state is reached, the
    same assertions hold; and those of the two namespaces hold in any case. -/
def BehavesAsFresh (cfg : Cfg) (passiveOpen : Bool) (s : Client) (att : Attempt) : Prop :=
  ∀ rest : List Act, (∀ a ∈ rest, a.isConnect = false) →
    Machine.run (step cfg) s.setAsidePast (att.acts ++ rest) =
        Machine.run (step cfg) (fresh passiveOpen) (att.acts ++ rest) ∧
      NamespacesFine (Machine.run (step cfg) s.setAsidePast (att.acts ++ rest))

/-- The object when thread W runs `async_connect()`. -/
def Attempt.begun (att : Attempt) (s : Client) : Client :=
  (s.record (.mdtBuilderReturned 0 true)).setOut 0 att.out

/-- What the attempt comes to is what `async_connect()` comes to. -/
theorem run_acts {att : Attempt} (hb : BetweenAttempts s) (hn : s.builders = []) :
    Machine.run (step cfg) s att.acts =
      (att.begun s).asyncConnect cfg 0 att.subClass
        ⟨true, .openChannelToServerReq att.mdt, none, none⟩ att.o := by
  have hlast : ∀ (s : Client) (a : Act), Machine.run (step cfg) s [a] = step cfg s a := by
    intro s a
    simp only [Machine.run]
    cases step cfg s a <;> rfl
  obtain ⟨hs, hw, hq, hd⟩ := hb
  obtain ⟨⟨⟩⟩ := s
  cases hs
  cases hw
  cases hq
  cases hd
  cases hn
  exact hlast _ _

/-- Where the CNS yields no PID, the attempt ends there. -/
theorem asyncConnect_error {attempt : Nat} {subClass : Bool} {b : Builder} {e : Err}
    (hs : s.state = .null) (hc : readCns o = .error e) :
    s.asyncConnect cfg attempt subClass b o = .done
      (((s.setState .null).setOnDone none).record (.connectDone (some e) (s.out attempt))) := by
  cases subClass <;> simp [asyncConnect, hs, hc, connectFailed, invokeConnOnDoneFunc, begin] <;> rfl

/-- Where the CNS yields a PID and the namespace is set, or the PID is the sentinel, the process
    aborts. -/
theorem asyncConnect_aborts {attempt : Nat} {subClass : Bool} {b : Builder} {p : Int}
    (hs : s.state = .null) (hc : readCns o = .ok p) (h : s.srvNamespace ≠ [] ∨ p = 0) :
    s.asyncConnect cfg attempt subClass b o = .failed .setSrvNamespace := by
  have hset : (s.begin attempt subClass).liftUnit (·.setSrvNamespace (pidToString p)) =
      .failed .setSrvNamespace := by
    have hb : (s.begin attempt subClass).srvNamespace = s.srvNamespace := rfl
    obtain ⟨hne, hsen⟩ := pidToString_fine p
    by_cases h0 : p = 0
    · have hsen' : SharedName.sentinel ≠ [] := nofun
      simp [liftUnit, Session.setSrvNamespace, hsen.mpr h0, hsen', Outcome.check]
    · have hn : s.srvNamespace ≠ [] := h.resolve_right h0
      simp [liftUnit, Session.setSrvNamespace, hne, hsen, h0, hb, hn, Outcome.check]
  simp only [asyncConnect, hs, ne_eq, not_true_eq_false, if_false, hc, hset, Outcome.failed_bind]

/-- An object as constructed, between attempts, is a new one but for its past. -/
theorem Clean.setAsidePast (h : Clean passiveOpen s) (hb : BetweenAttempts s) :
    s.setAsidePast = Client.fresh passiveOpen := by
  have hcore := h.core
  obtain ⟨hs, hw, hq, hd⟩ := hb
  obtain ⟨⟨⟩⟩ := s
  cases hw
  cases hq
  cases hd
  simp only [Client.core, Client.fresh, Client.mk.injEq, Session.mk.injEq] at hcore
  simp [Client.setAsidePast, Client.fresh, hcore]

/-- Without a task and without a channel no response can come in. -/
theorem OneLogIn.of_empty (hq : s.queue = []) (hm : s.masterChannel = none) : OneLogIn s := by
  constructor <;> simp [Session.logIns, hq, hm]

/-- Right after `async_connect()` one response can come in, and no client namespace is set. -/
theorem asyncConnect_oneLogIn {attempt : Nat} {subClass : Bool} {b : Builder} (hq : s.queue = [])
    (hm : s.masterChannel = none) (hn : s.cliNamespace = [])
    (hd : s.asyncConnect cfg attempt subClass b o = .done s') : OneLogIn s' := by
  cases asyncConnect_done hd with
  | ignored hs => exact .of_empty hq hm
  | cnsFailed hs e hc => exact .of_empty hq hm
  | sockFailed hs pid hc => exact .of_empty hq hm
  | sendFailed hs pid hc hp hsrv _ t ht => exact .of_empty (by rw [ht]; exact hq) rfl
  | refused hs pid hc hp hsrv _ t ht ch hch e =>
    have hq' : t.queue = [] := by rw [ht]; exact hq
    have hn' : t.cliNamespace = [] := by rw [ht]; exact hn
    have hl : ch.expectsLogInRsp = none := by rw [ht] at hch; cases hch; rfl
    constructor <;> simp [Session.logIns, hq', hn', hl, Task.isAsyncConnect, Task.isLogInRsp]
  | sent hs pid hc hp hsrv _ t ht ch hch =>
    have hq' : t.queue = [] := by rw [ht]; exact hq
    have hn' : t.cliNamespace = [] := by rw [ht]; exact hn
    constructor <;> simp [Session.logIns, hq', hn']

/-- **A further attempt behaves as on a new object** exactly when no earlier one has set the
    server namespace, and it does not itself read the PID that is the sentinel. -/
theorem behavesAsFresh_iff {att : Attempt}
    (h : Machine.Reaches (step cfg) Machine.anyStep (fresh passiveOpen) s)
    (hb : BetweenAttempts s) :
    BehavesAsFresh cfg passiveOpen s att ↔ s.srvNamespace = [] ∧ readCns att.o ≠ .ok 0 := by
  have hset : BetweenAttempts s.setAsidePast := ⟨hb.state, hb.worker, hb.queue, hb.dtor⟩
  have hfresh : BetweenAttempts (fresh passiveOpen) := ⟨rfl, rfl, rfl, rfl⟩
  constructor
  · intro hall
    obtain ⟨heq, hfine⟩ := hall [] (by simp)
    rw [List.append_nil, run_acts hset rfl] at heq hfine
    rw [run_acts hfresh rfl] at heq
    cases hc : readCns att.o with
    | error e =>
      refine ⟨?_, nofun⟩
      rw [asyncConnect_error (s := att.begun s.setAsidePast) hb.state hc,
        asyncConnect_error (s := att.begun (fresh passiveOpen)) rfl hc] at heq
      exact congrArg (fun c : Client => c.srvNamespace) (Outcome.done.inj heq)
    | ok pid =>
      by_cases hab : s.srvNamespace ≠ [] ∨ pid = 0
      · rw [asyncConnect_aborts (s := att.begun s.setAsidePast) hb.state hc hab] at hfine
        simp at hfine
      · simp only [not_or, ne_eq, not_not] at hab
        exact ⟨hab.1, fun h0 => hab.2 (Except.ok.inj h0)⟩
  · rintro ⟨hn, hp⟩ rest hrest
    have hcore : s.setAsidePast = fresh passiveOpen := (clean_of_reaches h hn).setAsidePast hb
    rw [hcore]
    refine ⟨rfl, ?_⟩
    rw [Machine.run_append, run_acts hfresh rfl]
    refine Outcome.failsOnly_bind.mpr ⟨asyncConnect_fine (fun _ => ⟨rfl, hp⟩), fun s₁ h₁ => ?_⟩
    exact (asyncConnect_oneLogIn (by simp [Attempt.begun, fresh, record]) rfl rfl h₁).run_fine hrest

/-- An attempt of the plainest kind, given what the environment decides. -/
def Attempt.plain (o : ClientOracle) : Attempt :=
  { mdt := [], out := ⟨none, none, none⟩, subClass := false, o }

/-- After an attempt that found no CNS file, a further one behaves as the first. -/
theorem behavesAsFresh_iff_afterNoCns :
    ∃ s, BetweenAttempts s ∧ s.log.length = 2 ∧
      BehavesAsFresh .sample true s (.plain { cns := ['7', '\n'] }) := by
  obtain ⟨s, hr, hs⟩ := Machine.Reaches.exists_of_run (step .sample) (fresh true)
    (Attempt.plain { cnsOpen := some (.other 2) }).acts
    (fun s => s.state = .null && s.w = .idle && s.queue = [] && s.dtor = .notStarted &&
      s.log.length = 2 && s.srvNamespace = []) (by decide)
  simp only [Bool.and_eq_true, decide_eq_true_eq] at hs
  obtain ⟨⟨⟨⟨⟨hs, hw⟩, hq⟩, hd⟩, hl⟩, hn⟩ := hs
  have hb : BetweenAttempts s := ⟨hs, hw, hq, hd⟩
  exact ⟨s, hb, hl, (behavesAsFresh_iff hr hb).mpr ⟨hn, by decide⟩⟩

/-- **A refused connection leaves a trace**: the next attempt aborts the process. -/
theorem not_behavesAsFresh_afterRefused :
    ¬ ∀ (cfg : Cfg) (passiveOpen : Bool) (s : Client) (att : Attempt),
      Machine.Reaches (step cfg) Machine.anyStep (fresh passiveOpen) s → BetweenAttempts s →
        BehavesAsFresh cfg passiveOpen s att := by
  intro hall
  obtain ⟨s, hr, hs⟩ := Machine.Reaches.exists_of_run (step .sample) (fresh true)
    (Attempt.plain { cns := ['7', '\n'], sockConnect := some (.other 111) }).acts
    (fun s => s.state = .null && s.w = .idle && s.queue = [] && s.dtor = .notStarted &&
      s.srvNamespace = ['7']) (by decide)
  simp only [Bool.and_eq_true, decide_eq_true_eq] at hs
  obtain ⟨⟨⟨⟨hs, hw⟩, hq⟩, hd⟩, hn⟩ := hs
  have hb : BetweenAttempts s := ⟨hs, hw, hq, hd⟩
  have hb' : BetweenAttempts s.setAsidePast := ⟨hs, hw, hq, hd⟩
  obtain ⟨-, hfine⟩ := hall _ _ s (.plain { cns := ['7', '\n'] }) hr hb [] (by simp)
  rw [List.append_nil, run_acts hb' rfl] at hfine
  have hab : ((Attempt.plain { cns := ['7', '\n'] }).begun s.setAsidePast).asyncConnect .sample 0
      false ⟨true, .openChannelToServerReq [], none, none⟩ { cns := ['7', '\n'] } =
        .failed .setSrvNamespace := by
    refine asyncConnect_aborts hs (p := 7) (by decide) (.inl ?_)
    show s.srvNamespace ≠ []
    rw [hn]
    decide
  exact ((hfine _ hab).1 rfl).1 rfl

end Client

end IpcSession
