import IpcSession.Base.Barrier
import IpcSession.Server.Progress

namespace IpcSession

/-!
# The barrier of a graceful finish, on the server's side

* `Server.tellsFinisher` — the steps in which an error of the channel is reported to the finisher.
* `Server.EndInv K T` — the barrier and the book, and that only the peer's `GracefulSessionEnd`, as
  `K` says, or such a report, as `T` says, fulfils the promise.
* `Server.EndInv.step` — **every step keeps it.**

The client makes one channel after the other, the server one only; but a server is handed to the
user before its handlers are set, and an error may come in between.
-/

namespace Server

variable {cfg : Cfg} {s s' : Server} {o : ServerOracle} {l : Option Mark} {L : Mark → Prop}
  {K D T : Prop}

/-- The step runs `Graceful_finisher::on_master_channel_hosed()`. -/
def tellsFinisher (cfg : Cfg) (s : Server) : Act → Bool
  | .run _ =>
    match s.queue.head? with
    | some (.masterChannelError ..) =>
      cfg.gracefulFinishRequired && s.masterChannel.isSome && !s.logInOnDoneFuncSet &&
        s.onErrFuncSet
    | _ => false
  | _ => false

/-- The server makes its channel in the first task of the log-in, and no other. -/
structure OneChannel (s : Server) : Prop where
  channel : ∀ ch, s.masterChannel = some ch → ch.id = 0
  queued : ∀ c e, Task.masterChannelError c e ∈ s.queue → c = 0
  early : Task.acceptLogIn ∈ s.queue →
    s.masterChannel = none ∧ ∀ c e, Task.masterChannelError c e ∉ s.queue

namespace OneChannel

/-- Nothing of the kind is posted, and the channel stays or goes. -/
theorem of_same (h : OneChannel s)
    (hm : ∀ ch', s'.masterChannel = some ch' → ∃ ch, s.masterChannel = some ch ∧ ch'.id = ch.id)
    (hq : ∀ t ∈ s'.queue, t ∈ s.queue ∨ (t ≠ .acceptLogIn ∧ ∀ c e, t ≠ .masterChannelError c e)) :
    OneChannel s' := by
  have hold : ∀ c e, Task.masterChannelError c e ∈ s'.queue →
      Task.masterChannelError c e ∈ s.queue := by
    intro c e hmem
    rcases hq _ hmem with hmem | ⟨-, hne⟩
    · exact hmem
    · exact absurd rfl (hne c e)
  refine ⟨fun ch' hch' => ?_, fun c e hmem => h.queued c e (hold c e hmem), fun hmem => ?_⟩
  · obtain ⟨ch, hch, hid⟩ := hm ch' hch'
    rw [hid]
    exact h.channel ch hch
  · rcases hq _ hmem with hmem | ⟨hne, -⟩
    · obtain ⟨hnone, hno⟩ := h.early hmem
      refine ⟨?_, fun c e hmem => hno c e (hold c e hmem)⟩
      cases hs : s'.masterChannel with
      | none => rfl
      | some ch' =>
        obtain ⟨ch, hch, -⟩ := hm ch' hs
        rw [hnone] at hch
        cases hch
    · exact absurd rfl hne

/-- Neither the queue nor the channel changes. -/
theorem keep (h : OneChannel s) (hm : s'.masterChannel = s.masterChannel)
    (hq : s'.queue = s.queue) : OneChannel s' :=
  h.of_same (fun ch hch => ⟨ch, hm ▸ hch, rfl⟩) fun _ ht => .inl (hq ▸ ht)

/-- Session code inside the server. -/
theorem session {b : Session} (h : OneChannel s) (hu : s.toSession.Update l b) :
    OneChannel (s.setSession b) := by
  have hchannel : ∀ ch', b.masterChannel = some ch' → ch'.id = 0 := by
    intro ch' hch'
    obtain ⟨ch, hch, hsame⟩ := hu.channel hch'
    rw [hsame.id]
    exact h.channel ch hch
  refine ⟨hchannel, fun c e hmem => ?_, fun hmem => ?_⟩
  · rcases hu.reported hmem with hmem | ⟨ch, hch, rfl⟩
    · exact h.queued c e hmem
    · exact h.channel ch hch
  · have hmem : Task.acceptLogIn ∈ s.queue := by
      rcases hu.posted hmem with hmem | hp
      · exact hmem
      · generalize ht : Task.acceptLogIn = t at hp
        cases hp with
        | fromUser hu =>
          rw [← ht] at hu
          cases hu
        | openReq hm ho m =>
          rename_i h
          cases h <;> cases ht
        | _ => cases ht
    obtain ⟨hnone, hno⟩ := h.early hmem
    refine ⟨?_, fun c e hmem => ?_⟩
    · cases hs : b.masterChannel with
      | none => exact hs
      | some ch' =>
        obtain ⟨ch, hch, -⟩ := hu.channel hs
        rw [hnone] at hch
        cases hch
    · rcases hu.reported hmem with hmem | ⟨ch, hch, -⟩
      · exact hno c e hmem
      · rw [hnone] at hch
        cases hch

end OneChannel

/-- No update makes another channel. -/
theorem Update.oneChannel (hu : Update cfg s l s') (h : OneChannel s) : OneChannel s' := by
  cases hu with
  | session hu => exact h.session hu
  | mqs hn r =>
    obtain ⟨es, made, -, hs⟩ := makeChannelMqs_tried cfg r s
    rw [hs]
    exact h.keep rfl rfl
  | @post t ht ha =>
    refine h.of_same (fun ch hch => ⟨ch, hch, rfl⟩) fun u hu => ?_
    rcases List.mem_append.mp hu with hu | hu
    · exact .inl hu
    · rw [List.mem_singleton.mp hu]
      refine .inr ⟨fun he => ?_, fun c e he => ?_⟩ <;> rw [he] at ht <;> cases ht
  | dropChannel => exact h.of_same (fun ch hch => (by cases hch)) fun _ ht => .inl ht
  | logInDone hn hd =>
    obtain ⟨-, rfl⟩ := logInDone_done hd
    exact h.keep rfl rfl
  | _ => exact h.keep rfl rfl

/-- **Every update but those of the finisher keeps the barrier.** -/
theorem Update.barrier (hu : Update cfg s l s') (hl : l ≠ some .finisher)
    (h : s.toSession.Barrier) : s'.toSession.Barrier := by
  cases hu with
  | session hu => exact hu.barrier hl h
  | mqs hn r =>
    obtain ⟨es, made, -, hs⟩ := makeChannelMqs_tried cfg r s
    rw [hs]
    exact h.of_same rfl rfl (.inl rfl)
  | @post t ht ha =>
    refine h.of_posts (u := [t]) rfl (fun u hu => ?_) rfl fun ch hch => ⟨ch, hch, .refl ch⟩
    rw [List.mem_singleton.mp hu]
    cases t <;> first | rfl | cases ht
  | dropChannel => exact h.of_same rfl rfl (.inr rfl)
  | logInDone hn hd =>
    obtain ⟨-, rfl⟩ := logInDone_done hd
    exact h.of_same rfl rfl (.inl rfl)
  | _ => exact h.of_same rfl rfl (.inl rfl)

/-- **Every update keeps the book**, if its marks fit. -/
theorem Update.endBook (hu : Update cfg s l s')
    (hl : Mark.Within (Mark.FitsBook K D s.channelFinished) l)
    (h : s.toSession.EndBook K D) : s'.toSession.EndBook K D := by
  cases hu with
  | session hu => exact hu.endBook hl h
  | @mark e he => exact h.record (by cases e <;> first | rfl | cases he)
  | mqs hn r =>
    obtain ⟨es, made, htried, hs⟩ := makeChannelMqs_tried cfg r s
    rw [hs]
    refine h.adds (u := []) (v := es) (fun ch hch => ⟨ch, hch, fun _ hm => hm⟩)
      (List.append_nil _).symm (by simp) rfl (fun e he => ?_) rfl (fun _ hp => hp) rfl
    cases htried <;> simp at he <;> rcases he with rfl | rfl | rfl | rfl <;> rfl
  | mqRemoved name => exact h.record rfl
  | @post t ht ha =>
    cases t with
    | initHandlers passiveOpen => exact h.post rfl rfl
    | preInitError => exact h.post rfl rfl
    | _ => cases ht
  | dropChannel => exact h.of_same (.inr rfl) rfl rfl rfl (fun _ hp => hp) rfl
  | logInDone hn hd =>
    obtain ⟨-, rfl⟩ := logInDone_done hd
    exact h.record rfl
  | _ => exact h.of_same (.inl rfl) rfl rfl rfl (fun _ hp => hp) rfl

/-- A channel that has finished does not come back. -/
theorem Update.channelFinished (hu : Update cfg s l s') (h : s.channelFinished) :
    s'.channelFinished := by
  cases hu with
  | session hu => exact hu.channelFinished h
  | mark he => exact Session.channelFinished_of_log h rfl
  | mqRemoved name => exact Session.channelFinished_of_log h rfl
  | mqs hn r =>
    obtain ⟨es, made, -, hs⟩ := makeChannelMqs_tried cfg r s
    rw [hs]
    exact Session.channelFinished_of_log h rfl
  | logInDone hn hd =>
    obtain ⟨-, rfl⟩ := logInDone_done hd
    exact Session.channelFinished_of_log h rfl
  | _ => exact h

/-- An error that has been kept for the handlers is one of the channel. -/
theorem Update.preInit (hu : Update cfg s l s')
    (hl : Mark.Within (Mark.FitsBook K D s.channelFinished) l)
    (h : s.preInitErrCode = some .sessionFinished → s.channelFinished) :
    s'.preInitErrCode = some .sessionFinished → s'.channelFinished := by
  intro hp
  refine hu.channelFinished ?_
  cases hu with
  | preInitErrCode e =>
    cases hp
    exact hl _ rfl rfl
  | mqs hn r =>
    obtain ⟨es, made, -, hs⟩ := makeChannelMqs_tried cfg r s
    rw [hs] at hp
    exact h hp
  | logInDone hn hd =>
    obtain ⟨-, rfl⟩ := logInDone_done hd
    exact h hp
  | _ => exact h hp

/-- An update without the mark of the finisher leaves it alone. -/
theorem Update.gracefulFinisher (hu : Update cfg s l s') (hl : l ≠ some .finisher) :
    s'.gracefulFinisher = s.gracefulFinisher := by
  cases hu with
  | session hu => exact hu.gracefulFinisher hl
  | mqs hn r =>
    obtain ⟨es, made, -, hs⟩ := makeChannelMqs_tried cfg r s
    rw [hs]
  | logInDone hn hd =>
    obtain ⟨-, rfl⟩ := logInDone_done hd
    rfl
  | _ => rfl

/-! ### The invariant -/

/-- The barrier and the book; and only the peer's `GracefulSessionEnd`, as `K` says, or the report
    of an error, as `T` says, fulfils the promise of a finisher. -/
structure EndInv (K T : Prop) (s : Server) : Prop where
  book : s.toSession.EndBook K (s.dtor ≠ .notStarted)
  barrier : s.toSession.Barrier
  oneChannel : OneChannel s
  satisfied : s.gracefulFinisher = some true → K ∨ T
  preInit : s.preInitErrCode = some .sessionFinished → s.channelFinished

/-- Nothing has been said of an end yet. -/
theorem endInv_fresh (srvNamespace : SharedName) (out : OutArgs) :
    EndInv K T (fresh srvNamespace out) where
  book :=
    { cached := fun _ h => by cases h
      queued := fun _ h => by simp [fresh, constructed, asyncAcceptLogIn] at h
      reported := fun _ h => by simp [fresh, constructed, asyncAcceptLogIn] at h
      onErr := fun _ h => by cases h
      once := rfl
      builders := fun _ _ h => by cases h
      tasks := fun _ _ h => by simp [fresh, constructed, asyncAcceptLogIn] at h
      sent := fun _ h => by cases h }
  barrier := .constructed rfl rfl
  oneChannel := ⟨fun _ h => (by cases h),
    fun _ _ h => (by simp [fresh, constructed, asyncAcceptLogIn] at h),
    fun _ => ⟨rfl, by simp [fresh, constructed, asyncAcceptLogIn]⟩⟩
  satisfied := fun h => by cases h
  preInit := fun h => by cases h

namespace EndInv

/-- More is known. -/
theorem mono {A B : Prop} (h : EndInv K T s) (hK : K → A) (hT : T → B) : EndInv A B s :=
  { h with
    book := h.book.mono hK id
    satisfied := fun hf => (h.satisfied hf).imp hK hT }

/-- The part of the invariant that any code keeps. -/
structure Kept (K : Prop) (s : Server) : Prop where
  book : s.toSession.EndBook K (s.dtor ≠ .notStarted)
  oneChannel : OneChannel s
  preInit : s.preInitErrCode = some .sessionFinished → s.channelFinished

/-- What does not depend on the promise. -/
theorem kept (h : EndInv K T s) : Kept K s := ⟨h.book, h.oneChannel, h.preInit⟩

/-- What any code keeps. -/
theorem Kept.updates (h : Kept K s) (hu : Updates cfg L s s')
    (hL : ∀ k, L k → k.FitsBook K (s.dtor ≠ .notStarted) s.channelFinished) : Kept K s' := by
  have hkeep : Kept K s' ∧ (s.channelFinished → s'.channelFinished) ∧ s'.dtor = s.dtor := by
    refine hu.keeps (P := fun t => Kept K t ∧ (s.channelFinished → t.channelFinished) ∧
      t.dtor = s.dtor) ⟨h, id, rfl⟩ fun t l t' ht hl hu => ?_
    obtain ⟨⟨hbook, hone, hpre⟩, hfin, hdt⟩ := ht
    have hfits : Mark.Within (Mark.FitsBook K (t.dtor ≠ .notStarted) t.channelFinished) l := by
      rw [hdt]
      exact fun k hk => (hL k (hl k hk)).mono hfin
    have hbook' := hu.endBook hfits hbook
    rw [← hu.dtor] at hbook'
    exact ⟨⟨hbook', hu.oneChannel hone, hu.preInit hfits hpre⟩,
      fun hf => hu.channelFinished (hfin hf), hu.dtor.trans hdt⟩
  exact hkeep.1

/-- Code other than the finisher's. -/
theorem updates (h : EndInv K T s) (hu : Updates cfg L s s') (hf : ¬ L .finisher)
    (hL : ∀ k, L k → k.FitsBook K (s.dtor ≠ .notStarted) s.channelFinished) : EndInv K T s' := by
  obtain ⟨hbook, hone, hpre⟩ := h.kept.updates hu hL
  have hkeep : s'.toSession.Barrier ∧ s'.gracefulFinisher = s.gracefulFinisher := by
    refine hu.keeps (P := fun t => t.toSession.Barrier ∧ t.gracefulFinisher = s.gracefulFinisher)
      ⟨h.barrier, rfl⟩ fun t l t' ht hl hu => ?_
    have hne : l ≠ some .finisher := fun he => hf (hl _ he)
    exact ⟨hu.barrier hne ht.1, (hu.gracefulFinisher hne).trans ht.2⟩
  obtain ⟨hbar, hg⟩ := hkeep
  exact ⟨hbook, hbar, hone, fun h' => h.satisfied (hg ▸ h'), hpre⟩

/-- Thread W takes a task. -/
theorem taken (cfg : Cfg) {t : Task} {b : Session} (h : EndInv K T s)
    (ht : s.takeTask = .done (t, b))
    (hdt : t.isDtor = false) : EndInv K T (s.setSession b) := by
  have htake : Updates cfg (fun _ => False) s (s.setSession b) := .of (.session (.takeTask hdt ht))
  exact h.updates htake id fun _ hk => hk.elim

/-- The error of the channel is reported. -/
theorem masterChannelError {b : Session} {chan : Nat} {e : Err} (h : EndInv K T s)
    (ht : s.takeTask = .done (.masterChannelError chan e, b))
    (hT : tellsFinisher cfg s (.run o) = true → T)
    (hd : (s.setSession b).onMasterChannelError cfg e = .done s') : EndInv K T s' := by
  obtain ⟨-, hq, hb⟩ := Session.takeTask_done ht
  -- The report is queued behind whatever the channel gave before.
  have hmem : Task.masterChannelError chan e ∈ s.queue := by rw [hq]; exact List.mem_cons_self
  have htake : Updates cfg (Mark.ofTask (.masterChannelError chan e)) s (s.setSession b) :=
    .of (.session (.takeTask rfl ht))
  have hall := htake.trans
    (onMasterChannelError_updates (.inl rfl) (.inr (.inl rfl)) (.inr (.inr rfl)) hd)
  obtain ⟨hbook, hone, hpre⟩ := h.kept.updates hall fun k hk => h.book.fits hmem hk
  have htaken := h.taken cfg ht rfl
  have hm : b.masterChannel = s.masterChannel := by rw [hb]
  simp only [onMasterChannelError] at hd
  split at hd
  -- A report of a channel that is gone is dropped.
  · cases hd
    exact htaken
  · rename_i hnone
    split at hd
    · -- the log-in fails, and the channel goes
      have hend : Updates cfg (fun _ => False) (s.setSession b) s' := logInFailed_updates hd
      exact htaken.updates hend id (fun _ hk => hk.elim)
    · rename_i hset
      split at hd
      · simp only [Outcome.bind_eq_done] at hd
        obtain ⟨-, -, hd⟩ := hd
        cases hd
        exact ⟨hbook, htaken.barrier, hone, htaken.satisfied, hpre⟩
      · rename_i ho
        obtain ⟨b₁, hb₁, rfl⟩ := liftUnit_done hd
        obtain ⟨ch, hch⟩ : ∃ ch, s.masterChannel = some ch := by
          cases hs : s.masterChannel with
          | some ch => exact ⟨ch, rfl⟩
          | none => rw [← hm] at hs; simp [hs] at hnone
        -- The error is of this very channel, so the barrier may rest on it.
        have herr : (Task.masterChannelError chan e).isErrorOf ch.id = true := by
          rw [h.oneChannel.channel ch hch, h.oneChannel.queued chan e hmem]
          rfl
        have hbar := h.barrier.onMasterChannelErrorPeer ht hch herr hb₁
        refine ⟨hbook, hbar, hone, fun hf => ?_, hpre⟩
        obtain ⟨b₂, h₂, h₃⟩ := Session.onMasterChannelErrorPeer_done hb₁
        rcases h₃ with ⟨hg, -, rfl⟩ | ⟨-, rfl⟩
        · have hset : s.logInOnDoneFuncSet = false := by simpa using hset
          have ho : s.onErrFuncSet = true := by
            have ho : b.onErrFuncSet = true := by simpa using ho
            rwa [hb] at ho
          exact .inr (hT (by simp [tellsFinisher, hq, hg, hch, hset, ho]))
        · -- the finisher is not told
          have hsame : b₁.gracefulFinisher = b.gracefulFinisher := by
            rcases h₂ with ⟨-, rfl⟩ | ⟨-, rfl⟩ <;> rfl
          exact htaken.satisfied (hsame ▸ hf)

/-- The peer's message is handled. -/
theorem gracefulSessionEnd (cfg : Cfg) {b b' : Session} {c : Nat} (h : EndInv K T s)
    (ht : s.takeTask = .done (.gracefulSessionEnd c, b))
    (hd : b.onGracefulSessionEnd = .done b') : EndInv K T (s.setSession b') := by
  obtain ⟨-, hq, hb⟩ := Session.takeTask_done ht
  have hmem : Task.gracefulSessionEnd c ∈ s.queue := by rw [hq]; exact List.mem_cons_self
  have htake : Updates cfg (Mark.ofTask (.gracefulSessionEnd c)) s (s.setSession b) :=
    .of (.session (.takeTask rfl ht))
  have hend : Updates cfg (Mark.ofTask (.gracefulSessionEnd c)) (s.setSession b)
      (s.setSession b') :=
    .session (Session.onGracefulSessionEnd_updates (.inl rfl) (.inr rfl) hd)
  obtain ⟨hbook, hone, hpre⟩ :=
    h.kept.updates (htake.trans hend) fun k hk => h.book.fits hmem hk
  exact ⟨hbook, h.barrier.onGracefulSessionEnd ht hd, hone,
    fun _ => .inl (h.book.queued c hmem), hpre⟩

/-- `init_handlers()`: the finisher is engaged. -/
theorem initHandlers {passiveOpen : Bool} (h : EndInv K T s) (hp : Phases cfg s)
    (ha : s.accepted = true) (hd : s.initHandlers cfg passiveOpen o = .done s') :
    EndInv K T s' := by
  have hmarks := initHandlers_updates (L := fun k => k = .finisher ∨ k = .expect) (.inl rfl)
    (.inr rfl) ha hd
  obtain ⟨hbook, hone, hpre⟩ :=
    h.kept.updates hmarks fun k hk => by rcases hk with rfl | rfl <;> trivial
  -- Posting behind a barrier leaves the barrier standing.
  have same : ∀ {b : Session}, b.queue = s.queue ∨ b.queue = s.queue ++ [.preInitError] →
      b.gracefulFinisher = s.gracefulFinisher → b.masterChannel = s.masterChannel →
      b.Barrier ∧ (b.gracefulFinisher = some true → K ∨ T) := by
    intro b hq hf hm
    refine ⟨?_, fun h' => h.satisfied (hf ▸ h')⟩
    rcases hq with hq | hq
    · exact h.barrier.of_same hq hf (.inl hm)
    · exact h.barrier.of_posts hq (by simp [Task.isBeside]) hf
        fun ch hch => ⟨ch, hm ▸ hch, .refl ch⟩
  simp only [Server.initHandlers] at hd
  split at hd
  · cases hd
    obtain ⟨hbar, hsat⟩ := same (b := s.record (.initHandlersReturned false) |>.toSession)
      (.inl rfl) rfl rfl
    exact ⟨hbook, hbar, hone, hsat, hpre⟩
  -- First call: no finisher exists yet.
  · rename_i ho
    have hno : s.gracefulFinisher = none := hp.no_finisher (by simpa using ho)
    simp only [Outcome.bind_eq_done] at hd
    obtain ⟨-, -, hd⟩ := hd
    split at hd
    · simp only [Outcome.bind_eq_done] at hd
      obtain ⟨-, -, hd⟩ := hd
      cases hd
      obtain ⟨hbar, hsat⟩ := same (b := (s.setHandlers passiveOpen |>.post .preInitError).toSession)
        (.inr rfl) rfl rfl
      exact ⟨hbook, hbar.of_same rfl rfl (.inl rfl), hone, hsat, hpre⟩
    · simp only [Outcome.bind_eq_done, Prod.exists] at hd
      obtain ⟨ok, s₁, h₁, hd⟩ := hd
      obtain ⟨b₁, hb₁, rfl⟩ := lift_done h₁
      -- Expecting the user's requests may flush the cache, but no end is taken by it.
      have hset : (s.setHandlers passiveOpen).toSession.Barrier :=
        h.barrier.of_same rfl rfl (.inl rfl)
      have hexp : (s.setHandlers passiveOpen).toSession.Updates (· = .expect) b₁ :=
        Session.expectOpenChannelReqs_updates rfl hb₁
      have hbar₁ : b₁.Barrier := hexp.barrier (fun hk => by cases hk) hset
      have hno₁ : b₁.gracefulFinisher = none :=
        (hexp.gracefulFinisher fun hk => by cases hk).trans hno
      split at hd
      · simp only [Outcome.bind_eq_done] at hd
        obtain ⟨s₂, h₂, hd⟩ := hd
        obtain ⟨b₂, hb₂, rfl⟩ := liftUnit_done h₂
        cases hd
        -- The finisher is created unfulfilled; its expectation may take a cached end, behind the
        -- requests.
        have hbar₂ : b₂.Barrier := hbar₁.emplaceGracefulFinisher hno₁ hb₂
        refine ⟨hbook, hbar₂.of_same rfl rfl (.inl rfl), hone, fun hf => ?_, hpre⟩
        have hf : b₂.gracefulFinisher = some true := hf
        obtain ⟨ch, -, hr⟩ := Session.emplaceGracefulFinisher_done hb₂
        cases hr <;> cases hf
      · cases hd
        refine ⟨hbook, hbar₁.of_same rfl rfl (.inl rfl), hone, fun hf => ?_, hpre⟩
        have hf : b₁.gracefulFinisher = some true := hf
        rw [hno₁] at hf
        cases hf

/-- The first task of the log-in makes the channel. -/
theorem acceptLogIn {b : Session} (h : EndInv K T s) (hp : Phases cfg s)
    (ht : s.takeTask = .done (.acceptLogIn, b)) (hd : (s.setSession b).acceptLogIn o = .done s') :
    EndInv K T s' := by
  obtain ⟨hp₁, hcount, hm, hset⟩ := hp.atAccept ht
  obtain ⟨hbook, hbar, hone, hsat, -⟩ := h.taken cfg ht rfl
  obtain ⟨-, hq, hb⟩ := Session.takeTask_done ht
  have hmb : b.masterChannel = none := by rw [hb]; exact hm
  -- nothing of a channel is queued yet, nor is the task itself any more
  have hnone : ∀ c e, Task.masterChannelError c e ∉ b.queue := by
    intro c e hmem
    refine (h.oneChannel.early (by rw [hq]; exact List.mem_cons_self)).2 c e ?_
    rw [hq]
    exact List.mem_cons_of_mem _ hmem
  have hnot : Task.acceptLogIn ∉ b.queue := by
    intro hmem
    have hz := List.countP_eq_zero.mp hcount _ hmem
    exact hz rfl
  have hnoErr : ∀ t ∈ b.queue, t.isErrorOf 0 = false := by
    intro t ht
    cases t with
    | masterChannelError c e => exact absurd ht (hnone c e)
    | _ => rfl
  have hpre : s'.preInitErrCode = none := by
    have hlog := (hp₁.logIn hset).2.1
    rcases acceptLogIn_done hd with ⟨hset', e⟩ | ⟨hm', hs₁, hl, hdid, hl'⟩
    · exact hlog
    · exact (hl.trans hl').preInitErrCode.trans hlog
  have hmade : (b.setChannel (.fresh 0 true)).Barrier :=
    hbar.makeChannel (Session.setChannel_masterChannel _ _) rfl hnoErr rfl rfl
  have hmadeBook : (b.setChannel (.fresh 0 true)).EndBook K (b.dtor ≠ .notStarted) :=
    hbook.makeChannel rfl
  have hall : ∀ c, AcceptSession b c → c.EndBook K (c.dtor ≠ .notStarted) ∧ c.Barrier ∧
      (∀ ch, c.masterChannel = some ch → ch.id = 0) ∧
      (∀ chan e, Task.masterChannelError chan e ∈ c.queue → chan = 0) ∧
      Task.acceptLogIn ∉ c.queue ∧ c.gracefulFinisher = b.gracefulFinisher := by
    intro c hc
    cases hc with
    | failed e out =>
      refine ⟨hbook.record rfl, hbar.of_same rfl rfl (.inl rfl), fun ch hch => ?_,
        fun chan e hmem => absurd hmem (hnone chan e), hnot, rfl⟩
      have hch : b.masterChannel = some ch := hch
      rw [hmb] at hch
      cases hch
    | refused e =>
      refine ⟨hmadeBook.emitError rfl e, hmade.emitError rfl e, fun ch hch => ?_,
        fun chan e' hmem => ?_, ?_, rfl⟩
      · cases hch
        rfl
      · rcases List.mem_append.mp hmem with hmem | hmem
        · exact absurd hmem (hnone chan e')
        · cases List.mem_singleton.mp hmem
          rfl
      · simpa using hnot
    | expecting =>
      refine ⟨hbook.makeChannel rfl, hbar.makeChannel (Session.setChannel_masterChannel _ _) rfl
        hnoErr rfl rfl, fun ch hch => ?_,
        fun chan e hmem => absurd hmem (hnone chan e), hnot, rfl⟩
      cases hch
      rfl
  obtain ⟨hbook', hbar', hchannel, hqueued, hnot', hg⟩ := hall _ (acceptLogIn_session hd)
  exact ⟨hbook', hbar', ⟨hchannel, hqueued, fun hmem => absurd hmem hnot'⟩,
    fun hf => hsat (hg ▸ hf), fun hf => by rw [hpre] at hf; cases hf⟩

/-- The log-in request is handled: it is checked first. -/
theorem onLogInReq {m : Msg} (h : EndInv K T s) (hw : s.w.isServing = true)
    (hd : s.onLogInReq cfg m o = .done s') : EndInv K T s' := by
  obtain ⟨r, e, s₁, -, hc, hu, -⟩ := onLogInReq_updates hw hd
  refine EndInv.updates ?_ hu (fun hk => by cases hk) fun k hk => Session.fits_of_logIn (.inr hk)
  have hres := checkLogInReq_done hc
  have hpre := hres.same.preInitErrCode
  have hall : s₁.toSession.EndBook K (s₁.dtor ≠ .notStarted) ∧ s₁.toSession.Barrier ∧
      s₁.masterChannel = s.masterChannel ∧ s₁.queue = s.queue ∧
      s₁.gracefulFinisher = s.gracefulFinisher ∧ (s.channelFinished → s₁.channelFinished) := by
    cases hres with
    | rejected e hb hl =>
      rw [hb]
      exact ⟨h.book, h.barrier, rfl, rfl, rfl, id⟩
    | passed hn hname hb hl =>
      rw [hb]
      have hput : ∀ b : Session, b.EndBook K (s.dtor ≠ .notStarted) →
          (b.putCliNamespace o.cliNamespace).EndBook K (s.dtor ≠ .notStarted) :=
        fun b hb => hb.of_same (.inl rfl) rfl rfl rfl (fun _ hp => hp) rfl
      refine ⟨(hput _ (h.book.record rfl)).record rfl, h.barrier.of_same rfl rfl (.inl rfl), rfl,
        rfl,
        rfl, fun hf => ?_⟩
      exact Session.channelFinished_of_log
        (v := [.cliNamespaceTaken o.cliNamespace, .preRspSetupRan])
        hf (by simp [Session.record, Session.putCliNamespace])
  obtain ⟨hbook, hbar, hm, hq, hg, hfin⟩ := hall
  exact ⟨hbook, hbar, h.oneChannel.keep hm hq, fun hf => h.satisfied (hg ▸ hf),
    fun hf => hfin (h.preInit (hpre ▸ hf))⟩

/-- Thread W runs a task. -/
theorem runTask {t : Task} {b : Session} (h : EndInv K T s) (hp : Phases cfg s) (hn : Named s)
    (ht : s.takeTask = .done (t, b)) (hdt : t.isDtor = false)
    (hT : tellsFinisher cfg s (.run o) = true → T)
    (hd : (s.setSession b).runTask cfg o t = .done s') : EndInv K T s' := by
  obtain ⟨hw, hq, hb⟩ := Session.takeTask_done ht
  have hwb : b.w = .idle := by rw [hb]; exact hw
  have hmem : t ∈ s.queue := by rw [hq]; exact List.mem_cons_self
  have htaken := h.taken cfg ht hdt
  have hnamed : (s.setSession b).onErrFuncSet = true → (s.setSession b).cliNamespace ≠ [] := by
    have hbn : b.onErrFuncSet = true → b.cliNamespace ≠ [] := by
      rw [hb]
      exact fun ho => hn.accepted (hp.peer ho)
    exact hbn
  -- code other than the finisher's, the log-in's first two tasks and the destructor's
  have other : t.isAcceptLogIn = false → t.isLogInReq = false → t.isInitHandlers = false →
      ¬ marksOf (s.setSession b) t .finisher →
      (∀ k, marksOf (s.setSession b) t k → k.FitsBook K (s.dtor ≠ .notStarted) s.channelFinished) →
      EndInv K T s' := by
    intro hacc hreq hini hnf hfits
    have hrun := runTask_updates hwb hdt hacc hreq (fun h' => by rw [hini] at h'; cases h') hnamed
        hd
    have htake : Updates cfg (marksOf (s.setSession b) t) s (s.setSession b) :=
      .of (.session (.takeTask hdt ht))
    exact h.updates (htake.trans hrun) hnf hfits
  have hfits : ∀ k, Mark.ofTask t k → k.FitsBook K (s.dtor ≠ .notStarted) s.channelFinished :=
    fun k hk => h.book.fits hmem hk
  cases t with
  | masterChannelError chan e => exact h.masterChannelError ht hT hd
  | gracefulSessionEnd c =>
    obtain ⟨b', hb', rfl⟩ := liftUnit_done hd
    exact h.gracefulSessionEnd cfg ht hb'
  | acceptLogIn => exact h.acceptLogIn hp ht hd
  | logInReq chan m =>
    have hwb : (s.setSession b).w.isServing = true := by
      have hwb : b.w.isServing = true := by rw [hwb]; rfl
      exact hwb
    exact htaken.onLogInReq hwb hd
  | initHandlers passiveOpen =>
    have hpb : Phases cfg (s.setSession b) := hp.takeTask ht rfl
    exact htaken.initHandlers hpb (hp.accepted_of_initHandlers ht) hd
  | preInitError =>
    refine other rfl rfl rfl (fun ⟨_, _, hk⟩ => by cases hk) fun k ⟨e, he, hk⟩ => ?_
    subst hk
    rintro rfl
    exact .inr (.inr (h.preInit he))
  | openChannelReq =>
    exact other rfl rfl rfl (fun hk => by rcases hk with hk | ⟨_, _, _, hk⟩ <;> cases hk) hfits
  | openChannel =>
    exact other rfl rfl rfl (fun hk => by rcases hk with hk | ⟨_, hk⟩ <;> cases hk) hfits
  | sessionToken => exact other rfl rfl rfl (fun ⟨_, hk⟩ => by cases hk) hfits
  | mdtBuilder => exact other rfl rfl rfl (fun hk => by cases hk) hfits
  | logInRsp => cases hd
  | initOpenChannel => cases hd
  | asyncConnect => cases hd
  | _ => cases hdt

/-- What the destructor does in thread U. -/
theorem dtorAct {b : Session} (h : EndInv K T s) (ha : s.toSession.DtorAct b) :
    EndInv K T (s.setSession b) := by
  obtain ⟨hm, hq⟩ := ha.channel
  have hg := ha.gracefulFinisher
  have hlog : b.log = s.log := by cases ha <;> rfl
  have hearly : Task.acceptLogIn ∈ b.queue → Task.acceptLogIn ∈ s.queue := by
    cases ha <;> exact fun hmem => by simpa using hmem
  refine ⟨(ha.endBook h.book).mono id ha.started, ha.barrier h.barrier,
    ⟨fun ch hch => h.oneChannel.channel ch (hm ▸ hch), fun c e hmem =>
      h.oneChannel.queued c e (hq c e hmem), fun hmem => ?_⟩, fun hf => h.satisfied (hg ▸ hf),
    fun hf => ?_⟩
  · obtain ⟨hnone, hno⟩ := h.oneChannel.early (hearly hmem)
    exact ⟨hm.trans hnone, fun c e hmem => hno c e (hq c e hmem)⟩
  · have hfin := h.preInit hf
    rw [Session.channelFinished, ← hlog] at hfin
    exact hfin


/-- A task of the destructor in thread W. -/
theorem dtorTask (cfg : Cfg) {t : Task} {b b' : Session} (h : EndInv K T s)
    (ht : s.takeTask = .done (t, b))
    (hb : b.DtorTask t b') : EndInv K T (s.setSession b') := by
  obtain ⟨-, hq, hs⟩ := Session.takeTask_done ht
  have hdtor : b.dtor = s.dtor := by rw [hs]
  have hm : b.masterChannel = s.masterChannel := by rw [hs]
  have hgb : b.gracefulFinisher = s.gracefulFinisher := by rw [hs]
  have hlog : b.log = s.log := by rw [hs]
  have hbook : b.EndBook K (s.dtor ≠ .notStarted) := h.book.takeTask ht
  have hone : OneChannel (s.setSession b) := by
    refine h.oneChannel.of_same (fun ch hch => ⟨ch, hm ▸ hch, rfl⟩) fun u hu => .inl ?_
    rw [hq]
    exact List.mem_cons_of_mem t hu
  have hfin : s.channelFinished → b.channelFinished := fun hf => by
    rw [Session.channelFinished, hlog]
    exact hf
  have hg := hb.gracefulFinisher.trans hgb
  have hstarted : s.dtor ≠ .notStarted → b'.dtor ≠ .notStarted := fun hn => hb.started (hdtor ▸ hn)
  have hrest : OneChannel (s.setSession b') := by
    cases hb with
    | sendEnd hf hu hw =>
      rename_i b₁
      have hu' : Updates cfg _ (s.setSession b) (s.setSession b₁) :=
        Updates.session (s := s.setSession b) hu
      have h₁ : OneChannel (s.setSession b₁) :=
        hu'.keeps hone fun _ _ _ ht _ hu => hu.oneChannel ht
      exact h₁.keep rfl rfl
    | _ => exact hone.keep rfl rfl
  exact ⟨hb.endBook (hbook.mono id hstarted) id, hb.barrier (h.barrier.takeTask ht), hrest,
    fun hf => h.satisfied (hg ▸ hf), fun hf => hb.log.2 (hfin (h.preInit hf))⟩

/-- **Every step keeps the invariant.** -/
theorem step {a : Act} (h : EndInv K T s) (hp : Phases cfg s) (hn : Named s)
    (hK : ∀ m, a = .deliver m → m.isEnd = true → K) (hT : tellsFinisher cfg s a = true → T)
    (hd : Server.step cfg s a = .done s') : EndInv K T s' := by
  cases step_updates hp hn hd with
  | dtorAct ha hstart => exact h.dtorAct ha
  | dtorTask ht hb hf => exact h.dtorTask cfg ht hb
  | acceptLogIn ht hd => exact h.acceptLogIn hp ht hd
  | @logInReq o b chan m s₁ ht hd =>
    obtain ⟨hw, -, hb⟩ := Session.takeTask_done ht
    have hwb : b.w.isServing = true := by rw [hb, hw]; rfl
    exact (h.taken cfg ht rfl).onLogInReq hwb hd
  -- At the end a pending log-in may be told; queue, finisher and channel are as they were.
  | returned hdt hs =>
    have hset : EndInv K T (s.setSession (s.setDtor .returned)) := by
      refine ⟨?_, h.barrier.of_same rfl rfl (.inl rfl), h.oneChannel.keep rfl rfl, h.satisfied,
        h.preInit⟩
      exact (h.book.mono id fun _ => nofun).of_same (.inl rfl) rfl rfl rfl (fun _ hp => hp) rfl
    rcases hs with rfl | rfl
    · exact hset
    · exact ⟨hset.book.record rfl, hset.barrier.of_same rfl rfl (.inl rfl),
        hset.oneChannel.keep rfl rfl, hset.satisfied,
        fun hf => Session.channelFinished_of_log (hset.preInit hf) rfl⟩
  | common hu =>
    cases a with
    | run o =>
      simp only [Server.step, Outcome.bind_eq_done, Prod.exists] at hd
      obtain ⟨t, s₁, h₁, hd⟩ := hd
      obtain ⟨b, hb, rfl⟩ := lift_done h₁
      cases hdt : t.isDtor with
      | false => exact h.runTask hp hn hb hdt hT hd
      | true =>
        cases t with
        | dtorFinisherQuery => cases hd; exact h.dtorTask cfg hb .finisherQuery
        | dtorSendEnd =>
          obtain ⟨b', hb', rfl⟩ := liftUnit_done hd
          exact h.dtorTask (s := s) cfg hb (Session.dtorSendEnd_task hb')
        | dtorFlush => cases hd; exact h.dtorTask cfg hb (Session.dtorFlush_task _)
        | _ => cases hdt
    -- An end may arrive: then the peer sent it.
    | deliver m =>
      refine h.updates hu (fun hk => by cases hk) (fun k hk => ?_)
      cases hk
      exact hK m rfl
    -- The user's calls hose under their own code, which is no end.
    | openChannel call =>
      exact h.updates hu (fun hk => by cases hk) fun k => Session.fits_of_isOpenChannel
    | syncReturn r =>
      exact h.updates hu (fun hk => by cases hk) fun k => Session.fits_of_isOpenChannel
    | _ => exact h.updates hu id fun k hk => hk.elim

end EndInv

/-- A destructor that has started has started for good. -/
theorem step_started {a : Act} (hp : Phases cfg s) (hn : Named s) (hd : step cfg s a = .done s')
    (hs : s.dtor ≠ .notStarted) : s'.dtor ≠ .notStarted := by
  cases step_updates hp hn hd with
  | common hu =>
    rw [hu.dtor]
    exact hs
  | acceptLogIn ht hd =>
    have hb := (Session.takeTask_done ht).2.2
    have hsame := acceptLogIn_session hd
    generalize s'.toSession = c at hsame ⊢
    cases hsame <;> rw [hb] <;> exact hs
  | @logInReq o b chan m s₁ ht hd =>
    obtain ⟨hw, -, hb⟩ := Session.takeTask_done ht
    have hwb : b.w.isServing = true := by rw [hb, hw]; rfl
    obtain ⟨r, e, s₂, -, hc, hu, -⟩ := onLogInReq_updates hwb hd
    have hdt : s₂.dtor = s.dtor := by
      cases checkLogInReq_done hc with
      | rejected e hb' hl => rw [hb', setSession_toSession, hb]
      | passed hn hname hb' hl => rw [hb', setSession_toSession, hb]; rfl
    rw [hu.dtor, hdt]
    exact hs
  | dtorAct ha hstart => exact ha.started hs
  | dtorTask ht hb hf =>
    have hdt := (Session.takeTask_done ht).2.2
    exact hb.started (by rw [hdt]; exact hs)
  | returned hdt hs' => rcases hs' with rfl | rfl <;> exact nofun

end Server

end IpcSession
