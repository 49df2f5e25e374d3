import IpcSession.Base.Barrier
import IpcSession.Base.Flush
import IpcSession.Client.Calls
import IpcSession.Client.Updates

namespace IpcSession

/-!
# The barrier of a graceful finish, on the client's side

* `Client.tellsFinisher` — the steps in which an error of the channel is reported to the finisher.
* `Client.EndInv K T` — the barrier and the book, and that only the peer's `GracefulSessionEnd`, as
  `K` says, or such a report, as `T` says, fulfils the promise.
* `Client.EndInv.step` — **every step keeps it.**
-/

namespace Client

variable {cfg : Cfg} {s s' : Client} {o : ClientOracle} {l : Option Mark} {L : Mark → Prop}
  {K D T : Prop}

/-- The step runs `Graceful_finisher::on_master_channel_hosed()`. -/
def tellsFinisher (cfg : Cfg) (s : Client) : Act → Bool
  | .run _ =>
    match s.queue.head? with
    | some (.masterChannelError chan _) =>
      cfg.gracefulFinishRequired && s.state = .peer && s.masterChannel.map (·.id) = some chan
    | _ => false
  | _ => false

/-- The channels are numbered in the order in which they are made. -/
structure Numbered (s : Client) : Prop where
  channel : ∀ ch, s.masterChannel = some ch → ch.id < s.nextChan
  queued : ∀ c e, Task.masterChannelError c e ∈ s.queue → c < s.nextChan

/-- No update makes a channel: those that there are have been numbered. -/
theorem Update.numbered (hu : Update s l s') (h : Numbered s) : Numbered s' := by
  cases hu with
  | session hu =>
    refine ⟨fun ch' hm' => ?_, fun c e hmem => ?_⟩
    · obtain ⟨ch, hm, hsame⟩ := hu.channel hm'
      rw [hsame.id]
      exact h.channel ch hm
    · rcases hu.reported hmem with hmem | ⟨ch, hm, rfl⟩
      · exact h.queued c e hmem
      · exact h.channel ch hm
  | postConnect attempt subClass b =>
    refine ⟨h.channel, fun c e hmem => ?_⟩
    rcases List.mem_append.mp hmem with hmem | hmem
    · exact h.queued c e hmem
    · cases List.mem_singleton.mp hmem
  | makeChannel hm =>
    refine ⟨fun ch hch => ?_, fun c e hmem => Nat.lt_succ_of_lt (h.queued c e hmem)⟩
    cases hch
    exact Nat.lt_succ_self _
  | dropChannel => exact ⟨nofun, h.queued⟩
  | awaitRsp hm hh id attempt =>
    refine ⟨fun ch hch => ?_, h.queued⟩
    have hlt := h.channel _ hm
    cases hch
    exact hlt
  | expectInit hm hh cap =>
    refine ⟨fun ch hch => ?_, fun c e hmem => ?_⟩
    · have hlt := h.channel _ hm
      cases hch
      exact hlt
    · rcases List.mem_append.mp hmem with hmem | hmem
      · exact h.queued c e hmem
      · obtain ⟨m, -, hm⟩ := List.mem_map.mp hmem
        cases hm
  | _ => exact ⟨h.channel, h.queued⟩

/-- **Every update but those of the finisher keeps the barrier.** -/
theorem Update.barrier (hu : Update s l s') (hl : l ≠ some .finisher) (hn : Numbered s)
    (h : s.toSession.Barrier) : s'.toSession.Barrier := by
  cases hu with
  | session hu => exact hu.barrier hl h
  | postConnect attempt subClass b =>
    exact h.of_posts (u := [.asyncConnect attempt subClass b]) rfl (by simp [Task.isBeside]) rfl
      fun ch hch => ⟨ch, hch, .refl ch⟩
  | makeChannel hm =>
    -- no report in the queue is of the new channel
    have hnone : ∀ t ∈ s.queue, t.isErrorOf s.nextChan = false := by
      intro t ht
      cases t with
      | masterChannelError c e =>
        have hlt := hn.queued c e ht
        exact decide_eq_false (Nat.ne_of_lt hlt)
      | _ => rfl
    have hmade : s.makeChannel.masterChannel = some (.fresh s.nextChan false) := rfl
    exact h.makeChannel hmade rfl hnone rfl rfl
  | dropChannel => exact h.of_same rfl rfl (.inr rfl)
  | awaitRsp hm hh id attempt =>
    exact h.setChannel (u := []) hm rfl ⟨rfl, fun h => h, fun h => h⟩ (List.append_nil _).symm
      (by simp) rfl
  | expectInit hm hh cap =>
    refine h.setChannel hm rfl ⟨rfl, fun h => h, fun h => h⟩ (Session.flushTo_queue _ _ _)
      (fun t ht => ?_) rfl
    obtain ⟨m, -, rfl⟩ := List.mem_map.mp ht
    rfl
  | _ => exact h.of_same rfl rfl (.inl rfl)

/-- **Every update keeps the book**, if its marks fit. -/
theorem Update.endBook (hu : Update s l s')
    (hl : Mark.Within (Mark.FitsBook K D s.channelFinished) l)
    (h : s.toSession.EndBook K D) : s'.toSession.EndBook K D := by
  cases hu with
  | session hu => exact hu.endBook hl h
  | @mark e he => exact h.record (by cases e <;> first | rfl | cases he)
  | postConnect attempt subClass b => exact h.post rfl rfl
  | makeChannel hm => exact h.makeChannel rfl
  | dropChannel => exact h.of_same (.inr rfl) rfl rfl rfl (fun _ hp => hp) rfl
  | awaitRsp hm hh id attempt => exact h.setChannel hm fun _ hm => hm
  | @expectInit ch hm hh cap =>
    refine h.adds (u := _) (v := []) (fun ch' hch' => ⟨ch, hm, ?_⟩) (Session.flushTo_queue _ _ _)
      ?_ (List.append_nil _).symm (by simp) rfl (fun _ hp => hp) rfl
    · cases hch'
      exact fun m hm => (List.mem_filter.mp hm).1
    · intro t ht
      obtain ⟨m, -, rfl⟩ := List.mem_map.mp ht
      exact ⟨rfl, rfl⟩
  | _ => exact h.of_same (.inl rfl) rfl rfl rfl (fun _ hp => hp) rfl

/-- Unless it is a call of its own that failed, the session hoses itself in PEER state only. -/
theorem Update.early (hu : Update s l s')
    (hl : ∀ e site, l = some (.hose e site) → site.isOwnCall = true) {site : HoseSite}
    (hm : Event.onErr .sessionFinished site ∈ s'.log) :
    Event.onErr .sessionFinished site ∈ s.log ∨ s.channelFinished := by
  cases hu with
  | session hu =>
    rcases hu.onErr_mem hm with hm | ⟨hk, hc⟩
    · exact .inl hm
    · exact .inr ⟨false, hc (hl _ _ hk)⟩
  | @mark e he =>
    rcases List.mem_append.mp hm with hm | hm
    · exact .inl hm
    · rw [← List.mem_singleton.mp hm] at he
      cases he
  | expectInit hm' hh cap =>
    have hm : Event.onErr .sessionFinished site ∈ (s.toSession.flushTo _ _).log := hm
    rw [Session.flushTo_log] at hm
    exact .inl hm
  | _ => exact .inl hm

/-- A channel that has finished does not come back. -/
theorem Update.channelFinished (hu : Update s l s') (h : s.channelFinished) :
    s'.channelFinished := by
  cases hu with
  | session hu => exact hu.channelFinished h
  | mark he => exact Session.channelFinished_of_log h rfl
  | expectInit hm hh cap => exact h
  | _ => exact h

/-- An update without the mark of the finisher leaves it alone. -/
theorem Update.gracefulFinisher (hu : Update s l s') (hl : l ≠ some .finisher) :
    s'.gracefulFinisher = s.gracefulFinisher := by
  cases hu with
  | session hu => exact hu.gracefulFinisher hl
  | _ => rfl

/-- No update is a step of the destructor. -/
theorem Update.dtor (hu : Update s l s') : s'.dtor = s.dtor := by
  cases hu with
  | session hu => exact hu.dtor
  | _ => rfl

/-! ### The invariant -/

/-- The barrier and the book; and only the peer's `GracefulSessionEnd`, as `K` says, or the report
    of an error, as `T` says, fulfils the promise of a finisher. -/
structure EndInv (K T : Prop) (s : Client) : Prop where
  book : s.toSession.EndBook K (s.dtor ≠ .notStarted)
  barrier : s.toSession.Barrier
  numbered : Numbered s
  satisfied : s.gracefulFinisher = some true → K ∨ T
  peer : s.gracefulFinisher.isSome = true → s.state = .peer
  /-- Before PEER state, too, a call may fail and tell the user so. -/
  early : s.state ≠ .peer → ∀ site, Event.onErr .sessionFinished site ∈ s.log → s.channelFinished

/-- Nothing has been said of an end yet. -/
theorem endInv_fresh (passiveOpen : Bool) : EndInv K T (fresh passiveOpen) where
  book :=
    { cached := fun _ h => by cases h
      queued := fun _ h => by cases h
      reported := fun _ h => by cases h
      onErr := fun _ h => by cases h
      once := rfl
      builders := fun _ _ h => by cases h
      tasks := fun _ _ h => by cases h
      sent := fun _ h => by cases h }
  barrier := .constructed rfl rfl
  numbered := ⟨fun _ h => (by cases h), fun _ _ h => (by cases h)⟩
  satisfied := fun h => by cases h
  peer := fun h => by cases h
  early := fun _ _ h => by cases h

namespace EndInv

/-- More is known. -/
theorem mono {A B : Prop} (h : EndInv K T s) (hK : K → A) (hT : T → B) : EndInv A B s :=
  { h with
    book := h.book.mono hK id
    satisfied := fun hf => (h.satisfied hf).imp hK hT }

/-- What any code keeps. -/
theorem keeps (h : EndInv K T s) (hu : Updates L s s')
    (hL : ∀ k, L k → k.FitsBook K (s.dtor ≠ .notStarted) s.channelFinished) :
    s'.toSession.EndBook K (s'.dtor ≠ .notStarted) ∧ Numbered s' := by
  have hkeep : s'.toSession.EndBook K (s.dtor ≠ .notStarted) ∧ Numbered s' ∧
      (s.channelFinished → s'.channelFinished) ∧ s'.dtor = s.dtor := by
    refine hu.keeps (P := fun t => t.toSession.EndBook K (s.dtor ≠ .notStarted) ∧ Numbered t ∧
      (s.channelFinished → t.channelFinished) ∧ t.dtor = s.dtor) ⟨h.book, h.numbered, id, rfl⟩
      fun t l t' ht hl hu => ?_
    obtain ⟨hbook, hnum, hfin, hdt⟩ := ht
    exact ⟨hu.endBook (fun k hk => (hL k (hl k hk)).mono hfin) hbook, hu.numbered hnum,
      fun h' => hu.channelFinished (hfin h'), hu.dtor.trans hdt⟩
  obtain ⟨hbook, hnum, -, hdt⟩ := hkeep
  exact ⟨by rw [hdt]; exact hbook, hnum⟩

/-- Code other than the finisher's. -/
theorem updates (h : EndInv K T s) (hu : Updates L s s') (hf : ¬ L .finisher)
    (hL : ∀ k, L k → k.FitsBook K (s.dtor ≠ .notStarted) s.channelFinished)
    (hown : ∀ e site, L (.hose e site) → site.isOwnCall = true)
    (hst : s.state = .peer → s'.state = .peer) : EndInv K T s' := by
  obtain ⟨hbook, hnum⟩ := h.keeps hu hL
  obtain ⟨hfin, hearly⟩ : (s.channelFinished → s'.channelFinished) ∧
      ∀ site, Event.onErr .sessionFinished site ∈ s'.log →
        Event.onErr .sessionFinished site ∈ s.log ∨ s'.channelFinished := by
    refine hu.keeps (P := fun t => (s.channelFinished → t.channelFinished) ∧
      ∀ site, Event.onErr .sessionFinished site ∈ t.log →
        Event.onErr .sessionFinished site ∈ s.log ∨ t.channelFinished)
      ⟨id, fun _ hm => .inl hm⟩ fun t l t' ht hl hu => ?_
    refine ⟨fun hf => hu.channelFinished (ht.1 hf), fun site hm => ?_⟩
    rcases hu.early (fun e site hk => hown e site (hl _ hk)) hm with hm | hf
    · exact (ht.2 site hm).imp id hu.channelFinished
    · exact .inr (hu.channelFinished hf)
  have hkeep : s'.toSession.Barrier ∧ Numbered s' ∧ s'.gracefulFinisher = s.gracefulFinisher := by
    refine hu.keeps (P := fun t => t.toSession.Barrier ∧ Numbered t ∧
      t.gracefulFinisher = s.gracefulFinisher) ⟨h.barrier, h.numbered, rfl⟩ fun t l t' ht hl hu =>
        ?_
    have hne : l ≠ some .finisher := fun he => hf (hl _ he)
    exact ⟨hu.barrier hne ht.2.1 ht.1, hu.numbered ht.2.1, (hu.gracefulFinisher hne).trans ht.2.2⟩
  obtain ⟨hbar, -, hg⟩ := hkeep
  refine ⟨hbook, hbar, hnum, fun h' => h.satisfied (hg ▸ h'), fun h' => hst (h.peer (hg ▸ h')),
    fun hs site hm => ?_⟩
  rcases hearly site hm with hm | hf
  · exact hfin (h.early (fun hp => hs (hst hp)) site hm)
  · exact hf

/-- Out of PEER state there is no finisher. -/
theorem no_finisher (h : EndInv K T s) (hs : s.state ≠ .peer) : s.gracefulFinisher = none := by
  cases hf : s.gracefulFinisher with
  | none => rfl
  | some f => exact absurd (h.peer (by rw [hf]; rfl)) hs

/-- The error of the channel is reported. -/
theorem masterChannelError {b : Session} {chan : Nat} {e : Err} (h : EndInv K T s)
    (ht : s.takeTask = .done (.masterChannelError chan e, b))
    (hT : tellsFinisher cfg s (.run o) = true → T)
    (hd : (s.setSession b).onMasterChannelError cfg chan e = .done s') : EndInv K T s' := by
  obtain ⟨-, hq, hb⟩ := Session.takeTask_done ht
  have htake : Updates (Mark.ofTask (.masterChannelError chan e)) s (s.setSession b) :=
    .of (.session (.takeTask rfl ht))
  have hfits : ∀ k, Mark.ofTask (.masterChannelError chan e) k →
      k.FitsBook K (s.dtor ≠ .notStarted) s.channelFinished :=
    fun k hk => h.book.fits (by rw [hq]; exact List.mem_cons_self) hk
  have hall := htake.trans (onMasterChannelError_updates (.inl rfl) (.inr (.inl rfl)) hd)
  obtain ⟨hbook, hnum⟩ := h.keeps hall hfits
  have htaken : EndInv K T (s.setSession b) := by
    have htake' : Updates (fun _ => False) s (s.setSession b) := .of (.session (.takeTask rfl ht))
    exact h.updates htake' id (fun _ hk => hk.elim) (fun _ _ hk => hk.elim) id
  have hm : b.masterChannel = s.masterChannel := by rw [hb]
  simp only [onMasterChannelError] at hd
  split at hd
  · cases hd
    exact htaken
  · rename_i hchan
    have hchan : s.masterChannel.map (·.id) = some chan := by
      rw [← hm]
      simpa using hchan
    split at hd
    · cases hd
    · rename_i hs
      have hs : s.state = .connecting := hs
      simp only [Outcome.bind_eq_done] at hd
      obtain ⟨-, -, hd⟩ := hd
      -- the attempt ends with the channel
      have hend : Updates (fun _ => False) (s.setSession b) s' :=
        (backToNull_updates _).trans (invokeConnOnDoneFunc_updates hd)
      refine htaken.updates hend id (fun _ hk => hk.elim) (fun _ _ hk => hk.elim) fun hp => ?_
      have hp : s.state = .peer := hp
      rw [hs] at hp
      cases hp
    · rename_i hs
      have hs : s.state = .peer := hs
      obtain ⟨b₁, hb₁, rfl⟩ := liftUnit_done hd
      obtain ⟨ch, hch, hid⟩ := Option.map_eq_some_iff.mp hchan
      have herr : (Task.masterChannelError chan e).isErrorOf ch.id = true := decide_eq_true hid.symm
      have hbar := h.barrier.onMasterChannelErrorPeer ht hch herr hb₁
      refine ⟨hbook, hbar, hnum, fun hf => ?_, fun _ => hs, fun hn => absurd hs hn⟩
      obtain ⟨b₂, h₂, h₃⟩ := Session.onMasterChannelErrorPeer_done hb₁
      rcases h₃ with ⟨hg, -, rfl⟩ | ⟨-, rfl⟩
      · exact .inr (hT (by simp [tellsFinisher, hq, hg, hs, hchan]))
      · -- the finisher is not told
        have hsame : b₁.gracefulFinisher = b.gracefulFinisher := by
          rcases h₂ with ⟨-, rfl⟩ | ⟨-, rfl⟩ <;> rfl
        exact htaken.satisfied (hsame ▸ hf)

/-- The peer's message is handled. -/
theorem gracefulSessionEnd {b b' : Session} {c : Nat} (h : EndInv K T s)
    (ht : s.takeTask = .done (.gracefulSessionEnd c, b))
    (hd : b.onGracefulSessionEnd = .done b') : EndInv K T (s.setSession b') := by
  obtain ⟨-, hq, hb⟩ := Session.takeTask_done ht
  have hmem : Task.gracefulSessionEnd c ∈ s.queue := by rw [hq]; exact List.mem_cons_self
  have htake : Updates (Mark.ofTask (.gracefulSessionEnd c)) s (s.setSession b) :=
    .of (.session (.takeTask rfl ht))
  have hend : Updates (Mark.ofTask (.gracefulSessionEnd c)) (s.setSession b) (s.setSession b') :=
    .session (Session.onGracefulSessionEnd_updates (.inl rfl) (.inr rfl) hd)
  obtain ⟨hbook, hnum⟩ := h.keeps (htake.trans hend) fun k hk => h.book.fits hmem hk
  have hwait := (h.barrier.finisher_of_gracefulSessionEnd ht).1
  have hpeer : s.state = .peer := h.peer (by rw [hwait]; rfl)
  exact ⟨hbook, h.barrier.onGracefulSessionEnd ht hd, hnum, fun _ => .inl (h.book.queued c hmem),
    fun _ => hpeer, fun hn => absurd hpeer hn⟩

/-- A sub-class completes the connect. -/
theorem complete {e : ErrorCode} {r : Ret} (h : EndInv K T s) (hs : s.state = .connecting)
    (hd : s.completeAsyncConnectAfterCancelingPeerState cfg e r = .done s') : EndInv K T s' := by
  have hno := h.no_finisher (by rw [hs]; exact nofun)
  have hu : Updates (· = .finisher) s s' :=
    completeAsyncConnectAfterCancelingPeerState_updates rfl hd
  obtain ⟨hbook, hnum⟩ := h.keeps hu fun k hk => by subst hk; trivial
  simp only [completeAsyncConnectAfterCancelingPeerState, Outcome.bind_eq_done, Prod.exists] at hd
  obtain ⟨hosed, s₁, h₁, -, -, hd⟩ := hd
  obtain ⟨b, hb, rfl⟩ := lift_done h₁
  simp only [Outcome.bind_eq_done] at hb
  obtain ⟨hosed', -, hb⟩ := hb
  cases hb
  split at hd
  -- Failure goes back to NULL state, where the finisher is of no account.
  · have hend : Updates (fun _ => False) s s' :=
      (backToNull_updates s).trans (invokeConnOnDoneFunc_updates hd)
    exact h.updates hend id (fun _ hk => hk.elim) (fun _ _ hk => hk.elim) fun hp => by
      rw [hs] at hp
      cases hp
  · simp only [Outcome.bind_eq_done] at hd
    obtain ⟨s₂, h₂, hd⟩ := hd
    obtain ⟨f, -, rfl⟩ := invokeConnOnDoneFunc_passOn_done hd
    -- Success puts the finisher in place, if there is to be one, while it goes to PEER state.
    have hengaged : s₂.toSession.Barrier ∧ s₂.state = .peer ∧ s₂.gracefulFinisher ≠ some true := by
      simp only [engageFinisher] at h₂
      split at h₂
      · obtain ⟨b₂, hb₂, rfl⟩ := liftUnit_done h₂
        refine ⟨h.barrier.emplaceGracefulFinisher hno hb₂, rfl, ?_⟩
        obtain ⟨ch, -, hr⟩ := Session.emplaceGracefulFinisher_done hb₂
        cases hr <;> exact fun hf => by cases hf
      · cases h₂
        refine ⟨h.barrier, rfl, fun hf => ?_⟩
        have hf : s.gracefulFinisher = some true := hf
        rw [hno] at hf
        cases hf
    obtain ⟨hbar, hst, hne⟩ := hengaged
    exact ⟨hbook, hbar.of_same rfl rfl (.inl rfl), hnum, fun hf => absurd hf hne, fun _ => hst,
      fun hn => absurd hst hn⟩

/-- Thread W runs a task. -/
theorem runTask {t : Task} {b : Session} (h : EndInv K T s) (ht : s.takeTask = .done (t, b))
    (hdt : t.isDtor = false) (hT : tellsFinisher cfg s (.run o) = true → T)
    (hd : (s.setSession b).runTask cfg o t = .done s') : EndInv K T s' := by
  obtain ⟨hw, hq, hb⟩ := Session.takeTask_done ht
  have hwb : b.w = .idle := by rw [hb]; exact hw
  have hall : Updates (Mark.ofTask t) s s' :=
    (Updates.of (.session (.takeTask hdt ht))).trans (runTask_updates hwb hdt hd)
  have hfits : ∀ k, Mark.ofTask t k → k.FitsBook K (s.dtor ≠ .notStarted) s.channelFinished :=
    fun k hk => h.book.fits (by rw [hq]; exact List.mem_cons_self) hk
  have hst : s.state = .peer → s'.state = .peer := fun hp => by
    have hpb : (s.setSession b).state = .peer := hp
    exact (runTask_state (by simp [hp]) (fun _ => by simp [hp]) hd).trans hpb
  have hown : t.isBeside = true → ∀ e site, Mark.ofTask t (.hose e site) → site.isOwnCall = true :=
    fun hbes e site hk => Session.isOwnCall_of_ofTask hbes hk
  cases t with
  | masterChannelError chan e => exact h.masterChannelError ht hT hd
  | gracefulSessionEnd c =>
    obtain ⟨b', hb', rfl⟩ := liftUnit_done hd
    exact h.gracefulSessionEnd ht hb'
  | initHandlers => cases hd
  | asyncConnect => exact h.updates hall (fun hk => by cases hk) hfits (hown rfl) hst
  | logInRsp => exact h.updates hall (fun hk => by cases hk) hfits (hown rfl) hst
  | initOpenChannel => exact h.updates hall (fun hk => by cases hk) hfits (hown rfl) hst
  | openChannelReq =>
    exact h.updates hall (fun hk => by rcases hk with hk | ⟨_, _, _, hk⟩ <;> cases hk) hfits
      (hown rfl) hst
  | openChannel =>
    exact h.updates hall (fun hk => by rcases hk with hk | ⟨_, hk⟩ <;> cases hk) hfits
      (hown rfl) hst
  | sessionToken => exact h.updates hall (fun ⟨_, hk⟩ => by cases hk) hfits (hown rfl) hst
  | _ => exact h.updates hall (fun hk => by cases hk) hfits (hown rfl) hst

/-- What the destructor does in thread U. -/
theorem dtorAct {b : Session} (h : EndInv K T s) (ha : s.toSession.DtorAct b) :
    EndInv K T (s.setSession b) := by
  obtain ⟨hm, hq⟩ := ha.channel
  have hg := ha.gracefulFinisher
  refine ⟨(ha.endBook h.book).mono id ha.started, ha.barrier h.barrier, ⟨fun ch hch => ?_, ?_⟩,
    fun hf => h.satisfied (hg ▸ hf), fun hf => h.peer (hg ▸ hf), fun hs site hmem => ?_⟩
  · exact h.numbered.channel ch (hm ▸ hch)
  · exact fun c e hmem => h.numbered.queued c e (hq c e hmem)
  · exact Session.channelFinished_of_log (v := []) (h.early hs site (ha.log ▸ hmem))
      (by rw [List.append_nil]; exact ha.log)

/-- A task of the destructor in thread W. -/
theorem dtorTask {b b' : Session} {t : Task} (h : EndInv K T s) (ht : s.takeTask = .done (t, b))
    (hb : b.DtorTask t b') : EndInv K T (s.setSession b') := by
  obtain ⟨-, hq, hs⟩ := Session.takeTask_done ht
  have hdt : b.dtor = s.dtor := by rw [hs]
  have hgb : b.gracefulFinisher = s.gracefulFinisher := by rw [hs]
  have hbook : b.EndBook K (s.dtor ≠ .notStarted) := h.book.takeTask ht
  have hnum : Numbered (s.setSession b) := by
    refine ⟨fun ch hch => h.numbered.channel ch ?_, fun c e hmem => h.numbered.queued c e ?_⟩
    · have hm : b.masterChannel = s.masterChannel := by rw [hs]
      exact hm ▸ hch
    · rw [hq]
      exact List.mem_cons_of_mem t hmem
  have hg := hb.gracefulFinisher.trans hgb
  have hstarted : s.dtor ≠ .notStarted → b'.dtor ≠ .notStarted := fun hn => hb.started (hdt ▸ hn)
  refine ⟨hb.endBook (hbook.mono id hstarted) id, hb.barrier (h.barrier.takeTask ht), ?_,
    fun hf => h.satisfied (hg ▸ hf), fun hf => h.peer (hg ▸ hf), fun hn site hmem => ?_⟩
  rotate_left
  · have hlog : b.log = s.log := by rw [hs]
    have hmem : Event.onErr .sessionFinished site ∈ s.log := hlog ▸ hb.log.1 _ _ hmem
    exact hb.log.2 (Session.channelFinished_of_log (v := []) (h.early hn site hmem)
      (by rw [List.append_nil]; exact hlog))
  cases hb with
  | sendEnd hf hu hw =>
    rename_i b₁
    have h₁ : Numbered (s.setSession b₁) := by
      refine (Updates.session (s := s.setSession b) hu).keeps (P := Numbered) hnum ?_
      exact fun _ _ _ ht _ hu => hu.numbered ht
    exact ⟨h₁.channel, h₁.queued⟩
  | _ => exact ⟨hnum.channel, hnum.queued⟩

end EndInv

/-- PEER state is never left. -/
theorem step_peer {a : Act} (hs : s.state = .peer) (hd : step cfg s a = .done s') :
    s'.state = .peer := by
  cases a with
  -- No task leaves PEER state: each that moves the state asks for another one first.
  | run o =>
    simp only [step, Outcome.bind_eq_done, Prod.exists] at hd
    obtain ⟨t, s₁, h₁, hd⟩ := hd
    obtain ⟨b, -, rfl⟩ := lift_done h₁
    exact (runTask_state (by simp [hs]) (fun _ => by simp [hs]) hd).trans hs
  -- A taken-over completion runs in CONNECTING state only.
  | complete e r =>
    simp only [step, takenOver, Outcome.bind_eq_done, Outcome.require_eq_done,
      Bool.and_eq_true] at hd
    obtain ⟨-, ⟨⟨⟨-, hc⟩, -⟩, -⟩, -⟩ := hd
    rw [hs] at hc
    cases hc
  | connect call attempt out subClass =>
    simp only [step, connect, Outcome.bind_eq_done, Prod.exists] at hd
    obtain ⟨-, -, bl, s₁, h₁, hd⟩ := hd
    obtain ⟨b, -, rfl⟩ := lift_done h₁
    cases bl with
    | none => cases hd
    | some bl =>
      simp only [Outcome.bind_eq_done] at hd
      obtain ⟨-, -, hd⟩ := hd
      cases hd
      exact hs
  -- The remaining steps do not write the state at all.
  | mdtBuilder call mdt =>
    simp only [step, Outcome.bind_eq_done] at hd
    obtain ⟨-, -, hd⟩ := hd
    cases hd
    exact hs
  | sessionToken =>
    simp only [step, Outcome.bind_eq_done] at hd
    obtain ⟨-, -, hd⟩ := hd
    cases hd
    exact hs
  | openChannel call =>
    simp only [step, Outcome.bind_eq_done] at hd
    obtain ⟨-, -, hd⟩ := hd
    obtain ⟨b, -, rfl⟩ := liftUnit_done hd
    exact hs
  | syncReturn r mqOpen =>
    simp only [step] at hd
    split at hd
    · obtain ⟨b, -, rfl⟩ := liftUnit_done hd
      exact hs
    · cases hd
  | subClassSend r =>
    simp only [step, Outcome.bind_eq_done, Prod.exists] at hd
    obtain ⟨-, -, c, s₁, h₁, hd⟩ := hd
    obtain ⟨b, -, rfl⟩ := lift_done h₁
    cases hd
    exact hs
  | deliver m =>
    obtain ⟨b, -, rfl⟩ := liftUnit_done hd
    exact hs
  | channelError e =>
    obtain ⟨b, -, rfl⟩ := liftUnit_done hd
    exact hs
  | dtorStart =>
    obtain ⟨b, -, rfl⟩ := liftUnit_done hd
    exact hs
  | dtorStep =>
    obtain ⟨b, -, rfl⟩ := liftUnit_done hd
    exact hs
  | flushDone =>
    obtain ⟨b, -, rfl⟩ := liftUnit_done hd
    exact hs

/-- **Every step keeps the invariant.** -/
theorem EndInv.step {a : Act} (h : EndInv K T s) (hK : ∀ m, a = .deliver m → m.isEnd = true → K)
    (hT : tellsFinisher cfg s a = true → T) (hd : Client.step cfg s a = .done s') :
    EndInv K T s' := by
  have hst : s.state = .peer → s'.state = .peer := fun hp => step_peer hp hd
  -- The destructor's own steps are apart: they alone may promise that the end is heard of.
  cases step_updates hd with
  | dtorAct ha => exact h.dtorAct ha
  | dtorTask ht hb hf => exact h.dtorTask ht hb
  | common hu =>
    cases a with
    | run o =>
      simp only [Client.step, Outcome.bind_eq_done, Prod.exists] at hd
      obtain ⟨t, s₁, h₁, hd⟩ := hd
      obtain ⟨b, hb, rfl⟩ := lift_done h₁
      cases hdt : t.isDtor with
      | false => exact h.runTask hb hdt hT hd
      | true =>
        cases t with
        | dtorFinisherQuery => cases hd; exact h.dtorTask hb .finisherQuery
        | dtorSendEnd =>
          obtain ⟨b', hb', rfl⟩ := liftUnit_done hd
          exact h.dtorTask (s := s) hb (Session.dtorSendEnd_task hb')
        | dtorFlush => cases hd; exact h.dtorTask hb (Session.dtorFlush_task _)
        | _ => cases hdt
    | complete e r =>
      simp only [Client.step, Outcome.bind_eq_done, Outcome.require_eq_done, Bool.and_eq_true] at hd
      obtain ⟨-, ⟨ht, -⟩, hd⟩ := hd
      exact h.complete (takenOver_state ht) hd
    | deliver m =>
      refine h.updates hu (fun hk => by cases hk) (fun k hk => ?_) (fun _ _ hk => by cases hk) hst
      cases hk
      -- Only a delivered message can be the peer's end.
      exact hK m rfl
    | openChannel call =>
      exact h.updates hu (fun hk => by cases hk) (fun k => Session.fits_of_isOpenChannel)
        (fun _ _ => Session.isOwnCall_of_isOpenChannel) hst
    | syncReturn r mqOpen =>
      exact h.updates hu (fun hk => by cases hk) (fun k => Session.fits_of_isOpenChannel)
        (fun _ _ => Session.isOwnCall_of_isOpenChannel) hst
    | subClassSend r =>
      refine h.updates hu (by rintro ⟨_, ⟨⟩⟩) (fun k hk => ?_) (by rintro _ _ ⟨_, ⟨⟩⟩) hst
      obtain ⟨id, rfl⟩ := hk
      exact fun he => by cases he
    | _ => exact h.updates hu id (fun k hk => hk.elim) (fun _ _ hk => hk.elim) hst

/-- **A client between two channels owes nothing to the peer of the last.** -/
theorem EndInv.restart {K' T' : Prop} (h : EndInv K T s) (hm : s.masterChannel = none)
    (hs : s.state ≠ .peer) : EndInv K' T' s := by
  have hno := h.no_finisher hs
  have hends : s.ends = 0 := (h.barrier.waiting (by rw [hno]; exact nofun)).1
  refine { h with book := { h.book with cached := ?_, queued := ?_, onErr := ?_ }, satisfied := ?_ }
  · intro ch hch
    rw [hm] at hch
    cases hch
  · intro c hmem
    have hfalse := List.countP_eq_zero.mp hends _ hmem
    exact absurd rfl hfalse
  · exact fun site hmem => .inr (h.early hs site hmem)
  · intro hf
    rw [hno] at hf
    cases hf

/-- A destructor that has started has started for good. -/
theorem step_started {a : Act} (hd : step cfg s a = .done s') (hs : s.dtor ≠ .notStarted) :
    s'.dtor ≠ .notStarted := by
  cases step_updates hd with
  | common hu =>
    have hdt : s'.dtor = s.dtor :=
      hu.keeps (P := fun t => t.dtor = s.dtor) rfl fun _ _ _ ht _ hu => hu.dtor.trans ht
    rw [hdt]
    exact hs
  | dtorAct ha => exact ha.started hs
  | dtorTask ht hb hf =>
    have hdt := (Session.takeTask_done ht).2.2
    exact hb.started (by rw [hdt]; exact hs)

end Client

end IpcSession
