import VirtualDisplay.Proofs.World.Subscriptions

/-! Who has which subscription. Those who take steps can keep a ledger: which sessions go back to which
connect, and which handles they have been given. It tells whom the subscriptions belong to that have not
been cancelled. -/

namespace VirtualDisplay

variable {α β : Type}

/-- A session that has connected to a driver, and those that were duplicated from it, directly or
indirectly. -/
structure Family where
  driver : Nat
  members : List Nat

structure Ledger where
  /-- The sessions, those that have been dropped among them. -/
  families : List Family := []
  /-- The subscriptions whose handles were given out and have not been cancelled or dropped, each with its
  driver. -/
  handles : List (Nat × Nat) := []

namespace Family

/-- A duplicate belongs to the family of the session it was made of. -/
def adopt (i new : Nat) (F : Family) : Family :=
  if i ∈ F.members then { F with members := F.members ++ [new] } else F

/-- Whether one of the sessions has not been dropped. -/
def alive (w : World) (F : Family) : Bool := F.members.any fun j => (w.session? j).isSome

end Family

namespace Ledger

/-- The ledger after a step that has been taken and answered. -/
def note (w : World) (x : Step α) (o : Outcome α) (l : Ledger) : Ledger :=
  match x, o with
  | .connect _, .opened i =>
    { l with families := l.families ++ [{ driver := w.current, members := [i] }] }
  | .duplicate i, .opened new => { l with families := l.families.map (·.adopt i new) }
  | .subscribe none _, .opened k => { l with handles := l.handles ++ [(w.current, k)] }
  | .subscribe (some i) _, .opened k =>
    { l with handles := l.handles ++ ((w.session? i).map fun s => (s.channel, k)).toList }
  | .cancel k, _ => { l with handles := l.handles.filter (·.2 ≠ k) }
  | _, _ => l

/-- The ledger after a run. -/
def after (w : World) : List (Step α) → Ledger → Ledger
  | [], l => l
  | x :: steps, l => after (w.step x).2 steps (l.note w x (w.step x).1)

end Ledger

namespace World

/-- The worlds that come about, each with a ledger of how it came about. -/
inductive Recorded : World → Ledger → Prop
  | start (files : Files.Tree) : Recorded { files, channels := [] } {}
  | enter {w : World} {l : Ledger} (o : Origin) {d : Loopback} :
      Recorded w l → o.build w.files = .ok d → Recorded (w.enter d) l
  | step {w : World} {l : Ledger} {α : Type} (x : Step α) :
      Recorded w l → w.channels ≠ [] → Recorded (w.step x).2 (l.note w x (w.step x).1)

variable {w w' : World} {l : Ledger} {x : Step α} {o : Outcome α} {i j c k : Nat} {s : Session}
  {t : Target}

theorem Recorded.reached (h : w.Recorded l) : w.Reached := by
  induction h with
  | start files => exact .start files
  | enter o _ hd ih => exact .enter o ih hd
  | step x _ hc ih => exact .step x ih hc

theorem Reached.recorded (h : w.Reached) : ∃ l, w.Recorded l := by
  induction h with
  | start files => exact ⟨_, .start files⟩
  | enter o _ hd ih =>
    obtain ⟨l, hl⟩ := ih
    exact ⟨l, .enter o hl hd⟩
  | step x _ hc ih =>
    obtain ⟨l, hl⟩ := ih
    exact ⟨_, .step x hl hc⟩

theorem Recorded.run (h : w.Recorded l) (hc : w.channels ≠ []) (steps : List (Step α)) :
    (w.run steps).Recorded (l.after w steps) := by
  induction steps generalizing w l with
  | nil => exact h
  | cons x steps ih =>
    have hnext : (w.step x).2.Running := Running.step ⟨h.reached.sound, hc⟩ x
    exact ih (.step x h hc) hnext.driven

/-! ### Sessions and what they draw on -/

/-- A session that has not been dropped has connected to a channel, and draws on a subscription for its
cache. -/
def Bond (w : World) (j c k : Nat) : Prop :=
  ∃ s, w.session? j = some s ∧ s.channel = c ∧ s.cache.source = k

/-- A subscription of a channel has not been cancelled. -/
def Stake (w : World) (k c : Nat) (t : Target) : Prop :=
  ∃ f, w.subscriptions[k]? = some f ∧ f.channel = c ∧ f.target = t ∧ f.cancelled = false

theorem Bond.lt (h : w.Bond j c k) : j < w.sessions.length := by
  obtain ⟨s, hs, -⟩ := h
  exact lt_of_session? hs

theorem Bond.unique {c' k' : Nat} (h : w.Bond j c k) (h' : w.Bond j c' k') : c = c' ∧ k = k' := by
  obtain ⟨s, hs, rfl, rfl⟩ := h
  obtain ⟨s', hs', rfl, rfl⟩ := h'
  cases hs.symm.trans hs'
  exact ⟨rfl, rfl⟩

theorem Stake.unique {c' : Nat} {t' : Target} (h : w.Stake k c t) (h' : w.Stake k c' t') :
    c = c' ∧ t = t' := by
  obtain ⟨f, hf, rfl, rfl, -⟩ := h
  obtain ⟨f', hf', rfl, rfl, -⟩ := h'
  cases hf.symm.trans hf'
  exact ⟨rfl, rfl⟩

theorem Stake.lt (h : w.Stake k c t) : k < w.subscriptions.length := by
  obtain ⟨f, hf, -⟩ := h
  exact (List.getElem?_eq_some_iff.1 hf).1

theorem Sound.stake_source (hw : w.Sound) (h : w.Bond j c k) : w.Stake k c .cache := by
  obtain ⟨s, hs, rfl, rfl⟩ := h
  obtain ⟨f, hf, ht, hch, hc, -⟩ := (hw.tied j s hs).source
  exact ⟨f, hf, hch, ht, hc⟩

theorem Sound.stake_following (hw : w.Sound) (hs : w.session? j = some s)
    (hk : s.following = some k) : w.Stake k s.channel (.registry j) := by
  obtain ⟨f, hf, ht, hch, hc⟩ := (hw.tied j s hs).following k hk
  exact ⟨f, hf, hch, ht, hc⟩

/-! ### Bonds after a change -/

theorem length_unfollow (w : World) (i : Nat) (s : Session) :
    (w.unfollow i s).sessions.length = w.sessions.length := by
  unfold unfollow
  split
  · rfl
  · exact List.length_set

theorem length_dropSession (w : World) (i : Nat) (s : Session) :
    (w.dropSession i s).sessions.length = w.sessions.length := by
  simp only [dropSession]
  split <;> exact List.length_set.trans (length_unfollow w i s)

/-- A session that goes on with the same channel and the same cache has the same bond. -/
theorem bond_replace {t : Session} (live : w.session? i = some s) (ht : t.dropped = false)
    (hch : t.channel = s.channel) (hcache : t.cache = s.cache) :
    (w.setSession i t).Bond j c k ↔ w.Bond j c k := by
  unfold Bond
  simp only [session?_replace live ht]
  by_cases hj : j = i
  · subst hj
    simp [live, hch, hcache]
  · simp [hj]

theorem bond_welcome : w.welcome.Bond j c k ↔
    w.Bond j c k ∨ j = w.sessions.length ∧ w.current = c ∧ w.subscriptions.length = k := by
  simp [Bond, session?_welcome, or_and_right, exists_or, and_assoc, newcomer]

theorem bond_tie (live : w.session? i = some s) : (w.tie i s).Bond j c k ↔ w.Bond j c k :=
  bond_replace (w := w.attach s.channel (.registry i)) live (session?_eq.1 live).2 rfl rfl

theorem bond_unfollow (live : w.session? i = some s) :
    (w.unfollow i s).Bond j c k ↔ w.Bond j c k := by
  unfold unfollow
  split
  · exact Iff.rfl
  · next l _ => exact bond_replace (w := w.cancel l) live (session?_eq.1 live).2 rfl rfl

theorem bond_duplicate (live : w.session? i = some s) :
    ({ w with sessions := w.sessions ++ [{ s with following := none }] } : World).Bond j c k ↔
      w.Bond j c k ∨ j = w.sessions.length ∧ w.Bond i c k := by
  have hdropped := (session?_eq.1 live).2
  simp [Bond, session?_append, or_and_right, exists_or, and_assoc, live, hdropped]

theorem bond_drop (live : w.session? i = some s) :
    (w.dropSession i s).Bond j c k ↔ j ≠ i ∧ w.Bond j c k := by
  simp [Bond, session?_dropSession live, and_assoc]

/-! ### Stakes after a change -/

theorem stake_attach {target : Target} : (w.attach i target).Stake k c t ↔
    w.Stake k c t ∨ k = w.subscriptions.length ∧ i = c ∧ target = t := by
  simp [Stake, subscription_attach, or_and_right, exists_or, and_assoc, opening]

namespace Sound

variable (hw : w.Sound)
include hw

theorem stake_cancel {l : Nat} : (w.cancel l).Stake k c t ↔ k ≠ l ∧ w.Stake k c t := by
  unfold Stake
  simp only [subscription_cancel]
  constructor
  · rintro ⟨f, ⟨hk, hf⟩ | ⟨-, f₀, hf₀, rfl⟩, hch, ht, hc⟩
    · exact ⟨hk, f, hf, hch, ht, hc⟩
    · rw [World.cancelled_cancel (hw.placed f₀ (List.mem_of_getElem? hf₀))] at hc
      cases hc
  · rintro ⟨hk, f, hf, h⟩
    exact ⟨f, Or.inl ⟨hk, hf⟩, h⟩

theorem stake_release {l : Nat} :
    (w.release l).Stake k c t ↔ w.Stake k c t ∧ ¬ (k = l ∧ t = .record) := by
  unfold World.release
  split
  · next h =>
    rw [hw.stake_cancel]
    constructor
    · exact fun ⟨hk, hs⟩ => ⟨hs, fun h => hk h.1⟩
    · rintro ⟨hs, hne⟩
      refine ⟨?_, hs⟩
      rintro rfl
      obtain ⟨f, hf, -, rfl, -⟩ := hs
      rw [hf, Option.any_some, decide_eq_true_eq] at h
      exact hne ⟨rfl, h⟩
  · next h =>
    refine ⟨fun hs => ⟨hs, ?_⟩, And.left⟩
    rintro ⟨rfl, rfl⟩
    obtain ⟨f, hf, -, ht, -⟩ := hs
    simp [hf, ht] at h

theorem stake_unfollow :
    (w.unfollow i s).Stake k c t ↔ s.following ≠ some k ∧ w.Stake k c t := by
  unfold World.unfollow
  split
  · next h => simp [h]
  · next l h =>
    rw [h]
    refine hw.stake_cancel.trans (and_congr_left fun _ => ?_)
    simp [eq_comm]

/-- A session that goes takes along the subscription it follows through, and the one behind its cache if
no other session draws on that. -/
theorem stake_drop (live : w.session? i = some s) :
    (w.dropSession i s).Stake k c t ↔ s.following ≠ some k ∧
      (k = s.cache.source → ∃ j ≠ i, ∃ c, w.Bond j c k) ∧ w.Stake k c t := by
  have loose := (session?_unfollow (j := i) live).2 (Or.inr ⟨rfl, rfl⟩)
  have hgone := (hw.unfollow live).discard loose rfl
  have hunfollow : (setSession i { s with following := none, dropped := true } (w.unfollow i s)).Stake
      k c t ↔ s.following ≠ some k ∧ w.Stake k c t := hw.stake_unfollow
  simp only [dropSession]
  split
  · next h =>
    rw [hunfollow]
    refine and_congr_right fun _ => ⟨fun hs => ⟨?_, hs⟩, And.right⟩
    rintro rfl
    refine Classical.byContradiction fun hnone => ?_
    refine Bool.eq_false_iff.1 ((sourced_gone live).2 fun j s' hs' hsource => ?_) h
    exact Classical.byContradiction fun hj => hnone ⟨j, hj, _, s', hs', rfl, hsource⟩
  · next h =>
    have hsole := (sourced_gone live).1 (by simpa using h)
    rw [hgone.stake_cancel, hunfollow, and_left_comm]
    refine and_congr_right fun _ => and_congr_left fun _ => ⟨fun hk he => absurd he hk, ?_⟩
    rintro hother rfl
    obtain ⟨j, hj, -, s', hs', -, hsource⟩ := hother rfl
    exact hj (hsole j s' hs' hsource)

end Sound

/-! ### Steps -/

/-- Sessions and subscriptions belong together as before. -/
structure Steady (w w' : World) : Prop where
  sessions : w'.sessions.length = w.sessions.length
  bond : ∀ j c k, w'.Bond j c k ↔ w.Bond j c k
  stake : ∀ k c t, w'.Stake k c t ↔ w.Stake k c t

theorem Steady.of_eq (hs : w'.sessions = w.sessions) (hf : w'.subscriptions = w.subscriptions) :
    w.Steady w' := by
  constructor <;> simp [hs, hf, Bond, Stake, session?]

theorem steady_setSession (live : w.session? i = some s) (registry : Registry) :
    w.Steady (w.setSession i { s with registry }) :=
  ⟨List.length_set, fun _ _ _ => bond_replace live (session?_eq.1 live).2 rfl rfl,
    fun _ _ _ => Iff.rfl⟩

theorem steady_settle (w : World) : w.Steady w.settle := by
  refine ⟨by simp [settle, updated], fun j c k => ?_, fun k c t => ?_⟩
  · unfold Bond
    rw [session?_settle]
    cases w.session? j with
    | none => simp
    | some s =>
      rw [Option.map_some, takeOver_frame]
      simp
  · unfold Stake
    rw [subscriptions_settle, List.getElem?_map]
    cases w.subscriptions[k]? with
    | none => simp
    | some f =>
      rw [Option.map_some, settled_frame]
      simp

/-- Which sessions and subscriptions a step brings, ties and gives up, and what it answers if the ledger is
to take note of it. -/
inductive Turn (w : World) : Step α → Outcome α → World → Prop
  | stays {x : Step α} {o : Outcome α} {w' : World} (steady : w.Steady w')
      (silent : ∀ l : Ledger, l.note w x o = l) : Turn w x o w'
  | connects {config} : Turn w (.connect config) (.opened w.sessions.length) w.welcome
  | connectsTied {config} : Turn w (.connect config) (.opened w.sessions.length)
      (w.welcome.tie w.sessions.length w.newcomer)
  | subscribes {runtime} : Turn w (.subscribe none runtime) (.opened w.subscriptions.length)
      (w.attach w.current .record)
  | subscribesFor {i : Nat} {s : Session} {runtime} (live : w.session? i = some s) :
      Turn w (.subscribe (some i) runtime) (.opened w.subscriptions.length)
        (w.attach s.channel .record)
  | cancels {k : Nat} : Turn w (.cancel k) .done (w.release k)
  | follows {i : Nat} {s : Session} {runtime} (live : w.session? i = some s) (loose : s.following = none) :
      Turn w (.follow i runtime) .done (w.tie i s)
  | unfollows {i : Nat} {s : Session} (live : w.session? i = some s) :
      Turn w (.unfollow i) .done (w.unfollow i s)
  | duplicates {i : Nat} {s : Session} (live : w.session? i = some s) :
      Turn w (.duplicate i) (.opened w.sessions.length)
        { w with sessions := w.sessions ++ [{ s with following := none }] }
  | drops {i : Nat} {s : Session} (live : w.session? i = some s) :
      Turn w (.drop i) .done (w.dropSession i s)

/-- What an edit makes of a world and answers is a turn of the step. -/
def Takes (w : World) (x : Step α) (e : Edit World (Outcome α)) : Prop := w.Turn x (e w).1 (e w).2

theorem Turn.idle (silent : ∀ l : Ledger, l.note w x o = l) : w.Turn x o w :=
  .stays (.of_eq rfl rfl) silent

theorem takes_onSession {g : Session → Edit World (Outcome α)}
    (silent : ∀ l : Ledger, l.note w x .unknown = l)
    (h : ∀ s, w.session? i = some s → w.Takes x (g s)) : w.Takes x (onSession i g) := by
  unfold Takes onSession
  split
  · exact .idle silent
  · next s live => exact h s live

theorem takes_onLoopback {g : β → Outcome α} {e : Edit Loopback β}
    (silent : ∀ (o : Outcome α) (l : Ledger), l.note w x o = l) : w.Takes x (onLoopback g e) := by
  unfold Takes onLoopback
  split
  · exact .idle (silent _)
  · exact .stays (.of_eq rfl rfl) (silent _)

namespace Grounded

variable (hw : w.Grounded)
include hw

theorem takes_subscribe (runtime : Bool)
    (silent : ∀ (e : ChannelError) (l : Ledger), l.note w x (.failed e) = l)
    (h : w.Turn x (.opened w.subscriptions.length) (w.attach c .record)) :
    w.Takes x (trying .opened (World.subscribe c .record runtime)) := by
  simp only [Takes, trying, answering, hw.subscribe_eq]
  split
  · exact .idle (silent _)
  · split
    · exact h
    · exact .idle (silent _)

theorem step_turn (x : Step α) : w.Takes x (step x) := by
  cases x with
  | settle => exact .stays (steady_settle w) fun _ => rfl
  | touch | push | pull | commit | isActive => exact .stays (.of_eq rfl rfl) fun _ => rfl
  | handle | restart | disconnect | reconnect => exact takes_onLoopback fun _ _ => rfl
  | fire state =>
    simp only [Takes, step, hw.onScripted_eq]
    exact .idle fun _ => rfl
  | replaceDriver config =>
    simp only [Takes, step, World.replaceDriver]
    split <;> exact .stays (.of_eq rfl rfl) fun _ => rfl
  | subscribe session runtime =>
    cases session with
    | none => exact hw.takes_subscribe runtime (fun _ _ => rfl) .subscribes
    | some i =>
      refine takes_onSession (fun _ => rfl) fun s live => ?_
      exact hw.takes_subscribe runtime (fun _ _ => rfl) (.subscribesFor live)
  | cancel k => exact .cancels
  | connect config =>
    simp only [Takes, step, trying, answering, hw.connect_eq]
    split
    · exact .idle fun _ => rfl
    · split
      · exact .connectsTied
      · exact .connects
  | notify | persist | fetch | isValid | describe | watch =>
    exact takes_onSession (fun _ => rfl) fun s _ => .stays (.of_eq rfl rfl) fun _ => rfl
  | reload i =>
    refine takes_onSession (fun _ => rfl) fun s live => ?_
    simp only [Takes, trying, answering, World.reload, hw.call_pull]
    cases (w.driver s.channel).pull with
    | error e => exact .idle fun _ => rfl
    | ok state => exact .stays (steady_setSession live _) fun _ => rfl
  | refresh | edit =>
    exact takes_onSession (fun _ => rfl) fun s live => .stays (steady_setSession live _) fun _ => rfl
  | follow i runtime =>
    rcases hw.step_follow i runtime with h | ⟨s, live, loose, h⟩
    · exact .stays (.of_eq (congrArg sessions h) (congrArg subscriptions h)) fun _ => rfl
    · simp only [Takes, h]
      exact .follows live loose
  | unfollow i => exact takes_onSession (fun _ => rfl) fun s live => .unfollows live
  | duplicate i => exact takes_onSession (fun _ => rfl) fun s live => .duplicates live
  | drop i => exact takes_onSession (fun _ => rfl) fun s live => .drops live
  | poll i =>
    simp only [Takes, step]
    split
    · exact .idle fun _ => rfl
    · exact .stays (.of_eq rfl rfl) fun _ => rfl

end Grounded

end World
end VirtualDisplay
