import Mathlib.Combinatorics.Enumerative.DoubleCounting
import VirtualDisplay.Proofs.World.Accounts

/-! How many subscriptions of a driver are left after a settle. They are counted by those they belong to:
families of sessions, sessions that follow, and handles that were given out. -/

namespace VirtualDisplay

section

variable {β γ : Type} {p : β → Bool} {q : γ → Bool}

theorem countP_eq_card (p : β → Bool) (xs : List β) :
    xs.countP p = ((Finset.range xs.length).filter fun a => xs[a]?.any p).card := by
  induction xs using List.reverseRecOn with
  | nil => rfl
  | append_singleton xs x ih =>
    have hold : (Finset.range xs.length).filter (fun a => (xs ++ [x])[a]?.any p) =
        (Finset.range xs.length).filter fun a => xs[a]?.any p :=
      Finset.filter_congr fun a ha => by rw [List.getElem?_append_left (Finset.mem_range.1 ha)]
    rw [List.countP_append, ih, List.length_append, List.length_singleton, Finset.range_add_one,
      Finset.filter_insert, hold, List.getElem?_concat_length]
    cases hp : p x <;> simp [hp]

/-- No more elements of one list count than of another if each has a partner there that nobody shares. -/
theorem countP_le_of_paired {xs : List β} {ys : List γ} (r : Nat → Nat → Prop)
    (partner : ∀ a x, xs[a]? = some x → p x = true → ∃ b y, ys[b]? = some y ∧ q y = true ∧ r a b)
    (alone : ∀ a a' b, r a b → r a' b → a = a') : xs.countP p ≤ ys.countP q := by
  rw [countP_eq_card, countP_eq_card]
  refine Finset.card_le_card_of_forall_subsingleton r (fun a ha => ?_) fun b _ a ha a' ha' =>
    alone a a' b ha.2 ha'.2
  obtain ⟨x, hx, hp⟩ := (Option.any_eq_true _ _).1 (Finset.mem_filter.1 ha).2
  obtain ⟨b, y, hy, hq, hr⟩ := partner a x hx hp
  refine ⟨b, Finset.mem_filter.2 ⟨?_, ?_⟩, hr⟩
  · exact Finset.mem_range.2 (List.getElem?_eq_some_iff.1 hy).1
  · rw [hy]
    exact hq

theorem countP_eq_of_paired {xs : List β} {ys : List γ} (r : Nat → Nat → Prop)
    (right : ∀ a x, xs[a]? = some x → p x = true → ∃ b y, ys[b]? = some y ∧ q y = true ∧ r a b)
    (left : ∀ b y, ys[b]? = some y → q y = true → ∃ a x, xs[a]? = some x ∧ p x = true ∧ r a b)
    (unique : ∀ a b b', r a b → r a b' → b = b') (alone : ∀ a a' b, r a b → r a' b → a = a') :
    xs.countP p = ys.countP q :=
  Nat.le_antisymm (countP_le_of_paired r right alone)
    (countP_le_of_paired (fun b a => r a b) left fun b b' a => unique a b b')

/-- If two lists differ in one place, so do their counts. -/
theorem countP_add_of_single {xs ys : List β} {j : Nat} (hlen : xs.length = ys.length)
    (h : ∀ a ≠ j, xs[a]?.any p = ys[a]?.any p) :
    xs.countP p + (ys[j]?.any p).toNat = ys.countP p + (xs[j]?.any p).toNat := by
  induction xs generalizing ys j with
  | nil =>
    obtain rfl := List.length_eq_zero_iff.1 hlen.symm
    rfl
  | cons x xs ih =>
    cases ys with
    | nil => cases hlen
    | cons y ys =>
      have hlen' : xs.length = ys.length := Nat.succ.inj hlen
      rw [List.countP_cons, List.countP_cons]
      cases j with
      | zero =>
        have hrest : xs.countP p = ys.countP p := by
          have hsame : ∀ a, xs[a]?.any p = ys[a]?.any p := fun a => h (a + 1) (Nat.succ_ne_zero a)
          simp only [countP_eq_card, hlen', hsame]
        simp only [List.getElem?_cons_zero, Option.any_some, hrest]
        cases p x <;> cases p y <;> simp
      | succ j =>
        have hhead : p x = p y := h 0 (Nat.succ_ne_zero j).symm
        have hrest := ih (j := j) hlen' fun a ha => h (a + 1) fun he => ha (Nat.succ.inj he)
        simp only [List.getElem?_cons_succ, hhead]
        omega

end

/-- Whether states replace the registry of a session. -/
def Target.forRegistry : Target → Bool
  | .registry _ => true
  | _ => false

namespace World

variable {α : Type} {w w' w'' : World} {l : Ledger} {x : Step α} {i j c k : Nat} {s : Session}

/-- Whether a session that has not been dropped follows the driver of a channel. -/
def followsOn (w : World) (i j : Nat) : Bool :=
  (w.session? j).any fun s => s.channel = i && s.following.isSome

/-- How many sessions follow the driver of a channel. -/
def followers (w : World) (i : Nat) : Nat :=
  w.sessions.countP fun s => !s.dropped && (s.channel = i && s.following.isSome)

/-- How many subscriptions of a channel have not been cancelled. -/
def stakes (w : World) (i : Nat) : Nat :=
  w.subscriptions.countP fun f => f.channel = i && !f.cancelled

/-! ### Whom subscriptions belong to

The subscriptions of each kind are paired, number by number, with those they belong to. -/

theorem stakes_split (w : World) (i : Nat) : w.stakes i =
    w.subscriptions.countP (fun f => f.channel = i && !f.cancelled && f.target = .cache) +
      w.subscriptions.countP (fun f => f.channel = i && !f.cancelled && f.target.forRegistry) +
      w.subscriptions.countP (fun f => f.channel = i && !f.cancelled && f.target = .record) := by
  unfold stakes
  induction w.subscriptions with
  | nil => rfl
  | cons f fs ih =>
    simp only [List.countP_cons, ih]
    cases f.channel = i && !f.cancelled <;> cases f.target <;> simp [Target.forRegistry] <;> omega

theorem alive_iff {F : Family} : F.alive w = true ↔ ∃ c k, F.Draws w c k := by
  simp only [Family.alive, List.any_eq_true, Option.isSome_iff_exists, Family.Draws, Bond]
  constructor
  · rintro ⟨j, hj, s, hs⟩
    exact ⟨_, _, j, hj, s, hs, rfl, rfl⟩
  · rintro ⟨c, k, j, hj, s, hs, -⟩
    exact ⟨j, hj, s, hs⟩

theorem Kinship.family_unique {fs : List Family} (h : w.Kinship fs) {a b c' : Nat} {F G : Family}
    (hF : fs[a]? = some F) (hG : fs[b]? = some G) (hd : F.Draws w c k) (hd' : G.Draws w c' k) :
    a = b := by
  obtain ⟨ha, rfl⟩ := List.getElem?_eq_some_iff.1 hF
  obtain ⟨hb, rfl⟩ := List.getElem?_eq_some_iff.1 hG
  have hpair := List.pairwise_iff_getElem.1 h.strangers
  rcases Nat.lt_trichotomy a b with hab | hab | hab
  · exact absurd hd' (hpair a b ha hb hab c k c' hd)
  · exact hab
  · exact absurd hd (hpair b a hb ha hab c' k c hd')

/-- A family that is alive has the one subscription that its sessions draw on. -/
theorem Tells.cache_stakes (hl : w.Tells l) (hw : w.Sound) (i : Nat) :
    l.families.countP (fun F => F.driver = i && F.alive w) =
      w.subscriptions.countP fun f => f.channel = i && !f.cancelled && f.target = .cache := by
  refine countP_eq_of_paired (fun a k => ∃ F c, l.families[a]? = some F ∧ F.Draws w c k) ?_ ?_ ?_ ?_
  · intro a F hF hp
    simp only [Bool.and_eq_true, decide_eq_true_eq] at hp
    obtain ⟨c, k, hd⟩ := alive_iff.1 hp.2
    have hc := hl.kinship.driver F (List.mem_of_getElem? hF) c k hd
    obtain ⟨j, hj, hb⟩ := hd
    obtain ⟨f, hf, hch, ht, hcancelled⟩ := hw.stake_source hb
    exact ⟨k, f, hf, by simp [hch, hc, hp.1, hcancelled, ht], F, c, hF, j, hj, hb⟩
  · intro k f hf hq
    simp only [Bool.and_eq_true, decide_eq_true_eq, Bool.not_eq_true'] at hq
    have hs : w.Stake k i .cache := ⟨f, hf, hq.1.1, hq.2, hq.1.2⟩
    obtain ⟨j, c, hb⟩ := hl.backed k i hs
    obtain ⟨F, hF, hj⟩ := hl.kinship.home j c k hb
    obtain ⟨a, ha⟩ := List.mem_iff_getElem?.1 hF
    have hc : c = i := ((hw.stake_source hb).unique hs).1
    have hdriver := hl.kinship.driver F hF c k ⟨j, hj, hb⟩
    exact ⟨a, F, ha, by simp [← hdriver, hc, alive_iff.2 ⟨c, k, j, hj, hb⟩], F, c, ha, j, hj, hb⟩
  · rintro a k k' ⟨F, c, hF, hd⟩ ⟨F', c', hF', hd'⟩
    cases hF.symm.trans hF'
    exact hl.kinship.kin F (List.mem_of_getElem? hF) c k c' k' hd hd'
  · rintro a a' k ⟨F, c, hF, hd⟩ ⟨F', c', hF', hd'⟩
    exact hl.kinship.family_unique hF hF' hd hd'

/-- A session that follows has the subscription for its registry. -/
theorem Sound.registry_stakes (hw : w.Sound) (i : Nat) : w.followers i =
    w.subscriptions.countP fun f => f.channel = i && !f.cancelled && f.target.forRegistry := by
  refine countP_eq_of_paired (fun j k => ∃ s, w.session? j = some s ∧ s.following = some k) ?_ ?_ ?_ ?_
  · intro j s hs hp
    simp only [Bool.and_eq_true, Bool.not_eq_true', decide_eq_true_eq,
      Option.isSome_iff_exists] at hp
    obtain ⟨hdropped, hch, k, hk⟩ := hp
    have live : w.session? j = some s := session?_eq.2 ⟨hs, hdropped⟩
    obtain ⟨f, hf, hch', ht, hcancelled⟩ := hw.stake_following live hk
    exact ⟨k, f, hf, by simp [hch', hch, hcancelled, ht, Target.forRegistry], s, live, hk⟩
  · intro k f hf hq
    simp only [Bool.and_eq_true, decide_eq_true_eq, Bool.not_eq_true'] at hq
    obtain ⟨⟨hch, hcancelled⟩, ht⟩ := hq
    cases htarget : f.target with
    | record | cache => simp [htarget, Target.forRegistry] at ht
    | registry j =>
      obtain ⟨s, live, hk⟩ := hw.owned k f j hf htarget hcancelled
      obtain ⟨hs, hdropped⟩ := session?_eq.1 live
      have hc : s.channel = f.channel :=
        ((hw.stake_following live hk).unique ⟨f, hf, rfl, htarget, hcancelled⟩).1
      exact ⟨j, s, hs, by simp [hdropped, hc, hch, hk], s, live, hk⟩
  · rintro j k k' ⟨s, hs, hk⟩ ⟨s', hs', hk'⟩
    cases hs.symm.trans hs'
    exact Option.some.inj (hk.symm.trans hk')
  · rintro j j' k ⟨s, hs, hk⟩ ⟨s', hs', hk'⟩
    exact hw.following_inj hs hs' hk hk'

/-- A handle that was given out and has not been cancelled has its subscription. -/
theorem Tells.record_stakes (hl : w.Tells l) (i : Nat) : l.handles.countP (·.1 = i) =
    w.subscriptions.countP fun f => f.channel = i && !f.cancelled && f.target = .record := by
  refine countP_eq_of_paired (fun a k => ∃ c, l.handles[a]? = some (c, k)) ?_ ?_ ?_ ?_
  · rintro a ⟨c, k⟩ ha hp
    obtain rfl : c = i := of_decide_eq_true hp
    obtain ⟨f, hf, hch, ht, hcancelled⟩ := (hl.given.stake c k).1 (List.mem_of_getElem? ha)
    exact ⟨k, f, hf, by simp [hch, ht, hcancelled], c, ha⟩
  · intro k f hf hq
    simp only [Bool.and_eq_true, decide_eq_true_eq, Bool.not_eq_true'] at hq
    have hmem := (hl.given.stake i k).2 ⟨f, hf, hq.1.1, hq.2, hq.1.2⟩
    obtain ⟨a, ha⟩ := List.mem_iff_getElem?.1 hmem
    exact ⟨a, _, ha, decide_eq_true rfl, i, ha⟩
  · rintro a k k' ⟨c, ha⟩ ⟨c', ha'⟩
    cases ha.symm.trans ha'
    rfl
  · rintro a a' k ⟨c, ha⟩ ⟨c', ha'⟩
    have hs := (hl.given.stake c k).1 (List.mem_of_getElem? ha)
    have hs' := (hl.given.stake c' k).1 (List.mem_of_getElem? ha')
    obtain rfl := (hs.unique hs').1
    exact (List.getElem?_inj (List.getElem?_eq_some_iff.1 ha).1 hl.given.once).1 (ha.trans ha'.symm)

/-- What a ledger says that the subscribers of a driver should be. -/
def tally (w : World) (l : Ledger) (i : Nat) : Nat :=
  l.families.countP (fun F => F.driver = i && F.alive w) + w.followers i + l.handles.countP (·.1 = i)

theorem Tells.stakes_eq (hl : w.Tells l) (hw : w.Sound) (i : Nat) : w.stakes i = w.tally l i := by
  rw [stakes_split, tally, hl.cache_stakes hw, hw.registry_stakes, hl.record_stakes]

/-! ### After a settle -/

theorem held_iff_bond : w.held i = true ↔ i = w.current ∨ ∃ j k, w.Bond j i k := by
  rw [held_iff]
  refine or_congr_right ⟨?_, ?_⟩
  · rintro ⟨j, s, hs, hch⟩
    exact ⟨j, _, s, hs, hch, rfl⟩
  · rintro ⟨j, k, s, hs, hch, -⟩
    exact ⟨j, s, hs, hch⟩

theorem held_congr (hcurrent : w'.current = w.current) (hbond : ∀ j c k, w'.Bond j c k ↔ w.Bond j c k)
    (i : Nat) : w'.held i = w.held i := by
  rw [Bool.eq_iff_iff, held_iff_bond, held_iff_bond, hcurrent]
  simp only [hbond]

/-- Delivery is over for those that have been cancelled, and for all once nobody holds the driver. -/
theorem Sound.subscribers_eq (hw : w.Sound) (i : Nat) :
    w.settle.subscribers i = if w.settle.held i then w.settle.stakes i else 0 := by
  have hended : ∀ f ∈ w.settle.subscriptions, f.channel = i →
      (f.ended = true ↔ f.cancelled = true ∨ w.settle.held i = false) := by
    rintro f hf rfl
    have hplaced := hw.settle.placed f hf
    rw [subscriptions_settle] at hf
    obtain ⟨f₀, hf₀, rfl⟩ := List.mem_map.1 hf
    have hcurrent : w.settle.current = w.current := rfl
    have hheld := held_congr hcurrent (steady_settle w).bond f₀.channel
    cases hc : f₀.cancelled with
    | true =>
      rw [hw.grounded.settled_of_cancelled hc]
      simp [hc]
    | false =>
      rw [hw.settled_of_live hf₀ hc] at hplaced ⊢
      constructor
      · intro he
        exact Or.inr (hplaced.ended he hc).1
      · rintro (hcancelled | hnone)
        · exact absurd hcancelled (Bool.eq_false_iff.1 hc)
        · have hnone' : w.held f₀.channel = false := hheld.symm.trans hnone
          simp [hnone']
  unfold subscribers stakes
  split
  · next hheld =>
    refine List.countP_congr fun f hf => ?_
    simp only [Bool.and_eq_true, decide_eq_true_eq, Bool.not_eq_true']
    refine and_congr_right fun hch => ?_
    rw [← Bool.not_eq_true, hended f hf hch, hheld]
    simp
  · next hheld =>
    refine List.countP_eq_zero.2 fun f hf => ?_
    simp only [Bool.and_eq_true, decide_eq_true_eq, Bool.not_eq_true', not_and, Bool.not_eq_false]
    exact fun hch => (hended f hf hch).2 (Or.inr (by simpa using hheld))

/-! ### Following on and off -/

/-- The step makes a session follow or stop following, or lets the world settle. -/
inductive Toggles (j : Nat) : Step α → Prop
  | settle : Toggles j .settle
  | follow (runtime : Bool) : Toggles j (.follow j runtime)
  | unfollow : Toggles j (.unfollow j)

/-- Nothing else has changed about who belongs together than whether one session follows. -/
structure Ties (w : World) (j : Nat) (w' : World) : Prop where
  current : w'.current = w.current
  length : w'.sessions.length = w.sessions.length
  bond : ∀ a c k, w'.Bond a c k ↔ w.Bond a c k
  others : ∀ i, ∀ a ≠ j, w'.followsOn i a = w.followsOn i a

namespace Ties

theorem refl (w : World) (j : Nat) : w.Ties j w :=
  ⟨rfl, rfl, fun _ _ _ => Iff.rfl, fun _ _ _ => rfl⟩

theorem symm (h : w.Ties j w') : w'.Ties j w :=
  ⟨h.current.symm, h.length.symm, fun a c k => (h.bond a c k).symm, fun i a ha => (h.others i a ha).symm⟩

theorem trans (h : w.Ties j w') (h' : w'.Ties j w'') : w.Ties j w'' :=
  ⟨h'.current.trans h.current, h'.length.trans h.length,
    fun a c k => (h'.bond a c k).trans (h.bond a c k),
    fun i a ha => (h'.others i a ha).trans (h.others i a ha)⟩

theorem of_others (hcurrent : w'.current = w.current) (hlen : w'.sessions.length = w.sessions.length)
    (hbond : ∀ a c k, w'.Bond a c k ↔ w.Bond a c k)
    (h : ∀ a t, a ≠ j → (w'.session? a = some t ↔ w.session? a = some t)) : w.Ties j w' := by
  refine ⟨hcurrent, hlen, hbond, fun i a ha => ?_⟩
  rw [followsOn, followsOn, Option.ext fun t => h a t ha]

end Ties

theorem ties_settle (w : World) (j : Nat) : w.Ties j w.settle := by
  have h := steady_settle w
  refine ⟨rfl, h.sessions, h.bond, fun i a _ => ?_⟩
  unfold followsOn
  rw [session?_settle]
  cases w.session? a with
  | none => rfl
  | some s =>
    rw [Option.map_some, takeOver_frame]
    rfl

theorem ties_tie (live : w.session? j = some s) : w.Ties j (w.tie j s) := by
  refine .of_others rfl List.length_set (fun _ _ _ => bond_tie live) fun a t ha => ?_
  rw [session?_tie live]
  simp [ha]

theorem ties_unfollow (live : w.session? j = some s) : w.Ties j (w.unfollow j s) := by
  refine .of_others ?_ (length_unfollow w j s) (fun _ _ _ => bond_unfollow live) fun a t ha => ?_
  · rw [current, channels_unfollow, current]
  · rw [session?_unfollow live]
    simp [ha]

theorem Sound.toggle (hw : w.Sound) (h : Toggles j x) :
    (w.step x).2.Sound ∧ w.Ties j (w.step x).2 := by
  cases h with
  | settle => exact ⟨hw.settle, w.ties_settle j⟩
  | follow runtime =>
    rcases hw.grounded.step_follow (α := α) j runtime with h | ⟨s, live, loose, h⟩
    · rw [h]
      exact ⟨hw, .refl w j⟩
    · rw [h]
      exact ⟨hw.tie live loose, ties_tie live⟩
  | unfollow =>
    cases live : w.session? j with
    | none =>
      simp only [World.step, onSession, live]
      exact ⟨hw, .refl w j⟩
    | some s =>
      simp only [World.step, onSession_live live]
      exact ⟨hw.unfollow live, ties_unfollow live⟩

/-- A ledger takes no note of whether sessions follow. -/
theorem Tells.toggle (hl : w.Tells l) (hw : w.Sound) (h : Toggles j x) : (w.step x).2.Tells l := by
  have hturn := (hw.grounded.step_turn x).tells hw hl
  cases h <;> exact hturn

theorem Tells.toggle_run (hl : w.Tells l) (hw : w.Sound) {steps : List (Step α)}
    (h : ∀ x ∈ steps, Toggles j x) :
    (w.run steps).Tells l ∧ (w.run steps).Sound ∧ w.Ties j (w.run steps) := by
  induction steps generalizing w with
  | nil => exact ⟨hl, hw, .refl w j⟩
  | cons x steps ih =>
    rw [List.forall_mem_cons] at h
    obtain ⟨hw₁, hties⟩ := hw.toggle h.1
    obtain ⟨hl', hw', hties'⟩ := ih (hl.toggle hw h.1) hw₁ h.2
    exact ⟨hl', hw', hties.trans hties'⟩

namespace Ties

theorem alive (h : w.Ties j w') (F : Family) : F.alive w' = F.alive w := by
  rw [Bool.eq_iff_iff, alive_iff, alive_iff]
  simp only [Family.Draws, h.bond]

theorem followers (h : w.Ties j w') (i : Nat) :
    w'.followers i + (w.followsOn i j).toNat = w.followers i + (w'.followsOn i j).toNat := by
  have hany : ∀ (v : World) (a : Nat), v.followsOn i a =
      v.sessions[a]?.any fun s => !s.dropped && (s.channel = i && s.following.isSome) := by
    intro v a
    rw [followsOn, session?, Option.any_filter]
  have hothers : ∀ a ≠ j, _ = _ := h.others i
  simp only [hany] at hothers ⊢
  exact countP_add_of_single h.length hothers

theorem tally (h : w.Ties j w') (l : Ledger) (i : Nat) :
    w'.tally l i + (w.followsOn i j).toNat = w.tally l i + (w'.followsOn i j).toNat := by
  have hfollowers := h.followers i
  simp only [World.tally, h.alive]
  omega

end Ties

/-- A driver that a session follows is held. -/
theorem held_of_followsOn (h : w.followsOn i j = true) : w.held i = true := by
  obtain ⟨s, live, hs⟩ := (Option.any_eq_true _ _).1 h
  rw [Bool.and_eq_true, decide_eq_true_eq] at hs
  exact hs.1 ▸ held_session live

theorem Tells.subscribers_eq (hl : w.Tells l) (hw : w.Sound) (i : Nat) :
    w.settle.subscribers i = if w.settle.held i then w.settle.tally l i else 0 := by
  have hl' : w.settle.Tells l := hl.toggle (j := 0) (x := (.settle : Step Unit)) hw .settle
  rw [hw.subscribers_eq, hl'.stakes_eq hw.settle]

/-! ### Sessions that go -/

/-- The sessions that draw on the same subscription are those of one family. -/
theorem Tells.sole_iff (hl : w.Tells l) (live : w.session? j = some s) :
    (∀ j' s', w.session? j' = some s' → s'.cache.source = s.cache.source → j' = j) ↔
      ∀ F ∈ l.families, j ∈ F.members → ∀ j' ∈ F.members, (w.session? j').isSome → j' = j := by
  have hb : w.Bond j s.channel s.cache.source := ⟨s, live, rfl, rfl⟩
  constructor
  · intro h F hF hj j' hj' hsome
    obtain ⟨s', hs'⟩ := Option.isSome_iff_exists.1 hsome
    exact h j' s' hs' (hl.kinship.kin F hF _ _ _ _ ⟨j', hj', s', hs', rfl, rfl⟩ ⟨j, hj, hb⟩)
  · intro h j' s' hs' hsource
    have hb' : w.Bond j' s'.channel s.cache.source := ⟨s', hs', rfl, hsource⟩
    obtain ⟨F, hF, hj⟩ := hl.kinship.home j _ _ hb
    obtain ⟨G, hG, hj'⟩ := hl.kinship.home j' _ _ hb'
    obtain ⟨a, ha⟩ := List.mem_iff_getElem?.1 hF
    obtain ⟨b, hb⟩ := List.mem_iff_getElem?.1 hG
    obtain rfl := hl.kinship.family_unique ha hb ⟨j, hj, ‹_›⟩ ⟨j', hj', hb'⟩
    cases ha.symm.trans hb
    exact h F hF hj j' hj' (by rw [hs', Option.isSome_some])

/-- A session that goes takes the subscription behind its cache along if no other session is left of its
family. -/
theorem Tells.cancelled_source (hl : w.Tells l) (hw : w.Running) (live : w.session? j = some s) :
    (w.step (.drop j : Step α)).2.cancelled s.cache.source = true ↔
      ∀ F ∈ l.families, j ∈ F.members → ∀ j' ∈ F.members, (w.session? j').isSome → j' = j := by
  obtain ⟨f, hf, -, -, hc, -⟩ := (hw.sound.tied j s live).source
  rw [hw.cancelled_step hf, cancelled_eq hf, hc, ← hl.sole_iff live]
  constructor
  · rintro (h | h)
    · cases h
    · cases h with
      | drop live' mine => exact absurd rfl (hw.sound.source_ne_following live live' mine)
      | last live' mine sole =>
        cases live.symm.trans live'
        exact sole
  · exact fun sole => Or.inr (.last live rfl sole)

theorem Running.cancelled_following (hw : w.Running) (live : w.session? j = some s)
    (hk : s.following = some k) : (w.step (.drop j : Step α)).2.cancelled k = true :=
  hw.cancelled_of_releases (.drop live hk)

theorem Ties.subscribers (h : w.Ties j w') (hw : w.Sound) (hw' : w'.Sound) (hl : w.Tells l)
    (hl' : w'.Tells l) (i : Nat) :
    w'.settle.subscribers i + (w.settle.followsOn i j).toNat =
      w.settle.subscribers i + (w'.settle.followsOn i j).toNat := by
  have hties : w.settle.Ties j w'.settle :=
    ((w.ties_settle j).symm.trans h).trans (w'.ties_settle j)
  have hheld := held_congr hties.current hties.bond i
  rw [hl.subscribers_eq hw, hl'.subscribers_eq hw', hheld]
  cases hh : w.settle.held i with
  | true => exact hties.tally l i
  | false =>
    -- nobody follows a driver that is out of reach
    have hnone : ∀ v : World, v.held i = false → v.followsOn i j = false := by
      intro v hv
      by_contra hf
      rw [held_of_followsOn (by simpa using hf)] at hv
      cases hv
    simp [hnone _ hh, hnone _ (hheld.trans hh)]

/-- After a settle, the subscribers of a driver that someone holds are: one for each connect that
succeeded and of which a session is left, the one it gave or a duplicate; one for each session that
follows; and one for each handle that was given out and has been neither cancelled nor dropped. However
often a session is made to follow and to stop, that makes a difference of at most one. A session that
goes takes the subscription it follows through along, and the one behind its cache if it is the last. -/
theorem subscribers_settle (hw : w.Reached) :
    (∃ l, w.Recorded l) ∧ ∀ l, w.Recorded l →
      (∀ i, w.settle.subscribers i =
        if w.settle.held i then
          l.families.countP (fun F => F.driver = i && F.alive w.settle) +
            w.settle.sessions.countP (fun s => !s.dropped && (s.channel = i && s.following.isSome)) +
            l.handles.countP (·.1 = i)
        else 0) ∧
      (∀ (j : Nat) (steps : List (Step α)), (∀ x ∈ steps, Toggles j x) → ∀ i,
        (w.run steps).settle.subscribers i + (w.settle.followsOn i j).toNat =
          w.settle.subscribers i + ((w.run steps).settle.followsOn i j).toNat) ∧
      ∀ j s, w.session? j = some s →
        (∀ k, s.following = some k → (w.step (.drop j : Step α)).2.cancelled k = true) ∧
        ((w.step (.drop j : Step α)).2.cancelled s.cache.source = true ↔
          ∀ F ∈ l.families, j ∈ F.members → ∀ j' ∈ F.members, (w.session? j').isSome → j' = j) := by
  have hsound := hw.sound
  refine ⟨hw.recorded, fun l hrecorded => ?_⟩
  have hl := hrecorded.tells
  refine ⟨hl.subscribers_eq hsound, fun j steps hsteps i => ?_, fun j s live => ?_⟩
  · obtain ⟨hl', hsound', hties⟩ := hl.toggle_run hsound hsteps
    exact hties.subscribers hsound hsound' hl hl' i
  · have hrunning : w.Running := hw.running (hsound.channel_lt live)
    exact ⟨fun k hk => hrunning.cancelled_following live hk, hl.cancelled_source hrunning live⟩

/-- A session that follows has gone and its duplicate is left, and of two handles one has been cancelled.
Then the duplicate follows, and stops, and follows, and does so again. -/
theorem subscribers_settle_of_two :
    let w := (({ channels := [] } : World).enter (.ofState [])).run
      [Step.connect (α := Unit) { followDriver := true }, .duplicate 0, .subscribe none true,
        .subscribe (some 1) true, .drop 0, .cancel 2]
    let toggles : List (Step Unit) := [.follow 1 true, .unfollow 1, .follow 1 true, .follow 1 true]
    w.settle.subscribers 0 = 2 ∧ (w.run toggles).settle.subscribers 0 = 3 ∧
      (w.step (.drop 1 : Step Unit)).2.cancelled 0 = true := by
  intro w toggles
  have hstart : World.Recorded (({ channels := [] } : World).enter (.ofState [])) {} :=
    .enter (.state []) (.start {}) rfl
  have hrecorded : w.Recorded _ := hstart.run (List.cons_ne_nil _ _) _
  obtain ⟨hcount, htoggles, hdrop⟩ := (subscribers_settle (α := Unit) hrecorded.reached).2 _ hrecorded
  have htwo : w.settle.subscribers 0 = 2 := (hcount 0).trans (by decide +kernel)
  have hthree := htoggles 1 toggles (by simp [toggles, Toggles.follow, Toggles.unfollow]) 0
  have hbefore : w.settle.followsOn 0 1 = false := by decide +kernel
  have hafter : (w.run toggles).settle.followsOn 0 1 = true := by decide +kernel
  rw [htwo, hbefore, hafter, Bool.toNat_false, Nat.add_zero] at hthree
  have live : w.session? 1 = some
      { channel := 0, registry := ⟨[]⟩, cache := { initial := [], source := 0 } } := rfl
  exact ⟨htwo, hthree, (hdrop 1 _ live).2.2 (by decide +kernel)⟩

end World
end VirtualDisplay
