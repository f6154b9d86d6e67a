import VirtualDisplay.Proofs.World.Ledger

/-! What a ledger tells of a world. A subscription that has not been cancelled is behind the caches of one
family, of which a session is left, or a session follows through it, or its handle has been given out. -/

namespace VirtualDisplay

variable {α : Type}

/-- A session of the family draws on a subscription for its cache. -/
def Family.Draws (F : Family) (w : World) (c k : Nat) : Prop := ∃ j ∈ F.members, w.Bond j c k

namespace World

variable {w w' : World} {l : Ledger} {fs : List Family} {F : Family} {handles : List (Nat × Nat)}
  {x : Step α} {o : Outcome α} {i j c k : Nat} {s : Session}

/-! ### Families -/

/-- Each session that has not been dropped is in a family. The sessions of a family draw on the same
subscription, and those of no other family do. -/
structure Kinship (w : World) (fs : List Family) : Prop where
  known : ∀ F ∈ fs, ∀ j ∈ F.members, j < w.sessions.length
  driver : ∀ F ∈ fs, ∀ c k, F.Draws w c k → c = F.driver
  kin : ∀ F ∈ fs, ∀ c k c' k', F.Draws w c k → F.Draws w c' k' → k = k'
  strangers : fs.Pairwise fun F G => ∀ c k c', F.Draws w c k → ¬ G.Draws w c' k
  home : ∀ j c k, w.Bond j c k → ∃ F ∈ fs, j ∈ F.members

theorem Sound.draws_lt (hw : w.Sound) (h : F.Draws w c k) : k < w.subscriptions.length := by
  obtain ⟨j, -, hb⟩ := h
  exact (hw.stake_source hb).lt

namespace Kinship

/-- Families may change as long as none of them draws on anything new. -/
theorem map (h : w.Kinship fs) (f : Family → Family) (hdriver : ∀ F, (f F).driver = F.driver)
    (hknown : ∀ F ∈ fs, ∀ j ∈ (f F).members, j < w'.sessions.length)
    (hdraws : ∀ F ∈ fs, ∀ c k, (f F).Draws w' c k → F.Draws w c k)
    (hhome : ∀ j c k, w'.Bond j c k → ∃ F ∈ fs, j ∈ (f F).members) : w'.Kinship (fs.map f) := by
  constructor
  · simpa [List.forall_mem_map] using hknown
  · simp only [List.forall_mem_map]
    intro F hF c k hd
    rw [hdriver]
    exact h.driver F hF c k (hdraws F hF c k hd)
  · simp only [List.forall_mem_map]
    intro F hF c k c' k' hd hd'
    exact h.kin F hF c k c' k' (hdraws F hF c k hd) (hdraws F hF c' k' hd')
  · rw [List.pairwise_map]
    refine h.strangers.imp_of_mem fun hF hG hne c k c' hd hd' => ?_
    exact hne c k c' (hdraws _ hF c k hd) (hdraws _ hG c' k hd')
  · intro j c k hb
    obtain ⟨F, hF, hj⟩ := hhome j c k hb
    exact ⟨f F, List.mem_map_of_mem hF, hj⟩

/-- Sessions may go. -/
theorem narrow (h : w.Kinship fs) (hlen : w.sessions.length ≤ w'.sessions.length)
    (hbond : ∀ j c k, w'.Bond j c k → w.Bond j c k) : w'.Kinship fs := by
  have hmap : w'.Kinship (fs.map id) := h.map id (fun _ => rfl)
    (fun F hF j hj => Nat.lt_of_lt_of_le (h.known F hF j hj) hlen)
    (fun F _ c k ⟨j, hj, hb⟩ => ⟨j, hj, hbond j c k hb⟩)
    (fun j c k hb => h.home j c k (hbond j c k hb))
  rwa [List.map_id] at hmap

/-- A session that connects is the first of its family. -/
theorem welcome (hw : w.Sound) (h : w.Kinship fs) :
    w.welcome.Kinship (fs ++ [{ driver := w.current, members := [w.sessions.length] }]) := by
  have hlen : w.welcome.sessions.length = w.sessions.length + 1 := List.length_append
  -- those that were there draw on what they drew on
  have hold : ∀ F ∈ fs, ∀ c k, F.Draws w.welcome c k → F.Draws w c k := by
    rintro F hF c k ⟨j, hj, hb⟩
    rcases bond_welcome.1 hb with hb | ⟨rfl, -⟩
    · exact ⟨j, hj, hb⟩
    · exact absurd (h.known F hF _ hj) (Nat.lt_irrefl _)
  have hnew : ∀ c k, Family.Draws { driver := w.current, members := [w.sessions.length] } w.welcome c k →
      w.current = c ∧ w.subscriptions.length = k := by
    rintro c k ⟨j, hj, hb⟩
    obtain rfl := List.mem_singleton.1 hj
    rcases bond_welcome.1 hb with hb | ⟨-, h⟩
    · exact absurd hb.lt (Nat.lt_irrefl _)
    · exact h
  constructor
  · simp only [List.forall_mem_append, List.forall_mem_singleton, hlen]
    exact ⟨fun F hF j hj => Nat.lt_succ_of_lt (h.known F hF j hj), Nat.lt_succ_self _⟩
  · simp only [List.forall_mem_append, List.forall_mem_singleton]
    exact ⟨fun F hF c k hd => h.driver F hF c k (hold F hF c k hd), fun c k hd => (hnew c k hd).1.symm⟩
  · simp only [List.forall_mem_append, List.forall_mem_singleton]
    refine ⟨fun F hF c k c' k' hd hd' => ?_, fun c k c' k' hd hd' => ?_⟩
    · exact h.kin F hF c k c' k' (hold F hF c k hd) (hold F hF c' k' hd')
    · exact (hnew c k hd).2.symm.trans (hnew c' k' hd').2
  · rw [List.pairwise_append]
    refine ⟨h.strangers.imp_of_mem fun hF hG hne c k c' hd hd' => ?_, List.pairwise_singleton _ _, ?_⟩
    · exact hne c k c' (hold _ hF c k hd) (hold _ hG c' k hd')
    · simp only [List.forall_mem_singleton]
      intro F hF c k c' hd hd'
      have hk := hw.draws_lt (hold F hF c k hd)
      rw [(hnew c' k hd').2] at hk
      exact Nat.lt_irrefl _ hk
  · intro j c k hb
    rcases bond_welcome.1 hb with hb | ⟨rfl, -⟩
    · obtain ⟨F, hF, hj⟩ := h.home j c k hb
      exact ⟨F, List.mem_append_left _ hF, hj⟩
    · exact ⟨_, List.mem_append_right _ (List.mem_singleton_self _), List.mem_singleton_self _⟩

theorem mem_adopt {new : Nat} :
    j ∈ (F.adopt i new).members ↔ j ∈ F.members ∨ i ∈ F.members ∧ j = new := by
  unfold Family.adopt
  split
  · next h => simp [h]
  · next h => simp [h]

theorem driver_adopt (i new : Nat) (F : Family) : (F.adopt i new).driver = F.driver := by
  unfold Family.adopt
  split <;> rfl

/-- A duplicate draws on what the session draws on that it was made of. -/
theorem duplicate (h : w.Kinship fs) (live : w.session? i = some s) :
    ({ w with sessions := w.sessions ++ [{ s with following := none }] } : World).Kinship
      (fs.map (·.adopt i w.sessions.length)) := by
  refine h.map _ (driver_adopt i _) (fun F hF j hj => ?_) (fun F hF c k hd => ?_) fun j c k hb => ?_
  · rw [List.length_append]
    rcases mem_adopt.1 hj with hj | ⟨-, rfl⟩
    · exact Nat.lt_succ_of_lt (h.known F hF j hj)
    · exact Nat.lt_succ_self _
  · obtain ⟨j, hj, hb⟩ := hd
    rcases (bond_duplicate live).1 hb with hold | ⟨rfl, hcopied⟩
    · rcases mem_adopt.1 hj with hj | ⟨-, rfl⟩
      · exact ⟨j, hj, hold⟩
      · exact absurd hold.lt (Nat.lt_irrefl _)
    · rcases mem_adopt.1 hj with hj | ⟨hi, -⟩
      · exact absurd (h.known F hF _ hj) (Nat.lt_irrefl _)
      · exact ⟨i, hi, hcopied⟩
  · rcases (bond_duplicate live).1 hb with hold | ⟨rfl, hcopied⟩
    · obtain ⟨F, hF, hj⟩ := h.home j c k hold
      exact ⟨F, hF, mem_adopt.2 (Or.inl hj)⟩
    · obtain ⟨F, hF, hi⟩ := h.home i c k hcopied
      exact ⟨F, hF, mem_adopt.2 (Or.inr ⟨hi, rfl⟩)⟩

end Kinship

theorem Turn.kinship (h : w.Turn x o w') (hw : w.Sound) (hl : w.Kinship l.families) :
    w'.Kinship (l.note w x o).families := by
  cases h with
  | stays steady silent =>
    rw [silent]
    exact hl.narrow (Nat.le_of_eq steady.sessions.symm) fun j c k => (steady.bond j c k).1
  | connects => exact hl.welcome hw
  | connectsTied =>
    have hnew : w.welcome.session? w.sessions.length = some w.newcomer :=
      session?_welcome.2 (Or.inr ⟨rfl, rfl⟩)
    exact (hl.welcome hw).narrow (Nat.le_of_eq List.length_set.symm) fun _ _ _ => (bond_tie hnew).1
  | subscribes | subscribesFor => exact hl.narrow (Nat.le_refl _) fun _ _ _ => id
  | cancels =>
    refine hl.narrow (Nat.le_of_eq (congrArg _ (sessions_release w _).symm)) fun j c k hb => ?_
    simpa only [Bond, session?, sessions_release] using hb
  | follows live loose =>
    exact hl.narrow (Nat.le_of_eq List.length_set.symm) fun _ _ _ => (bond_tie live).1
  | unfollows live =>
    exact hl.narrow (Nat.le_of_eq (length_unfollow w _ _).symm) fun _ _ _ => (bond_unfollow live).1
  | duplicates live => exact hl.duplicate live
  | drops live =>
    exact hl.narrow (Nat.le_of_eq (length_dropSession w _ _).symm)
      fun _ _ _ hb => ((bond_drop live).1 hb).2

/-! ### Handles -/

/-- The handles are those of the subscriptions that were asked for and have not been cancelled. -/
structure Given (w : World) (handles : List (Nat × Nat)) : Prop where
  once : handles.Nodup
  stake : ∀ c k, (c, k) ∈ handles ↔ w.Stake k c .record

namespace Given

theorem congr (h : w.Given handles) (hstake : ∀ k c, w'.Stake k c .record ↔ w.Stake k c .record) :
    w'.Given handles :=
  ⟨h.once, fun c k => (h.stake c k).trans (hstake k c).symm⟩

theorem attach (h : w.Given handles) (c : Nat) :
    (w.attach c .record).Given (handles ++ [(c, w.subscriptions.length)]) := by
  constructor
  · refine List.nodup_append.2 ⟨h.once, List.pairwise_singleton _ _, ?_⟩
    rintro ⟨c', k⟩ hmem p hp rfl
    cases List.mem_singleton.1 hp
    exact Nat.lt_irrefl _ ((h.stake _ _).1 hmem).lt
  · intro c' k
    rw [List.mem_append, h.stake, stake_attach, List.mem_singleton, Prod.mk.injEq]
    simp [and_comm, eq_comm]

theorem release (hw : w.Sound) (h : w.Given handles) (k : Nat) :
    (w.release k).Given (handles.filter (·.2 ≠ k)) := by
  refine ⟨h.once.filter _, fun c k' => ?_⟩
  rw [List.mem_filter, h.stake, hw.stake_release]
  simp

end Given

theorem stake_attach_record {target : Target} (h : target ≠ .record) :
    (w.attach i target).Stake k c .record ↔ w.Stake k c .record := by
  simp [stake_attach, h]

theorem stake_tie_record : (w.tie i s).Stake k c .record ↔ w.Stake k c .record :=
  stake_attach_record (w := w) nofun

theorem Turn.given (h : w.Turn x o w') (hw : w.Sound) (hl : w.Given l.handles) :
    w'.Given (l.note w x o).handles := by
  cases h with
  | stays steady silent =>
    rw [silent]
    exact hl.congr fun k c => steady.stake k c _
  | connects => exact hl.congr fun _ _ => stake_attach_record (w := w) nofun
  | connectsTied =>
    exact hl.congr fun _ _ => stake_tie_record.trans (stake_attach_record (w := w) nofun)
  | subscribes => exact hl.attach _
  | subscribesFor live =>
    simp only [Ledger.note, live]
    exact hl.attach _
  | cancels => exact hl.release hw _
  | follows live loose => exact hl.congr fun _ _ => stake_tie_record
  | unfollows live =>
    refine hl.congr fun k c => hw.stake_unfollow.trans (and_iff_right_of_imp fun hs hk => ?_)
    cases (hs.unique (hw.stake_following live hk)).2
  | duplicates live => exact hl.congr fun _ _ => Iff.rfl
  | drops live =>
    -- neither of the subscriptions that may go is one whose handle was given out
    refine hl.congr fun k c => (hw.stake_drop live).trans ⟨fun h => h.2.2, fun hs => ⟨?_, ?_, hs⟩⟩
    · intro hk
      cases (hs.unique (hw.stake_following live hk)).2
    · rintro rfl
      cases (hs.unique (hw.stake_source ⟨_, live, rfl, rfl⟩)).2

/-! ### Caches -/

/-- Some session draws on every subscription that stands behind a cache and has not been cancelled. -/
def Backed (w : World) : Prop := ∀ k c, w.Stake k c .cache → ∃ j c', w.Bond j c' k

theorem Backed.congr (h : w.Backed) (hstake : ∀ k c, w'.Stake k c .cache → w.Stake k c .cache)
    (hbond : ∀ j c k, w.Bond j c k → w'.Bond j c k) : w'.Backed := by
  intro k c hs
  obtain ⟨j, c', hb⟩ := h k c (hstake k c hs)
  exact ⟨j, c', hbond j c' k hb⟩

theorem Backed.welcome (h : w.Backed) : w.welcome.Backed := by
  intro k c hs
  rcases stake_attach.1 hs with hs | ⟨rfl, -⟩
  · obtain ⟨j, c', hb⟩ := h k c hs
    exact ⟨j, c', bond_welcome.2 (Or.inl hb)⟩
  · exact ⟨_, _, bond_welcome.2 (Or.inr ⟨rfl, rfl, rfl⟩)⟩

theorem Backed.tie (h : w.Backed) (live : w.session? i = some s) : (w.tie i s).Backed := by
  refine h.congr (fun k c hs => ?_) fun _ _ _ => (bond_tie live).2
  rcases stake_attach.1 hs with hs | ⟨-, -, h⟩
  · exact hs
  · cases h

theorem Turn.backed (h : w.Turn x o w') (hw : w.Sound) (hb : w.Backed) : w'.Backed := by
  cases h with
  | stays steady =>
    exact hb.congr (fun k c => (steady.stake k c _).1) fun j c k => (steady.bond j c k).2
  | connects => exact hb.welcome
  | connectsTied => exact hb.welcome.tie (session?_welcome.2 (Or.inr ⟨rfl, rfl⟩))
  | subscribes | subscribesFor =>
    refine hb.congr (fun k c hs => ?_) fun _ _ _ => id
    rcases stake_attach.1 hs with hs | ⟨-, -, h⟩
    · exact hs
    · cases h
  | cancels =>
    refine hb.congr (fun k c hs => (hw.stake_release.1 hs).1) fun j c k h => ?_
    simpa only [Bond, session?, sessions_release] using h
  | follows live => exact hb.tie live
  | unfollows live =>
    exact hb.congr (fun _ _ hs => (hw.stake_unfollow.1 hs).2) fun _ _ _ => (bond_unfollow live).2
  | duplicates live => exact hb.congr (fun _ _ => id) fun _ _ _ h => (bond_duplicate live).2 (Or.inl h)
  | drops live =>
    rename_i i s
    intro k c hs
    obtain ⟨-, hother, hs⟩ := (hw.stake_drop live).1 hs
    obtain ⟨j, c', hb⟩ := hb k c hs
    by_cases hj : j = i
    · -- another session draws on it too
      subst hj
      have hk : s.cache.source = k := (Bond.unique ⟨s, live, rfl, rfl⟩ hb).2
      obtain ⟨j', hne, c'', hb'⟩ := hother hk.symm
      exact ⟨j', c'', (bond_drop live).2 ⟨hne, hb'⟩⟩
    · exact ⟨j, c', (bond_drop live).2 ⟨hj, hb⟩⟩

/-! ### Ledgers -/

/-- The ledger tells of each subscription that has not been cancelled, but for those that sessions follow
through. -/
structure Tells (w : World) (l : Ledger) : Prop where
  kinship : w.Kinship l.families
  given : w.Given l.handles
  backed : w.Backed

theorem Turn.tells (h : w.Turn x o w') (hw : w.Sound) (hl : w.Tells l) : w'.Tells (l.note w x o) :=
  ⟨h.kinship hw hl.kinship, h.given hw hl.given, h.backed hw hl.backed⟩

theorem Recorded.tells (h : w.Recorded l) : w.Tells l := by
  induction h with
  | start files =>
    have hbond : ∀ j c k, ¬ ({ files, channels := [] } : World).Bond j c k := by
      rintro j c k ⟨s, hs, -⟩
      cases hs
    have hstake : ∀ k c t, ¬ ({ files, channels := [] } : World).Stake k c t := by
      rintro k c t ⟨f, hf, -⟩
      cases hf
    refine ⟨⟨nofun, nofun, nofun, .nil, ?_⟩, ⟨.nil, ?_⟩, ?_⟩
    · exact fun j c k hb => absurd hb (hbond j c k)
    · exact fun c k => ⟨nofun, fun hs => absurd hs (hstake k c _)⟩
    · exact fun k c hs => absurd hs (hstake k c _)
  | enter o _ _ ih =>
    exact ⟨ih.kinship.narrow (Nat.le_refl _) fun _ _ _ => id, ih.given.congr fun _ _ => Iff.rfl, ih.backed⟩
  | step x hw _ ih => exact (hw.reached.sound.grounded.step_turn x).tells hw.reached.sound ih

end World
end VirtualDisplay
