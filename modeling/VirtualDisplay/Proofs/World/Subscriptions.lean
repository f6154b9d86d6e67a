import VirtualDisplay.Proofs.World.Runs

/-! One subscription over a run: what a step may make of it, and which steps end it. It ends with its
handle, whether that is cancelled by whoever holds it or goes with a session. -/

namespace VirtualDisplay

variable {α : Type}

/-- What later steps may make of a subscription. Once it is cancelled it is handed nothing more. -/
structure Subscription.Later (f f' : Subscription) : Prop where
  channel : f'.channel = f.channel
  target : f'.target = f.target
  cancelled : f.cancelled = true → f'.cancelled = true
  handed : f.cancelled = true → f'.handed = f.handed

theorem Subscription.Later.refl (f : Subscription) : f.Later f := ⟨rfl, rfl, id, fun _ => rfl⟩

theorem Subscription.Later.trans {f g h : Subscription} (hfg : f.Later g) (hgh : g.Later h) :
    f.Later h :=
  ⟨hgh.channel.trans hfg.channel, hgh.target.trans hfg.target,
    fun hc => hgh.cancelled (hfg.cancelled hc),
    fun hc => (hgh.handed (hfg.cancelled hc)).trans (hfg.handed hc)⟩

theorem Subscription.later_cancel (f : Subscription) : f.Later f.cancel :=
  ⟨rfl, rfl, fun hc => by simp [cancel, hc], fun _ => rfl⟩

namespace World

/-- The states that a subscription has been handed, the oldest first. -/
def handed (w : World) (k : Nat) : List DriverState := (w.subscriptions[k]?.map (·.handed)).getD []

/-- Whether the handle of a subscription has been cancelled or dropped. -/
def cancelled (w : World) (k : Nat) : Bool := w.subscriptions[k]?.any (·.cancelled)

variable {w : World} {f : Subscription} {i k : Nat}

theorem handed_eq (hf : w.subscriptions[k]? = some f) : w.handed k = f.handed := by
  simp [handed, hf]

theorem cancelled_eq (hf : w.subscriptions[k]? = some f) : w.cancelled k = f.cancelled := by
  simp [cancelled, hf]

theorem run_concat (steps : List (Step α)) (x : Step α) (w : World) :
    w.run (steps ++ [x]) = ((w.run steps).step x).2 := by
  rw [run_append]
  rfl

/-! ### One subscription, step by step -/

namespace Running

variable (hw : w.Running)
include hw

theorem subscription_step (hf : w.subscriptions[k]? = some f) {x : Step α} (hx : x ≠ .settle) :
    ∃ f', (w.step x).2.subscriptions[k]? = some f' ∧ (f' = f ∨ f' = f.cancel) :=
  ((hw.sound.grounded.step_effect hw.driven x hx).carries hw.driven
    fun _ _ => hw.sound.channel_lt).old k f hf

theorem later_step (hf : w.subscriptions[k]? = some f) (x : Step α) :
    ∃ f', (w.step x).2.subscriptions[k]? = some f' ∧ f.Later f' := by
  by_cases hx : x = .settle
  · subst hx
    obtain ⟨f', hf', hchannel, htarget, hcancelled, -, hhanded⟩ := hw.sound.subscription_settle hf
    refine ⟨f', hf', hchannel, htarget, fun hc => hcancelled.trans hc, fun hc => ?_⟩
    rw [hhanded, if_pos hc, List.append_nil]
  · obtain ⟨f', hf', rfl | rfl⟩ := hw.subscription_step hf hx
    · exact ⟨f', hf', .refl f'⟩
    · exact ⟨_, hf', f.later_cancel⟩

theorem later_run (hf : w.subscriptions[k]? = some f) (steps : List (Step α)) :
    ∃ f', (w.run steps).subscriptions[k]? = some f' ∧ f.Later f' := by
  induction steps generalizing w f with
  | nil => exact ⟨f, hf, .refl f⟩
  | cons x steps ih =>
    obtain ⟨g, hg, hfg⟩ := hw.later_step hf x
    obtain ⟨h, hh, hgh⟩ := ih (hw.step x) hg
    exact ⟨h, hh, hfg.trans hgh⟩

/-- While the world does not settle, a subscription is handed nothing and stays where it stands. -/
theorem quiet_run (hf : w.subscriptions[k]? = some f) {quiet : List (Step α)}
    (hq : .settle ∉ quiet) :
    ∃ f', (w.run quiet).subscriptions[k]? = some f' ∧ f'.cursor = f.cursor ∧ f'.handed = f.handed := by
  induction quiet generalizing w f with
  | nil => exact ⟨f, hf, rfl, rfl⟩
  | cons x quiet ih =>
    rw [List.mem_cons, not_or] at hq
    obtain ⟨g, hg, hfg⟩ := hw.subscription_step hf (Ne.symm hq.1)
    obtain ⟨h, hh, hcursor, hhanded⟩ := ih (hw.step x) hg hq.2
    refine ⟨h, hh, ?_, ?_⟩
    · rcases hfg with rfl | rfl <;> exact hcursor
    · rcases hfg with rfl | rfl <;> exact hhanded

/-- A step that does not settle puts what the driver broadcasts in prospect. -/
theorem prospect_step (hf : w.subscriptions[k]? = some f) {x : Step α} (hx : x ≠ .settle) :
    ∃ g, (w.step x).2.subscriptions[k]? = some g ∧ f.Later g ∧ (w.step x).2.prospect g =
      w.prospect f ++ ((w.step x).2.driver f.channel).events.drop
        (w.driver f.channel).events.length := by
  have h := (hw.grows_step x).prospect (hw.sound.placed f (List.mem_of_getElem? hf))
  obtain ⟨g, hg, rfl | rfl⟩ := hw.subscription_step hf hx
  · exact ⟨g, hg, .refl g, h⟩
  · exact ⟨_, hg, f.later_cancel, h⟩

/-- A driver keeps its capacity, and its events stay at the front. -/
theorem driver_run (steps : List (Step α)) (hi : i < w.channels.length) :
    ((w.run steps).driver i).capacity = (w.driver i).capacity ∧
      (w.driver i).events <+: ((w.run steps).driver i).events := by
  induction steps generalizing w with
  | nil => exact ⟨rfl, List.prefix_refl _⟩
  | cons x steps ih =>
    have g := hw.grows_step x
    obtain ⟨hcap, hevents⟩ := ih (hw.step x) (Nat.lt_of_lt_of_le hi g.channels)
    exact ⟨hcap.trans (g.driver i hi).capacity, (g.driver i hi).prefix_events.trans hevents⟩

end Running

/-! ### Handles -/

/-- A step cancels the handle of a subscription or drops it. -/
inductive Releases (w : World) (k : Nat) : Step α → Prop
  /-- Whoever asked for the subscription cancels it. -/
  | cancel {f : Subscription} (given : w.subscriptions[k]? = some f) (mine : f.target = .record) :
      Releases w k (.cancel k)
  | unfollow {j : Nat} {s : Session} (live : w.session? j = some s) (mine : s.following = some k) :
      Releases w k (.unfollow j)
  | drop {j : Nat} {s : Session} (live : w.session? j = some s) (mine : s.following = some k) :
      Releases w k (.drop j)
  /-- The last session goes that draws on the subscription for its cache. -/
  | last {j : Nat} {s : Session} (live : w.session? j = some s) (mine : s.cache.source = k)
      (sole : ∀ j' s', w.session? j' = some s' → s'.cache.source = k → j' = j) :
      Releases w k (.drop j)

section

variable {w' : World} {f' : Subscription} {x : Step α} {o : Outcome α} {s : Session} {j : Nat}

theorem cancelled_of_unfollow (hf : w.subscriptions[k]? = some f)
    (hf' : (w.unfollow j s).subscriptions[k]? = some f') (hc : f'.cancelled = true) :
    f.cancelled = true ∨ s.following = some k := by
  unfold unfollow at hf'
  cases hl : s.following with
  | none =>
    simp only [hl] at hf'
    cases hf.symm.trans hf'
    exact Or.inl hc
  | some l =>
    simp only [hl] at hf'
    rcases (subscription_cancel (w := w)).1 hf' with ⟨-, hf'⟩ | ⟨rfl, -⟩
    · cases hf.symm.trans hf'
      exact Or.inl hc
    · exact Or.inr rfl

/-- Nobody draws on the subscription behind the cache of a session that has gone, if no other session
did. -/
theorem sourced_gone (live : w.session? j = some s) :
    ((w.unfollow j s).setSession j { s with following := none, dropped := true }).sourced
      s.cache.source = false ↔
    ∀ j' s', w.session? j' = some s' → s'.cache.source = s.cache.source → j' = j := by
  rw [sourced_eq_false]
  constructor
  · intro h j' s' hs' hsource
    by_cases hj : j' = j
    · exact hj
    · exact absurd hsource (h j' s' ((session?_gone live).2 ⟨hj, hs'⟩))
  · intro h j' s' hs' hsource
    obtain ⟨hne, hs'⟩ := (session?_gone live).1 hs'
    exact hne (h j' s' hs' hsource)

/-- Nothing but its handle ends a subscription. -/
theorem Effect.released (h : w.Effect x o w') (hf : w.subscriptions[k]? = some f)
    (hf' : w'.subscriptions[k]? = some f') (hc : f'.cancelled = true) :
    f.cancelled = true ∨ w.Releases k x := by
  have kept : w'.subscriptions[k]? = some f → f.cancelled = true ∨ w.Releases k x := by
    intro h
    cases h.symm.trans hf'
    exact Or.inl hc
  cases h with
  | release l =>
    unfold World.release at hf' kept
    split at hf'
    · rename_i hrecord
      rcases subscription_cancel.1 hf' with ⟨-, hf'⟩ | ⟨rfl, f₀, hf₀, -⟩
      · cases hf.symm.trans hf'
        exact Or.inl hc
      · rw [hf₀, Option.any_some, decide_eq_true_eq] at hrecord
        exact Or.inr (.cancel hf₀ hrecord)
    · cases hf.symm.trans hf'
      exact Or.inl hc
  | unfollow live =>
    rcases cancelled_of_unfollow hf hf' hc with h | h
    · exact Or.inl h
    · exact Or.inr (.unfollow live h)
  | drop live =>
    rename_i j s
    have hunfollow : ∀ {g}, (w.unfollow j s).subscriptions[k]? = some g → g.cancelled = true →
        f.cancelled = true ∨ w.Releases k (Step.drop (α := α) j) := by
      intro g hg hgc
      rcases cancelled_of_unfollow hf hg hgc with h | h
      · exact Or.inl h
      · exact Or.inr (.drop live h)
    simp only [dropSession] at hf'
    split at hf'
    · exact hunfollow hf' hc
    · rename_i hsourced
      rcases subscription_cancel.1 hf' with ⟨-, hf'⟩ | ⟨rfl, -⟩
      · exact hunfollow hf' hc
      · exact Or.inr (.last live rfl ((sourced_gone live).1 (by simpa using hsourced)))
  | attach | welcome | tie => exact kept (subscription_attach.2 (Or.inl hf))
  | welcomeTied =>
    have hold : w.welcome.subscriptions[k]? = some f := subscription_attach.2 (Or.inl hf)
    exact kept (subscription_attach.2 (Or.inl hold))
  | aside | drive | enter | edit | duplicate => exact kept hf

theorem cancelled_of_cancels (h : w.Cancels w') (hc : w.cancelled k = true) :
    w'.cancelled k = true := by
  unfold World.cancelled at hc ⊢
  rcases h k with hk | hk <;> rw [hk]
  · exact hc
  · cases hf : w.subscriptions[k]? with
    | none => simp [hf] at hc
    | some f =>
      have hf' : f.cancelled = true := by simpa [hf] using hc
      exact f.later_cancel.cancelled hf'

theorem Sound.cancelled_cancel (hw : w.Sound) (hf : w.subscriptions[k]? = some f) :
    (w.cancel k).cancelled k = true :=
  (cancelled_eq (subscription_cancel.2 (Or.inr ⟨rfl, f, hf, rfl⟩))).trans
    (World.cancelled_cancel (hw.placed f (List.mem_of_getElem? hf)))

/-- Handles do end subscriptions. -/
theorem Running.cancelled_of_releases (hw : w.Running) (h : w.Releases k x) :
    (w.step x).2.cancelled k = true := by
  cases h with
  | cancel given mine =>
    have hrelease : w.release k = w.cancel k := by simp [World.release, given, mine]
    exact (congrArg (World.cancelled · k) hrelease).trans (hw.sound.cancelled_cancel given)
  | unfollow live mine =>
    obtain ⟨f, hf, -⟩ := (hw.sound.tied _ _ live).following k mine
    simp only [World.step, onSession_live live, World.unfollow, mine]
    exact hw.sound.cancelled_cancel hf
  | drop live mine =>
    obtain ⟨f, hf, -⟩ := (hw.sound.tied _ _ live).following k mine
    have hgone : (w.cancel k).cancelled k = true := hw.sound.cancelled_cancel hf
    simp only [World.step, onSession_live live, World.dropSession, World.unfollow, mine]
    split
    · exact hgone
    · exact cancelled_of_cancels (cancels_cancel _ _) hgone
  | last live mine sole =>
    subst mine
    have hloose := (session?_unfollow live).2 (Or.inr ⟨rfl, rfl⟩)
    obtain ⟨f, hf, -⟩ := ((hw.sound.unfollow live).tied _ _ hloose).source
    simp only [World.step, onSession_live live, World.dropSession, (sourced_gone live).2 sole]
    exact (hw.sound.unfollow live).cancelled_cancel hf

/-- A subscription is over after a step if it was before or if the step has released its handle. -/
theorem Running.cancelled_step (hw : w.Running) (hf : w.subscriptions[k]? = some f) (x : Step α) :
    (w.step x).2.cancelled k = true ↔ w.cancelled k = true ∨ w.Releases k x := by
  obtain ⟨g, hg, hlater⟩ := hw.later_step hf x
  rw [cancelled_eq hf]
  constructor
  · intro hc
    rw [cancelled_eq hg] at hc
    by_cases hx : x = .settle
    · subst hx
      obtain ⟨g', hg', -, -, hcancelled, -⟩ := hw.sound.subscription_settle hf
      cases hg.symm.trans hg'
      exact Or.inl (hcancelled.symm.trans hc)
    · exact (hw.sound.grounded.step_effect hw.driven x hx).released hf hg hc
  · rintro (hc | h)
    · rw [cancelled_eq hg]
      exact hlater.cancelled hc
    · exact hw.cancelled_of_releases h

end

end World
end VirtualDisplay
