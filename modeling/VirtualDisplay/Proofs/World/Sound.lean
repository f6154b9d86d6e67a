import VirtualDisplay.Proofs.World.Growth

/-! The invariant of worlds of loopback drivers. Every subscription stands somewhere in the events of
its driver, and the states that the one behind a cache has handed over and has yet to hand over end in
the live state. -/

namespace VirtualDisplay

variable {α : Type}

/-- A subscription stands in the events of its driver. If it has ended though it was not cancelled, it
stands at their end, and nobody is left to add to them. -/
structure Subscription.Placed (w : World) (f : Subscription) : Prop where
  channel : f.channel < w.channels.length
  cancellable : f.cancellable = true
  cursor : f.cursor ≤ (w.driver f.channel).events.length
  ended : f.ended = true → f.cancelled = false →
    w.held f.channel = false ∧ f.cursor = (w.driver f.channel).events.length

/-- The states that a subscription has been handed, and those that its driver has for it. -/
def World.prospect (w : World) (f : Subscription) : List DriverState :=
  f.handed ++ (w.driver f.channel).events.drop f.cursor

/-- A session has its subscriptions, and what that behind its cache has brought and will bring leads to
the live state. -/
structure Session.Tied (w : World) (i : Nat) (s : Session) : Prop where
  source : ∃ f, w.subscriptions[s.cache.source]? = some f ∧ f.target = .cache ∧
    f.channel = s.channel ∧ f.cancelled = false ∧
    (w.prospect f).getLast?.getD s.cache.initial = (w.driver s.channel).live
  following : ∀ k, s.following = some k → ∃ f, w.subscriptions[k]? = some f ∧
    f.target = .registry i ∧ f.channel = s.channel ∧ f.cancelled = false

structure World.Sound (w : World) : Prop where
  loopback : ∀ c ∈ w.channels, ∃ d, c = .loopback d
  regular : ∀ i < w.channels.length, (w.driver i).Regular
  placed : ∀ f ∈ w.subscriptions, f.Placed w
  tied : ∀ i s, w.session? i = some s → s.Tied w i
  /-- Only the session that follows through it has a subscription for its registry. -/
  owned : ∀ k f j, w.subscriptions[k]? = some f → f.target = .registry j → f.cancelled = false →
    ∃ s, w.session? j = some s ∧ s.following = some k

namespace World

variable {w w' : World} {x : Step α} {o : Outcome α} {i j k : Nat}

/-! ### What is kept as a world grows -/

theorem Fresh.placed {f : Subscription} (h : w.Fresh f) : f.Placed w :=
  ⟨h.channel, h.cancellable, Nat.le_of_eq h.cursor, fun he => by rw [h.ended] at he; cases he⟩

theorem Grows.placed {f : Subscription} (g : w.Grows w') (h : f.Placed w) : f.Placed w' := by
  refine ⟨Nat.lt_of_lt_of_le h.channel g.channels, h.cancellable, ?_, fun he hc => ?_⟩
  · exact Nat.le_trans h.cursor (g.driver _ h.channel).prefix_events.length_le
  · obtain ⟨hheld, hcursor⟩ := h.ended he hc
    exact ⟨g.unheld h.channel hheld, by rw [g.rest _ h.channel hheld, hcursor]⟩

theorem cancelled_cancel {f : Subscription} (h : f.Placed w) : f.cancel.cancelled = true := by
  simp [Subscription.cancel, h.cancellable]

theorem Grows.placed_cancel {f : Subscription} (g : w.Grows w') (h : f.Placed w) :
    f.cancel.Placed w' := by
  have h' := g.placed h
  refine ⟨h'.channel, h'.cancellable, h'.cursor, fun _ hc => ?_⟩
  rw [cancelled_cancel h] at hc
  cases hc

theorem Carries.placed (c : w.Carries w') (g : w.Grows w') (hw : ∀ f ∈ w.subscriptions, f.Placed w) :
    ∀ f ∈ w'.subscriptions, f.Placed w' := by
  intro f' hf'
  obtain ⟨k, hk⟩ := List.mem_iff_getElem?.1 hf'
  cases h : w.subscriptions[k]? with
  | none => exact (c.new k f' h hk).placed
  | some f =>
    obtain ⟨f'', hk', heq⟩ := c.old k f h
    cases hk.symm.trans hk'
    have hf := hw f (List.mem_of_getElem? h)
    rcases heq with rfl | rfl
    · exact g.placed hf
    · exact g.placed_cancel hf

/-- What a driver broadcasts comes after all that a subscription had before it. -/
theorem Grows.prospect {f : Subscription} (g : w.Grows w') (h : f.Placed w) :
    w'.prospect f = w.prospect f ++
      (w'.driver f.channel).events.drop (w.driver f.channel).events.length := by
  obtain ⟨t, ht⟩ := (g.driver _ h.channel).prefix_events
  rw [World.prospect, World.prospect, ← ht, List.drop_append_of_le_length h.cursor, List.drop_left,
    List.append_assoc]

/-- Whatever the driver does, what a subscription has and will have still ends in the live state. -/
theorem Grows.leads {f : Subscription} (g : w.Grows w') (h : f.Placed w) {initial : DriverState}
    (leads : (w.prospect f).getLast?.getD initial = (w.driver f.channel).live) :
    (w'.prospect f).getLast?.getD initial = (w'.driver f.channel).live := by
  rw [g.prospect h, (g.driver _ h.channel).events, List.drop_left]
  split
  · rename_i hlive
    rw [List.append_nil, leads, hlive]
  · rw [List.getLast?_append]
    rfl

/-- A session stays tied if its own subscriptions are left alone. -/
theorem Sound.tied_of_grows {s : Session} (hw : w.Sound) (g : w.Grows w') (h : s.Tied w i)
    (hsource : w'.subscriptions[s.cache.source]? = w.subscriptions[s.cache.source]?)
    (hfollowing : ∀ k, s.following = some k → w'.subscriptions[k]? = w.subscriptions[k]?) :
    s.Tied w' i := by
  obtain ⟨f, hf, htarget, hch, hcancelled, hleads⟩ := h.source
  refine ⟨⟨f, hsource ▸ hf, htarget, hch, hcancelled, ?_⟩, fun k hk => ?_⟩
  · rw [← hch] at hleads ⊢
    exact g.leads (hw.placed f (List.mem_of_getElem? hf)) hleads
  · rw [hfollowing k hk]
    exact h.following k hk

namespace Sound

variable (hw : w.Sound)
include hw

theorem channel_lt {s : Session} (hs : w.session? i = some s) : s.channel < w.channels.length := by
  obtain ⟨f, hf, -, hch, -⟩ := (hw.tied i s hs).source
  exact hch ▸ (hw.placed f (List.mem_of_getElem? hf)).channel

theorem grounded : w.Grounded := ⟨hw.loopback, fun _ _ hs => hw.channel_lt hs⟩

/-! ### Steps that leave sessions alone -/

/-- Nothing about sessions rests on subscriptions whose handle was given out. -/
theorem of_frame (hl : ∀ c ∈ w'.channels, ∃ d, c = .loopback d)
    (hregular : ∀ i < w'.channels.length, (w'.driver i).Regular) (g : w.Grows w')
    (c : w.Carries w') (hsessions : w'.sessions = w.sessions)
    (hsubs : ∀ (k : Nat) (f : Subscription), f.target ≠ .record →
      (w'.subscriptions[k]? = some f ↔ w.subscriptions[k]? = some f)) : w'.Sound := by
  have hsession : ∀ i, w'.session? i = w.session? i := fun i => by rw [session?, hsessions, session?]
  refine ⟨hl, hregular, c.placed g hw.placed, fun i s hs => ?_, fun k f j hf ht hc => ?_⟩
  · rw [hsession] at hs
    have h := hw.tied i s hs
    refine hw.tied_of_grows g h ?_ fun k hk => ?_
    · obtain ⟨f, hf, ht, -⟩ := h.source
      rw [(hsubs _ f (by simp [ht])).2 hf, hf]
    · obtain ⟨f, hf, ht, -⟩ := h.following k hk
      rw [(hsubs _ f (by simp [ht])).2 hf, hf]
  · rw [hsession]
    exact hw.owned k f j ((hsubs k f (by simp [ht])).1 hf) ht hc

theorem drive {d : Loopback} (files : Files.Tree) (bound : i < w.channels.length)
    (held : w.held i = true) (advances : (w.driver i).Advances d) :
    ({ w.setDriver i d with files } : World).Sound := by
  have g := grows_setDriver bound held advances
  refine hw.of_frame ?_ ?_ ⟨g.channels, g.driver, g.held, g.rest⟩ (.of_cancels (.of_eq rfl)) rfl
    fun _ _ _ => Iff.rfl
  · intro c hc
    rcases List.mem_or_eq_of_mem_set hc with hc | rfl
    · exact hw.loopback c hc
    · exact ⟨d, rfl⟩
  · intro j hj
    have hj' : j < w.channels.length := by simpa [setDriver] using hj
    exact (g.driver j hj').regular (hw.regular j hj')

theorem enter {d : Loopback} (hd : d.Regular) : (w.enter d).Sound := by
  refine hw.of_frame ?_ ?_ (grows_enter w d) (.of_cancels (.of_eq rfl)) rfl fun _ _ _ => Iff.rfl
  · intro c hc
    rcases List.mem_append.1 hc with hc | hc
    · exact hw.loopback c hc
    · exact ⟨d, List.mem_singleton.1 hc⟩
  · intro j hj
    rcases Nat.lt_or_ge j w.channels.length with h | h
    · rw [driver_enter_of_lt h]
      exact hw.regular j h
    · have hj' : j = w.channels.length := by
        simp only [World.enter, List.length_append, List.length_singleton] at hj
        omega
      rw [hj', driver_enter_self]
      exact hd

/-- The invariant after a step that leaves channels alone. -/
theorem of_channels (hc : w'.channels = w.channels) (g : w.Grows w') (c : w.Carries w')
    (tied : ∀ i s, w'.session? i = some s → s.Tied w' i)
    (owned : ∀ k f j, w'.subscriptions[k]? = some f → f.target = .registry j →
      f.cancelled = false → ∃ s, w'.session? j = some s ∧ s.following = some k) : w'.Sound := by
  refine ⟨hc ▸ hw.loopback, ?_, c.placed g hw.placed, tied, owned⟩
  rw [driver_congr hc, hc]
  exact hw.regular

theorem attach (bound : i < w.channels.length) : (w.attach i .record).Sound := by
  have e : w.Effect (.subscribe none true : Step Unit) .done (w.attach i .record) := .attach bound
  refine hw.of_frame hw.loopback hw.regular e.grows (e.carries ?_ fun _ _ => hw.channel_lt) rfl ?_
  · exact List.ne_nil_of_length_pos (by omega)
  · intro k f ht
    rw [subscription_attach]
    refine ⟨?_, Or.inl⟩
    rintro (hf | ⟨-, rfl⟩)
    · exact hf
    · exact absurd rfl ht

theorem release (k : Nat) : (w.release k).Sound := by
  have hch := channels_release w k
  have e : w.Effect (.cancel k : Step Unit) .done (w.release k) := .release k
  refine hw.of_frame (hch ▸ hw.loopback) ?_ e.grows (.of_cancels (cancels_release w k))
    (sessions_release w k) ?_
  · rw [driver_congr hch, hch]
    exact hw.regular
  · intro l f ht
    unfold World.release
    split
    · rename_i hrecord
      -- the subscription that is cancelled is one whose handle was given out
      have hother : ∀ f₀, w.subscriptions[l]? = some f₀ → f₀.target ≠ .record → l ≠ k := by
        rintro f₀ hf₀ ht₀ rfl
        rw [hf₀, Option.any_some, decide_eq_true_eq] at hrecord
        exact ht₀ hrecord
      rw [subscription_cancel]
      constructor
      · rintro (⟨-, hf⟩ | ⟨hl, f₀, hf₀, rfl⟩)
        · exact hf
        · exact absurd hl (hother f₀ hf₀ ht)
      · intro hf
        exact Or.inl ⟨hother f hf ht, hf⟩
    · exact Iff.rfl

end Sound
end World
end VirtualDisplay
