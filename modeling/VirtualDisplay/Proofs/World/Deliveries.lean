import Mathlib.Data.List.Induction
import VirtualDisplay.Proofs.World.Subscriptions

/-! What subscriptions are handed over a run. Between two settles a subscription that is not cancelled
falls behind by what its driver broadcasts, and the settle hands it the newest part of that. -/

namespace VirtualDisplay

variable {α : Type}

namespace World

variable {w : World} {f : Subscription} {i k : Nat}

/-- A run after which nothing has happened since a settle, or at all. -/
def AtRest (steps : List (Step α)) : Prop := steps = [] ∨ ∃ earlier, steps = earlier ++ [.settle]

/-- Any run is one that ends at rest, and then goes on without a settle. -/
theorem exists_atRest (steps : List (Step α)) :
    ∃ a b, steps = a ++ b ∧ AtRest a ∧ .settle ∉ b := by
  induction steps using List.reverseRecOn with
  | nil => exact ⟨[], [], rfl, Or.inl rfl, List.not_mem_nil⟩
  | append_singleton steps x ih =>
    by_cases hx : x = .settle
    · subst hx
      exact ⟨_, [], (List.append_nil _).symm, Or.inr ⟨steps, rfl⟩, List.not_mem_nil⟩
    · obtain ⟨a, b, rfl, ha, hb⟩ := ih
      refine ⟨a, b ++ [x], List.append_assoc a b [x], ha, ?_⟩
      simp [hb, Ne.symm hx]

/-- From one rest to the next a driver broadcasts no more than it keeps. -/
def Paced (w : World) (i capacity : Nat) (steps : List (Step α)) : Prop :=
  ∀ a b c, steps = a ++ b ++ .settle :: c → AtRest a → .settle ∉ b →
    ((w.run (a ++ b)).driver i).events.length ≤ ((w.run a).driver i).events.length + capacity

theorem Paced.of_concat {capacity : Nat} {steps : List (Step α)} {x : Step α}
    (h : w.Paced i capacity (steps ++ [x])) : w.Paced i capacity steps := by
  intro a b c hsteps
  exact h a b (c ++ [x]) (by rw [hsteps, List.append_assoc, List.cons_append])

/-! ### From when a subscription comes up -/

section

variable (hw : w.Running) (hf : w.subscriptions[k]? = some f) (fresh : w.Fresh f)

include hw fresh in
/-- What a run and one more step have broadcast since the subscription came up. -/
theorem Running.events_concat (steps : List (Step α)) (x : Step α) :
    ((w.run (steps ++ [x])).driver f.channel).events.drop f.cursor =
      ((w.run steps).driver f.channel).events.drop f.cursor ++
        ((w.run (steps ++ [x])).driver f.channel).events.drop
          ((w.run steps).driver f.channel).events.length := by
  obtain ⟨t, ht⟩ := (hw.driver_run steps fresh.channel).2
  obtain ⟨u, hu⟩ := ((hw.run steps).driver_run [x]
    (Nat.lt_of_lt_of_le fresh.channel (hw.channels_run steps))).2
  rw [← run_append] at hu
  have hle : f.cursor ≤ ((w.run steps).driver f.channel).events.length := by
    rw [fresh.cursor, ← ht, List.length_append]
    omega
  rw [← hu, List.drop_append_of_le_length hle, List.drop_left]

include hw in
theorem Running.live_before {a b : List (Step α)} {g : Subscription}
    (hg : (w.run a).subscriptions[k]? = some g) (hc : (w.run (a ++ b)).cancelled k = false) :
    g.cancelled = false := by
  obtain ⟨h, hh, hlater⟩ := (hw.run a).later_run hg b
  rw [run_append, cancelled_eq hh] at hc
  cases hcancelled : g.cancelled with
  | false => rfl
  | true => exact absurd (hlater.cancelled hcancelled) (Bool.eq_false_iff.1 hc)

include hw hf fresh

/-- Where a subscription stands is where the events ended when the world was last at rest. -/
theorem Running.cursor_run {a b : List (Step α)} (ha : AtRest a) (hb : .settle ∉ b)
    (hc : (w.run (a ++ b)).cancelled k = false) :
    ∃ g, (w.run (a ++ b)).subscriptions[k]? = some g ∧ f.Later g ∧
      g.cursor = ((w.run a).driver f.channel).events.length := by
  have hrest : ∃ g, (w.run a).subscriptions[k]? = some g ∧
      g.cursor = ((w.run a).driver f.channel).events.length := by
    rcases ha with rfl | ⟨earlier, rfl⟩
    · exact ⟨f, hf, fresh.cursor⟩
    · obtain ⟨g, hg, hfg⟩ := hw.later_run hf earlier
      obtain ⟨g', hg', -, -, -, hcursor, -⟩ := (hw.run earlier).sound.subscription_settle hg
      rw [run_concat]
      rw [List.append_assoc] at hc
      exact ⟨g', hg', hfg.channel ▸ hcursor (hw.live_before hg hc)⟩
  obtain ⟨g, hg, hcursor⟩ := hrest
  obtain ⟨h, hh, hstays, -⟩ := (hw.run a).quiet_run hg hb
  obtain ⟨h', hh', hlater⟩ := hw.later_run hf (a ++ b)
  rw [run_append] at hh'
  cases hh.symm.trans hh'
  exact ⟨h, by rw [run_append, hh], hlater, hstays.trans hcursor⟩

/-- A settle hands over the newest of what was broadcast since the world was last at rest. -/
theorem Running.handed_settle {a b : List (Step α)} (ha : AtRest a) (hb : .settle ∉ b)
    (hc : (w.run (a ++ b)).cancelled k = false) :
    (w.run (a ++ b ++ [.settle])).handed k = (w.run (a ++ b)).handed k ++
      newest (w.driver f.channel).capacity
        (((w.run (a ++ b)).driver f.channel).events.drop
          ((w.run a).driver f.channel).events.length) := by
  obtain ⟨g, hg, hlater, hcursor⟩ := hw.cursor_run hf fresh ha hb hc
  rw [cancelled_eq hg] at hc
  obtain ⟨g', hg', -, hhanded⟩ := (hw.run (a ++ b)).sound.prospect_settle hg hc
  have hcapacity := (hw.driver_run (a ++ b) fresh.channel).1
  rw [run_concat, handed_eq hg]
  apply (handed_eq hg').trans
  rw [hhanded, hlater.channel, hcapacity, hcursor]

/-- What a subscription has had and has in prospect is part of what was broadcast since it came up. -/
theorem Running.prospect_sublist (steps : List (Step α)) :
    ∃ g, (w.run steps).subscriptions[k]? = some g ∧ ((w.run steps).prospect g).Sublist
      (((w.run steps).driver f.channel).events.drop f.cursor) := by
  induction steps using List.reverseRecOn with
  | nil =>
    refine ⟨f, hf, ?_⟩
    rw [prospect, fresh.handed]
    exact List.Sublist.refl _
  | append_singleton steps x ih =>
    obtain ⟨g, hg, hsub⟩ := ih
    obtain ⟨g', hg', hlater⟩ := hw.later_run hf steps
    cases hg.symm.trans hg'
    by_cases hx : x = .settle
    · subst hx
      obtain ⟨h, hh, hless⟩ := (hw.run steps).sound.prospect_settle_sublist hg
      rw [run_concat]
      exact ⟨h, hh, hless.trans hsub⟩
    · obtain ⟨h, hh, -, hprospect⟩ := (hw.run steps).prospect_step hg hx
      have hevents := hw.events_concat fresh steps x
      rw [run_concat] at hevents ⊢
      refine ⟨h, hh, ?_⟩
      rw [hprospect, hevents, hlater.channel]
      exact hsub.append_right _

/-- A run and a settle lose nothing if the run has lost nothing and the driver has kept all since. -/
theorem Running.prospect_settle_lossless {a b : List (Step α)} (ha : AtRest a) (hb : .settle ∉ b)
    {g : Subscription} (hg : (w.run (a ++ b)).subscriptions[k]? = some g) (hc : g.cancelled = false)
    (hall : (w.run (a ++ b)).prospect g =
      ((w.run (a ++ b)).driver f.channel).events.drop f.cursor)
    (hshort : ((w.run (a ++ b)).driver f.channel).events.length ≤
      ((w.run a).driver f.channel).events.length + (w.driver f.channel).capacity) :
    ∃ h, (w.run (a ++ b)).settle.subscriptions[k]? = some h ∧ (w.run (a ++ b)).settle.prospect h =
      ((w.run (a ++ b)).driver f.channel).events.drop f.cursor := by
  obtain ⟨g', hg', hlater, hcursor⟩ := hw.cursor_run hf fresh ha hb ((cancelled_eq hg).trans hc)
  cases hg.symm.trans hg'
  obtain ⟨h, hh, hprospect, hhanded⟩ := (hw.run (a ++ b)).sound.prospect_settle hg hc
  have hcapacity := (hw.driver_run (a ++ b) fresh.channel).1
  have hkept : (((w.run (a ++ b)).driver f.channel).events.drop g.cursor).length ≤
      (w.driver f.channel).capacity := by
    rw [List.length_drop, hcursor]
    omega
  refine ⟨h, hh, ?_⟩
  rw [hprospect, hhanded, hlater.channel, hcapacity, newest_of_length_le hkept]
  rw [prospect, hlater.channel] at hall
  exact hall

/-- If no stretch without a settle is too long for the driver to keep, nothing is lost. -/
theorem Running.prospect_lossless (steps : List (Step α))
    (paced : w.Paced f.channel (w.driver f.channel).capacity steps)
    (hc : (w.run steps).cancelled k = false) :
    ∃ g, (w.run steps).subscriptions[k]? = some g ∧ (w.run steps).prospect g =
      ((w.run steps).driver f.channel).events.drop f.cursor := by
  induction steps using List.reverseRecOn with
  | nil =>
    refine ⟨f, hf, ?_⟩
    rw [prospect, fresh.handed]
    rfl
  | append_singleton steps x ih =>
    obtain ⟨g, hg, hlater⟩ := hw.later_run hf steps
    have hbefore := hw.live_before hg hc
    obtain ⟨g', hg', hall⟩ := ih paced.of_concat ((cancelled_eq hg).trans hbefore)
    cases hg.symm.trans hg'
    by_cases hx : x = .settle
    · subst hx
      obtain ⟨a, b, rfl, ha, hb⟩ := exists_atRest steps
      rw [run_concat]
      exact hw.prospect_settle_lossless hf fresh ha hb hg hbefore hall (paced a b [] rfl ha hb)
    · obtain ⟨h, hh, -, hprospect⟩ := (hw.run steps).prospect_step hg hx
      have hevents := hw.events_concat fresh steps x
      rw [run_concat] at hevents ⊢
      refine ⟨h, hh, ?_⟩
      rw [hprospect, hevents, hlater.channel, hall]

end

/-- What is handed to a subscription over the runs of a world in which it has just come up, by a driver
that keeps so many events. -/
structure Delivers (α : Type) (w : World) (i k capacity : Nat) : Prop where
  /-- A subscription is over when its handle has been cancelled or dropped, and not before. -/
  released : ∀ (steps : List (Step α)) (x : Step α), (w.run (steps ++ [x])).cancelled k = true ↔
    (w.run steps).cancelled k = true ∨ (w.run steps).Releases k x
  /-- Then it is handed nothing more, whatever is pending. -/
  ended : ∀ steps later : List (Step α), (w.run steps).cancelled k = true →
    (w.run (steps ++ later)).handed k = (w.run steps).handed k
  /-- Until the world settles it is handed nothing. -/
  quiet : ∀ (steps : List (Step α)) (x : Step α), x ≠ .settle →
    (w.run (steps ++ [x])).handed k = (w.run steps).handed k
  /-- A settle hands over the newest of what was broadcast since the one before, or since the
  subscription came up. -/
  settled : ∀ a b : List (Step α), AtRest a → .settle ∉ b → (w.run (a ++ b)).cancelled k = false →
    (w.run (a ++ b ++ [.settle])).handed k = (w.run (a ++ b)).handed k ++
      newest capacity (((w.run (a ++ b)).driver i).events.drop ((w.run a).driver i).events.length)
  /-- All in all it is handed some of what was broadcast since it came up, in that order. -/
  ordered : ∀ steps : List (Step α), ((w.run steps).handed k).Sublist
    (((w.run steps).driver i).events.drop (w.driver i).events.length)
  /-- If the driver never broadcasts more than it keeps from one settle to the next, that is all of
  it, up to the last settle before the subscription is over. -/
  lossless : ∀ steps : List (Step α), AtRest steps → w.Paced i capacity steps →
    (w.run steps).cancelled k = false →
    (w.run steps).handed k = ((w.run steps).driver i).events.drop (w.driver i).events.length

/-- A step after which there is a new subscription finds it at the end of the events. -/
theorem Running.fresh_step {x : Step α} (hw : w.Running) (hn : w.subscriptions[k]? = none)
    (hf : (w.step x).2.subscriptions[k]? = some f) : (w.step x).2.Fresh f := by
  by_cases hx : x = .settle
  · subst hx
    have hsettle : w.settle.subscriptions[k]? = none := by
      rw [subscriptions_settle, List.getElem?_map, hn, Option.map_none]
    cases hsettle.symm.trans hf
  · exact ((hw.sound.grounded.step_effect hw.driven x hx).carries hw.driven
      fun _ _ => hw.sound.channel_lt).new k f hn hf

theorem Running.delivers (hw : w.Running) (hf : w.subscriptions[k]? = some f) (fresh : w.Fresh f) :
    w.Delivers α f.channel k (w.driver f.channel).capacity := by
  refine ⟨?_, ?_, ?_, ?_, ?_, ?_⟩
  · intro steps x
    obtain ⟨g, hg, -⟩ := hw.later_run hf steps
    rw [run_concat]
    exact (hw.run steps).cancelled_step hg x
  · intro steps later hc
    obtain ⟨g, hg, -⟩ := hw.later_run hf steps
    obtain ⟨h, hh, hlater⟩ := (hw.run steps).later_run hg later
    rw [cancelled_eq hg] at hc
    rw [run_append, handed_eq hh, handed_eq hg, hlater.handed hc]
  · intro steps x hx
    obtain ⟨g, hg, -⟩ := hw.later_run hf steps
    have hquiet : Step.settle ∉ [x] := by simpa using Ne.symm hx
    obtain ⟨h, hh, -, hhanded⟩ := (hw.run steps).quiet_run hg hquiet
    rw [run_append, handed_eq hh, handed_eq hg, hhanded]
  · intro a b ha hb hc
    exact hw.handed_settle hf fresh ha hb hc
  · intro steps
    obtain ⟨g, hg, hsub⟩ := hw.prospect_sublist hf fresh steps
    rw [handed_eq hg, ← fresh.cursor]
    exact (List.sublist_append_left _ _).trans hsub
  · intro steps hrest paced hc
    obtain ⟨g, hg, hall⟩ := hw.prospect_lossless hf fresh steps paced hc
    obtain ⟨g', hg', hlater, hcursor⟩ := hw.cursor_run hf fresh hrest List.not_mem_nil
      ((List.append_nil steps).symm ▸ hc)
    rw [List.append_nil] at hg'
    cases hg.symm.trans hg'
    rw [prospect_of_cursor (hlater.channel ▸ hcursor)] at hall
    rw [handed_eq hg, hall, fresh.cursor]

/-- On every driver, however it was built, and in every run, a subscription that comes up is handed what
it should be, where the driver keeps the least power of two that holds the capacity asked for. -/
theorem delivers_from_subscription {w₀ : World} (hw : w₀.Reached) {o : Origin} {d : Loopback}
    (ho : o.build w₀.files = .ok d) (before : List (Step α)) (x : Step α)
    (hnew : ((w₀.enter d).run before).subscriptions[k]? = none)
    (hf : ((w₀.enter d).run (before ++ [x])).subscriptions[k]? = some f)
    (hchannel : f.channel = w₀.channels.length) :
    ∃ capacity : Nat, capacity.isPowerOfTwo ∧ max o.eventCapacity 1 ≤ capacity ∧
      (∀ p : Nat, p.isPowerOfTwo → max o.eventCapacity 1 ≤ p → capacity ≤ p) ∧
      ((w₀.enter d).run (before ++ [x])).Delivers α f.channel k capacity := by
  have hi : w₀.channels.length < (w₀.enter d).channels.length := by simp [enter]
  have hrunning : (w₀.enter d).Running := (hw.enter o ho).running hi
  have hcapacity : (((w₀.enter d).run (before ++ [x])).driver f.channel).capacity =
      Loopback.capacityFor o.eventCapacity := by
    rw [hchannel, (hrunning.driver_run (before ++ [x]) hi).1, driver_enter_self,
      (Origin.build_spec ho).1]
  have fresh : ((w₀.enter d).run (before ++ [x])).Fresh f := by
    rw [run_concat] at hf ⊢
    exact (hrunning.run before).fresh_step hnew hf
  refine ⟨_, Loopback.isPowerOfTwo_capacityFor _, Loopback.le_capacityFor _,
    fun p => Loopback.capacityFor_le, ?_⟩
  rw [← hcapacity]
  exact (hrunning.run (before ++ [x])).delivers hf fresh

/-- A driver that was asked to keep three events has a subscriber. -/
theorem delivers_from_subscription_of_three :
    let w := ({ channels := [] } : World).enter { capacity := 4 }
    let subscribe : Step Unit := .subscribe none true
    (Origin.config { eventCapacity := 3 }).build {} = .ok { capacity := 4 } ∧
    (w.run [subscribe]).subscriptions[0]? = some { channel := 0, target := .record, cursor := 0 } ∧
    ∃ capacity : Nat, capacity.isPowerOfTwo ∧ max 3 1 ≤ capacity ∧
      (∀ p : Nat, p.isPowerOfTwo → max 3 1 ≤ p → capacity ≤ p) ∧
      (w.run [subscribe]).Delivers Unit 0 0 capacity := by
  intro w subscribe
  have built : (Origin.config { eventCapacity := 3 }).build {} = .ok { capacity := 4 } := rfl
  have hf : (w.run [subscribe]).subscriptions[0]? =
      some { channel := 0, target := .record, cursor := 0 } := rfl
  exact ⟨built, hf, delivers_from_subscription (.start {}) built [] subscribe rfl hf rfl⟩

end World
end VirtualDisplay
