import VirtualDisplay.Proofs.World.SessionSteps
import VirtualDisplay.Proofs.World.Tasks

/-! The invariant through a settle, and so through every step and every run. -/

namespace VirtualDisplay

variable {α : Type}

namespace World

variable {w w' : World} {x : Step α} {o : Outcome α} {i j k : Nat}

/-- What a settle has for the registry of a session. -/
def due (w : World) (i : Nat) : List DriverState :=
  (w.subscriptions.filter (·.target = .registry i)).flatMap w.pending

theorem subscriptions_settle (w : World) : w.settle.subscriptions = w.subscriptions.map w.settled :=
  rfl

theorem session?_settle (w : World) (i : Nat) :
    w.settle.session? i = (w.session? i).map fun s => s.takeOver (w.due i) := by
  have hd : ∀ (s : Session) (l : List DriverState), (s.takeOver l).dropped = s.dropped := by
    intro s l
    unfold Session.takeOver
    split <;> rfl
  simp only [session?, settle, updated, List.getElem?_mapIdx]
  cases w.sessions[i]? with
  | none => rfl
  | some s =>
    simp only [Option.map_some, Option.filter_some, hd, due]
    split <;> rfl

theorem takeOver_frame (s : Session) (l : List DriverState) :
    s.takeOver l = { s with registry := (s.takeOver l).registry } := by
  unfold Session.takeOver
  split <;> rfl

/-- A settle only ends a subscription that was cancelled. -/
theorem Grounded.settled_of_cancelled (hw : w.Grounded) {f : Subscription} (hc : f.cancelled = true) :
    w.settled f = { f with ended := true } := by
  simp only [settled, hw.channel_eq]
  split
  · next he => rw [← he]
  · exact Subscription.run_of_cancelled hc

/-- Settling hands over what there is, and no driver notices. -/
theorem grows_settle (w : World) : w.Grows w.settle := by
  refine .of_channels rfl ?_
  intro j s' hs
  right
  rw [session?_settle] at hs
  cases h : w.session? j with
  | none =>
    rw [h] at hs
    cases hs
  | some s =>
    rw [h, Option.map_some, Option.some.injEq, takeOver_frame] at hs
    subst hs
    exact ⟨j, s, h, rfl⟩

/-- At the end of the events nothing is in prospect but what has been handed over. -/
theorem prospect_of_cursor {f : Subscription} (h : f.cursor = (w.driver f.channel).events.length) :
    w.prospect f = f.handed := by
  rw [prospect, h, List.drop_length, List.append_nil]

namespace Sound

variable (hw : w.Sound)
include hw

/-- One that was not cancelled gets the newest of what is there. If its task is over, nothing is. -/
theorem settled_of_live {f : Subscription} (hf : f ∈ w.subscriptions) (hc : f.cancelled = false) :
    w.settled f = { f with
      cursor := (w.driver f.channel).events.length
      handed := f.handed ++
        newest (w.driver f.channel).capacity ((w.driver f.channel).events.drop f.cursor)
      ended := f.ended || !w.held f.channel } := by
  have h := hw.placed f hf
  simp only [settled, hw.grounded.channel_eq]
  split
  · next he =>
    obtain ⟨-, hcursor⟩ := h.ended he hc
    have hover : (f.ended || !w.held f.channel) = f.ended := by rw [he, Bool.true_or]
    rw [← hcursor, Loopback.newest_of_length_le_cursor (Nat.le_of_eq hcursor.symm), List.append_nil,
      hover]
  · rw [Subscription.run_of_live hc, Nat.max_eq_right h.cursor]

theorem pending_eq {f : Subscription} (hf : f ∈ w.subscriptions) :
    w.pending f = if f.cancelled then [] else
      newest (w.driver f.channel).capacity ((w.driver f.channel).events.drop f.cursor) := by
  cases hc : f.cancelled with
  | true => exact w.pending_of_cancelled hc
  | false =>
    rw [pending, hw.settled_of_live hf hc]
    exact List.drop_left

theorem subscription_settle {f : Subscription} (hf : w.subscriptions[k]? = some f) :
    ∃ f', w.settle.subscriptions[k]? = some f' ∧ f'.channel = f.channel ∧ f'.target = f.target ∧
      f'.cancelled = f.cancelled ∧
      (f.cancelled = false → f'.cursor = (w.driver f.channel).events.length) ∧
      f'.handed = f.handed ++ if f.cancelled then [] else
        newest (w.driver f.channel).capacity ((w.driver f.channel).events.drop f.cursor) := by
  have hmem := List.mem_of_getElem? hf
  refine ⟨w.settled f, ?_, ?_⟩
  · rw [subscriptions_settle, List.getElem?_map, hf, Option.map_some]
  · rw [← hw.pending_eq hmem, settled_frame]
    refine ⟨rfl, rfl, rfl, fun hc => ?_, rfl⟩
    rw [hw.settled_of_live hmem hc]

/-- After a settle nothing is in prospect but what has been handed over. -/
theorem prospect_settle {f : Subscription} (hf : w.subscriptions[k]? = some f)
    (hc : f.cancelled = false) :
    ∃ g, w.settle.subscriptions[k]? = some g ∧
      w.settle.prospect g = g.handed ∧ g.handed = f.handed ++
        newest (w.driver f.channel).capacity ((w.driver f.channel).events.drop f.cursor) := by
  obtain ⟨g, hg, hchannel, -, -, hcursor, hhanded⟩ := hw.subscription_settle hf
  rw [hc] at hhanded
  exact ⟨g, hg, prospect_of_cursor (hchannel ▸ hcursor hc), hhanded⟩

theorem prospect_settle_sublist {f : Subscription} (hf : w.subscriptions[k]? = some f) :
    ∃ g, w.settle.subscriptions[k]? = some g ∧ (w.settle.prospect g).Sublist (w.prospect f) := by
  cases hc : f.cancelled with
  | true =>
    refine ⟨w.settled f, ?_, ?_⟩
    · rw [subscriptions_settle, List.getElem?_map, hf, Option.map_some]
    · rw [hw.grounded.settled_of_cancelled hc]
      exact List.Sublist.refl _
  | false =>
    obtain ⟨g, hg, hprospect, hhanded⟩ := hw.prospect_settle hf hc
    refine ⟨g, hg, ?_⟩
    rw [hprospect, hhanded]
    exact List.Sublist.append_left (List.drop_sublist _ _) _

theorem placed_settle : ∀ f ∈ w.settle.subscriptions, f.Placed w.settle := by
  intro f' hf'
  rw [subscriptions_settle] at hf'
  obtain ⟨f, hf, rfl⟩ := List.mem_map.1 hf'
  have h := hw.placed f hf
  cases hc : f.cancelled with
  | true =>
    rw [hw.grounded.settled_of_cancelled hc]
    refine ⟨h.channel, h.cancellable, h.cursor, fun _ hlive => ?_⟩
    cases hc.symm.trans hlive
  | false =>
    rw [hw.settled_of_live hf hc]
    refine ⟨h.channel, h.cancellable, Nat.le_refl _, fun he _ => ⟨?_, rfl⟩⟩
    apply (grows_settle w).unheld h.channel
    cases hended : f.ended with
    | true => exact (h.ended hended hc).1
    | false => simpa [hended] using he

/-- What was pending is cut to its newest part, which ends as it did. -/
theorem tied_settle {s : Session} (hs : w.session? i = some s) : s.Tied w.settle i := by
  have h := hw.tied i s hs
  constructor
  · obtain ⟨f, hf, ht, hch, hc, hleads⟩ := h.source
    obtain ⟨g, hg, hgch, hgt, hgc, hcursor, hhanded⟩ := hw.subscription_settle hf
    have hcap := (hw.regular _ (hw.channel_lt hs)).capacity
    rw [hc, hch] at hhanded
    rw [prospect, hch] at hleads
    refine ⟨g, hg, hgt.trans ht, hgch.trans hch, hgc.trans hc, ?_⟩
    rw [prospect_of_cursor (hgch ▸ hcursor hc), hhanded, if_neg Bool.false_ne_true,
      List.getLast?_append, getLast?_newest hcap, ← List.getLast?_append]
    exact hleads
  · intro k hk
    obtain ⟨f, hf, ht, hch, hc⟩ := h.following k hk
    obtain ⟨g, hg, hgch, hgt, hgc, -⟩ := hw.subscription_settle hf
    exact ⟨g, hg, hgt.trans ht, hgch.trans hch, hgc.trans hc⟩

theorem settle : w.settle.Sound := by
  refine ⟨hw.loopback, hw.regular, hw.placed_settle, ?_, ?_⟩
  · intro i s' hs'
    rw [session?_settle] at hs'
    obtain ⟨s, hs, rfl⟩ := Option.map_eq_some_iff.1 hs'
    have h := hw.tied_settle hs
    rw [takeOver_frame]
    exact ⟨h.source, h.following⟩
  · intro k f' j hf' ht hc
    rw [subscriptions_settle, List.getElem?_map] at hf'
    obtain ⟨f, hf, rfl⟩ := Option.map_eq_some_iff.1 hf'
    rw [settled_frame] at ht hc
    obtain ⟨s, hs, hfollow⟩ := hw.owned k f j hf ht hc
    refine ⟨s.takeOver (w.due j), ?_, ?_⟩
    · rw [session?_settle, hs, Option.map_some]
    · rw [takeOver_frame]
      exact hfollow

end Sound

theorem Effect.sound (h : w.Effect x o w') (hw : w.Sound) (hc : w.channels ≠ []) : w'.Sound := by
  cases h with
  | aside files watchers =>
    exact hw.of_frame hw.loopback hw.regular (Effect.aside (x := x) (o := o) files watchers).grows
      (.of_cancels (.of_eq rfl)) rfl fun _ _ _ => Iff.rfl
  | drive files bound held advances failed => exact hw.drive files bound held advances
  | enter built => exact hw.enter (Loopback.regular_build (o := .config _) built)
  | attach bound => exact hw.attach bound
  | release k => exact hw.release k
  | welcome => exact hw.welcome (current_lt hc)
  | welcomeTied =>
    exact (hw.welcome (current_lt hc)).tie (session?_welcome.2 (Or.inr ⟨rfl, rfl⟩)) rfl
  | edit live registry => exact hw.edit live registry
  | tie live loose => exact hw.tie live loose
  | unfollow live => exact hw.unfollow live
  | duplicate live => exact hw.duplicate live
  | drop live => exact hw.drop live

theorem Sound.step (hw : w.Sound) (hc : w.channels ≠ []) (x : Step α) : (w.step x).2.Sound := by
  by_cases hx : x = .settle
  · subst hx
    exact hw.settle
  · exact (hw.grounded.step_effect hc x hx).sound hw hc

/-! ### Worlds that come about -/

/-- The worlds that come about: drivers are built, in any way, and steps are taken, in any order. -/
inductive Reached : World → Prop
  /-- No driver has been built yet. -/
  | start (files : Files.Tree) : Reached { files, channels := [] }
  | enter {w : World} (o : Origin) {d : Loopback} :
      Reached w → o.build w.files = .ok d → Reached (w.enter d)
  | step {w : World} {α : Type} (x : Step α) :
      Reached w → w.channels ≠ [] → Reached (w.step x).2

theorem Reached.sound (h : w.Reached) : w.Sound := by
  induction h with
  | start files =>
    refine ⟨?_, ?_, ?_, ?_, ?_⟩
    · intro c hc
      cases hc
    · intro i hi
      cases hi
    · intro f hf
      cases hf
    · intro i s hs
      cases hs
    · intro k f j hf
      cases hf
  | enter o _ hd ih => exact ih.enter (Loopback.regular_build hd)
  | step x _ hc ih => exact ih.step hc x

/-! ### Runs -/

/-- A sound world with a driver to take steps on. -/
structure Running (w : World) : Prop where
  sound : w.Sound
  driven : w.channels ≠ []

theorem Reached.running (h : w.Reached) (hi : i < w.channels.length) : w.Running :=
  ⟨h.sound, List.ne_nil_of_length_pos (Nat.lt_of_le_of_lt (Nat.zero_le i) hi)⟩

theorem run_cons (x : Step α) (steps : List (Step α)) (w : World) :
    w.run (x :: steps) = (w.step x).2.run steps := rfl

theorem run_append (steps more : List (Step α)) (w : World) :
    w.run (steps ++ more) = (w.run steps).run more :=
  List.foldl_append

namespace Running

variable (hw : w.Running)
include hw

theorem grows_step (x : Step α) : w.Grows (w.step x).2 := by
  by_cases hx : x = .settle
  · subst hx
    exact grows_settle w
  · exact (hw.sound.grounded.step_effect hw.driven x hx).grows

theorem step (x : Step α) : (w.step x).2.Running := by
  refine ⟨hw.sound.step hw.driven x, List.ne_nil_of_length_pos ?_⟩
  exact Nat.lt_of_lt_of_le (List.length_pos_iff.2 hw.driven) (hw.grows_step x).channels

theorem run (steps : List (Step α)) : (w.run steps).Running := by
  induction steps generalizing w with
  | nil => exact hw
  | cons x steps ih => exact ih (hw.step x)

theorem channels_run (steps : List (Step α)) :
    w.channels.length ≤ (w.run steps).channels.length := by
  induction steps generalizing w with
  | nil => exact Nat.le_refl _
  | cons x steps ih => exact Nat.le_trans (hw.grows_step x).channels (ih (hw.step x))

theorem getElem?_channels (hi : i < w.channels.length) :
    w.channels[i]? = some (.loopback (w.driver i)) :=
  hw.sound.grounded.getElem?_channels hi

end Running

theorem Reached.run (hw : w.Reached) (hc : w.channels ≠ []) (steps : List (Step α)) :
    (w.run steps).Reached := by
  induction steps generalizing w with
  | nil => exact hw
  | cons x steps ih =>
    have hnext : (w.step x).2.Running := Running.step ⟨hw.sound, hc⟩ x
    exact ih (.step x hw hc) hnext.driven

end World
end VirtualDisplay
