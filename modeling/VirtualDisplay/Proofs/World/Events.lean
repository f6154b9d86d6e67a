import Mathlib.Data.List.Chain
import VirtualDisplay.Proofs.World.Runs

/-! Events and live states. Over a run, the events of a driver are the live states it has gone through,
each unlike the one before. -/

namespace VirtualDisplay

variable {α : Type}

namespace World

variable {w w' : World} {x : Step α} {o : Outcome α} {i : Nat}

/-- A step that has failed has left every live state alone. -/
theorem Effect.live_of_failed (h : w.Effect x o w') (hi : i < w.channels.length)
    (ho : o.succeeded = false) : (w'.driver i).live = (w.driver i).live := by
  cases h with
  | drive files bound held advances failed =>
    change ((w.setDriver _ _).driver i).live = _
    rw [driver_setDriver bound]
    split
    · rename_i hij
      subst hij
      exact failed ho
    · rfl
  | enter built => rw [driver_enter_of_lt hi]
  | release k => rw [driver_congr (channels_release w k)]
  | unfollow live => rw [driver_congr (channels_unfollow w _ _)]
  | drop live => rw [driver_congr (channels_dropSession w _ _)]
  | aside | attach | welcome | welcomeTied | edit | tie | duplicate => rfl

namespace Running

variable (hw : w.Running)
include hw

/-- A step emits an event if it has succeeded and changed the live state, and else it emits none. -/
theorem events_step (x : Step α) (hi : i < w.channels.length) :
    ((w.step x).2.driver i).events = (w.driver i).events ++
      if (w.step x).1.succeeded = true ∧ ((w.step x).2.driver i).live ≠ (w.driver i).live
      then [((w.step x).2.driver i).live] else [] := by
  rw [((hw.grows_step x).driver i hi).events]
  have hfailed : (w.step x).1.succeeded = false →
      ((w.step x).2.driver i).live = (w.driver i).live := by
    by_cases hx : x = .settle
    · subst hx
      intro ho
      cases ho
    · exact (hw.sound.grounded.step_effect hw.driven x hx).live_of_failed hi
  by_cases hlive : ((w.step x).2.driver i).live = (w.driver i).live
  · simp [hlive]
  · cases ho : (w.step x).1.succeeded with
    | false => exact absurd (hfailed ho) hlive
    | true => simp [hlive]

/-- The events of a run link the live state before it to the one after it. -/
theorem events_run (steps : List (Step α)) (hi : i < w.channels.length) :
    ∃ es, ((w.run steps).driver i).events = (w.driver i).events ++ es ∧
      ((w.driver i).live :: es).IsChain (· ≠ ·) ∧
      ((w.run steps).driver i).live = es.getLast?.getD (w.driver i).live := by
  induction steps generalizing w with
  | nil => exact ⟨[], (List.append_nil _).symm, List.isChain_singleton _, rfl⟩
  | cons x steps ih =>
    have g := hw.grows_step x
    obtain ⟨es, hevents, hchain, hlive⟩ := ih (hw.step x) (Nat.lt_of_lt_of_le hi g.channels)
    rw [(g.driver i hi).events] at hevents
    by_cases hsame : ((w.step x).2.driver i).live = (w.driver i).live
    · rw [if_pos hsame, List.append_nil] at hevents
      rw [hsame] at hchain hlive
      exact ⟨es, hevents, hchain, hlive⟩
    · rw [if_neg hsame, List.append_assoc] at hevents
      refine ⟨((w.step x).2.driver i).live :: es, hevents, ?_, ?_⟩
      · exact List.isChain_cons_cons.2 ⟨Ne.symm hsame, hchain⟩
      · rw [run_cons, hlive, List.getLast?_cons]
        rfl

theorem step_handle (c : ServerCommand) :
    (w.step (.handle (α := α) c)).2 =
      w.setDriver w.current (Loopback.handle c (w.driver w.current)).2 := by
  simp only [World.step, hw.sound.grounded.onLoopback_eq]

/-- A command to the current driver takes effect if the driver is connected, and else fails. -/
theorem handle_effect (c : ServerCommand) :
    (w.step (.handle (α := α) c)).1.succeeded = (w.driver w.current).connected ∧
      ((w.step (.handle (α := α) c)).2.driver w.current).live =
        if (w.driver w.current).connected then Loopback.next c (w.driver w.current).live
        else (w.driver w.current).live := by
  constructor
  · rw [← Loopback.handle_isOk c (w.driver w.current)]
    simp only [World.step, hw.sound.grounded.onLoopback_eq]
    cases (Loopback.handle c (w.driver w.current)).1 <;> rfl
  · rw [hw.step_handle, driver_setDriver (current_lt hw.driven), if_pos rfl]
    exact Loopback.handle_live c _

/-- A command that is given twice in a row changes nothing the second time. -/
theorem step_handle_again (c : ServerCommand) :
    ((w.step (.handle (α := α) c)).2.step (.handle (α := α) c)).2 =
      (w.step (.handle (α := α) c)).2 := by
  have hw' := hw.step (.handle (α := α) c)
  have hcurrent : (w.step (.handle (α := α) c)).2.current = w.current := by
    simp [hw.step_handle, setDriver, current]
  have hdriver : (w.step (.handle (α := α) c)).2.driver w.current =
      (Loopback.handle c (w.driver w.current)).2 := by
    rw [hw.step_handle, driver_setDriver (current_lt hw.driven), if_pos rfl]
  rw [hw'.step_handle, hcurrent, hdriver, Loopback.handle_handle, ← hdriver]
  exact hw'.sound.grounded.setDriver_self _

end Running

/-- The events of a driver describe exactly the changes of its live state: over a run, step by step,
and for a command that is given once or twice. -/
theorem events_describe_changes (hw : w.Reached) {d : Loopback}
    (hd : w.channels[i]? = some (.loopback d)) (steps : List (Step α)) :
    ∃ d' es, (w.run steps).channels[i]? = some (.loopback d') ∧
      d'.events = d.events ++ es ∧ (d.live :: es).IsChain (· ≠ ·) ∧
      d'.live = es.getLast?.getD d.live ∧
      (∀ x : Step α, ∃ d'', ((w.run steps).step x).2.channels[i]? = some (.loopback d'') ∧
        d''.events = d'.events ++
          if ((w.run steps).step x).1.succeeded = true ∧ d''.live ≠ d'.live then [d''.live]
          else []) ∧
      (∀ c : ServerCommand, (w.run steps).current = i →
        ((w.run steps).step (.handle (α := α) c)).1.succeeded = d'.connected ∧
        ∃ d'', (w.run (steps ++ [.handle c])).channels[i]? = some (.loopback d'') ∧
          d''.live = if d'.connected then Loopback.next c d'.live else d'.live) ∧
      ∀ c : ServerCommand,
        w.run (steps ++ [.handle c, .handle c]) = w.run (steps ++ [.handle c]) := by
  have hi : i < w.channels.length := (List.getElem?_eq_some_iff.1 hd).1
  have hrun := (hw.running hi).run steps
  obtain ⟨es, hevents, hchain, hlive⟩ := (hw.running hi).events_run steps hi
  have hi' : i < (w.run steps).channels.length :=
    Nat.lt_of_lt_of_le hi ((hw.running hi).channels_run steps)
  have hafter : ∀ x : Step α, ((w.run steps).step x).2.channels[i]? =
      some (.loopback (((w.run steps).step x).2.driver i)) := fun x =>
    (hrun.step x).getElem?_channels (Nat.lt_of_lt_of_le hi' (hrun.grows_step x).channels)
  rw [driver_eq hd] at hevents hchain hlive
  refine ⟨_, es, hrun.getElem?_channels hi', hevents, hchain, hlive, ?_, ?_, ?_⟩
  · intro x
    exact ⟨_, hafter x, hrun.events_step x hi'⟩
  · rintro c rfl
    obtain ⟨hsucceeded, hnext⟩ := hrun.handle_effect (α := α) c
    rw [run_append]
    exact ⟨hsucceeded, _, hafter (.handle c), hnext⟩
  · intro c
    rw [run_append, run_append]
    exact hrun.step_handle_again c

/-- A new driver is given a state, given it again, and cut off before another one. -/
theorem events_describe_changes_new :
    let w := ({ channels := [] } : World).enter {}
    let steps : List (Step Unit) := [.push [{ id := 1 }], .push [{ id := 1 }], .disconnect, .push []]
    (w.run steps).channels[0]? = some (.loopback
      { live := [{ id := 1 }], connected := false, events := [[{ id := 1 }]] }) ∧
    ∃ es, [[{ id := 1 }]] = ([] : List DriverState) ++ es ∧ ([] :: es).IsChain (· ≠ ·) ∧
      [{ id := 1 }] = es.getLast?.getD [] := by
  intro w steps
  have hrun : (w.run steps).channels[0]? = some (.loopback
      { live := [{ id := 1 }], connected := false, events := [[{ id := 1 }]] }) := rfl
  obtain ⟨d', es, hd', hevents, hchain, hlive, -⟩ :=
    events_describe_changes (.enter .new (.start {}) rfl) (rfl : w.channels[0]? = _) steps
  rw [hrun] at hd'
  cases hd'
  exact ⟨hrun, es, hevents, hchain, hlive⟩

end World
end VirtualDisplay
