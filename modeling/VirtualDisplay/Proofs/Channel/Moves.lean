import VirtualDisplay.Proofs.Channel.Firsts
import VirtualDisplay.Proofs.Channel.Loopback

/-! What can be done to a loopback driver, and ids. However a driver is built, and whatever is done to
it, no state that it goes through holds an id twice. -/

namespace VirtualDisplay

open Files

section
variable {ε α β : Type} {r : Except ε α}

theorem isOk_eq_true : r.isOk = true ↔ ∃ a, r = .ok a := by
  cases r <;> simp [Except.isOk, Except.toBool]

theorem isOk_eq_false : r.isOk = false ↔ ∃ e, r = .error e := by
  cases r <;> simp [Except.isOk, Except.toBool]

theorem isOk_map (f : α → β) (r : Except ε α) : (r.map f).isOk = r.isOk := by
  cases r <;> rfl

end

namespace DriverState

/-- No two monitors share an id. -/
def Distinct (s : DriverState) : Prop := (s.map (·.id)).Nodup

instance (s : DriverState) : Decidable s.Distinct :=
  inferInstanceAs (Decidable (s.map (·.id)).Nodup)

theorem distinct_nil : Distinct [] := List.nodup_nil

theorem Distinct.sublist {s t : DriverState} (h : s.Distinct) (ht : t.Sublist s) : t.Distinct :=
  List.Nodup.sublist (ht.map _) h

theorem distinct_firstOfEachId (s : DriverState) : (firstOfEachId s).Distinct := by
  rw [firstOfEachId_eq]
  exact nodup_firsts _ s

example :
    let s : DriverState := [{ id := 1 }, { id := 2 }, { id := 1, enabled := false }]
    ¬ s.Distinct ∧ firstOfEachId s = [{ id := 1 }, { id := 2 }] := by decide

end DriverState

namespace Loopback

variable {d d' : Loopback}

/-- What can be done to a driver. -/
inductive Move
  | handle (c : ServerCommand)
  | commit
  | restart
  | connect (on : Bool)

def Move.perform : Move → Edit (Loopback × Tree) (Except ChannelError Unit)
  | handle c => fun (d, t) => let r := Loopback.handle c d; (r.1.map fun _ => (), r.2, t)
  | commit => Loopback.commit
  | restart => fun (d, t) => let r := Loopback.restart t d; (r.1, r.2, t)
  | connect on => fun (d, t) => (.ok (), { d with connected := on }, t)

theorem Move.advances (m : Move) (d : Loopback) (t : Tree) : d.Advances (m.perform (d, t)).2.1 := by
  cases m with
  | handle c => exact advances_handle c d
  | commit => exact advances_commit d t
  | restart => exact advances_restart t d
  | connect on => exact .same rfl rfl rfl

/-! ### Ids -/

/-- No state that the driver is in or has broadcast holds an id twice. -/
structure Distinct (d : Loopback) : Prop where
  live : d.live.Distinct
  events : ∀ state ∈ d.events, state.Distinct

theorem Advances.distinct (h : d.Advances d') (hd : d.Distinct) (hlive : d'.live.Distinct) :
    d'.Distinct := by
  refine ⟨hlive, fun state hstate => ?_⟩
  rw [h.events, List.mem_append] at hstate
  rcases hstate with hold | hnew
  · exact hd.events state hold
  · split at hnew
    · cases hnew
    · rw [List.mem_singleton.1 hnew]
      exact hlive

theorem distinct_next {live : DriverState} (h : live.Distinct) (c : ServerCommand) :
    (next c live).Distinct := by
  rcases c with (monitors | ids | _) | ⟨⟩
  · exact DriverState.distinct_firstOfEachId monitors
  · exact h.sublist List.filter_sublist
  · exact DriverState.distinct_nil
  · exact h

theorem restart_distinct (t : Tree) (h : d.live.Distinct) : (restart t d).2.live.Distinct := by
  unfold restart
  split
  · split
    · exact h
    · rw [become_live]
      exact DriverState.distinct_firstOfEachId _
  · exact h

theorem Move.distinct (m : Move) (t : Tree) (h : d.Distinct) : (m.perform (d, t)).2.1.Distinct := by
  apply (m.advances d t).distinct h
  cases m with
  | handle c =>
    change (Loopback.handle c d).2.live.Distinct
    rw [handle_live]
    split
    · exact distinct_next h.live c
    · exact h.live
  | commit => exact (commit_live d t).symm ▸ h.live
  | restart => exact restart_distinct t h.live
  | connect on => exact h.live

/-- A driver starts with a list in which the first monitor of each id is left. -/
theorem exists_live_build {o : Origin} {t : Tree} (h : o.build t = .ok d) :
    ∃ monitors, d.live = firstOfEachId monitors := by
  cases o with
  | new =>
    cases h
    exact ⟨[], rfl⟩
  | state monitors =>
    cases h
    exact ⟨monitors, rfl⟩
  | config c =>
    simp only [Origin.build, ofConfig] at h
    split at h
    · cases h
      exact ⟨[], rfl⟩
    · rename_i path _
      cases hl : StateFile.load ⟨path⟩ t with
      | error e => simp [hl, bind, Except.bind] at h
      | ok committed =>
        simp only [hl, bind, Except.bind, pure, Except.pure, Except.ok.injEq] at h
        exact ⟨committed, h ▸ rfl⟩

theorem distinct_build {o : Origin} {t : Tree} (h : o.build t = .ok d) : d.Distinct := by
  obtain ⟨monitors, hlive⟩ := exists_live_build h
  refine ⟨hlive ▸ DriverState.distinct_firstOfEachId monitors, fun state hstate => ?_⟩
  rw [(Origin.build_spec h).2] at hstate
  cases hstate

end Loopback
end VirtualDisplay
