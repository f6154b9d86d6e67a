import VirtualDisplay.Mode.Text
import VirtualDisplay.Record.Basic
import VirtualDisplay.Proofs.RateSet.Changes

/-! The rates of a mode. However a mode comes about and whatever is done to it afterwards, it holds no
rate twice, and neither does any mode of a registry. -/

namespace VirtualDisplay

open Text RateSet

namespace Mode

/-- How a mode comes about, and the bare list that its rates would be. -/
inductive Made : Mode → List Rate → Prop
  | ofRates (width height : Dimension) (rs : List Rate) :
    Made (.ofRates width height rs) (Bare.ofList rs)
  | ofText {text : String} {mode : Mode} {rs : List Rate} (hmode : Mode.ofText text = .ok mode)
    (hrates : rates? (((cut '@' text.toList).2.map (pieces '/')).getD []) = .ok rs) :
    Made mode (Bare.ofList rs)
  | ofRecord (r : ModeRecord) : Made r.toMode (Bare.ofList r.rates)
  | resize {mode : Mode} {rs : List Rate} (width height : Dimension) (h : Made mode rs) :
    Made { mode with width, height } rs
  | change {mode : Mode} {rs : List Rate} (c : Change) (h : Made mode rs) :
    Made { mode with rates := c.run mode.rates } (Bare.change c rs)

variable {mode : Mode} {rs : List Rate} {text : String}

theorem rates_ofText (h : ofText text = .ok mode) : ∃ rs,
    rates? (((cut '@' text.toList).2.map (pieces '/')).getD []) = .ok rs ∧ mode.rates = .ofList rs := by
  simp only [ofText] at h
  split at h
  · cases h
  · split at h
    · cases h
    · cases h
    · split at h
      · cases h
      · next rs hrs =>
        cases h
        exact ⟨rs, hrs, rfl⟩

theorem Made.rates_eq (h : Made mode rs) : mode.rates.rates = rs := by
  induction h with
  | ofRates width height rs => exact rates_ofList_bare rs
  | ofText hmode hrates =>
    obtain ⟨rs, hread, hmade⟩ := rates_ofText hmode
    cases hread.symm.trans hrates
    rw [hmade, rates_ofList_bare]
  | ofRecord r => exact rates_ofList_bare r.rates
  | resize width height _ ih => exact ih
  | change c _ ih => rw [rates_run, ih]

theorem Made.nodup (h : Made mode rs) : rs.Nodup := by
  induction h with
  | ofRates width height rs => exact Bare.nodup_ofList rs
  | @ofText _ _ rs hmode hrates => exact Bare.nodup_ofList rs
  | ofRecord r => exact Bare.nodup_ofList r.rates
  | resize width height _ ih => exact ih
  | change c _ ih => exact Bare.nodup_change c ih

/-- Every mode could have been made of the rates that it has. -/
theorem made_ofRates (mode : Mode) : mode.Made (Bare.ofList mode.rates.rates) := by
  have h := Made.ofRates mode.width mode.height mode.rates.rates
  rwa [Mode.ofRates, ofList_rates] at h

end Mode

namespace RateSet

/-- Whatever a set is made of and whatever calls it sees, it keeps what the calls make of a bare list, and
that holds no rate twice. So it is with the rates of a mode, and the modes of a registry come about in
no other way. A rate is not stored where there is no such index or where another one holds it; elsewhere
the old rate is answered and the one at the index changes alone. A call that is refused changes
nothing. -/
theorem holds_no_rate_twice :
    (∀ made cs, (changeAll cs (ofList made)).rates = Bare.changeAll cs (Bare.ofList made) ∧
      (Bare.changeAll cs (Bare.ofList made)).Nodup) ∧
    (∀ mode rs, Mode.Made mode rs → mode.rates.rates = rs ∧ rs.Nodup) ∧
    (∀ g : Registry, ∀ m ∈ g.monitors, ∀ mode ∈ m.modes,
      mode.rates.rates.Nodup ∧ ∃ rs, mode.Made rs) ∧
    (∀ s i r, ((set i r s).1 = none ↔ s.size ≤ i ∨ s.HeldElsewhere i r) ∧
      ((set i r s).1 = none → (set i r s).2 = s) ∧
      ∀ old, (set i r s).1 = some old →
        s.get? i = some old ∧ (set i r s).2.rates = s.rates.set i r) ∧
    (∀ s r, (push r s).1 = false → (push r s).2 = s) ∧
    ∀ s i, (remove i s).1 = none → (remove i s).2 = s := by
  refine ⟨fun made cs => ⟨?_, ?_⟩, fun mode rs hmade => ⟨hmade.rates_eq, hmade.nodup⟩,
    fun g m _ mode _ => ?_, fun s i r => ⟨set_eq_none_iff, set_of_none, fun old => set_of_some⟩,
    fun s r => push_of_false, fun s i => remove_of_none⟩
  · rw [rates_changeAll, rates_ofList_bare]
  · exact Bare.nodup_changeAll cs (Bare.nodup_ofList made)
  · have hmade := mode.made_ofRates
    exact ⟨hmade.rates_eq ▸ hmade.nodup, _, hmade⟩

/-- A mode is read from a text that repeats a rate, and its rates are changed. Of the mode that was read,
the rate `75` is not stored at the index `0`, since it is at the index `1`. -/
theorem holds_no_rate_twice_of_text :
    let mode : Mode := .ofRates 800 600 [60, 75]
    let changed : Mode := { mode with rates := (Change.set 1 120).run mode.rates }
    let m : Monitor := { id := 1, modes := [changed] }
    let g : Registry := ⟨[m]⟩
    Mode.ofText "800x600@60/75/60" = .ok mode ∧ changed.Made [60, 120] ∧
      changed.rates.rates = [60, 120] ∧ m ∈ g.monitors ∧ changed ∈ m.modes ∧
      changed.rates.rates.Nodup ∧ mode.rates.HeldElsewhere 0 75 ∧ (set 0 75 mode.rates).2 = mode.rates ∧
      mode.rates.get? 1 = some 75 ∧ (set 1 120 mode.rates).2.rates = [60, 120] ∧
      (push 60 mode.rates).2 = mode.rates ∧ (remove 2 mode.rates).2 = mode.rates := by
  intro mode changed m g
  obtain ⟨-, hmade, hmodes, hset, hpush, hremove⟩ := holds_no_rate_twice
  have htext : Mode.ofText "800x600@60/75/60" = .ok mode := by decide +kernel
  have hread : mode.Made [60, 75] := @Mode.Made.ofText _ _ [60, 75, 60] htext (by decide +kernel)
  have hchanged : changed.Made [60, 120] := hread.change (.set 1 120)
  have hm : m ∈ g.monitors := List.mem_cons_self
  have hmode : changed ∈ m.modes := List.mem_cons_self
  obtain ⟨hrefuses, hrefused, -⟩ := hset mode.rates 0 75
  obtain ⟨-, -, hstored⟩ := hset mode.rates 1 120
  have hnone : (set 0 75 mode.rates).1 = none := by decide
  obtain ⟨hold, hrates⟩ := hstored 75 (by decide)
  refine ⟨htext, hchanged, (hmade _ _ hchanged).1, hm, hmode, (hmodes g m hm changed hmode).1,
    (hrefuses.1 hnone).resolve_left (by decide), hrefused hnone, hold, hrates, ?_, ?_⟩
  · exact hpush mode.rates 60 (by decide)
  · exact hremove mode.rates 2 (by decide)

end RateSet
end VirtualDisplay
