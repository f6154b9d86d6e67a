import Mathlib.Data.List.Nodup
import VirtualDisplay.Proofs.RateSet.Additions

/-! Calls on a set of rates, one after the other. Every call does to the set what it does to the bare list
of its rates, and a bare list that such calls have made holds no rate twice, whether or not a type
says so. -/

namespace VirtualDisplay
namespace RateSet

variable {s : RateSet} {rs : List Rate} {i : Nat} {r old : Rate}

/-! ### Storing at an index -/

/-- Another index than this one holds the rate. -/
def HeldElsewhere (s : RateSet) (i : Nat) (r : Rate) : Prop := ∃ j, j ≠ i ∧ s.get? j = some r

/-- A rate is stored at an index, unless there is no such index or another one holds the rate. -/
theorem set_cases (i : Nat) (r : Rate) (s : RateSet) :
    (s.size ≤ i ∨ s.HeldElsewhere i r) ∧ set i r s = (none, s) ∨
    ¬ (s.size ≤ i ∨ s.HeldElsewhere i r) ∧ ∃ old, s.get? i = some old ∧
      (set i r s).1 = some old ∧ (set i r s).2.rates = s.rates.set i r := by
  by_cases h : heldElsewhere s.rates i r
  · rw [set, dif_pos h]
    exact Or.inl ⟨Or.inr (heldElsewhere_iff.1 h), rfl⟩
  · rw [set, dif_neg h]
    split
    · next hnone => exact Or.inl ⟨Or.inl (List.getElem?_eq_none_iff.1 hnone), rfl⟩
    · next old hold =>
      have hi : i < s.rates.length := (List.getElem?_eq_some_iff.1 hold).1
      refine Or.inr ⟨not_or.2 ⟨Nat.not_le_of_lt hi, ?_⟩, old, hold, rfl, rfl⟩
      exact mt heldElsewhere_iff.2 h

/-! ### Calls -/

/-- A call that may change a set. -/
inductive Change
  | add (a : Addition)
  | set (i : Nat) (r : Rate)
  | remove (i : Nat)
  | replaceAll (rs : List Rate)
  | clear

namespace Change

def run : Change → RateSet → RateSet
  | add a, s => a.run s
  | set i r, s => (RateSet.set i r s).2
  | remove i, s => (RateSet.remove i s).2
  | replaceAll rs, s => (RateSet.replaceAll rs s).2
  | clear, s => (RateSet.clear s).2

end Change

def changeAll (cs : List Change) (s : RateSet) : RateSet := cs.foldl (fun s c => c.run s) s

/-! ### Bare lists

The same calls on a list that may hold anything. -/

namespace Bare

/-- Puts the rate behind the others, unless it is among them. -/
def push (rs : List Rate) (r : Rate) : List Rate := if r ∈ rs then rs else rs ++ [r]

def pushAll (new rs : List Rate) : List Rate := new.foldl push rs

def ofList (made : List Rate) : List Rate := pushAll made []

def change : Change → List Rate → List Rate
  | .add a, rs => pushAll a.rates rs
  | .set i r, rs => if heldElsewhere rs i r then rs else rs.set i r
  | .remove i, rs => rs.eraseIdx i
  | .replaceAll made, _ => ofList made
  | .clear, _ => []

def changeAll (cs : List Change) (rs : List Rate) : List Rate := cs.foldl (fun rs c => change c rs) rs

theorem nodup_push (h : rs.Nodup) (r : Rate) : (push rs r).Nodup := by
  rw [push]
  split
  · exact h
  · next hr => exact List.concat_eq_append ▸ h.concat hr

theorem nodup_pushAll (new : List Rate) (h : rs.Nodup) : (pushAll new rs).Nodup := by
  induction new generalizing rs with
  | nil => exact h
  | cons r new ih => exact ih (nodup_push h r)

theorem nodup_ofList (made : List Rate) : (ofList made).Nodup := nodup_pushAll made List.nodup_nil

theorem nodup_change (c : Change) (h : rs.Nodup) : (change c rs).Nodup := by
  cases c with
  | add a => exact nodup_pushAll a.rates h
  | set i r =>
    rw [change]
    split
    · exact h
    · next hfree => exact nodup_set h hfree
  | remove i => exact h.sublist (List.eraseIdx_sublist ..)
  | replaceAll made => exact nodup_ofList made
  | clear => exact List.nodup_nil

theorem nodup_changeAll (cs : List Change) (h : rs.Nodup) : (changeAll cs rs).Nodup := by
  induction cs generalizing rs with
  | nil => exact h
  | cons c cs ih => exact ih (nodup_change c h)

end Bare

/-! ### What calls do to the list of a set -/

theorem rates_push (r : Rate) (s : RateSet) : (push r s).2.rates = Bare.push s.rates r := by
  rw [Bare.push]
  split
  · next h => rw [push_of_mem h]
  · next h => exact (push_of_not_mem h).2

theorem rates_pushMany_bare (new : List Rate) (s : RateSet) :
    (pushMany new s).2.rates = Bare.pushAll new s.rates := by
  induction new generalizing s with
  | nil => rfl
  | cons r new ih => rw [pushMany, ih, rates_push, Bare.pushAll, Bare.pushAll, List.foldl_cons]

theorem rates_ofList_bare (made : List Rate) : (ofList made).rates = Bare.ofList made :=
  rates_pushMany_bare made empty

theorem rates_set (i : Nat) (r : Rate) (s : RateSet) :
    (set i r s).2.rates = if heldElsewhere s.rates i r then s.rates else s.rates.set i r := by
  obtain ⟨hle | hheld, hset⟩ | ⟨hfree, old, -, -, hrates⟩ := set_cases i r s
  · rw [hset, List.set_eq_of_length_le hle, ite_self]
  · rw [hset, if_pos (heldElsewhere_iff.2 hheld)]
  · rw [hrates, if_neg fun hheld => hfree (Or.inr (heldElsewhere_iff.1 hheld))]

theorem rates_run (c : Change) (s : RateSet) : (c.run s).rates = Bare.change c s.rates := by
  cases c with
  | add a => rw [Change.run, a.run_eq, rates_pushMany_bare, Bare.change]
  | set i r => exact rates_set i r s
  | remove i => rfl
  | replaceAll made => exact rates_ofList_bare made
  | clear => rfl

theorem rates_changeAll (cs : List Change) (s : RateSet) :
    (changeAll cs s).rates = Bare.changeAll cs s.rates := by
  induction cs generalizing s with
  | nil => rfl
  | cons c cs ih =>
    have hstep : changeAll (c :: cs) s = changeAll cs (c.run s) := rfl
    rw [hstep, ih, rates_run]
    rfl

/-! ### Refused calls -/

theorem set_eq_none_iff : (set i r s).1 = none ↔ s.size ≤ i ∨ s.HeldElsewhere i r := by
  obtain ⟨hrefused, hset⟩ | ⟨hstored, old, -, hanswer, -⟩ := set_cases i r s
  · simp only [hset, hrefused]
  · simp only [hanswer, hstored, reduceCtorEq]

theorem set_of_none (h : (set i r s).1 = none) : (set i r s).2 = s := by
  obtain ⟨-, hset⟩ | ⟨hstored, -⟩ := set_cases i r s
  · rw [hset]
  · exact absurd (set_eq_none_iff.1 h) hstored

theorem set_of_some (h : (set i r s).1 = some old) :
    s.get? i = some old ∧ (set i r s).2.rates = s.rates.set i r := by
  obtain ⟨-, hset⟩ | ⟨-, old', hold, hanswer, hrates⟩ := set_cases i r s
  · rw [hset] at h
    cases h
  · cases hanswer.symm.trans h
    exact ⟨hold, hrates⟩

theorem push_of_false (h : (push r s).1 = false) : (push r s).2 = s := by
  by_cases hr : r ∈ s.rates
  · rw [push_of_mem hr]
  · rw [(push_of_not_mem hr).1] at h
    cases h

theorem remove_of_none (h : (remove i s).1 = none) : (remove i s).2 = s :=
  ext (List.eraseIdx_of_length_le (List.getElem?_eq_none_iff.1 h))

end RateSet
end VirtualDisplay
