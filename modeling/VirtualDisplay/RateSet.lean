import VirtualDisplay.Edit

/-! The refresh rates of a mode: no rate twice, in the order in which they were first added. -/

namespace VirtualDisplay

/-- A refresh rate in hertz. -/
abbrev Rate := UInt32

structure RateSet where
  rates : List Rate
  nodup : rates.Nodup
  deriving DecidableEq

namespace RateSet

def empty : RateSet := ⟨[], List.nodup_nil⟩

instance : Inhabited RateSet := ⟨empty⟩

def contains (s : RateSet) (r : Rate) : Bool := s.rates.contains r

def get? (s : RateSet) (i : Nat) : Option Rate := s.rates[i]?

def size (s : RateSet) : Nat := s.rates.length

def valid (s : RateSet) : Bool := !s.rates.isEmpty

/-- Adds a rate at the end unless it is there; answers whether the set grew. -/
def push (r : Rate) : Edit RateSet Bool := fun s =>
  if h : r ∈ s.rates then (false, s)
  else (true, ⟨s.rates ++ [r], by
    rw [List.nodup_append]
    exact ⟨s.nodup, by simp, fun a ha b hb => by
      rw [List.mem_singleton] at hb; subst hb; exact fun hab => h (hab ▸ ha)⟩⟩)

def pushMany : List Rate → Edit RateSet Nat
  | [], s => (0, s)
  | r :: rs, s =>
    let grown := push r s
    let rest := pushMany rs grown.2
    ((if grown.1 then 1 else 0) + rest.1, rest.2)

def extend (rs : List Rate) : Edit RateSet Unit := fun s => ((), (pushMany rs s).2)

def ofList (rs : List Rate) : RateSet := (pushMany rs empty).2

def remove (i : Nat) : Edit RateSet (Option Rate) := fun s =>
  (s.rates[i]?, ⟨s.rates.eraseIdx i, s.nodup.sublist (List.eraseIdx_sublist ..)⟩)

def heldElsewhere (rs : List Rate) (i : Nat) (r : Rate) : Bool :=
  rs.zipIdx.any fun p => p.2 != i && p.1 == r

theorem heldElsewhere_iff {rs : List Rate} {i : Nat} {r : Rate} :
    heldElsewhere rs i r = true ↔ ∃ j, j ≠ i ∧ rs[j]? = some r := by
  simp only [heldElsewhere, List.any_eq_true, Prod.exists, List.mem_zipIdx_iff_getElem?,
    Bool.and_eq_true, bne_iff_ne, beq_iff_eq]
  constructor
  · rintro ⟨_, j, hj, hne, rfl⟩
    exact ⟨j, hne, hj⟩
  · rintro ⟨j, hne, hj⟩
    exact ⟨r, j, hj, hne, rfl⟩

theorem nodup_set {rs : List Rate} {i : Nat} {r : Rate} (hrs : rs.Nodup)
    (hfree : ¬ heldElsewhere rs i r) : (rs.set i r).Nodup := by
  have hne : ∀ j (hj : j < rs.length), j ≠ i → rs[j] ≠ r := by
    intro j hj hji hr
    exact hfree (heldElsewhere_iff.2 ⟨j, hji, by rw [List.getElem?_eq_getElem hj, hr]⟩)
  rw [List.Nodup, List.pairwise_iff_getElem] at hrs ⊢
  intro j k hj hk hjk
  rw [List.length_set] at hj hk
  rw [List.getElem_set, List.getElem_set]
  split
  · rw [if_neg (by omega)]
    exact (hne k hk (by omega)).symm
  · split
    · exact hne j hj (by omega)
    · exact hrs j k hj hk hjk

/-- Stores a rate at an index and answers the old one. Nothing happens if there is no such index,
or if the rate is in the set at another one. -/
def set (i : Nat) (r : Rate) : Edit RateSet (Option Rate) := fun s =>
  if h : heldElsewhere s.rates i r then (none, s)
  else match s.rates[i]? with
    | none => (none, s)
    | some old => (some old, ⟨s.rates.set i r, nodup_set s.nodup h⟩)

def replaceAll (rs : List Rate) : Edit RateSet Unit := fun _ => ((), ofList rs)

def clear : Edit RateSet Unit := fun _ => ((), empty)

end RateSet
end VirtualDisplay
