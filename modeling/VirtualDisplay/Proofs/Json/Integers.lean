import VirtualDisplay.Proofs.Json.Literal

/-! Integers among the number literals. A literal is kept as an integer if it is written as one and 64
bits hold it; minus zero and all other literals are kept as floating-point numbers. -/

namespace VirtualDisplay.Json.Number

open Text

/-- The literal is kept as the integer: it has neither fraction nor exponent, is not minus zero, and is
no further from zero than 64 bits reach, with a sign below zero and without one above. -/
structure Holds (n : Number) (z : Int) : Prop where
  fraction : n.fraction = []
  exponent : n.exponent = []
  value : z = if n.negative = true then -(ofDigits n.whole : Int) else ofDigits n.whole
  nonzero : n.negative = true → z ≠ 0
  low : -(signedLimit : Int) ≤ z
  high : z < (UInt64.size : Int)

variable {n : Number} {z : Int}

theorem Holds.unique {z' : Int} (h : n.Holds z) (h' : n.Holds z') : z = z' :=
  h.value.trans h'.value.symm

theorem magnitude?_of_plain (hf : n.fraction = []) (he : n.exponent = []) :
    n.magnitude? = some (ofDigits n.whole) := if_pos ⟨hf, he⟩

theorem kind_of_holds (h : n.Holds z) : n.kind = if z < 0 then .negative else .natural z.toNat := by
  obtain ⟨hf, he, hvalue, hnonzero, hlow, hhigh⟩ := h
  simp only [kind, magnitude?_of_plain hf he]
  cases hneg : n.negative with
  | true =>
    rw [if_pos hneg] at hvalue
    have hz := hnonzero hneg
    rw [if_pos rfl, if_pos (by omega), if_pos (by omega)]
  | false =>
    rw [hneg, if_neg Bool.false_ne_true] at hvalue
    rw [if_neg Bool.false_ne_true, if_pos (by omega), if_neg (by omega), hvalue, Int.toNat_natCast]

theorem holds_of_kind (h : n.kind ≠ .floating) : ∃ z, n.Holds z := by
  by_cases hplain : n.fraction = [] ∧ n.exponent = []
  · obtain ⟨hf, he⟩ := hplain
    simp only [kind, magnitude?_of_plain hf he] at h
    cases hneg : n.negative with
    | true =>
      rw [if_pos hneg, ne_eq, ite_eq_right_iff, Classical.not_imp] at h
      exact ⟨-(ofDigits n.whole : Int), hf, he, by rw [if_pos hneg], by omega, by omega, by omega⟩
    | false =>
      rw [hneg, if_neg Bool.false_ne_true, ne_eq, ite_eq_right_iff, Classical.not_imp] at h
      refine ⟨ofDigits n.whole, hf, he, ?_, ?_, by omega, by omega⟩
      · rw [hneg, if_neg Bool.false_ne_true]
      · rw [hneg]
        exact fun h => absurd h Bool.false_ne_true
  · exact absurd (by rw [kind, magnitude?, if_neg hplain]) h

/-- The text of a literal that follows the grammar is the decimal text of the integer. -/
theorem text_of_holds (hl : n.Literal) (h : n.Holds z) : String.ofList n.text = toString z := by
  have hdigits := digits_ofDigits hl.whole_digits hl.whole_ne hl.whole_zero
  rw [Int.toString_eq_repr, Int.repr_eq_if, text, h.fraction, h.exponent, if_pos rfl, List.append_nil,
    List.append_nil]
  have hvalue := h.value
  cases hneg : n.negative with
  | true =>
    have hz := h.nonzero hneg
    rw [if_pos hneg] at hvalue
    rw [if_pos rfl, if_neg (by omega), hvalue, Int.neg_neg, Int.toNat_natCast,
      Nat.repr_eq_ofList_toDigits, ← digits, hdigits, String.ofList_append]
  | false =>
    rw [hneg, if_neg Bool.false_ne_true] at hvalue
    rw [if_neg Bool.false_ne_true, if_pos (by omega), hvalue, Int.toNat_natCast,
      Nat.repr_eq_ofList_toDigits, ← digits, hdigits, List.nil_append]

end VirtualDisplay.Json.Number
