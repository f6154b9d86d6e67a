import Mathlib.Data.List.TakeWhile
import VirtualDisplay.Proofs.Text.Decimal
import VirtualDisplay.Text.Blank

/-! White space around a word: trimming takes away exactly the blanks at the two ends. -/

namespace VirtualDisplay.Text

variable {before word after cs : List Char}

theorem isBlank_of_isDigit {c : Char} (h : c.isDigit = true) : isBlank c = false := by
  have hrange : 48 ≤ c.toNat ∧ c.toNat ≤ 57 := Char.isDigit_iff_toNat.1 h
  simp only [isBlank, inRanges, blankRanges, List.any_cons, List.any_nil, Bool.or_false,
    Bool.or_eq_false_iff, Bool.and_eq_false_iff, decide_eq_false_iff_not]
  omega

theorem exists_trim (cs : List Char) : ∃ before after, cs = before ++ (trim cs ++ after) ∧
    (∀ c ∈ before, isBlank c = true) ∧ ∀ c ∈ after, isBlank c = true := by
  have hback : cs.dropWhile isBlank =
      trim cs ++ ((cs.dropWhile isBlank).reverse.takeWhile isBlank).reverse := by
    rw [trim, ← List.reverse_append, List.takeWhile_append_dropWhile, List.reverse_reverse]
  refine ⟨cs.takeWhile isBlank, ((cs.dropWhile isBlank).reverse.takeWhile isBlank).reverse, ?_, ?_, ?_⟩
  · rw [← hback, List.takeWhile_append_dropWhile]
  · exact fun c hc => List.mem_takeWhile_imp hc
  · exact fun c hc => List.mem_takeWhile_imp (List.mem_reverse.1 hc)

/-- Blanks are dropped up to a word. -/
theorem dropWhile_blanks (hb : ∀ c ∈ before, isBlank c = true) (hw : ∀ c ∈ word, isBlank c = false)
    (hne : word ≠ []) : (before ++ (word ++ after)).dropWhile isBlank = word ++ after := by
  rw [List.dropWhile_append_of_pos hb]
  cases word with
  | nil => exact absurd rfl hne
  | cons c cs => rw [List.cons_append, List.dropWhile_cons_of_neg (by simp [hw c List.mem_cons_self])]

theorem trim_append (hb : ∀ c ∈ before, isBlank c = true) (hw : ∀ c ∈ word, isBlank c = false)
    (hne : word ≠ []) (ha : ∀ c ∈ after, isBlank c = true) : trim (before ++ (word ++ after)) = word := by
  have hback : ((word ++ after).reverse).dropWhile isBlank = word.reverse := by
    have h : (after.reverse ++ (word.reverse ++ [])).dropWhile isBlank = word.reverse ++ [] :=
      dropWhile_blanks (by simpa using ha) (by simpa using hw) (by simpa using hne)
    rwa [List.append_nil, ← List.reverse_append] at h
  rw [trim, dropWhile_blanks hb hw hne, hback, List.reverse_reverse]

end VirtualDisplay.Text
