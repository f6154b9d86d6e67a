import Mathlib.Data.List.Induction
import VirtualDisplay.Text.Decimal

/-! Decimal digits: what `digits` writes is never empty, holds digits only, starts with a zero for zero
alone, and denotes the number again; nothing else of this kind denotes it. What is read as a number of 32 bits is digits, perhaps with a plus
sign before them, and nothing else. -/

namespace VirtualDisplay.Text

theorem isDigit_of_mem_digits {n : Nat} {c : Char} (h : c ∈ digits n) : c.isDigit = true :=
  Nat.isDigit_of_mem_toDigits (by decide) (by decide) h

theorem digits_ne_nil (n : Nat) : digits n ≠ [] := Nat.toDigits_ne_nil

@[simp] theorem ofDigits_digits (n : Nat) : ofDigits (digits n) = n := Nat.ofDigitChars_ten_toDigits

theorem digits_leading_zero {n : Nat} {ds : List Char} (h : digits n = '0' :: ds) : ds = [] := by
  induction n using Nat.strongRecOn generalizing ds with
  | ind n ih =>
    by_cases hn : n < 10
    · rw [digits, Nat.toDigits_of_lt_base hn] at h
      exact (List.cons.inj h).2.symm
    · rw [digits, Nat.toDigits_of_base_le (by decide) (by omega)] at h
      cases hq : digits (n / 10) with
      | nil => exact absurd hq (digits_ne_nil _)
      | cons d es =>
        -- the quotient would start with the zero too, and so be zero
        have hcons : d :: (es ++ [Nat.digitChar (n % 10)]) = '0' :: ds := by
          rw [← h, ← List.cons_append, ← hq, digits]
        obtain ⟨rfl, -⟩ := List.cons.inj hcons
        have hes := ih (n / 10) (by omega) hq
        have hzero : 0 = n / 10 := by
          rw [← ofDigits_digits (n / 10), hq, hes]
          rfl
        omega

theorem exists_digitChar {c : Char} (h : c.isDigit = true) : ∃ n < 10, c = Nat.digitChar n := by
  have hrange : 48 ≤ c.toNat ∧ c.toNat ≤ 57 := Char.isDigit_iff_toNat.1 h
  refine ⟨c.toNat - 48, by omega, Char.toNat_inj.1 ?_⟩
  rw [Nat.toNat_digitChar_of_lt_ten (by omega)]
  omega

/-- Digits without a leading zero are those that are written for the number. -/
theorem digits_ofDigits {ds : List Char} (hd : ∀ d ∈ ds, d.isDigit = true) (hne : ds ≠ [])
    (hzero : ∀ es, ds = '0' :: es → es = []) : digits (ofDigits ds) = ds := by
  induction ds using List.reverseRecOn with
  | nil => exact absurd rfl hne
  | append_singleton es d ih =>
    obtain ⟨n, hn, rfl⟩ := exists_digitChar (hd d (by simp))
    have hvalue : ofDigits (es ++ [n.digitChar]) = 10 * ofDigits es + n := by
      rw [ofDigits, Nat.ofDigitChars_append, Nat.ofDigitChars_cons_digitChar_of_lt_ten hn,
        Nat.ofDigitChars_nil, ofDigits]
    cases es with
    | nil =>
      have hnil : ofDigits [] = 0 := rfl
      rw [hvalue, hnil, Nat.mul_zero, Nat.zero_add]
      exact Nat.toDigits_of_lt_base hn
    | cons e es =>
      have hrest : digits (ofDigits (e :: es)) = e :: es := by
        refine ih (fun c hc => hd c (List.mem_append_left _ hc)) (List.cons_ne_nil e es) ?_
        rintro fs ⟨⟩
        exact (List.append_eq_nil_iff.1 (hzero _ rfl)).1
      have hpos : 0 < ofDigits (e :: es) := by
        rw [Nat.pos_iff_ne_zero]
        intro h
        -- zero is written as one digit, but another one follows here
        rw [h] at hrest
        obtain ⟨rfl, rfl⟩ := List.cons.inj hrest
        exact List.cons_ne_nil _ _ (hzero _ rfl)
      rw [hvalue, digits, ← Nat.toDigits_append_toDigits (by decide) hpos hn,
        Nat.toDigits_of_lt_base hn, ← digits, hrest]

/-! ### Numbers of 32 bits -/

/-- The characters are the digits of a number, leading zeros or not, perhaps with a plus sign before. -/
def Reads (cs : List Char) (n : UInt32) : Prop :=
  ∃ ds, (cs = ds ∨ cs = '+' :: ds) ∧ ds ≠ [] ∧ (∀ d ∈ ds, d.isDigit = true) ∧ ofDigits ds = n.toNat

theorem dropPlus_cases (cs : List Char) : cs = dropPlus cs ∨ cs = '+' :: dropPlus cs := by
  unfold dropPlus
  split
  · exact Or.inr rfl
  · exact Or.inl rfl

theorem dropPlus_of_isDigit {ds : List Char} (h : ∀ d ∈ ds, d.isDigit = true) : dropPlus ds = ds := by
  unfold dropPlus
  split
  · next cs => exact absurd (h '+' List.mem_cons_self) (by decide)
  · rfl

theorem natural?_eq_some {cs : List Char} {n : Nat} : natural? cs = some n ↔
    dropPlus cs ≠ [] ∧ (∀ d ∈ dropPlus cs, d.isDigit = true) ∧ ofDigits (dropPlus cs) = n := by
  simp only [natural?, Option.ite_none_right_eq_some, Option.some.injEq, List.all_eq_true, and_assoc]

theorem word?_eq_some {cs : List Char} {n : UInt32} : word? cs = some n ↔ Reads cs n := by
  simp only [word?, Option.bind_eq_some_iff, natural?_eq_some, Option.ite_none_right_eq_some,
    Option.some.injEq]
  constructor
  · rintro ⟨_, ⟨hne, hdigits, rfl⟩, hlt, rfl⟩
    exact ⟨dropPlus cs, dropPlus_cases cs, hne, hdigits, (UInt32.toNat_ofNat_of_lt' hlt).symm⟩
  · rintro ⟨ds, hcs, hne, hdigits, hvalue⟩
    have hdrop : dropPlus cs = ds := by
      obtain rfl | rfl := hcs
      · exact dropPlus_of_isDigit hdigits
      · rfl
    refine ⟨n.toNat, ?_, n.toNat_lt, UInt32.ofNat_toNat⟩
    rw [hdrop]
    exact ⟨hne, hdigits, hvalue⟩

theorem word?_digits (n : UInt32) : word? (digits n.toNat) = some n :=
  word?_eq_some.2 ⟨_, Or.inl rfl, digits_ne_nil _, fun _ => isDigit_of_mem_digits, ofDigits_digits _⟩

end VirtualDisplay.Text
