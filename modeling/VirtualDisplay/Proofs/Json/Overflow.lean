import Mathlib.Algebra.Order.Field.Power
import Mathlib.Algebra.Order.Field.Rat
import Mathlib.Tactic.Linarith
import Mathlib.Tactic.NormNum
import Mathlib.Tactic.Ring
import VirtualDisplay.Proofs.Json.Integers

/-! Number literals that are too large for a double. What the reader computes is not the literal itself: it
drops the digits that 64 bits do not hold, rounds what is left, rounds the power of ten, and multiplies.
Each of these is off by a small part of the whole. So the reader is right about each literal but those
whose size comes within three steps of the limit, a step being the distance between the two largest
doubles. -/

namespace VirtualDisplay

open Text

/-! ### Rounding to a double -/

namespace Double

/-- The distance between the two largest doubles. -/
def step : Nat := Nat.pow 2 971

/-- Rounding is off by one part in `2 ^ 53` at most. -/
theorem round_bounds (n : Nat) :
    2 ^ 53 * n ≤ 2 ^ 53 * round n + n ∧ 2 ^ 53 * round n ≤ (2 ^ 53 + 1) * n := by
  rw [round]
  generalize hunit : Nat.pow 2 (n.log2 + 1 - 53) = unit
  have hpos : 0 < unit := hunit ▸ Nat.two_pow_pos _
  have hn : unit * (n / unit) + n % unit = n := Nat.div_add_mod n unit
  have hr : n % unit < unit := Nat.mod_lt n hpos
  have hsmall : unit = 1 ∨ 2 ^ 52 * unit ≤ n := by
    rcases Nat.lt_or_ge (n.log2 + 1) 54 with h | h
    · left
      rw [← hunit, show n.log2 + 1 - 53 = 0 by omega]
    · right
      have hzero : n ≠ 0 := by
        rintro rfl
        simp at h
      calc 2 ^ 52 * unit = 2 ^ (52 + (n.log2 + 1 - 53)) := by rw [Nat.pow_add, ← hunit]; rfl
        _ = 2 ^ n.log2 := by rw [show 52 + (n.log2 + 1 - 53) = n.log2 by omega]
        _ ≤ n := Nat.log2_self_le hzero
  rw [Nat.mul_comm unit] at hn
  split
  · rw [Nat.add_mul]
    omega
  · omega

/-- A product of rounded numbers is off by little more than one part in `2 ^ 52`. -/
theorem round_mul_bounds (s p : Nat) :
    2 ^ 52 * (s * p) ≤ 2 ^ 52 * (round s * round p) + s * p ∧
      2 ^ 106 * (round s * round p) ≤ (2 ^ 53 + 1) * (2 ^ 53 + 1) * (s * p) := by
  obtain ⟨hs, hs'⟩ := round_bounds s
  obtain ⟨hp, hp'⟩ := round_bounds p
  have hproduct : 2 ^ 53 * round s * (2 ^ 53 * round p) = 2 ^ 106 * (round s * round p) := by ring
  constructor
  · have hlow : (2 ^ 53 - 1) * s * ((2 ^ 53 - 1) * p) ≤ 2 ^ 53 * round s * (2 ^ 53 * round p) :=
      Nat.mul_le_mul (by omega) (by omega)
    rw [hproduct, Nat.mul_mul_mul_comm] at hlow
    omega
  · calc 2 ^ 106 * (round s * round p) = 2 ^ 53 * round s * (2 ^ 53 * round p) := hproduct.symm
      _ ≤ (2 ^ 53 + 1) * s * ((2 ^ 53 + 1) * p) := Nat.mul_le_mul hs' hp'
      _ = (2 ^ 53 + 1) * (2 ^ 53 + 1) * (s * p) := by ring

/-- The limit is half a step past the largest double, which is `2 ^ 53 - 1` steps. -/
theorem limit_step : (2 * limit + step : ℚ) = 2 ^ 54 * step := by
  exact_mod_cast show 2 * limit + step = 2 ^ 54 * step by decide +kernel

theorem le_step : (2 ^ 66 : ℚ) ≤ step := by
  exact_mod_cast show 2 ^ 66 ≤ step by decide +kernel

theorem step_le : (2 ^ 54 * step : ℚ) ≤ 10 ^ 309 := by
  exact_mod_cast show 2 ^ 54 * step ≤ 10 ^ 309 by decide +kernel

end Double

namespace Json.Number

/-! ### Digits that are dropped -/

/-- No more than one part in `2 ^ 60` apart. -/
def Near (a b : Nat) : Prop := 2 ^ 60 * a ≤ (2 ^ 60 + 1) * b ∧ 2 ^ 60 * b ≤ (2 ^ 60 + 1) * a

theorem near_refl (a : Nat) : Near a a := by
  unfold Near
  omega

/-- What begins with the same digits is near, if they make a large number. -/
theorem near_of_prefix {s p a b : Nat} (hs : 2 ^ 60 ≤ s) (ha : s * p ≤ a ∧ a < (s + 1) * p)
    (hb : s * p ≤ b ∧ b < (s + 1) * p) : Near a b := by
  have hp : 2 ^ 60 * p ≤ s * p := Nat.mul_le_mul_right p hs
  rw [Nat.add_mul] at ha hb
  unfold Near
  omega

theorem digit_le {d : Char} (h : d.isDigit = true) : d.toNat - '0'.toNat ≤ 9 := by
  have hd : d.toNat ≤ 57 := (Char.isDigit_iff_toNat.1 h).2
  have hzero : '0'.toNat = 48 := rfl
  omega

theorem ofDigitChars_bounds {ds : List Char} (hd : ∀ d ∈ ds, d.isDigit = true) (s : Nat) :
    s * 10 ^ ds.length ≤ Nat.ofDigitChars 10 ds s ∧
      Nat.ofDigitChars 10 ds s < (s + 1) * 10 ^ ds.length := by
  induction ds generalizing s with
  | nil => simp
  | cons d ds ih =>
    have hdigit := digit_le (hd d List.mem_cons_self)
    obtain ⟨hlow, hhigh⟩ := ih (fun c hc => hd c (List.mem_cons_of_mem d hc))
      (10 * s + (d.toNat - '0'.toNat))
    rw [Nat.ofDigitChars_cons, List.length_cons, Nat.pow_succ', ← Nat.mul_assoc, ← Nat.mul_assoc]
    constructor
    · refine Nat.le_trans (Nat.mul_le_mul_right _ ?_) hlow
      omega
    · refine Nat.lt_of_lt_of_le hhigh (Nat.mul_le_mul_right _ ?_)
      omega

/-- Some digits are taken; if some are left, then those taken make a large number. -/
theorem fill_spec {ds : List Char} (hd : ∀ d ∈ ds, d.isDigit = true) (s : Nat) : ∃ taken,
    ds = taken ++ (fill s ds).2 ∧ (fill s ds).1 = Nat.ofDigitChars 10 taken s ∧
      ((fill s ds).2 = [] ∨ 2 ^ 60 ≤ (fill s ds).1) := by
  induction ds generalizing s with
  | nil => exact ⟨[], rfl, rfl, Or.inl rfl⟩
  | cons d ds ih =>
    have hdigit := digit_le (hd d List.mem_cons_self)
    have hsize : UInt64.size = 18446744073709551616 := rfl
    rw [fill]
    split
    · obtain ⟨taken, hds, hvalue, hleft⟩ := ih (fun c hc => hd c (List.mem_cons_of_mem d hc))
        (10 * s + (d.toNat - '0'.toNat))
      refine ⟨d :: taken, ?_, hvalue.trans Nat.ofDigitChars_cons.symm, hleft⟩
      rw [List.cons_append, ← hds]
    · refine ⟨[], rfl, rfl, Or.inr ?_⟩
      dsimp only
      omega

theorem fill_lt {s : Nat} (hs : s < UInt64.size) (ds : List Char) : (fill s ds).1 < UInt64.size := by
  induction ds generalizing s with
  | nil => exact hs
  | cons d ds ih =>
    rw [fill]
    split
    · next h => exact ih h
    · exact hs

/-- The significand, with zeros for the digits that are dropped, is near to all the digits. -/
theorem scaled_spec {n : Number} (hw : ∀ d ∈ n.whole, d.isDigit = true)
    (hf : ∀ d ∈ n.fraction, d.isDigit = true) : ∃ t k : Nat,
    n.scaled = (t, (k : Int) - n.fraction.length) ∧ t < UInt64.size ∧
      k ≤ n.whole.length + n.fraction.length ∧
      Near (t * 10 ^ k) (ofDigits (n.whole ++ n.fraction)) := by
  obtain ⟨taken, hwhole, hs, hrest⟩ := fill_spec hw 0
  obtain ⟨taken', hfraction, ht, hdropped⟩ := fill_spec hf (fill 0 n.whole).1
  have hlt : (fill (fill 0 n.whole).1 n.fraction).1 < UInt64.size := fill_lt (fill_lt (by decide) _) _
  have hscaled : n.scaled = ((fill (fill 0 n.whole).1 n.fraction).1,
      ((fill 0 n.whole).2.length : Int) - ((n.fraction.length -
        (fill (fill 0 n.whole).1 n.fraction).2.length : Nat) : Int)) := rfl
  generalize (fill 0 n.whole).2 = rest at hwhole hrest hscaled
  generalize (fill 0 n.whole).1 = s at hs hrest hfraction ht hdropped hlt hscaled
  generalize (fill s n.fraction).2 = dropped at hfraction hdropped hscaled
  generalize (fill s n.fraction).1 = t at ht hdropped hlt hscaled
  have hall : ofDigits (n.whole ++ n.fraction) = Nat.ofDigitChars 10 (rest ++ n.fraction) s := by
    rw [ofDigits, hwhole, List.append_assoc, Nat.ofDigitChars_append, ← hs]
  have hlength : n.fraction.length = taken'.length + dropped.length := by
    rw [hfraction, List.length_append]
  have hlength' : n.whole.length = taken.length + rest.length := by
    rw [hwhole, List.length_append]
  refine ⟨t, rest.length + dropped.length, ?_, hlt, by omega, ?_⟩
  · rw [hscaled]
    congr 1
    omega
  rw [hall]
  rcases hrest with rfl | hs'
  · rcases hdropped with rfl | ht'
    · -- no digit is dropped
      rw [hfraction, List.append_nil, List.nil_append, ← ht]
      simp [near_refl]
    · -- only digits of the fraction are dropped
      have hd : ∀ d ∈ dropped, d.isDigit = true := fun d h =>
        hf d (hfraction ▸ List.mem_append_right _ h)
      rw [List.nil_append, hfraction, Nat.ofDigitChars_append, ← ht, List.length_nil, Nat.zero_add]
      refine near_of_prefix ht' ⟨Nat.le_refl _, ?_⟩ (ofDigitChars_bounds hd t)
      exact Nat.mul_lt_mul_of_pos_right (Nat.lt_succ_self t) (Nat.pow_pos (by decide))
  · -- digits of the whole part are dropped, and perhaps a digit of the fraction taken in their place
    have hd : ∀ d ∈ rest ++ n.fraction, d.isDigit = true := by
      intro d h
      rcases List.mem_append.1 h with h | h
      · exact hw d (hwhole ▸ List.mem_append_right _ h)
      · exact hf d h
    have hd' : ∀ d ∈ taken', d.isDigit = true := fun d h =>
      hf d (hfraction ▸ List.mem_append_left _ h)
    obtain ⟨hlow, hhigh⟩ := ofDigitChars_bounds hd' s
    rw [← ht] at hlow hhigh
    have hpow : 10 ^ (rest ++ n.fraction).length =
        10 ^ taken'.length * 10 ^ (rest.length + dropped.length) := by
      rw [List.length_append, ← Nat.pow_add]
      congr 1
      omega
    refine near_of_prefix hs' ⟨?_, ?_⟩ (ofDigitChars_bounds hd s)
    · rw [hpow, ← Nat.mul_assoc]
      exact Nat.mul_le_mul_right _ hlow
    · rw [hpow, ← Nat.mul_assoc]
      exact Nat.mul_lt_mul_of_pos_right hhigh (Nat.pow_pos (by decide))

/-! ### Sizes -/

/-- The power of ten that the exponent stands for. -/
def exponentValue (n : Number) : Int := if n.power.1 then n.power.2 else -n.power.2

/-- What the literal denotes, without its sign. -/
def size (n : Number) : ℚ :=
  ofDigits (n.whole ++ n.fraction) * 10 ^ (n.exponentValue - n.fraction.length)

/-- The size before anything is rounded, but without the digits that are dropped. -/
def kept (n : Number) : ℚ := n.scaled.1 * 10 ^ (n.scaled.2 + n.exponentValue)

variable {n : Number}

/-- The size of a whole number. -/
theorem size_eq_natCast {k : Nat} (h : n.exponentValue - n.fraction.length = k) :
    n.size = (ofDigits (n.whole ++ n.fraction) * 10 ^ k : Nat) := by
  rw [size, h, zpow_natCast, Nat.cast_mul, Nat.cast_pow]
  rfl

theorem kept_near (hl : n.Literal) :
    2 ^ 60 * n.kept ≤ (2 ^ 60 + 1) * n.size ∧ 2 ^ 60 * n.size ≤ (2 ^ 60 + 1) * n.kept := by
  obtain ⟨t, k, hscaled, -, -, hnear⟩ := scaled_spec hl.whole_digits hl.fraction_digits
  have hkept : n.kept = (t * 10 ^ k : Nat) * 10 ^ (n.exponentValue - n.fraction.length) := by
    rw [kept, hscaled, show ((k : Int) - n.fraction.length + n.exponentValue) =
      k + (n.exponentValue - n.fraction.length) by omega, zpow_add₀ (by decide), ← mul_assoc]
    push_cast
    rfl
  have hpos : (0 : ℚ) < 10 ^ (n.exponentValue - n.fraction.length) := zpow_pos (by decide) _
  obtain ⟨hlow, hhigh⟩ := hnear
  have hlow' : (2 ^ 60 * (t * 10 ^ k : Nat) : ℚ) ≤ (2 ^ 60 + 1) * ofDigits (n.whole ++ n.fraction) :=
    mod_cast hlow
  have hhigh' : (2 ^ 60 * ofDigits (n.whole ++ n.fraction) : ℚ) ≤ (2 ^ 60 + 1) * (t * 10 ^ k : Nat) :=
    mod_cast hhigh
  rw [hkept, size]
  constructor
  · simpa only [mul_assoc] using mul_le_mul_of_nonneg_right hlow' hpos.le
  · simpa only [mul_assoc] using mul_le_mul_of_nonneg_right hhigh' hpos.le

theorem overflows_floating (hkind : n.kind = .floating) : n.overflows =
    if 0x80000000 ≤ n.power.2 then decide (n.scaled.1 ≠ 0 ∧ n.power.1 = true)
    else if 308 < n.scaled.2 + n.exponentValue then decide (n.scaled.1 ≠ 0)
    else if n.scaled.2 + n.exponentValue < 0 then false
    else decide (Double.limit ≤ Double.round n.scaled.1 *
      Double.round (Nat.pow 10 (n.scaled.2 + n.exponentValue).toNat)) := by
  have hpower : (if n.power.1 = true then n.scaled.2 + n.power.2 else n.scaled.2 - n.power.2) =
      n.scaled.2 + n.exponentValue := by
    rw [exponentValue]
    split <;> omega
  simp only [overflows, hkind, hpower]

section

variable {t : Nat} {p : Int}

theorem mul_zpow_lt (ht : t < UInt64.size) (hp : p ≤ 0) : (t : ℚ) * 10 ^ p < 2 ^ 64 := by
  have ht' : (t : ℚ) < 2 ^ 64 := mod_cast ht
  calc (t : ℚ) * 10 ^ p ≤ t * 1 :=
        mul_le_mul_of_nonneg_left (zpow_le_one_of_nonpos₀ (by norm_num) hp) (Nat.cast_nonneg t)
    _ < 2 ^ 64 := by rwa [mul_one]

/-- With a large power of ten, all depends on whether there is a digit other than zero. -/
theorem le_mul_zpow (t : Nat) (hp : 309 ≤ p) :
    t ≠ 0 ∧ (10 : ℚ) ^ 309 ≤ t * 10 ^ p ∨ t = 0 ∧ (t : ℚ) * 10 ^ p < 2 ^ 64 := by
  rcases Nat.eq_zero_or_pos t with rfl | ht
  · exact Or.inr ⟨rfl, by norm_num⟩
  · left
    refine ⟨Nat.pos_iff_ne_zero.1 ht, ?_⟩
    have ht' : (1 : ℚ) ≤ t := mod_cast ht
    calc (10 : ℚ) ^ 309 = 1 * 10 ^ (309 : Int) := by rw [one_mul]; rfl
      _ ≤ t * 10 ^ p := mul_le_mul ht' (zpow_le_zpow_right₀ (by norm_num) hp) (by positivity)
          (Nat.cast_nonneg t)

end

theorem length_le_text (n : Number) : n.whole.length + n.fraction.length ≤ n.text.length := by
  have hpoint : n.fraction.length ≤ (if n.fraction = [] then [] else '.' :: n.fraction).length := by
    split
    · next h => rw [h]
    · exact Nat.le_succ _
  simp only [text, List.length_append]
  omega

/-- How it is decided whether a floating literal is too large: by the power of ten alone, if that is
large or negative, and otherwise by the product. -/
theorem overflows_cases (hl : n.Literal) (hlen : n.text.length + 400 ≤ 2 ^ 31)
    (hkind : n.kind = .floating) :
    n.overflows = true ∧ 10 ^ 309 ≤ n.kept ∨ n.overflows = false ∧ n.kept < 2 ^ 64 ∨
      ∃ s p : Nat, n.kept = (s * p : Nat) ∧
        n.overflows = decide (Double.limit ≤ Double.round s * Double.round p) := by
  obtain ⟨t, k, hscaled, ht, hk, -⟩ := scaled_spec hl.whole_digits hl.fraction_digits
  have hlength := length_le_text n
  have hexponent : n.exponentValue = if n.power.1 then (n.power.2 : Int) else -n.power.2 := rfl
  rw [overflows_floating hkind, kept, hscaled]
  dsimp only
  generalize hp : (k : Int) - n.fraction.length + n.exponentValue = p
  split
  · cases hup : n.power.1 with
    | true =>
      rw [hup, if_pos rfl] at hexponent
      have hp : 309 ≤ p := by omega
      exact (le_mul_zpow t hp).imp (by simp) fun h => Or.inl (by simpa using h)
    | false =>
      rw [hup, if_neg Bool.false_ne_true] at hexponent
      exact Or.inr (Or.inl ⟨by simp, mul_zpow_lt ht (by omega)⟩)
  split
  · have hp : 309 ≤ p := by omega
    exact (le_mul_zpow t hp).imp (by simp) fun h => Or.inl (by simpa using h)
  split
  · exact Or.inr (Or.inl ⟨rfl, mul_zpow_lt ht (by omega)⟩)
  · refine Or.inr (Or.inr ⟨t, 10 ^ p.toNat, ?_, rfl⟩)
    have hnat : (p.toNat : Int) = p := Int.toNat_of_nonneg (by omega)
    rw [← hnat, zpow_natCast, Int.toNat_natCast]
    push_cast
    rfl

/-- What is kept as an integer is not too large. -/
theorem not_overflows_of_kind (h : n.kind ≠ .floating) : n.overflows = false := by
  rw [overflows]
  cases hkind : n.kind with
  | floating => exact absurd hkind h
  | natural k => rfl
  | negative => rfl

theorem size_lt_of_holds {z : Int} (h : n.Holds z) : n.size < 2 ^ 65 := by
  have hlt : ofDigits n.whole < 2 ^ 65 := by
    have hvalue := h.value
    have hlow := h.low
    have hhigh := h.high
    have hsigned : signedLimit = 2 ^ 63 := rfl
    have hsize : UInt64.size = 2 ^ 64 := rfl
    split at hvalue <;> omega
  have hexponent : n.exponentValue = 0 := by
    rw [exponentValue, power, h.exponent]
    rfl
  have hsize : n.size = (ofDigits n.whole : ℚ) := by
    rw [size_eq_natCast (k := 0) (by rw [hexponent, h.fraction]; rfl), h.fraction, List.append_nil,
      Nat.pow_zero, Nat.mul_one]
  rw [hsize]
  exact_mod_cast hlt

/-- A literal of three steps or more above the limit is too large. -/
theorem overflows_of_le_size (hl : n.Literal) (hlen : n.text.length + 400 ≤ 2 ^ 31)
    (h : (Double.limit : ℚ) + 3 * Double.step ≤ n.size) : n.overflows = true := by
  obtain ⟨-, hnear⟩ := kept_near hl
  have hlimit := Double.limit_step
  have hstep := Double.le_step
  by_cases hkind : n.kind = .floating
  · rcases overflows_cases hl hlen hkind with ⟨hover, -⟩ | ⟨-, hsmall⟩ | ⟨s, p, hkept, hover⟩
    · exact hover
    · exfalso
      linarith
    · have hround : (2 ^ 52 * (s * p : Nat) : ℚ) ≤
          2 ^ 52 * (Double.round s * Double.round p : Nat) + (s * p : Nat) :=
        mod_cast (Double.round_mul_bounds s p).1
      rw [hover, decide_eq_true_iff, ← @Nat.cast_le ℚ]
      linarith
  · obtain ⟨z, hz⟩ := holds_of_kind hkind
    have hsmall := size_lt_of_holds hz
    exfalso
    linarith

/-- A literal of three steps or more below the limit is not too large. -/
theorem not_overflows_of_size_le (hl : n.Literal) (hlen : n.text.length + 400 ≤ 2 ^ 31)
    (h : n.size + 3 * Double.step ≤ (Double.limit : ℚ)) : n.overflows = false := by
  obtain ⟨hnear, -⟩ := kept_near hl
  have hlimit := Double.limit_step
  have hstep := Double.le_step
  by_cases hkind : n.kind = .floating
  · rcases overflows_cases hl hlen hkind with ⟨-, hlarge⟩ | ⟨hover, -⟩ | ⟨s, p, hkept, hover⟩
    · exfalso
      linarith only [h, hlimit, hstep, hnear, Double.step_le.trans hlarge]
    · exact hover
    · have hround : (2 ^ 106 * (Double.round s * Double.round p : Nat) : ℚ) ≤
          (2 ^ 53 + 1) * (2 ^ 53 + 1) * (s * p : Nat) := mod_cast (Double.round_mul_bounds s p).2
      rw [hover, decide_eq_false_iff_not, ← @Nat.cast_le ℚ, not_le]
      linarith
  · exact not_overflows_of_kind hkind

end Json.Number
end VirtualDisplay
