import VirtualDisplay.Json.Reader
import VirtualDisplay.Proofs.Text.Decimal

/-! Number literals. A literal that follows the grammar is read back whole, provided that the text after
it does not go on with a digit, a point or an exponent. -/

namespace VirtualDisplay.Json

open Text

/-- No digit, point or exponent comes next. -/
def Stops : List Char → Prop
  | [] => True
  | c :: _ => c.isDigit = false ∧ c ≠ '.' ∧ c ≠ 'e' ∧ c ≠ 'E'

namespace Number

/-- The parts of a number spell a literal of the grammar. -/
structure Literal (n : Number) : Prop where
  whole_digits : ∀ c ∈ n.whole, c.isDigit = true
  whole_ne : n.whole ≠ []
  /-- A leading zero stands alone. -/
  whole_zero : ∀ ds, n.whole = '0' :: ds → ds = []
  fraction_digits : ∀ c ∈ n.fraction, c.isDigit = true
  exponent_form : n.exponent = [] ∨ ∃ e sign ds, n.exponent = e :: (sign ++ ds) ∧ (e = 'e' ∨ e = 'E') ∧
    (sign = [] ∨ sign = ['+'] ∨ sign = ['-']) ∧ ds ≠ [] ∧ ∀ c ∈ ds, c.isDigit = true

end Number

/-! ### Runs of digits -/

theorem spanDigits_append {ds r : List Char} (hd : ∀ c ∈ ds, c.isDigit = true)
    (hr : ∀ c cs, r = c :: cs → c.isDigit = false) : spanDigits (ds ++ r) = (ds, r) := by
  have hr' : r.takeWhile Char.isDigit = [] ∧ r.dropWhile Char.isDigit = r := by
    cases r with
    | nil => exact ⟨rfl, rfl⟩
    | cons c cs => simp [hr c cs rfl]
  rw [spanDigits, List.takeWhile_append_of_pos hd, List.dropWhile_append_of_pos hd, hr'.1, hr'.2,
    List.append_nil]

theorem readWhole_append {ds r : List Char} (hd : ∀ c ∈ ds, c.isDigit = true) (hne : ds ≠ [])
    (hz : ∀ cs, ds = '0' :: cs → cs = []) (hr : ∀ c cs, r = c :: cs → c.isDigit = false) :
    readWhole (ds ++ r) = some (ds, r) := by
  cases ds with
  | nil => exact absurd rfl hne
  | cons d ds =>
    by_cases h0 : d = '0'
    · subst h0
      rw [hz ds rfl]
      rfl
    · rw [readWhole.eq_def]
      split
      · next h => exact absurd (List.cons.inj h).1 h0
      · rw [spanDigits_append hd hr]

theorem readFraction_append {ds r : List Char} (hd : ∀ c ∈ ds, c.isDigit = true)
    (hr : ∀ c cs, r = c :: cs → c.isDigit = false ∧ c ≠ '.') :
    readFraction ((if ds = [] then [] else '.' :: ds) ++ r) = some (ds, r) := by
  cases ds with
  | nil =>
    cases r with
    | nil => rfl
    | cons c cs =>
      rw [if_pos rfl, List.nil_append, readFraction.eq_def]
      split
      · next h => exact absurd (List.cons.inj h).1 (hr c cs rfl).2
      · rfl
  | cons d ds =>
    have hs := spanDigits_append hd fun c cs h => (hr c cs h).1
    rw [if_neg (List.cons_ne_nil d ds), List.cons_append, readFraction, hs]

theorem readSign_append {sign ds : List Char} (r : List Char)
    (hs : sign = [] ∨ sign = ['+'] ∨ sign = ['-']) (hne : ds ≠ [])
    (hd : ∀ c ∈ ds, c.isDigit = true) : readSign (sign ++ (ds ++ r)) = (sign, ds ++ r) := by
  rcases hs with rfl | rfl | rfl
  · cases ds with
    | nil => exact absurd rfl hne
    | cons d ds =>
      have hdig := hd d List.mem_cons_self
      rw [List.nil_append, List.cons_append, readSign.eq_def]
      split
      · next h => exact absurd ((List.cons.inj h).1 ▸ hdig) (by decide)
      · next h => exact absurd ((List.cons.inj h).1 ▸ hdig) (by decide)
      · rfl
  · rfl
  · rfl

theorem readExponent_nil {r : List Char} (hr : Stops r) : readExponent r = some ([], r) := by
  cases r with
  | nil => rfl
  | cons c cs =>
    obtain ⟨-, -, he, hE⟩ := hr
    rw [readExponent, if_neg (by simp [he, hE])]

theorem readExponent_append {e : Char} {sign ds r : List Char} (he : e = 'e' ∨ e = 'E')
    (hs : sign = [] ∨ sign = ['+'] ∨ sign = ['-']) (hne : ds ≠ [])
    (hd : ∀ c ∈ ds, c.isDigit = true) (hr : ∀ c cs, r = c :: cs → c.isDigit = false) :
    readExponent (e :: (sign ++ ds) ++ r) = some (e :: (sign ++ ds), r) := by
  rw [List.cons_append, List.append_assoc, readExponent, if_pos he, readSign_append r hs hne hd]
  simp only [spanDigits_append hd hr]
  cases ds with
  | nil => exact absurd rfl hne
  | cons d ds => rfl

/-! ### Literals -/

theorem Number.Literal.head {n : Number} (h : n.Literal) :
    ∃ c cs, n.text = c :: cs ∧ (c = '-' ∨ c.isDigit = true) := by
  unfold Number.text
  cases n.negative with
  | true => exact ⟨_, _, rfl, .inl rfl⟩
  | false =>
    cases hw : n.whole with
    | nil => exact absurd hw h.whole_ne
    | cons d ds => exact ⟨_, _, rfl, .inr (h.whole_digits d (by simp [hw]))⟩

theorem readExponent_literal {n : Number} (h : n.Literal) {r : List Char} (hr : Stops r) :
    readExponent (n.exponent ++ r) = some (n.exponent, r) := by
  have hdig : ∀ c cs, r = c :: cs → c.isDigit = false := by
    rintro c cs rfl
    exact hr.1
  rcases h.exponent_form with he | ⟨e, sign, ds, he, hee, hs, hne, hd⟩
  · rw [he]
    exact readExponent_nil hr
  · rw [he]
    exact readExponent_append hee hs hne hd hdig

/-- After the digits of a fraction no digit comes, whether an exponent follows or not. -/
theorem exponent_append_head {n : Number} (h : n.Literal) {r : List Char} (hr : Stops r) :
    ∀ c cs, n.exponent ++ r = c :: cs → c.isDigit = false ∧ c ≠ '.' := by
  intro c cs hc
  rcases h.exponent_form with he | ⟨e, sign, ds, he, hee, -⟩
  · rw [he, List.nil_append] at hc
    subst hc
    exact ⟨hr.1, hr.2.1⟩
  · rw [he] at hc
    obtain ⟨rfl, -⟩ := List.cons.inj hc
    rcases hee with rfl | rfl <;> decide

theorem fraction_append_head {n : Number} {r : List Char}
    (hr : ∀ c cs, r = c :: cs → c.isDigit = false) :
    ∀ c cs, (if n.fraction = [] then [] else '.' :: n.fraction) ++ r = c :: cs → c.isDigit = false := by
  intro c cs hc
  split at hc
  · exact hr c cs hc
  · obtain ⟨rfl, -⟩ := List.cons.inj hc
    decide

theorem readNumber_text {n : Number} (h : n.Literal) {r : List Char} (hr : Stops r) :
    readNumber (n.text ++ r) = some (n, r) := by
  have he := exponent_append_head h hr
  have hf := fraction_append_head (n := n) fun c cs hc => (he c cs hc).1
  have whole := readWhole_append h.whole_digits h.whole_ne h.whole_zero hf
  have fraction := readFraction_append h.fraction_digits he
  have exponent := readExponent_literal h hr
  obtain ⟨negative, w, f, x⟩ := n
  cases negative with
  | true => simp_all [readNumber, Number.text]
  | false =>
    cases w with
    | nil => exact absurd rfl h.whole_ne
    | cons d ds =>
      have hd : d ≠ '-' := by
        rintro rfl
        exact absurd (h.whole_digits '-' (by simp)) (by decide)
      simp_all [readNumber, Number.text]

/-! ### Natural numbers -/

theorem Number.literal_ofNat (n : Nat) : (Number.ofNat n).Literal where
  whole_digits _ h := isDigit_of_mem_digits h
  whole_ne := digits_ne_nil n
  whole_zero _ h := digits_leading_zero h
  fraction_digits _ h := nomatch h
  exponent_form := .inl rfl

theorem Number.kind_ofNat {n : Nat} (h : n < UInt64.size) : (Number.ofNat n).kind = .natural n := by
  simp [kind, magnitude?, Number.ofNat, h]

theorem Number.overflows_ofNat {n : Nat} (h : n < UInt64.size) : (Number.ofNat n).overflows = false := by
  rw [overflows, kind_ofNat h]

end VirtualDisplay.Json
