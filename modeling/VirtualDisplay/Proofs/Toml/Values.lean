import VirtualDisplay.Proofs.Text.Decimal
import VirtualDisplay.Proofs.Toml.Strings
import VirtualDisplay.Toml.Document

/-! Values at the end of a line. Digits alone are a whole number: they are tried as a date and as a
floating-point number first, and are neither. -/

namespace VirtualDisplay.Toml

/-! ### Digits -/

section

variable {ds r : List Char} (hds : ∀ c ∈ ds, c.isDigit = true)
include hds

theorem readField_digits {width low high n : Nat} {cs : List Char}
    (h : readField width low high (ds ++ '\n' :: r) = some (n, cs)) :
    ∃ es, (∀ c ∈ es, c.isDigit = true) ∧ cs = es ++ '\n' :: r := by
  simp only [readField] at h
  split at h
  · next hfield =>
    obtain ⟨-, hall, -⟩ := hfield
    cases h
    -- a field that is wider takes in the line break
    have hwidth : width ≤ ds.length := by
      refine Nat.le_of_not_lt fun hlt => ?_
      obtain ⟨k, hk⟩ : ∃ k, width - ds.length = k + 1 := ⟨width - ds.length - 1, by omega⟩
      rw [List.take_append, hk, List.take_succ_cons] at hall
      have hbreak := List.all_eq_true.1 hall '\n' (by simp)
      exact absurd hbreak (by decide)
    refine ⟨ds.drop width, fun c hc => hds c (List.mem_of_mem_drop hc), ?_⟩
    rw [List.drop_append_of_le_length hwidth]
  · cases h

/-- No character of a date or a time stands behind a field of digits alone. -/
theorem expect_readField_digits {width low high n : Nat} {c : Char} {cs : List Char}
    (h : readField width low high (ds ++ '\n' :: r) = some (n, cs)) (hc : c.isDigit = false)
    (hn : c ≠ '\n') : expect c cs = none := by
  obtain ⟨es, hes, rfl⟩ := readField_digits hds h
  cases es with
  | nil => exact if_neg (Ne.symm hn)
  | cons d es =>
    refine if_neg ?_
    rintro rfl
    rw [hes d List.mem_cons_self] at hc
    cases hc

theorem readDatetime_digits : readDatetime (ds ++ '\n' :: r) = none := by
  have hdate : readDate (ds ++ '\n' :: r) = none := by
    unfold readDate
    cases h : readField 4 0 9999 (ds ++ '\n' :: r) with
    | none => rfl
    | some p => simp [expect_readField_digits hds h]
  have htime : readTime (ds ++ '\n' :: r) = none := by
    unfold readTime
    cases h : readField 2 0 23 (ds ++ '\n' :: r) with
    | none => rfl
    | some p => simp [expect_readField_digits hds h]
  rw [readDatetime, hdate, htime]

theorem moreDigits_digits : moreDigits Char.isDigit (ds ++ '\n' :: r) = (ds, '\n' :: r) := by
  induction ds with
  | nil =>
    rw [List.nil_append, moreDigits, if_neg (by decide)]
    exact nofun
  | cons d ds ih =>
    have hd := hds d List.mem_cons_self
    rw [List.cons_append, moreDigits, if_pos hd, ih fun c hc => hds c (List.mem_cons_of_mem d hc)]
    rintro _ _ rfl
    exact absurd hd (by decide)

end

theorem digits_eq_cons (n : Nat) : ∃ d ds, Text.digits n = d :: ds ∧ d.isDigit = true ∧
    (∀ c ∈ ds, c.isDigit = true) ∧ (d = '0' → ds = []) := by
  cases h : Text.digits n with
  | nil => exact absurd h (Text.digits_ne_nil n)
  | cons d ds =>
    refine ⟨d, ds, rfl, Text.isDigit_of_mem_digits (n := n) ?_,
      fun c hc => Text.isDigit_of_mem_digits (n := n) ?_, ?_⟩
    · rw [h]
      exact List.mem_cons_self
    · rw [h]
      exact List.mem_cons_of_mem d hc
    · rintro rfl
      exact Text.digits_leading_zero h

theorem readWhole_digits (n : Nat) (r : List Char) :
    readWhole (Text.digits n ++ '\n' :: r) = some (Text.digits n, '\n' :: r) := by
  obtain ⟨d, ds, hn, hd, hds, hzero⟩ := digits_eq_cons n
  rw [hn, List.cons_append]
  by_cases h : d = '0'
  · rw [h, hzero h, List.nil_append, readWhole]
  · rw [readWhole, readDigits, if_pos hd, moreDigits_digits hds]
    exact fun _ hcs => h (List.cons.inj hcs).1

theorem dropSign_digits (n : Nat) (r : List Char) :
    dropSign (Text.digits n ++ r) = (false, Text.digits n ++ r) := by
  obtain ⟨d, ds, hn, hd, -⟩ := digits_eq_cons n
  rw [hn, List.cons_append, dropSign]
  all_goals
    intro _ h
    rw [(List.cons.inj h).1] at hd
    exact absurd hd (by decide)

theorem readFloating_digits (n : Nat) (r : List Char) :
    readFloating (Text.digits n ++ '\n' :: r) = none := by
  have hspecial : readSpecial (Text.digits n ++ '\n' :: r) = none := by
    obtain ⟨d, ds, hn, hd, -⟩ := digits_eq_cons n
    rw [hn, List.cons_append, readSpecial]
    all_goals
      intro _ h
      rw [(List.cons.inj h).1] at hd
      exact absurd hd (by decide)
  simp [readFloating, dropSign_digits, hspecial, readWhole_digits, readFraction, readExponent]

theorem readInteger_digits {n : Nat} (h : n < Text.signedLimit) (r : List Char) :
    readInteger (Text.digits n ++ '\n' :: r) = some ((n : Int), '\n' :: r) := by
  have hmark : ∀ c cs, Text.digits n ++ '\n' :: r = '0' :: c :: cs → c = '\n' := by
    intro c cs hcs
    obtain ⟨d, ds, hn, -, -, hzero⟩ := digits_eq_cons n
    rw [hn, List.cons_append] at hcs
    obtain ⟨rfl, htail⟩ := List.cons.inj hcs
    rw [hzero rfl] at htail
    exact (List.cons.inj htail).1.symm
  rw [readInteger]
  · simp [dropSign_digits, readWhole_digits, h]
  all_goals
    intro cs hcs
    exact absurd (hmark _ _ hcs) (by decide)

theorem readNumeric_digits {n : Nat} (h : n < Text.signedLimit) (r : List Char) :
    readNumeric (Text.digits n ++ '\n' :: r) = some (.integer n, '\n' :: r) := by
  rw [readNumeric, readDatetime_digits fun _ => Text.isDigit_of_mem_digits, readFloating_digits,
    readInteger_digits h]
  rfl

/-! ### Values -/

/-- A text without blanks before it that is read as a value when the line ends behind it. -/
structure Denotes (text : List Char) (v : Value) : Prop where
  flush : ∀ r, dropBlanks (text ++ r) = text ++ r
  read : ∀ levels fuel r, readValue levels (fuel + 1) (text ++ '\n' :: r) = some (v, '\n' :: r)

theorem dropBlanks_cons {c : Char} (hs : c ≠ ' ') (ht : c ≠ '\t') (r : List Char) :
    dropBlanks (c :: r) = c :: r := by
  simp [dropBlanks, hs, ht]

theorem stringText_eq_cons (cs : List Char) :
    ∃ ds, stringText cs = '"' :: ds ∨ stringText cs = '\'' :: ds := by
  unfold stringText
  split
  · exact ⟨_, Or.inl rfl⟩
  · exact ⟨_, Or.inr rfl⟩
  · exact ⟨_, Or.inl rfl⟩
  · exact ⟨_, Or.inr rfl⟩

theorem denotes_string (s : String) : Denotes (stringText s.toList) (.string s) := by
  have hread (r : List Char) := readString_stringText s.toList (r := '\n' :: r) (by simp) (by simp)
  obtain ⟨ds, hs | hs⟩ := stringText_eq_cons s.toList <;> rw [hs] at hread ⊢
  all_goals
    refine ⟨fun r => dropBlanks_cons (by decide) (by decide) _, fun levels fuel r => ?_⟩
    have hstring := hread r
    rw [List.cons_append] at hstring ⊢
    rw [readValue, hstring, Option.map_some, String.ofList_toList]

theorem denotes_integer {n : Nat} (h : n < Text.signedLimit) :
    Denotes (Text.digits n) (.integer n) := by
  obtain ⟨d, ds, hn, hd, -⟩ := digits_eq_cons n
  have hne : ∀ c : Char, c.isDigit = false → d ≠ c := by
    rintro c hc rfl
    rw [hd] at hc
    cases hc
  refine ⟨fun r => ?_, fun levels fuel r => ?_⟩
  · rw [hn]
    exact dropBlanks_cons (hne _ rfl) (hne _ rfl) _
  · have hread := readNumeric_digits h r
    rw [hn, List.cons_append] at hread ⊢
    rw [readValue, hread]
    all_goals
      intro _ hcs
      exact hne _ rfl (List.cons.inj hcs).1

end VirtualDisplay.Toml
