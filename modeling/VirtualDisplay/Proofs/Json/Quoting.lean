import VirtualDisplay.Json.Writer

/-! Strings in quotes. What is written for text without surrogates is read back as it was, whichever
characters have to be escaped. -/

namespace VirtualDisplay.Json

/-! ### Text as code points -/

@[simp] theorem chars?_map_char (cs : List Char) : chars? (cs.map .char) = some cs := by
  induction cs with
  | nil => rfl
  | cons c cs ih => simp [chars?, ih]

theorem eq_map_char_of_chars? {ps : List Point} (h : (chars? ps).isSome = true) :
    ∃ cs : List Char, ps = cs.map .char := by
  induction ps with
  | nil => exact ⟨[], rfl⟩
  | cons p ps ih =>
    cases p with
    | surrogate code => exact absurd h (by simp [chars?])
    | char c =>
      obtain ⟨cs, rfl⟩ := ih (by simpa [chars?] using h)
      exact ⟨c :: cs, rfl⟩

@[simp] theorem chars?_points (s : String) : chars? (points s) = some s.toList := chars?_map_char _

@[simp] theorem text?_points (s : String) : text? (points s) = some s := by
  simp [text?, String.ofList_toList]

@[simp] theorem points_inj {s t : String} : points s = points t ↔ s = t := by
  refine ⟨fun h => ?_, fun h => h ▸ rfl⟩
  have ht := congrArg text? h
  simpa using ht

/-! ### Escapes -/

theorem hexValue?_digitChar : ∀ d < 16, hexValue? (Nat.digitChar d) = some d := by decide

theorem hexFour?_hexText {n : Nat} (h : n < 65536) :
    hexFour? (Nat.digitChar (n / 4096 % 16)) (Nat.digitChar (n / 256 % 16))
      (Nat.digitChar (n / 16 % 16)) (Nat.digitChar (n % 16)) = some n := by
  simp only [hexFour?, hexValue?_digitChar _ (Nat.mod_lt _ (by decide : 16 > 0)), Option.bind_eq_bind,
    Option.bind_some]
  congr 1
  omega

theorem pointOf_toNat (c : Char) : pointOf c.toNat = .char c := by
  have hc : c.toNat.isValidChar := c.valid
  rw [pointOf, if_pos hc, Char.ofNat_toNat]

theorem readPoints_hex (c : Char) (h : c.toNat < 0x20) (r : List Char) :
    readPoints (['\\', 'u'] ++ hexText c.toNat ++ r) =
      (readPoints r).map fun p => (.char c :: p.1, p.2) := by
  simp only [hexText, List.cons_append, List.nil_append, readPoints,
    hexFour?_hexText (show c.toNat < 65536 by omega)]
  cases readPoints r with
  | none => rfl
  | some p => simp [pointOf_toNat]

theorem readPoints_letter {e c : Char} (h : unescape? e = some c) (r : List Char) :
    readPoints ('\\' :: e :: r) = (readPoints r).map fun p => (.char c :: p.1, p.2) := by
  rw [readPoints.eq_def]
  split
  · next hr => exact nomatch hr
  · next hr => exact absurd (List.cons.inj hr).1 (by decide)
  · next hr =>
    -- the letter of a numbered escape is none of these
    obtain ⟨rfl, -⟩ := List.cons.inj (List.cons.inj hr).2
    exact nomatch h
  · next hr =>
    obtain ⟨rfl, rfl⟩ := List.cons.inj (List.cons.inj hr).2
    rw [h]
    cases readPoints r <;> rfl
  · next hn hr =>
    obtain ⟨rfl, rfl⟩ := List.cons.inj hr
    exact absurd rfl (hn e r rfl)

theorem readPoints_raw {c : Char} (hq : c ≠ '"') (hb : c ≠ '\\') (hc : ¬ c.toNat < 0x20) (r : List Char) :
    readPoints (c :: r) = (readPoints r).map fun p => (.char c :: p.1, p.2) := by
  rw [readPoints.eq_def]
  split
  · next h => exact nomatch h
  · next h => exact absurd (List.cons.inj h).1 hq
  · next h => exact absurd (List.cons.inj h).1 hb
  · next h => exact absurd (List.cons.inj h).1 hb
  · next h =>
    obtain ⟨rfl, rfl⟩ := List.cons.inj h
    rw [if_neg (by simp [hc, hb])]

/-- One character is read back from its escape, and the rest goes on. -/
theorem readPoints_escapePoint (c : Char) (r : List Char) :
    readPoints (escapePoint (.char c) ++ r) = (readPoints r).map fun p => (.char c :: p.1, p.2) := by
  rw [escapePoint.eq_def]
  split
  case h_8 hq hb _ _ _ _ _ h =>
    cases h
    by_cases hc : c.toNat < 0x20
    · rw [if_pos hc]
      exact readPoints_hex c hc r
    · rw [if_neg hc]
      exact readPoints_raw hq hb hc r
  case h_9 h => exact nomatch h
  all_goals
    next h =>
    cases h
    exact readPoints_letter rfl r

/-! ### Whole strings -/

theorem readPoints_flatMap (cs : List Char) (r : List Char) :
    readPoints ((cs.map Point.char).flatMap escapePoint ++ '"' :: r) = some (cs.map .char, r) := by
  induction cs with
  | nil => rfl
  | cons c cs ih =>
    rw [List.map_cons, List.flatMap_cons, List.append_assoc, readPoints_escapePoint, ih]
    rfl

theorem joinSurrogates_map_char (cs : List Char) :
    joinSurrogates (cs.map Point.char) = cs.map Point.char := by
  induction cs with
  | nil => rfl
  | cons c cs ih => rw [List.map_cons, joinSurrogates, ih]; exact fun _ _ _ h => nomatch h

theorem stringText_append (s : List Point) (r : List Char) :
    stringText s ++ r = '"' :: (s.flatMap escapePoint ++ '"' :: r) := by
  simp [stringText]

theorem readString_flatMap {s : List Point} (h : (chars? s).isSome = true) (r : List Char) :
    readString (s.flatMap escapePoint ++ '"' :: r) = some (s, r) := by
  obtain ⟨cs, rfl⟩ := eq_map_char_of_chars? h
  rw [readString, readPoints_flatMap, Option.map_some, joinSurrogates_map_char]

end VirtualDisplay.Json
