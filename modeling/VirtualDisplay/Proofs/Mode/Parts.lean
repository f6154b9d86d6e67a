import Mathlib.Data.List.Forall2
import VirtualDisplay.Mode.Text
import VirtualDisplay.Proofs.Registry.Coalescing
import VirtualDisplay.Proofs.Text.Blank
import VirtualDisplay.Proofs.Text.Split

/-! Which texts stand for a mode, and what is said about the others. A text with an `x` before its first
`@` falls into a width, a height and rates in one way. It stands for a mode if all of them are numbers;
otherwise the leftmost one that is no number is reported. -/

namespace VirtualDisplay

open Text

namespace Mode

/-! ### Numbers -/

/-- The characters spell a number, with white space around it or not. -/
def Spells (cs : List Char) (n : UInt32) : Prop :=
  ∃ before word after, cs = before ++ (word ++ after) ∧ (∀ c ∈ before, isBlank c = true) ∧
    (∀ c ∈ after, isBlank c = true) ∧ Reads word n

def IsNumber (cs : List Char) : Prop := ∃ n, Spells cs n

variable {cs part : List Char} {n : UInt32} {ps : List (List Char)} {s : String}

theorem ne_nil_of_reads (h : Reads cs n) : cs ≠ [] := by
  obtain ⟨ds, rfl | rfl, hne, -⟩ := h
  · exact hne
  · exact List.cons_ne_nil _ _

theorem isBlank_of_reads (h : Reads cs n) : ∀ c ∈ cs, isBlank c = false := by
  obtain ⟨ds, hcs, -, hdigits, -⟩ := h
  have hds : ∀ d ∈ ds, isBlank d = false := fun d hd => isBlank_of_isDigit (hdigits d hd)
  rcases hcs with rfl | rfl
  · exact hds
  · exact List.forall_mem_cons.2 ⟨by decide, hds⟩

theorem number?_eq_some : number? cs = some n ↔ Spells cs n := by
  rw [number?, word?_eq_some]
  constructor
  · intro h
    obtain ⟨before, after, hcs, hb, ha⟩ := exists_trim cs
    exact ⟨before, trim cs, after, hcs, hb, ha, h⟩
  · rintro ⟨before, word, after, rfl, hb, ha, h⟩
    rw [trim_append hb (isBlank_of_reads h) (ne_nil_of_reads h) ha]
    exact h

theorem number?_eq_none : number? cs = none ↔ ¬ IsNumber cs := by
  simp only [Option.eq_none_iff_forall_ne_some, ne_eq, number?_eq_some, IsNumber, not_exists]

theorem rates?_eq_ok {rs : List Rate} : rates? ps = .ok rs ↔ List.Forall₂ Spells ps rs := by
  induction ps generalizing rs with
  | nil => cases rs <;> simp [rates?]
  | cons p ps ih =>
    rw [rates?]
    cases hp : number? p with
    | none =>
      refine ⟨nofun, ?_⟩
      rintro (_ | ⟨hr, -⟩)
      cases hp.symm.trans (number?_eq_some.2 hr)
    | some r =>
      cases hps : rates? ps with
      | error part =>
        refine ⟨nofun, ?_⟩
        rintro (_ | ⟨-, hrs⟩)
        cases hps.symm.trans (ih.2 hrs)
      | ok rs' =>
        constructor
        · rintro ⟨⟩
          exact .cons (number?_eq_some.1 hp) (ih.1 hps)
        · rintro (_ | ⟨hr, hrs⟩)
          cases hp.symm.trans (number?_eq_some.2 hr)
          cases hps.symm.trans (ih.2 hrs)
          rfl

theorem rates?_eq_error : rates? ps = .error part ↔ ∃ before rs after, ps = before ++ part :: after ∧
    List.Forall₂ Spells before rs ∧ ¬ IsNumber part := by
  induction ps with
  | nil => simp [rates?]
  | cons p ps ih =>
    rw [rates?]
    cases hp : number? p with
    | none =>
      constructor
      · rintro ⟨⟩
        exact ⟨[], [], ps, rfl, .nil, number?_eq_none.1 hp⟩
      · rintro ⟨before, rs, after, hsplit, hbefore, -⟩
        cases hbefore with
        | nil =>
          cases hsplit
          rfl
        | cons hr _ =>
          cases hsplit
          cases hp.symm.trans (number?_eq_some.2 hr)
    | some r =>
      have hstep : (rates? ps).map (r :: ·) = .error part ↔ rates? ps = .error part := by
        cases rates? ps <;> simp [Except.map]
      rw [hstep, ih]
      constructor
      · rintro ⟨before, rs, after, rfl, hbefore, hpart⟩
        exact ⟨p :: before, r :: rs, after, rfl, .cons (number?_eq_some.1 hp) hbefore, hpart⟩
      · rintro ⟨before, rs, after, hsplit, hbefore, hpart⟩
        cases hbefore with
        | nil =>
          cases hsplit
          exact absurd ⟨r, number?_eq_some.1 hp⟩ hpart
        | cons _ hbefore =>
          cases hsplit
          exact ⟨_, _, after, rfl, hbefore, hpart⟩

/-! ### Parts -/

/-- What follows the resolution: nothing, or an `@` and the rates with a slash between two. -/
def rateList : List (List Char) → List Char
  | [] => []
  | p :: ps => '@' :: ['/'].intercalate (p :: ps)

/-- How a text falls into parts: its first `@` ends the resolution, and the first `x` ends the width. -/
structure Parts (cs width height : List Char) (rates : List (List Char)) : Prop where
  spelled : cs = (width ++ 'x' :: height) ++ rateList rates
  width_x : 'x' ∉ width
  width_at : '@' ∉ width
  height_at : '@' ∉ height
  rates_slash : ∀ r ∈ rates, '/' ∉ r

variable {width height : List Char} {rates : List (List Char)}

theorem Parts.resolution_at (h : Parts cs width height rates) : '@' ∉ width ++ 'x' :: height := by
  simp [h.width_at, h.height_at]

/-- What stands before the first `@`, and what stands between slashes after it. -/
theorem Parts.cut_eq (h : Parts cs width height rates) : (cut '@' cs).1 = width ++ 'x' :: height ∧
    ((cut '@' cs).2.map (pieces '/')).getD [] = rates := by
  have hat := h.resolution_at
  obtain ⟨rfl, -, -, -, hslash⟩ := h
  cases rates with
  | nil =>
    rw [rateList, List.append_nil, cut_of_not_mem hat]
    exact ⟨rfl, rfl⟩
  | cons r rs =>
    rw [rateList, cut_append hat]
    exact ⟨rfl, pieces_intercalate hslash (List.cons_ne_nil r rs)⟩

theorem Parts.unique {width' height' : List Char} {rates' : List (List Char)}
    (h : Parts cs width height rates) (h' : Parts cs width' height' rates') :
    width = width' ∧ height = height' ∧ rates = rates' := by
  have hcut := congrArg (cut? 'x') (h.cut_eq.1.symm.trans h'.cut_eq.1)
  rw [cut?_append h.width_x, cut?_append h'.width_x, Option.some.injEq, Prod.mk.injEq] at hcut
  exact ⟨hcut.1, hcut.2, h.cut_eq.2.symm.trans h'.cut_eq.2⟩

/-- A text falls into parts if there is an `x` before its first `@`. -/
theorem exists_parts :
    (∃ width height rates, Parts cs width height rates) ↔ 'x' ∈ cs.takeWhile (· ≠ '@') := by
  constructor
  · rintro ⟨width, height, rates, h⟩
    have hat := h.resolution_at
    obtain ⟨rfl, -⟩ := h
    cases rates with
    | nil =>
      rw [rateList, List.append_nil, takeWhile_of_not_mem hat]
      simp
    | cons r rs =>
      rw [rateList, takeWhile_append hat]
      simp
  · intro h
    by_cases hat : '@' ∈ cs
    · obtain ⟨resolution, list, rfl, hfree⟩ := List.eq_append_cons_of_mem hat
      rw [takeWhile_append hfree] at h
      obtain ⟨width, height, rfl, hx⟩ := List.eq_append_cons_of_mem h
      simp only [List.mem_append, List.mem_cons, not_or] at hfree
      refine ⟨width, height, pieces '/' list, ?_, hx, hfree.1, hfree.2.2, fun r => not_mem_piece⟩
      cases hlist : pieces '/' list with
      | nil => exact absurd hlist (pieces_ne_nil '/' list)
      | cons r rs => rw [rateList, ← hlist, intercalate_pieces]
    · rw [takeWhile_of_not_mem hat] at h
      obtain ⟨width, height, rfl, hx⟩ := List.eq_append_cons_of_mem h
      simp only [List.mem_append, List.mem_cons, not_or] at hat
      exact ⟨width, height, [], by rw [rateList, List.append_nil], hx, hat.1, hat.2.2,
        List.forall_mem_nil _⟩

theorem existsUnique_parts : (∃! parts : List Char × List Char × List (List Char),
    Parts cs parts.1 parts.2.1 parts.2.2) ↔ 'x' ∈ cs.takeWhile (· ≠ '@') := by
  rw [← exists_parts]
  constructor
  · rintro ⟨parts, h, -⟩
    exact ⟨_, _, _, h⟩
  · rintro ⟨width, height, rates, h⟩
    refine ⟨(width, height, rates), h, fun parts h' => ?_⟩
    obtain ⟨hwidth, hheight, hrates⟩ := h'.unique h
    exact Prod.ext hwidth (Prod.ext hheight hrates)

/-! ### Reading -/

theorem ofText_of_parts (h : Parts s.toList width height rates) : ofText s =
    match number? width, number? height with
    | none, _ => .error (.invalidWidth s)
    | some _, none => .error (.invalidHeight s)
    | some w, some h =>
      match rates? rates with
      | .error part => .error (.invalidRate s (String.ofList part))
      | .ok rs => .ok (ofRates w h rs) := by
  obtain ⟨hresolution, hrates⟩ := h.cut_eq
  have hcut : cut? 'x' (cut '@' s.toList).1 = some (width, height) := by
    rw [hresolution, cut?_append h.width_x]
  cases hw : number? width with
  | none => simp [ofText, hcut, hw]
  | some w =>
    cases hh : number? height with
    | none => simp [ofText, hcut, hw, hh]
    | some k => cases hr : rates? rates <;> simp [ofText, hcut, hrates, hw, hh, hr]

theorem ofText_of_no_parts (h : 'x' ∉ s.toList.takeWhile (· ≠ '@')) :
    ofText s = .error (.missingSeparator s) := by
  have hcut : (cut '@' s.toList).1 = s.toList.takeWhile (· ≠ '@') := by
    by_cases hat : '@' ∈ s.toList
    · obtain ⟨resolution, list, hs, hfree⟩ := List.eq_append_cons_of_mem hat
      rw [hs, cut_append hfree, takeWhile_append hfree]
    · rw [cut_of_not_mem hat, takeWhile_of_not_mem hat]
  rw [ofText]
  simp only [hcut, cut?_of_not_mem h]

/-- What is answered for a text, by its parts from the left. -/
inductive Verdict (s : String) : Except ModeTextError Mode → Prop
  | separator (h : 'x' ∉ s.toList.takeWhile (· ≠ '@')) : Verdict s (.error (.missingSeparator s))
  | width {width height : List Char} {rates : List (List Char)}
    (hparts : Parts s.toList width height rates) (hwidth : ¬ IsNumber width) :
    Verdict s (.error (.invalidWidth s))
  | height {width height : List Char} {rates : List (List Char)}
    (hparts : Parts s.toList width height rates) (hwidth : IsNumber width)
    (hheight : ¬ IsNumber height) : Verdict s (.error (.invalidHeight s))
  | rate {width height part : List Char} {before after : List (List Char)} {rs : List Rate}
    (hparts : Parts s.toList width height (before ++ part :: after)) (hwidth : IsNumber width)
    (hheight : IsNumber height) (hbefore : List.Forall₂ Spells before rs) (hpart : ¬ IsNumber part) :
    Verdict s (.error (.invalidRate s (String.ofList part)))
  | mode {width height : List Char} {rates : List (List Char)} {rs : List Rate} {m : Mode}
    (hparts : Parts s.toList width height rates) (hwidth : Spells width m.width)
    (hheight : Spells height m.height) (hrates : List.Forall₂ Spells rates rs)
    (hdups : m.rates.rates = rs.eraseDups) : Verdict s (.ok m)

variable {answer : Except ModeTextError Mode}

theorem Verdict.ofText_eq (h : Verdict s answer) : ofText s = answer := by
  cases h with
  | separator h => exact ofText_of_no_parts h
  | width hparts hwidth => rw [ofText_of_parts hparts, number?_eq_none.2 hwidth]
  | height hparts hwidth hheight =>
    obtain ⟨w, hw⟩ := hwidth
    rw [ofText_of_parts hparts, number?_eq_some.2 hw, number?_eq_none.2 hheight]
  | rate hparts hwidth hheight hbefore hpart =>
    obtain ⟨w, hw⟩ := hwidth
    obtain ⟨h, hh⟩ := hheight
    rw [ofText_of_parts hparts, number?_eq_some.2 hw, number?_eq_some.2 hh]
    simp only [rates?_eq_error.2 ⟨_, _, _, rfl, hbefore, hpart⟩]
  | @mode _ _ _ rs m hparts hwidth hheight hrates hdups =>
    have hmode : ofRates m.width m.height rs = m := by
      have hset : RateSet.ofList rs = m.rates := RateSet.ext ((RateSet.rates_ofList rs).trans hdups.symm)
      rw [ofRates, hset]
    rw [ofText_of_parts hparts, number?_eq_some.2 hwidth, number?_eq_some.2 hheight]
    simp only [rates?_eq_ok.2 hrates, hmode]

theorem exists_verdict (s : String) : ∃ answer, Verdict s answer := by
  by_cases hx : 'x' ∈ s.toList.takeWhile (· ≠ '@')
  · obtain ⟨width, height, rates, hparts⟩ := exists_parts.2 hx
    by_cases hwidth : IsNumber width
    · by_cases hheight : IsNumber height
      · cases hrates : rates? rates with
        | error part =>
          obtain ⟨before, rs, after, rfl, hbefore, hpart⟩ := rates?_eq_error.1 hrates
          exact ⟨_, .rate hparts hwidth hheight hbefore hpart⟩
        | ok rs =>
          obtain ⟨w, hw⟩ := hwidth
          obtain ⟨h, hh⟩ := hheight
          exact ⟨.ok (ofRates w h rs), .mode hparts hw hh (rates?_eq_ok.1 hrates) (RateSet.rates_ofList rs)⟩
      · exact ⟨_, .height hparts hwidth hheight⟩
    · exact ⟨_, .width hparts hwidth⟩
  · exact ⟨_, .separator hx⟩

theorem ofText_eq_iff : ofText s = answer ↔ Verdict s answer := by
  refine ⟨?_, Verdict.ofText_eq⟩
  rintro rfl
  obtain ⟨answer, h⟩ := exists_verdict s
  rw [h.ofText_eq]
  exact h

/-- A text stands for a mode if it falls into parts and all of them are numbers: the width, the height
and the rates of the mode, of which each is kept where it comes first. -/
theorem ofText_eq_ok_iff (s : String) (m : Mode) : ofText s = .ok m ↔
    ∃ width height rates, Parts s.toList width height rates ∧
      Spells width m.width ∧ Spells height m.height ∧
      ∃ rs, List.Forall₂ Spells rates rs ∧ m.rates.rates = rs.eraseDups := by
  rw [ofText_eq_iff]
  constructor
  · rintro (_ | _ | _ | _ | ⟨hparts, hwidth, hheight, hrates, hdups⟩)
    exact ⟨_, _, _, hparts, hwidth, hheight, _, hrates, hdups⟩
  · rintro ⟨width, height, rates, hparts, hwidth, hheight, rs, hrates, hdups⟩
    exact .mode hparts hwidth hheight hrates hdups

/-- A text falls into parts in one way, unless it has no `x` before its first `@`. The fault of a text
that stands for no mode is the lack of this `x`, or else its leftmost part that is no number; and every
fault holds the text. -/
theorem reports_leftmost_fault (s t : String) :
    ((∃! parts : List Char × List Char × List (List Char),
      Parts s.toList parts.1 parts.2.1 parts.2.2) ↔ 'x' ∈ s.toList.takeWhile (· ≠ '@')) ∧
    (ofText s = .error (.missingSeparator t) ↔ t = s ∧ 'x' ∉ s.toList.takeWhile (· ≠ '@')) ∧
    (ofText s = .error (.invalidWidth t) ↔ t = s ∧ ∃ width height rates,
      Parts s.toList width height rates ∧ ¬ IsNumber width) ∧
    (ofText s = .error (.invalidHeight t) ↔ t = s ∧ ∃ width height rates,
      Parts s.toList width height rates ∧ IsNumber width ∧ ¬ IsNumber height) ∧
    ∀ rate, ofText s = .error (.invalidRate t rate) ↔ t = s ∧ ∃ width height before after,
      Parts s.toList width height (before ++ rate.toList :: after) ∧ IsNumber width ∧
      IsNumber height ∧ (∃ rs, List.Forall₂ Spells before rs) ∧ ¬ IsNumber rate.toList := by
  simp only [ofText_eq_iff]
  refine ⟨existsUnique_parts, ⟨?_, ?_⟩, ⟨?_, ?_⟩, ⟨?_, ?_⟩, fun rate => ⟨?_, ?_⟩⟩
  · rintro ⟨h⟩
    exact ⟨rfl, h⟩
  · rintro ⟨rfl, h⟩
    exact .separator h
  · rintro (_ | ⟨hparts, hwidth⟩)
    exact ⟨rfl, _, _, _, hparts, hwidth⟩
  · rintro ⟨rfl, width, height, rates, hparts, hwidth⟩
    exact .width hparts hwidth
  · rintro (_ | _ | ⟨hparts, hwidth, hheight⟩)
    exact ⟨rfl, _, _, _, hparts, hwidth, hheight⟩
  · rintro ⟨rfl, width, height, rates, hparts, hwidth, hheight⟩
    exact .height hparts hwidth hheight
  · rintro (_ | _ | _ | ⟨hparts, hwidth, hheight, hbefore, hpart⟩)
    rw [String.toList_ofList]
    exact ⟨rfl, _, _, _, _, hparts, hwidth, hheight, ⟨_, hbefore⟩, hpart⟩
  · rintro ⟨rfl, width, height, before, after, hparts, hwidth, hheight, ⟨rs, hbefore⟩, hpart⟩
    have h := Verdict.rate hparts hwidth hheight hbefore hpart
    rwa [String.ofList_toList] at h

end Mode
end VirtualDisplay
