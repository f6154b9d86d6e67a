import Mathlib.Data.List.TakeWhile
import VirtualDisplay.Proofs.Json.Literal
import VirtualDisplay.Proofs.Json.Plain

/-! Numbers are read as they stand. Every number in a value that is read is a literal of the grammar, and
the text holds it word for word. -/

namespace VirtualDisplay.Json

open Value

variable {cs ds sign whole fraction exponent rest : List Char}

/-! ### Parts of a literal -/

theorem spanDigits_eq (h : spanDigits cs = (ds, rest)) :
    cs = ds ++ rest ∧ ∀ c ∈ ds, c.isDigit = true := by
  cases h
  exact ⟨List.takeWhile_append_dropWhile.symm, fun _ => List.mem_takeWhile_imp⟩

theorem readWhole_eq_some (h : readWhole cs = some (whole, rest)) : cs = whole ++ rest ∧
    (∀ c ∈ whole, c.isDigit = true) ∧ whole ≠ [] ∧ ∀ ds, whole = '0' :: ds → ds = [] := by
  unfold readWhole at h
  split at h
  · cases h
    exact ⟨rfl, List.forall_mem_singleton.2 rfl, List.cons_ne_nil _ _, by rintro ds ⟨⟩; rfl⟩
  · next cs hzero =>
    split at h
    · cases h
    · next hne =>
      obtain ⟨rfl, hdigits⟩ := spanDigits_eq (Option.some.inj h)
      refine ⟨rfl, hdigits, ?_, ?_⟩
      · rintro rfl
        exact hne rest (Option.some.inj h)
      · -- a zero in front was read by itself
        rintro ds rfl
        exact absurd rfl (hzero (ds ++ rest))

theorem readFraction_eq_some (h : readFraction cs = some (fraction, rest)) :
    cs = (if fraction = [] then [] else '.' :: fraction) ++ rest ∧
      ∀ c ∈ fraction, c.isDigit = true := by
  unfold readFraction at h
  split at h
  · split at h
    · cases h
    · next hne =>
      obtain ⟨rfl, hdigits⟩ := spanDigits_eq (Option.some.inj h)
      have hfraction : fraction ≠ [] := by
        rintro rfl
        exact hne rest (Option.some.inj h)
      exact ⟨by rw [if_neg hfraction, List.cons_append], hdigits⟩
  · cases h
    exact ⟨by rw [if_pos rfl, List.nil_append], List.forall_mem_nil _⟩

theorem readSign_eq (h : readSign cs = (sign, rest)) :
    cs = sign ++ rest ∧ (sign = [] ∨ sign = ['+'] ∨ sign = ['-']) := by
  unfold readSign at h
  split at h <;> cases h
  · exact ⟨rfl, .inr (.inl rfl)⟩
  · exact ⟨rfl, .inr (.inr rfl)⟩
  · exact ⟨rfl, .inl rfl⟩

theorem readExponent_eq_some (h : readExponent cs = some (exponent, rest)) : cs = exponent ++ rest ∧
    (exponent = [] ∨ ∃ e sign ds, exponent = e :: (sign ++ ds) ∧ (e = 'e' ∨ e = 'E') ∧
      (sign = [] ∨ sign = ['+'] ∨ sign = ['-']) ∧ ds ≠ [] ∧ ∀ c ∈ ds, c.isDigit = true) := by
  unfold readExponent at h
  split at h
  · cases h
    exact ⟨rfl, .inl rfl⟩
  · next c cs =>
    split at h
    · next hc =>
      generalize hsigned : readSign cs = signed at h
      obtain ⟨sign, after⟩ := signed
      obtain ⟨rfl, hsign⟩ := readSign_eq hsigned
      dsimp only at h
      generalize hspan : spanDigits after = spanned at h
      obtain ⟨ds, after⟩ := spanned
      obtain ⟨rfl, hdigits⟩ := spanDigits_eq hspan
      cases ds with
      | nil => cases h
      | cons d ds =>
        cases h
        refine ⟨?_, .inr ⟨c, sign, d :: ds, rfl, hc, hsign, List.cons_ne_nil d ds, hdigits⟩⟩
        simp only [List.cons_append, List.append_assoc]
    · cases h
      exact ⟨rfl, .inl rfl⟩

/-- A sign, and a number without one. -/
theorem readNumber_eq (cs : List Char) : ∃ negative unsigned,
    cs = (if negative = true then ['-'] else []) ++ unsigned ∧ readNumber cs = (do
      let (whole, cs) ← readWhole unsigned
      let (fraction, cs) ← readFraction cs
      let (exponent, cs) ← readExponent cs
      some ({ negative, whole, fraction, exponent }, cs)) := by
  unfold readNumber
  split
  next negative unsigned hsigned =>
    refine ⟨negative, unsigned, ?_, rfl⟩
    split at hsigned <;> cases hsigned <;> rfl

theorem readNumber_eq_some {n : Number} (h : readNumber cs = some (n, rest)) :
    n.Literal ∧ cs = n.text ++ rest := by
  obtain ⟨negative, unsigned, rfl, hread⟩ := readNumber_eq cs
  rw [hread] at h
  simp only [Option.bind_eq_bind, Option.bind_eq_some_iff, Option.some.injEq, Prod.exists,
    Prod.mk.injEq] at h
  obtain ⟨whole, r, hwhole, fraction, r', hfraction, exponent, r'', hexponent, rfl, rfl⟩ := h
  obtain ⟨rfl, hdigits, hne, hzero⟩ := readWhole_eq_some hwhole
  obtain ⟨rfl, hdigits'⟩ := readFraction_eq_some hfraction
  obtain ⟨rfl, hform⟩ := readExponent_eq_some hexponent
  refine ⟨⟨hdigits, hne, hzero, hdigits', hform⟩, ?_⟩
  simp only [Number.text, List.append_assoc]

/-! ### Values -/

theorem skip_suffix (cs : List Char) : skip cs <:+ cs := List.dropWhile_suffix isSpace

/-- What comes after a token that stands behind blanks. -/
theorem suffix_of_skip (token : List Char) (h : skip cs = token ++ rest) : rest <:+ cs :=
  List.IsSuffix.trans ⟨token, h.symm⟩ (skip_suffix cs)

theorem readPoints_suffix {ps : List Point} (h : readPoints cs = some (ps, rest)) : rest <:+ cs := by
  fun_induction readPoints cs generalizing ps rest with
  | case1 => cases h
  | case2 cs =>
    cases h
    exact List.suffix_cons '"' cs
  | case3 a b c d cs ih =>
    simp only [Option.bind_eq_bind, Option.bind_eq_some_iff, Prod.exists, Option.some.injEq,
      Prod.mk.injEq] at h
    obtain ⟨code, -, ps, rest, hread, -, rfl⟩ := h
    exact (ih hread).trans ⟨['\\', 'u', a, b, c, d], rfl⟩
  | case4 e cs _ ih =>
    simp only [Option.bind_eq_bind, Option.bind_eq_some_iff, Prod.exists, Option.some.injEq,
      Prod.mk.injEq] at h
    obtain ⟨c, -, ps, rest, hread, -, rfl⟩ := h
    exact (ih hread).trans ⟨['\\', e], rfl⟩
  | case5 => cases h
  | case6 c cs _ _ _ _ ih =>
    obtain ⟨⟨ps, rest⟩, hread, hpair⟩ := Option.map_eq_some_iff.1 h
    cases hpair
    exact (ih hread).trans (List.suffix_cons c cs)

theorem readString_suffix {ps : List Point} (h : readString cs = some (ps, rest)) : rest <:+ cs := by
  obtain ⟨⟨ps', rest'⟩, hpoints, hpair⟩ := Option.map_eq_some_iff.1 h
  cases hpair
  exact readPoints_suffix hpoints

/-- What comes after a part of a text, and that the numbers stand in that text. -/
structure Verbatim (cs rest : List Char) (ns : List Number) : Prop where
  suffix : rest <:+ cs
  numbers : ∀ n ∈ ns, n.Literal ∧ n.text <:+: cs

variable {mid : List Char} {ns ms : List Number}

theorem verbatim_nil (h : rest <:+ cs) : Verbatim cs rest [] := ⟨h, List.forall_mem_nil _⟩

theorem Verbatim.after (h : Verbatim mid rest ns) (hmid : mid <:+ cs) : Verbatim cs rest ns :=
  ⟨h.suffix.trans hmid, fun n hn => ⟨(h.numbers n hn).1, (h.numbers n hn).2.trans hmid.isInfix⟩⟩

theorem Verbatim.append (h : Verbatim cs mid ns) (h' : Verbatim mid rest ms) :
    Verbatim cs rest (ns ++ ms) :=
  ⟨h'.suffix.trans h.suffix, List.forall_mem_append.2 ⟨h.numbers, (h'.after h.suffix).numbers⟩⟩

/-- Whatever is read by the reader holds its numbers word for word. -/
def Keeps {α : Type} (reader : List Char → Option (α × List Char)) (numbers : α → List Number) : Prop :=
  ∀ cs a rest, reader cs = some (a, rest) → Verbatim cs rest (numbers a)

variable {fuel : Nat}

theorem keeps_readValue (items : Keeps (readItems fuel) numbersOfItems)
    (members : Keeps (readMembers fuel) numbersOfMembers) : Keeps (readValue (fuel + 1)) numbers := by
  intro cs v rest h
  unfold readValue at h
  split at h
  · next hskip =>
    cases h
    exact verbatim_nil (suffix_of_skip ['n', 'u', 'l', 'l'] hskip)
  · next hskip =>
    cases h
    exact verbatim_nil (suffix_of_skip ['t', 'r', 'u', 'e'] hskip)
  · next hskip =>
    cases h
    exact verbatim_nil (suffix_of_skip ['f', 'a', 'l', 's', 'e'] hskip)
  · next hskip =>
    obtain ⟨⟨s, rest⟩, hread, hpair⟩ := Option.map_eq_some_iff.1 h
    cases hpair
    exact verbatim_nil ((readString_suffix hread).trans (suffix_of_skip ['"'] hskip))
  · next inner hskip =>
    have hinner := suffix_of_skip ['['] hskip
    split at h
    · next hclose =>
      cases h
      exact verbatim_nil ((suffix_of_skip [']'] hclose).trans hinner)
    · obtain ⟨⟨vs, rest⟩, hread, hpair⟩ := Option.map_eq_some_iff.1 h
      cases hpair
      exact (items _ _ _ hread).after ((skip_suffix inner).trans hinner)
  · next inner hskip =>
    have hinner := suffix_of_skip ['{'] hskip
    split at h
    · next hclose =>
      cases h
      exact verbatim_nil ((suffix_of_skip ['}'] hclose).trans hinner)
    · obtain ⟨⟨ms, rest⟩, hread, hpair⟩ := Option.map_eq_some_iff.1 h
      cases hpair
      exact (members _ _ _ hread).after ((skip_suffix inner).trans hinner)
  · obtain ⟨⟨n, rest⟩, hread, hpair⟩ := Option.map_eq_some_iff.1 h
    cases hpair
    obtain ⟨hliteral, hcs⟩ := readNumber_eq_some hread
    have hnumber : Verbatim (skip cs) rest [n] := by
      rw [hcs]
      exact ⟨List.suffix_append n.text rest, fun m hm => by
        rw [List.mem_singleton.1 hm]
        exact ⟨hliteral, (List.prefix_append n.text rest).isInfix⟩⟩
    exact hnumber.after (skip_suffix cs)

theorem keeps_readItems (values : Keeps (readValue fuel) numbers)
    (items : Keeps (readItems fuel) numbersOfItems) : Keeps (readItems (fuel + 1)) numbersOfItems := by
  intro cs vs rest h
  unfold readItems at h
  simp only [Option.bind_eq_bind, Option.bind_eq_some_iff, Prod.exists] at h
  obtain ⟨v, mid, hv, h⟩ := h
  have hv := values _ _ _ hv
  split at h
  · next hskip =>
    obtain ⟨⟨vs, rest⟩, hread, hpair⟩ := Option.map_eq_some_iff.1 h
    cases hpair
    exact hv.append ((items _ _ _ hread).after (suffix_of_skip [','] hskip))
  · next hskip =>
    cases h
    exact hv.append (verbatim_nil (suffix_of_skip [']'] hskip))
  · cases h

theorem keeps_readMembers (values : Keeps (readValue fuel) numbers)
    (members : Keeps (readMembers fuel) numbersOfMembers) :
    Keeps (readMembers (fuel + 1)) numbersOfMembers := by
  intro cs ms rest h
  unfold readMembers at h
  split at h
  · next inner hskip =>
    simp only [Option.bind_eq_bind, Option.bind_eq_some_iff, Prod.exists] at h
    obtain ⟨k, mid, hk, h⟩ := h
    split at h
    · next hcolon =>
      simp only [Option.bind_eq_some_iff, Prod.exists] at h
      obtain ⟨v, mid', hv, h⟩ := h
      have hkey := ((suffix_of_skip [':'] hcolon).trans (readString_suffix hk)).trans
        (suffix_of_skip ['"'] hskip)
      have hv := (values _ _ _ hv).after hkey
      split at h
      · next hcomma =>
        obtain ⟨⟨ms, rest⟩, hread, hpair⟩ := Option.map_eq_some_iff.1 h
        cases hpair
        exact hv.append ((members _ _ _ hread).after (suffix_of_skip [','] hcomma))
      · next hclose =>
        cases h
        exact hv.append (verbatim_nil (suffix_of_skip ['}'] hclose))
      · cases h
    · cases h
  · cases h

theorem keeps_read (fuel : Nat) : Keeps (readValue fuel) numbers ∧
    Keeps (readItems fuel) numbersOfItems ∧ Keeps (readMembers fuel) numbersOfMembers := by
  induction fuel with
  | zero => exact ⟨nofun, nofun, nofun⟩
  | succ fuel ih =>
    obtain ⟨values, items, members⟩ := ih
    exact ⟨keeps_readValue items members, keeps_readItems values items,
      keeps_readMembers values members⟩

/-- The numbers of what a text is read as are literals that stand in it word for word. -/
theorem numbers_of_read {v : Value} (h : read cs = some v) :
    ∀ n ∈ v.numbers, n.Literal ∧ n.text <:+: cs := by
  unfold read at h
  split at h
  · next v' rest hread =>
    split at h
    · cases h
      exact ((keeps_read _).1 cs v rest hread).numbers
    · cases h
  · cases h

end VirtualDisplay.Json
