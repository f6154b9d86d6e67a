import VirtualDisplay.Toml.Writer

/-! Strings. In whichever style a text is written, it is read back as it was, and the reader stops
where the string does. -/

namespace VirtualDisplay.Toml

theorem ne_cons_of_head? {q : Char} {r : List Char} (h : r.head? ≠ some q) (cs : List Char) :
    r ≠ q :: cs := by
  rintro rfl
  exact h rfl

/-! ### Escapes -/

theorem hexDigitValue?_digitChar :
    ∀ d < 16, hexDigitValue? (Nat.digitChar d).toUpper = some d := by decide

theorem unicode?_hexText {c : Char} (h : c.toNat < 65536) : unicode? (hexText c.toNat) = some c := by
  have hdigit : ∀ k, hexDigitValue? (Nat.digitChar (c.toNat / k % 16)).toUpper =
      some (c.toNat / k % 16) := fun k => hexDigitValue?_digitChar _ (Nat.mod_lt _ (by decide))
  have hlt : ∀ k, c.toNat / k % 16 < 16 := fun k => Nat.mod_lt _ (by decide)
  have hvalue : valueIn 16 (hexText c.toNat) = c.toNat := by
    simp only [valueIn, hexText, List.foldl_cons, List.foldl_nil, hdigit, Option.getD_some]
    omega
  have hall : (hexText c.toNat).all (isDigitIn 16) = true := by
    simp only [hexText, List.all_cons, List.all_nil, isDigitIn, hdigit, Option.any_some, hlt,
      decide_true, Bool.and_true]
  have hvalid : c.toNat.isValidChar := c.valid
  rw [unicode?, if_pos hall, hvalue, scalar?, if_pos hvalid, Char.ofNat_toNat]

/-- What a character is written as begins with no control character, and with a quote only for one. -/
theorem escape_eq_cons (c : Char) :
    ∃ d ds, escape c = d :: ds ∧ isControl d = false ∧ (d = '"' → c = '"') := by
  rw [escape.eq_def]
  split
  case h_6 =>
    cases hc : isControl c with
    | true => exact ⟨_, _, rfl, by decide, by simp⟩
    | false => exact ⟨c, [], rfl, hc, id⟩
  all_goals exact ⟨_, _, rfl, by decide, by simp⟩

theorem head?_escape {c : Char} (hq : c ≠ '"') (r : List Char) :
    (escape c ++ r).head? ≠ some '"' := by
  obtain ⟨d, ds, hd, -, hdq⟩ := escape_eq_cons c
  rw [hd]
  simpa using fun h => hq (hdq h)

/-- What the readers of text in double quotes have in common. -/
structure TakesEscapes (read : List Char → Option (List Char × List Char)) : Prop where
  letter : ∀ {e c : Char}, unescape? e = some c → ∀ r, read ('\\' :: e :: r) = before c (read r)
  code : ∀ {a b c d x : Char}, unicode? [a, b, c, d] = some x →
    ∀ r, read ('\\' :: 'u' :: a :: b :: c :: d :: r) = before x (read r)
  plain : ∀ {c : Char}, isAllowed c = true → c ≠ '\\' → c ≠ '"' →
    ∀ r, read (c :: r) = before c (read r)

theorem isAllowed_of_not_control {c : Char} (h : isControl c = false) : isAllowed c = true := by
  simp [isAllowed, h]

/-- One character is read back from its escape, and the rest goes on. -/
theorem TakesEscapes.escape {read : List Char → Option (List Char × List Char)}
    (h : TakesEscapes read) {c : Char} (hq : c ≠ '"') (hn : c ≠ '\n') (r : List Char) :
    read (Toml.escape c ++ r) = before c (read r) := by
  rw [Toml.escape.eq_def]
  split
  case h_6 _ _ _ _ hb =>
    cases hc : isControl c with
    | true =>
      rw [if_pos rfl]
      refine h.code (unicode?_hexText ?_) r
      simp [isControl] at hc
      omega
    | false =>
      rw [if_neg Bool.false_ne_true]
      exact h.plain (isAllowed_of_not_control hc) hb hq r
  all_goals exact h.letter rfl r

theorem takesEscapes_readBasic : TakesEscapes readBasic := by
  refine ⟨?_, ?_, ?_⟩
  · intro e c he r
    rw [readBasic, he]
    · rfl
    · rintro _ _ _ _ _ rfl
      exact nomatch he
    · rintro _ _ _ _ _ _ _ _ _ rfl
      exact nomatch he
  · intro a b c d x hx r
    rw [readBasic, hx]
    rfl
  · intro c hc hb hq r
    rw [readBasic, if_neg (by simp [hc, hb])]
    · exact hq
    all_goals
      intros
      contradiction

/-- A character that may stand as it is, unless it is the first of three quotes. -/
theorem readBasicLines_plain {c : Char} {r : List Char} (hc : isAllowed c = true) (hb : c ≠ '\\')
    (hr : c = '"' → ∀ cs, r ≠ '"' :: '"' :: cs) :
    readBasicLines false (c :: r) = before c (readBasicLines false r) := by
  have hcontrol : c ≠ '\r' ∧ c ≠ '\n' := by
    constructor <;> rintro rfl <;> exact absurd hc (by decide)
  rw [readBasicLines, if_neg (by simp), if_neg (by simp [hc, hb])]
  iterate 3 exact fun _ hq => hr hq _
  · exact fun _ h => absurd h hcontrol.1
  · exact hcontrol.2
  all_goals
    intros
    contradiction

theorem takesEscapes_readBasicLines : TakesEscapes (readBasicLines false) := by
  refine ⟨?_, ?_, fun hc hb hq _ => readBasicLines_plain hc hb (absurd · hq)⟩
  · intro e c he r
    have hend : endsLine (e :: r) = false := by
      unfold unescape? at he
      split at he <;> first | rfl | cases he
    rw [readBasicLines, hend, he]
    · rfl
    · rintro _ _ _ _ _ rfl
      exact nomatch he
    · rintro _ _ _ _ _ _ _ _ _ rfl
      exact nomatch he
  · intro a b c d x hx r
    rw [readBasicLines, hx]
    rfl

/-! ### One line -/

theorem readBasic_escapeAll (cs r : List Char) :
    readBasic (escapeAll cs ++ '"' :: r) = some (cs, r) := by
  induction cs using escapeAll.induct with
  | case1 => rw [escapeAll, List.nil_append, readBasic]
  | case2 cs ih =>
    rw [escapeAll, List.cons_append, List.cons_append, takesEscapes_readBasic.letter rfl, ih]
    rfl
  | case3 cs ih =>
    rw [escapeAll, List.cons_append, List.cons_append, takesEscapes_readBasic.letter rfl, ih]
    rfl
  | case4 c cs hq hn ih =>
    rw [escapeAll, List.append_assoc, takesEscapes_readBasic.escape hq hn, ih]
    · rfl
    · exact hq
    · exact hn

theorem head?_escapeAll (c : Char) (cs r : List Char) :
    (escapeAll (c :: cs) ++ r).head? ≠ some '"' := by
  rw [escapeAll.eq_def]
  split
  · next hcs => exact nomatch hcs
  · simp
  · simp
  · next hq _ hcs =>
    cases hcs
    rw [List.append_assoc]
    exact head?_escape hq _

theorem readLiteral_append {cs : List Char} (hq : '\'' ∉ cs) (hc : ∀ c ∈ cs, isAllowed c = true)
    (r : List Char) : readLiteral (cs ++ '\'' :: r) = some (cs, r) := by
  induction cs with
  | nil => rw [List.nil_append, readLiteral]
  | cons c cs ih =>
    rw [List.cons_append, readLiteral, if_pos (hc c List.mem_cons_self), ih]
    · rfl
    · exact fun h => hq (List.mem_cons_of_mem c h)
    · exact fun d h => hc d (List.mem_cons_of_mem c h)
    · rintro rfl
      exact hq List.mem_cons_self

/-! ### Many lines -/

/-- Quotes are not written in a row where one has to be escaped, or where there are none. -/
theorem head?_escapeLines {n : Nat} {c : Char} (h : c = '"' → n = 2) (cs r : List Char) :
    (escapeLines n (c :: cs) ++ r).head? ≠ some '"' := by
  rw [escapeLines.eq_def]
  split
  · next hcs => exact nomatch hcs
  · simp
  · next hn hcs =>
    cases hcs
    exact absurd (h rfl) hn
  · simp
  · next hq _ _ hcs =>
    cases hcs
    rw [List.append_assoc]
    exact head?_escape hq _

/-- A quote in the text: four or five quotes in a row if the text ends with it or with one more, and
else not three. -/
theorem readBasicLines_quote {r : List Char} (hr : r.head? ≠ some '"') {n : Nat} (hn : n < 2)
    {cs : List Char}
    (ih : readBasicLines false (escapeLines (n + 1) cs ++ '"' :: '"' :: '"' :: r) = some (cs, r)) :
    readBasicLines false ('"' :: (escapeLines (n + 1) cs ++ '"' :: '"' :: '"' :: r)) =
      some ('"' :: cs, r) := by
  have hplain (h : ∀ q, escapeLines (n + 1) cs ++ '"' :: '"' :: '"' :: r ≠ '"' :: '"' :: q) :
      readBasicLines false ('"' :: (escapeLines (n + 1) cs ++ '"' :: '"' :: '"' :: r)) =
        some ('"' :: cs, r) := by
    rw [readBasicLines_plain rfl (by decide) fun _ => h, ih]
    rfl
  rcases cs with _ | ⟨c, cs⟩
  · rw [escapeLines, List.nil_append, readBasicLines]
    exact ne_cons_of_head? hr
  · by_cases hq : c = '"' ∧ n = 0
    · obtain ⟨rfl, rfl⟩ := hq
      cases cs with
      | nil => rfl
      | cons d cs =>
        refine hplain fun q h => ?_
        rw [escapeLines, List.cons_append] at h
        · exact ne_cons_of_head? (head?_escapeLines (fun _ => rfl) cs _) _ (List.cons.inj h).2
        · exact nofun
    · refine hplain fun q h => ?_
      have htwo : c = '"' → n + 1 = 2 := by
        intro hc
        have hn0 : n ≠ 0 := fun hn0 => hq ⟨hc, hn0⟩
        omega
      exact ne_cons_of_head? (head?_escapeLines htwo cs _) _ h

theorem readBasicLines_escapeLines {r : List Char} (hr : r.head? ≠ some '"') {n : Nat} (hn : n ≤ 2)
    (cs : List Char) :
    readBasicLines false (escapeLines n cs ++ '"' :: '"' :: '"' :: r) = some (cs, r) := by
  induction n, cs using escapeLines.induct with
  | case1 n =>
    rw [escapeLines, List.nil_append, readBasicLines]
    all_goals exact fun _ => ne_cons_of_head? hr _
  | case2 cs ih =>
    rw [escapeLines, List.cons_append, List.cons_append, takesEscapes_readBasicLines.letter rfl,
      ih (Nat.zero_le 2)]
    rfl
  | case3 n cs hne ih =>
    have hlt : n < 2 := Nat.lt_of_le_of_ne hn hne
    rw [escapeLines, List.cons_append]
    · exact readBasicLines_quote hr hlt (ih hlt)
    · exact hne
  | case4 n cs ih =>
    rw [escapeLines, List.cons_append, readBasicLines, if_neg Bool.false_ne_true, ih (Nat.zero_le 2)]
    rfl
  | case5 n c cs hne hq hl ih =>
    rw [escapeLines, List.append_assoc, takesEscapes_readBasicLines.escape hq hl, ih (Nat.zero_le 2)]
    · rfl
    · exact hq
    · exact hl
    · exact hne

theorem readLiteralLines_plain {c : Char} {r : List Char} (hc : c = '\n' ∨ isAllowed c = true)
    (hr : c = '\'' → ∀ cs, r ≠ '\'' :: '\'' :: cs) :
    readLiteralLines (c :: r) = before c (readLiteralLines r) := by
  have hreturn : c ≠ '\r' := by
    rintro rfl
    exact absurd hc (by decide)
  rw [readLiteralLines, if_pos hc]
  iterate 3 exact fun _ hq => hr hq _
  exact fun _ h => absurd h hreturn

theorem hasRun_tail {q c : Char} {cs : List Char} (h : hasRun q (c :: cs) = false) :
    hasRun q cs = false := by
  rcases cs with _ | ⟨d, _ | ⟨e, cs⟩⟩
  · rfl
  · rfl
  · rw [hasRun, Bool.or_eq_false_iff] at h
    exact h.2

theorem readLiteralLines_append {cs : List Char} (hrun : hasRun '\'' cs = false)
    (hc : ∀ c ∈ cs, c = '\n' ∨ isAllowed c = true) {r : List Char} (hr : r.head? ≠ some '\'') :
    readLiteralLines (cs ++ '\'' :: '\'' :: '\'' :: r) = some (cs, r) := by
  induction cs with
  | nil =>
    rw [List.nil_append, readLiteralLines]
    all_goals exact fun _ => ne_cons_of_head? hr _
  | cons c cs ih =>
    by_cases hlast : c = '\'' ∧ (cs = [] ∨ cs = ['\''])
    · obtain ⟨rfl, rfl | rfl⟩ := hlast
      · rw [List.cons_append, List.nil_append, readLiteralLines]
        exact ne_cons_of_head? hr
      · rfl
    · rw [List.cons_append, readLiteralLines_plain (hc c List.mem_cons_self),
        ih (hasRun_tail hrun) fun d hd => hc d (List.mem_cons_of_mem c hd)]
      · rfl
      · rintro rfl q h
        rcases cs with _ | ⟨d, _ | ⟨e, cs⟩⟩
        · exact hlast ⟨rfl, Or.inl rfl⟩
        · obtain ⟨rfl, -⟩ := List.cons.inj h
          exact hlast ⟨rfl, Or.inr rfl⟩
        · obtain ⟨rfl, htail⟩ := List.cons.inj h
          obtain ⟨rfl, -⟩ := List.cons.inj htail
          simp [hasRun] at hrun

/-! ### Styles -/

theorem of_styleOf_literal {cs : List Char} (h : styleOf cs = .literal) :
    hasControl cs = false ∧ '\n' ∉ cs ∧ '\'' ∉ cs := by
  unfold styleOf at h
  split at h
  · split at h <;> cases h
  · next hcontrol =>
    split at h
    · cases h
    · split at h
      · next hliteral => exact ⟨by simpa using hcontrol, hliteral⟩
      · repeat' split at h
        all_goals cases h

theorem of_styleOf_literalLines {cs : List Char} (h : styleOf cs = .literalLines) :
    hasControl cs = false ∧ hasRun '\'' cs = false := by
  unfold styleOf at h
  split at h
  · split at h <;> cases h
  · next hcontrol =>
    iterate 3
      split at h
      · cases h
    split at h
    · next hrun => exact ⟨by simpa using hcontrol, by simpa using hrun⟩
    · split at h <;> cases h

/-- Of a text without control characters, all but line breaks may stand as it is. -/
theorem isAllowed_of_hasControl {cs : List Char} (h : hasControl cs = false) {c : Char}
    (hc : c ∈ cs) : c = '\n' ∨ isAllowed c = true := by
  have hcontrol := List.any_eq_false.1 h c hc
  by_cases hn : c = '\n'
  · exact Or.inl hn
  · right
    cases hi : isControl c with
    | false => exact isAllowed_of_not_control hi
    | true =>
      have htab : c = '\t' := by simpa [hi, hn] using hcontrol
      rw [htab]
      rfl

theorem dropLineBreak_of_head {c : Char} (hn : c ≠ '\n') (hr : c ≠ '\r') (cs : List Char) :
    dropLineBreak (c :: cs) = c :: cs := by
  rw [dropLineBreak]
  · exact fun _ h => hn (List.cons.inj h).1
  · exact fun _ h => hr (List.cons.inj h).1

theorem dropLineBreak_opening {cs text : List Char}
    (h : '\n' ∉ cs → dropLineBreak text = text) : dropLineBreak (opening cs ++ text) = text := by
  unfold opening
  split
  · rfl
  · next hcs => exact h hcs

theorem dropLineBreak_escapeLines {cs : List Char} (h : '\n' ∉ cs) (r : List Char) :
    dropLineBreak (escapeLines 0 cs ++ '"' :: r) = escapeLines 0 cs ++ '"' :: r := by
  cases cs with
  | nil => exact dropLineBreak_of_head (by decide) (by decide) r
  | cons c cs =>
    by_cases hq : c = '"'
    · subst hq
      rw [escapeLines]
      · exact dropLineBreak_of_head (by decide) (by decide) _
      · exact nofun
    · obtain ⟨d, ds, hd, hcontrol, -⟩ := escape_eq_cons c
      rw [escapeLines, hd]
      · refine dropLineBreak_of_head ?_ ?_ _ <;> rintro rfl <;> exact absurd hcontrol (by decide)
      · exact hq
      · exact fun hn => h (hn ▸ List.mem_cons_self)
      · exact nofun

theorem dropLineBreak_literal {cs : List Char} (hc : hasControl cs = false) (h : '\n' ∉ cs)
    (r : List Char) : dropLineBreak (cs ++ '\'' :: r) = cs ++ '\'' :: r := by
  cases cs with
  | nil => exact dropLineBreak_of_head (by decide) (by decide) r
  | cons c cs =>
    have hn : c ≠ '\n' := fun hn => h (hn ▸ List.mem_cons_self)
    refine dropLineBreak_of_head hn ?_ _
    rintro rfl
    simp [hasControl, isControl] at hc

theorem readString_basic (cs : List Char) {r : List Char} (hr : r.head? ≠ some '"') :
    readString ('"' :: (escapeAll cs ++ '"' :: r)) = some (cs, r) := by
  rw [readString, readBasic_escapeAll]
  intro q h
  cases cs with
  | nil => exact ne_cons_of_head? hr _ (List.cons.inj h).2
  | cons c cs => exact ne_cons_of_head? (head?_escapeAll c cs _) _ h

theorem readString_literal {cs : List Char} (hq : '\'' ∉ cs) (hc : ∀ c ∈ cs, isAllowed c = true)
    {r : List Char} (hr : r.head? ≠ some '\'') :
    readString ('\'' :: (cs ++ '\'' :: r)) = some (cs, r) := by
  rw [readString, readLiteral_append hq hc]
  intro q h
  cases cs with
  | nil => exact ne_cons_of_head? hr _ (List.cons.inj h).2
  | cons c cs =>
    obtain ⟨rfl, -⟩ := List.cons.inj h
    exact hq List.mem_cons_self

/-- Whatever a text holds, it is read back from the way it is written. -/
theorem readString_stringText (cs : List Char) {r : List Char} (hr : r.head? ≠ some '"')
    (hr' : r.head? ≠ some '\'') : readString (stringText cs ++ r) = some (cs, r) := by
  rw [stringText]
  split
  · rw [List.cons_append, List.cons_append, List.append_assoc, List.singleton_append]
    exact readString_basic cs hr
  · next hs =>
    obtain ⟨hcontrol, hn, hq⟩ := of_styleOf_literal hs
    rw [List.cons_append, List.cons_append, List.append_assoc, List.singleton_append]
    refine readString_literal hq (fun c hc => ?_) hr'
    refine (isAllowed_of_hasControl hcontrol hc).resolve_left ?_
    rintro rfl
    exact hn hc
  · simp only [List.append_assoc, List.cons_append, List.nil_append]
    rw [readString, dropLineBreak_opening fun h => dropLineBreak_escapeLines h _]
    exact readBasicLines_escapeLines hr (Nat.zero_le 2) cs
  · next hs =>
    obtain ⟨hcontrol, hrun⟩ := of_styleOf_literalLines hs
    simp only [List.append_assoc, List.cons_append, List.nil_append]
    rw [readString, dropLineBreak_opening fun h => dropLineBreak_literal hcontrol h _]
    exact readLiteralLines_append hrun (fun _ => isAllowed_of_hasControl hcontrol) hr'

end VirtualDisplay.Toml
