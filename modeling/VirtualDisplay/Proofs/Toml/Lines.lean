import VirtualDisplay.Proofs.Toml.Values

/-! Lines with bare keys. What is left of a text after a line is what the next lines are read from, so
a document is read from its last line up to its first. -/

namespace VirtualDisplay.Toml

variable {cs r text : List Char} {key : String} {v : Value}

/-! ### Keys -/

/-- A key that needs no quotes. -/
def Bare (key : String) : Prop := key.toList ≠ [] ∧ key.toList.all isBare = true

instance (key : String) : Decidable (Bare key) := inferInstanceAs (Decidable (_ ∧ _))

theorem Bare.eq_cons (h : Bare key) : ∃ k ks, key.toList = k :: ks ∧ isBare k = true := by
  obtain ⟨hne, hbare⟩ := h
  cases hkey : key.toList with
  | nil => exact absurd hkey hne
  | cons k ks =>
    rw [hkey, List.all_cons, Bool.and_eq_true] at hbare
    exact ⟨k, ks, rfl, hbare.1⟩

theorem ne_of_isBare {k c : Char} (hk : isBare k = true) (hc : isBare c = false) : k ≠ c := by
  rintro rfl
  rw [hk] at hc
  cases hc

theorem readPart_bare (h : Bare key) {c : Char} (hc : isBare c = false) (r : List Char) :
    readPart (key.toList ++ c :: r) = some (key, c :: r) := by
  have hbare := List.all_eq_true.1 h.2
  have htake : (key.toList ++ c :: r).takeWhile isBare = key.toList := by
    rw [List.takeWhile_append_of_pos hbare, List.takeWhile_cons_of_neg (by simp [hc]), List.append_nil]
  have hdrop : (key.toList ++ c :: r).dropWhile isBare = c :: r := by
    rw [List.dropWhile_append_of_pos hbare, List.dropWhile_cons_of_neg (by simp [hc])]
  obtain ⟨k, ks, hkey, hk⟩ := h.eq_cons
  rw [readPart, htake, hdrop]
  · rw [hkey]
    exact congrArg (fun s => some (s, c :: r)) (by rw [← hkey, String.ofList_toList])
  all_goals
    intro _ hcs
    rw [hkey] at hcs
    exact ne_of_isBare hk (by decide) (List.cons.inj hcs).1

theorem readKey_bare (h : Bare key) {c : Char} (hc : isBare c = false)
    (hdot : (dropBlanks (c :: r)).head? ≠ some '.') (parts : Nat) :
    readKey (parts + 1) (key.toList ++ c :: r) = some ([], key, dropBlanks (c :: r)) := by
  have hflush : dropBlanks (key.toList ++ c :: r) = key.toList ++ c :: r := by
    obtain ⟨k, ks, hkey, hk⟩ := h.eq_cons
    rw [hkey]
    exact dropBlanks_cons (ne_of_isBare hk (by decide)) (ne_of_isBare hk (by decide)) _
  rw [readKey, hflush, readPart_bare h hc]
  simp only [Option.bind_eq_bind, Option.bind_some]
  split
  · next hcs => exact absurd hcs (ne_cons_of_head? hdot _)
  · rfl

/-! ### Lines -/

theorem length_skipLines {inComment : Bool} (h : skipLines inComment cs = some r) :
    r.length ≤ cs.length := by
  fun_induction skipLines inComment cs <;> grind

theorem skipLines_isBare {c : Char} (hc : isBare c = true) (r : List Char) :
    skipLines false (c :: r) = some (c :: r) := by
  have hne : ∀ b, isBare b = false → c ≠ b := fun b => ne_of_isBare hc
  rw [skipLines, if_neg Bool.false_ne_true, if_neg, if_neg (hne _ rfl), if_neg (hne _ rfl)]
  · simp [hne ' ' rfl, hne '\t' rfl]
  · exact fun _ h => absurd h (hne _ rfl)
  · exact hne _ rfl

theorem readLineEnd_lineBreak (cs : List Char) : readLineEnd ('\n' :: cs) = skipLines false cs := rfl

namespace Document

variable {d d' e : Document}

/-- A document is read on through a text, without the line breaks before it, to the end. -/
def ReadsTo (d : Document) (cs : List Char) (e : Document) : Prop :=
  ∃ r, skipLines false cs = some r ∧ ∀ fuel, r.length ≤ fuel → d.readLines fuel r = some e

theorem ReadsTo.nil (d : Document) : d.ReadsTo [] d :=
  ⟨[], rfl, fun fuel _ => by cases fuel <;> rfl⟩

theorem ReadsTo.lineBreak (h : d.ReadsTo cs e) : d.ReadsTo ('\n' :: cs) e := h

/-- A line that starts at once, and the lines behind it. -/
theorem ReadsTo.line {c : Char} (hc : skipLines false (c :: text) = some (c :: text))
    (hline : d.readLine (c :: text) = (skipLines false cs).map fun r => (d', r))
    (hlength : cs.length ≤ text.length) (h : d'.ReadsTo cs e) : d.ReadsTo (c :: text) e := by
  obtain ⟨r, hr, hread⟩ := h
  refine ⟨c :: text, hc, fun fuel hfuel => ?_⟩
  have hle := length_skipLines hr
  cases fuel with
  | zero => cases hfuel
  | succ fuel =>
    rw [List.length_cons] at hfuel
    rw [readLines, hline, hr]
    · exact hread fuel (by omega)
    · exact nofun

theorem ReadsTo.heading (hkey : Bare key) (hopen : d.openTable [] key = some d')
    (h : d'.ReadsTo cs e) : d.ReadsTo ('[' :: (key.toList ++ ']' :: '\n' :: cs)) e := by
  have hread : readKey maxNesting (key.toList ++ ']' :: '\n' :: cs) =
      some ([], key, ']' :: '\n' :: cs) := readKey_bare hkey (by decide) (by simp [dropBlanks]) _
  refine .line rfl ?_ ?_ h
  · obtain ⟨k, ks, hk, hbare⟩ := hkey.eq_cons
    rw [hk, List.cons_append] at hread ⊢
    rw [readLine, hread]
    · simp only [expect, if_true, hopen, readLineEnd_lineBreak, Option.bind_eq_bind, Option.bind_some]
      exact Option.map_eq_bind.symm
    · exact fun _ h => ne_of_isBare hbare (by decide) (List.cons.inj h).1
  · simp
    omega

theorem ReadsTo.entry (hkey : Bare key) (hvalue : Denotes text v) (hadd : d.add [] key v = some d')
    (h : d'.ReadsTo cs e) : d.ReadsTo (key.toList ++ ' ' :: '=' :: ' ' :: (text ++ '\n' :: cs)) e := by
  have hread : readKey maxNesting (key.toList ++ ' ' :: '=' :: ' ' :: (text ++ '\n' :: cs)) =
      some ([], key, '=' :: ' ' :: (text ++ '\n' :: cs)) :=
    readKey_bare hkey (by decide) (by simp [dropBlanks]) _
  have hflush : dropBlanks (' ' :: (text ++ '\n' :: cs)) = text ++ '\n' :: cs := hvalue.flush _
  obtain ⟨k, ks, hk, hbare⟩ := hkey.eq_cons
  rw [hk, List.cons_append] at hread ⊢
  refine .line (skipLines_isBare hbare _) ?_ ?_ h
  · rw [readLine, hread]
    · simp only [expect, if_true, hflush, hvalue.read, hadd, readLineEnd_lineBreak,
        Option.bind_eq_bind, Option.bind_some]
      exact Option.map_eq_bind.symm
    all_goals exact fun _ h => ne_of_isBare hbare (by decide) (List.cons.inj h).1
  · simp
    omega

end Document

theorem read_of_readsTo {e : Document} (hmark : cs.head? ≠ some '\ufeff')
    (h : ({} : Document).ReadsTo cs e) : read cs = some e.entries := by
  obtain ⟨r, hr, hread⟩ := h
  rw [read]
  · simp [hr, hread r.length (Nat.le_refl _)]
  · exact ne_cons_of_head? hmark

end VirtualDisplay.Toml
