import VirtualDisplay.Proofs.Json.Literal
import VirtualDisplay.Proofs.Json.Quoting

/-! Values as text. A value whose numbers are literals of the grammar and whose strings are text is read
back from what is written for it, in any layout. -/

namespace VirtualDisplay.Json
namespace Value

mutual

/-- Every number is a literal of the grammar, and no string holds a surrogate. -/
def Legible : Value → Prop
  | null | bool _ => True
  | number n => n.Literal
  | string s => (chars? s).isSome = true
  | array items => AllLegible items
  | object members => MembersLegible members

def AllLegible : List Value → Prop
  | [] => True
  | v :: vs => Legible v ∧ AllLegible vs

def MembersLegible : List (List Point × Value) → Prop
  | [] => True
  | (k, v) :: ms => (chars? k).isSome = true ∧ Legible v ∧ MembersLegible ms

end

end Value

/-! ### Blanks -/

theorem skip_append {bs : List Char} (hb : ∀ c ∈ bs, isSpace c = true) (cs : List Char) :
    skip (bs ++ cs) = skip cs := List.dropWhile_append_of_pos hb

theorem skip_cons {c : Char} (hc : isSpace c = false) (cs : List Char) : skip (c :: cs) = c :: cs :=
  List.dropWhile_cons_of_neg (by simp [hc])

theorem stops_of_space {c : Char} (hc : isSpace c = true) (cs : List Char) : Stops (c :: cs) := by
  simp only [isSpace, Bool.or_eq_true, decide_eq_true_eq] at hc
  rcases hc with ((rfl | rfl) | rfl) | rfl <;> exact ⟨by decide, by decide, by decide, by decide⟩

theorem stops_separator {c : Char} (hc : c = ',' ∨ c = ']' ∨ c = '}') (cs : List Char) :
    Stops (c :: cs) := by
  rcases hc with rfl | rfl | rfl <;> exact ⟨by decide, by decide, by decide, by decide⟩

/-- Blanks before something that stops a number stop it too. -/
theorem stops_append {bs cs : List Char} (hb : ∀ c ∈ bs, isSpace c = true) (hcs : Stops cs) :
    Stops (bs ++ cs) := by
  cases bs with
  | nil => exact hcs
  | cons b bs => exact stops_of_space (hb b List.mem_cons_self) _

theorem skip_blanks {bs : List Char} (hb : ∀ c ∈ bs, isSpace c = true) {c : Char}
    (hc : isSpace c = false) (cs : List Char) : skip (bs ++ c :: cs) = c :: cs := by
  rw [skip_append hb, skip_cons hc]

theorem readValue_append {bs : List Char} (hb : ∀ c ∈ bs, isSpace c = true) (n : Nat) (cs : List Char) :
    readValue n (bs ++ cs) = readValue n cs := by
  cases n with
  | zero => rfl
  | succ n => rw [readValue, readValue, skip_append hb]

theorem readItems_append {bs : List Char} (hb : ∀ c ∈ bs, isSpace c = true) (n : Nat) (cs : List Char) :
    readItems n (bs ++ cs) = readItems n cs := by
  cases n with
  | zero => rfl
  | succ n => rw [readItems, readItems, readValue_append hb]

theorem readMembers_append {bs : List Char} (hb : ∀ c ∈ bs, isSpace c = true) (n : Nat)
    (cs : List Char) : readMembers n (bs ++ cs) = readMembers n cs := by
  cases n with
  | zero => rfl
  | succ n => rw [readMembers, readMembers, skip_append hb]

/-! ### One value, by its first character -/

theorem ne_of_numberHead {c d : Char} (hc : c = '-' ∨ c.isDigit = true) (hd : d ≠ '-')
    (hdig : d.isDigit = false) : c ≠ d := by
  rintro rfl
  rcases hc with h | h
  · exact hd h
  · exact absurd (hdig ▸ h) (by decide)

theorem isSpace_numberHead {c : Char} (hc : c = '-' ∨ c.isDigit = true) : isSpace c = false := by
  have hne := fun d => ne_of_numberHead (d := d) hc
  simp [isSpace, hne ' ' (by decide) (by decide), hne '\t' (by decide) (by decide),
    hne '\n' (by decide) (by decide), hne '\r' (by decide) (by decide)]

theorem readValue_number {c : Char} (hc : c = '-' ∨ c.isDigit = true) (n : Nat) (cs : List Char) :
    readValue (n + 1) (c :: cs) = (readNumber (c :: cs)).map fun r => (.number r.1, r.2) := by
  rw [readValue, skip_cons (isSpace_numberHead hc)]
  split
  case h_7 => rfl
  all_goals
    next h => exact absurd (List.cons.inj h).1 (ne_of_numberHead hc (by decide) (by decide))

theorem readValue_string {s : List Point} (h : (chars? s).isSome = true) (n : Nat) (r : List Char) :
    readValue (n + 1) (stringText s ++ r) = some (.string s, r) := by
  rw [stringText_append, readValue, skip_cons (by decide)]
  simp [readString_flatMap h]

/-- An array whose items begin with something other than a bracket. -/
theorem readValue_array {bs cs : List Char} (hb : ∀ c ∈ bs, isSpace c = true) {c : Char}
    (hc : isSpace c = false) (hne : c ≠ ']') (n : Nat) :
    readValue (n + 1) ('[' :: (bs ++ c :: cs)) =
      (readItems n (c :: cs)).map fun r => (.array r.1, r.2) := by
  rw [readValue, skip_cons (by decide)]
  simp only [skip_blanks hb hc]
  split
  · next h => exact absurd (List.cons.inj h).1 hne
  · rfl

theorem readValue_object {bs cs : List Char} (hb : ∀ c ∈ bs, isSpace c = true) (n : Nat) :
    readValue (n + 1) ('{' :: (bs ++ '"' :: cs)) =
      (readMembers n ('"' :: cs)).map fun r => (.object r.1, r.2) := by
  rw [readValue, skip_cons (by decide)]
  simp only [skip_blanks hb (show isSpace '"' = false by decide)]
  split
  · next h => exact absurd (List.cons.inj h).1 (by decide)
  · rfl

/-- A member before a comma is read, and then the others are. -/
theorem readMembers_comma {k : List Point} (hk : (chars? k).isSome = true) {n : Nat} {v : Value}
    {cs rest others : List Char} (hv : readValue n cs = some (v, rest))
    (hrest : skip rest = ',' :: others) :
    readMembers (n + 1) (stringText k ++ ':' :: cs) =
      (readMembers n others).map fun r => ((k, v) :: r.1, r.2) := by
  rw [stringText_append, readMembers, skip_cons (by decide)]
  simp [readString_flatMap hk, skip_cons (show isSpace ':' = false by decide), hv, hrest]

/-- A member before a brace is the last one. -/
theorem readMembers_brace {k : List Point} (hk : (chars? k).isSome = true) {n : Nat} {v : Value}
    {cs rest after : List Char} (hv : readValue n cs = some (v, rest))
    (hrest : skip rest = '}' :: after) :
    readMembers (n + 1) (stringText k ++ ':' :: cs) = some ([(k, v)], after) := by
  rw [stringText_append, readMembers, skip_cons (by decide)]
  simp [readString_flatMap hk, skip_cons (show isSpace ':' = false by decide), hv, hrest]

namespace Value

/-- What is written for a value begins neither with a blank nor with a closing bracket. -/
theorem write_head (l : Layout) (level : Nat) {v : Value} (h : v.Legible) :
    ∃ c cs, v.write l level = c :: cs ∧ isSpace c = false ∧ c ≠ ']' := by
  cases v with
  | null => exact ⟨_, _, rfl, by decide, by decide⟩
  | bool b => cases b <;> exact ⟨_, _, rfl, by decide, by decide⟩
  | number n =>
    obtain ⟨c, cs, hn, hc⟩ := Number.Literal.head h
    refine ⟨c, cs, hn, ?_, ?_⟩
    · exact isSpace_numberHead hc
    · exact ne_of_numberHead hc (by decide) (by decide)
  | string s => exact ⟨_, _, rfl, by decide, by decide⟩
  | array vs => cases vs <;> exact ⟨_, _, rfl, by decide, by decide⟩
  | object ms => cases ms <;> exact ⟨_, _, rfl, by decide, by decide⟩

variable (l : Layout)

/-! ### All values. The fuel is counted in characters of the text. -/

mutual

theorem readValue_write : ∀ (v : Value) (level n : Nat) (r : List Char), v.Legible → Stops r →
    2 * (v.write l level).length ≤ n → readValue n (v.write l level ++ r) = some (v, r)
  | v, level, 0, r, h, _, hn => by
    obtain ⟨c, cs, hv, -⟩ := write_head l level h
    simp [hv] at hn
  | null, _, n + 1, r, _, _, _ => rfl
  | bool true, _, n + 1, r, _, _, _ => rfl
  | bool false, _, n + 1, r, _, _, _ => rfl
  | number x, _, n + 1, r, h, hr, _ => by
    obtain ⟨c, cs, hx, hc⟩ := Number.Literal.head h
    have hread := readNumber_text h hr
    rw [hx] at hread
    rw [write, hx, List.cons_append, readValue_number hc, ← List.cons_append, hread]
    rfl
  | string s, _, n + 1, r, h, _, _ => by
    rw [write, readValue_string h]
  | array [], _, n + 1, r, _, _, _ => rfl
  | array (v :: vs), level, n + 1, r, h, _, hn => by
    obtain ⟨c, cs, hv, hc, hne⟩ := write_head l (level + 1) h.1
    have hitems := readItems_write vs v level n r
      (fun m r => readValue_write v (level + 1) m r h.1) h.2 (by
        simp only [write, List.length_append, List.length_cons] at hn ⊢; omega)
    rw [write]
    simp only [List.cons_append, List.append_assoc, hv] at hitems ⊢
    rw [readValue_array (l.line_blank _) hc hne, hitems]
    rfl
  | object [], _, n + 1, r, _, _, _ => rfl
  | object ((k, v) :: ms), level, n + 1, r, h, _, hn => by
    have hmembers := readMembers_write ms k v level n r h.1
      (fun m r => readValue_write v (level + 1) m r h.2.1) h.2.2 (by
        simp only [write, List.length_append, List.length_cons] at hn ⊢; omega)
    rw [write]
    simp only [List.cons_append, List.append_assoc, stringText_append] at hmembers ⊢
    rw [readValue_object (l.line_blank _), hmembers]
    rfl

/-- Given that the first item is read back, so is the whole list. -/
theorem readItems_write : ∀ (vs : List Value) (v : Value) (level n : Nat) (r : List Char),
    (∀ (m : Nat) (r : List Char), Stops r → 2 * (v.write l (level + 1)).length ≤ m →
      readValue m (v.write l (level + 1) ++ r) = some (v, r)) →
    AllLegible vs → 2 * (v.write l (level + 1) ++ writeItems l level vs).length ≤ n →
    readItems n (v.write l (level + 1) ++ writeItems l level vs ++ r) = some (v :: vs, r)
  | vs, v, level, 0, r, _, _, hn => by
    cases vs <;> simp [writeItems] at hn
  | [], v, level, n + 1, r, hv, _, hn => by
    simp only [writeItems, List.length_append, List.length_cons] at hn
    rw [readItems, writeItems]
    simp only [List.append_assoc, List.cons_append, List.nil_append]
    rw [hv n _ (stops_append (l.line_blank _) (stops_separator (by decide) _)) (by omega)]
    simp [skip_blanks (l.line_blank level) (show isSpace ']' = false by decide)]
  | w :: ws, v, level, n + 1, r, hv, h, hn => by
    have hitems := readItems_write ws w level n r
      (fun m r => readValue_write w (level + 1) m r h.1) h.2 (by
        simp only [writeItems, List.length_append, List.length_cons] at hn ⊢; omega)
    simp only [writeItems, List.length_append, List.length_cons] at hn
    rw [readItems, writeItems]
    simp only [List.append_assoc, List.cons_append] at hitems ⊢
    rw [hv n _ (stops_separator (by decide) _) (by omega)]
    simp [skip_cons (show isSpace ',' = false by decide), readItems_append (l.line_blank _), hitems]

theorem readMembers_write : ∀ (ms : List (List Point × Value)) (k : List Point) (v : Value)
    (level n : Nat) (r : List Char), (chars? k).isSome = true →
    (∀ (m : Nat) (r : List Char), Stops r → 2 * (v.write l (level + 1)).length ≤ m →
      readValue m (v.write l (level + 1) ++ r) = some (v, r)) →
    MembersLegible ms → 2 * (stringText k ++ ':' :: l.space ++ v.write l (level + 1) ++
      writeMembers l level ms).length ≤ n →
    readMembers n (stringText k ++ ':' :: l.space ++ v.write l (level + 1) ++
      writeMembers l level ms ++ r) = some ((k, v) :: ms, r)
  | ms, k, v, level, 0, r, _, _, _, hn => by
    simp [stringText] at hn
  | [], k, v, level, n + 1, r, hk, hv, _, hn => by
    simp only [writeMembers, List.length_append, List.length_cons] at hn
    have hread := hv n _ (stops_append (l.line_blank level) (stops_separator (c := '}') (by decide) r))
      (by omega)
    rw [writeMembers]
    simp only [List.append_assoc, List.cons_append, List.nil_append]
    exact readMembers_brace hk ((readValue_append l.space_blank n _).trans hread)
      (skip_blanks (l.line_blank level) (by decide) r)
  | (k', w) :: ms, k, v, level, n + 1, r, hk, hv, h, hn => by
    have hmembers := readMembers_write ms k' w level n r h.1
      (fun m r => readValue_write w (level + 1) m r h.2.1) h.2.2 (by
        simp only [writeMembers, List.length_append, List.length_cons] at hn ⊢; omega)
    simp only [writeMembers, List.length_append, List.length_cons] at hn
    have hread := fun cs => hv n _ (stops_separator (c := ',') (by decide) cs) (by omega)
    rw [writeMembers]
    simp only [List.append_assoc, List.cons_append] at hmembers ⊢
    rw [readMembers_comma hk ((readValue_append l.space_blank n _).trans (hread _))
      (skip_cons (by decide) _), readMembers_append (l.line_blank _), hmembers]
    rfl

end

end Value

/-- Whatever the layout, a legible value is read back from its text. -/
theorem read_write (l : Layout) {v : Value} (h : v.Legible) : read (v.write l 0) = some v := by
  have hread := Value.readValue_write l v 0 (2 * (v.write l 0).length + 2) [] h trivial (by omega)
  rw [List.append_nil] at hread
  rw [read, hread]
  rfl

theorem readPlain_write (l : Layout) {v : Value} (h : v.Legible) (hp : v.plain = true) :
    readPlain (v.write l 0) = some v := by
  rw [readPlain, read_write l h, Option.filter_some, if_pos hp]

end VirtualDisplay.Json
