import Mathlib
import VirtualDisplay.Proofs.Json.Overflow
import VirtualDisplay.Proofs.Record.Faults
import VirtualDisplay.Proofs.Record.Slots

/-! Which number literals are taken for an id, a width, a height or a rate. If nothing else is wrong with a
text, then the literal decides: whether it is written as an integer, which integer that is, and whether it
is too large for a double. -/

namespace VirtualDisplay

open Json Text

namespace Json.Number

/-- The literal has neither fraction nor exponent, and it denotes the integer. -/
structure Denotes (n : Number) (z : Int) : Prop where
  fraction : n.fraction = []
  exponent : n.exponent = []
  value : z = if n.negative = true then -(ofDigits n.whole : Int) else ofDigits n.whole

variable {n : Number} {z : Int}

/-- There is one way to write minus zero. -/
theorem text_eq_minus_zero (hl : n.Literal) (h : n.Denotes z) :
    n.text = ['-', '0'] ↔ n.negative = true ∧ z = 0 := by
  obtain ⟨hf, he, hvalue⟩ := h
  rw [text, hf, he, if_pos rfl, List.append_nil, List.append_nil]
  cases hneg : n.negative with
  | false =>
    refine iff_of_false (fun htext => ?_) fun h => Bool.false_ne_true h.1
    rw [if_neg Bool.false_ne_true, List.nil_append] at htext
    exact absurd (hl.whole_digits '-' (htext ▸ List.mem_cons_self)) (by decide)
  | true =>
    rw [hneg, if_pos rfl] at hvalue
    rw [if_pos rfl, List.singleton_append, List.cons_inj_right]
    constructor
    · intro hwhole
      rw [hwhole] at hvalue
      exact ⟨rfl, hvalue⟩
    · rintro ⟨-, rfl⟩
      have hzero : ofDigits n.whole = 0 := by omega
      rw [← digits_ofDigits hl.whole_digits hl.whole_ne hl.whole_zero, hzero]
      rfl

theorem holds_iff (hl : n.Literal) : n.Holds z ↔ n.Denotes z ∧ n.text ≠ ['-', '0'] ∧
    -(signedLimit : Int) ≤ z ∧ z < (UInt64.size : Int) := by
  constructor
  · intro h
    have hdenotes : n.Denotes z := ⟨h.fraction, h.exponent, h.value⟩
    refine ⟨hdenotes, fun htext => ?_, h.low, h.high⟩
    obtain ⟨hneg, hz⟩ := (text_eq_minus_zero hl hdenotes).1 htext
    exact h.nonzero hneg hz
  · rintro ⟨hdenotes, htext, hlow, hhigh⟩
    refine ⟨hdenotes.fraction, hdenotes.exponent, hdenotes.value, fun hneg hz => ?_, hlow, hhigh⟩
    exact htext ((text_eq_minus_zero hl hdenotes).2 ⟨hneg, hz⟩)

end Json.Number

/-! ### The decoder of numbers -/

namespace Loose

variable {n : Number}

theorem word_number_eq_ok (hl : n.Literal) {k : UInt32} :
    word (.number n) = .ok k ↔ n.Denotes k.toNat ∧ n.text ≠ ['-', '0'] := by
  have hk := k.toNat_lt_size
  have hsize : UInt32.size < UInt64.size := by decide
  rw [takes_word.ok_iff]
  constructor
  · rintro ⟨_, ⟨⟩, h⟩
    obtain ⟨hdenotes, htext, -⟩ := (Number.holds_iff hl).1 h
    exact ⟨hdenotes, htext⟩
  · rintro ⟨hdenotes, htext⟩
    exact ⟨n, rfl, (Number.holds_iff hl).2 ⟨hdenotes, htext, by omega, by omega⟩⟩

theorem word_number_eq_outOfRange (hl : n.Literal) {path : List PathStep} {value : String} :
    word (.number n) = .error (.outOfRange path value) ↔
      path = [] ∧ value = String.ofList n.text ∧ ∃ z, n.Denotes z ∧
        (-(signedLimit : Int) ≤ z ∧ z < 0 ∨ UInt32.size ≤ z ∧ z < UInt64.size) := by
  rw [badWord_iff]
  constructor
  · rintro (- | ⟨⟨⟩, hz, hout⟩)
    obtain ⟨hdenotes, -, hlow, hhigh⟩ := (Number.holds_iff hl).1 hz
    exact ⟨rfl, rfl, _, hdenotes, by omega⟩
  · rintro ⟨rfl, rfl, z, hdenotes, hz⟩
    have hnonzero : z ≠ 0 := by
      have hpos : 0 < UInt32.size := by decide
      omega
    have htext : n.text ≠ ['-', '0'] := fun h =>
      hnonzero ((Number.text_eq_minus_zero hl hdenotes).1 h).2
    have hholds : n.Holds z :=
      (Number.holds_iff hl).2 ⟨hdenotes, htext, by omega, by omega⟩
    exact .range rfl hholds (by omega)

theorem word_number_eq_wrongType (hl : n.Literal) {path : List PathStep} {expected : Expected} :
    word (.number n) = .error (.wrongType path expected) ↔ path = [] ∧ expected = .integer ∧
      (n.text = ['-', '0'] ∨
        ∀ z, n.Denotes z → z < -(signedLimit : Int) ∨ (UInt64.size : Int) ≤ z) := by
  have hinteger : (Value.number n).Is .integer ↔ ∃ z, n.Holds z := by
    constructor
    · rintro ⟨_, z, ⟨⟩, hz⟩
      exact ⟨z, hz⟩
    · rintro ⟨z, hz⟩
      exact ⟨n, z, rfl, hz⟩
  rw [badWord_iff]
  constructor
  · rintro (hno | -)
    refine ⟨rfl, rfl, or_iff_not_imp_left.2 fun htext z hdenotes => ?_⟩
    by_contra hz
    exact hno (hinteger.2 ⟨z, (Number.holds_iff hl).2 ⟨hdenotes, htext, by omega, by omega⟩⟩)
  · rintro ⟨rfl, rfl, h⟩
    refine .type (mt hinteger.1 ?_)
    rintro ⟨z, hz⟩
    obtain ⟨hdenotes, htext, hlow, hhigh⟩ := (Number.holds_iff hl).1 hz
    rcases h with h | h
    · exact htext h
    · have := h z hdenotes
      omega

/-- What is too large for a double is not taken for an integer. -/
theorem word_of_overflows (h : n.overflows = true) :
    word (.number n) = .error (.wrongType [] .integer) := by
  have hkind : n.kind = .floating := by
    by_contra hkind
    rw [Number.not_overflows_of_kind hkind] at h
    cases h
  rw [word, hkind]

end Loose

/-! ### Texts -/

/-- The number stands at the end of the path in the text. With something else in its place the text would
read as `w`, a value that can be held in memory. -/
def Stands (n : Number) (path : List PathStep) (t : String) (w : Value) : Prop :=
  ∃ v y, read t.toList = some v ∧ Value.Swap (.number n) y path v w ∧ w.plain = true

variable {α : Type} {build : Value → Except RecordError α} {decode : Value → Option α} {slot : Slot α}
  {n : Number} {t : String} {w : Value} {a : α}

theorem Stands.literal {path : List PathStep} (h : Stands n path t w) :
    n.Literal ∧ n.text <:+: t.toList := by
  obtain ⟨v, y, hread, hswap, -⟩ := h
  exact numbers_of_read hread n hswap.mem_numbers

theorem Stands.loose (h : Stands n slot.path t w) (hr : Reacts build decode slot) (ha : build w = .ok a) :
    Loose.ofText build t = if n.overflows = true then .error .malformed
      else ((Loose.word (.number n)).mapError (·.underAll slot.path)).map (slot.set · a) := by
  obtain ⟨v, y, hread, hswap, hplain⟩ := h
  have hv : v.plain = !n.overflows := hswap.within hplain
  rw [Loose.ofText, readPlain, hread]
  cases hover : n.overflows with
  | true =>
    rw [hover] at hv
    simp [Option.filter, hv]
  | false =>
    rw [hover] at hv
    simp [Option.filter, hv, hr.loose hswap ha]

theorem map_mapError_eq_ok {x : Except RecordError UInt32} {e : RecordError → RecordError}
    {f : UInt32 → α} {b : α} : (x.mapError e).map f = .ok b ↔ ∃ k, x = .ok k ∧ b = f k := by
  cases x <;> simp [Except.mapError, Except.map, eq_comm]

theorem map_mapError_eq_error {x : Except RecordError UInt32} {e : RecordError → RecordError}
    {f : UInt32 → α} {e' : RecordError} :
    (x.mapError e).map f = .error e' ↔ ∃ e₀, x = .error e₀ ∧ e' = e e₀ := by
  cases x <;> simp [Except.mapError, Except.map, eq_comm]

theorem Stands.loose_eq_ok (h : Stands n slot.path t w) (hr : Reacts build decode slot)
    (ha : build w = .ok a) {b : α} :
    Loose.ofText build t = .ok b ↔ ∃ k, Loose.word (.number n) = .ok k ∧ b = slot.set k a := by
  rw [h.loose hr ha]
  split
  · next hover => simp [Loose.word_of_overflows hover]
  · exact map_mapError_eq_ok

/-- The fault is that of the literal, at the end of the path. -/
theorem Stands.loose_eq_error (h : Stands n slot.path t w) (hr : Reacts build decode slot)
    (ha : build w = .ok a) {e : RecordError} :
    Loose.ofText build t = .error e ↔ n.overflows = true ∧ e = .malformed ∨ n.overflows = false ∧
      ∃ e₀, BadWord (.number n) e₀ ∧ e = e₀.underAll slot.path := by
  rw [h.loose hr ha]
  split
  · next hover => simp [hover, eq_comm]
  · next hover => simp [hover, map_mapError_eq_error, Loose.badWord_iff]

theorem Stands.strict (h : Stands n slot.path t w) (hr : Reacts build decode slot)
    (ha : decode w = some a) :
    Strict.ofText? decode t = (Strict.word? (.number n)).map (slot.set · a) := by
  obtain ⟨v, y, hread, hswap, -⟩ := h
  rw [Strict.ofText?, hread]
  exact hr.strict hswap ha

/-- How a literal in a slot decides about the text, where with something else in its place the record
would be `a`. -/
structure Decides (build : Value → Except RecordError α) (decode : Value → Option α) (slot : Slot α)
    (n : Number) (t : String) (w : Value) (a : α) : Prop where
  /-- The number is a literal of the grammar, and it is in the text as it stands. -/
  literal : n.Literal ∧ n.text <:+: t.toList
  accepted : ∀ b, Loose.ofText build t = .ok b ↔
    ∃ k : UInt32, (n.Denotes k.toNat ∧ n.text ≠ ['-', '0']) ∧ b = slot.set k a
  /-- The record has the number that the literal denotes. -/
  stored : ∀ k, slot.get? (slot.set k a) = some k
  /-- The strict decoder takes the same literals, if it takes the rest. -/
  strictly : decode w ≠ none → ∀ b, Strict.ofText? decode t = some b ↔ Loose.ofText build t = .ok b
  outOfRange : ∀ path value, Loose.ofText build t = .error (.outOfRange path value) ↔
    path = slot.path ∧ value = String.ofList n.text ∧
      ∃ z, n.Denotes z ∧ (-(signedLimit : Int) ≤ z ∧ z < 0 ∨ UInt32.size ≤ z ∧ z < UInt64.size)
  wrongType : ∀ path expected, Loose.ofText build t = .error (.wrongType path expected) ↔
    path = slot.path ∧ expected = .integer ∧ n.overflows = false ∧ (n.text = ['-', '0'] ∨
      ∀ z, n.Denotes z → z < -(signedLimit : Int) ∨ (UInt64.size : Int) ≤ z)
  malformed : Loose.ofText build t = .error .malformed ↔ n.overflows = true
  /-- Whether a literal is too large is found out by computing with doubles. This goes wrong at most
  within three steps of the limit. -/
  above : n.text.length + 400 ≤ 2 ^ 31 → (Double.limit : ℚ) + 3 * Double.step ≤ n.size →
    n.overflows = true
  below : n.text.length + 400 ≤ 2 ^ 31 → n.size + 3 * Double.step ≤ (Double.limit : ℚ) →
    n.overflows = false

theorem Reacts.decides (hr : Reacts build decode slot)
    (same : ∀ {a b}, build w = .ok a → decode w = some b → a = b)
    (h : Stands n slot.path t w) (ha : build w = .ok a) : Decides build decode slot n t w a := by
  have hl := h.literal.1
  refine { literal := h.literal, accepted := fun b => ?accepted, stored := ?stored,
           strictly := fun hne b => ?strictly, outOfRange := fun path value => ?outOfRange,
           wrongType := fun path expected => ?wrongType, malformed := ?malformed,
           above := Number.overflows_of_le_size hl, below := Number.not_overflows_of_size_le hl }
  case accepted =>
    rw [h.loose_eq_ok hr ha]
    simp only [Loose.word_number_eq_ok hl]
  case stored =>
    obtain ⟨v, y, -, hswap, -⟩ := h
    exact hr.kept hswap ha
  case strictly =>
    obtain ⟨c, hc⟩ := Option.ne_none_iff_exists'.1 hne
    cases same ha hc
    rw [h.loose_eq_ok hr ha, h.strict hr hc, Option.map_eq_some_iff]
    simp only [word_eq_ok_iff, eq_comm (b := b)]
  case outOfRange =>
    rw [h.loose_eq_error hr ha]
    constructor
    · rintro (⟨-, ⟨⟩⟩ | ⟨-, e₀, hbad, he⟩)
      have hword := Loose.badWord_iff.2 hbad
      obtain - | - := hbad
      · simp at he
      · rw [RecordError.underAll_outOfRange, List.append_nil] at he
        cases he
        exact ⟨rfl, ((Loose.word_number_eq_outOfRange hl).1 hword).2⟩
    · rintro ⟨rfl, hvalue⟩
      have hword := (Loose.word_number_eq_outOfRange hl).2 ⟨rfl, hvalue⟩
      refine .inr ⟨Bool.eq_false_iff.2 fun hover => ?_, _, Loose.badWord_iff.1 hword, by simp⟩
      rw [Loose.word_of_overflows hover] at hword
      cases hword
  case wrongType =>
    rw [h.loose_eq_error hr ha]
    constructor
    · rintro (⟨-, ⟨⟩⟩ | ⟨hover, e₀, hbad, he⟩)
      have hword := Loose.badWord_iff.2 hbad
      obtain - | - := hbad
      · rw [RecordError.underAll_wrongType, List.append_nil] at he
        cases he
        exact ⟨rfl, rfl, hover, ((Loose.word_number_eq_wrongType hl).1 hword).2.2⟩
      · simp at he
    · rintro ⟨rfl, rfl, hover, hn⟩
      have hword := (Loose.word_number_eq_wrongType hl).2 ⟨rfl, rfl, hn⟩
      exact .inr ⟨hover, _, Loose.badWord_iff.1 hword, by simp⟩
  case malformed =>
    rw [h.loose_eq_error hr ha]
    constructor
    · rintro (⟨hover, -⟩ | ⟨-, e₀, hbad, he⟩)
      · exact hover
      · obtain - | - := hbad <;> simp at he
    · exact fun hover => .inl ⟨hover, rfl⟩

/-- If nothing but a number is wrong with the text of a mode, of a monitor or of a list of monitors, then
the literal decides. It is taken if and only if it is written as an integer, not as minus zero, and 32 bits
hold it. It is out of range if it is any other integer that 64 bits hold, of the wrong type if it is not,
and the text is malformed if it is too large for a double. -/
theorem literal_decides :
    (∀ n (entry : ModeRecord.Entry) t w r, Stands n entry.slot.path t w → Loose.mode w = .ok r →
      Decides Loose.mode Strict.mode? entry.slot n t w r) ∧
    (∀ n (entry : MonitorRecord.Entry) t w r, Stands n entry.slot.path t w → Loose.monitor w = .ok r →
      Decides Loose.monitor Strict.monitor? entry.slot n t w r) ∧
    ∀ n i (entry : MonitorRecord.Entry) t w rs, Stands n (entry.slot.item i).path t w →
      Loose.monitors w = .ok rs →
      Decides Loose.monitors Strict.monitors? (entry.slot.item i) n t w rs := by
  refine ⟨fun n entry t w r h hr => ?_, fun n entry t w r h hr => ?_, fun n i entry t w rs h hr => ?_⟩
  · refine (reacts_mode entry).decides (fun ha hb => ?_) h hr
    exact Except.ok.inj (ha.symm.trans (Loose.mode_of_strict hb (ModeRecord.objects_of_loose ha)))
  · refine (reacts_monitor entry).decides (fun ha hb => ?_) h hr
    exact Except.ok.inj
      (ha.symm.trans (Loose.monitor_of_strict hb (MonitorRecord.objects_of_both ha hb)))
  · refine (reacts_monitors i entry).decides (fun ha hb => ?_) h hr
    exact Except.ok.inj
      (ha.symm.trans (Loose.monitors_of_strict hb (DriverState.objects_of_both ha hb)))

/-- The largest height, the least integer of 64 bits, and minus zero. -/
theorem literal_decides_of_three_texts :
    let height := Number.ofNat 4294967295
    let low : Number := { negative := true, whole := digits 9223372036854775808 }
    let zero : Number := { negative := true, whole := ['0'] }
    let mode := Value.ofFields [("width", .ofWord 800), ("height", .ofWord 600)]
    let monitor := Value.ofFields [("id", .ofWord 1)]
    let t := "\x7b\"width\":800,\"height\":4294967295\x7d"
    let t' := "\x7b\"id\":-9223372036854775808\x7d"
    let t'' := "[\x7b\"id\":1\x7d,\x7b\"id\":-0\x7d]"
    (Stands height [.member "height"] t mode ∧
      Loose.ofText Loose.mode t = .ok { width := 800, height := 4294967295 } ∧
      Strict.ofText? Strict.mode? t = some { width := 800, height := 4294967295 }) ∧
    (Stands low [.member "id"] t' monitor ∧
      Loose.ofText Loose.monitor t' = .error (.outOfRange [.member "id"] "-9223372036854775808")) ∧
    Stands zero [.index 1, .member "id"] t'' (.array [monitor, monitor]) ∧
      Loose.ofText Loose.monitors t'' = .error (.wrongType [.index 1, .member "id"] .integer) := by
  intro height low zero mode monitor t t' t''
  have h : Stands height [.member "height"] t mode :=
    ⟨.ofFields [("width", .ofWord 800), ("height", .number height)], .ofWord 600, by cbv,
      .member "height" [(points "width", .ofWord 800)] [] (by simp) .here, by decide +kernel⟩
  have h' : Stands low [.member "id"] t' monitor :=
    ⟨.ofFields [("id", .number low)], .ofWord 1, by cbv, .member "id" [] [] (by simp) .here,
      by decide +kernel⟩
  have h'' : Stands zero [.index 1, .member "id"] t'' (.array [monitor, monitor]) :=
    ⟨.array [monitor, .ofFields [("id", .number zero)]], .ofWord 1, by cbv,
      .index [monitor] [] (.member "id" [] [] (by simp) .here), by decide +kernel⟩
  have hmode := literal_decides.1 height .height t mode { width := 800, height := 600 } h rfl
  have hmonitor := literal_decides.2.1 low .id t' monitor { id := 1 } h' rfl
  have hmonitors := literal_decides.2.2 zero 1 .id t'' (.array [monitor, monitor])
    [{ id := 1 }, { id := 1 }] h'' rfl
  have hok : Loose.ofText Loose.mode t = .ok { width := 800, height := 4294967295 } :=
    (hmode.accepted _).2 ⟨4294967295, ⟨⟨rfl, rfl, by decide +kernel⟩, by decide +kernel⟩, rfl⟩
  have hstrict : Strict.mode? mode ≠ none := Option.some_ne_none _
  refine ⟨⟨h, hok, (hmode.strictly hstrict _).2 hok⟩, ⟨h', ?_⟩, h'', ?_⟩
  · have hlow : low.Denotes (-9223372036854775808) := ⟨rfl, rfl, by decide +kernel⟩
    exact (hmonitor.outOfRange _ _).2 ⟨rfl, by decide +kernel, _, hlow, .inl (by decide +kernel)⟩
  · exact (hmonitors.wrongType _ _).2 ⟨rfl, rfl, by decide +kernel, .inl rfl⟩

/-- Near the limit the computation with doubles goes wrong both ways: one literal that is below the limit
is found to be too large, and one above is not. -/
theorem malformed_though_below_limit :
    let below : Number :=
      { whole := ['1'], fraction := "7976931348623158".toList, exponent := "e308".toList }
    let above : Number := { whole := "179769313486231581".toList, exponent := "e291".toList }
    let w := Value.ofFields [("id", .ofWord 1)]
    let t := "\x7b\"id\":1.7976931348623158e308\x7d"
    let t' := "\x7b\"id\":179769313486231581e291\x7d"
    Loose.monitor w = .ok { id := 1 } ∧
    (Stands below [.member "id"] t w ∧ below.size < (Double.limit : ℚ) ∧
      Loose.ofText Loose.monitor t = .error .malformed) ∧
    Stands above [.member "id"] t' w ∧ (Double.limit : ℚ) ≤ above.size ∧
      Loose.ofText Loose.monitor t' = .error (.wrongType [.member "id"] .integer) := by
  intro below above w t t'
  refine ⟨rfl, ⟨?_, ?_, by decide +kernel⟩, ?_, ?_, by decide +kernel⟩
  · exact ⟨.ofFields [("id", .number below)], .ofWord 1, by cbv, .member "id" [] [] (by simp) .here,
      by decide +kernel⟩
  · rw [Number.size_eq_natCast (k := 292) (by decide +kernel), Nat.cast_lt]
    decide +kernel
  · exact ⟨.ofFields [("id", .number above)], .ofWord 1, by cbv, .member "id" [] [] (by simp) .here,
      by decide +kernel⟩
  · rw [Number.size_eq_natCast (k := 291) (by decide +kernel), Nat.cast_le]
    decide +kernel

end VirtualDisplay
