import VirtualDisplay.Proofs.Json.Plain
import VirtualDisplay.Proofs.Json.Quoting
import VirtualDisplay.Proofs.Record.Agreement
import VirtualDisplay.Wire.Decode

/-! Unions and their arms. No text is a command of both kinds, for no name belongs to both. So it does not
matter which kind a union tries first, and all that tells a union from its arms is that the text has to be
held in memory: it must not nest too deep, hold a number that is too large, or hold a string that is no
text, not even where nothing looks. -/

namespace VirtualDisplay

open Json

namespace Wire

variable {β γ δ : Type} {v : Value}

/-! ### Names -/

/-- A value that is written as a command under one of some names. -/
def Named (names : List String) (v : Value) : Prop :=
  ∃ name ∈ names, ∃ payload, split? v = some (points name, payload)

theorem Named.common {names others : List String} (h : Named names v) (h' : Named others v) :
    ∃ name ∈ names, name ∈ others := by
  obtain ⟨name, hname, payload, hv⟩ := h
  obtain ⟨other, hother, payload', hv'⟩ := h'
  have hpoints : points name = points other := congrArg Prod.fst (Option.some.inj (hv.symm.trans hv'))
  exact ⟨name, hname, points_inj.1 hpoints ▸ hother⟩

theorem named_driver {c : DriverCommand} (h : driver? v = some c) :
    Named ["Notify", "Remove", "RemoveAll"] v := by
  simp only [driver?, Option.bind_eq_bind, Option.bind_eq_some_iff] at h
  obtain ⟨⟨name, payload⟩, hv, h⟩ := h
  dsimp only at h
  split at h
  · next hname => exact ⟨"Notify", by simp, payload, hname ▸ hv⟩
  · split at h
    · next hname => exact ⟨"Remove", by simp, payload, hname ▸ hv⟩
    · split at h
      · next hname => exact ⟨"RemoveAll", by simp, payload, hname ▸ hv⟩
      · cases h

theorem named_request {c : RequestCommand} (h : request? v = some c) : Named ["State"] v := by
  simp only [request?, Option.bind_eq_bind, Option.bind_eq_some_iff] at h
  obtain ⟨⟨name, payload⟩, hv, h⟩ := h
  dsimp only at h
  split at h
  · next hname => exact ⟨"State", by simp, payload, hname ▸ hv⟩
  · cases h

theorem named_reply {c : ReplyCommand} (h : reply? v = some c) : Named ["State"] v := by
  simp only [reply?, Option.bind_eq_bind, Option.bind_eq_some_iff] at h
  obtain ⟨⟨name, payload⟩, hv, h⟩ := h
  dsimp only at h
  split at h
  · next hname => exact ⟨"State", by simp, payload, hname ▸ hv⟩
  · cases h

theorem named_event {c : EventCommand} (h : event? v = some c) : Named ["Changed"] v := by
  simp only [event?, Option.bind_eq_bind, Option.bind_eq_some_iff] at h
  obtain ⟨⟨name, payload⟩, hv, h⟩ := h
  dsimp only at h
  split at h
  · next hname => exact ⟨"Changed", by simp, payload, hname ▸ hv⟩
  · cases h

/-- Two decoders that never take the same value. -/
def Apart (first : Value → Option β) (second : Value → Option γ) : Prop :=
  ∀ v b, first v = some b → second v = none

theorem apart_of_named {first : Value → Option β} {second : Value → Option γ} {names others : List String}
    (hfirst : ∀ {v b}, first v = some b → Named names v)
    (hsecond : ∀ {v c}, second v = some c → Named others v)
    (disjoint : ∀ name ∈ names, name ∉ others) : Apart first second := by
  intro v b hb
  cases hc : second v with
  | none => rfl
  | some c =>
    obtain ⟨name, hname, hother⟩ := (hfirst hb).common (hsecond hc)
    exact absurd hother (disjoint name hname)

theorem driver_apart_request : Apart driver? request? :=
  apart_of_named named_driver named_request (by decide)

theorem reply_apart_event : Apart reply? event? :=
  apart_of_named named_reply named_event (by decide)

/-! ### Unions -/

/-- Holds a value in memory, and tries one decoder and then another. -/
def either? (first second : Value → Option δ) (v : Value) : Option δ :=
  if v.plain then (first v).or (second v) else none

/-- How a union of two kinds goes with the decoders of these kinds on a text. -/
structure Dispatches (first : Value → Option β) (second : Value → Option γ) (union : Value → Option δ)
    (inl : β → δ) (inr : γ → δ) (s : String) : Prop where
  /-- At most one of the two takes the text. -/
  apart : Strict.ofText? first s = none ∨ Strict.ofText? second s = none
  /-- The union takes it for a command of a kind if and only if the decoder of that kind does, for the
  same command, and the text can be held in memory. -/
  left : ∀ b, Strict.ofText? union s = some (inl b) ↔
    Strict.ofText? first s = some b ∧ (readPlain s.toList).isSome = true
  right : ∀ c, Strict.ofText? union s = some (inr c) ↔
    Strict.ofText? second s = some c ∧ (readPlain s.toList).isSome = true
  /-- The union might as well try the kinds the other way round. -/
  reordered : Strict.ofText? (either? (fun v => (second v).map inr) fun v => (first v).map inl) s =
    Strict.ofText? union s

section

variable {first : Value → Option β} {second : Value → Option γ} {inl : β → δ} {inr : γ → δ} {s : String}

theorem isSome_readPlain {cs : List Char} (h : read cs = some v) :
    (readPlain cs).isSome = true ↔ v.plain = true := by
  rw [readPlain, h, Option.filter_some]
  cases v.plain <;> simp

theorem either?_comm (apart : Apart first second) (v : Value) :
    either? (fun v => (second v).map inr) (fun v => (first v).map inl) v =
      either? (fun v => (first v).map inl) (fun v => (second v).map inr) v := by
  simp only [either?]
  cases hb : first v with
  | none => simp
  | some b => simp [apart v b hb]

theorem either?_inl (inj : ∀ {b b'}, inl b = inl b' → b = b') (ne : ∀ b c, inl b ≠ inr c) (b : β) :
    either? (fun v => (first v).map inl) (fun v => (second v).map inr) v = some (inl b) ↔
      first v = some b ∧ v.plain = true := by
  simp only [either?]
  split
  · next hplain =>
    cases hb : first v with
    | none => simpa [hplain] using fun c _ => Ne.symm (ne b c)
    | some b' =>
      simp only [Option.map_some, Option.some_or, Option.some.injEq, hplain, and_true]
      exact ⟨inj, congrArg inl⟩
  · next hplain => simp [hplain]

/-- A union whose arms are apart dispatches. -/
theorem Dispatches.of_apart (apart : Apart first second) (inl_inj : ∀ {b b'}, inl b = inl b' → b = b')
    (inr_inj : ∀ {c c'}, inr c = inr c' → c = c') (ne : ∀ b c, inl b ≠ inr c) (s : String) :
    Dispatches first second (either? (fun v => (first v).map inl) fun v => (second v).map inr)
      inl inr s := by
  cases hread : read s.toList with
  | none =>
    have refused {ε : Type} (decode : Value → Option ε) : Strict.ofText? decode s = none := by
      rw [Strict.ofText?, hread, Option.bind_none]
    exact ⟨Or.inl (refused _), by simp [refused], by simp [refused], by rw [refused, refused]⟩
  | some v =>
    have decoded {ε : Type} (decode : Value → Option ε) : Strict.ofText? decode s = decode v := by
      rw [Strict.ofText?, hread, Option.bind_some]
    refine ⟨?_, fun b => ?_, fun c => ?_, ?_⟩ <;> simp only [decoded]
    · cases hb : first v with
      | none => exact Or.inl rfl
      | some b => exact Or.inr (apart v b hb)
    · rw [isSome_readPlain hread]
      exact either?_inl inl_inj ne b
    · rw [isSome_readPlain hread, ← either?_comm apart]
      exact either?_inl inr_inj (fun c b h => ne b c h.symm) c
    · exact either?_comm apart v

end

/-- Either union dispatches every text to the arm whose own decoder takes it, and to it alone. All that it
asks beyond that is that the text nests at most 127 levels deep, and that none of its numbers is too large
and all of its strings are text, wherever they stand. -/
theorem unions_dispatch (s : String) :
    Dispatches driver? request? server? .driver .request s ∧
    Dispatches reply? event? client? .reply .event s ∧
    ∀ v, readPlain s.toList = some v ↔ read s.toList = some v ∧ v.depth ≤ 127 ∧
      (∀ n ∈ v.numbers, n.overflows = false) ∧ ∀ p ∈ v.strings, (chars? p).isSome = true := by
  refine ⟨.of_apart driver_apart_request ServerCommand.driver.inj ServerCommand.request.inj ?_ s,
    .of_apart reply_apart_event ClientCommand.reply.inj ClientCommand.event.inj ?_ s, fun v => ?_⟩
  · exact fun _ _ h => nomatch h
  · exact fun _ _ h => nomatch h
  · rw [readPlain_eq_some, Value.plain_iff]

/-- A command with a member that no decoder looks at, under which stands half a surrogate pair. -/
def halfPair : Value :=
  .object [(points "Notify", .array [.object [(points "id", .ofWord 1),
    (points "x", .string [.surrogate 0xd800])]])]

/-- The text of a command may be neither deep nor hold a large number, and its arm take it, and still the
union does not, for half a surrogate pair where nothing looks. -/
theorem half_pair_keeps_from_union :
    let s := "\x7b\"Notify\":[\x7b\"id\":1,\"x\":\"\\ud800\"\x7d]\x7d"
    read s.toList = some halfPair ∧ halfPair.depth ≤ 127 ∧
    (∀ n ∈ halfPair.numbers, n.overflows = false) ∧
    Strict.ofText? driver? s = some (.notify [{ id := 1 }]) ∧ Strict.ofText? server? s = none := by
  intro s
  have hread : read s.toList = some halfPair := by
    simp only [s, String.reduceToList]
    rfl
  refine ⟨hread, by decide, by decide, ?_, ?_⟩
  · rw [Strict.ofText?, hread]
    rfl
  · rw [Strict.ofText?, hread]
    rfl

end Wire
end VirtualDisplay
