import Mathlib.Data.List.Forall2
import VirtualDisplay.Record.Loose
import VirtualDisplay.Record.Strict

/-! What either decoder of records takes, part by part. Both take a list if they take each of its items.
A member is taken by what stands under its key: the loose decoder goes by the last value there, and the
strict one wants no more than one. -/

namespace VirtualDisplay

open Json

variable {α β : Type}

/-! ### Results of several steps -/

theorem bind_eq_ok {ε : Type} {x : Except ε α} {f : α → Except ε β} {b : β} :
    (x >>= f) = .ok b ↔ ∃ a, x = .ok a ∧ f a = .ok b := by
  cases x <;> simp [bind, Except.bind]

theorem mapError_eq_ok {ε ε' : Type} {x : Except ε α} {f : ε → ε'} {a : α} :
    x.mapError f = .ok a ↔ x = .ok a := by
  cases x <;> simp [Except.mapError]

theorem mapError_eq_error {ε ε' : Type} {x : Except ε α} {f : ε → ε'} {e' : ε'} :
    x.mapError f = .error e' ↔ ∃ e, x = .error e ∧ e' = f e := by
  cases x <;> simp [Except.mapError, eq_comm]

theorem exists_of_forall₂ {R : α → β → Prop} {as : List α} {bs : List β}
    (h : List.Forall₂ R as bs) {a : α} (ha : a ∈ as) : ∃ b, R a b := by
  induction h with
  | nil => cases ha
  | cons hab _ ih =>
    rcases List.mem_cons.1 ha with rfl | ha
    · exact ⟨_, hab⟩
    · exact ih ha

/-! ### Values under a key -/

theorem Strict.valuesOf_cons (key : String) (m : List Point × Value) (ms : List (List Point × Value)) :
    valuesOf key (m :: ms) = (if m.1 = points key then [m.2] else []) ++ valuesOf key ms := by
  by_cases h : m.1 = points key <;> simp [valuesOf, h]

namespace Json

theorem member?_eq_getLast? (key : String) (ms : List (List Point × Value)) :
    member? key ms = (Strict.valuesOf key ms).getLast? := by
  induction ms with
  | nil => rfl
  | cons m ms ih =>
    rw [member?, ih, Strict.valuesOf_cons, List.getLast?_append]
    split <;> rfl

theorem Value.isNull_iff {v : Value} : v.isNull = true ↔ v = .null := by
  cases v <;> simp [isNull]

end Json

/-! ### The loose decoder -/

namespace Loose

variable {key : String} {ms : List (List Point × Value)} {build : Value → Except RecordError α} {a : α}

theorem present?_eq_some {v : Value} :
    present? key ms = some v ↔ (Strict.valuesOf key ms).getLast? = some v ∧ v.isNull = false := by
  rw [present?, member?_eq_getLast?, Option.filter_eq_some_iff]
  simp

theorem present?_eq_none :
    present? key ms = none ↔ ∀ v, (Strict.valuesOf key ms).getLast? = some v → v.isNull = true := by
  rw [present?, member?_eq_getLast?, Option.filter_eq_none_iff]
  simp

theorem required_eq_ok :
    required key build ms = .ok a ↔ ∃ v, present? key ms = some v ∧ build v = .ok a := by
  unfold required
  cases present? key ms with
  | none => simp
  | some v => simp [mapError_eq_ok]

theorem optional_eq_ok {default : α} :
    optional key default build ms = .ok a ↔
      present? key ms = none ∧ default = a ∨ ∃ v, present? key ms = some v ∧ build v = .ok a := by
  unfold optional
  cases present? key ms with
  | none => simp
  | some v => simp [mapError_eq_ok]

theorem itemsFrom_eq_ok {i : Nat} {vs : List Value} {as : List α} :
    itemsFrom build i vs = .ok as ↔ List.Forall₂ (fun v a => build v = .ok a) vs as := by
  induction vs generalizing i as with
  | nil => cases as <;> simp [itemsFrom]
  | cons v vs ih =>
    rw [itemsFrom, bind_eq_ok]
    simp only [bind_eq_ok, mapError_eq_ok, ih, pure, Except.pure, Except.ok.injEq]
    constructor
    · rintro ⟨b, hb, bs, hbs, rfl⟩
      exact .cons hb hbs
    · rintro (_ | ⟨hb, hbs⟩)
      exact ⟨_, hb, _, hbs, rfl⟩

theorem list_eq_ok {v : Value} {as : List α} :
    list build v = .ok as ↔
      ∃ vs, v = .array vs ∧ List.Forall₂ (fun v a => build v = .ok a) vs as := by
  cases v <;> simp [list, itemsFrom_eq_ok]

theorem members_eq_ok {v : Value} : members v = .ok ms ↔ v = .object ms := by
  cases v <;> simp [members]

theorem mode_eq_ok {v : Value} {r : ModeRecord} :
    mode v = .ok r ↔ ∃ ms, v = .object ms ∧ required "width" word ms = .ok r.width ∧
      required "height" word ms = .ok r.height ∧
      optional "refresh_rates" [] (list word) ms = .ok r.rates := by
  simp only [mode, bind_eq_ok, members_eq_ok, pure, Except.pure, Except.ok.injEq]
  constructor
  · rintro ⟨ms, hv, width, hwidth, height, hheight, rates, hrates, rfl⟩
    exact ⟨ms, hv, hwidth, hheight, hrates⟩
  · rintro ⟨ms, hv, hwidth, hheight, hrates⟩
    exact ⟨ms, hv, _, hwidth, _, hheight, _, hrates, rfl⟩

theorem monitor_eq_ok {v : Value} {r : MonitorRecord} :
    monitor v = .ok r ↔ ∃ ms, v = .object ms ∧ required "id" word ms = .ok r.id ∧
      optional "name" none (fun v => (text v).map some) ms = .ok r.name ∧
      optional "enabled" true boolean ms = .ok r.enabled ∧
      optional "modes" [] (list mode) ms = .ok r.modes := by
  simp only [monitor, bind_eq_ok, members_eq_ok, pure, Except.pure, Except.ok.injEq]
  constructor
  · rintro ⟨ms, hv, id, hid, name, hname, enabled, henabled, modes, hmodes, rfl⟩
    exact ⟨ms, hv, hid, hname, henabled, hmodes⟩
  · rintro ⟨ms, hv, hid, hname, henabled, hmodes⟩
    exact ⟨ms, hv, _, hid, _, hname, _, henabled, _, hmodes, rfl⟩

theorem monitors_eq_ok {v : Value} {rs : DriverState} :
    monitors v = .ok rs ↔
      ∃ vs, v = .array vs ∧ List.Forall₂ (fun v r => monitor v = .ok r) vs rs := by
  cases v <;> simp [monitors, itemsFrom_eq_ok]

theorem ofText_eq_ok {s : String} :
    ofText build s = .ok a ↔ ∃ v, readPlain s.toList = some v ∧ build v = .ok a := by
  unfold ofText
  cases readPlain s.toList <;> simp

end Loose

/-! ### The strict decoder -/

namespace Strict

variable {key : String} {ms : List (List Point × Value)} {decode : Value → Option α} {a : α}

theorem field?_eq_some {default : Option α} :
    field? key default decode ms = some a ↔
      valuesOf key ms = [] ∧ default = some a ∨ ∃ v, valuesOf key ms = [v] ∧ decode v = some a := by
  unfold field?
  split
  · next h => simp [h]
  · next h => simp [h]
  · next hn hs =>
    constructor
    · rintro ⟨⟩
    · rintro (⟨h, -⟩ | ⟨v, h, -⟩)
      · exact absurd h hn
      · exact absurd h (hs v)

theorem each?_eq_some {vs : List Value} {as : List α} :
    each? decode vs = some as ↔ List.Forall₂ (fun v a => decode v = some a) vs as := by
  induction vs generalizing as with
  | nil => cases as <;> simp [each?]
  | cons v vs ih =>
    simp only [each?, Option.bind_eq_bind, Option.bind_eq_some_iff, ih, Option.some.injEq]
    constructor
    · rintro ⟨b, hb, bs, hbs, rfl⟩
      exact .cons hb hbs
    · rintro (_ | ⟨hb, hbs⟩)
      exact ⟨_, hb, _, hbs, rfl⟩

theorem list?_eq_some {v : Value} {as : List α} :
    list? decode v = some as ↔
      ∃ vs, v = .array vs ∧ List.Forall₂ (fun v a => decode v = some a) vs as := by
  cases v <;> simp [list?, each?_eq_some]

theorem mode?_object {r : ModeRecord} :
    mode? (.object ms) = some r ↔ keysAreText ms = true ∧ field? "width" none word? ms = some r.width ∧
      field? "height" none word? ms = some r.height ∧
      field? "refresh_rates" (some []) (list? word?) ms = some r.rates := by
  rw [mode?]
  split
  · next h =>
    simp only [h, true_and, Option.bind_eq_bind, Option.bind_eq_some_iff, Option.some.injEq]
    constructor
    · rintro ⟨width, hwidth, height, hheight, rates, hrates, rfl⟩
      exact ⟨hwidth, hheight, hrates⟩
    · rintro ⟨hwidth, hheight, hrates⟩
      exact ⟨_, hwidth, _, hheight, _, hrates, rfl⟩
  · next h => simp [h]

theorem monitor?_object {r : MonitorRecord} :
    monitor? (.object ms) = some r ↔ keysAreText ms = true ∧ field? "id" none word? ms = some r.id ∧
      field? "name" (some none) name? ms = some r.name ∧
      field? "enabled" (some true) boolean? ms = some r.enabled ∧
      field? "modes" (some []) (list? mode?) ms = some r.modes := by
  rw [monitor?]
  split
  · next h =>
    simp only [h, true_and, Option.bind_eq_bind, Option.bind_eq_some_iff, Option.some.injEq]
    constructor
    · rintro ⟨id, hid, name, hname, enabled, henabled, modes, hmodes, rfl⟩
      exact ⟨hid, hname, henabled, hmodes⟩
    · rintro ⟨hid, hname, henabled, hmodes⟩
      exact ⟨_, hid, _, hname, _, henabled, _, hmodes, rfl⟩
  · next h => simp [h]

theorem ofText?_eq_some {s : String} :
    ofText? decode s = some a ↔ ∃ v, read s.toList = some v ∧ decode v = some a :=
  Option.bind_eq_some_iff

end Strict
end VirtualDisplay
