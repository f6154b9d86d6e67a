import Mathlib.Logic.Relation
import VirtualDisplay.Proofs.Json.Integers
import VirtualDisplay.Proofs.Record.Fields
import VirtualDisplay.Proofs.Record.Values

/-! Which values the loose decoder takes, and for which records. A value gives its record away by what
stands under each known key, and null is as good as nothing. So members that are unknown or null can be
taken out, and the decoder answers as before. -/

namespace VirtualDisplay

open Json

variable {α : Type}

/-! ### How a record is spelled -/

namespace Json

/-- Absent, or null. -/
def Omitted (key : String) (ms : List (List Point × Value)) : Prop :=
  member? key ms = none ∨ member? key ms = some .null

/-- What stands under a key spells `a`. -/
def Gives (key : String) (Is : Value → α → Prop) (ms : List (List Point × Value)) (a : α) : Prop :=
  ∃ v, member? key ms = some v ∧ Is v a

def GivesOr (default : α) (key : String) (Is : Value → α → Prop) (ms : List (List Point × Value))
    (a : α) : Prop :=
  Omitted key ms ∧ a = default ∨ Gives key Is ms a

namespace Value

def IsWord (v : Value) (k : UInt32) : Prop := ∃ n, v = number n ∧ n.Holds k.toNat

def IsFlag (v : Value) (b : Bool) : Prop := v = bool b

def IsName (v : Value) (name : Option String) : Prop := ∃ s, v = string (points s) ∧ name = some s

def IsList (Is : Value → α → Prop) (v : Value) (as : List α) : Prop :=
  ∃ vs, v = array vs ∧ List.Forall₂ Is vs as

def IsMode (v : Value) (r : ModeRecord) : Prop :=
  ∃ ms, v = object ms ∧ Gives "width" IsWord ms r.width ∧ Gives "height" IsWord ms r.height ∧
    GivesOr [] "refresh_rates" (IsList IsWord) ms r.rates

def IsMonitor (v : Value) (r : MonitorRecord) : Prop :=
  ∃ ms, v = object ms ∧ Gives "id" IsWord ms r.id ∧ GivesOr none "name" IsName ms r.name ∧
    GivesOr true "enabled" IsFlag ms r.enabled ∧ GivesOr [] "modes" (IsList IsMode) ms r.modes

end Value
end Json

/-! ### Single values -/

namespace Loose

/-- What a builder takes is what spells a result, and null spells nothing. -/
structure Takes (build : Value → Except RecordError α) (Is : Value → α → Prop) : Prop where
  ok_iff : ∀ v a, build v = .ok a ↔ Is v a
  null : ∀ a, ¬ Is .null a

variable {key : String} {ms ns : List (List Point × Value)} {build : Value → Except RecordError α}
  {Is : Value → α → Prop} {v : Value}

theorem word_of_holds {n : Number} {z : Int} (h : n.Holds z) :
    word (.number n) =
      if 0 ≤ z ∧ z < UInt32.size then .ok (UInt32.ofNat z.toNat) else word.outOfRange n := by
  simp only [word, Number.kind_of_holds h]
  by_cases hz : z < 0
  · rw [if_pos hz, if_neg (by omega)]
  · rw [if_neg hz]
    have hsize : z.toNat < UInt32.size ↔ 0 ≤ z ∧ z < UInt32.size := by omega
    simp only [hsize]

theorem word_of_not_holds {n : Number} (h : ∀ z, ¬ n.Holds z) :
    word (.number n) = .error (.wrongType [] .integer) := by
  have hkind : n.kind = .floating := by
    by_contra hkind
    obtain ⟨z, hz⟩ := Number.holds_of_kind hkind
    exact h z hz
  rw [word, hkind]

theorem takes_word : Takes word Value.IsWord := by
  refine ⟨fun v k => ⟨fun h => ?_, ?_⟩, fun k ⟨n, h, _⟩ => nomatch h⟩
  · cases v with
    | number n =>
      refine ⟨n, rfl, ?_⟩
      by_cases hn : ∃ z, n.Holds z
      · obtain ⟨z, hz⟩ := hn
        rw [word_of_holds hz] at h
        split at h
        · next hrange =>
          cases h
          have hk : (UInt32.ofNat z.toNat).toNat = z.toNat :=
            UInt32.toNat_ofNat_of_lt' (by omega)
          rw [hk, Int.toNat_of_nonneg hrange.1]
          exact hz
        · cases h
      · rw [word_of_not_holds (not_exists.1 hn)] at h
        cases h
    | _ => cases h
  · rintro ⟨n, rfl, hn⟩
    have hk := k.toNat_lt_size
    rw [word_of_holds hn, if_pos (by omega), Int.toNat_natCast, UInt32.ofNat_toNat]

theorem takes_boolean : Takes boolean Value.IsFlag := by
  refine ⟨fun v b => ?_, fun b h => nomatch h⟩
  cases v <;> simp [boolean, Value.IsFlag]

theorem text_eq_ok {s : String} : text v = .ok s ↔ v = .string (points s) := by
  constructor
  · intro h
    cases v with
    | string ps =>
      cases hps : chars? ps with
      | none => simp [text, text?, hps] at h
      | some cs =>
        obtain ⟨ds, rfl⟩ := eq_map_char_of_chars? (by rw [hps]; rfl)
        simp only [text, text?, chars?_map_char, Option.map_some, Except.ok.injEq] at h
        rw [← h, points, String.toList_ofList]
    | _ => cases h
  · rintro rfl
    simp [text]

theorem takes_name : Takes (fun v => (text v).map some) Value.IsName := by
  refine ⟨fun v name => ?_, fun name ⟨s, h, _⟩ => nomatch h⟩
  simp only [Value.IsName, ← text_eq_ok]
  cases text v <;> simp [Except.map, eq_comm]

theorem Takes.list (h : Takes build Is) : Takes (list build) (Value.IsList Is) := by
  refine ⟨fun v as => ?_, fun as ⟨vs, h, _⟩ => nomatch h⟩
  simp only [list_eq_ok, h.ok_iff, Value.IsList]

/-! ### Members -/

theorem present?_eq_some_iff : present? key ms = some v ↔ member? key ms = some v ∧ v ≠ .null := by
  rw [present?_eq_some, ← member?_eq_getLast?, ← Bool.not_eq_true, Value.isNull_iff]

theorem present?_eq_none_iff : present? key ms = none ↔ Omitted key ms := by
  rw [present?_eq_none, ← member?_eq_getLast?, Omitted]
  cases member? key ms <;> simp [Value.isNull_iff]

theorem Takes.required (h : Takes build Is) {a : α} :
    required key build ms = .ok a ↔ Gives key Is ms a := by
  simp only [required_eq_ok, present?_eq_some_iff, h.ok_iff, Gives]
  refine exists_congr fun v => ⟨fun ⟨⟨hv, _⟩, ha⟩ => ⟨hv, ha⟩, fun ⟨hv, ha⟩ => ⟨⟨hv, ?_⟩, ha⟩⟩
  -- null spells nothing, so a value that spells something is present
  rintro rfl
  exact h.null a ha

theorem Takes.optional (h : Takes build Is) {default a : α} :
    optional key default build ms = .ok a ↔ GivesOr default key Is ms a := by
  rw [optional_eq_ok, present?_eq_none_iff, GivesOr, ← h.required, required_eq_ok, eq_comm]

/-! ### Records -/

theorem takes_mode : Takes mode Value.IsMode := by
  refine ⟨fun v r => ?_, fun r ⟨ms, h, _⟩ => nomatch h⟩
  simp only [mode_eq_ok, Value.IsMode, takes_word.required, takes_word.list.optional]

theorem takes_monitor : Takes monitor Value.IsMonitor := by
  refine ⟨fun v r => ?_, fun r ⟨ms, h, _⟩ => nomatch h⟩
  simp only [monitor_eq_ok, Value.IsMonitor, takes_word.required, takes_name.optional,
    takes_boolean.optional, takes_mode.list.optional]

theorem takes_monitors : Takes monitors (Value.IsList Value.IsMonitor) := by
  refine ⟨fun v rs => ?_, fun rs ⟨vs, h, _⟩ => nomatch h⟩
  simp only [monitors_eq_ok, Value.IsList, takes_monitor.ok_iff]

end Loose

/-! ### Taking members out -/

namespace Json

variable {key : String} {ms : List (List Point × Value)}

/-- All members but those under a key. -/
def without (key : List Point) (ms : List (List Point × Value)) : List (List Point × Value) :=
  ms.filter (·.1 ≠ key)

/-- Another value under a key. -/
def put (key : String) (v : Value) (ms : List (List Point × Value)) : List (List Point × Value) :=
  ms.map fun m => if m.1 = points key then (m.1, v) else m

theorem member?_without (k : List Point) :
    member? key (without k ms) = if points key = k then none else member? key ms := by
  induction ms with
  | nil => simp [without, member?]
  | cons m ms ih =>
    rw [without, List.filter_cons, member?]
    by_cases hm : m.1 = k
    · rw [if_neg (by simpa using hm), ← without, ih]
      split
      · rfl
      · next hkey => rw [if_neg fun h => hkey (h.symm.trans hm), Option.or_none]
    · rw [if_pos (by simpa using hm), member?, ← without, ih]
      split
      · next hkey => rw [if_neg fun h => hm (h.trans hkey), Option.or_none]
      · rfl

theorem member?_put (k : String) (v : Value) :
    member? key (put k v ms) = (member? key ms).map fun x => if key = k then v else x := by
  induction ms with
  | nil => rfl
  | cons m ms ih =>
    have hkey : (if m.1 = points k then (m.1, v) else m).1 = m.1 := by split <;> rfl
    rw [put, List.map_cons, member?, member?, ← put, ih, Option.map_or, hkey]
    by_cases hm : m.1 = points key
    · by_cases hk : key = k <;> simp [hm, hk]
    · simp [hm]

/-- A member is taken out that is not known, or whose value is null. -/
inductive Drops (known : List String) (ms : List (List Point × Value)) :
    List (List Point × Value) → Prop
  | unknown {key : List Point} (h : ∀ k ∈ known, points k ≠ key) : Drops known ms (without key ms)
  | null {key : String} (h : member? key ms = some .null) : Drops known ms (without (points key) ms)

end Json

namespace ModeRecord

def keys : List String := ["width", "height", "refresh_rates"]

/-- A member is taken out of a mode. -/
inductive Trims : Value → Value → Prop
  | own {ms ns : List (List Point × Value)} (h : Drops keys ms ns) : Trims (.object ms) (.object ns)

end ModeRecord

namespace MonitorRecord

def keys : List String := ["id", "name", "enabled", "modes"]

/-- A member is taken out of a monitor or of one of its modes. -/
inductive Trims : Value → Value → Prop
  | own {ms ns : List (List Point × Value)} (h : Drops keys ms ns) : Trims (.object ms) (.object ns)
  | mode {ms : List (List Point × Value)} {vs : List Value} {i : Nat} {x y : Value}
    (hmodes : member? "modes" ms = some (.array vs)) (hx : vs[i]? = some x)
    (h : ModeRecord.Trims x y) :
    Trims (.object ms) (.object (put "modes" (.array (vs.set i y)) ms))

end MonitorRecord

namespace DriverState

/-- A member is taken out of one of the monitors or of their modes. -/
inductive Trims : Value → Value → Prop
  | monitor {vs : List Value} {i : Nat} {x y : Value} (hx : vs[i]? = some x)
    (h : MonitorRecord.Trims x y) : Trims (.array vs) (.array (vs.set i y))

end DriverState

namespace Loose

variable {key : String} {ms ns : List (List Point × Value)} {build : Value → Except RecordError α}
  {known : List String}

theorem present?_of_drops (h : Drops known ms ns) (hkey : key ∈ known) :
    present? key ns = present? key ms := by
  cases h with
  | unknown h => rw [present?, present?, member?_without, if_neg (h key hkey)]
  | null h =>
    rw [present?, present?, member?_without]
    split
    · next hk =>
      rw [points_inj.1 hk, h]
      rfl
    · rfl

theorem itemsFrom_congr {vs ws : List Value} (h : vs.map build = ws.map build) (i : Nat) :
    itemsFrom build i vs = itemsFrom build i ws := by
  induction vs generalizing i ws with
  | nil =>
    rw [List.map_nil, eq_comm, List.map_eq_nil_iff] at h
    rw [h]
  | cons v vs ih =>
    obtain ⟨w, ws, rfl, hw, hws⟩ := List.map_eq_cons_iff.1 h.symm
    rw [itemsFrom, itemsFrom, hw, ih hws.symm]

theorem map_set {f : Value → α} {vs : List Value} {i : Nat} {x y : Value} (hx : vs[i]? = some x)
    (h : f y = f x) : (vs.set i y).map f = vs.map f := by
  obtain ⟨hi, rfl⟩ := List.getElem?_eq_some_iff.1 hx
  rw [List.map_set, h, ← List.map_set, List.set_getElem_self]

theorem required_congr (h : present? key ns = present? key ms) :
    required key build ns = required key build ms := by
  rw [required, required, h]

theorem optional_congr {default : α} (h : present? key ns = present? key ms) :
    optional key default build ns = optional key default build ms := by
  rw [optional, optional, h]

theorem optional_put {vs ws : List Value} (hmember : member? key ms = some (.array vs))
    (h : ws.map build = vs.map build) :
    optional key [] (list build) (put key (.array ws) ms) = optional key [] (list build) ms := by
  have hms : present? key ms = some (.array vs) := present?_eq_some_iff.2 ⟨hmember, nofun⟩
  have hput : present? key (put key (.array ws) ms) = some (.array ws) :=
    present?_eq_some_iff.2 ⟨by rw [member?_put, hmember, Option.map_some, if_pos rfl], nofun⟩
  have hlist : list build (.array ws) = list build (.array vs) := itemsFrom_congr h 0
  rw [optional, optional, hms, hput]
  simp only [hlist]

theorem present?_put {k : String} (v : Value) (h : key ≠ k) :
    present? key (put k v ms) = present? key ms := by
  simp only [present?, member?_put, if_neg h, Option.map_id']

theorem mode_object : mode (.object ms) = (do
    let width ← required "width" word ms
    let height ← required "height" word ms
    let rates ← optional "refresh_rates" [] (list word) ms
    pure { width, height, rates }) := rfl

theorem monitor_object : monitor (.object ms) = (do
    let id ← required "id" word ms
    let name ← optional "name" none (fun v => (text v).map some) ms
    let enabled ← optional "enabled" true boolean ms
    let modes ← optional "modes" [] (list mode) ms
    pure { id, name, enabled, modes }) := rfl

variable {v w : Value}

theorem mode_trims (h : ModeRecord.Trims v w) : mode w = mode v := by
  obtain ⟨h⟩ := h
  have hkey : ∀ key ∈ ModeRecord.keys, present? key _ = present? key _ :=
    fun key => present?_of_drops h
  simp only [ModeRecord.keys, List.forall_mem_cons] at hkey
  obtain ⟨hwidth, hheight, hrates, -⟩ := hkey
  rw [mode_object, mode_object, required_congr hwidth, required_congr hheight, optional_congr hrates]

theorem monitor_trims (h : MonitorRecord.Trims v w) : monitor w = monitor v := by
  cases h with
  | own h =>
    have hkey : ∀ key ∈ MonitorRecord.keys, present? key _ = present? key _ :=
      fun key => present?_of_drops h
    simp only [MonitorRecord.keys, List.forall_mem_cons] at hkey
    obtain ⟨hid, hname, henabled, hmodes, -⟩ := hkey
    rw [monitor_object, monitor_object, required_congr hid, optional_congr hname,
      optional_congr henabled, optional_congr hmodes]
  | mode hmodes hx h =>
    rw [monitor_object, monitor_object, required_congr (present?_put _ (by decide)),
      optional_congr (present?_put _ (by decide)), optional_congr (present?_put _ (by decide)),
      optional_put hmodes (map_set hx (mode_trims h))]

theorem monitors_trims (h : DriverState.Trims v w) : monitors w = monitors v := by
  obtain ⟨hx, h⟩ := h
  exact itemsFrom_congr (map_set hx (monitor_trims h)) 0

/-- What leaves an answer alone step by step leaves it alone in any number of steps. -/
theorem eq_of_trims {R : Value → Value → Prop} {answer : Value → α}
    (hstep : ∀ v w, R v w → answer w = answer v) (h : Relation.ReflTransGen R v w) :
    answer w = answer v := by
  induction h with
  | refl => rfl
  | tail _ h ih => exact (hstep _ _ h).trans ih

/-- The loose decoder takes exactly the values that spell a monitor or a list of monitors, for the
record they spell. Members that are unknown or null may be taken out of monitors and modes in any
number, and it gives the same record or reports the same fault. -/
theorem takes_what_is_spelled :
    (∀ v r, monitor v = .ok r ↔ v.IsMonitor r) ∧
    (∀ v rs, monitors v = .ok rs ↔ v.IsList Value.IsMonitor rs) ∧
    (∀ v w, Relation.ReflTransGen MonitorRecord.Trims v w → monitor w = monitor v) ∧
    ∀ v w, Relation.ReflTransGen DriverState.Trims v w → monitors w = monitors v :=
  ⟨takes_monitor.ok_iff, takes_monitors.ok_iff, fun _ _ => eq_of_trims fun _ _ => monitor_trims,
    fun _ _ => eq_of_trims fun _ _ => monitors_trims⟩

/-- Null rates are taken out of a mode, and then a member that is not known out of the monitor. -/
theorem takes_what_is_spelled_of_two_trims :
    let resolution := [("width", Value.ofWord 800), ("height", Value.ofWord 600)]
    let mode := Value.ofFields (resolution ++ [("refresh_rates", .null)])
    let ms := fieldMembers [("id", .ofWord 7), ("colour", .bool true), ("modes", .array [mode])]
    let w := Value.ofFields [("id", .ofWord 7), ("modes", .array [.ofFields resolution])]
    Relation.ReflTransGen MonitorRecord.Trims (.object ms) w ∧ monitor w = monitor (.object ms) ∧
      Relation.ReflTransGen DriverState.Trims (.array [.object ms]) (.array [w]) ∧
      monitors (.array [w]) = monitors (.array [.object ms]) := by
  intro resolution mode ms w
  have hrates : member? "refresh_rates" (fieldMembers (resolution ++ [("refresh_rates", .null)])) =
    some .null := rfl
  have hmodes : member? "modes" ms = some (.array [mode]) := member?_field (by decide) (by simp)
  have hcolour : ∀ k ∈ MonitorRecord.keys, points k ≠ points "colour" := by decide
  have hmode : MonitorRecord.Trims (.object ms)
      (.object (put "modes" (.array [.ofFields resolution]) ms)) :=
    .mode (i := 0) hmodes rfl (.own (.null hrates))
  have hw : without (points "colour") (put "modes" (.array [.ofFields resolution]) ms) =
      fieldMembers [("id", .ofWord 7), ("modes", .array [.ofFields resolution])] := by
    simp [ms, without, put, fieldMembers]
  have htrims : Relation.ReflTransGen MonitorRecord.Trims (.object ms) w :=
    (Relation.ReflTransGen.single hmode).tail (.own (hw ▸ .unknown hcolour))
  have hlist := htrims.lift (fun x => Value.array [x]) fun x y h =>
    show DriverState.Trims (.array [x]) (.array ([x].set 0 y)) from .monitor rfl h
  exact ⟨htrims, takes_what_is_spelled.2.2.1 _ w htrims, hlist,
    takes_what_is_spelled.2.2.2 _ _ hlist⟩

end Loose
end VirtualDisplay
