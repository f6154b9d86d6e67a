import VirtualDisplay.Proofs.Record.Fields

/-! Where the two decoders of records agree. Whatever both take, they take for the same record. Beyond
that, the strict decoder alone takes records that are written as arrays, and texts that cannot be held
in memory; the loose one alone takes members that come twice, and null for a flag or a list. -/

namespace VirtualDisplay

open Json

variable {α : Type}

/-! ### How a record is written -/

namespace Json.Value

/-- The values under a key of an object. -/
def under (key : String) : Value → List Value
  | object ms => Strict.valuesOf key ms
  | _ => []

def items : Value → List Value
  | array vs => vs
  | _ => []

def isObject : Value → Bool
  | object _ => true
  | _ => false

/-- The values that stand for the modes of a monitor. -/
def modes (v : Value) : List Value := (v.under "modes").flatMap items

/-- No known key comes twice, and some have no null under them. -/
structure Tidy (known filled : List String) (v : Value) : Prop where
  once : ∀ key ∈ known, (v.under key).length ≤ 1
  filled : ∀ key ∈ filled, ∀ x ∈ v.under key, x.isNull = false

end Json.Value

/-- A mode without repetition, whose rates are not null. -/
def ModeRecord.Tidy (v : Value) : Prop :=
  v.Tidy ["width", "height", "refresh_rates"] ["refresh_rates"]

def ModeRecord.Objects (v : Value) : Prop := v.isObject = true

/-- A monitor without repetition, whose flag, modes and rates are not null. -/
def MonitorRecord.Tidy (v : Value) : Prop :=
  v.Tidy ["id", "name", "enabled", "modes"] ["enabled", "modes"] ∧ ∀ m ∈ v.modes, ModeRecord.Tidy m

def MonitorRecord.Objects (v : Value) : Prop :=
  v.isObject = true ∧ ∀ m ∈ v.modes, ModeRecord.Objects m

def DriverState.Tidy (v : Value) : Prop := ∀ m ∈ v.items, MonitorRecord.Tidy m

def DriverState.Objects (v : Value) : Prop := ∀ m ∈ v.items, MonitorRecord.Objects m

/-! ### Values that can be held -/

namespace Json.Value

/-- A value that can be held in memory, given enough levels of nesting. -/
def Held (v : Value) : Prop := ∃ levels, v.within levels = true

theorem held_of_plain {v : Value} (h : v.plain = true) : v.Held := ⟨_, h⟩

theorem held_item {v x : Value} (h : v.Held) (hx : x ∈ v.items) : x.Held := by
  obtain ⟨levels, h⟩ := h
  cases v with
  | array vs =>
    cases levels with
    | zero => cases h
    | succ levels =>
      refine ⟨levels, ?_⟩
      rw [within] at h
      change x ∈ vs at hx
      induction vs with
      | nil => cases hx
      | cons y ys ih =>
        rw [allWithin, Bool.and_eq_true] at h
        rcases List.mem_cons.1 hx with rfl | hx
        · exact h.1
        · exact ih h.2 hx
  | _ => cases hx

theorem held_members {ms : List (List Point × Value)} (h : (object ms).Held) :
    Strict.keysAreText ms = true ∧ ∀ m ∈ ms, m.2.Held := by
  obtain ⟨levels, h⟩ := h
  cases levels with
  | zero => cases h
  | succ levels =>
    rw [within] at h
    induction ms with
    | nil => exact ⟨rfl, List.forall_mem_nil _⟩
    | cons m ms ih =>
      rw [membersWithin, Bool.and_eq_true, Bool.and_eq_true] at h
      obtain ⟨hkeys, hvalues⟩ := ih h.2
      refine ⟨?_, fun m' hm' => ?_⟩
      · rw [Strict.keysAreText, List.all_cons, h.1.1]
        exact hkeys
      · rcases List.mem_cons.1 hm' with rfl | hm'
        · exact ⟨levels, h.1.2⟩
        · exact hvalues m' hm'

theorem held_under {v x : Value} {key : String} (h : v.Held) (hx : x ∈ v.under key) : x.Held := by
  cases v with
  | object ms =>
    obtain ⟨m, hm, rfl⟩ := List.mem_map.1 hx
    exact (held_members h).2 m (List.mem_of_mem_filter hm)
  | _ => cases hx

theorem held_modes {v x : Value} (h : v.Held) (hx : x ∈ v.modes) : x.Held := by
  obtain ⟨list, hlist, hx⟩ := List.mem_flatMap.1 hx
  exact held_item (held_under h hlist) hx

end Json.Value

/-! ### From the strict decoder to the loose one -/

section

variable {build : Value → Except RecordError α} {decode : Value → Option α} {a default : α}
  {key : String} {ms : List (List Point × Value)}

theorem word_eq_ok_iff {v : Value} {n : UInt32} : Loose.word v = .ok n ↔ Strict.word? v = some n := by
  cases v with
  | number x =>
    simp only [Loose.word, Strict.word?]
    cases x.kind with
    | natural k => dsimp only; split <;> simp [Loose.word.outOfRange]
    | negative => simp [Loose.word.outOfRange]
    | floating => simp
  | _ => simp [Loose.word, Strict.word?]

theorem boolean_eq_ok_iff {v : Value} {b : Bool} :
    Loose.boolean v = .ok b ↔ Strict.boolean? v = some b := by
  cases v <;> simp [Loose.boolean, Strict.boolean?]

theorem text_eq_ok_iff {v : Value} {name : Option String} (hv : v.isNull = false) :
    (Loose.text v).map some = .ok name ↔ Strict.name? v = some name := by
  cases v with
  | null => cases hv
  | string s =>
    simp only [Loose.text, Strict.name?]
    cases text? s <;> simp [Except.map]
  | _ => simp [Loose.text, Strict.name?, Except.map]

theorem Loose.list_of_strict {v : Value} {as : List α} (h : Strict.list? decode v = some as)
    (hitems : ∀ x ∈ v.items, ∀ a, decode x = some a → build x = .ok a) : list build v = .ok as := by
  obtain ⟨vs, rfl, hall⟩ := Strict.list?_eq_some.1 h
  exact list_eq_ok.2 ⟨vs, rfl, ((List.forall₂_and_left vs as).2 ⟨hitems, hall⟩).imp
    fun _ _ hx => hx.1 _ hx.2⟩

theorem Loose.required_of_strict (h : Strict.field? key none decode ms = some a)
    (hnull : decode .null = none)
    (hvalue : ∀ x ∈ Strict.valuesOf key ms, decode x = some a → build x = .ok a) :
    required key build ms = .ok a := by
  rcases Strict.field?_eq_some.1 h with ⟨-, hnone⟩ | ⟨v, hv, ha⟩
  · cases hnone
  · have hnonnull : v.isNull = false := by
      rw [← Bool.not_eq_true, Value.isNull_iff]
      rintro rfl
      rw [hnull] at ha
      cases ha
    exact required_eq_ok.2 ⟨v, present?_eq_some.2 ⟨by rw [hv]; rfl, hnonnull⟩,
      hvalue v (by simp [hv]) ha⟩

theorem Loose.optional_of_strict (h : Strict.field? key (some default) decode ms = some a)
    (hnull : ∀ a, decode .null = some a → default = a)
    (hvalue : ∀ x ∈ Strict.valuesOf key ms, x.isNull = false → decode x = some a → build x = .ok a) :
    optional key default build ms = .ok a := by
  apply optional_eq_ok.2
  rcases Strict.field?_eq_some.1 h with ⟨hnone, hdefault⟩ | ⟨v, hv, ha⟩
  · exact Or.inl ⟨present?_eq_none.2 (by simp [hnone]), Option.some.inj hdefault⟩
  · cases hn : v.isNull with
    | true =>
      have hpresent : present? key ms = none := present?_eq_none.2 (by simp [hv, hn])
      obtain rfl := Value.isNull_iff.1 hn
      exact Or.inl ⟨hpresent, hnull a ha⟩
    | false =>
      exact Or.inr ⟨v, present?_eq_some.2 ⟨by rw [hv]; rfl, hn⟩, hvalue v (by simp [hv]) hn ha⟩

theorem Loose.mode_of_strict {v : Value} {r : ModeRecord} (h : Strict.mode? v = some r)
    (ho : ModeRecord.Objects v) : mode v = .ok r := by
  cases v with
  | object ms =>
    obtain ⟨-, hwidth, hheight, hrates⟩ := Strict.mode?_object.1 h
    refine mode_eq_ok.2 ⟨ms, rfl, ?_, ?_, ?_⟩
    · exact required_of_strict hwidth rfl fun _ _ => word_eq_ok_iff.2
    · exact required_of_strict hheight rfl fun _ _ => word_eq_ok_iff.2
    · refine optional_of_strict hrates (by rintro a ⟨⟩) fun x _ _ hx => ?_
      exact list_of_strict hx fun _ _ _ => word_eq_ok_iff.2
  | _ => cases ho

theorem Loose.monitor_of_strict {v : Value} {r : MonitorRecord} (h : Strict.monitor? v = some r)
    (ho : MonitorRecord.Objects v) : monitor v = .ok r := by
  obtain ⟨hobject, hmode⟩ := ho
  cases v with
  | object ms =>
    obtain ⟨-, hid, hname, henabled, hmodes⟩ := Strict.monitor?_object.1 h
    refine monitor_eq_ok.2 ⟨ms, rfl, ?_, ?_, ?_, ?_⟩
    · exact required_of_strict hid rfl fun _ _ => word_eq_ok_iff.2
    · refine optional_of_strict hname ?_ fun _ _ hn => (text_eq_ok_iff hn).2
      rintro a ⟨⟩
      rfl
    · exact optional_of_strict henabled (by rintro a ⟨⟩) fun _ _ _ => boolean_eq_ok_iff.2
    · refine optional_of_strict hmodes (by rintro a ⟨⟩) fun x hx _ hlist => ?_
      exact list_of_strict hlist fun m hm _ hr =>
        mode_of_strict hr (hmode m (List.mem_flatMap.2 ⟨x, hx, hm⟩))
  | _ => cases hobject

theorem Loose.monitors_of_strict {v : Value} {rs : DriverState} (h : Strict.monitors? v = some rs)
    (ho : DriverState.Objects v) : monitors v = .ok rs := by
  have hlist : list monitor v = .ok rs :=
    list_of_strict h fun m hm _ hr => monitor_of_strict hr (ho m hm)
  exact monitors_eq_ok.2 (list_eq_ok.1 hlist)

/-! ### From the loose decoder to the strict one -/

theorem Strict.list?_of_loose {v : Value} {as : List α} (h : Loose.list build v = .ok as)
    (hitems : ∀ x ∈ v.items, ∀ a, build x = .ok a → decode x = some a) :
    list? decode v = some as := by
  obtain ⟨vs, rfl, hall⟩ := Loose.list_eq_ok.1 h
  exact list?_eq_some.2 ⟨vs, rfl, ((List.forall₂_and_left vs as).2 ⟨hitems, hall⟩).imp
    fun _ _ hx => hx.1 _ hx.2⟩

/-- Under a key that comes at most once, the last value is the only one. -/
theorem Strict.valuesOf_eq_singleton {v : Value} (once : (valuesOf key ms).length ≤ 1)
    (h : (valuesOf key ms).getLast? = some v) : valuesOf key ms = [v] := by
  obtain ⟨vs, hvs⟩ := List.getLast?_eq_some_iff.1 h
  rw [hvs, List.length_append, List.length_singleton] at once
  have hnil : vs = [] := List.length_eq_zero_iff.1 (by omega)
  rw [hvs, hnil, List.nil_append]

theorem Strict.field?_of_required {default : Option α} (once : (valuesOf key ms).length ≤ 1)
    (h : Loose.required key build ms = .ok a)
    (hvalue : ∀ x ∈ valuesOf key ms, build x = .ok a → decode x = some a) :
    field? key default decode ms = some a := by
  obtain ⟨v, hv, ha⟩ := Loose.required_eq_ok.1 h
  have hone := valuesOf_eq_singleton once (Loose.present?_eq_some.1 hv).1
  exact field?_eq_some.2 (Or.inr ⟨v, hone, hvalue v (by simp [hone]) ha⟩)

theorem Strict.field?_of_optional (once : (valuesOf key ms).length ≤ 1)
    (h : Loose.optional key default build ms = .ok a)
    (hnull : ∀ x ∈ valuesOf key ms, x.isNull = true → decode x = some default)
    (hvalue : ∀ x ∈ valuesOf key ms, x.isNull = false → build x = .ok a → decode x = some a) :
    field? key (some default) decode ms = some a := by
  apply field?_eq_some.2
  rcases Loose.optional_eq_ok.1 h with ⟨hnone, rfl⟩ | ⟨v, hv, ha⟩
  · cases hlast : (valuesOf key ms).getLast? with
    | none => exact Or.inl ⟨List.getLast?_eq_none_iff.1 hlast, rfl⟩
    | some v =>
      have hone := valuesOf_eq_singleton once hlast
      exact Or.inr ⟨v, hone, hnull v (by simp [hone]) (Loose.present?_eq_none.1 hnone v hlast)⟩
  · obtain ⟨hlast, hn⟩ := Loose.present?_eq_some.1 hv
    have hone := valuesOf_eq_singleton once hlast
    exact Or.inr ⟨v, hone, hvalue v (by simp [hone]) hn ha⟩

/-- A member that has no null under it needs no word about null. -/
theorem Strict.field?_of_filled (once : (valuesOf key ms).length ≤ 1)
    (filled : ∀ x ∈ valuesOf key ms, x.isNull = false)
    (h : Loose.optional key default build ms = .ok a)
    (hvalue : ∀ x ∈ valuesOf key ms, build x = .ok a → decode x = some a) :
    field? key (some default) decode ms = some a := by
  refine field?_of_optional once h (fun x hx hn => ?_) fun x hx _ => hvalue x hx
  rw [filled x hx] at hn
  cases hn

theorem Strict.mode?_of_loose {v : Value} {r : ModeRecord} (held : v.Held) (h : Loose.mode v = .ok r)
    (tidy : ModeRecord.Tidy v) : mode? v = some r := by
  obtain ⟨ms, rfl, hwidth, hheight, hrates⟩ := Loose.mode_eq_ok.1 h
  refine mode?_object.2 ⟨(Value.held_members held).1, ?_, ?_, ?_⟩
  · exact field?_of_required (tidy.once _ (by simp)) hwidth fun _ _ => word_eq_ok_iff.1
  · exact field?_of_required (tidy.once _ (by simp)) hheight fun _ _ => word_eq_ok_iff.1
  · refine field?_of_filled (tidy.once _ (by simp)) (tidy.filled _ (by simp)) hrates fun x _ hx => ?_
    exact list?_of_loose hx fun _ _ _ => word_eq_ok_iff.1

theorem Strict.monitor?_of_loose {v : Value} {r : MonitorRecord} (held : v.Held)
    (h : Loose.monitor v = .ok r) (tidy : MonitorRecord.Tidy v) : monitor? v = some r := by
  obtain ⟨ms, rfl, hid, hname, henabled, hmodes⟩ := Loose.monitor_eq_ok.1 h
  obtain ⟨⟨once, filled⟩, hmode⟩ := tidy
  refine monitor?_object.2 ⟨(Value.held_members held).1, ?_, ?_, ?_, ?_⟩
  · exact field?_of_required (once _ (by simp)) hid fun _ _ => word_eq_ok_iff.1
  · refine field?_of_optional (once _ (by simp)) hname (fun x _ hx => ?_) fun _ _ hn =>
      (text_eq_ok_iff hn).1
    rw [Value.isNull_iff.1 hx]
    rfl
  · exact field?_of_filled (once _ (by simp)) (filled _ (by simp)) henabled fun _ _ =>
      boolean_eq_ok_iff.1
  · refine field?_of_filled (once _ (by simp)) (filled _ (by simp)) hmodes fun x hx hlist => ?_
    refine list?_of_loose hlist fun m hm _ hr => ?_
    have hmodes : m ∈ (Value.object ms).modes := List.mem_flatMap.2 ⟨x, hx, hm⟩
    exact mode?_of_loose (Value.held_modes held hmodes) hr (hmode m hmodes)

theorem Strict.monitors?_of_loose {v : Value} {rs : DriverState} (held : v.Held)
    (h : Loose.monitors v = .ok rs) (tidy : DriverState.Tidy v) : monitors? v = some rs := by
  have hlist : Loose.list Loose.monitor v = .ok rs := Loose.list_eq_ok.2 (Loose.monitors_eq_ok.1 h)
  exact list?_of_loose hlist fun m hm _ hr =>
    monitor?_of_loose (Value.held_item held hm) hr (tidy m hm)

/-! ### Values that both take -/

theorem Loose.objects_of_list {v : Value} {as : List α} (h : list build v = .ok as) :
    ∀ x ∈ v.items, ∃ a, build x = .ok a := by
  obtain ⟨vs, rfl, hall⟩ := list_eq_ok.1 h
  exact fun x hx => exists_of_forall₂ hall hx

theorem ModeRecord.objects_of_loose {v : Value} {r : ModeRecord} (h : Loose.mode v = .ok r) :
    Objects v := by
  obtain ⟨ms, rfl, -⟩ := Loose.mode_eq_ok.1 h
  rfl

/-- The loose decoder looks at the last of several values under a key, so that all modes are objects is
sure only once the strict decoder has found a single one. -/
theorem MonitorRecord.objects_of_both {v : Value} {r r' : MonitorRecord}
    (h : Loose.monitor v = .ok r) (h' : Strict.monitor? v = some r') : Objects v := by
  obtain ⟨ms, rfl, -, -, -, hmodes⟩ := Loose.monitor_eq_ok.1 h
  obtain ⟨-, -, -, -, hmodes'⟩ := Strict.monitor?_object.1 h'
  refine ⟨rfl, fun m hm => ?_⟩
  obtain ⟨x, hx, hm⟩ := List.mem_flatMap.1 hm
  change x ∈ Strict.valuesOf "modes" ms at hx
  rcases Strict.field?_eq_some.1 hmodes' with ⟨hnone, -⟩ | ⟨v, hv, -⟩
  · rw [hnone] at hx
    cases hx
  · rw [hv, List.mem_singleton] at hx
    subst hx
    rcases Loose.optional_eq_ok.1 hmodes with ⟨hnone, -⟩ | ⟨y, hy, hlist⟩
    · have hnull := Loose.present?_eq_none.1 hnone x (by rw [hv]; rfl)
      rw [Value.isNull_iff.1 hnull] at hm
      cases hm
    · have hxy := (Loose.present?_eq_some.1 hy).1
      rw [hv] at hxy
      cases hxy
      obtain ⟨a, ha⟩ := Loose.objects_of_list hlist m hm
      exact ModeRecord.objects_of_loose ha

theorem DriverState.objects_of_both {v : Value} {rs rs' : DriverState}
    (h : Loose.monitors v = .ok rs) (h' : Strict.monitors? v = some rs') : Objects v := by
  intro m hm
  have hlist : Loose.list Loose.monitor v = .ok rs := Loose.list_eq_ok.2 (Loose.monitors_eq_ok.1 h)
  obtain ⟨r, hr⟩ := Loose.objects_of_list hlist m hm
  obtain ⟨vs, rfl, hall⟩ := Strict.list?_eq_some.1 h'
  obtain ⟨r', hr'⟩ := exists_of_forall₂ hall hm
  exact MonitorRecord.objects_of_both hr hr'

end

/-! ### Texts -/

/-- How two decoders of one kind of record go together on a text. -/
structure Agree (loose : Value → Except RecordError α) (strict : Value → Option α)
    (objects tidy : Value → Prop) (s : String) : Prop where
  same : ∀ a b, Loose.ofText loose s = .ok a → Strict.ofText? strict s = some b → a = b
  /-- What the strict decoder takes, the loose one takes, if the text can be held in memory and the
  records in it are written as objects. -/
  loosely : ∀ v b, readPlain s.toList = some v → objects v → Strict.ofText? strict s = some b →
    Loose.ofText loose s = .ok b
  /-- What the loose decoder takes, the strict one takes, if no known member comes twice and none but a
  name is null. -/
  strictly : ∀ v a, readPlain s.toList = some v → tidy v → Loose.ofText loose s = .ok a →
    Strict.ofText? strict s = some a

theorem readPlain_eq_some {cs : List Char} {v : Value} :
    readPlain cs = some v ↔ read cs = some v ∧ v.plain = true := by
  rw [readPlain, Option.filter_eq_some_iff]

theorem Agree.of_values {loose : Value → Except RecordError α} {strict : Value → Option α}
    {objects tidy : Value → Prop}
    (both : ∀ v a b, loose v = .ok a → strict v = some b → objects v)
    (loosely : ∀ v b, strict v = some b → objects v → loose v = .ok b)
    (strictly : ∀ v a, v.Held → loose v = .ok a → tidy v → strict v = some a) (s : String) :
    Agree loose strict objects tidy s := by
  refine ⟨fun a b ha hb => ?_, fun v b hv ho hb => ?_, fun v a hv ht ha => ?_⟩
  · obtain ⟨v, hv, ha⟩ := Loose.ofText_eq_ok.1 ha
    obtain ⟨v', hv', hb⟩ := Strict.ofText?_eq_some.1 hb
    cases (readPlain_eq_some.1 hv).1.symm.trans hv'
    have hloose := loosely v b hb (both v a b ha hb)
    exact Except.ok.inj (ha.symm.trans hloose)
  · obtain ⟨v', hv', hb⟩ := Strict.ofText?_eq_some.1 hb
    cases (readPlain_eq_some.1 hv).1.symm.trans hv'
    exact Loose.ofText_eq_ok.2 ⟨v, hv, loosely v b hb ho⟩
  · obtain ⟨v', hv', ha⟩ := Loose.ofText_eq_ok.1 ha
    cases hv.symm.trans hv'
    obtain ⟨hread, hplain⟩ := readPlain_eq_some.1 hv
    exact Strict.ofText?_eq_some.2
      ⟨v, hread, strictly v a (Value.held_of_plain hplain) ha ht⟩

/-- On every text the two decoders agree: of a mode, of a monitor, and of a list of monitors. -/
theorem decoders_agree (s : String) :
    Agree Loose.mode Strict.mode? ModeRecord.Objects ModeRecord.Tidy s ∧
    Agree Loose.monitor Strict.monitor? MonitorRecord.Objects MonitorRecord.Tidy s ∧
    Agree Loose.monitors Strict.monitors? DriverState.Objects DriverState.Tidy s := by
  refine ⟨.of_values ?_ ?_ ?_ s, .of_values ?_ ?_ ?_ s, .of_values ?_ ?_ ?_ s⟩
  · exact fun _ _ _ h _ => ModeRecord.objects_of_loose h
  · exact fun _ _ => Loose.mode_of_strict
  · exact fun _ _ => Strict.mode?_of_loose
  · exact fun _ _ _ => MonitorRecord.objects_of_both
  · exact fun _ _ => Loose.monitor_of_strict
  · exact fun _ _ => Strict.monitor?_of_loose
  · exact fun _ _ _ => DriverState.objects_of_both
  · exact fun _ _ => Loose.monitors_of_strict
  · exact fun _ _ => Strict.monitors?_of_loose

/-- An array of fields is for the strict decoder only. -/
example : Strict.ofText? Strict.monitor? "[7]" = some { id := 7 } ∧
    Loose.ofText Loose.monitor "[7]" = .error (.notAnObject []) := by
  constructor <;> cbv

/-- A member that comes twice is for the loose decoder only. -/
example :
    let v := Value.ofFields [("width", .ofWord 1), ("width", .ofWord 2), ("height", .ofWord 3)]
    Strict.mode? v = none ∧ Loose.mode v = .ok { width := 2, height := 3 } := ⟨rfl, rfl⟩

end VirtualDisplay
