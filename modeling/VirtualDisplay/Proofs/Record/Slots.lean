import VirtualDisplay.Proofs.Json.Verbatim
import VirtualDisplay.Proofs.Record.Checks

/-! The places in a record where a number stands. If nothing but this number is wrong with a record, then
what becomes of the record is what becomes of the number: a decoder that takes the number gives the record
with the number in its place, and one that does not reports the fault of the number, at its place. -/

namespace VirtualDisplay

open Json

/-! ### Two values that differ in one place -/

namespace Json.Value

/-- Two values are the same but for what stands at the end of a path. Of the members under one key, the
path goes through the last. -/
inductive Swap (x y : Value) : List PathStep → Value → Value → Prop
  | here : Swap x y [] x y
  | member (key : String) (before after : List (List Point × Value))
    (last : ∀ m ∈ after, m.1 ≠ points key) {path : List PathStep} {v w : Value}
    (h : Swap x y path v w) :
    Swap x y (.member key :: path) (object (before ++ (points key, v) :: after))
      (object (before ++ (points key, w) :: after))
  | index (before after : List Value) {path : List PathStep} {v w : Value} (h : Swap x y path v w) :
    Swap x y (.index before.length :: path) (array (before ++ v :: after))
      (array (before ++ w :: after))

variable {n : Number} {x y v w : Value} {step : PathStep} {path : List PathStep} {levels : Nat}

theorem mem_numbersOfItems (before after : List Value) (h : n ∈ v.numbers) :
    n ∈ numbersOfItems (before ++ v :: after) := by
  induction before with
  | nil => exact List.mem_append_left _ h
  | cons u us ih => exact List.mem_append_right _ ih

theorem mem_numbersOfMembers (k : List Point) (before after : List (List Point × Value))
    (h : n ∈ v.numbers) : n ∈ numbersOfMembers (before ++ (k, v) :: after) := by
  induction before with
  | nil => exact List.mem_append_left _ h
  | cons m ms ih => exact List.mem_append_right _ ih

theorem Swap.mem_numbers (h : Swap (.number n) y path v w) : n ∈ v.numbers := by
  induction h with
  | here => exact List.mem_singleton.2 rfl
  | member key before after _ _ ih => exact mem_numbersOfMembers _ before after ih
  | index before after _ ih => exact mem_numbersOfItems before after ih

theorem Swap.isNull_left (h : Swap (.number n) y path v w) : v.isNull = false := by
  cases h <;> rfl

theorem Swap.isNull_right (h : Swap x y (step :: path) v w) : w.isNull = false := by
  cases h <;> rfl

theorem allWithin_append (before after : List Value) : allWithin levels (before ++ v :: after) =
    (allWithin levels before && (v.within levels && allWithin levels after)) := by
  induction before with
  | nil => rfl
  | cons u us ih => simp only [List.cons_append, allWithin, ih, Bool.and_assoc]

theorem membersWithin_append (k : List Point) (before after : List (List Point × Value)) :
    membersWithin levels (before ++ (k, v) :: after) = (membersWithin levels before &&
      ((chars? k).isSome && v.within levels && membersWithin levels after)) := by
  induction before with
  | nil => rfl
  | cons m ms ih => simp only [List.cons_append, membersWithin, ih, Bool.and_assoc]

/-- Where a value can be held, another number in it can be held if it is not too large. -/
theorem Swap.within (h : Swap (.number n) y path v w) (hw : w.within levels = true) :
    v.within levels = !n.overflows := by
  induction h generalizing levels with
  | here => rw [Value.within]
  | member key before after _ _ ih =>
    cases levels with
    | zero => cases hw
    | succ levels =>
      rw [Value.within, membersWithin_append] at hw ⊢
      simp only [Bool.and_eq_true] at hw
      obtain ⟨hbefore, ⟨hkey, hw⟩, hafter⟩ := hw
      rw [hbefore, hkey, hafter, ih hw, Bool.true_and, Bool.true_and, Bool.and_true]
  | index before after _ ih =>
    cases levels with
    | zero => cases hw
    | succ levels =>
      rw [Value.within, allWithin_append] at hw ⊢
      simp only [Bool.and_eq_true] at hw
      obtain ⟨hbefore, hw, hafter⟩ := hw
      rw [hbefore, hafter, ih hw, Bool.true_and, Bool.and_true]

end Json.Value

/-! ### Slots -/

/-- Where a number stands in a record: the path to it, and how it is read from the record and put into
it. -/
structure Slot (α : Type) where
  path : List PathStep
  get? : α → Option UInt32
  set : UInt32 → α → α

namespace Slot

variable {α β : Type}

/-- The number itself. -/
def word : Slot UInt32 where
  path := []
  get? := some
  set k _ := k

/-- The same slot, in an item of a list. -/
def item (i : Nat) (slot : Slot α) : Slot (List α) where
  path := .index i :: slot.path
  get? as := as[i]?.bind slot.get?
  set k := (·.modify i (slot.set k))

/-- The same slot, in a field of a record. -/
def field (key : String) (get : β → α) (put : β → α → β) (slot : Slot α) : Slot β where
  path := .member key :: slot.path
  get? := slot.get? ∘ get
  set k r := put r (slot.set k (get r))

end Slot

/-- The numbers of a mode. -/
inductive ModeRecord.Entry
  | width
  | height
  | rate (i : Nat)

def ModeRecord.Entry.slot : Entry → Slot ModeRecord
  | width => Slot.word.field "width" ModeRecord.width fun r k => { r with width := k }
  | height => Slot.word.field "height" ModeRecord.height fun r k => { r with height := k }
  | rate i => (Slot.word.item i).field "refresh_rates" ModeRecord.rates fun r ks => { r with rates := ks }

/-- The numbers of a monitor. -/
inductive MonitorRecord.Entry
  | id
  | mode (i : Nat) (entry : ModeRecord.Entry)

def MonitorRecord.Entry.slot : Entry → Slot MonitorRecord
  | id => Slot.word.field "id" MonitorRecord.id fun r k => { r with id := k }
  | mode i entry =>
    (entry.slot.item i).field "modes" MonitorRecord.modes fun r ms => { r with modes := ms }

/-! ### A member of an object -/

section

variable {α : Type} {key other : String} {before after : List (List Point × Value)} {v w : Value}
  {decode : Value → Option α} {default : Option α} {a : α}

theorem valuesOf_swap (hne : key ≠ other) :
    Strict.valuesOf key (before ++ (points other, v) :: after) =
      Strict.valuesOf key (before ++ (points other, w) :: after) := by
  simp [Strict.valuesOf, List.filter_append, Ne.symm hne]

theorem valuesOf_last (hlast : ∀ m ∈ after, m.1 ≠ points key) :
    Strict.valuesOf key (before ++ (points key, v) :: after) = Strict.valuesOf key before ++ [v] := by
  have hafter : after.filter (fun m => m.1 = points key) = [] :=
    List.filter_eq_nil_iff.2 fun m hm => by simp [hlast m hm]
  simp [Strict.valuesOf, List.filter_append, hafter]

theorem field?_swap (hne : key ≠ other) :
    Strict.field? key default decode (before ++ (points other, v) :: after) =
      Strict.field? key default decode (before ++ (points other, w) :: after) := by
  rw [Strict.field?, Strict.field?, valuesOf_swap hne]

theorem keysAreText_swap {k : List Point} :
    Strict.keysAreText (before ++ (k, v) :: after) = Strict.keysAreText (before ++ (k, w) :: after) := by
  simp [Strict.keysAreText]

theorem present?_swap (hne : key ≠ other) :
    Loose.present? key (before ++ (points other, v) :: after) =
      Loose.present? key (before ++ (points other, w) :: after) := by
  simp only [Loose.present?, member?_eq_getLast?, valuesOf_swap (w := w) hne]

theorem present?_last (hlast : ∀ m ∈ after, m.1 ≠ points key) :
    Loose.present? key (before ++ (points key, v) :: after) = (some v).filter (!·.isNull) := by
  rw [Loose.present?, member?_eq_getLast?, valuesOf_last hlast, List.getLast?_concat]

end

/-! ### Numbers that are taken, and numbers that are not -/

variable {α : Type}

/-- A value in which another number stands in a slot is decoded as that number is: either decoder puts
the number into the record, or fails with the number. -/
structure Reacts (build : Value → Except RecordError α) (decode : Value → Option α) (slot : Slot α) :
    Prop where
  loose : ∀ {n y v w a}, Value.Swap (.number n) y slot.path v w → build w = .ok a →
    build v = ((Loose.word (.number n)).mapError (·.underAll slot.path)).map (slot.set · a)
  strict : ∀ {n y v w a}, Value.Swap (.number n) y slot.path v w → decode w = some a →
    decode v = (Strict.word? (.number n)).map (slot.set · a)
  /-- What is put into the slot stands there. -/
  kept : ∀ {n y v w a}, Value.Swap (.number n) y slot.path v w → build w = .ok a →
    ∀ k, slot.get? (slot.set k a) = some k

variable {build : Value → Except RecordError α} {decode : Value → Option α} {slot : Slot α}

theorem reacts_word : Reacts Loose.word Strict.word? Slot.word where
  loose := by
    rintro n y v w a ⟨⟩ -
    cases Loose.word (.number n) <;> rfl
  strict := by
    rintro n y v w a ⟨⟩ -
    cases Strict.word? (.number n) <;> rfl
  kept _ _ _ := rfl

/-! ### An item of a list -/

theorem forall₂_append_cons {β : Type} {R : Value → β → Prop} {before after : List Value} {w : Value}
    {as : List β} (h : List.Forall₂ R (before ++ w :: after) as) : ∃ bs a cs, as = bs ++ a :: cs ∧
      List.Forall₂ R before bs ∧ R w a ∧ List.Forall₂ R after cs := by
  induction before generalizing as with
  | nil =>
    obtain _ | ⟨ha, hcs⟩ := h
    exact ⟨[], _, _, rfl, .nil, ha, hcs⟩
  | cons u us ih =>
    obtain _ | ⟨hb, h⟩ := h
    obtain ⟨bs, a, cs, rfl, hbs, ha, hcs⟩ := ih h
    exact ⟨_ :: bs, a, cs, rfl, .cons hb hbs, ha, hcs⟩

theorem modify_append_cons {β : Type} (f : β → β) (bs : List β) (a : β) (cs : List β) :
    (bs ++ a :: cs).modify bs.length f = bs ++ f a :: cs := by
  induction bs with
  | nil => rfl
  | cons b bs ih => simp [ih]

/-- Among items that are taken, one decides. -/
theorem itemsFrom_append {before after : List Value} {bs cs : List α} (v : Value) {i : Nat}
    (hbs : List.Forall₂ (fun v a => build v = .ok a) before bs)
    (hcs : List.Forall₂ (fun v a => build v = .ok a) after cs) :
    Loose.itemsFrom build i (before ++ v :: after) =
      ((build v).mapError (·.under (.index (i + before.length)))).map (bs ++ · :: cs) := by
  induction hbs generalizing i with
  | nil =>
    have hafter : Loose.itemsFrom build (i + 1) after = .ok cs := Loose.itemsFrom_eq_ok.2 hcs
    rw [List.nil_append, Loose.itemsFrom, hafter]
    cases build v <;> rfl
  | cons hb _ ih =>
    rw [List.cons_append, Loose.itemsFrom, hb, ih, List.length_cons, Nat.add_right_comm, Nat.add_assoc]
    cases build v <;> rfl

theorem each?_append {before after : List Value} {bs cs : List α} (v : Value)
    (hbs : List.Forall₂ (fun v a => decode v = some a) before bs)
    (hcs : List.Forall₂ (fun v a => decode v = some a) after cs) :
    Strict.each? decode (before ++ v :: after) = (decode v).map (bs ++ · :: cs) := by
  induction hbs with
  | nil =>
    rw [List.nil_append, Strict.each?, Strict.each?_eq_some.2 hcs]
    cases decode v <;> rfl
  | cons hb _ ih =>
    rw [List.cons_append, Strict.each?, hb, ih]
    cases decode v <;> rfl

theorem Reacts.item (h : Reacts build decode slot) (i : Nat) :
    Reacts (Loose.list build) (Strict.list? decode) (slot.item i) where
  loose := by
    rintro n y _ _ as (_ | _ | ⟨before, after, hswap⟩) hloose
    obtain ⟨_, ⟨⟩, has⟩ := Loose.list_eq_ok.1 hloose
    obtain ⟨bs, a, cs, rfl, hbs, ha, hcs⟩ := forall₂_append_cons has
    rw [Loose.list, itemsFrom_append _ hbs hcs, h.loose hswap ha, Nat.zero_add, hbs.length_eq]
    simp only [Slot.item, modify_append_cons]
    cases Loose.word (.number n) <;> rfl
  strict := by
    rintro n y _ _ as (_ | _ | ⟨before, after, hswap⟩) hstrict
    obtain ⟨_, ⟨⟩, has⟩ := Strict.list?_eq_some.1 hstrict
    obtain ⟨bs, a, cs, rfl, hbs, ha, hcs⟩ := forall₂_append_cons has
    rw [Strict.list?, each?_append _ hbs hcs, h.strict hswap ha, hbs.length_eq]
    simp only [Slot.item, modify_append_cons]
    cases Strict.word? (.number n) <;> rfl
  kept := by
    rintro n y _ _ as (_ | _ | ⟨before, after, hswap⟩) hloose k
    obtain ⟨_, ⟨⟩, has⟩ := Loose.list_eq_ok.1 hloose
    obtain ⟨bs, a, cs, rfl, hbs, ha, -⟩ := forall₂_append_cons has
    have hget : (bs ++ slot.set k a :: cs)[bs.length]? = some (slot.set k a) := by simp
    simp only [Slot.item, hbs.length_eq, modify_append_cons, hget]
    exact h.kept hswap ha k

/-! ### Members of a record -/

section

variable {key : String} {before after : List (List Point × Value)} {n : Number} {y v w : Value}
  {a default : α}

theorem Reacts.strict_field (h : Reacts build decode slot) {default : Option α}
    (hlast : ∀ m ∈ after, m.1 ≠ points key) (hswap : Value.Swap (.number n) y slot.path v w)
    (hstrict : Strict.field? key default decode (before ++ (points key, w) :: after) = some a) :
    Strict.field? key default decode (before ++ (points key, v) :: after) =
      (Strict.word? (.number n)).map (slot.set · a) := by
  rw [Strict.field?_eq_some, valuesOf_last hlast] at hstrict
  rcases hstrict with ⟨hnone, -⟩ | ⟨x, hx, ha⟩
  · simp at hnone
  · -- the strict decoder wants no other value under the key
    obtain ⟨hbefore, ⟨⟩⟩ | ⟨-, ⟨⟩⟩ := List.append_eq_singleton_iff.1 hx
    rw [Strict.field?, valuesOf_last hlast, hbefore]
    exact h.strict hswap ha

theorem build_of_required (hlast : ∀ m ∈ after, m.1 ≠ points key)
    (hloose : Loose.required key build (before ++ (points key, w) :: after) = .ok a) :
    build w = .ok a := by
  obtain ⟨x, hx, ha⟩ := Loose.required_eq_ok.1 hloose
  rw [present?_last hlast, Option.filter_eq_some_iff] at hx
  cases hx.1
  exact ha

theorem build_of_optional (hlast : ∀ m ∈ after, m.1 ≠ points key) (hnull : w.isNull = false)
    (hloose : Loose.optional key default build (before ++ (points key, w) :: after) = .ok a) :
    build w = .ok a := by
  rcases Loose.optional_eq_ok.1 hloose with ⟨hnone, -⟩ | ⟨x, hx, ha⟩
  · rw [present?_last hlast, Option.filter_eq_none_iff] at hnone
    simp [hnull] at hnone
  · rw [present?_last hlast, Option.filter_eq_some_iff] at hx
    cases hx.1
    exact ha

/-- The value with the number in it is the one under its key. -/
theorem present?_number (hlast : ∀ m ∈ after, m.1 ≠ points key)
    (hswap : Value.Swap (.number n) y slot.path v w) :
    Loose.present? key (before ++ (points key, v) :: after) = some v := by
  rw [present?_last hlast]
  simp [hswap.isNull_left]

theorem Reacts.required (h : Reacts build decode slot) (hlast : ∀ m ∈ after, m.1 ≠ points key)
    (hswap : Value.Swap (.number n) y slot.path v w) (ha : build w = .ok a) :
    Loose.required key build (before ++ (points key, v) :: after) =
      ((Loose.word (.number n)).mapError (·.underAll (.member key :: slot.path))).map
        (slot.set · a) := by
  rw [Loose.required, present?_number hlast hswap]
  simp only [h.loose hswap ha]
  cases Loose.word (.number n) <;> rfl

theorem Reacts.optional (h : Reacts build decode slot) (hlast : ∀ m ∈ after, m.1 ≠ points key)
    (hswap : Value.Swap (.number n) y slot.path v w) (ha : build w = .ok a) :
    Loose.optional key default build (before ++ (points key, v) :: after) =
      ((Loose.word (.number n)).mapError (·.underAll (.member key :: slot.path))).map
        (slot.set · a) := by
  rw [Loose.optional, present?_number hlast hswap]
  simp only [h.loose hswap ha]
  cases Loose.word (.number n) <;> rfl

end

theorem reacts_mode (entry : ModeRecord.Entry) : Reacts Loose.mode Strict.mode? entry.slot where
  loose := by
    cases entry with
    | width =>
      rintro n y _ _ a (_ | ⟨_, before, after, hlast, hswap⟩) hloose
      obtain ⟨_, ⟨⟩, hwidth, hheight, hrates⟩ := Loose.mode_eq_ok.1 hloose
      rw [Loose.mode_object, reacts_word.required hlast hswap (build_of_required hlast hwidth),
        Loose.required_congr (present?_swap (by decide)), hheight,
        Loose.optional_congr (present?_swap (by decide)), hrates]
      cases Loose.word (.number n) <;> rfl
    | height =>
      rintro n y _ _ a (_ | ⟨_, before, after, hlast, hswap⟩) hloose
      obtain ⟨_, ⟨⟩, hwidth, hheight, hrates⟩ := Loose.mode_eq_ok.1 hloose
      rw [Loose.mode_object, Loose.required_congr (present?_swap (by decide)), hwidth,
        reacts_word.required hlast hswap (build_of_required hlast hheight),
        Loose.optional_congr (present?_swap (by decide)), hrates]
      cases Loose.word (.number n) <;> rfl
    | rate i =>
      rintro n y _ _ a (_ | ⟨_, before, after, hlast, hswap⟩) hloose
      obtain ⟨_, ⟨⟩, hwidth, hheight, hrates⟩ := Loose.mode_eq_ok.1 hloose
      rw [Loose.mode_object, Loose.required_congr (present?_swap (by decide)), hwidth,
        Loose.required_congr (present?_swap (by decide)), hheight,
        (reacts_word.item i).optional hlast hswap
          (build_of_optional hlast hswap.isNull_right hrates)]
      cases Loose.word (.number n) <;> rfl
  strict := by
    cases entry with
    | width =>
      rintro n y _ _ a (_ | ⟨_, before, after, hlast, hswap⟩) hstrict
      obtain ⟨hkeys, hwidth, hheight, hrates⟩ := Strict.mode?_object.1 hstrict
      rw [Strict.mode?, keysAreText_swap, if_pos hkeys, reacts_word.strict_field hlast hswap hwidth,
        field?_swap (by decide), hheight, field?_swap (by decide), hrates]
      cases Strict.word? (.number n) <;> rfl
    | height =>
      rintro n y _ _ a (_ | ⟨_, before, after, hlast, hswap⟩) hstrict
      obtain ⟨hkeys, hwidth, hheight, hrates⟩ := Strict.mode?_object.1 hstrict
      rw [Strict.mode?, keysAreText_swap, if_pos hkeys, field?_swap (by decide), hwidth,
        reacts_word.strict_field hlast hswap hheight, field?_swap (by decide), hrates]
      cases Strict.word? (.number n) <;> rfl
    | rate i =>
      rintro n y _ _ a (_ | ⟨_, before, after, hlast, hswap⟩) hstrict
      obtain ⟨hkeys, hwidth, hheight, hrates⟩ := Strict.mode?_object.1 hstrict
      rw [Strict.mode?, keysAreText_swap, if_pos hkeys, field?_swap (by decide), hwidth,
        field?_swap (by decide), hheight, (reacts_word.item i).strict_field hlast hswap hrates]
      cases Strict.word? (.number n) <;> rfl
  kept := by
    cases entry with
    | width => exact fun _ _ _ => rfl
    | height => exact fun _ _ _ => rfl
    | rate i =>
      rintro n y _ _ a (_ | ⟨_, before, after, hlast, hswap⟩) hloose
      obtain ⟨_, ⟨⟩, -, -, hrates⟩ := Loose.mode_eq_ok.1 hloose
      exact (reacts_word.item i).kept hswap (build_of_optional hlast hswap.isNull_right hrates)

theorem reacts_monitor (entry : MonitorRecord.Entry) :
    Reacts Loose.monitor Strict.monitor? entry.slot where
  loose := by
    cases entry with
    | id =>
      rintro n y _ _ a (_ | ⟨_, before, after, hlast, hswap⟩) hloose
      obtain ⟨_, ⟨⟩, hid, hname, henabled, hmodes⟩ := Loose.monitor_eq_ok.1 hloose
      rw [Loose.monitor_object, reacts_word.required hlast hswap (build_of_required hlast hid),
        Loose.optional_congr (present?_swap (by decide)), hname,
        Loose.optional_congr (present?_swap (by decide)), henabled,
        Loose.optional_congr (present?_swap (by decide)), hmodes]
      cases Loose.word (.number n) <;> rfl
    | mode i entry =>
      rintro n y _ _ a (_ | ⟨_, before, after, hlast, hswap⟩) hloose
      obtain ⟨_, ⟨⟩, hid, hname, henabled, hmodes⟩ := Loose.monitor_eq_ok.1 hloose
      rw [Loose.monitor_object, Loose.required_congr (present?_swap (by decide)), hid,
        Loose.optional_congr (present?_swap (by decide)), hname,
        Loose.optional_congr (present?_swap (by decide)), henabled,
        ((reacts_mode entry).item i).optional hlast hswap
          (build_of_optional hlast hswap.isNull_right hmodes)]
      cases Loose.word (.number n) <;> rfl
  strict := by
    cases entry with
    | id =>
      rintro n y _ _ a (_ | ⟨_, before, after, hlast, hswap⟩) hstrict
      obtain ⟨hkeys, hid, hname, henabled, hmodes⟩ := Strict.monitor?_object.1 hstrict
      rw [Strict.monitor?, keysAreText_swap, if_pos hkeys, reacts_word.strict_field hlast hswap hid,
        field?_swap (by decide), hname, field?_swap (by decide), henabled, field?_swap (by decide),
        hmodes]
      cases Strict.word? (.number n) <;> rfl
    | mode i entry =>
      rintro n y _ _ a (_ | ⟨_, before, after, hlast, hswap⟩) hstrict
      obtain ⟨hkeys, hid, hname, henabled, hmodes⟩ := Strict.monitor?_object.1 hstrict
      rw [Strict.monitor?, keysAreText_swap, if_pos hkeys, field?_swap (by decide), hid,
        field?_swap (by decide), hname, field?_swap (by decide), henabled,
        ((reacts_mode entry).item i).strict_field hlast hswap hmodes]
      cases Strict.word? (.number n) <;> rfl
  kept := by
    cases entry with
    | id => exact fun _ _ _ => rfl
    | mode i entry =>
      rintro n y _ _ a (_ | ⟨_, before, after, hlast, hswap⟩) hloose
      obtain ⟨_, ⟨⟩, -, -, -, hmodes⟩ := Loose.monitor_eq_ok.1 hloose
      exact ((reacts_mode entry).item i).kept hswap
        (build_of_optional hlast hswap.isNull_right hmodes)

/-- A list of monitors is decoded as a list is, though its faults are worded otherwise. -/
theorem reacts_monitors (i : Nat) (entry : MonitorRecord.Entry) :
    Reacts Loose.monitors Strict.monitors? (entry.slot.item i) where
  loose := by
    rintro n y v w a hswap hloose
    have hlist := ((reacts_monitor entry).item i).loose hswap
      (Loose.list_eq_ok.2 (Loose.monitors_eq_ok.1 hloose))
    obtain _ | _ | ⟨before, after, hswap⟩ := hswap
    exact hlist
  strict := ((reacts_monitor entry).item i).strict
  kept hswap hloose := ((reacts_monitor entry).item i).kept hswap
    (Loose.list_eq_ok.2 (Loose.monitors_eq_ok.1 hloose))

end VirtualDisplay
