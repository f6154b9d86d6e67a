import VirtualDisplay.Proofs.Json.Reading
import VirtualDisplay.Record.Loose
import VirtualDisplay.Record.Strict

/-! Records as JSON values. The value of a record is legible, can be held in memory, and gives the record
back to either decoder. -/

namespace VirtualDisplay

open Json

variable {α : Type}

/-! ### Legible values that can be held -/

namespace Json.Value

theorem allLegible_map {f : α → Value} (h : ∀ a, (f a).Legible) (as : List α) :
    AllLegible (as.map f) := by
  induction as with
  | nil => exact trivial
  | cons a as ih => exact ⟨h a, ih⟩

theorem allWithin_map {f : α → Value} {n : Nat} (h : ∀ a, (f a).within n = true) (as : List α) :
    allWithin n (as.map f) = true := by
  induction as with
  | nil => rfl
  | cons a as ih => simp [allWithin, h a, ih]

theorem legible_ofFields {fields : List (String × Value)} (h : ∀ f ∈ fields, f.2.Legible) :
    (ofFields fields).Legible := by
  rw [ofFields, Legible]
  induction fields with
  | nil => exact trivial
  | cons f fs ih =>
    refine ⟨by simp, h f List.mem_cons_self, ih fun g hg => h g (List.mem_cons_of_mem f hg)⟩

theorem within_ofFields {fields : List (String × Value)} {n : Nat}
    (h : ∀ f ∈ fields, f.2.within n = true) : (ofFields fields).within (n + 1) = true := by
  rw [ofFields, within]
  induction fields with
  | nil => rfl
  | cons f fs ih =>
    have htail := ih fun g hg => h g (List.mem_cons_of_mem f hg)
    rw [fieldMembers, List.map_cons, membersWithin, chars?_points, h f List.mem_cons_self]
    exact htail

theorem legible_ofWord (n : UInt32) : (ofWord n).Legible := Number.literal_ofNat n.toNat

theorem within_ofWord (n : UInt32) (levels : Nat) : (ofWord n).within levels = true := by
  have hn : n.toNat < UInt64.size := Nat.lt_trans n.toNat_lt_size (by decide)
  simp [ofWord, within, Number.overflows_ofNat hn]

theorem legible_ofText (s : String) : (ofText s).Legible := by simp [ofText, Legible]

theorem within_ofText (s : String) (levels : Nat) : (ofText s).within levels = true := by
  simp [ofText, within]

end Json.Value

theorem ModeRecord.fields_nodup (r : ModeRecord) : (r.fields.map (·.1)).Nodup :=
  show ["width", "height", "refresh_rates"].Nodup by decide

theorem MonitorRecord.fields_nodup (r : MonitorRecord) : (r.fields.map (·.1)).Nodup :=
  show ["id", "name", "enabled", "modes"].Nodup by decide

theorem ModeRecord.legible_toValue (r : ModeRecord) : r.toValue.Legible := by
  apply Value.legible_ofFields
  simp only [ModeRecord.fields, List.mem_cons, List.not_mem_nil, or_false]
  rintro f (rfl | rfl | rfl)
  · exact Value.legible_ofWord _
  · exact Value.legible_ofWord _
  · exact Value.allLegible_map Value.legible_ofWord _

theorem ModeRecord.within_toValue (r : ModeRecord) (levels : Nat) :
    r.toValue.within (levels + 2) = true := by
  apply Value.within_ofFields
  simp only [ModeRecord.fields, List.mem_cons, List.not_mem_nil, or_false]
  rintro f (rfl | rfl | rfl)
  · exact Value.within_ofWord _ _
  · exact Value.within_ofWord _ _
  · exact Value.allWithin_map (Value.within_ofWord · _) _

theorem MonitorRecord.legible_toValue (r : MonitorRecord) : r.toValue.Legible := by
  apply Value.legible_ofFields
  simp only [MonitorRecord.fields, List.mem_cons, List.not_mem_nil, or_false]
  rintro f (rfl | rfl | rfl | rfl)
  · exact Value.legible_ofWord _
  · cases r.name with
    | none => exact trivial
    | some s => exact Value.legible_ofText s
  · exact trivial
  · exact Value.allLegible_map ModeRecord.legible_toValue _

theorem MonitorRecord.within_toValue (r : MonitorRecord) (levels : Nat) :
    r.toValue.within (levels + 4) = true := by
  apply Value.within_ofFields
  simp only [MonitorRecord.fields, List.mem_cons, List.not_mem_nil, or_false]
  rintro f (rfl | rfl | rfl | rfl)
  · exact Value.within_ofWord _ _
  · cases r.name with
    | none => rfl
    | some s => exact Value.within_ofText s _
  · rfl
  · exact Value.allWithin_map (ModeRecord.within_toValue · levels) _

namespace DriverState

theorem legible_toValue (rs : DriverState) : (toValue rs).Legible :=
  Value.allLegible_map MonitorRecord.legible_toValue rs

/-- A list of records nests five levels deep. -/
theorem within_toValue (rs : DriverState) (levels : Nat) : (toValue rs).within (levels + 5) = true :=
  Value.allWithin_map (MonitorRecord.within_toValue · levels) rs

theorem plain_toValue (rs : DriverState) : (toValue rs).plain = true := within_toValue rs 122

end DriverState

/-! ### Fields under distinct keys -/

section
variable {fields : List (String × Value)} {key : String} {v : Value}

theorem member?_absent (h : key ∉ fields.map (·.1)) : member? key (fieldMembers fields) = none := by
  induction fields with
  | nil => rfl
  | cons f fs ih =>
    simp only [List.map_cons, List.mem_cons, not_or] at h
    simp [fieldMembers, member?, Ne.symm h.1, show member? key (fs.map _) = none from ih h.2]

theorem member?_field (hd : (fields.map (·.1)).Nodup) (hm : (key, v) ∈ fields) :
    member? key (fieldMembers fields) = some v := by
  induction fields with
  | nil => exact nomatch hm
  | cons f fs ih =>
    obtain ⟨hf, hfs⟩ := List.nodup_cons.1 hd
    rw [fieldMembers, List.map_cons, member?]
    rcases List.mem_cons.1 hm with rfl | hm
    · rw [show member? key (fs.map _) = none from member?_absent hf]
      simp
    · rw [show member? key (fs.map _) = some v from ih hfs hm]
      rfl

theorem valuesOf_absent (h : key ∉ fields.map (·.1)) :
    Strict.valuesOf key (fieldMembers fields) = [] := by
  rw [Strict.valuesOf, List.map_eq_nil_iff, List.filter_eq_nil_iff]
  rintro m hm
  obtain ⟨f, hf, rfl⟩ := List.mem_map.1 hm
  simp only [decide_eq_true_eq, points_inj]
  rintro rfl
  exact h (List.mem_map_of_mem hf)

theorem valuesOf_field (hd : (fields.map (·.1)).Nodup) (hm : (key, v) ∈ fields) :
    Strict.valuesOf key (fieldMembers fields) = [v] := by
  induction fields with
  | nil => exact nomatch hm
  | cons f fs ih =>
    obtain ⟨hf, hfs⟩ := List.nodup_cons.1 hd
    have hcons : Strict.valuesOf key (fieldMembers (f :: fs)) =
        (if f.1 = key then [f.2] else []) ++ Strict.valuesOf key (fieldMembers fs) := by
      by_cases h : f.1 = key <;> simp [Strict.valuesOf, fieldMembers, h]
    rcases List.mem_cons.1 hm with rfl | hm
    · rw [hcons, if_pos rfl, valuesOf_absent hf, List.append_nil]
    · have hne : f.1 ≠ key := fun h => hf (List.mem_map.2 ⟨_, hm, h.symm⟩)
      rw [hcons, if_neg hne, ih hfs hm, List.nil_append]

theorem keysAreText_fieldMembers (fields : List (String × Value)) :
    Strict.keysAreText (fieldMembers fields) = true := by
  simp [Strict.keysAreText, fieldMembers]

end

/-! ### The loose decoder -/

namespace Loose

variable {fields : List (String × Value)} {key : String} {v : Value}
  {build : Value → Except RecordError α} {a : α}

theorem word_ofWord (n : UInt32) : word (.ofWord n) = .ok n := by
  have hn : n.toNat < UInt64.size := Nat.lt_trans n.toNat_lt_size (by decide)
  simp [word, Value.ofWord, Number.kind_ofNat hn, n.toNat_lt_size]

theorem text_ofText (s : String) : text (.ofText s) = .ok s := by simp [text, Value.ofText]

theorem itemsFrom_map {f : α → Value} (h : ∀ a, build (f a) = .ok a) (i : Nat) (as : List α) :
    itemsFrom build i (as.map f) = .ok as := by
  induction as generalizing i with
  | nil => rfl
  | cons a as ih =>
    rw [List.map_cons, itemsFrom, h a, ih]
    rfl

theorem list_map {f : α → Value} (h : ∀ a, build (f a) = .ok a) (as : List α) :
    list build (.array (as.map f)) = .ok as := itemsFrom_map h 0 as

theorem present?_field (hd : (fields.map (·.1)).Nodup) (hm : (key, v) ∈ fields)
    (hv : v.isNull = false) : present? key (fieldMembers fields) = some v := by
  rw [present?, member?_field hd hm, Option.filter_some, hv]
  rfl

theorem required_field (hd : (fields.map (·.1)).Nodup) (hm : (key, v) ∈ fields)
    (hv : v.isNull = false) (hb : build v = .ok a) :
    required key build (fieldMembers fields) = .ok a := by
  rw [required, present?_field hd hm hv]
  dsimp only
  rw [hb]
  rfl

theorem optional_field (default : α) (hd : (fields.map (·.1)).Nodup) (hm : (key, v) ∈ fields)
    (hv : v.isNull = false) (hb : build v = .ok a) :
    optional key default build (fieldMembers fields) = .ok a := by
  rw [optional, present?_field hd hm hv]
  dsimp only
  rw [hb]
  rfl

theorem optional_null (default : α) (hd : (fields.map (·.1)).Nodup) (hm : (key, .null) ∈ fields) :
    optional key default build (fieldMembers fields) = .ok default := by
  rw [optional, present?, member?_field hd hm]
  rfl

theorem mode_toValue (r : ModeRecord) : mode r.toValue = .ok r := by
  have hd := r.fields_nodup
  have width : required "width" word (fieldMembers r.fields) = .ok r.width :=
    required_field hd (by simp [ModeRecord.fields]) rfl (word_ofWord r.width)
  have height : required "height" word (fieldMembers r.fields) = .ok r.height :=
    required_field hd (by simp [ModeRecord.fields]) rfl (word_ofWord r.height)
  have rates : optional "refresh_rates" [] (list word) (fieldMembers r.fields) = .ok r.rates :=
    optional_field [] hd (by simp [ModeRecord.fields]) rfl (list_map word_ofWord r.rates)
  rw [mode, ModeRecord.toValue, Value.ofFields, members]
  simp only [bind, Except.bind, width, height, rates]
  rfl

theorem monitor_toValue (r : MonitorRecord) : monitor r.toValue = .ok r := by
  have hd := r.fields_nodup
  have id : required "id" word (fieldMembers r.fields) = .ok r.id :=
    required_field hd (by simp [MonitorRecord.fields]) rfl (word_ofWord r.id)
  have name : optional "name" none (fun v => (text v).map some) (fieldMembers r.fields) =
      .ok r.name := by
    cases hn : r.name with
    | none => exact optional_null none hd (by simp [MonitorRecord.fields, hn])
    | some s =>
      have htext : (text (.ofText s)).map some = .ok (some s) := by rw [text_ofText]; rfl
      exact optional_field none hd (by simp [MonitorRecord.fields, hn]) rfl htext
  have enabled : optional "enabled" true boolean (fieldMembers r.fields) = .ok r.enabled :=
    optional_field (v := .bool r.enabled) true hd (by simp [MonitorRecord.fields]) rfl rfl
  have modes : optional "modes" [] (list mode) (fieldMembers r.fields) = .ok r.modes :=
    optional_field [] hd (by simp [MonitorRecord.fields]) rfl (list_map mode_toValue r.modes)
  rw [monitor, MonitorRecord.toValue, Value.ofFields, members]
  simp only [bind, Except.bind, id, name, enabled, modes]
  rfl

theorem monitors_toValue (rs : DriverState) : monitors (DriverState.toValue rs) = .ok rs :=
  itemsFrom_map monitor_toValue 0 rs

end Loose

/-! ### The strict decoder -/

namespace Strict

variable {fields : List (String × Value)} {key : String} {v : Value}

theorem word?_ofWord (n : UInt32) : word? (.ofWord n) = some n := by
  have hn : n.toNat < UInt64.size := Nat.lt_trans n.toNat_lt_size (by decide)
  simp [word?, Value.ofWord, Number.kind_ofNat hn, n.toNat_lt_size]

theorem each?_map {decode : Value → Option α} {f : α → Value} (h : ∀ a, decode (f a) = some a)
    (as : List α) : each? decode (as.map f) = some as := by
  induction as with
  | nil => rfl
  | cons a as ih =>
    rw [List.map_cons, each?, h a, ih]
    rfl

theorem list?_map {decode : Value → Option α} {f : α → Value} (h : ∀ a, decode (f a) = some a)
    (as : List α) : list? decode (.array (as.map f)) = some as := each?_map h as

theorem field?_field (default : Option α) (decode : Value → Option α)
    (hd : (fields.map (·.1)).Nodup) (hm : (key, v) ∈ fields) :
    field? key default decode (fieldMembers fields) = decode v := by
  rw [field?, valuesOf_field hd hm]

theorem mode?_toValue (r : ModeRecord) : mode? r.toValue = some r := by
  have hd := r.fields_nodup
  have width : field? "width" none word? (fieldMembers r.fields) = some r.width :=
    (field?_field none word? hd (by simp [ModeRecord.fields])).trans (word?_ofWord r.width)
  have height : field? "height" none word? (fieldMembers r.fields) = some r.height :=
    (field?_field none word? hd (by simp [ModeRecord.fields])).trans (word?_ofWord r.height)
  have rates : field? "refresh_rates" (some []) (list? word?) (fieldMembers r.fields) = some r.rates :=
    (field?_field _ _ hd (by simp [ModeRecord.fields])).trans (list?_map word?_ofWord r.rates)
  rw [ModeRecord.toValue, Value.ofFields, mode?, if_pos (keysAreText_fieldMembers _), width, height, rates]
  rfl

theorem monitor?_toValue (r : MonitorRecord) : monitor? r.toValue = some r := by
  have hd := r.fields_nodup
  have id : field? "id" none word? (fieldMembers r.fields) = some r.id :=
    (field?_field none word? hd (by simp [MonitorRecord.fields])).trans (word?_ofWord r.id)
  have name : field? "name" (some none) name? (fieldMembers r.fields) = some r.name := by
    rw [field?_field _ _ hd (v := (r.name.map Value.ofText).getD .null) (by simp [MonitorRecord.fields])]
    cases r.name with
    | none => rfl
    | some s => simp [name?, Value.ofText]
  have enabled : field? "enabled" (some true) boolean? (fieldMembers r.fields) = some r.enabled :=
    field?_field (v := .bool r.enabled) _ _ hd (by simp [MonitorRecord.fields])
  have modes : field? "modes" (some []) (list? mode?) (fieldMembers r.fields) = some r.modes :=
    (field?_field _ _ hd (by simp [MonitorRecord.fields])).trans (list?_map mode?_toValue r.modes)
  rw [MonitorRecord.toValue, Value.ofFields, monitor?, if_pos (keysAreText_fieldMembers _), id, name,
    enabled, modes]
  rfl

theorem monitors?_toValue (rs : DriverState) : monitors? (DriverState.toValue rs) = some rs :=
  list?_map monitor?_toValue rs

end Strict
end VirtualDisplay
