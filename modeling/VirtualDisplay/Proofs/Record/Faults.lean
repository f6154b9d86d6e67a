import VirtualDisplay.Proofs.Record.Checks

/-! Which fault the loose decoder reports. Each part of the decoder reports the first fault of the checks
it stands for, and parts in sequence report the first fault of their checks in sequence. -/

namespace VirtualDisplay

open Json

variable {α β : Type}

/-! ### Reports -/

namespace Loose

/-- A result is a failure if and only if one of the checks fails, and then with the first fault. -/
def Reports (result : Except RecordError α) (v : Value) (cs : List Check) : Prop :=
  ∀ e, result = .error e ↔ FirstFault v cs e

variable {x : Except RecordError α} {v y : Value} {cs ds : List Check} {step : PathStep}
  {key : String} {ms : List (List Point × Value)} {build : Value → Except RecordError α}
  {checks : Value → List Check}

theorem reports_ok (a : α) : Reports (.ok a) v [] :=
  fun _ => ⟨nofun, nofun⟩

theorem Reports.bind {f : α → Except RecordError β} (h : Reports x v cs)
    (hf : ∀ a, x = .ok a → Reports (f a) v ds) : Reports (x >>= f) v (cs ++ ds) := by
  intro e
  rw [firstFault_append]
  cases x with
  | error e' =>
    have hfault : FirstFault v cs e' := (h e').1 rfl
    rw [← h e]
    constructor
    · rintro ⟨⟩
      exact .inl rfl
    · rintro (⟨⟨⟩⟩ | ⟨hno, -⟩)
      · rfl
      · exact absurd hfault (hno e')
  | ok a =>
    have hnone : ∀ e', ¬ FirstFault v cs e' := fun e' he' => nomatch (h e').2 he'
    constructor
    · exact fun he => .inr ⟨hnone, (hf a rfl e).1 he⟩
    · rintro (he | ⟨-, he⟩)
      · exact absurd he (hnone e)
      · exact (hf a rfl e).2 he

theorem Reports.map (h : Reports x v cs) (f : α → β) : Reports (x >>= fun a => pure (f a)) v cs := by
  have hbind := h.bind fun a _ => reports_ok (f a)
  rw [List.append_nil] at hbind
  exact hbind

theorem Reports.under (h : Reports x y cs) (hy : v.part? step = some y) :
    Reports (x.mapError (·.under step)) v (cs.map (Check.under step)) := by
  intro e
  simp only [firstFault_under hy, mapError_eq_error, h _]

theorem reports_members : Reports (members v) v [⟨[], .object⟩] := by
  intro e
  rw [firstFault_here]
  constructor
  · intro h
    cases v <;> cases h <;> exact .object rfl
  · rintro ⟨h⟩
    cases v <;> first | rfl | cases h

theorem badWord_iff {e : RecordError} : word v = .error e ↔ BadWord v e := by
  cases v with
  | number n =>
    by_cases hn : ∃ z, n.Holds z
    · obtain ⟨z, hz⟩ := hn
      rw [word_of_holds hz]
      split
      · next hrange =>
        refine ⟨nofun, ?_⟩
        rintro (hno | ⟨⟨⟩, hz', hout⟩)
        · exact absurd ⟨n, z, rfl, hz⟩ hno
        · exact absurd (hz.unique hz' ▸ hrange) hout
      · next hout =>
        constructor
        · rintro ⟨⟩
          exact .range rfl hz hout
        · rintro (hno | ⟨⟨⟩, -, -⟩)
          · exact absurd ⟨n, z, rfl, hz⟩ hno
          · rfl
    · rw [word_of_not_holds (not_exists.1 hn)]
      constructor
      · rintro ⟨⟩
        refine .type ?_
        rintro ⟨_, z, ⟨⟩, hz⟩
        exact hn ⟨z, hz⟩
      · rintro (- | ⟨⟨⟩, hz, -⟩)
        · rfl
        · exact absurd ⟨_, hz⟩ hn
  | _ =>
    constructor
    · rintro ⟨⟩
      exact .type nofun
    · rintro (- | ⟨⟨⟩, -, -⟩)
      rfl

theorem reports_word : Reports (word v) v [⟨[], .word⟩] := by
  intro e
  rw [firstFault_here, badWord_iff]
  exact ⟨.word, fun h => by cases h; assumption⟩

theorem reports_required : Reports (required key word ms) (.object ms) [⟨[], .required key⟩] := by
  intro e
  rw [firstFault_here, required]
  cases hp : present? key ms with
  | none =>
    constructor
    · rintro ⟨⟩
      exact .missing rfl (present?_eq_none_iff.1 hp)
    · rintro (- | - | - | ⟨hy, hnull, -⟩)
      · rfl
      · cases hp.symm.trans (present?_eq_some_iff.2 ⟨hy, hnull⟩)
  | some y =>
    obtain ⟨hy, hnull⟩ := present?_eq_some_iff.1 hp
    simp only [mapError_eq_error, badWord_iff]
    constructor
    · rintro ⟨e', he', rfl⟩
      exact .required hy hnull he'
    · intro h
      cases h with
      | missing hx homitted =>
        cases hx
        cases hp.symm.trans (present?_eq_none_iff.2 homitted)
      | required hy' _ he' =>
        cases hy.symm.trans hy'
        exact ⟨_, he', rfl⟩

/-- A builder that takes all values of a type and nothing else. -/
def TakesType (build : Value → Except RecordError α) (expected : Expected) : Prop :=
  ∀ v e, build v = .error e ↔ ¬ v.Is expected ∧ e = .wrongType [] expected

theorem reports_optional {default : α} {expected : Expected} (h : TakesType build expected) :
    Reports (optional key default build ms) (.object ms) [⟨[], .optional key expected⟩] := by
  intro e
  rw [firstFault_here, optional]
  cases hp : present? key ms with
  | none =>
    constructor
    · rintro ⟨⟩
    · intro h
      cases h with
      | optional hy hnull => cases hp.symm.trans (present?_eq_some_iff.2 ⟨hy, hnull⟩)
  | some y =>
    obtain ⟨hy, hnull⟩ := present?_eq_some_iff.1 hp
    simp only [mapError_eq_error, h y]
    constructor
    · rintro ⟨_, ⟨hno, rfl⟩, rfl⟩
      exact .optional hy hnull hno
    · intro h
      cases h with
      | optional hy' _ hno =>
        cases hy.symm.trans hy'
        exact ⟨_, ⟨hno, rfl⟩, rfl⟩

theorem takesType_name : TakesType (fun v => (text v).map some) .string := by
  intro v e
  change (text v).map some = .error e ↔ _
  cases ht : text v with
  | ok s => simp [Except.map, Value.Is, text_eq_ok.1 ht]
  | error e' =>
    have he' : e' = .wrongType [] .string := by
      unfold text at ht
      split at ht
      · split at ht <;> cases ht
        rfl
      · cases ht
        rfl
    have hno : ¬ v.Is .string := by
      rintro ⟨s, hs⟩
      cases ht.symm.trans (text_eq_ok.2 hs)
    simp [Except.map, hno, he', eq_comm]

theorem takesType_boolean : TakesType boolean .boolean := by
  intro v e
  cases v <;> simp [boolean, Value.Is, eq_comm]

/-- The items of an array. -/
def array : Value → Except RecordError (List Value)
  | .array vs => .ok vs
  | _ => .error (.wrongType [] .array)

theorem takesType_array : TakesType array .array := by
  intro v e
  cases v <;> simp [array, Value.Is, eq_comm]

theorem optional_list_eq : optional key [] (list build) ms =
    optional key [] array ms >>= fun vs => (itemsFrom build 0 vs).mapError (·.under (.member key)) := by
  unfold optional
  cases present? key ms with
  | none => rfl
  | some v => cases v <;> rfl

theorem reports_itemsFrom (h : ∀ v, Reports (build v) v (checks v)) (before vs : List Value) :
    Reports (itemsFrom build before.length vs) (.array (before ++ vs))
      ((vs.zipIdx before.length).flatMap fun p => (checks p.1).map (Check.under (.index p.2))) := by
  -- the items that went before stay in the array, so that the index of the next one is their number
  induction vs generalizing before with
  | nil => exact reports_ok []
  | cons w vs ih =>
    have hw : (Value.array (before ++ w :: vs)).part? (.index before.length) = some w := by
      simp [Value.part?]
    rw [itemsFrom, List.zipIdx_cons, List.flatMap_cons]
    refine ((h w).under hw).bind fun a _ => Reports.map ?_ _
    have hrest := ih (before ++ [w])
    rw [List.append_assoc, List.length_append] at hrest
    exact hrest

theorem reports_items (h : ∀ v, Reports (build v) v (checks v)) (vs : List Value) :
    Reports (itemsFrom build 0 vs) (.array vs) (Check.ofItems checks vs) :=
  reports_itemsFrom h [] vs

theorem reports_optional_list (h : ∀ v, Reports (build v) v (checks v)) :
    Reports (optional key [] (list build) ms) (.object ms)
      (Check.ofArray key checks (.object ms)) := by
  rw [optional_list_eq]
  refine (reports_optional takesType_array).bind fun vs hvs => ?_
  rcases optional_eq_ok.1 hvs with ⟨hnone, rfl⟩ | ⟨y, hy, hvs⟩
  · -- null has no items, so it puts nothing to the check
    have hempty : ((Value.object ms).part? (.member key)).elim []
        (fun x => Check.ofItems checks x.items) = [] := by
      rcases present?_eq_none_iff.1 hnone with hno | hnull
      · rw [Value.part?, hno, Option.elim_none]
      · rw [Value.part?, hnull, Option.elim_some]
        rfl
    rw [hempty]
    exact reports_ok []
  · have hy' := (present?_eq_some_iff.1 hy).1
    cases y <;> cases hvs
    rw [Value.part?, hy', Option.elim_some]
    exact (reports_items h vs).under hy'

theorem reports_mode (v : Value) : Reports (mode v) v (Check.ofMode v) := by
  refine reports_members.bind fun ms hms => ?_
  rw [members_eq_ok] at hms
  subst hms
  refine reports_required.bind fun width _ => ?_
  refine reports_required.bind fun height _ => ?_
  exact (reports_optional_list fun _ => reports_word).map _

theorem reports_monitor (v : Value) : Reports (monitor v) v (Check.ofMonitor v) := by
  refine reports_members.bind fun ms hms => ?_
  rw [members_eq_ok] at hms
  subst hms
  refine reports_required.bind fun id _ => ?_
  refine (reports_optional takesType_name).bind fun name _ => ?_
  refine (reports_optional takesType_boolean).bind fun enabled _ => ?_
  exact (reports_optional_list reports_mode).map _

end Loose

/-! ### Wording -/

namespace RecordError

/-- The place a message begins with. -/
def placeText : RecordError → String
  | notAnObject [] => "<root>"
  | e => pathText e.path

def complaint : RecordError → String
  | malformed => "..."
  | notAnObject _ => "expected an object"
  | missingField _ => "missing required field"
  | wrongType _ expected => "expected " ++ expected.text
  | outOfRange _ value => value ++ " is out of range"

variable {e : RecordError}

theorem message_eq (h : e ≠ malformed) : e.message = e.placeText ++ ": " ++ e.complaint := by
  cases e with
  | malformed => exact absurd rfl h
  | notAnObject path =>
    cases path with
    | nil => rfl
    | cons => simp [message, placeText, complaint, path, String.append_assoc]
  | wrongType path expected =>
    have hcolon : ": expected " = ": " ++ "expected " := rfl
    rw [message, hcolon, complaint, ← String.append_assoc, ← String.append_assoc]
    rfl
  | _ => simp [message, placeText, complaint, path, String.append_assoc]

theorem path_under (h : e ≠ malformed) (step : PathStep) : (e.under step).path = step :: e.path := by
  cases e with
  | malformed => exact absurd rfl h
  | _ => rfl

theorem placeText_eq (h : e.path ≠ []) : e.placeText = pathText e.path := by
  cases e with
  | notAnObject path =>
    cases path with
    | nil => exact absurd rfl h
    | cons => rfl
  | _ => rfl

theorem placeText_under (i : Nat)
    (h : e = notAnObject [] ∨ ∃ key path, e.path = .member key :: path) :
    (e.under (.index i)).placeText = "[" ++ String.ofList (Text.digits i) ++ "]" ++
      if e = notAnObject [] then "" else "." ++ e.placeText := by
  rcases h with rfl | ⟨key, path, hpath⟩
  · rfl
  · have hmalformed : e ≠ malformed := by
      rintro rfl
      cases hpath
    have hroot : e ≠ notAnObject [] := by
      rintro rfl
      cases hpath
    have hunder := path_under hmalformed (.index i)
    rw [if_neg hroot, placeText_eq (by simp [hunder]), placeText_eq (by simp [hpath]), hunder, hpath]
    simp [pathText, pathText.following, String.append_assoc]

end RecordError

/-! ### Lists of monitors -/

namespace Loose

variable {build : Value → Except RecordError α} {i : Nat} {v : Value} {vs : List Value}
  {e : RecordError}

theorem itemsFrom_cons_of_error (h : build v = .error e) :
    itemsFrom build i (v :: vs) = .error (e.under (.index i)) := by
  rw [itemsFrom, h]
  rfl

theorem itemsFrom_cons_of_ok {a : α} (h : build v = .ok a) :
    itemsFrom build i (v :: vs) = .error e ↔ itemsFrom build (i + 1) vs = .error e := by
  rw [itemsFrom, h]
  change (itemsFrom build (i + 1) vs >>= fun as => .ok (a :: as)) = _ ↔ _
  cases itemsFrom build (i + 1) vs with
  | error e' => rfl
  | ok as => constructor <;> rintro ⟨⟩

/-- The items fail as the first one that fails, and the index is put in front of the path. -/
theorem itemsFrom_eq_error : itemsFrom build i vs = .error e ↔
    ∃ before x after e', vs = before ++ x :: after ∧ (∀ y ∈ before, ∃ a, build y = .ok a) ∧
      build x = .error e' ∧ e = e'.under (.index (i + before.length)) := by
  induction vs generalizing i with
  | nil => simp [itemsFrom]
  | cons v vs ih =>
    cases hv : build v with
    | error e' =>
      rw [itemsFrom_cons_of_error hv]
      constructor
      · rintro ⟨⟩
        exact ⟨[], v, vs, e', rfl, List.forall_mem_nil _, hv, rfl⟩
      · rintro ⟨before, x, after, e'', hsplit, hbefore, hx, rfl⟩
        cases before with
        | nil =>
          cases hsplit
          cases hv.symm.trans hx
          rfl
        | cons y before =>
          cases hsplit
          obtain ⟨a, ha⟩ := hbefore _ List.mem_cons_self
          cases hv.symm.trans ha
    | ok a =>
      rw [itemsFrom_cons_of_ok hv, ih]
      constructor
      · rintro ⟨before, x, after, e', rfl, hbefore, hx, rfl⟩
        refine ⟨v :: before, x, after, e', rfl, List.forall_mem_cons.2 ⟨⟨a, hv⟩, hbefore⟩, hx, ?_⟩
        rw [List.length_cons, Nat.add_assoc, Nat.add_comm 1]
      · rintro ⟨before, x, after, e', hsplit, hbefore, hx, rfl⟩
        cases before with
        | nil =>
          cases hsplit
          cases hv.symm.trans hx
        | cons y before =>
          cases hsplit
          refine ⟨before, x, after, e', rfl, (List.forall_mem_cons.1 hbefore).2, hx, ?_⟩
          rw [List.length_cons, Nat.add_assoc, Nat.add_comm 1]

theorem exists_itemsFrom_error :
    (∃ e, itemsFrom build i vs = .error e) ↔ ∃ x ∈ vs, ∃ e, build x = .error e := by
  constructor
  · rintro ⟨e, he⟩
    obtain ⟨before, x, after, e', rfl, -, hx, -⟩ := itemsFrom_eq_error.1 he
    exact ⟨x, by simp, e', hx⟩
  · rintro ⟨x, hx, e, he⟩
    cases hitems : itemsFrom build i vs with
    | error e' => exact ⟨e', rfl⟩
    | ok as =>
      obtain ⟨a, ha⟩ := exists_of_forall₂ (itemsFrom_eq_ok.1 hitems) hx
      cases he.symm.trans ha

theorem monitor_culprit (h : monitor v = .error e) : Culprit v e := by
  obtain ⟨c, hc, hfails⟩ := exists_fails_of_firstFault ((reports_monitor v e).1 h)
  exact hfails.culprit (Check.fit_ofMonitor hc)

theorem monitor_path (h : monitor v = .error e) :
    e = .notAnObject [] ∨ ∃ key path, e.path = .member key :: path := by
  obtain ⟨c, hc, hfails⟩ := exists_fails_of_firstFault ((reports_monitor v e).1 h)
  rcases Check.path_ofMonitor hc with rfl | ⟨key, path, hpath⟩
  · cases Check.fails_here.1 hfails
    exact .inl rfl
  · exact .inr ⟨key, path, hfails.path_eq.trans hpath⟩

theorem not_culprit_malformed : ¬ Culprit v .malformed := nofun

/-- The loose decoder of monitors reports the first fault, says where it is, and the path leads there.
A list of monitors fails as the first monitor in it that fails. -/
theorem reports_first_fault :
    (∀ v e, monitor v = .error e ↔ FirstFault v (Check.ofMonitor v) e) ∧
    (∀ v e, monitor v = .error e →
      Culprit v e ∧ e.message = e.placeText ++ ": " ++ e.complaint) ∧
    (∀ vs, (∃ e, monitors (.array vs) = .error e) ↔ ∃ x ∈ vs, ∃ e, monitor x = .error e) ∧
    ∀ vs e, monitors (.array vs) = .error e ↔ ∃ before x after e',
      vs = before ++ x :: after ∧ (∀ y ∈ before, ∃ r, monitor y = .ok r) ∧ monitor x = .error e' ∧
      e = e'.under (.index before.length) ∧
      e.placeText = "[" ++ String.ofList (Text.digits before.length) ++ "]" ++
        if e' = .notAnObject [] then "" else "." ++ e'.placeText := by
  refine ⟨reports_monitor, fun v e h => ?_, fun vs => exists_itemsFrom_error, fun vs e => ?_⟩
  · have hculprit := monitor_culprit h
    refine ⟨hculprit, RecordError.message_eq ?_⟩
    rintro rfl
    exact not_culprit_malformed hculprit
  · rw [monitors, itemsFrom_eq_error]
    constructor
    · rintro ⟨before, x, after, e', hvs, hbefore, hx, rfl⟩
      rw [Nat.zero_add]
      exact ⟨before, x, after, e', hvs, hbefore, hx, rfl,
        RecordError.placeText_under _ (monitor_path hx)⟩
    · rintro ⟨before, x, after, e', hvs, hbefore, hx, rfl, -⟩
      rw [← Nat.zero_add before.length]
      exact ⟨before, x, after, e', hvs, hbefore, hx, rfl⟩

/-- A height that needs 33 bits, in the second monitor of a list. -/
theorem reports_first_fault_of_large_height :
    let mode := Value.ofFields [("width", .ofWord 800), ("height", .number (.ofNat 4294967296))]
    let good := Value.ofFields [("id", .ofWord 1)]
    let bad := Value.ofFields [("id", .ofWord 2), ("modes", .array [mode])]
    let e := RecordError.outOfRange [.member "modes", .index 0, .member "height"] "4294967296"
    monitor bad = .error e ∧ Culprit bad e ∧
      e.message = e.placeText ++ ": " ++ e.complaint ∧
      (∃ r, monitor good = .ok r) ∧ monitors (.array [good, bad]) = .error (e.under (.index 1)) ∧
      (e.under (.index 1)).message = "[1].modes[0].height: 4294967296 is out of range" := by
  intro mode good bad e
  have hbad : monitor bad = .error e := by
    simp only [mode, bad, e]
    rfl
  have hgood : monitor good = .ok { id := 1 } := rfl
  obtain ⟨hculprit, hmessage⟩ := reports_first_fault.2.1 bad e hbad
  refine ⟨hbad, hculprit, hmessage, ⟨_, hgood⟩, ?_, rfl⟩
  refine (reports_first_fault.2.2.2 [good, bad] _).2 ⟨[good], bad, [], e, rfl, ?_, hbad, rfl, rfl⟩
  exact fun y hy => ⟨_, List.mem_singleton.1 hy ▸ hgood⟩

end Loose
end VirtualDisplay
