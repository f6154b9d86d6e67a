import VirtualDisplay.Proofs.Record.Agreement
import VirtualDisplay.Proofs.Record.Spelling

/-! The checks that a monitor is put to, in order, and what it means that one of them is the first to
fail. A check looks at one place in the value, and its fault carries the path from the value to the
culprit. -/

namespace VirtualDisplay

open Json

/-! ### Places in a value -/

namespace Json.Value

def part? : PathStep → Value → Option Value
  | .member key, object ms => member? key ms
  | .index i, array vs => vs[i]?
  | _, _ => none

/-- What a path leads to. -/
def at? : List PathStep → Value → Option Value
  | [], v => some v
  | step :: path, v => (v.part? step).bind (at? path)

theorem at?_concat (path : List PathStep) (step : PathStep) (v : Value) :
    v.at? (path ++ [step]) = (v.at? path).bind (part? step) := by
  induction path generalizing v with
  | nil => cases h : v.part? step <;> simp [at?, h]
  | cons s path ih =>
    cases h : v.part? s <;> simp [at?, h, ih]

def Is : Expected → Value → Prop
  | .integer, v => ∃ n z, v = number n ∧ n.Holds z
  | .string, v => ∃ s, v = string (points s)
  | .boolean, v => ∃ b, v = bool b
  | .array, v | .monitors, v => ∃ vs, v = array vs

end Json.Value

namespace RecordError

/-- The same fault, seen from where a path starts. -/
def underAll (path : List PathStep) (e : RecordError) : RecordError := path.foldr under e

def path : RecordError → List PathStep
  | malformed => []
  | notAnObject path | missingField path | wrongType path _ | outOfRange path _ => path

variable {place rest : List PathStep}

theorem underAll_of_under (fault : List PathStep → RecordError)
    (h : ∀ step path, (fault path).under step = fault (step :: path)) :
    underAll place (fault rest) = fault (place ++ rest) := by
  induction place with
  | nil => rfl
  | cons step place ih =>
    rw [List.cons_append, ← h, ← ih]
    rfl

@[simp] theorem underAll_notAnObject :
    underAll place (notAnObject rest) = notAnObject (place ++ rest) :=
  underAll_of_under notAnObject fun _ _ => rfl

@[simp] theorem underAll_missingField :
    underAll place (missingField rest) = missingField (place ++ rest) :=
  underAll_of_under missingField fun _ _ => rfl

@[simp] theorem underAll_wrongType {expected : Expected} :
    underAll place (wrongType rest expected) = wrongType (place ++ rest) expected :=
  underAll_of_under (wrongType · expected) fun _ _ => rfl

@[simp] theorem underAll_outOfRange {value : String} :
    underAll place (outOfRange rest value) = outOfRange (place ++ rest) value :=
  underAll_of_under (outOfRange · value) fun _ _ => rfl

end RecordError

/-! ### Checks -/

inductive Test
  | object
  | word
  | required (key : String)
  | optional (key : String) (expected : Expected)

structure Check where
  place : List PathStep
  test : Test

/-- Neither an integer nor one that 32 bits hold. -/
inductive BadWord (x : Value) : RecordError → Prop
  | type (h : ¬ x.Is .integer) : BadWord x (.wrongType [] .integer)
  | range {n : Number} {z : Int} (hx : x = .number n) (hz : n.Holds z) (h : ¬ (0 ≤ z ∧ z < UInt32.size)) :
    BadWord x (.outOfRange [] (String.ofList n.text))

inductive Test.Fails (x : Value) : Test → RecordError → Prop
  | object (h : x.isObject = false) : Fails x object (.notAnObject [])
  | word {e : RecordError} (h : BadWord x e) : Fails x word e
  | missing {key : String} {ms : List (List Point × Value)} (hx : x = .object ms)
    (h : Omitted key ms) : Fails x (required key) (.missingField [.member key])
  | required {key : String} {y : Value} {e : RecordError} (hy : x.part? (.member key) = some y)
    (hnull : y ≠ .null) (h : BadWord y e) : Fails x (required key) (e.under (.member key))
  | optional {key : String} {y : Value} {expected : Expected}
    (hy : x.part? (.member key) = some y) (hnull : y ≠ .null) (h : ¬ y.Is expected) :
    Fails x (optional key expected) (.wrongType [.member key] expected)

namespace Check

/-- The check fails at its place, and the fault is seen from the value. -/
def Fails (c : Check) (v : Value) (e : RecordError) : Prop :=
  ∃ x e', v.at? c.place = some x ∧ c.test.Fails x e' ∧ e = e'.underAll c.place

def under (step : PathStep) (c : Check) : Check := { c with place := step :: c.place }

def ofItems (checks : Value → List Check) (vs : List Value) : List Check :=
  vs.zipIdx.flatMap fun p => (checks p.1).map (under (.index p.2))

/-- An optional array, and then its items. -/
def ofArray (key : String) (checks : Value → List Check) (v : Value) : List Check :=
  ⟨[], .optional key .array⟩ ::
    ((v.part? (.member key)).elim [] fun x => ofItems checks x.items).map (under (.member key))

def ofMode (v : Value) : List Check :=
  ⟨[], .object⟩ :: ⟨[], .required "width"⟩ :: ⟨[], .required "height"⟩ ::
    ofArray "refresh_rates" (fun _ => [⟨[], .word⟩]) v

def ofMonitor (v : Value) : List Check :=
  ⟨[], .object⟩ :: ⟨[], .required "id"⟩ :: ⟨[], .optional "name" .string⟩ ::
    ⟨[], .optional "enabled" .boolean⟩ :: ofArray "modes" ofMode v

end Check

/-- The first of the checks that fail, fails with the fault. -/
inductive FirstFault (v : Value) : List Check → RecordError → Prop
  | here {c : Check} {cs : List Check} {e : RecordError} (h : c.Fails v e) : FirstFault v (c :: cs) e
  | later {c : Check} {cs : List Check} {e : RecordError} (hc : ∀ e', ¬ c.Fails v e')
    (h : FirstFault v cs e) : FirstFault v (c :: cs) e

section

variable {v x : Value} {c : Check} {cs ds : List Check} {e : RecordError} {step : PathStep}

theorem not_firstFault_nil : ¬ FirstFault v [] e := fun h => nomatch h

theorem firstFault_cons :
    FirstFault v (c :: cs) e ↔ c.Fails v e ∨ (∀ e', ¬ c.Fails v e') ∧ FirstFault v cs e := by
  constructor
  · rintro (h | ⟨hc, h⟩)
    · exact .inl h
    · exact .inr ⟨hc, h⟩
  · rintro (h | ⟨hc, h⟩)
    · exact .here h
    · exact .later hc h

theorem firstFault_append : FirstFault v (cs ++ ds) e ↔
    FirstFault v cs e ∨ (∀ e', ¬ FirstFault v cs e') ∧ FirstFault v ds e := by
  induction cs with
  | nil => simp [not_firstFault_nil]
  | cons c cs ih =>
    simp only [List.cons_append, firstFault_cons, ih]
    by_cases hc : ∃ e', c.Fails v e'
    · -- the first check fails, and what comes after it does not matter
      obtain ⟨e', he'⟩ := hc
      have hno : ¬ ∀ e', ¬ c.Fails v e' := fun h => h e' he'
      constructor
      · rintro (h | ⟨h, -⟩)
        · exact .inl (.inl h)
        · exact absurd h hno
      · rintro ((h | ⟨h, -⟩) | ⟨h, -⟩)
        · exact .inl h
        · exact absurd h hno
        · exact absurd (.inl he') (h e')
    · simp [not_exists.1 hc]

theorem Check.fails_here {t : Test} : Check.Fails ⟨[], t⟩ v e ↔ t.Fails v e := by
  simp [Check.Fails, Value.at?, RecordError.underAll]

theorem firstFault_here {t : Test} : FirstFault v [⟨[], t⟩] e ↔ t.Fails v e := by
  simp [firstFault_cons, Check.fails_here, not_firstFault_nil]

theorem Check.fails_under (hx : v.part? step = some x) :
    (c.under step).Fails v e ↔ ∃ e', c.Fails x e' ∧ e = e'.under step := by
  simp only [Check.Fails, Check.under, Value.at?, hx, Option.bind_some]
  constructor
  · rintro ⟨y, e', hy, hfails, rfl⟩
    exact ⟨_, ⟨y, e', hy, hfails, rfl⟩, rfl⟩
  · rintro ⟨_, ⟨y, e', hy, hfails, rfl⟩, rfl⟩
    exact ⟨y, e', hy, hfails, rfl⟩

/-- The first fault in a part of a value is the first fault of the value, if only that part is
checked. -/
theorem firstFault_under (hx : v.part? step = some x) : FirstFault v (cs.map (Check.under step)) e ↔
    ∃ e', FirstFault x cs e' ∧ e = e'.under step := by
  induction cs with
  | nil => simp [not_firstFault_nil]
  | cons c cs ih =>
    have hnone : (∀ e', ¬ (c.under step).Fails v e') ↔ ∀ e', ¬ c.Fails x e' := by
      simp only [Check.fails_under hx]
      exact ⟨fun h e' he' => h _ ⟨e', he', rfl⟩, fun h _ ⟨e', he', _⟩ => h e' he'⟩
    rw [List.map_cons, firstFault_cons, Check.fails_under hx, hnone, ih]
    simp only [firstFault_cons]
    constructor
    · rintro (⟨e', he', rfl⟩ | ⟨hc, e', he', rfl⟩)
      · exact ⟨e', .inl he', rfl⟩
      · exact ⟨e', .inr ⟨hc, he'⟩, rfl⟩
    · rintro ⟨e', he' | ⟨hc, he'⟩, rfl⟩
      · exact .inl ⟨e', he', rfl⟩
      · exact .inr ⟨hc, e', he', rfl⟩

end

/-! ### Culprits -/

/-- A fault points at its culprit: the path leads there from the value. An item of the rates is the only
null that is looked at. -/
inductive Culprit (v : Value) : RecordError → Prop
  | object {path : List PathStep} {x : Value} (hx : v.at? path = some x) (h : x.isObject = false) :
    Culprit v (.notAnObject path)
  | missing {path : List PathStep} {ms : List (List Point × Value)} {key : String}
    (hx : v.at? path = some (.object ms)) (hkey : key ∈ ["id", "width", "height"])
    (h : Omitted key ms) : Culprit v (.missingField (path ++ [.member key]))
  | type {path : List PathStep} {x : Value} {expected : Expected} (hx : v.at? path = some x)
    (h : ¬ x.Is expected)
    (hnull : x = .null → ∃ place i, path = place ++ [.member "refresh_rates", .index i]) :
    Culprit v (.wrongType path expected)
  | range {path : List PathStep} {n : Number} {z : Int} {value : String}
    (hx : v.at? path = some (.number n)) (hz : n.Holds z) (h : ¬ (0 ≤ z ∧ z < UInt32.size))
    (hvalue : value = String.ofList n.text) (hdecimal : n.Literal → value = toString z) :
    Culprit v (.outOfRange path value)

theorem BadWord.culprit {v y : Value} {path : List PathStep} {e : RecordError} (h : BadWord y e)
    (hy : v.at? path = some y)
    (hnull : y = .null → ∃ place i, path = place ++ [.member "refresh_rates", .index i]) :
    Culprit v (e.underAll path) := by
  cases h with
  | type h =>
    rw [RecordError.underAll_wrongType, List.append_nil]
    exact .type hy h hnull
  | range hn hz h =>
    rw [RecordError.underAll_outOfRange, List.append_nil]
    exact .range (hn ▸ hy) hz h rfl fun hl => Number.text_of_holds hl hz

namespace Check

/-- Where the fault of the check lies. -/
def path (c : Check) : List PathStep :=
  c.place ++ match c.test with
    | .object | .word => []
    | .required key | .optional key _ => [.member key]

/-- The check is one that a monitor is put to: words of their own are rates, and what is required are
an id or a resolution. -/
structure Fit (c : Check) : Prop where
  word : c.test = .word → ∃ place i, c.place = place ++ [.member "refresh_rates", .index i]
  required : ∀ key, c.test = .required key → key ∈ ["id", "width", "height"]

variable {c : Check} {v : Value} {e : RecordError}

theorem Fit.under (h : c.Fit) (step : PathStep) : (c.under step).Fit := by
  refine ⟨fun htest => ?_, h.required⟩
  obtain ⟨place, i, hplace⟩ := h.word htest
  exact ⟨step :: place, i, congrArg (step :: ·) hplace⟩

theorem Fails.path_eq (h : c.Fails v e) : e.path = c.path := by
  obtain ⟨x, e', -, hfails, rfl⟩ := h
  obtain ⟨place, test⟩ := c
  cases hfails with
  | object => simp [RecordError.path, path]
  | word h => cases h <;> simp [RecordError.path, path]
  | missing => simp [RecordError.path, path]
  | required _ _ h => cases h <;> simp [RecordError.path, RecordError.under, path]
  | optional => simp [RecordError.path, path]

theorem Fails.culprit (h : c.Fails v e) (hfit : c.Fit) : Culprit v e := by
  obtain ⟨x, e', hx, hfails, rfl⟩ := h
  obtain ⟨place, test⟩ := c
  have hat {key : String} {y : Value} (hy : x.part? (.member key) = some y) :
      v.at? (place ++ [.member key]) = some y := by
    rw [Value.at?_concat, hx, Option.bind_some, hy]
  cases hfails with
  | object h =>
    rw [RecordError.underAll_notAnObject, List.append_nil]
    exact .object hx h
  | word h => exact h.culprit hx fun _ => hfit.word rfl
  | missing hms h =>
    rw [RecordError.underAll_missingField]
    exact .missing (hms ▸ hx) (hfit.required _ rfl) h
  | required hy hnull h =>
    have hculprit := h.culprit (hat hy) fun hno => absurd hno hnull
    rw [RecordError.underAll, List.foldr_append] at hculprit
    exact hculprit
  | optional hy hnull h =>
    rw [RecordError.underAll_wrongType]
    exact .type (hat hy) h fun hno => absurd hno hnull

variable {key : String} {checks : Value → List Check}

theorem mem_ofItems {vs : List Value} (h : c ∈ ofItems checks vs) :
    ∃ x i c', c' ∈ checks x ∧ c = c'.under (.index i) := by
  obtain ⟨⟨x, i⟩, -, hc⟩ := List.mem_flatMap.1 h
  obtain ⟨c', hc', rfl⟩ := List.mem_map.1 hc
  exact ⟨x, i, c', hc', rfl⟩

theorem mem_ofArray (h : c ∈ ofArray key checks v) : c = ⟨[], .optional key .array⟩ ∨
    ∃ x i c', c' ∈ checks x ∧ c = (c'.under (.index i)).under (.member key) := by
  rcases List.mem_cons.1 h with h | h
  · exact .inl h
  · obtain ⟨c', hc', rfl⟩ := List.mem_map.1 h
    cases hy : v.part? (.member key) with
    | none =>
      rw [hy] at hc'
      cases hc'
    | some y =>
      rw [hy] at hc'
      obtain ⟨x, i, c, hc, rfl⟩ := mem_ofItems hc'
      exact .inr ⟨x, i, c, hc, rfl⟩

theorem fit_ofMode (h : c ∈ ofMode v) : c.Fit := by
  simp only [ofMode, List.mem_cons] at h
  rcases h with rfl | rfl | rfl | h
  · exact ⟨nofun, nofun⟩
  · exact ⟨nofun, by rintro key ⟨⟩; decide⟩
  · exact ⟨nofun, by rintro key ⟨⟩; decide⟩
  · rcases mem_ofArray h with rfl | ⟨x, i, c, hc, rfl⟩
    · exact ⟨nofun, nofun⟩
    · rw [List.mem_singleton.1 hc]
      exact ⟨fun _ => ⟨[], i, rfl⟩, nofun⟩

theorem fit_ofMonitor (h : c ∈ ofMonitor v) : c.Fit := by
  simp only [ofMonitor, List.mem_cons] at h
  rcases h with rfl | rfl | rfl | rfl | h
  · exact ⟨nofun, nofun⟩
  · exact ⟨nofun, by rintro key ⟨⟩; decide⟩
  · exact ⟨nofun, nofun⟩
  · exact ⟨nofun, nofun⟩
  · rcases mem_ofArray h with rfl | ⟨x, i, c, hc, rfl⟩
    · exact ⟨nofun, nofun⟩
    · exact ((fit_ofMode hc).under _).under _

/-- A monitor that is an object can only be at fault in one of its members. -/
theorem path_ofMonitor (h : c ∈ ofMonitor v) :
    c = ⟨[], .object⟩ ∨ ∃ key path, c.path = .member key :: path := by
  simp only [ofMonitor, List.mem_cons] at h
  rcases h with h | rfl | rfl | rfl | h
  · exact .inl h
  · exact .inr ⟨_, _, rfl⟩
  · exact .inr ⟨_, _, rfl⟩
  · exact .inr ⟨_, _, rfl⟩
  · rcases mem_ofArray h with rfl | ⟨x, i, c, hc, rfl⟩
    · exact .inr ⟨_, _, rfl⟩
    · exact .inr ⟨_, _, rfl⟩

end Check

theorem exists_fails_of_firstFault {v : Value} {cs : List Check} {e : RecordError}
    (h : FirstFault v cs e) : ∃ c ∈ cs, c.Fails v e := by
  induction h with
  | here h => exact ⟨_, List.mem_cons_self, h⟩
  | later _ _ ih =>
    obtain ⟨c, hc, h⟩ := ih
    exact ⟨c, List.mem_cons_of_mem _ hc, h⟩

end VirtualDisplay
