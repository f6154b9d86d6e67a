import VirtualDisplay.Json.Value

/-! What it takes to hold a value in memory. Main statement: a value is plain if and only if it nests at
most 127 levels deep, none of its numbers is too large, and every string in it is text. -/

namespace VirtualDisplay.Json
namespace Value

mutual

/-- How deep arrays and objects nest. -/
def depth : Value → Nat
  | array items => depthOfItems items + 1
  | object members => depthOfMembers members + 1
  | _ => 0

def depthOfItems : List Value → Nat
  | [] => 0
  | v :: vs => max (depth v) (depthOfItems vs)

def depthOfMembers : List (List Point × Value) → Nat
  | [] => 0
  | (_, v) :: ms => max (depth v) (depthOfMembers ms)

end

mutual

/-- Every number in a value, at any depth. -/
def numbers : Value → List Number
  | number n => [n]
  | array items => numbersOfItems items
  | object members => numbersOfMembers members
  | _ => []

def numbersOfItems : List Value → List Number
  | [] => []
  | v :: vs => numbers v ++ numbersOfItems vs

def numbersOfMembers : List (List Point × Value) → List Number
  | [] => []
  | (_, v) :: ms => numbers v ++ numbersOfMembers ms

end

mutual

/-- Every string in a value, at any depth, keys included. -/
def strings : Value → List (List Point)
  | string s => [s]
  | array items => stringsOfItems items
  | object members => stringsOfMembers members
  | _ => []

def stringsOfItems : List Value → List (List Point)
  | [] => []
  | v :: vs => strings v ++ stringsOfItems vs

def stringsOfMembers : List (List Point × Value) → List (List Point)
  | [] => []
  | (k, v) :: ms => k :: strings v ++ stringsOfMembers ms

end

/-- Neither too deep, nor with a number that is too large, nor with a string that is no text. -/
structure Fits (levels depth : Nat) (numbers : List Number) (strings : List (List Point)) : Prop where
  depth : depth ≤ levels
  numbers : ∀ n ∈ numbers, n.overflows = false
  strings : ∀ s ∈ strings, (chars? s).isSome = true

theorem fits_nil (levels : Nat) : Fits levels 0 [] [] :=
  ⟨Nat.zero_le levels, List.forall_mem_nil _, List.forall_mem_nil _⟩

theorem fits_append {levels d e : Nat} {ns ms : List Number} {ss ts : List (List Point)} :
    Fits levels (max d e) (ns ++ ms) (ss ++ ts) ↔ Fits levels d ns ss ∧ Fits levels e ms ts := by
  constructor
  · intro h
    obtain ⟨hd, he⟩ := Nat.max_le.1 h.depth
    obtain ⟨hns, hms⟩ := List.forall_mem_append.1 h.numbers
    obtain ⟨hss, hts⟩ := List.forall_mem_append.1 h.strings
    exact ⟨⟨hd, hns, hss⟩, he, hms, hts⟩
  · rintro ⟨h, h'⟩
    exact ⟨Nat.max_le.2 ⟨h.depth, h'.depth⟩, List.forall_mem_append.2 ⟨h.numbers, h'.numbers⟩,
      List.forall_mem_append.2 ⟨h.strings, h'.strings⟩⟩

theorem fits_cons {levels d : Nat} {ns : List Number} {k : List Point} {ss : List (List Point)} :
    Fits levels d ns (k :: ss) ↔ (chars? k).isSome = true ∧ Fits levels d ns ss := by
  constructor
  · intro h
    obtain ⟨hk, hss⟩ := List.forall_mem_cons.1 h.strings
    exact ⟨hk, h.depth, h.numbers, hss⟩
  · rintro ⟨hk, h⟩
    exact ⟨h.depth, h.numbers, List.forall_mem_cons.2 ⟨hk, h.strings⟩⟩

/-- One level around what fits takes one level more. -/
theorem fits_succ {levels d : Nat} {ns : List Number} {ss : List (List Point)} :
    Fits (levels + 1) (d + 1) ns ss ↔ Fits levels d ns ss :=
  ⟨fun h => ⟨Nat.le_of_succ_le_succ h.depth, h.numbers, h.strings⟩,
    fun h => ⟨Nat.succ_le_succ h.depth, h.numbers, h.strings⟩⟩

mutual

theorem within_iff (levels : Nat) (v : Value) :
    v.within levels = true ↔ Fits levels v.depth v.numbers v.strings := by
  cases v with
  | null | bool => exact iff_of_true (by rw [within]) (fits_nil levels)
  | number n =>
    rw [within, Bool.not_eq_true']
    refine ⟨fun h => ⟨Nat.zero_le levels, by simpa [numbers] using h, List.forall_mem_nil _⟩, fun h => ?_⟩
    exact h.numbers n List.mem_cons_self
  | string s =>
    rw [within]
    refine ⟨fun h => ⟨Nat.zero_le levels, List.forall_mem_nil _, by simpa [strings] using h⟩, fun h => ?_⟩
    exact h.strings s List.mem_cons_self
  | array items =>
    cases levels with
    | zero => exact ⟨fun h => (nomatch h), fun h => absurd h.depth (Nat.not_succ_le_zero _)⟩
    | succ levels =>
      rw [within, allWithin_iff]
      exact fits_succ.symm
  | object members =>
    cases levels with
    | zero => exact ⟨fun h => (nomatch h), fun h => absurd h.depth (Nat.not_succ_le_zero _)⟩
    | succ levels =>
      rw [within, membersWithin_iff]
      exact fits_succ.symm

theorem allWithin_iff (levels : Nat) (vs : List Value) :
    allWithin levels vs = true ↔ Fits levels (depthOfItems vs) (numbersOfItems vs) (stringsOfItems vs) := by
  cases vs with
  | nil => exact iff_of_true rfl (fits_nil levels)
  | cons v vs =>
    rw [allWithin, Bool.and_eq_true, within_iff levels v, allWithin_iff levels vs]
    exact fits_append.symm

theorem membersWithin_iff (levels : Nat) (ms : List (List Point × Value)) :
    membersWithin levels ms = true ↔
      Fits levels (depthOfMembers ms) (numbersOfMembers ms) (stringsOfMembers ms) := by
  cases ms with
  | nil => exact iff_of_true rfl (fits_nil levels)
  | cons m ms =>
    obtain ⟨k, v⟩ := m
    rw [membersWithin, Bool.and_eq_true, Bool.and_eq_true, within_iff levels v,
      membersWithin_iff levels ms, and_assoc, ← fits_append]
    exact fits_cons.symm

end

/-- What a value must be like to be held in memory. -/
theorem plain_iff (v : Value) :
    v.plain = true ↔ v.depth ≤ 127 ∧ (∀ n ∈ v.numbers, n.overflows = false) ∧
      ∀ s ∈ v.strings, (chars? s).isSome = true :=
  (within_iff maxLevels v).trans
    ⟨fun h => ⟨h.depth, h.numbers, h.strings⟩, fun ⟨hd, hn, hs⟩ => ⟨hd, hn, hs⟩⟩

end Value
end VirtualDisplay.Json
