import VirtualDisplay.Files.Tree

/-! What operations do to a tree. A path leads on as long as directories stay directories, and no
operation makes anything else of one. -/

namespace VirtualDisplay.Files

namespace Tree

variable {t t' : Tree} {p source target : Path} {place a b : Place} {n : Node} {c : Content}
  {names : List String} {s : String}

/-! ### Nodes -/

theorem find_store (place q : Place) (n : Node) (ns : List (Place × Node)) :
    find q (store place n ns) = if q = place then some n else find q ns := by
  induction ns with
  | nil => simp [store, find, eq_comm]
  | cons x ns ih =>
    obtain ⟨p, m⟩ := x
    by_cases hp : p = place
    · subst hp
      by_cases hq : q = p <;> simp [store, find, hq, eq_comm]
    · by_cases hq : p = q
      · subst hq
        simp [store, find, hp]
      · simp [store, find, hp, hq, ih]

theorem find_filter_ne {q : Place} (h : q ≠ place) (ns : List (Place × Node)) :
    find q (ns.filter (·.1 ≠ place)) = find q ns := by
  induction ns with
  | nil => rfl
  | cons x ns ih =>
    obtain ⟨p, m⟩ := x
    by_cases hp : p = place
    · subst hp
      rw [List.filter_cons_of_neg (by simp), ih, find, if_neg (Ne.symm h)]
    · rw [List.filter_cons_of_pos (by simpa using hp), find, find, ih]

theorem node?_put_self (h : place ≠ []) (n : Node) (t : Tree) : (t.put place n).node? place = some n := by
  rw [node?, if_neg h, put, find_store, if_pos rfl]

theorem node?_put_ne {q : Place} (h : q ≠ place) (n : Node) (t : Tree) :
    (t.put place n).node? q = t.node? q := by
  unfold node? put
  rw [find_store, if_neg h]

theorem node?_erase_ne {q : Place} (h : q ≠ place) (t : Tree) :
    (t.erase place).node? q = t.node? q := by
  unfold node? erase
  rw [find_filter_ne h]

/-- The root is a directory. -/
theorem ne_nil_of_node? (h : t.node? place ≠ some .directory) : place ≠ [] := by
  rintro rfl
  exact h rfl

/-! ### Ways that stay open -/

/-- Every directory stays one. -/
def Keeps (t t' : Tree) : Prop :=
  ∀ place, t.node? place = some .directory → t'.node? place = some .directory

/-- Everything stays as it is, and more may be there. -/
def Extends (t t' : Tree) : Prop := ∀ place n, t.node? place = some n → t'.node? place = some n

theorem Extends.keeps (h : t.Extends t') : t.Keeps t' := fun place => h place .directory

theorem Extends.refl (t : Tree) : t.Extends t := fun _ _ h => h

theorem Extends.trans {t'' : Tree} (h : t.Extends t') (h' : t'.Extends t'') : t.Extends t'' :=
  fun place n hn => h' place n (h place n hn)

theorem Keeps.trans {t'' : Tree} (h : t.Keeps t') (h' : t'.Keeps t'') : t.Keeps t'' :=
  fun place hd => h' place (h place hd)

theorem keeps_put (h : t.node? place ≠ some .directory) (n : Node) : t.Keeps (t.put place n) := by
  intro q hq
  have hne : q ≠ place := by
    rintro rfl
    exact h hq
  rw [node?_put_ne hne, hq]

theorem keeps_erase (h : t.node? place ≠ some .directory) : t.Keeps (t.erase place) := by
  intro q hq
  have hne : q ≠ place := by
    rintro rfl
    exact h hq
  rw [node?_erase_ne hne, hq]

theorem extends_put (h : t.node? place = none) (n : Node) : t.Extends (t.put place n) := by
  intro q m hq
  have hne : q ≠ place := by
    rintro rfl
    rw [h] at hq
    cases hq
  rw [node?_put_ne hne, hq]

theorem enter_eq_ok {name : String} :
    t.enter place name = .ok () ↔
      t.node? place = some .directory ∧ name.utf8ByteSize ≤ maxName := by
  unfold enter
  cases t.node? place with
  | none => simp
  | some n =>
    cases n with
    | file c => simp
    | directory =>
      by_cases h : maxName < name.utf8ByteSize
      · simp [h]
      · simpa [h] using Nat.not_lt.1 h

theorem walk_cons_eq_ok {name : String} :
    t.walk a (name :: names) = .ok b ↔
      (t.node? a = some .directory ∧ name.utf8ByteSize ≤ maxName) ∧
        t.walk (next a name) names = .ok b := by
  rw [walk, ← enter_eq_ok]
  cases t.enter a name with
  | error e => simp [bind, Except.bind]
  | ok _ => simp [bind, Except.bind]

theorem Keeps.walk (h : t.Keeps t') (hw : t.walk a names = .ok b) : t'.walk a names = .ok b := by
  induction names generalizing a with
  | nil => exact hw
  | cons name names ih =>
    obtain ⟨⟨hd, hsize⟩, hrest⟩ := walk_cons_eq_ok.1 hw
    exact walk_cons_eq_ok.2 ⟨⟨h a hd, hsize⟩, ih hrest⟩

theorem accepts_iff : accepts p = true ↔ p.text.utf8ByteSize ≤ maxPath ∧ '\x00' ∉ p.text.toList := by
  simp [accepts]

theorem resolve_of_accepts (h : accepts p = true) (hp : p.text ≠ "") :
    t.resolve p = t.walk [] p.names := by
  rw [resolve, h, if_neg hp]
  rfl

theorem Keeps.resolve (h : t.Keeps t') (hp : t.resolve p = .ok place) :
    t'.resolve p = .ok place := by
  unfold Tree.resolve at hp ⊢
  split at hp
  · cases hp
  · rename_i haccepts
    rw [if_neg haccepts]
    split at hp
    · cases hp
    · rename_i hempty
      rw [if_neg hempty]
      exact h.walk hp

theorem readText_eq_ok :
    t.readText p = .ok s ↔
      ∃ place, t.resolve p = .ok place ∧ t.node? place = some (.file (.text s)) := by
  unfold readText
  cases t.resolve p with
  | error e => simp [bind, Except.bind]
  | ok place =>
    simp only [bind, Except.bind, Except.ok.injEq, exists_eq_left']
    split <;> simp_all

theorem Extends.readText (h : t.Extends t') (hr : t.readText p = .ok s) : t'.readText p = .ok s := by
  obtain ⟨place, hplace, hn⟩ := readText_eq_ok.1 hr
  exact readText_eq_ok.2 ⟨place, h.keeps.resolve hplace, h place _ hn⟩

/-! ### Operations -/

/-- Making directories adds to a tree, even where it fails. -/
theorem extends_makeFrom (place : Place) (names : List String) (t : Tree) :
    t.Extends (makeFrom place names t).2 := by
  induction names generalizing place t with
  | nil => exact .refl t
  | cons name names ih =>
    rw [makeFrom]
    split
    · exact .refl t
    · split
      · exact ih _ t
      · exact .refl t
      · rename_i hnone
        exact (extends_put hnone _).trans (ih _ _)

theorem extends_makeDirectories (p : Path) (t : Tree) : t.Extends (makeDirectories p t).2 := by
  unfold makeDirectories
  split
  · exact extends_makeFrom [] _ t
  · exact .refl t

theorem write_eq (hp : t.resolve p = .ok place) (hn : t.node? place ≠ some .directory) :
    write p c t = (.ok (), t.put place (.file c)) := by
  unfold write
  simp only [hp]

theorem write_ok (h : (write p c t).1 = .ok ()) :
    ∃ place, t.resolve p = .ok place ∧ t.node? place ≠ some .directory ∧
      (write p c t).2 = t.put place (.file c) := by
  cases hp : t.resolve p with
  | error e => simp [write, hp] at h
  | ok place =>
    have hn : t.node? place ≠ some .directory := by
      intro hn
      simp [write, hp, hn] at h
    exact ⟨place, rfl, hn, by rw [write_eq hp hn]⟩

theorem write_error {e : Fault} (h : (write p c t).1 = .error e) : (write p c t).2 = t := by
  unfold write at h ⊢
  cases hp : t.resolve p with
  | error e => rfl
  | ok place =>
    cases hn : t.node? place with
    | none => simp [hp, hn] at h
    | some n =>
      cases n with
      | directory => simp [hn]
      | file c => simp [hp, hn] at h

theorem readText_write (h : (write p (.text s) t).1 = .ok ()) :
    (write p (.text s) t).2.readText p = .ok s := by
  obtain ⟨place, hp, hn, hw⟩ := write_ok h
  rw [hw, readText_eq_ok]
  exact ⟨place, (keeps_put hn _).resolve hp, node?_put_self (ne_nil_of_node? hn) _ _⟩

/-- What moving a file does when both paths lead somewhere, and there is no directory in the way. -/
theorem rename_eq (hs : t.resolve source = .ok a) (ht : t.resolve target = .ok b)
    (ha : t.node? a = some (.file c)) (hb : t.node? b ≠ some .directory) :
    rename source target t =
      (.ok (), if a = b then t else (t.erase a).put b (.file c)) := by
  unfold rename
  rw [hs, ht]
  simp only [ha]

theorem rename_ok (h : (rename source target t).1 = .ok ()) :
    ∃ a b c, t.resolve source = .ok a ∧ t.resolve target = .ok b ∧
      t.node? a = some (.file c) ∧ t.node? b ≠ some .directory := by
  unfold rename at h
  cases hs : t.resolve source with
  | error e => simp [hs] at h
  | ok a =>
    cases ht : t.resolve target with
    | error e => simp [hs, ht] at h
    | ok b =>
      simp only [hs, ht] at h
      split at h <;> simp_all

theorem rename_error {e : Fault} (h : (rename source target t).1 = .error e) :
    (rename source target t).2 = t := by
  unfold rename at h ⊢
  split
  · split <;> simp_all
  · rfl
  · rfl

/-- A file that has been moved is where it was moved to. -/
theorem readText_rename (hs : t.resolve source = .ok a) (ht : t.resolve target = .ok b)
    (ha : t.node? a = some (.file (.text s))) (hb : t.node? b ≠ some .directory) :
    (rename source target t).2.readText target = .ok s := by
  rw [rename_eq hs ht ha hb, readText_eq_ok]
  split
  · rename_i hab
    exact ⟨b, ht, hab ▸ ha⟩
  · have hfile : t.node? a ≠ some .directory := by simp [ha]
    have herased : (t.erase a).node? b ≠ some .directory := by
      rename_i hab
      rw [node?_erase_ne (Ne.symm hab)]
      exact hb
    have hkeeps := (keeps_erase hfile).trans (keeps_put herased (.file (.text s)))
    exact ⟨b, hkeeps.resolve ht, node?_put_self (ne_nil_of_node? hb) _ _⟩

end Tree
end VirtualDisplay.Files
