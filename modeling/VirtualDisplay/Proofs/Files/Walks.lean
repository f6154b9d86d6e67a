import Mathlib.Data.List.Induction
import VirtualDisplay.Proofs.Files.Paths
import VirtualDisplay.Proofs.Files.Tree

/-! Where paths lead, and what they still read once directories have been made on the way. -/

namespace VirtualDisplay.Files.Tree

variable {t t' t'' : Tree} {p source target : Path} {a b q within : Place} {n : Node} {c : Content}
  {name : String} {names : List String}

theorem node?_erase_self (h : q ≠ []) (t : Tree) : (t.erase q).node? q = none := by
  rw [node?, if_neg h, erase]
  induction t.nodes with
  | nil => rfl
  | cons x ns ih =>
    by_cases hx : x.1 = q
    · rwa [List.filter_cons_of_neg (by simpa using hx)]
    · rw [List.filter_cons_of_pos (by simpa using hx), find, if_neg hx, ih]

theorem ne_nil_of_missing (h : t.node? q = none) : q ≠ [] :=
  ne_nil_of_node? (by rw [h]; exact nofun)

/-! ### Trees with a root -/

/-- Every node stands in a directory. -/
def Rooted (t : Tree) : Prop := ∀ q n, t.node? q = some n → t.node? q.dropLast = some .directory

theorem rooted_empty : Rooted {} := by
  intro q n hq
  have hnil : q = [] := by
    by_contra hne
    rw [node?, if_neg hne] at hq
    cases hq
  subst hnil
  rfl

/-- Nothing stands below what is missing. -/
theorem Rooted.missing (h : t.Rooted) (ha : t.node? a = none) (hb : a <+: b) : t.node? b = none := by
  obtain ⟨names, rfl⟩ := hb
  induction names using List.reverseRecOn with
  | nil => rwa [List.append_nil]
  | append_singleton names name ih =>
    cases hn : t.node? (a ++ (names ++ [name])) with
    | none => rfl
    | some n =>
      have hd := h _ n hn
      rw [← List.append_assoc, List.dropLast_concat, ih] at hd
      cases hd

theorem dropLast_ne (h : q ≠ []) : q.dropLast ≠ q := fun heq => by
  have hlen := congrArg List.length heq
  have hpos := List.length_pos_iff.2 h
  rw [List.length_dropLast] at hlen
  omega

theorem Rooted.put (h : t.Rooted) (hq : t.node? q.dropLast = some .directory) (hne : q ≠ [])
    (hn : n = .directory ∨ t.node? q ≠ some .directory) : (t.put q n).Rooted := by
  intro r m hr
  by_cases hrq : r = q
  · rw [hrq, node?_put_ne (dropLast_ne hne), hq]
  · rw [node?_put_ne hrq] at hr
    by_cases hdrop : r.dropLast = q
    · have hd := h r m hr
      rw [hdrop] at hd
      rw [hdrop, node?_put_self hne, hn.resolve_right (not_not_intro hd)]
    · rw [node?_put_ne hdrop, h r m hr]

theorem Rooted.erase (h : t.Rooted) (hq : t.node? q ≠ some .directory) : (t.erase q).Rooted := by
  intro r m hr
  have hrq : r ≠ q := by
    rintro rfl
    rw [node?_erase_self (ne_nil_of_node? hq)] at hr
    cases hr
  rw [node?_erase_ne hrq] at hr
  have hd := h r m hr
  have hdrop : r.dropLast ≠ q := by
    rintro rfl
    exact hq hd
  rwa [node?_erase_ne hdrop]

/-- One name further is still in a directory. -/
theorem Rooted.next (h : t.Rooted) (ha : t.node? a = some .directory) (name : String) :
    t.node? (next a name).dropLast = some .directory := by
  unfold Tree.next
  split
  · exact h a _ ha
  · split
    · exact h _ _ (h a _ ha)
    · rwa [List.dropLast_concat]

/-- A walk ends in a directory, or at what stands in one or could. -/
theorem Rooted.walk (h : t.Rooted) (ha : t.node? a.dropLast = some .directory)
    (hw : t.walk a names = .ok b) : t.node? b.dropLast = some .directory := by
  induction names generalizing a with
  | nil =>
    cases hw
    exact ha
  | cons name names ih =>
    obtain ⟨⟨hd, -⟩, hrest⟩ := walk_cons_eq_ok.1 hw
    exact ih (h.next hd name) hrest

theorem walk_of_resolve (h : t.resolve p = .ok q) : t.walk [] p.names = .ok q := by
  unfold resolve at h
  split at h
  · cases h
  · split at h
    · cases h
    · exact h

theorem Rooted.resolve (h : t.Rooted) (hp : t.resolve p = .ok q) :
    t.node? q.dropLast = some .directory :=
  h.walk rfl (walk_of_resolve hp)

theorem walk_append {more : List String} (hw : t.walk a (names ++ more) = .ok b) :
    ∃ q, t.walk a names = .ok q ∧ t.walk q more = .ok b := by
  induction names generalizing a with
  | nil => exact ⟨a, rfl, hw⟩
  | cons name names ih =>
    obtain ⟨hname, hrest⟩ := walk_cons_eq_ok.1 hw
    obtain ⟨q, hq, hmore⟩ := ih hrest
    exact ⟨q, walk_cons_eq_ok.2 ⟨hname, hq⟩, hmore⟩

/-- A walk that ends by leading up leads to a directory. -/
theorem Rooted.walk_up (h : t.Rooted) (hw : t.walk a (names ++ [".."]) = .ok b) :
    t.node? b = some .directory := by
  obtain ⟨q, -, hup⟩ := walk_append hw
  obtain ⟨⟨hd, -⟩, hb⟩ := walk_cons_eq_ok.1 hup
  cases hb
  exact h q _ hd

theorem Rooted.makeFrom (h : t.Rooted) : (makeFrom a names t).2.Rooted := by
  induction names generalizing a t with
  | nil => exact h
  | cons name names ih =>
    rw [Tree.makeFrom]
    split
    · exact h
    · next henter =>
      split
      · exact ih h
      · exact h
      · next hnone =>
        exact ih (h.put (h.next (enter_eq_ok.1 henter).1 name) (ne_nil_of_missing hnone) (Or.inl rfl))

theorem Rooted.write (h : t.Rooted) (p : Path) (c : Content) : (write p c t).2.Rooted := by
  cases hw : (Tree.write p c t).1 with
  | error e => rwa [write_error hw]
  | ok _ =>
    obtain ⟨q, hq, hn, htree⟩ := write_ok hw
    rw [htree]
    exact h.put (h.resolve hq) (ne_nil_of_node? hn) (Or.inr hn)

theorem Rooted.rename (h : t.Rooted) (source target : Path) : (rename source target t).2.Rooted := by
  cases hr : (Tree.rename source target t).1 with
  | error e => rwa [rename_error hr]
  | ok _ =>
    obtain ⟨a, b, c, hsource, htarget, ha, hb⟩ := rename_ok hr
    rw [rename_eq hsource htarget ha hb]
    split
    · exact h
    · next hab =>
      have hfile : t.node? a ≠ some .directory := by simp [ha]
      have herased : (t.erase a).node? b ≠ some .directory := by rwa [node?_erase_ne (Ne.symm hab)]
      exact (h.erase hfile).put (keeps_erase hfile _ (h.resolve htarget)) (ne_nil_of_node? hb)
        (Or.inr herased)

/-! ### Walks that never lead up -/

theorem next_downward (h : name ≠ "..") (place : Place) :
    next place name = place ++ [name].filter (· ≠ ".") := by
  by_cases hdot : name = "."
  · simp [next, hdot]
  · simp [next, hdot, h]

theorem next_append (h : name ≠ "..") :
    next a name ++ names.filter (· ≠ ".") = a ++ (name :: names).filter (· ≠ ".") := by
  rw [next_downward h, List.append_assoc, ← List.filter_append]
  rfl

/-- Such a walk leads to one place only. -/
theorem walk_downward (h : ".." ∉ names) (hw : t.walk a names = .ok b) :
    b = a ++ names.filter (· ≠ ".") := by
  induction names generalizing a with
  | nil =>
    cases hw
    exact (List.append_nil _).symm
  | cons name names ih =>
    obtain ⟨hname, hnames⟩ := List.ne_and_not_mem_of_not_mem_cons h
    rw [ih hnames (walk_cons_eq_ok.1 hw).2, next_append (Ne.symm hname)]

theorem resolve_downward (h : p.Downward) (hp : t.resolve p = .ok q) : q = p.place := by
  rw [walk_downward h (walk_of_resolve hp), List.nil_append, Path.place]

/-- Away from the way to the target, a move takes a file from where its path leads. -/
theorem rename_away (htarget : target.Downward)
    (haway : ∀ q, t.resolve source = .ok q → t.node? q ≠ some .directory →
      q = source.place ∧ ¬ q <+: target.place)
    (h : (rename source target t).1 = .ok ()) :
    ∃ c, (rename source target t).2 = (t.erase source.place).put target.place (.file c) ∧
      source.place ≠ target.place ∧ t.resolve source = .ok source.place ∧
      t.node? source.place = some (.file c) ∧ t.node? target.place ≠ some .directory := by
  obtain ⟨a, b, c, hsource, hresolve, hfile, hfree⟩ := rename_ok h
  obtain ⟨rfl, hway⟩ := haway a hsource (by simp [hfile])
  obtain rfl := resolve_downward htarget hresolve
  have hne : source.place ≠ target.place := fun heq => hway (heq ▸ List.prefix_refl _)
  exact ⟨c, by rw [rename_eq hsource hresolve hfile hfree, if_neg hne], hne, hsource, hfile, hfree⟩

theorem missing_rename (htarget : target.Downward)
    (haway : ∀ q, t.resolve source = .ok q → t.node? q ≠ some .directory →
      q = source.place ∧ ¬ q <+: target.place)
    (h : (rename source target t).1 = .ok ()) :
    (rename source target t).2.resolve source = .ok source.place ∧
      (rename source target t).2.node? source.place = none := by
  obtain ⟨c, htree, hne, hsource, hfile, hfree⟩ := rename_away htarget haway h
  have hnode : t.node? source.place ≠ some .directory := by simp [hfile]
  have herased : (t.erase source.place).node? target.place ≠ some .directory := by
    rwa [node?_erase_ne (Ne.symm hne)]
  rw [htree]
  constructor
  · exact ((keeps_erase hnode).trans (keeps_put herased _)).resolve hsource
  · rw [node?_put_ne hne, node?_erase_self (ne_nil_of_node? hnode)]

theorem node?_rename (htarget : target.Downward)
    (haway : ∀ q, t.resolve source = .ok q → t.node? q ≠ some .directory →
      q = source.place ∧ ¬ q <+: target.place)
    (h : (rename source target t).1 = .ok ()) (hs : q ≠ source.place) (hq : q ≠ target.place) :
    (rename source target t).2.node? q = t.node? q := by
  obtain ⟨c, htree, -⟩ := rename_away htarget haway h
  rw [htree, node?_put_ne hq, node?_erase_ne hs]

/-- What a path leads to that stands beside another is not on the way of that one. -/
theorem Rooted.beside {p' : Path} (h : t.Rooted) (hp : p.Downward) (hbeside : p.Beside p')
    (hq : t.resolve p' = .ok q) (hn : t.node? q ≠ some .directory) :
    q = p'.place ∧ ¬ q <+: p.place := by
  obtain ⟨dir, name, other, hplace, hnames, hne, hdot⟩ := hbeside
  have hup : other ≠ ".." := by
    rintro rfl
    have hw := walk_of_resolve hq
    rw [hnames] at hw
    exact hn (h.walk_up hw)
  have hother : p'.place = Path.steps dir ++ [other] := by
    rw [Path.place, hnames, List.filter_append, Path.steps]
    simp [hdot]
  have hdown : p'.Downward := by
    rw [Path.downward_iff, hplace] at hp
    rw [Path.downward_iff, hother]
    simp only [List.mem_append, List.mem_singleton, not_or] at hp ⊢
    exact ⟨hp.1, Ne.symm hup⟩
  have hqplace := resolve_downward hdown hq
  refine ⟨hqplace, fun hpre => hne ?_⟩
  rw [hqplace, hother, hplace] at hpre
  simpa using hpre.eq_of_length (by simp)

/-- What a walk does depends on what is on the way. -/
theorem walk_congr (h : ".." ∉ names)
    (hnode : ∀ q, q <+: a ++ names.filter (· ≠ ".") → t'.node? q = t.node? q) :
    t'.walk a names = t.walk a names := by
  induction names generalizing a with
  | nil => rfl
  | cons name names ih =>
    obtain ⟨hname, hnames⟩ := List.ne_and_not_mem_of_not_mem_cons h
    rw [walk, walk, enter, enter, hnode a (List.prefix_append _ _)]
    rw [ih hnames (by rwa [next_append (Ne.symm hname)])]

theorem readText_congr (h : p.Downward) (hnode : ∀ q, q <+: p.place → t'.node? q = t.node? q) :
    t'.readText p = t.readText p := by
  have hresolve : t'.resolve p = t.resolve p := by
    unfold resolve
    rw [walk_congr h (by simpa [Path.place] using hnode)]
  unfold readText
  rw [hresolve]
  cases hp : t.resolve p with
  | error e => rfl
  | ok q =>
    have hq : t'.node? q = t.node? q := by
      rw [resolve_downward h hp]
      exact hnode _ (List.prefix_refl _)
    simp only [bind, Except.bind, hq]

/-! ### Directories that are new -/

/-- All that is new are directories on the way to a place. -/
def Opens (within : Place) (t t' : Tree) : Prop :=
  ∀ q, t'.node? q = t.node? q ∨
    q <+: within ∧ t.node? q = none ∧ t'.node? q = some .directory

theorem Opens.refl (within : Place) (t : Tree) : Opens within t t := fun _ => Or.inl rfl

theorem Opens.trans (h : Opens within t t') (h' : Opens within t' t'') : Opens within t t'' := by
  intro q
  rcases h q with hq | ⟨hw, hnone, hq⟩ <;> rcases h' q with hq' | ⟨hw', hnone', hq'⟩
  · exact Or.inl (hq'.trans hq)
  · exact Or.inr ⟨hw', hq ▸ hnone', hq'⟩
  · exact Or.inr ⟨hw, hnone, hq'.trans hq⟩
  · rw [hq] at hnone'
    cases hnone'

theorem Opens.mono {wider : Place} (h : Opens within t t') (hw : within <+: wider) :
    Opens wider t t' := fun q =>
  (h q).imp_right fun ⟨hq, hnone, hd⟩ => ⟨hq.trans hw, hnone, hd⟩

/-- Files are where they were, with what they held. -/
theorem Opens.file (h : Opens within t t') :
    t'.node? q = some (.file c) ↔ t.node? q = some (.file c) := by
  rcases h q with hq | ⟨-, hnone, hd⟩
  · rw [hq]
  · simp [hnone, hd]

theorem opens_put (hq : t.node? q = none) : Opens q t (t.put q .directory) := by
  intro r
  by_cases hr : r = q
  · subst hr
    exact Or.inr ⟨List.prefix_refl _, hq, node?_put_self (ne_nil_of_missing hq) _ _⟩
  · exact Or.inl (node?_put_ne hr _ _)

theorem opens_makeFrom (h : ".." ∉ names) :
    Opens (a ++ names.filter (· ≠ ".")) t (makeFrom a names t).2 := by
  induction names generalizing a t with
  | nil => exact .refl _ t
  | cons name names ih =>
    obtain ⟨hname, hnames⟩ := List.ne_and_not_mem_of_not_mem_cons h
    rw [← next_append (Ne.symm hname), makeFrom]
    split
    · exact .refl _ t
    · split
      · exact ih hnames
      · exact .refl _ t
      · next hnone => exact ((opens_put hnone).mono (List.prefix_append _ _)).trans (ih hnames)

/-- A walk among directories goes on as far as they go, unless a name is too long. -/
theorem walk_of_no_file (h : ".." ∉ names) (hfile : ∀ q c, a <+: q → t.node? q ≠ some (.file c)) :
    t.walk a names = .ok (a ++ names.filter (· ≠ ".")) ∨ t.walk a names = .error .missing ∨
      t.walk a names = .error .refused ∧ ∃ name ∈ names, maxName < name.utf8ByteSize := by
  induction names generalizing a with
  | nil => exact Or.inl (by rw [List.filter_nil, List.append_nil, walk])
  | cons name names ih =>
    obtain ⟨hname, hnames⟩ := List.ne_and_not_mem_of_not_mem_cons h
    rw [walk, enter]
    split
    · exact Or.inr (Or.inl rfl)
    · next hnode => exact absurd hnode (hfile a _ (List.prefix_refl _))
    · split
      · next hlong => exact Or.inr (Or.inr ⟨rfl, name, List.mem_cons_self, hlong⟩)
      · have hnext : a <+: next a name := by
          rw [next_downward (Ne.symm hname)]
          exact List.prefix_append _ _
        have hih := ih hnames fun q c hq => hfile q c (hnext.trans hq)
        rw [next_append (Ne.symm hname)] at hih
        rcases hih with hw | hw | ⟨hw, long, hmem, hlong⟩
        · exact Or.inl hw
        · exact Or.inr (Or.inl hw)
        · exact Or.inr (Or.inr ⟨hw, long, List.mem_cons_of_mem _ hmem, hlong⟩)

/-- New directories let a walk through only where it came to nothing before, and to nothing it
leads then, unless a name is too long. -/
theorem Opens.walk (h : Opens within t t') (ht : t.Rooted) (hnames : ".." ∉ names) :
    t'.walk a names = t.walk a names ∨
      t.walk a names = .error .missing ∧ t.node? (a ++ names.filter (· ≠ ".")) = none ∧
        (t'.walk a names = .ok (a ++ names.filter (· ≠ ".")) ∨
          t'.walk a names = .error .refused ∧ ∃ name ∈ names, maxName < name.utf8ByteSize) := by
  induction names generalizing a with
  | nil => exact Or.inl rfl
  | cons name names ih =>
    obtain ⟨hname, hrest⟩ := List.ne_and_not_mem_of_not_mem_cons hnames
    rcases h a with ha | ⟨-, hnone, -⟩
    · have henter : t'.enter a name = t.enter a name := by rw [enter, enter, ha]
      rw [Tree.walk, Tree.walk, henter]
      cases t.enter a name with
      | error e => exact Or.inl rfl
      | ok _ =>
        have hih := ih (a := next a name) hrest
        rw [next_append (Ne.symm hname)] at hih
        rcases hih with hw | ⟨hw, hn, hw'⟩
        · exact Or.inl hw
        · refine Or.inr ⟨hw, hn, hw'.imp_right ?_⟩
          rintro ⟨hr, long, hmem, hlong⟩
          exact ⟨hr, long, List.mem_cons_of_mem _ hmem, hlong⟩
    · have hmissing : t.walk a (name :: names) = .error .missing := by
        rw [Tree.walk, enter, hnone]
        rfl
      have hfile (q c) (hq : a <+: q) : t'.node? q ≠ some (.file c) := by
        rw [Ne, h.file, ht.missing hnone hq]
        simp
      rcases walk_of_no_file hnames hfile with hw | hw | hw
      · exact Or.inr ⟨hmissing, ht.missing hnone (List.prefix_append _ _), Or.inl hw⟩
      · exact Or.inl (hw.trans hmissing.symm)
      · exact Or.inr ⟨hmissing, ht.missing hnone (List.prefix_append _ _), Or.inr hw⟩

/-- New directories above a path change nothing of what it reads, unless a name is too long: where
nothing was missed before, there may now be a directory that refuses the name. -/
theorem Opens.readText (h : Opens p.place.dropLast t t') (ht : t.Rooted) (hp : p.Downward) :
    t'.readText p = t.readText p ∨
      t.readText p = .error .missing ∧ t'.readText p = .error .refused ∧
        ∃ name ∈ p.names, maxName < name.utf8ByteSize := by
  have hresolve : t'.resolve p = t.resolve p ∨
      t.resolve p = .error .missing ∧ t.node? p.place = none ∧
        (t'.resolve p = .ok p.place ∨
          t'.resolve p = .error .refused ∧ ∃ name ∈ p.names, maxName < name.utf8ByteSize) := by
    unfold resolve
    split
    · exact Or.inl rfl
    · split
      · exact Or.inl rfl
      · simpa only [List.nil_append, Path.place] using h.walk (a := []) ht hp
  have hnode : t'.node? p.place = t.node? p.place := by
    refine (h p.place).resolve_right ?_
    rintro ⟨hpre, hnone, -⟩
    exact dropLast_ne (ne_nil_of_missing hnone)
      ((List.dropLast_prefix _).eq_of_length_le hpre.length_le)
  unfold Tree.readText
  rcases hresolve with heq | ⟨hmissing, hnone, hopen | ⟨hrefused, hlong⟩⟩
  · left
    rw [heq]
    cases hq : t.resolve p with
    | error e => rfl
    | ok q =>
      rw [resolve_downward hp hq]
      simp only [bind, Except.bind, hnode]
  · left
    rw [hmissing, hopen]
    simp only [bind, Except.bind, hnode, hnone]
  · right
    rw [hmissing, hrefused]
    exact ⟨rfl, rfl, hlong⟩

end VirtualDisplay.Files.Tree
