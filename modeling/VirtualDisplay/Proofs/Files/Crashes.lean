import VirtualDisplay.Proofs.Files.StateFile
import VirtualDisplay.Proofs.Files.Walks

/-! Saves that fail or are cut off. Until the text is moved into place, the file under the path is as
it was, whatever has become of the directories above it and of the file beside it. -/

namespace VirtualDisplay

open Files

namespace StateFile

variable {p : Path} {t t' : Tree} {s : DriverState} {e : StorageError} {q : Place} {c : Content}

/-- Some name is longer than names can be. -/
def Overlong (p : Path) : Prop := ∃ name ∈ p.names, Tree.maxName < name.utf8ByteSize

/-- A path loads as before. With an overlong name it may have been missing and be refused now. -/
def Holds (p : Path) (t t' : Tree) : Prop :=
  load p t' = load p t ∨ Overlong p ∧ load p t = .ok [] ∧ load p t' = .error (.io p)

/-- The trees in which a save may be cut off before the text is in place: some of the directories are
made, or all of them and the file beside the path is written, as far as it may be. -/
inductive CutOff (p : Path) (t : Tree) : Tree → Prop
  | untouched : CutOff p t t
  | preparing (d : Path) (n : Nat) : p.parent? = some d → Tree.accepts d = true →
      CutOff p t (Tree.makeFrom [] (d.names.take n) t).2
  | writing (c : Content) : (prepare p t).1 = .ok () →
      CutOff p t (Tree.write (temporary p) c (prepare p t).2).2

/-! ### The file beside -/

theorem temporary_beside (hp : p.Downward) :
    p.place = [] ∧ temporary p = p ∨ p.Beside (temporary p) :=
  Path.beside_withExtension hp (by decide) (by decide)

theorem resolve_temporary (ht : t.Rooted) (hp : p.Downward) (hq : t.resolve (temporary p) = .ok q)
    (hn : t.node? q ≠ some .directory) : q = (temporary p).place ∧ ¬ q <+: p.place := by
  rcases temporary_beside hp with ⟨hroot, hsame⟩ | hbeside
  · rw [hsame] at hq
    rw [Tree.resolve_downward hp hq, hroot] at hn
    exact absurd rfl hn
  · exact ht.beside hp hbeside hq hn

theorem readText_write (ht : t.Rooted) (hp : p.Downward) (c : Content) :
    (Tree.write (temporary p) c t).2.readText p = t.readText p := by
  cases hw : (Tree.write (temporary p) c t).1 with
  | error e => rw [Tree.write_error hw]
  | ok _ =>
    obtain ⟨q, hq, hn, htree⟩ := Tree.write_ok hw
    refine Tree.readText_congr hp fun r hr => ?_
    have hne : r ≠ q := by
      rintro rfl
      exact (resolve_temporary ht hp hq hn).2 hr
    rw [htree, Tree.node?_put_ne hne]

theorem node?_write (ht : t.Rooted) (hp : p.Downward) (c : Content) (hq : q ≠ (temporary p).place) :
    (Tree.write (temporary p) c t).2.node? q = t.node? q := by
  cases hw : (Tree.write (temporary p) c t).1 with
  | error e => rw [Tree.write_error hw]
  | ok _ =>
    obtain ⟨r, hr, hn, htree⟩ := Tree.write_ok hw
    rw [htree, Tree.node?_put_ne ((resolve_temporary ht hp hr hn).1 ▸ hq)]

/-! ### The directories above -/

theorem opens_preparing {d : Path} (hp : p.Downward) (hd : p.parent? = some d) (n : Nat) :
    Tree.Opens p.place.dropLast t (Tree.makeFrom [] (d.names.take n) t).2 := by
  have hdown : ".." ∉ d.names.take n := fun h => hp.parent hd (List.mem_of_mem_take h)
  refine (Tree.opens_makeFrom hdown).mono ?_
  rw [← Path.place_parent hd, List.nil_append]
  exact (List.take_prefix n d.names).filter _

theorem cutOff_prepare (p : Path) (t : Tree) :
    (prepare p t).2 = t ∨ ∃ d n, p.parent? = some d ∧ Tree.accepts d = true ∧
      (prepare p t).2 = (Tree.makeFrom [] (d.names.take n) t).2 := by
  unfold prepare Tree.makeDirectories
  split
  · exact Or.inl rfl
  · next d hd =>
    dsimp only
    split
    · next haccepts =>
      refine Or.inr ⟨d, d.names.length, (Option.filter_eq_some_iff.1 hd).1, haccepts, ?_⟩
      rw [List.take_length]
    · exact Or.inl rfl

theorem opens_prepare (hp : p.Downward) (t : Tree) :
    Tree.Opens p.place.dropLast t (prepare p t).2 := by
  rcases cutOff_prepare p t with h | ⟨d, n, hd, -, h⟩
  · rw [h]
    exact .refl _ t
  · rw [h]
    exact opens_preparing hp hd n

theorem rooted_prepare (ht : t.Rooted) (p : Path) : (prepare p t).2.Rooted := by
  rcases cutOff_prepare p t with h | ⟨d, n, -, -, h⟩
  · rwa [h]
  · rw [h]
    exact ht.makeFrom

theorem CutOff.rooted (h : CutOff p t t') (ht : t.Rooted) : t'.Rooted := by
  cases h with
  | untouched => exact ht
  | preparing d n _ _ => exact ht.makeFrom
  | writing c _ => exact (rooted_prepare ht p).write _ c

/-! ### What the path loads as -/

theorem holds_of_readText (h : t'.readText p = t.readText p) : Holds p t t' := by
  left
  rw [load, load, h]

theorem Holds.of_opens (h : Tree.Opens p.place.dropLast t t') (ht : t.Rooted) (hp : p.Downward) :
    Holds p t t' := by
  rcases h.readText ht hp with hr | ⟨hmissing, hrefused, hlong⟩
  · exact holds_of_readText hr
  · exact Or.inr ⟨hlong, by rw [load, hmissing], by rw [load, hrefused]⟩

theorem Holds.congr {t'' : Tree} (h : Holds p t t') (hr : t''.readText p = t'.readText p) :
    Holds p t t'' := by
  have hload : load p t'' = load p t' := by rw [load, load, hr]
  rwa [Holds, hload]

theorem CutOff.holds (h : CutOff p t t') (ht : t.Rooted) (hp : p.Downward) : Holds p t t' := by
  cases h with
  | untouched => exact Or.inl rfl
  | preparing d n hd _ => exact .of_opens (opens_preparing hp hd n) ht hp
  | writing c _ =>
    exact (Holds.of_opens (opens_prepare hp t) ht hp).congr
      (readText_write (rooted_prepare ht p) hp c)

theorem CutOff.file (h : CutOff p t t') (ht : t.Rooted) (hp : p.Downward)
    (hq : q ≠ (temporary p).place) :
    t'.node? q = some (.file c) ↔ t.node? q = some (.file c) := by
  cases h with
  | untouched => rfl
  | preparing d n hd _ => exact (opens_preparing hp hd n).file
  | writing c _ => rw [node?_write (rooted_prepare ht p) hp c hq, (opens_prepare hp t).file]

/-- A save that fails has been cut off. -/
theorem cutOff_of_error (h : (save p s t).1 = .error e) : CutOff p t (save p s t).2 := by
  unfold save at h ⊢
  rcases andThen_error h with ⟨-, htree⟩ | ⟨hprepare, hrest, htree⟩
  · rw [htree]
    rcases cutOff_prepare p t with hsame | ⟨d, n, hd, haccepts, hmade⟩
    · rw [hsame]
      exact .untouched
    · rw [hmade]
      exact .preparing d n hd haccepts
  · rw [htree]
    rcases andThen_error hrest with ⟨-, hwritten⟩ | ⟨-, hmove, hmoved⟩
    · rw [hwritten]
      exact .writing _ hprepare
    · rw [hmoved, moveIntoPlace_error hmove]
      exact .writing _ hprepare

/-- A save that succeeds ends with the move of the file beside the path. -/
theorem save_moves (h : (save p s t).1 = .ok ()) :
    ∃ t₁, CutOff p t t₁ ∧ (Tree.rename (temporary p) p t₁).1 = .ok () ∧
      (save p s t).2 = (Tree.rename (temporary p) p t₁).2 := by
  obtain ⟨hprepare, hrest, htree⟩ := andThen_ok h
  obtain ⟨-, hmove, hmoved⟩ := andThen_ok hrest
  exact ⟨_, .writing _ hprepare, mapError_eq_ok.1 hmove, htree.trans hmoved⟩

theorem missing_temporary (ht : t.Rooted) (hp : p.Downward) (h : (save p s t).1 = .ok ()) :
    (save p s t).2.resolve (temporary p) = .ok (temporary p).place ∧
      (save p s t).2.node? (temporary p).place = none := by
  obtain ⟨t₁, hcut, hmove, htree⟩ := save_moves h
  rw [htree]
  exact Tree.missing_rename hp (fun _ => resolve_temporary (hcut.rooted ht) hp) hmove

/-- Files elsewhere are not touched. -/
theorem file_save (ht : t.Rooted) (hp : p.Downward) (hq : q ≠ p.place)
    (hq' : q ≠ (temporary p).place) :
    (save p s t).2.node? q = some (.file c) ↔ t.node? q = some (.file c) := by
  cases h : (save p s t).1 with
  | error e => exact (cutOff_of_error h).file ht hp hq'
  | ok _ =>
    obtain ⟨t₁, hcut, hmove, htree⟩ := save_moves h
    have haway (r) := resolve_temporary (q := r) (hcut.rooted ht) hp
    rw [htree, Tree.node?_rename hp haway hmove hq' hq, hcut.file ht hp hq']

theorem rooted_save (ht : t.Rooted) (p : Path) (s : DriverState) : (save p s t).2.Rooted := by
  cases h : (save p s t).1 with
  | error e => exact (cutOff_of_error h).rooted ht
  | ok _ =>
    obtain ⟨t₁, hcut, -, htree⟩ := save_moves h
    rw [htree]
    exact (hcut.rooted ht).rename _ _

/-! ### Overlong names -/

theorem resolve_below {name : List Char} (t : Tree) (hslash : '/' ∉ name) (hzero : '\x00' ∉ name)
    (hname : name ≠ []) (hshort : (String.ofList name).utf8ByteSize + 2 ≤ Tree.maxPath) :
    t.resolve ⟨String.ofList (['a', '/'] ++ name)⟩ = t.walk [] ["a", String.ofList name] := by
  have hsize : (String.ofList (['a', '/'] ++ name)).utf8ByteSize ≤ Tree.maxPath := by
    rw [String.ofList_append, String.utf8ByteSize_append, Nat.add_comm]
    exact hshort
  have haccepts : Tree.accepts ⟨String.ofList (['a', '/'] ++ name)⟩ = true :=
    Tree.accepts_iff.2 ⟨hsize, by simpa using hzero⟩
  have hempty : String.ofList (['a', '/'] ++ name) ≠ "" := fun h => by
    simpa using congrArg String.toList h
  have hdir : Path.Directory ['a', '/'] := Or.inr ⟨['a'], rfl⟩
  rw [Tree.resolve_of_accepts haccepts hempty, Path.names_name hdir hslash hname]
  rfl

/-- Where the directory is missing, so is an overlong name in it. Once the directory has been made for
the name, the name is refused. -/
theorem overlong_refused {name : List Char} (hplain : Path.Plain name) (hzero : '\x00' ∉ name)
    (hlong : Tree.maxName < (String.ofList name).utf8ByteSize)
    (hshort : (String.ofList name).utf8ByteSize + 11 ≤ Tree.maxPath) (s : DriverState) :
    let p : Path := ⟨String.ofList (['a', '/'] ++ name)⟩
    p.Downward ∧ load p {} = .ok [] ∧ (save p s {}).1 = .error (.io (temporary p)) ∧
      load p (save p s {}).2 = .error (.io p) := by
  intro p
  have hdir : Path.Directory ['a', '/'] := Or.inr ⟨['a'], rfl⟩
  have htext : temporary p = ⟨String.ofList (['a', '/'] ++ (name ++ ".json.tmp".toList))⟩ :=
    hplain.withExtension hdir "json.tmp"
  have hsize : (String.ofList (name ++ ".json.tmp".toList)).utf8ByteSize =
      (String.ofList name).utf8ByteSize + 9 := by
    rw [String.ofList_append, String.utf8ByteSize_append]
    rfl
  have hp (t : Tree) := resolve_below t hplain.slash hzero hplain.ne_nil (by omega)
  have htemporary (t : Tree) : t.resolve (temporary p) = _ :=
    htext ▸ resolve_below t (by simpa using hplain.slash) (by simpa using hzero)
      (by simp [hplain.ne_nil]) (by omega)
  have hdown : p.Downward := by
    rw [Path.Downward, Path.names_name hdir hplain.slash hplain.ne_nil, List.mem_append,
      List.mem_singleton]
    exact not_or.2 ⟨by decide, Ne.symm hplain.ne_dots⟩
  have hparent : p.parent? = some ⟨"a"⟩ := by
    unfold Path.parent?
    rw [hplain.cutName hdir]
    split
    · next heq => simp [hplain.ne_nil] at heq
    · next heq =>
      cases heq
      rfl
  let made : Tree := Tree.put ["a"] .directory {}
  have hmade : Tree.makeDirectories ⟨"a"⟩ {} = (.ok (), made) := by
    unfold Tree.makeDirectories
    rw [if_pos (Tree.accepts_iff.2 (by decide))]
    rfl
  have hprepare : prepare p {} = (.ok (), made) := by
    unfold prepare
    rw [hparent, show Option.filter _ _ = some (⟨"a"⟩ : Path) from rfl]
    simp only [hmade]
    rfl
  have hwalk {n : String} (hn : Tree.maxName < n.utf8ByteSize) :
      made.walk [] ["a", n] = .error .refused := by
    change (made.enter ["a"] n).bind _ = _
    rw [Tree.enter, show made.node? ["a"] = some .directory from rfl]
    dsimp only
    rw [if_pos hn]
    rfl
  have hwrite : writeTemporary p s made = (.error (.io (temporary p)), made) := by
    rw [writeTemporary, Tree.write, htemporary, hwalk (by omega)]
    rfl
  have hsave : save p s {} = (.error (.io (temporary p)), made) := by
    simp only [save, andThen, hprepare, hwrite]
  refine ⟨hdown, ?_, by rw [hsave], ?_⟩
  · rw [load, Tree.readText, hp]
    rfl
  · rw [hsave, load, Tree.readText, hp, hwalk hlong]
    rfl

/-! ### All or nothing -/

/-- A save is done or not, wherever it ends. Up to the move the path loads what it loaded before, then
it loads the state. Only a path with an overlong name, which cannot be saved under, may be refused where
it was missing. No file is touched but the one under the path and the one beside it. The tree holds
directories and regular files only: nothing is said of a path that is a link, which a move replaces. -/
theorem save_all_or_nothing (ht : t.Rooted) (hp : p.Downward) (s : DriverState) :
    ((save p s t).1 = .ok () →
        load p (save p s t).2 = .ok s ∧
        (save p s t).2.resolve (temporary p) = .ok (temporary p).place ∧
        (save p s t).2.node? (temporary p).place = none) ∧
      (∀ e, (save p s t).1 = .error e → Holds p t (save p s t).2) ∧
      (∀ t', CutOff p t t' → Holds p t t') ∧
      ∀ t' q c, CutOff p t t' ∨ t' = (save p s t).2 → q ≠ p.place → q ≠ (temporary p).place →
        (t'.node? q = some (.file c) ↔ t.node? q = some (.file c)) := by
  refine ⟨fun h => ⟨load_of_readText (readText_save h), missing_temporary ht hp h⟩,
    fun e h => (cutOff_of_error h).holds ht hp, fun t' h => h.holds ht hp, ?_⟩
  rintro t' q c (h | rfl) hq hq'
  · exact h.file ht hp hq'
  · exact file_save ht hp hq hq'

theorem saved_or_not :
    Tree.Rooted {} ∧ (⟨"s"⟩ : Path).Downward ∧
      load ⟨"s"⟩ (save ⟨"s"⟩ [{ id := 1 }] {}).2 = .ok [{ id := 1 }] ∧
      ∀ t', CutOff ⟨"s"⟩ {} t' → Holds ⟨"s"⟩ {} t' := by
  have hdown : (⟨"s"⟩ : Path).Downward := by
    rw [Path.Downward]
    decide
  have hs : Tree.resolve {} ⟨"s"⟩ = .ok ["s"] :=
    Tree.resolve_of_accepts (Tree.accepts_iff.2 (by decide)) (by decide)
  have htemporary : Tree.resolve {} ⟨"s.json.tmp"⟩ = .ok ["s.json.tmp"] :=
    Tree.resolve_of_accepts (Tree.accepts_iff.2 (by decide)) (by decide)
  have hsave : (save ⟨"s"⟩ [{ id := 1 }] {}).1 = .ok () :=
    save_ok rfl htemporary (show (none : Option Node) ≠ _ by simp) hs
      (show (none : Option Node) ≠ _ by simp)
  obtain ⟨hok, -, hcut, -⟩ := save_all_or_nothing Tree.rooted_empty hdown [{ id := 1 }]
  exact ⟨Tree.rooted_empty, hdown, (hok hsave).1, hcut⟩

/-- A save that fails does not always leave what the path loaded as. -/
theorem missing_then_refused :
    let p : Path := ⟨String.ofList (['a', '/'] ++ List.replicate 256 'L')⟩
    Tree.Rooted {} ∧ p.Downward ∧ load p {} = .ok [] ∧
      (save p [] {}).1 = .error (.io (temporary p)) ∧ load p (save p [] {}).2 = .error (.io p) := by
  have hmem {c : Char} (hc : c ≠ 'L') : c ∉ List.replicate 256 'L' := fun h =>
    hc (List.eq_of_mem_replicate h)
  exact ⟨Tree.rooted_empty, overlong_refused ⟨hmem (by decide), hmem (by decide), by decide⟩
    (hmem (by decide)) (by decide +kernel) (by decide +kernel) []⟩

end StateFile
end VirtualDisplay
