import VirtualDisplay.Proofs.Files.Tree
import VirtualDisplay.Proofs.Record.Fields
import VirtualDisplay.Proofs.Record.RoundTrip

/-! What saving does to a state file. A save that succeeds leaves the text of the state under the path,
and one that fails, at whatever point, leaves what was there. -/

namespace VirtualDisplay

open Files

namespace StateFile

variable {path : Path} {t : Tree} {s : DriverState} {e : StorageError} {held : String}
  {a b : Edit Tree (Except StorageError Unit)}

theorem load_of_readText (h : t.readText path = .ok (text s)) : load path t = .ok s := by
  simp only [load, h, load_text, Except.mapError]

/-! ### Edits in sequence -/

theorem andThen_of_ok (h : (a t).1 = .ok ()) : andThen a b t = b (a t).2 := by
  unfold andThen
  split
  · rename_i heq
    rw [heq]
  · rename_i heq
    rw [heq] at h
    cases h

theorem andThen_of_error (h : (a t).1 = .error e) : andThen a b t = (.error e, (a t).2) := by
  unfold andThen
  split
  · rename_i heq
    rw [heq] at h
    cases h
  · rename_i heq
    rw [heq] at h ⊢
    cases h
    rfl

theorem andThen_ok (h : (andThen a b t).1 = .ok ()) :
    (a t).1 = .ok () ∧ (b (a t).2).1 = .ok () ∧ (andThen a b t).2 = (b (a t).2).2 := by
  cases ha : (a t).1 with
  | error e =>
    rw [andThen_of_error ha] at h
    cases h
  | ok _ =>
    rw [andThen_of_ok ha] at h ⊢
    exact ⟨rfl, h, rfl⟩

theorem andThen_error (h : (andThen a b t).1 = .error e) :
    (a t).1 = .error e ∧ (andThen a b t).2 = (a t).2 ∨
      (a t).1 = .ok () ∧ (b (a t).2).1 = .error e ∧ (andThen a b t).2 = (b (a t).2).2 := by
  cases ha : (a t).1 with
  | error e' =>
    rw [andThen_of_error ha] at h ⊢
    exact Or.inl ⟨h, rfl⟩
  | ok _ =>
    rw [andThen_of_ok ha] at h ⊢
    exact Or.inr ⟨rfl, h, rfl⟩

/-! ### The three edits of a save -/

theorem extends_prepare (path : Path) (t : Tree) : t.Extends (prepare path t).2 := by
  unfold prepare
  split
  · exact .refl t
  · exact Tree.extends_makeDirectories _ t

/-- After the text has been written, the way to it is as it was, and it is there. -/
theorem writeTemporary_ok (h : (writeTemporary path s t).1 = .ok ()) :
    t.Keeps (writeTemporary path s t).2 ∧
      ∃ place, (writeTemporary path s t).2.resolve (temporary path) = .ok place ∧
        (writeTemporary path s t).2.node? place = some (.file (.text (text s))) := by
  obtain ⟨place, hplace, hnode, hwritten⟩ := Tree.write_ok (mapError_eq_ok.1 h)
  have hkeeps : t.Keeps (writeTemporary path s t).2 := by
    rw [writeTemporary, hwritten]
    exact Tree.keeps_put hnode _
  refine ⟨hkeeps, place, hkeeps.resolve hplace, ?_⟩
  rw [writeTemporary, hwritten]
  exact Tree.node?_put_self (Tree.ne_nil_of_node? hnode) _ _

theorem writeTemporary_error (h : (writeTemporary path s t).1 = .error e) :
    (writeTemporary path s t).2 = t := by
  unfold writeTemporary at h ⊢
  cases hw : (Tree.write (temporary path) (.text (text s)) t).1 with
  | error e => exact Tree.write_error hw
  | ok _ => simp [hw, Except.mapError] at h

/-- Unless there is a directory under the path, the text that was written is moved there. -/
theorem moveIntoPlace_ok {place : Place} (hw : (writeTemporary path s t).1 = .ok ())
    (hp : t.resolve path = .ok place) (hn : t.node? place ≠ some .directory) :
    (moveIntoPlace path (writeTemporary path s t).2).1 = .ok () := by
  obtain ⟨written, -, hnode, htree⟩ := Tree.write_ok (mapError_eq_ok.1 hw)
  obtain ⟨hkeeps, source, hsource, htext⟩ := writeTemporary_ok hw
  have hfile : (writeTemporary path s t).2.node? place ≠ some .directory := by
    rw [writeTemporary, htree]
    by_cases h : place = written
    · rw [h, Tree.node?_put_self (Tree.ne_nil_of_node? hnode)]
      simp
    · rw [Tree.node?_put_ne h]
      exact hn
  rw [moveIntoPlace, Tree.rename_eq hsource (hkeeps.resolve hp) htext hfile]
  rfl

theorem moveIntoPlace_error (h : (moveIntoPlace path t).1 = .error e) :
    (moveIntoPlace path t).2 = t := by
  unfold moveIntoPlace at h ⊢
  cases hr : (Tree.rename (temporary path) path t).1 with
  | error e => exact Tree.rename_error hr
  | ok _ => simp [hr, Except.mapError] at h

/-! ### Saves -/

/-- A save succeeds if the directories can be made and neither path leads to a directory. -/
theorem save_ok {place target : Place} (h : (prepare path t).1 = .ok ())
    (hw : (prepare path t).2.resolve (temporary path) = .ok place)
    (hn : (prepare path t).2.node? place ≠ some .directory)
    (hp : (prepare path t).2.resolve path = .ok target)
    (hm : (prepare path t).2.node? target ≠ some .directory) : (save path s t).1 = .ok () := by
  have hwrite : (writeTemporary path s (prepare path t).2).1 = .ok () := by
    rw [writeTemporary, Tree.write_eq hw hn]
    rfl
  rw [save, andThen_of_ok h, andThen_of_ok hwrite]
  exact moveIntoPlace_ok hwrite hp hm

/-- A save fails if a directory stands in the way of the file beside the path. -/
theorem save_refused {place : Place} (h : (prepare path t).1 = .ok ())
    (hw : (prepare path t).2.resolve (temporary path) = .ok place)
    (hn : (prepare path t).2.node? place = some .directory) :
    (save path s t).1 = .error (.io (temporary path)) := by
  have hwrite : (writeTemporary path s (prepare path t).2).1 = .error (.io (temporary path)) := by
    simp only [writeTemporary, Tree.write, hw, hn, Except.mapError]
  rw [save, andThen_of_ok h, andThen_of_error hwrite]

theorem readText_save (h : (save path s t).1 = .ok ()) :
    (save path s t).2.readText path = .ok (text s) := by
  obtain ⟨-, hrest, htree⟩ := andThen_ok h
  obtain ⟨hwrite, hmove, hmoved⟩ := andThen_ok hrest
  obtain ⟨-, place, hsource, htext⟩ := writeTemporary_ok hwrite
  obtain ⟨a, b, c, ha, hb, -, hfile⟩ := Tree.rename_ok (mapError_eq_ok.1 hmove)
  unfold save
  rw [htree, hmoved]
  exact Tree.readText_rename hsource hb htext hfile

/-- A save that fails has not got as far as to touch a file that was there. -/
theorem readText_save_error (h : (save path s t).1 = .error e) (hr : t.readText path = .ok held) :
    (save path s t).2.readText path = .ok held := by
  have hprepared := (extends_prepare path t).readText hr
  unfold save at h ⊢
  rcases andThen_error h with ⟨-, htree⟩ | ⟨-, hrest, htree⟩
  · rw [htree]
    exact hprepared
  · rcases andThen_error hrest with ⟨hwrite, hwritten⟩ | ⟨hwrite, hmove, -⟩
    · rw [htree, hwritten, writeTemporary_error hwrite]
      exact hprepared
    · obtain ⟨place, hplace, hheld⟩ := Tree.readText_eq_ok.1 hprepared
      rw [moveIntoPlace_ok hwrite hplace (by simp [hheld])] at hmove
      cases hmove

end StateFile
end VirtualDisplay
