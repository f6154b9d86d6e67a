import VirtualDisplay.Proofs.Channel.Moves
import VirtualDisplay.Proofs.Files.StateFile

/-! What a store holds: the state of the last commit that succeeded. Nothing else that is done to a
driver has a part in it, and a driver that starts, or starts again, takes it over. -/

namespace VirtualDisplay

open Files

variable {s s' : DriverState} {store : Store} {t t' : Tree} {path : Path}

namespace Store

/-- The store holds a state. -/
inductive Holds (s : DriverState) : Store → Tree → Prop
  | memory {t : Tree} : Holds s (.memory s) t
  | file {path : Path} {t : Tree} (read : t.readText path = .ok (StateFile.text s)) :
      Holds s (.file path) t

/-- The file of a store, if it is one. -/
def path? : Store → Option Path
  | memory _ => none
  | file path => some path

theorem path?_eq_some : store.path? = some path ↔ store = .file path := by
  cases store <;> simp [path?]

theorem path?_save (s : DriverState) (store : Store) (t : Tree) :
    (save s (store, t)).2.1.path? = store.path? := by
  cases store <;> rfl

theorem Holds.load (h : Holds s store t) : store.load t = .ok s := by
  cases h with
  | memory => rfl
  | file read => exact StateFile.load_of_readText read

/-- Only what stands in its file matters to a store. -/
theorem Holds.congr (h : Holds s store t)
    (hread : ∀ path, store.path? = some path → t'.readText path = t.readText path) :
    Holds s store t' := by
  cases h with
  | memory => exact .memory
  | file read => exact .file ((hread _ rfl).trans read)

theorem holds_save (h : (save s (store, t)).1 = .ok ()) :
    Holds s (save s (store, t)).2.1 (save s (store, t)).2.2 := by
  cases store with
  | memory _ => exact .memory
  | file path => exact .file (StateFile.readText_save h)

theorem Holds.save_error {e : StorageError} (h : Holds s store t)
    (he : (save s' (store, t)).1 = .error e) :
    Holds s (save s' (store, t)).2.1 (save s' (store, t)).2.2 := by
  cases h with
  | memory => cases he
  | file read => exact .file (StateFile.readText_save_error he read)

end Store

namespace Loopback

variable {d : Loopback} {m : Move}

theorem commit_disconnected (h : d.connected = false) (t : Tree) :
    commit (d, t) = (.error disconnected, d, t) := by
  simp [commit, h]

theorem commit_connected (h : d.connected = true) (t : Tree) :
    commit (d, t) = ((Store.save d.live (d.store, t)).1.mapError fun e => .persist e.message,
      { d with store := (Store.save d.live (d.store, t)).2.1 },
      (Store.save d.live (d.store, t)).2.2) := by
  simp [commit, h]

theorem holds_commit (h : (commit (d, t)).1 = .ok ()) :
    Store.Holds d.live (commit (d, t)).2.1.store (commit (d, t)).2.2 := by
  cases hd : d.connected with
  | false =>
    rw [commit_disconnected hd] at h
    cases h
  | true =>
    rw [commit_connected hd] at h ⊢
    exact Store.holds_save (mapError_eq_ok.1 h)

theorem holds_commit_error {e : ChannelError} (h : Store.Holds s d.store t)
    (he : (commit (d, t)).1 = .error e) :
    Store.Holds s (commit (d, t)).2.1.store (commit (d, t)).2.2 := by
  cases hd : d.connected with
  | false =>
    rw [commit_disconnected hd]
    exact h
  | true =>
    rw [commit_connected hd] at he ⊢
    cases hsave : (Store.save d.live (d.store, t)).1 with
    | ok _ => simp [hsave, Except.mapError] at he
    | error e => exact h.save_error hsave

theorem path?_commit (d : Loopback) (t : Tree) :
    (commit (d, t)).2.1.store.path? = d.store.path? := by
  cases hd : d.connected with
  | false => rw [commit_disconnected hd]
  | true =>
    rw [commit_connected hd]
    exact Store.path?_save _ _ _

theorem become_store (next : DriverState) (d : Loopback) : (d.become next).store = d.store := by
  unfold become
  split <;> rfl

theorem handle_store (c : ServerCommand) (d : Loopback) : (handle c d).2.store = d.store := by
  unfold handle
  split
  · rcases c with (monitors | ids | _) | ⟨⟩
    · exact become_store _ d
    · exact become_store _ d
    · exact become_store _ d
    · rfl
  · rfl

theorem restart_store (t : Tree) (d : Loopback) : (restart t d).2.store = d.store := by
  unfold restart
  split
  · split
    · rfl
    · exact become_store _ d
  · rfl

/-- Whatever is not a commit has no part in the store. -/
theorem Move.perform_store (h : m ≠ .commit) (d : Loopback) (t : Tree) :
    (m.perform (d, t)).2.1.store = d.store ∧ (m.perform (d, t)).2.2 = t := by
  cases m with
  | handle c => exact ⟨handle_store c d, rfl⟩
  | commit => exact absurd rfl h
  | restart => exact ⟨restart_store t d, rfl⟩
  | connect on => exact ⟨rfl, rfl⟩

theorem Move.path? (m : Move) (d : Loopback) (t : Tree) :
    (m.perform (d, t)).2.1.store.path? = d.store.path? := by
  by_cases h : m = .commit
  · subst h
    exact path?_commit d t
  · rw [(Move.perform_store h d t).1]

theorem Move.holds (h : Store.Holds s d.store t)
    (hfailed : m = .commit → (m.perform (d, t)).1.isOk = false) :
    Store.Holds s (m.perform (d, t)).2.1.store (m.perform (d, t)).2.2 := by
  by_cases hm : m = .commit
  · subst hm
    obtain ⟨e, he⟩ := isOk_eq_false.1 (hfailed rfl)
    exact holds_commit_error h he
  · obtain ⟨hstore, hfiles⟩ := Move.perform_store hm d t
    rw [hstore, hfiles]
    exact h

theorem restart_holds (h : Store.Holds s d.store t) (hs : s.Distinct) (hd : d.connected = true) :
    (restart t d).1 = .ok () ∧ (restart t d).2.live = s := by
  have hcommitted : d.committed t = .ok s := h.load
  simp [restart, hd, hcommitted, become_live, firstOfEachId_eq_self.2 hs]

theorem ofConfig_holds {c : DriverConfig} {file : String} (h : Store.Holds s (.file ⟨file⟩) t)
    (hs : s.Distinct) (hc : c.stateFile = some file) :
    ∃ d, ofConfig c t = .ok d ∧ d.live = s := by
  have hload : StateFile.load ⟨file⟩ t = .ok s := h.load
  simp [ofConfig, hc, hload, bind, Except.bind, pure, Except.pure, firstOfEachId_eq_self.2 hs]

end Loopback
end VirtualDisplay
