import VirtualDisplay.Proofs.Channel.Stores
import VirtualDisplay.Proofs.World.Distinct

/-! Commits over a run. From one commit that succeeds to the next, a driver can go back to what was
live at the first, whatever steps are taken, as long as nobody else changes what its file says. -/

namespace VirtualDisplay

open Files Loopback

variable {α : Type}

namespace World

/-- Every step of a run meets a condition on the world in which it is taken. -/
def Throughout (P : World → Step α → Prop) : World → List (Step α) → Prop
  | _, [] => True
  | w, x :: steps => P w x ∧ Throughout P (w.step x).2 steps

/-- With the step, something else than the driver of a channel may change files. -/
inductive Foreign (w : World) (i : Nat) : Step α → Prop
  | touch (change : Tree → Tree) : Foreign w i (.touch change)
  | commit {x : Step α} {j : Nat} (moves : w.Moves x j .commit) (other : j ≠ i) : Foreign w i x

/-- The step is no commit of the driver, or one that fails. -/
def NoCommit (i : Nat) (w : World) (x : Step α) : Prop :=
  w.Moves x i .commit → (w.step x).1.succeeded = false

/-- Unless it is the driver itself that commits, the step leaves what a file says. -/
def LeavesText (i : Nat) (path : Path) (w : World) (x : Step α) : Prop :=
  w.Foreign i x → (w.step x).2.files.readText path = w.files.readText path

/-- A state is kept for the driver of a channel. -/
def Keeps (w : World) (i : Nat) (s : DriverState) : Prop :=
  Store.Holds s (w.driver i).store w.files

variable {w w' : World} {x : Step α} {i : Nat} {s : DriverState} {d : Loopback}

theorem Keeps.congr (h : w.Keeps i s) (hd : w'.driver i = w.driver i)
    (hread : ∀ path, (w.driver i).store.path? = some path →
      w'.files.readText path = w.files.readText path) : w'.Keeps i s := by
  rw [Keeps, hd]
  exact Store.Holds.congr h hread

namespace Running

variable (hw : w.Running)
include hw

/-- A commit that succeeds keeps the live state. -/
theorem keeps_commit (hx : w.Moves x i .commit) (hok : (w.step x).1.succeeded = true) :
    (w.step x).2.Keeps i (w.driver i).live := by
  have hg := hw.sound.grounded
  obtain ⟨hstep, hsucceeded⟩ := hg.step_move hx
  rw [hsucceeded] at hok
  rw [Keeps, hstep, driver_move (hg.bound hw.driven hx), if_pos rfl]
  obtain ⟨_, hr⟩ := isOk_eq_true.1 hok
  exact holds_commit hr

theorem path?_step (x : Step α) (hi : i < w.channels.length) :
    ((w.step x).2.driver i).store.path? = (w.driver i).store.path? := by
  have hg := hw.sound.grounded
  cases hg.course x with
  | move moves =>
    rw [(hg.step_move moves).1, driver_move (hg.bound hw.driven moves)]
    split
    · rename_i hj
      rw [hj]
      exact Move.path? _ _ _
    · rfl
  | enter built entered => rw [entered, driver_enter_of_lt hi]
  | touch change touches =>
    subst touches
    rfl
  | rest rests => rw [driver_congr rests.channels]

/-- What is kept for a driver stays kept through a step that is no successful commit of its own. -/
theorem keeps_step (hi : i < w.channels.length) (h : w.Keeps i s) (hlast : NoCommit i w x)
    (hown : ∀ path, (w.driver i).store.path? = some path → LeavesText i path w x) :
    (w.step x).2.Keeps i s := by
  have hg := hw.sound.grounded
  cases hg.course x with
  | move moves =>
    rename_i j m
    have hj := hg.bound hw.driven moves
    obtain ⟨hstep, hsucceeded⟩ := hg.step_move moves
    by_cases hij : i = j
    · subst hij
      rw [Keeps, hstep, driver_move hj, if_pos rfl]
      refine Move.holds h fun hm => ?_
      subst hm
      exact hsucceeded.symm.trans (hlast moves)
    · apply h.congr
      · rw [hstep, driver_move hj, if_neg hij]
      · intro path hpath
        by_cases hm : m = .commit
        · subst hm
          exact hown path hpath (.commit moves (Ne.symm hij))
        · rw [hstep]
          exact congrArg (·.readText path) (Move.perform_store hm _ _).2
  | enter built entered =>
    rw [entered]
    exact h.congr (driver_enter_of_lt hi _) fun _ _ => rfl
  | touch change touches =>
    subst touches
    exact h.congr rfl fun path hpath => hown path hpath (.touch change)
  | rest rests =>
    exact h.congr (congrFun (driver_congr rests.channels) i) fun path _ => by rw [rests.files]

theorem keeps_run {steps : List (Step α)} (hi : i < w.channels.length) (h : w.Keeps i s)
    (hlast : w.Throughout (NoCommit i) steps)
    (hown : ∀ path, (w.driver i).store.path? = some path → w.Throughout (LeavesText i path) steps) :
    (w.run steps).Keeps i s := by
  induction steps generalizing w with
  | nil => exact h
  | cons x steps ih =>
    have hnext := hw.keeps_step hi h hlast.1 fun path hpath => (hown path hpath).1
    refine ih (hw.step x) (Nat.lt_of_lt_of_le hi (hw.grows_step x).channels) hnext hlast.2 ?_
    intro path hpath
    rw [hw.path?_step x hi] at hpath
    exact (hown path hpath).2

theorem path?_run (steps : List (Step α)) (hi : i < w.channels.length) :
    ((w.run steps).driver i).store.path? = (w.driver i).store.path? := by
  induction steps generalizing w with
  | nil => rfl
  | cons x steps ih =>
    rw [run_cons, ih (hw.step x) (Nat.lt_of_lt_of_le hi (hw.grows_step x).channels),
      hw.path?_step x hi]

/-- A restart of the driver makes what is kept for it live again. -/
theorem restart_step (h : w.Keeps i s) (hs : s.Distinct) (hconnected : (w.driver i).connected = true)
    (hx : w.Moves x i .restart) :
    (w.step x).1.succeeded = true ∧ ((w.step x).2.driver i).live = s := by
  have hg := hw.sound.grounded
  obtain ⟨hrestart, hlive⟩ := restart_holds h hs hconnected
  obtain ⟨hstep, hsucceeded⟩ := hg.step_move hx
  constructor
  · rw [hsucceeded]
    exact isOk_eq_true.2 ⟨(), hrestart⟩
  · rw [hstep, driver_move (hg.bound hw.driven hx), if_pos rfl]
    exact hlive

end Running

/-- After a commit that has succeeded, and as long as none of the driver's later ones does and nobody
else changes what its file says, what was live at the commit is what a restart of the driver leads to.
With a file, it is also what a new driver on that file starts with. -/
theorem restores_committed (hw : w.Reached) (hd : w.channels[i]? = some (.loopback d))
    (hx : w.Moves x i .commit) (hok : (w.step x).1.succeeded = true) {steps : List (Step α)}
    (hlast : (w.step x).2.Throughout (NoCommit i) steps)
    (hown : ∀ path, d.store = .file path → (w.step x).2.Throughout (LeavesText i path) steps)
    (hrun : (w.step x).2.run steps = w') :
    ∃ d', w'.channels[i]? = some (.loopback d') ∧ d'.committed w'.files = .ok d.live ∧
      (d'.connected = true →
        (Loopback.restart w'.files d').1 = .ok () ∧
        (Loopback.restart w'.files d').2.live = d.live ∧
        ∀ y : Step α, w'.Moves y i .restart → (w'.step y).1.succeeded = true ∧
          ∃ d'', (w'.step y).2.channels[i]? = some (.loopback d'') ∧ d''.live = d.live) ∧
      ∀ (c : DriverConfig) (file : String), d.store = .file ⟨file⟩ → c.stateFile = some file →
        ∃ new, Loopback.ofConfig c w'.files = .ok new ∧ new.live = d.live := by
  subst hrun
  have hi : i < w.channels.length := (List.getElem?_eq_some_iff.1 hd).1
  have hs := (hw.distinct.driver i hi).live
  have hstep := (hw.running hi).step x
  have hi' := Nat.lt_of_lt_of_le hi ((hw.running hi).grows_step x).channels
  have hkeeps := (hw.running hi).keeps_commit hx hok
  have hpath := (hw.running hi).path?_step x hi
  rw [driver_eq hd] at hs hkeeps hpath
  have hrunning := hstep.run steps
  have hi'' := Nat.lt_of_lt_of_le hi' (hstep.channels_run steps)
  have hkept : ((w.step x).2.run steps).Keeps i d.live :=
    hstep.keeps_run hi' hkeeps hlast fun path h => hown path (Store.path?_eq_some.1 (hpath ▸ h))
  refine ⟨_, hrunning.getElem?_channels hi'', hkept.load, fun hconnected => ?_, ?_⟩
  · obtain ⟨hrestart, hlive⟩ := restart_holds hkept hs hconnected
    refine ⟨hrestart, hlive, fun y hy => ?_⟩
    obtain ⟨hsucceeded, hback⟩ := hrunning.restart_step hkept hs hconnected hy
    refine ⟨hsucceeded, _, (hrunning.step y).getElem?_channels ?_, hback⟩
    exact Nat.lt_of_lt_of_le hi'' (hrunning.grows_step y).channels
  · intro c file hfile hc
    have hlater := (hstep.path?_run steps hi').trans hpath
    rw [hfile] at hlater
    have hstore := Store.path?_eq_some.1 hlater
    rw [Keeps, hstore] at hkept
    exact ofConfig_holds hkept hs hc

/-- A driver with a state file commits, is given another state, and restarts. -/
theorem restores_committed_after_push :
    let x : Step Unit := .commit
    let y : Step Unit := .restart
    let steps : List (Step Unit) := [.push []]
    let w := ((({ channels := [] } : World).enter { store := .file ⟨"s"⟩ }).step
      (.push (α := Unit) [{ id := 1 }])).2
    let w' := (w.step x).2.run steps
    w'.channels[0]? = some (.loopback
      { store := .file ⟨"s"⟩, events := [[{ id := 1 }], []] }) ∧
    (∃ d, (w'.step y).2.channels[0]? = some (.loopback d) ∧ d.live = [{ id := 1 }]) ∧
    ∃ new, Loopback.ofConfig { stateFile := some "s" } w'.files = .ok new ∧
      new.live = [{ id := 1 }] := by
  intro x y steps w w'
  have hs : Tree.resolve {} ⟨"s"⟩ = .ok ["s"] :=
    Tree.resolve_of_accepts (Tree.accepts_iff.2 (by decide)) (by decide)
  have htemporary : Tree.resolve {} ⟨"s.json.tmp"⟩ = .ok ["s.json.tmp"] :=
    Tree.resolve_of_accepts (Tree.accepts_iff.2 (by decide)) (by decide)
  have hsave : (StateFile.save ⟨"s"⟩ [{ id := 1 }] {}).1 = .ok () :=
    StateFile.save_ok rfl htemporary (show (none : Option Node) ≠ _ by simp) hs
      (show (none : Option Node) ≠ _ by simp)
  have hok : (w.step x).1.succeeded = true := by
    change (Outcome.ofExcept (done (α := Unit))
      ((StateFile.save ⟨"s"⟩ [{ id := 1 }] {}).1.mapError _)).succeeded = true
    rw [hsave]
    rfl
  have hw : w.Reached := by
    refine .step _ (.enter (.config { stateFile := some "s" }) (.start {}) ?_) (List.cons_ne_nil _ _)
    change (StateFile.load ⟨"s"⟩ {}).bind _ = _
    rw [StateFile.load, Tree.readText, hs]
    rfl
  have hlast : (w.step x).2.Throughout (NoCommit 0) steps := by
    refine ⟨fun moves => ?_, trivial⟩
    cases moves
  have hown : ∀ path, (w.step x).2.Throughout (LeavesText 0 path) steps := by
    refine fun path => ⟨fun foreign => ?_, trivial⟩
    cases foreign with
    | commit moves => cases moves
  have hlater : w'.channels[0]? = some (.loopback
      { store := .file ⟨"s"⟩, events := [[{ id := 1 }], []] }) := rfl
  obtain ⟨d', hd', -, hrestart, hnew⟩ := restores_committed (i := 0) hw
    (rfl : w.channels[0]? = some (.loopback
      { live := [{ id := 1 }], store := .file ⟨"s"⟩, events := [[{ id := 1 }]] }))
    .commit hok hlast (fun path _ => hown path) rfl
  cases hlater.symm.trans hd'
  exact ⟨hlater, ((hrestart rfl).2.2 y .restart).2, hnew _ "s" rfl rfl⟩

end World
end VirtualDisplay
