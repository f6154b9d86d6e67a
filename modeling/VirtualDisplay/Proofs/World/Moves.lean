import VirtualDisplay.Proofs.Channel.Moves
import VirtualDisplay.Proofs.World.Runs

/-! What becomes of drivers and files in a step. A step makes a move on one driver, brings in a new
driver, lets a hand outside at the files, or leaves all drivers and files alone. -/

namespace VirtualDisplay

open Files Loopback

variable {α β : Type}

theorem succeeded_ofExcept {f : β → Outcome α} (hf : ∀ b, (f b).succeeded = true)
    {r : Except ChannelError β} : (Outcome.ofExcept f r).succeeded = r.isOk := by
  cases r with
  | error e => rfl
  | ok b => exact hf b

namespace World

/-- The step makes a move on the driver of a channel. -/
inductive Moves (w : World) : Step α → Nat → Move → Prop
  | handle (c : ServerCommand) : Moves w (.handle c) w.current (.handle c)
  | push (state : DriverState) : Moves w (.push state) w.current (.handle (.driver (.notify state)))
  | commit : Moves w .commit w.current .commit
  | restart : Moves w .restart w.current .restart
  | disconnect : Moves w .disconnect w.current (.connect false)
  | reconnect : Moves w .reconnect w.current (.connect true)
  | notify {j : Nat} {s : Session} (live : w.session? j = some s) :
      Moves w (.notify j) s.channel (.handle (.driver (.notify s.registry.toRecords)))
  | persist {j : Nat} {s : Session} (live : w.session? j = some s) :
      Moves w (.persist j) s.channel .commit

/-- A move on the driver of a channel. -/
def move (i : Nat) (m : Move) : Edit World (Except ChannelError Unit) := fun w =>
  let r := m.perform (w.driver i, w.files)
  (r.1, { w.setDriver i r.2.1 with files := r.2.2 })

/-- All drivers and files are left alone. -/
structure Rests (w w' : World) : Prop where
  channels : w'.channels = w.channels
  files : w'.files = w.files

inductive Course (w : World) (x : Step α) : Prop
  | move {i : Nat} {m : Move} (moves : w.Moves x i m)
  | enter {c : DriverConfig} {d : Loopback} (built : Loopback.ofConfig c w.files = .ok d)
      (entered : (w.step x).2 = w.enter d)
  | touch (change : Tree → Tree) (touches : x = .touch change)
  | rest (rests : w.Rests (w.step x).2)

variable {w : World} {x : Step α} {i j : Nat} {m : Move} {d : Loopback}

theorem driver_move (hi : i < w.channels.length) (m : Move) (j : Nat) :
    (w.move i m).2.driver j =
      if j = i then (m.perform (w.driver i, w.files)).2.1 else w.driver j :=
  driver_setDriver hi _ j

theorem channels_move (w : World) (i : Nat) (m : Move) :
    (w.move i m).2.channels.length = w.channels.length := by
  simp [move, setDriver]

theorem files_unfollow (w : World) (i : Nat) (s : Session) : (w.unfollow i s).files = w.files := by
  unfold unfollow
  split <;> rfl

theorem files_dropSession (w : World) (i : Nat) (s : Session) :
    (w.dropSession i s).files = w.files := by
  simp only [dropSession]
  split <;> exact files_unfollow w i s

theorem files_release (w : World) (k : Nat) : (w.release k).files = w.files := by
  unfold release
  split <;> rfl

theorem Rests.refl (w : World) : w.Rests w := ⟨rfl, rfl⟩

theorem rests_onSession {f : Session → Edit World (Outcome α)}
    (h : ∀ s, w.session? i = some s → w.Rests (f s w).2) : w.Rests (onSession i f w).2 := by
  cases hs : w.session? i with
  | none =>
    simp only [onSession, hs]
    exact .refl w
  | some s =>
    rw [onSession_live hs]
    exact h s hs

namespace Grounded

variable (hw : w.Grounded)
include hw

theorem bound (hc : w.channels ≠ []) (h : w.Moves x i m) : i < w.channels.length := by
  cases h with
  | notify live => exact hw.session _ _ live
  | persist live => exact hw.session _ _ live
  | handle | push | commit | restart | disconnect | reconnect => exact current_lt hc

/-- A step that makes a move does nothing else, and has succeeded if the move has. -/
theorem step_move (h : w.Moves x i m) :
    (w.step x).2 = (w.move i m).2 ∧ (w.step x).1.succeeded = (w.move i m).1.isOk := by
  cases h with
  | handle c =>
    simp only [step, hw.onLoopback_eq]
    exact ⟨rfl, (succeeded_ofExcept fun _ => rfl).trans (isOk_map _ _).symm⟩
  | push state =>
    simp only [step, trying, answering, hw.call_push]
    exact ⟨rfl, succeeded_ofExcept fun _ => rfl⟩
  | commit =>
    simp only [step, trying, answering, hw.commit_eq]
    exact ⟨rfl, succeeded_ofExcept fun _ => rfl⟩
  | restart =>
    simp only [step, hw.onLoopback_eq]
    exact ⟨rfl, succeeded_ofExcept fun _ => rfl⟩
  | disconnect | reconnect =>
    simp only [step, hw.onLoopback_eq]
    exact ⟨rfl, rfl⟩
  | notify live =>
    simp only [step, onSession_live live, trying, answering, World.notify, hw.call_push]
    exact ⟨rfl, succeeded_ofExcept fun _ => rfl⟩
  | persist live =>
    simp only [step, onSession_live live, trying, answering, hw.commit_eq]
    exact ⟨rfl, succeeded_ofExcept fun _ => rfl⟩

theorem rests_pull (f : DriverState → Outcome α) : w.Rests (trying f (call i Channel.pull) w).2 := by
  simp only [trying, answering, hw.call_pull]
  exact .refl w

theorem rests_subscribe (f : Nat → Outcome α) (target : Target) (runtime : Bool) :
    w.Rests (trying f (World.subscribe i target runtime) w).2 := by
  simp only [trying, answering, hw.subscribe_eq]
  split
  · exact .refl w
  · split
    · exact ⟨rfl, rfl⟩
    · exact .refl w

theorem rests_connect (f : Nat → Outcome α) (config : SessionConfig) :
    w.Rests (trying f (World.connect config) w).2 := by
  simp only [trying, answering, hw.connect_eq]
  split
  · exact .refl w
  · split <;> exact ⟨rfl, rfl⟩

theorem rests_reload (f : Unit → Outcome α) (s : Session) :
    w.Rests (trying f (World.reload i s) w).2 := by
  simp only [trying, answering, World.reload, hw.call_pull]
  cases (w.driver s.channel).pull with
  | error e => exact .refl w
  | ok state => exact ⟨rfl, rfl⟩

theorem rests_follow (i : Nat) (runtime : Bool) :
    w.Rests (w.step (.follow i runtime : Step α)).2 := by
  rcases hw.step_follow (α := α) i runtime with h | ⟨s, -, -, h⟩
  · rw [h]
    exact .refl w
  · rw [h]
    exact ⟨rfl, rfl⟩

theorem course (x : Step α) : w.Course x := by
  cases x with
  | touch change => exact .touch change rfl
  | handle c => exact .move (.handle c)
  | push state => exact .move (.push state)
  | commit => exact .move .commit
  | restart => exact .move .restart
  | disconnect => exact .move .disconnect
  | reconnect => exact .move .reconnect
  | notify i =>
    cases hs : w.session? i with
    | none => exact .rest (rests_onSession fun s live => by simp [hs] at live)
    | some s => exact .move (.notify hs)
  | persist i =>
    cases hs : w.session? i with
    | none => exact .rest (rests_onSession fun s live => by simp [hs] at live)
    | some s => exact .move (.persist hs)
  | replaceDriver config =>
    cases hd : Loopback.ofConfig config w.files with
    | error e =>
      apply Course.rest
      simp only [step, World.replaceDriver, hd]
      exact .refl w
    | ok d => exact .enter hd (by simp only [step, World.replaceDriver, hd, World.enter])
  | settle => exact .rest ⟨rfl, rfl⟩
  | pull => exact .rest (hw.rests_pull _)
  | fire state =>
    apply Course.rest
    simp only [step, hw.onScripted_eq]
    exact .refl w
  | subscribe session runtime =>
    cases session with
    | none => exact .rest (hw.rests_subscribe _ _ _)
    | some i => exact .rest (rests_onSession fun s _ => hw.rests_subscribe _ _ _)
  | cancel k => exact .rest ⟨channels_release w k, files_release w k⟩
  | isActive k => exact .rest (.refl w)
  | connect config => exact .rest (hw.rests_connect _ _)
  | reload i => exact .rest (rests_onSession fun s _ => hw.rests_reload _ s)
  | fetch i => exact .rest (rests_onSession fun s _ => hw.rests_pull _)
  | refresh i | edit i | isValid i | describe i | duplicate i | watch i =>
    exact .rest (rests_onSession fun s _ => ⟨rfl, rfl⟩)
  | follow i runtime => exact .rest (hw.rests_follow i runtime)
  | unfollow i =>
    exact .rest (rests_onSession fun s _ => ⟨channels_unfollow w i s, files_unfollow w i s⟩)
  | drop i =>
    exact .rest (rests_onSession fun s _ => ⟨channels_dropSession w i s, files_dropSession w i s⟩)
  | poll i =>
    apply Course.rest
    simp only [step]
    split
    · exact .refl w
    · exact ⟨rfl, rfl⟩

end Grounded
end World
end VirtualDisplay
