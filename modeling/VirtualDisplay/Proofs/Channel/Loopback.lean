import VirtualDisplay.Channel.Basic

/-! One loopback driver. Whatever a command does, it adds the new live state to the events if that
differs from the old one, and else it adds nothing. How many events are kept is settled when the
driver is built. -/

namespace VirtualDisplay

open Files

/-! ### Drivers as they are built -/

/-- The ways to build a driver. -/
inductive Origin
  | new
  | state (monitors : DriverState)
  | config (c : DriverConfig)

namespace Origin

def build (t : Tree) : Origin → Except StorageError Loopback
  | new => .ok {}
  | state monitors => .ok (.ofState monitors)
  | config c => Loopback.ofConfig c t

/-- The capacity asked for. Only settings ask for one of their own. -/
def eventCapacity : Origin → Nat
  | config c => c.eventCapacity
  | _ => ({} : DriverConfig).eventCapacity

end Origin

namespace Loopback

/-! ### Capacity -/

theorem isPowerOfTwo_capacityFor (n : Nat) : (capacityFor n).isPowerOfTwo := by
  unfold capacityFor
  split
  · exact ⟨0, rfl⟩
  · exact ⟨_, rfl⟩

theorem le_capacityFor (n : Nat) : max n 1 ≤ capacityFor n := by
  unfold capacityFor
  split
  · omega
  · have h : n - 1 < Nat.pow 2 ((n - 1).log2 + 1) := Nat.lt_log2_self
    omega

theorem capacityFor_pos (n : Nat) : 0 < capacityFor n := by
  have h := le_capacityFor n
  omega

theorem capacityFor_lt (n : Nat) : capacityFor n < 2 * max n 1 := by
  unfold capacityFor
  split
  · omega
  · have h : Nat.pow 2 (n - 1).log2 ≤ n - 1 := Nat.log2_self_le (by omega)
    have hsucc : Nat.pow 2 ((n - 1).log2 + 1) = Nat.pow 2 (n - 1).log2 * 2 :=
      Nat.pow_succ _ _
    omega

/-- Of the powers of two that hold what was asked for, none is smaller. -/
theorem capacityFor_le {n p : Nat} (hp : p.isPowerOfTwo) (h : max n 1 ≤ p) : capacityFor n ≤ p := by
  obtain ⟨a, ha⟩ := isPowerOfTwo_capacityFor n
  obtain ⟨b, rfl⟩ := hp
  have hlt := capacityFor_lt n
  rw [ha] at hlt ⊢
  -- a power below the double of another is at most that other
  have hab : a < b + 1 := by
    refine (Nat.pow_lt_pow_iff_right Nat.one_lt_two).1 (Nat.lt_of_lt_of_le hlt ?_)
    rw [Nat.pow_succ]
    omega
  exact Nat.pow_le_pow_right Nat.two_pos (Nat.le_of_lt_succ hab)

theorem capacityFor_default :
    capacityFor ({} : DriverConfig).eventCapacity = ({} : Loopback).capacity := by
  decide

end Loopback

namespace Origin

/-- However a driver is built, it has the capacity asked for and has broadcast nothing. -/
theorem build_spec {o : Origin} {t : Tree} {d : Loopback} (h : o.build t = .ok d) :
    d.capacity = Loopback.capacityFor o.eventCapacity ∧ d.events = [] := by
  cases o with
  | new =>
    cases h
    exact ⟨Loopback.capacityFor_default.symm, rfl⟩
  | state monitors =>
    cases h
    exact ⟨Loopback.capacityFor_default.symm, rfl⟩
  | config c =>
    simp only [build, Loopback.ofConfig] at h
    cases hc : c.stateFile with
    | none =>
      rw [hc] at h
      cases h
      exact ⟨rfl, rfl⟩
    | some path =>
      rw [hc] at h
      cases hl : StateFile.load ⟨path⟩ t with
      | error e => simp [hl, bind, Except.bind] at h
      | ok committed =>
        simp only [hl, bind, Except.bind, pure, Except.pure, Except.ok.injEq] at h
        subst h
        exact ⟨rfl, rfl⟩

end Origin

/-! ### One command -/

/-- What a command may make of a driver. -/
structure Loopback.Advances (d d' : Loopback) : Prop where
  capacity : d'.capacity = d.capacity
  events : d'.events = d.events ++ if d'.live = d.live then [] else [d'.live]

namespace Loopback

variable {d d' : Loopback}

theorem Advances.same (hc : d'.capacity = d.capacity) (he : d'.events = d.events)
    (hl : d'.live = d.live) : d.Advances d' :=
  ⟨hc, by rw [he, if_pos hl, List.append_nil]⟩

theorem Advances.refl (d : Loopback) : d.Advances d := .same rfl rfl rfl

/-- What every driver keeps to: it keeps some events, and the last event is its live state. -/
structure Regular (d : Loopback) : Prop where
  capacity : 0 < d.capacity
  latest : ∀ state ∈ d.events.getLast?, state = d.live

theorem regular_build {o : Origin} {t : Tree} (h : o.build t = .ok d) : d.Regular := by
  obtain ⟨hcapacity, hevents⟩ := Origin.build_spec h
  refine ⟨hcapacity ▸ capacityFor_pos _, fun state hstate => ?_⟩
  rw [hevents] at hstate
  cases hstate

theorem Advances.regular (h : d.Advances d') (hd : d.Regular) : d'.Regular := by
  refine ⟨h.capacity ▸ hd.capacity, ?_⟩
  rw [h.events]
  split
  · rename_i hlive
    rw [List.append_nil, hlive]
    exact hd.latest
  · intro state hstate
    rw [List.getLast?_append] at hstate
    exact (Option.mem_some.1 hstate).symm

theorem Advances.prefix_events (h : d.Advances d') : d.events <+: d'.events := by
  rw [h.events]
  exact List.prefix_append _ _

theorem become_live (next : DriverState) (d : Loopback) : (d.become next).live = next := by
  unfold become
  split
  · rename_i h
    exact h.symm
  · rfl

theorem advances_become (next : DriverState) (d : Loopback) : d.Advances (d.become next) := by
  unfold become
  split
  · exact .refl d
  · rename_i h
    exact ⟨rfl, by simp [h]⟩

theorem advances_obey (d : Loopback) (c : DriverCommand) : d.Advances (d.obey c) := by
  cases c <;> exact advances_become _ d

/-- A command that has failed has left everything as it was. -/
theorem handle_disconnected {c : ServerCommand} (h : d.connected = false) :
    handle c d = (.error disconnected, d) := by
  simp [handle, h]

theorem advances_handle (c : ServerCommand) (d : Loopback) : d.Advances (handle c d).2 := by
  cases hc : d.connected with
  | false =>
    rw [handle_disconnected hc]
    exact .refl d
  | true =>
    rcases c with c | ⟨⟩
    · simpa [handle, hc] using advances_obey d c
    · simpa [handle, hc] using Advances.refl d

theorem handle_error {c : ServerCommand} {e : ChannelError} (h : (handle c d).1 = .error e) :
    (handle c d).2 = d := by
  cases hc : d.connected with
  | false => rw [handle_disconnected hc]
  | true => rcases c with c | ⟨⟩ <;> simp [handle, hc] at h

theorem advances_push (state : DriverState) (d : Loopback) : d.Advances (push state d).2 :=
  advances_handle _ d

theorem push_error {state : DriverState} {e : ChannelError} (h : (push state d).1 = .error e) :
    (push state d).2 = d := by
  unfold push at h ⊢
  cases hr : (handle (.driver (.notify state)) d).1 with
  | error e' => exact handle_error hr
  | ok _ => simp [hr, Except.map] at h

theorem advances_restart (t : Tree) (d : Loopback) : d.Advances (restart t d).2 := by
  unfold restart
  split
  · split
    · exact .refl d
    · exact advances_become _ d
  · exact .refl d

theorem restart_error {t : Tree} {e : ChannelError} (h : (restart t d).1 = .error e) :
    (restart t d).2 = d := by
  cases hc : d.connected with
  | false => simp [restart, hc]
  | true =>
    cases hs : d.committed t with
    | error e' => simp [restart, hc, hs]
    | ok state => simp [restart, hc, hs] at h

/-- Committing has no part in the live state, whether it succeeds or not. -/
theorem commit_frame (d : Loopback) (t : Tree) :
    (commit (d, t)).2.1 = { d with store := (commit (d, t)).2.1.store } := by
  simp only [commit]
  split <;> rfl

theorem advances_commit (d : Loopback) (t : Tree) : d.Advances (commit (d, t)).2.1 := by
  rw [commit_frame]
  exact .same rfl rfl rfl

theorem commit_live (d : Loopback) (t : Tree) : (commit (d, t)).2.1.live = d.live := by
  rw [commit_frame]

theorem push_live {state : DriverState} (h : d.connected = true) :
    (push state d).2.live = firstOfEachId state := by
  simp [push, handle, h, obey, become_live]

/-! ### What a command is for -/

/-- The live state that a command asks for. -/
def next : ServerCommand → DriverState → DriverState
  | .driver (.notify monitors), _ => firstOfEachId monitors
  | .driver (.remove ids), live => live.filter (·.id ∉ ids)
  | .driver .removeAll, _ => []
  | .request .state, live => live

theorem obey_live (d : Loopback) (c : DriverCommand) : (d.obey c).live = next (.driver c) d.live := by
  cases c with
  | notify monitors => exact become_live _ d
  | removeAll => exact become_live _ d
  | remove ids =>
    rw [obey, become_live]
    simp [next]

theorem handle_live (c : ServerCommand) (d : Loopback) :
    (handle c d).2.live = if d.connected then next c d.live else d.live := by
  cases hc : d.connected with
  | false =>
    rw [handle_disconnected hc]
    rfl
  | true =>
    rcases c with c | ⟨⟩
    · simpa [handle, hc] using obey_live d c
    · simp [handle, hc, next]

/-- A command fails if and only if the driver is disconnected. -/
theorem handle_isOk (c : ServerCommand) (d : Loopback) : (handle c d).1.isOk = d.connected := by
  cases hc : d.connected with
  | false =>
    rw [handle_disconnected hc]
    rfl
  | true => rcases c with c | ⟨⟩ <;> simp [handle, hc, Except.isOk, Except.toBool]

/-! ### The same command again -/

theorem become_become (next : DriverState) (d : Loopback) :
    (d.become next).become next = d.become next := by
  rw [become, if_pos (become_live next d).symm]

/-- What a command makes of a driver it has already been given to is what it made of it before: the
new state depends on the old one only in what it keeps of it. -/
theorem obey_obey (d : Loopback) (c : DriverCommand) : (d.obey c).obey c = d.obey c := by
  cases c with
  | notify monitors => exact become_become _ d
  | removeAll => exact become_become _ d
  | remove ids =>
    simp only [obey, become_live]
    rw [List.filter_filter]
    simp only [Bool.and_self]
    exact become_become _ d

theorem obey_connected (d : Loopback) (c : DriverCommand) : (d.obey c).connected = d.connected := by
  cases c <;> (simp only [obey, become]; split <;> rfl)

theorem handle_handle (c : ServerCommand) (d : Loopback) :
    (handle c (handle c d).2).2 = (handle c d).2 := by
  cases hc : d.connected with
  | false => simp [handle_disconnected hc]
  | true =>
    rcases c with c | ⟨⟩
    · simp [handle, hc, obey_connected, obey_obey]
    · simp [handle, hc]

end Loopback
end VirtualDisplay
