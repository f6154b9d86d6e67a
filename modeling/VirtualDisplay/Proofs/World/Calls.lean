import VirtualDisplay.Proofs.World.Growth

/-! What sessions do in any world, on drivers and on scripted channels. A call that fails changes no
driver, and a session makes its calls before it changes anything else. -/

namespace VirtualDisplay

open Loopback

variable {β : Type}

namespace World

variable {w w' w'' : World} {i : Nat} {f : Subscription} {s : Session}

/-! ### Single calls -/

/-- Nothing has happened but that a script may have noted calls. -/
structure Untouched (w w' : World) : Prop where
  files : w'.files = w.files
  sessions : w'.sessions = w.sessions
  subscriptions : w'.subscriptions = w.subscriptions
  watchers : w'.watchers = w.watchers
  drivers : ∀ (i : Nat) d, w.channels[i]? = some (.loopback d) → w'.channels[i]? = some (.loopback d)

namespace Untouched

theorem refl (w : World) : w.Untouched w := ⟨rfl, rfl, rfl, rfl, fun _ _ => id⟩

theorem trans (h : w.Untouched w') (h' : w'.Untouched w'') : w.Untouched w'' :=
  ⟨h'.files.trans h.files, h'.sessions.trans h.sessions, h'.subscriptions.trans h.subscriptions,
    h'.watchers.trans h.watchers, fun i d hd => h'.drivers i d (h.drivers i d hd)⟩

/-- A subscription that comes up makes no difference to what happened before. -/
theorem opens (h : w.Untouched w')
    (h' : Untouched { w' with subscriptions := w'.subscriptions ++ [f] } w'') :
    Untouched { w with subscriptions := w.subscriptions ++ [f] } w'' :=
  ⟨h'.files.trans h.files, h'.sessions.trans h.sessions,
    h'.subscriptions.trans (congrArg (· ++ [f]) h.subscriptions), h'.watchers.trans h.watchers,
    fun i d hd => h'.drivers i d (h.drivers i d hd)⟩

/-- A session is added to those that were there. -/
theorem admits {new : List Subscription} (s : Session)
    (h : Untouched { w with subscriptions := w.subscriptions ++ new } w') :
    (addSession s w').1 = w.sessions.length ∧
      Untouched { w with subscriptions := w.subscriptions ++ new, sessions := w.sessions ++ [s] }
        (addSession s w').2 :=
  ⟨congrArg List.length h.sessions, h.files, congrArg (· ++ [s]) h.sessions, h.subscriptions,
    h.watchers, h.drivers⟩

theorem setSession (h : w.Untouched w') (i : Nat) (s : Session) :
    (w.setSession i s).Untouched (w'.setSession i s) :=
  ⟨h.files, congrArg (·.set i s) h.sessions, h.subscriptions, h.watchers, h.drivers⟩

/-- A subscription that has just come up is given up. -/
theorem cancels (h : Untouched { w with subscriptions := w.subscriptions ++ [f] } w') :
    Untouched { w with subscriptions := w.subscriptions ++ [f.cancel] }
      (w'.cancel w.subscriptions.length) := by
  refine ⟨h.files, h.sessions, ?_, h.watchers, h.drivers⟩
  rw [cancel, h.subscriptions, List.modify_eq_take_cons_drop (by simp)]
  simp

end Untouched

theorem channel_eq {c : Channel} (h : w.channels[i]? = some c) : w.channel i = c := by
  rw [channel, List.getD_eq_getElem?_getD, h, Option.getD_some]

/-- What is written back to a channel is no different if it is a driver. -/
theorem untouched_set {c : Channel} (hc : ∀ d, w.channel i = .loopback d → c = .loopback d) :
    w.Untouched { w with channels := w.channels.set i c } := by
  refine ⟨rfl, rfl, rfl, rfl, fun j d hd => ?_⟩
  rw [List.getElem?_set]
  split
  · next hij =>
    subst hij
    rw [if_pos (List.getElem?_eq_some_iff.1 hd).1, hc d (channel_eq hd)]
  · exact hd

/-- A failed call changes no driver. -/
def Careful (e : Edit Channel (Except ChannelError β)) : Prop :=
  ∀ d err, (e (.loopback d)).1 = .error err → (e (.loopback d)).2 = .loopback d

theorem careful_push (state : DriverState) : Careful (Channel.push state) := by
  intro d err h
  exact congrArg Channel.loopback (push_error h)

theorem untouched_call {e : Edit Channel (Except ChannelError β)} {err : ChannelError}
    (he : Careful e) (h : (call i e w).1 = .error err) : w.Untouched (call i e w).2 := by
  refine untouched_set fun d hd => ?_
  rw [call, hd] at h
  rw [hd]
  exact he d err h

theorem untouched_pull (w : World) (i : Nat) : w.Untouched (call i Channel.pull w).2 := by
  refine untouched_set fun d hd => ?_
  rw [hd]
  rfl

theorem untouched_of_pull {r : Except ChannelError DriverState}
    (h : call i Channel.pull w = (r, w')) : w.Untouched w' := by
  obtain rfl : (call i Channel.pull w).2 = w' := congrArg Prod.snd h
  exact untouched_pull w i

/-- A subscription as it comes up, on a driver or on a script. -/
def Opened (f : Subscription) : Prop := f.cancelled = false ∧ f.handed = []

/-- A subscription that a channel grants is added at the end. -/
theorem subscribe_cases (i : Nat) (target : Target) (runtime : Bool) (w : World) :
    (∃ e w', subscribe i target runtime w = (.error e, w') ∧ w.Untouched w') ∨
      ∃ f w', subscribe i target runtime w = (.ok w.subscriptions.length, w') ∧ Opened f ∧
        Untouched { w with subscriptions := w.subscriptions ++ [f] } w' := by
  have h : w.Untouched (call i (Channel.subscribe runtime) w).2 := by
    refine untouched_set fun d hd => ?_
    rw [hd]
    rfl
  unfold subscribe
  rcases hcall : call i (Channel.subscribe runtime) w with ⟨e | grant, w₁⟩ <;> rw [hcall] at h
  · exact Or.inl ⟨e, w₁, rfl, h⟩
  · right
    let new : Subscription :=
      { channel := i, target, cancellable := grant ≠ .inert, ended := grant = .dead,
        cursor := (w₁.channel i).broadcasts }
    refine ⟨new, { w₁ with subscriptions := w₁.subscriptions ++ [new] }, ?_, ⟨rfl, rfl⟩, ?_⟩
    · exact congrArg (fun xs : List Subscription => (Except.ok xs.length, _)) h.subscriptions
    · exact h.opens (.refl _)

/-! ### Sessions -/

/-- A session connects, or it does not. Then a subscription may have come up, which is given up. -/
theorem connect_cases (config : SessionConfig) (w : World) :
    (∃ e, (connect config w).1 = .error e ∧ (w.Untouched (connect config w).2 ∨ ∃ f, Opened f ∧
        Untouched { w with subscriptions := w.subscriptions ++ [f.cancel] } (connect config w).2)) ∨
      ∃ s new, (connect config w).1 = .ok w.sessions.length ∧
        Untouched { w with subscriptions := w.subscriptions ++ new, sessions := w.sessions ++ [s] }
          (connect config w).2 := by
  rcases hpull : call w.current Channel.pull w with ⟨e | state, w₁⟩
  · simp only [connect, hpull]
    exact Or.inl ⟨e, rfl, Or.inl (untouched_of_pull hpull)⟩
  · have h₁ := untouched_of_pull hpull
    rcases subscribe_cases w.current .cache true w₁ with ⟨e, w₂, hsource, h₂⟩ | ⟨f, w₂, hsource, hf, h₂⟩
    · simp only [connect, hpull, hsource]
      exact Or.inl ⟨e, rfl, Or.inl (h₁.trans h₂)⟩
    · have h := h₁.opens h₂
      cases hfollow : config.followDriver with
      | false =>
        simp only [connect, hpull, hsource, hfollow, Bool.false_eq_true, if_false]
        obtain ⟨hnumber, h⟩ := h.admits _
        exact Or.inr ⟨_, _, congrArg _ hnumber, h⟩
      | true =>
        rcases subscribe_cases w.current (.registry w₂.sessions.length) true w₂ with
          ⟨e, w₃, htie, h₃⟩ | ⟨g, w₃, htie, hg, h₃⟩
        · simp only [connect, hpull, hsource, hfollow, htie, if_true]
          rw [h₁.subscriptions]
          exact Or.inl ⟨e, rfl, Or.inr ⟨f, hf, (h.trans h₃).cancels⟩⟩
        · simp only [connect, hpull, hsource, hfollow, htie, if_true]
          have h := h.opens h₃
          rw [List.append_assoc] at h
          obtain ⟨hnumber, h⟩ := Untouched.admits (w := w) _ h
          exact Or.inr ⟨_, _, congrArg _ hnumber, h⟩

/-- Following takes a subscription, and then notes it. -/
theorem follow_cases (i : Nat) (s : Session) (runtime : Bool) (w : World) :
    (∃ e, (follow i s runtime w).1 = .error e ∧ w.Untouched (follow i s runtime w).2) ∨
      (follow i s runtime w).1 = .ok () ∧ ((follow i s runtime w).2 = w ∨ ∃ new following,
        Untouched (setSession i { s with following } { w with subscriptions := w.subscriptions ++ new })
          (follow i s runtime w).2) := by
  cases hfollowing : s.following.isSome with
  | true =>
    simp only [follow, hfollowing, if_true]
    exact Or.inr ⟨trivial, Or.inl trivial⟩
  | false =>
    rcases subscribe_cases s.channel (.registry i) runtime w with ⟨e, w₁, htie, h⟩ | ⟨f, w₁, htie, -, h⟩
    · simp only [follow, hfollowing, htie]
      exact Or.inl ⟨e, rfl, h⟩
    · simp only [follow, hfollowing, htie]
      exact Or.inr ⟨rfl, Or.inr ⟨_, _, h.setSession i _⟩⟩

theorem reload_cases (i : Nat) (s : Session) (w : World) :
    (∃ e, (reload i s w).1 = .error e ∧ w.Untouched (reload i s w).2) ∨
      (reload i s w).1 = .ok () ∧ ∃ registry,
        (w.setSession i { s with registry }).Untouched (reload i s w).2 := by
  rcases hpull : call s.channel Channel.pull w with ⟨e | state, w₁⟩
  · simp only [reload, hpull]
    exact Or.inl ⟨e, rfl, untouched_of_pull hpull⟩
  · simp only [reload, hpull]
    exact Or.inr ⟨trivial, _, (untouched_of_pull hpull).setSession i _⟩

end World
end VirtualDisplay
