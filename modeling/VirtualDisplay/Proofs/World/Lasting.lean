import VirtualDisplay.Proofs.World.Calls
import VirtualDisplay.Proofs.World.Subscriptions

/-! Subscriptions in any world, on drivers and on scripted channels. None goes, and one that was
cancelled is handed nothing and ends the next time its channel delivers. -/

namespace VirtualDisplay

variable {α β : Type}

namespace World

variable {w w' w'' : World} {f : Subscription} {i k : Nat}

/-- Every subscription is still there, as steps may leave it. -/
def Lasts (w w' : World) : Prop :=
  ∀ (k : Nat) f, w.subscriptions[k]? = some f → ∃ f', w'.subscriptions[k]? = some f' ∧ f.Later f'

namespace Lasts

theorem of_eq (h : w'.subscriptions = w.subscriptions) : w.Lasts w' :=
  fun _ f hf => ⟨f, h ▸ hf, .refl f⟩

theorem refl (w : World) : w.Lasts w := .of_eq rfl

theorem trans (h : w.Lasts w') (h' : w'.Lasts w'') : w.Lasts w'' := by
  intro k f hf
  obtain ⟨g, hg, hfg⟩ := h k f hf
  obtain ⟨g', hg', hgg'⟩ := h' k g hg
  exact ⟨g', hg', hfg.trans hgg'⟩

theorem of_append {new : List Subscription} (h : w'.subscriptions = w.subscriptions ++ new) :
    w.Lasts w' := by
  intro k f hf
  refine ⟨f, ?_, .refl f⟩
  rw [h, List.getElem?_append_left (List.getElem?_eq_some_iff.1 hf).1, hf]

theorem of_map {g : Subscription → Subscription} (hg : ∀ f : Subscription, f.Later (g f))
    (h : w'.subscriptions = w.subscriptions.map g) : w.Lasts w' := by
  intro k f hf
  exact ⟨g f, by rw [h, List.getElem?_map, hf, Option.map_some], hg f⟩

end Lasts

theorem Cancels.lasts (h : w.Cancels w') : w.Lasts w' := by
  intro k f hf
  rcases h k with hk | hk <;> rw [hk, hf]
  · exact ⟨f, rfl, .refl f⟩
  · exact ⟨f.cancel, rfl, f.later_cancel⟩

/-! ### Delivery -/

theorem later_settled (w : World) (f : Subscription) : f.Later (w.settled f) := by
  rw [settled_frame]
  refine ⟨rfl, rfl, id, fun hc => ?_⟩
  simp only [w.pending_of_cancelled hc, List.append_nil]

/-- What a subscription is after a scripted channel has handed over a state. -/
def fired (w : World) (state : DriverState) (f : Subscription) : Subscription :=
  { f with
    handed := f.handed ++ if w.listening f then [state] else []
    ended := f.ended || f.channel = w.current && f.cancelled }

theorem subscriptions_fire (w : World) (state : DriverState) :
    (fire state w).2.subscriptions = w.subscriptions.map (w.fired state) :=
  rfl

theorem later_fired (w : World) (state : DriverState) (f : Subscription) :
    f.Later (w.fired state f) := by
  refine ⟨rfl, rfl, id, fun hc => ?_⟩
  simp [fired, listening, hc]

/-- A settle ends a subscription to a driver if it was cancelled. -/
theorem ended_settle {d : Loopback} (hf : w.subscriptions[k]? = some f) (hc : f.cancelled = true)
    (hd : w.channel f.channel = .loopback d) :
    ∃ f', (w.step (.settle : Step α)).2.subscriptions[k]? = some f' ∧ f'.ended = true := by
  refine ⟨w.settled f, ?_, ?_⟩
  · rw [show (w.step (.settle : Step α)).2 = w.settle from rfl, subscriptions_settle,
      List.getElem?_map, hf, Option.map_some]
  · simp only [settled, hd]
    split
    · assumption
    · rw [Subscription.run_of_cancelled hc]

/-- When the current channel hands over a state, a subscription to it ends if it was cancelled. -/
theorem ended_fire {state : DriverState} (hf : w.subscriptions[k]? = some f)
    (hc : f.cancelled = true) (hcurrent : f.channel = w.current)
    (hfired : (w.step (.fire state : Step α)).1.succeeded = true) :
    ∃ f', (w.step (.fire state : Step α)).2.subscriptions[k]? = some f' ∧ f'.ended = true := by
  simp only [step, onScripted] at hfired ⊢
  split
  · refine ⟨w.fired state f, ?_, ?_⟩
    · simp only [answering]
      rw [subscriptions_fire, List.getElem?_map, hf, Option.map_some]
    · simp [fired, hc, hcurrent]
  · next hloopback =>
    rw [hloopback] at hfired
    cases hfired

/-! ### Steps -/

theorem Untouched.lasts {new : List Subscription} {v : World} (h : v.Untouched w')
    (hv : v.subscriptions = w.subscriptions ++ new) : w.Lasts w' :=
  .of_append (h.subscriptions.trans hv)

theorem lasts_subscribe (i : Nat) (target : Target) (runtime : Bool) (w : World) :
    w.Lasts (subscribe i target runtime w).2 := by
  rcases subscribe_cases i target runtime w with ⟨e, w', hnew, h⟩ | ⟨f, w', hnew, -, h⟩ <;> rw [hnew]
  · exact .of_eq h.subscriptions
  · exact h.lasts rfl

theorem lasts_connect (config : SessionConfig) (w : World) : w.Lasts (connect config w).2 := by
  rcases connect_cases config w with ⟨e, -, h | ⟨f, -, h⟩⟩ | ⟨s, new, -, h⟩
  · exact .of_eq h.subscriptions
  · exact h.lasts rfl
  · exact h.lasts rfl

theorem lasts_follow (i : Nat) (s : Session) (runtime : Bool) (w : World) :
    w.Lasts (follow i s runtime w).2 := by
  rcases follow_cases i s runtime w with ⟨e, -, h⟩ | ⟨-, h | ⟨new, following, h⟩⟩
  · exact .of_eq h.subscriptions
  · exact .of_eq (congrArg World.subscriptions h)
  · exact h.lasts rfl

theorem lasts_reload (i : Nat) (s : Session) (w : World) : w.Lasts (reload i s w).2 := by
  rcases reload_cases i s w with ⟨e, -, h⟩ | ⟨-, registry, h⟩
  · exact .of_eq h.subscriptions
  · exact .of_eq h.subscriptions

theorem lasts_onSession {g : Session → Edit World (Outcome α)} (h : ∀ s, w.Lasts (g s w).2) :
    w.Lasts (onSession i g w).2 := by
  unfold onSession
  split
  · exact .refl w
  · exact h _

theorem lasts_onLoopback (g : β → Outcome α) (e : Edit Loopback β) :
    w.Lasts (onLoopback g e w).2 := by
  unfold onLoopback
  split <;> exact .of_eq rfl

theorem lasts_step (w : World) (x : Step α) : w.Lasts (w.step x).2 := by
  cases x with
  | settle => exact .of_map w.later_settled w.subscriptions_settle
  | touch | push | pull | commit | isActive => exact .of_eq rfl
  | handle | restart | disconnect | reconnect => exact lasts_onLoopback _ _
  | fire state =>
    simp only [step, onScripted]
    split
    · exact .of_map (w.later_fired state) (w.subscriptions_fire state)
    · exact .refl w
  | replaceDriver config =>
    simp only [step, replaceDriver]
    split <;> exact .of_eq rfl
  | subscribe session runtime =>
    cases session with
    | none => exact lasts_subscribe _ _ _ w
    | some i => exact lasts_onSession fun s => lasts_subscribe _ _ _ w
  | cancel k => exact (cancels_release w k).lasts
  | connect config => exact lasts_connect config w
  | notify | persist | fetch | refresh | edit | isValid | describe | duplicate | watch =>
    exact lasts_onSession fun s => .of_eq rfl
  | reload i => exact lasts_onSession fun s => lasts_reload i s w
  | follow i runtime => exact lasts_onSession fun s => lasts_follow i s runtime w
  | unfollow i => exact lasts_onSession fun s => (cancels_unfollow w i s).lasts
  | drop i => exact lasts_onSession fun s => (cancels_dropSession w i s).lasts
  | poll i =>
    simp only [step]
    split <;> exact .of_eq rfl

theorem lasts_run (steps : List (Step α)) (w : World) : w.Lasts (w.run steps) := by
  induction steps generalizing w with
  | nil => exact .refl w
  | cons x steps ih => exact (lasts_step w x).trans (ih _)

end World
end VirtualDisplay
