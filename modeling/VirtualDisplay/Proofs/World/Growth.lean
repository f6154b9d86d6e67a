import VirtualDisplay.Proofs.World.Effect

/-! What no step takes back. Channels keep their numbers and their events, a channel that nobody holds
stays out of reach, and a subscription changes only by being cancelled or by a settle. -/

namespace VirtualDisplay

variable {α : Type}

theorem getElem?_concat_iff {β : Type} {xs : List β} {x y : β} {k : Nat} :
    (xs ++ [y])[k]? = some x ↔ xs[k]? = some x ∨ k = xs.length ∧ y = x := by
  rw [List.getElem?_append]
  rcases Nat.lt_trichotomy k xs.length with h | rfl | h
  · simp [h, Nat.ne_of_lt h]
  · simp
  · have hsub : k - xs.length ≠ 0 := by omega
    simp [Nat.not_lt.2 (Nat.le_of_lt h), hsub, Nat.ne_of_gt h]

namespace World

variable {w w' : World} {x : Step α} {o : Outcome α} {i j k : Nat}

/-! ### Sessions by number -/

theorem held_iff : w.held i = true ↔ i = w.current ∨ ∃ j s, w.session? j = some s ∧ s.channel = i := by
  constructor
  · intro h
    simp only [held, Bool.or_eq_true, decide_eq_true_eq, List.any_eq_true, Bool.and_eq_true,
      Bool.not_eq_eq_eq_not, Bool.not_true] at h
    rcases h with h | ⟨s, hs, hd, hch⟩
    · exact Or.inl h
    · obtain ⟨j, hj⟩ := List.mem_iff_getElem?.1 hs
      exact Or.inr ⟨j, s, session?_eq.2 ⟨hj, hd⟩, hch⟩
  · rintro (rfl | ⟨j, s, hs, rfl⟩)
    · exact held_current w
    · exact held_session hs

theorem lt_of_session? {s : Session} (h : w.session? i = some s) : i < w.sessions.length :=
  (List.getElem?_eq_some_iff.1 (session?_eq.1 h).1).1

theorem session?_append {s t : Session} :
    ({ w with sessions := w.sessions ++ [t] } : World).session? j = some s ↔
      w.session? j = some s ∨ j = w.sessions.length ∧ t = s ∧ s.dropped = false := by
  rw [session?_eq, session?_eq, getElem?_concat_iff, or_and_right, and_assoc]

theorem session?_setSession {s t : Session} (h : i < w.sessions.length) :
    (w.setSession i t).session? j = some s ↔
      j ≠ i ∧ w.session? j = some s ∨ j = i ∧ t = s ∧ s.dropped = false := by
  simp only [session?_eq, setSession, List.getElem?_set]
  by_cases hj : i = j
  · subst hj
    simp [h]
  · simp [hj, Ne.symm hj]

/-! ### Subscriptions by number -/

/-- A subscription as it is when it comes up. -/
structure Fresh (w : World) (f : Subscription) : Prop where
  channel : f.channel < w.channels.length
  cursor : f.cursor = (w.driver f.channel).events.length
  cancellable : f.cancellable = true
  cancelled : f.cancelled = false
  ended : f.ended = false
  handed : f.handed = []

theorem driver_congr (h : w'.channels = w.channels) : w'.driver = w.driver := by
  funext i
  simp [driver, channel, h]

theorem Fresh.congr {f : Subscription} (h : w.Fresh f) (hc : w'.channels = w.channels) :
    w'.Fresh f :=
  ⟨hc ▸ h.channel, driver_congr hc ▸ h.cursor, h.cancellable, h.cancelled, h.ended, h.handed⟩

theorem fresh_opening (h : i < w.channels.length) (target : Target) :
    w.Fresh (w.opening i target) :=
  ⟨h, rfl, rfl, rfl, rfl, rfl⟩

theorem subscription_attach {f : Subscription} {target : Target} :
    (w.attach i target).subscriptions[k]? = some f ↔
      w.subscriptions[k]? = some f ∨ k = w.subscriptions.length ∧ w.opening i target = f :=
  getElem?_concat_iff

theorem subscription_cancel {f : Subscription} {l : Nat} :
    (w.cancel l).subscriptions[k]? = some f ↔ k ≠ l ∧ w.subscriptions[k]? = some f ∨
      k = l ∧ ∃ f₀, w.subscriptions[k]? = some f₀ ∧ f₀.cancel = f := by
  rw [cancel, List.getElem?_modify]
  by_cases h : l = k
  · subst h
    simp
  · simp [h, Ne.symm h]

theorem subscription_cancel_ne {l : Nat} (h : k ≠ l) :
    (w.cancel l).subscriptions[k]? = w.subscriptions[k]? :=
  List.getElem?_modify_ne _ _ (Ne.symm h)

/-- What becomes of subscriptions while the world does not settle. -/
structure Carries (w w' : World) : Prop where
  old : ∀ (k : Nat) (f : Subscription), w.subscriptions[k]? = some f →
    ∃ f', w'.subscriptions[k]? = some f' ∧ (f' = f ∨ f' = f.cancel)
  new : ∀ (k : Nat) (f' : Subscription), w.subscriptions[k]? = none →
    w'.subscriptions[k]? = some f' → w'.Fresh f'

/-- Some subscriptions have been cancelled, and that is all. -/
def Cancels (w w' : World) : Prop :=
  ∀ k : Nat, w'.subscriptions[k]? = w.subscriptions[k]? ∨
    w'.subscriptions[k]? = w.subscriptions[k]?.map Subscription.cancel

theorem cancel_cancel (f : Subscription) : f.cancel.cancel = f.cancel := by
  simp [Subscription.cancel]

theorem Cancels.of_eq (h : w'.subscriptions = w.subscriptions) : w.Cancels w' :=
  fun k => Or.inl (by rw [h])

theorem Cancels.trans {w'' : World} (h : w.Cancels w') (h' : w'.Cancels w'') : w.Cancels w'' := by
  intro k
  rcases h k with hk | hk <;> rcases h' k with hk' | hk' <;> rw [hk', hk]
  · exact Or.inl rfl
  · exact Or.inr rfl
  · exact Or.inr rfl
  · rw [Option.map_map]
    exact Or.inr (by congr 1; exact funext cancel_cancel)

theorem cancels_cancel (w : World) (k : Nat) : w.Cancels (w.cancel k) := by
  intro l
  simp only [cancel, List.getElem?_modify]
  by_cases h : k = l
  · exact Or.inr (by simp [h])
  · exact Or.inl (by simp [h])

theorem cancels_release (w : World) (k : Nat) : w.Cancels (w.release k) := by
  unfold release
  split
  · exact cancels_cancel w k
  · exact .of_eq rfl

theorem cancels_unfollow (w : World) (i : Nat) (s : Session) : w.Cancels (w.unfollow i s) := by
  unfold unfollow
  split
  · exact .of_eq rfl
  · exact (cancels_cancel w _).trans (.of_eq rfl)

theorem cancels_dropSession (w : World) (i : Nat) (s : Session) :
    w.Cancels (w.dropSession i s) := by
  have h : w.Cancels ((w.unfollow i s).setSession i { s with following := none, dropped := true }) :=
    (cancels_unfollow w i s).trans (.of_eq rfl)
  simp only [dropSession]
  split
  · exact h
  · exact h.trans (cancels_cancel _ _)

namespace Carries

theorem of_cancels (h : w.Cancels w') : w.Carries w' := by
  constructor
  · intro k f hf
    rcases h k with hk | hk <;> rw [hk, hf]
    · exact ⟨f, rfl, Or.inl rfl⟩
    · exact ⟨f.cancel, rfl, Or.inr rfl⟩
  · intro k f' hn hf
    rcases h k with hk | hk <;> rw [hk, hn] at hf <;> cases hf

theorem of_append {fs : List Subscription} (hfs : ∀ f ∈ fs, w.Fresh f)
    (h : w'.subscriptions = w.subscriptions ++ fs) (hc : w'.channels = w.channels) :
    w.Carries w' := by
  constructor
  · intro k f hf
    have hk := (List.getElem?_eq_some_iff.1 hf).1
    exact ⟨f, by rw [h, List.getElem?_append_left hk, hf], Or.inl rfl⟩
  · intro k f hn hf
    rw [h, List.getElem?_append_right (List.getElem?_eq_none_iff.1 hn)] at hf
    exact (hfs f (List.mem_of_getElem? hf)).congr hc

end Carries

/-! ### What a step that does not settle does -/

theorem channels_unfollow (w : World) (i : Nat) (s : Session) :
    (w.unfollow i s).channels = w.channels := by
  unfold unfollow
  split <;> rfl

theorem channels_dropSession (w : World) (i : Nat) (s : Session) :
    (w.dropSession i s).channels = w.channels := by
  simp only [dropSession]
  split <;> exact channels_unfollow w i s

theorem channels_release (w : World) (k : Nat) : (w.release k).channels = w.channels := by
  unfold release
  split <;> rfl

theorem sessions_release (w : World) (k : Nat) : (w.release k).sessions = w.sessions := by
  unfold release
  split <;> rfl

theorem Effect.carries (h : w.Effect x o w') (hc : w.channels ≠ [])
    (hs : ∀ i s, w.session? i = some s → s.channel < w.channels.length) : w.Carries w' := by
  have hcur := current_lt hc
  cases h with
  | aside files watchers => exact .of_cancels (.of_eq rfl)
  | drive files bound held advances failed => exact .of_cancels (.of_eq rfl)
  | enter built => exact .of_cancels (.of_eq rfl)
  | attach bound => exact .of_append (by simpa using fresh_opening bound .record) rfl rfl
  | release k => exact .of_cancels (cancels_release w k)
  | welcome => exact .of_append (by simpa using fresh_opening hcur .cache) rfl rfl
  | welcomeTied =>
    refine .of_append ?_ (List.append_assoc w.subscriptions [_] [_]) rfl
    simpa using ⟨fresh_opening hcur .cache, fresh_opening hcur (.registry _)⟩
  | edit live registry => exact .of_cancels (.of_eq rfl)
  | tie live loose =>
    exact .of_append (by simpa using fresh_opening (hs _ _ live) (.registry _)) rfl rfl
  | unfollow live => exact .of_cancels (cancels_unfollow w _ _)
  | duplicate live => exact .of_cancels (.of_eq rfl)
  | drop live => exact .of_cancels (cancels_dropSession w _ _)

/-! ### Sessions after a change -/

theorem session?_replace {s t u : Session} (live : w.session? i = some s) (ht : t.dropped = false) :
    (w.setSession i t).session? j = some u ↔ j ≠ i ∧ w.session? j = some u ∨ j = i ∧ t = u := by
  rw [session?_setSession (lt_of_session? live)]
  refine or_congr_right (and_congr_right fun _ => ⟨And.left, ?_⟩)
  rintro rfl
  exact ⟨rfl, ht⟩

theorem session?_edit {s t : Session} {registry : Registry} (live : w.session? i = some s) :
    (w.setSession i { s with registry }).session? j = some t ↔
      j ≠ i ∧ w.session? j = some t ∨ j = i ∧ { s with registry } = t :=
  session?_replace live (session?_eq.1 live).2

theorem session?_welcome {s : Session} :
    w.welcome.session? j = some s ↔
      w.session? j = some s ∨ j = w.sessions.length ∧ w.newcomer = s := by
  refine (session?_append (w := w.attach w.current .cache)).trans ?_
  refine or_congr_right (and_congr_right fun _ => ⟨And.left, ?_⟩)
  rintro rfl
  exact ⟨rfl, rfl⟩

theorem session?_tie {s t : Session} (live : w.session? i = some s) :
    (w.tie i s).session? j = some t ↔ j ≠ i ∧ w.session? j = some t ∨
      j = i ∧ { s with following := some w.subscriptions.length } = t :=
  session?_replace (w := w.attach s.channel (.registry i)) live (session?_eq.1 live).2

theorem session?_unfollow {s t : Session} (live : w.session? i = some s) :
    (w.unfollow i s).session? j = some t ↔
      j ≠ i ∧ w.session? j = some t ∨ j = i ∧ { s with following := none } = t := by
  unfold unfollow
  cases hf : s.following with
  | some k => exact session?_replace (w := w.cancel k) live (session?_eq.1 live).2
  | none =>
    have hs : { s with following := none } = s := by rw [← hf]
    rw [hs]
    by_cases hj : j = i
    · subst hj
      simp [live]
    · simp [hj]

/-- A session that goes takes its own subscription along before the one behind its cache. -/
theorem session?_gone {s t : Session} (live : w.session? i = some s) :
    ((w.unfollow i s).setSession i { s with following := none, dropped := true }).session? j = some t ↔
      j ≠ i ∧ w.session? j = some t := by
  have hlive := (session?_unfollow (j := i) live).2 (Or.inr ⟨rfl, rfl⟩)
  rw [session?_setSession (lt_of_session? hlive), session?_unfollow live]
  constructor
  · rintro (⟨hj, h | h⟩ | ⟨-, rfl, h⟩)
    · exact h
    · exact absurd h.1 hj
    · cases h
  · intro h
    exact Or.inl ⟨h.1, Or.inl h⟩

theorem session?_dropSession {s t : Session} (live : w.session? i = some s) :
    (w.dropSession i s).session? j = some t ↔ j ≠ i ∧ w.session? j = some t := by
  simp only [dropSession]
  split <;> exact session?_gone live

theorem sourced_eq_false {l : Nat} :
    w.sourced l = false ↔ ∀ j s, w.session? j = some s → s.cache.source ≠ l := by
  rw [sourced, List.any_eq_false]
  constructor
  · intro h j s hs
    obtain ⟨hmem, hdropped⟩ := session?_eq.1 hs
    simpa [hdropped] using h s (List.mem_of_getElem? hmem)
  · intro h s hs
    obtain ⟨j, hj⟩ := List.mem_iff_getElem?.1 hs
    cases hdropped : s.dropped with
    | true => simp
    | false => simpa using h j s (session?_eq.2 ⟨hj, hdropped⟩)

/-! ### Growth -/

/-- What no step takes back. -/
structure Grows (w w' : World) : Prop where
  channels : w.channels.length ≤ w'.channels.length
  driver : ∀ i < w.channels.length, (w.driver i).Advances (w'.driver i)
  /-- Nobody comes to hold a channel again. -/
  held : ∀ i < w.channels.length, w'.held i = true → w.held i = true
  /-- A channel that nobody holds has come to rest. -/
  rest : ∀ i < w.channels.length, w.held i = false → w'.driver i = w.driver i

theorem Grows.of_channels (hc : w'.channels = w.channels)
    (hs : ∀ j s', w'.session? j = some s' →
      s'.channel = w.current ∨ ∃ j' s, w.session? j' = some s ∧ s.channel = s'.channel) :
    w.Grows w' := by
  have hd := driver_congr hc
  refine ⟨Nat.le_of_eq (congrArg _ hc.symm), fun i _ => by rw [hd]; exact .refl _, fun i _ h => ?_,
    fun i _ _ => by rw [hd]⟩
  have hcur : w'.current = w.current := by rw [current, hc, current]
  rcases held_iff.1 h with rfl | ⟨j, s, hj, rfl⟩
  · exact hcur ▸ held_current w
  · rcases hs j s hj with h | ⟨j', t, ht, h⟩
    · exact h ▸ held_current w
    · exact h ▸ held_session ht

theorem Grows.unheld (g : w.Grows w') (hi : i < w.channels.length) (h : w.held i = false) :
    w'.held i = false := by
  cases h' : w'.held i with
  | false => rfl
  | true =>
    rw [g.held i hi h'] at h
    cases h

theorem grows_setDriver {d : Loopback} (bound : i < w.channels.length) (held : w.held i = true)
    (advances : (w.driver i).Advances d) : w.Grows (w.setDriver i d) := by
  refine ⟨by simp [setDriver], fun j hj => ?_, fun j hj h => ?_, fun j hj h => ?_⟩
  · rw [driver_setDriver bound]
    split
    · rename_i hji
      exact hji ▸ advances
    · exact .refl _
  · rcases held_iff.1 h with rfl | ⟨i, s, hs, rfl⟩
    · simpa [current, setDriver] using w.held_current
    · exact held_session (i := i) hs
  · have hji : j ≠ i := by
      rintro rfl
      rw [held] at h
      cases h
    rw [driver_setDriver bound, if_neg hji]

theorem grows_enter (w : World) (d : Loopback) : w.Grows (w.enter d) := by
  refine ⟨by simp [enter], fun j hj => ?_, fun j hj h => ?_, fun j hj h => ?_⟩
  · rw [driver_enter_of_lt hj]
    exact .refl _
  · rcases held_iff.1 h with rfl | ⟨i, s, hs, rfl⟩
    · simp [enter, current] at hj
    · exact held_session (i := i) hs
  · exact driver_enter_of_lt hj d

/-- Where the channel and the cache of a session come from: the session has connected to the current
driver, or they are those of a session that was there. -/
theorem Effect.origin (h : w.Effect x o w') {s' : Session} (hs : w'.session? j = some s') :
    s'.channel = w.current ∧ s'.cache.initial = (w.driver w.current).live ∨
      ∃ i s, w.session? i = some s ∧ s.channel = s'.channel ∧ s.cache = s'.cache := by
  cases h with
  | aside | drive | enter | attach => exact Or.inr ⟨j, s', hs, rfl, rfl⟩
  | release k =>
    rw [session?, sessions_release] at hs
    exact Or.inr ⟨j, s', hs, rfl, rfl⟩
  | welcome =>
    rcases session?_welcome.1 hs with hs | ⟨-, rfl⟩
    · exact Or.inr ⟨j, s', hs, rfl, rfl⟩
    · exact Or.inl ⟨rfl, rfl⟩
  | welcomeTied =>
    have hnew : w.welcome.session? w.sessions.length = some w.newcomer :=
      session?_welcome.2 (Or.inr ⟨rfl, rfl⟩)
    rcases (session?_tie hnew).1 hs with ⟨-, hs⟩ | ⟨-, rfl⟩
    · rcases session?_welcome.1 hs with hs | ⟨-, rfl⟩
      · exact Or.inr ⟨j, s', hs, rfl, rfl⟩
      · exact Or.inl ⟨rfl, rfl⟩
    · exact Or.inl ⟨rfl, rfl⟩
  | edit live registry =>
    rcases (session?_edit live).1 hs with ⟨-, hs⟩ | ⟨-, rfl⟩
    · exact Or.inr ⟨j, s', hs, rfl, rfl⟩
    · exact Or.inr ⟨_, _, live, rfl, rfl⟩
  | tie live loose =>
    rcases (session?_tie live).1 hs with ⟨-, hs⟩ | ⟨-, rfl⟩
    · exact Or.inr ⟨j, s', hs, rfl, rfl⟩
    · exact Or.inr ⟨_, _, live, rfl, rfl⟩
  | unfollow live =>
    rcases (session?_unfollow live).1 hs with ⟨-, hs⟩ | ⟨-, rfl⟩
    · exact Or.inr ⟨j, s', hs, rfl, rfl⟩
    · exact Or.inr ⟨_, _, live, rfl, rfl⟩
  | duplicate live =>
    rcases session?_append.1 hs with hs | ⟨-, rfl, -⟩
    · exact Or.inr ⟨j, s', hs, rfl, rfl⟩
    · exact Or.inr ⟨_, _, live, rfl, rfl⟩
  | drop live => exact Or.inr ⟨j, s', ((session?_dropSession live).1 hs).2, rfl, rfl⟩

theorem Effect.grows (h : w.Effect x o w') : w.Grows w' := by
  have hsessions : ∀ j s', w'.session? j = some s' →
      s'.channel = w.current ∨ ∃ i s, w.session? i = some s ∧ s.channel = s'.channel := by
    intro j s' hs
    rcases h.origin hs with ⟨hcurrent, -⟩ | ⟨i, s, hs, hch, -⟩
    · exact Or.inl hcurrent
    · exact Or.inr ⟨i, s, hs, hch⟩
  cases h with
  | drive files bound held advances failed =>
    have g := grows_setDriver bound held advances
    exact ⟨g.channels, g.driver, g.held, g.rest⟩
  | enter built => exact grows_enter w _
  | release k => exact .of_channels (channels_release w k) hsessions
  | unfollow live => exact .of_channels (channels_unfollow w _ _) hsessions
  | drop live => exact .of_channels (channels_dropSession w _ _) hsessions
  | aside | attach | welcome | welcomeTied | edit | tie | duplicate =>
    exact .of_channels rfl hsessions

end World
end VirtualDisplay
