import VirtualDisplay.Proofs.Registry.Issues
import VirtualDisplay.Proofs.World.Moves
import VirtualDisplay.Proofs.World.Sync

/-! Ids in worlds that come about. A list may hold an id twice wherever one comes in, in a command, in
what a driver is built from, or in a file. No driver state that comes out does, and so no registry that
is made of one has that issue. -/

namespace VirtualDisplay

variable {α : Type}

namespace World

variable {w w' : World} {x : Step α} {i : Nat} {state : DriverState}

/-- No driver state that is held anywhere holds an id twice. -/
structure Distinct (w : World) : Prop where
  driver : ∀ i < w.channels.length, (w.driver i).Distinct
  handed : ∀ f ∈ w.subscriptions, ∀ state ∈ f.handed, state.Distinct
  initial : ∀ i s, w.session? i = some s → s.cache.initial.Distinct

/-! ### Drivers -/

theorem Distinct.enter (h : w.Distinct) {d : Loopback} (hd : d.Distinct) : (w.enter d).Distinct := by
  refine ⟨fun i hi => ?_, h.handed, h.initial⟩
  rcases Nat.lt_or_ge i w.channels.length with hlt | hge
  · rw [driver_enter_of_lt hlt]
    exact h.driver i hlt
  · have hlast : i = w.channels.length := by
      simp only [World.enter, List.length_append, List.length_singleton] at hi
      omega
    rw [hlast, driver_enter_self]
    exact hd

theorem Running.distinct_driver (hw : w.Running) (h : w.Distinct) (x : Step α) :
    ∀ i < (w.step x).2.channels.length, ((w.step x).2.driver i).Distinct := by
  intro i hi
  have hg := hw.sound.grounded
  cases hg.course x with
  | move moves =>
    rw [(hg.step_move moves).1] at hi ⊢
    rw [channels_move] at hi
    rw [driver_move (hg.bound hw.driven moves)]
    split
    · exact Loopback.Move.distinct _ _ (h.driver _ (hg.bound hw.driven moves))
    · exact h.driver i hi
  | enter built entered =>
    rw [entered] at hi ⊢
    exact (h.enter (Loopback.distinct_build (o := .config _) built)).driver i hi
  | touch change touches =>
    subst touches
    exact h.driver i hi
  | rest rests =>
    rw [rests.channels] at hi
    rw [driver_congr rests.channels]
    exact h.driver i hi

/-! ### Subscriptions and caches -/

theorem Sound.distinct_handed_settle (hw : w.Sound) (h : w.Distinct) :
    ∀ f ∈ w.settle.subscriptions, ∀ state ∈ f.handed, state.Distinct := by
  intro f' hf' state hstate
  rw [subscriptions_settle] at hf'
  obtain ⟨f, hf, rfl⟩ := List.mem_map.1 hf'
  rw [settled_frame, hw.pending_eq hf] at hstate
  rcases List.mem_append.1 hstate with hold | hnew
  · exact h.handed f hf state hold
  · split at hnew
    · cases hnew
    · apply (h.driver f.channel (hw.placed f hf).channel).events
      exact List.mem_of_mem_drop (List.mem_of_mem_drop hnew)

theorem Carries.distinct_handed (c : w.Carries w') (h : w.Distinct) :
    ∀ f ∈ w'.subscriptions, ∀ state ∈ f.handed, state.Distinct := by
  intro f' hf' state hstate
  obtain ⟨k, hk⟩ := List.mem_iff_getElem?.1 hf'
  cases hold : w.subscriptions[k]? with
  | none =>
    rw [(c.new k f' hold hk).handed] at hstate
    cases hstate
  | some f =>
    obtain ⟨f'', hk', heq⟩ := c.old k f hold
    cases hk.symm.trans hk'
    apply h.handed f (List.mem_of_getElem? hold)
    rcases heq with rfl | rfl <;> exact hstate

/-! ### Worlds that come about -/

theorem Running.distinct_handed (hw : w.Running) (h : w.Distinct) (x : Step α) :
    ∀ f ∈ (w.step x).2.subscriptions, ∀ state ∈ f.handed, state.Distinct := by
  by_cases hx : x = .settle
  · subst hx
    exact hw.sound.distinct_handed_settle h
  · have e := hw.sound.grounded.step_effect hw.driven x hx
    exact (e.carries hw.driven fun _ _ => hw.sound.channel_lt).distinct_handed h

theorem Running.distinct_initial (hw : w.Running) (h : w.Distinct) (x : Step α) :
    ∀ i s, (w.step x).2.session? i = some s → s.cache.initial.Distinct := by
  intro i s' hs'
  by_cases hx : x = .settle
  · subst hx
    change w.settle.session? i = some s' at hs'
    rw [session?_settle] at hs'
    obtain ⟨s, hs, rfl⟩ := Option.map_eq_some_iff.1 hs'
    rw [takeOver_frame]
    exact h.initial i s hs
  · have e := hw.sound.grounded.step_effect hw.driven x hx
    rcases e.origin hs' with ⟨-, hlive⟩ | ⟨j, s, hs, -, hcache⟩
    · exact hlive ▸ (h.driver _ (current_lt hw.driven)).live
    · exact hcache ▸ h.initial j s hs

theorem Running.distinct (hw : w.Running) (h : w.Distinct) (x : Step α) : (w.step x).2.Distinct :=
  ⟨hw.distinct_driver h x, hw.distinct_handed h x, hw.distinct_initial h x⟩

theorem Reached.distinct (h : w.Reached) : w.Distinct := by
  induction h with
  | start files =>
    refine ⟨?_, ?_, ?_⟩
    · intro i hi
      cases hi
    · intro f hf
      cases hf
    · intro i s hs
      cases hs
  | enter o _ hd ih => exact ih.enter (Loopback.distinct_build hd)
  | step x hw hc ih => exact Running.distinct ⟨hw.sound, hc⟩ ih x

theorem Distinct.cached (h : w.Distinct) {s : Session} (hs : w.session? i = some s) :
    (w.cached s.cache).Distinct := by
  unfold World.cached updates
  cases hf : w.subscriptions[s.cache.source]? with
  | none => exact h.initial i s hs
  | some f =>
    cases hlast : f.handed.getLast? with
    | none =>
      simp only [Option.map_some, Option.getD_some, hlast, Option.getD_none]
      exact h.initial i s hs
    | some state =>
      simp only [Option.map_some, Option.getD_some, hlast]
      exact h.handed f (List.mem_of_getElem? hf) state (List.mem_of_getLast? hlast)

/-! ### What comes out -/

/-- The step has fetched a state from its driver. -/
inductive Fetched : Step α → Outcome α → DriverState → Prop
  | pull (state : DriverState) : Fetched .pull (.state state) state
  | fetch (i : Nat) (state : DriverState) : Fetched (.fetch i) (.state state) state
  | request (state : DriverState) :
      Fetched (.handle (.request .state)) (.replied (some (.reply (.state state)))) state

/-- The step gives a session a new registry, made of a driver state. -/
inductive Renews (w : World) : Step α → Nat → Prop
  | connect {config : SessionConfig} {i : Nat}
      (opened : (w.step (.connect (α := α) config)).1 = .opened i) : Renews w (.connect config) i
  | reload {i : Nat} (done : (w.step (.reload (α := α) i)).1 = .done) : Renews w (.reload i) i
  | refresh {i : Nat} (done : (w.step (.refresh (α := α) i)).1 = .done) : Renews w (.refresh i) i
  /-- It follows its driver, and an event is there for it. -/
  | settle {i k : Nat} {s : Session} {f : Subscription} (live : w.session? i = some s)
      (following : s.following = some k) (behind : w.subscriptions[k]? = some f)
      (missed : (w.driver s.channel).events.drop f.cursor ≠ []) : Renews w .settle i

theorem pulled {d : Loopback} (h : Outcome.ofExcept (.state (α := α)) d.pull = .state state) :
    d.live = state := by
  unfold Loopback.pull at h
  split at h <;> cases h
  rfl

/-- What is fetched is the live state of a driver. -/
theorem Running.fetched (hw : w.Running) (h : Fetched x (w.step x).1 state) :
    ∃ i < w.channels.length, (w.driver i).live = state := by
  have hg := hw.sound.grounded
  have hcur := current_lt hw.driven
  generalize ho : (w.step x).1 = o at h
  cases h with
  | pull =>
    simp only [World.step, trying, answering, hg.call_pull] at ho
    exact ⟨w.current, hcur, pulled ho⟩
  | fetch i =>
    cases hs : w.session? i with
    | none => simp [World.step, onSession, hs] at ho
    | some s =>
      simp only [World.step, onSession_live hs, trying, answering, hg.call_pull] at ho
      exact ⟨s.channel, hg.session i s hs, pulled ho⟩
  | request =>
    simp only [World.step, hg.onLoopback_eq] at ho
    refine ⟨w.current, hcur, ?_⟩
    unfold Loopback.handle at ho
    split at ho <;> cases ho
    rfl

/-- A registry that a session is given is made of a live or a cached state. -/
theorem Running.renewed (hw : w.Running) (h : w.Renews x i) :
    ∃ s, (w.step x).2.session? i = some s ∧
      ((∃ j < w.channels.length, s.registry = .ofRecords (w.driver j).live) ∨
        ∃ j t, w.session? j = some t ∧ s.registry = .ofRecords (w.cached t.cache)) := by
  have hg := hw.sound.grounded
  have hcur := current_lt hw.driven
  cases h with
  | connect opened =>
    rename_i config
    simp only [World.step, trying, answering, hg.connect_eq] at opened ⊢
    split at opened
    · cases opened
    · rename_i hconnected
      cases opened
      rw [if_neg hconnected]
      have hnew : w.welcome.session? w.sessions.length = some w.newcomer :=
        session?_welcome.2 (Or.inr ⟨rfl, rfl⟩)
      split
      · exact ⟨_, (session?_tie hnew).2 (Or.inr ⟨rfl, rfl⟩), Or.inl ⟨w.current, hcur, rfl⟩⟩
      · exact ⟨_, hnew, Or.inl ⟨w.current, hcur, rfl⟩⟩
  | reload done =>
    cases hs : w.session? i with
    | none => simp [World.step, onSession, hs] at done
    | some s =>
      simp only [World.step, onSession_live hs, trying, answering, World.reload, hg.call_pull] at done ⊢
      cases hp : (w.driver s.channel).pull with
      | error e => simp [hp, Outcome.ofExcept] at done
      | ok state =>
        refine ⟨_, (session?_edit hs).2 (Or.inr ⟨rfl, rfl⟩), Or.inl ⟨s.channel, ?_, ?_⟩⟩
        · exact hg.session i s hs
        · rw [pulled (α := Unit) (congrArg _ hp)]
  | refresh done =>
    cases hs : w.session? i with
    | none => simp [World.step, onSession, hs] at done
    | some s =>
      simp only [World.step, onSession_live hs]
      exact ⟨_, (session?_edit hs).2 (Or.inr ⟨rfl, rfl⟩), Or.inr ⟨i, s, hs, rfl⟩⟩
  | settle live following behind missed =>
    refine ⟨_, hw.sound.registry_settle live following behind missed, Or.inl ⟨_, ?_, rfl⟩⟩
    exact hw.sound.channel_lt live

/-- In a world that has come about, no driver state holds an id twice: no live state, no event, no
state in a cache, and none that is fetched. A registry that has just been made of one has no such
issue. -/
theorem ids_distinct (hw : w.Reached) (hc : w.channels ≠ []) :
    (∀ (i : Nat) (d : Loopback), w.channels[i]? = some (.loopback d) →
      d.live.Distinct ∧ ∀ state ∈ d.events, state.Distinct) ∧
    (∀ (i : Nat) (s : Session), w.session? i = some s → (w.cached s.cache).Distinct) ∧
    (∀ (x : Step α) (state : DriverState), Fetched x (w.step x).1 state → state.Distinct) ∧
    (∀ (x : Step α) (i : Nat), w.Renews x i →
      ∃ s, (w.step x).2.session? i = some s ∧ ∀ id, .duplicateMonitor id ∉ s.registry.issues) := by
  have hrunning : w.Running := ⟨hw.sound, hc⟩
  have h := hw.distinct
  refine ⟨fun i d hd => ?_, fun i s hs => h.cached hs, fun x state hx => ?_, fun x i hx => ?_⟩
  · have hdriver := h.driver i (List.getElem?_eq_some_iff.1 hd).1
    rw [driver_eq hd] at hdriver
    exact ⟨hdriver.live, hdriver.events⟩
  · obtain ⟨i, hi, rfl⟩ := hrunning.fetched hx
    exact (h.driver i hi).live
  · obtain ⟨s, hs, hregistry⟩ := hrunning.renewed hx
    refine ⟨s, hs, Registry.duplicateMonitor_not_mem_issues ?_⟩
    rcases hregistry with ⟨j, hj, hlive⟩ | ⟨j, t, ht, hcached⟩
    · rw [hlive, Registry.ids_ofRecords]
      exact (h.driver j hj).live
    · rw [hcached, Registry.ids_ofRecords]
      exact h.cached ht

/-- A driver starts with two monitors of one id and is sent two of another, and a session follows. -/
theorem ids_distinct_after_push :
    let steps : List (Step Unit) :=
      [.connect { followDriver := true }, .push [{ id := 2 }, { id := 2, enabled := false }]]
    let w := (({ channels := [] } : World).enter
      (.ofState [{ id := 1 }, { id := 1, enabled := false }])).run steps
    DriverState.Distinct [{ id := 2 }] ∧
      (w.cached { initial := [{ id := 1 }], source := 0 }).Distinct ∧
      ∃ s, w.settle.session? 0 = some s ∧ ∀ id, .duplicateMonitor id ∉ s.registry.issues := by
  intro steps w
  have hw : w.Reached := (Reached.enter (.state [{ id := 1 }, { id := 1, enabled := false }])
    (.start {}) rfl).run (List.cons_ne_nil _ _) steps
  have hsession : w.session? 0 = some
      { channel := 0, registry := .ofRecords [{ id := 1 }],
        cache := { initial := [{ id := 1 }], source := 0 }, following := some 1 } := rfl
  obtain ⟨hlive, hcached, hfetched, hrenewed⟩ :=
    ids_distinct (α := Unit) hw (List.cons_ne_nil _ _)
  refine ⟨?_, hcached 0 _ hsession, hrenewed .settle 0 ?_⟩
  · exact (hlive 0 { live := [{ id := 2 }], events := [[{ id := 2 }]] } rfl).1
  · exact .settle hsession rfl rfl (List.cons_ne_nil _ _)

end World
end VirtualDisplay
