import VirtualDisplay.Proofs.World.Calls
import VirtualDisplay.Proofs.World.Commits
import VirtualDisplay.Proofs.World.Noninterference

/-! Sessions side by side. While a session does not follow its driver, nobody but the session itself
changes its registry, and what it does to its registry shows nowhere else until it passes it on. -/

namespace VirtualDisplay

variable {α : Type}

namespace World

variable {w w' v : World} {x : Step α} {j k n : Nat} {s t : Session} {f : Subscription}

/-! ### Sessions keep their channel -/

/-- The step is one that may write a session: its own, or a delivery. -/
inductive Writes (j : Nat) : Step α → Prop
  | settle : Writes j .settle
  | fire (state : DriverState) : Writes j (.fire state)
  | reload : Writes j (.reload j)
  | refresh : Writes j (.refresh j)
  | edit (e : Edit Registry α) : Writes j (.edit j e)
  | follow (runtime : Bool) : Writes j (.follow j runtime)
  | unfollow : Writes j (.unfollow j)
  | drop : Writes j (.drop j)

/-- A session is still there, on its channel, and as it was unless it may have been written. -/
def Stays (j : Nat) (s : Session) (written : Prop) (w' : World) : Prop :=
  ∃ s', w'.sessions[j]? = some s' ∧ s'.channel = s.channel ∧ (s' = s ∨ written)

section

variable {written : Prop} (hs : w.sessions[j]? = some s)
include hs

theorem Stays.of_append {new : List Session} (h : w'.sessions = w.sessions ++ new) :
    Stays j s written w' := by
  refine ⟨s, ?_, rfl, Or.inl rfl⟩
  rw [h, List.getElem?_append_left (List.getElem?_eq_some_iff.1 hs).1, hs]

theorem Stays.of_eq (h : w'.sessions = w.sessions) : Stays j s written w' :=
  .of_append hs (h.trans (List.append_nil _).symm)

theorem Stays.of_mapIdx {states : Nat → List DriverState}
    (h : w'.sessions = w.sessions.mapIdx fun i s => s.takeOver (states i)) (hw : written) :
    Stays j s written w' := by
  refine ⟨s.takeOver (states j), ?_, ?_, Or.inr hw⟩
  · rw [h, List.getElem?_mapIdx, hs, Option.map_some]
  · rw [takeOver_frame]

theorem Stays.of_set (live : w.session? k = some t) {t' : Session}
    (h : w'.sessions = w.sessions.set k t') (hchannel : t'.channel = t.channel)
    (hw : j = k → written) : Stays j s written w' := by
  by_cases hjk : j = k
  · subst hjk
    cases hs.symm.trans (session?_eq.1 live).1
    refine ⟨t', ?_, hchannel, Or.inr (hw rfl)⟩
    rw [h, List.getElem?_set_self (List.getElem?_eq_some_iff.1 hs).1]
  · refine ⟨s, ?_, rfl, Or.inl rfl⟩
    rw [h, List.getElem?_set_ne (Ne.symm hjk), hs]

theorem Stays.onSession {g : Session → Edit World (Outcome α)}
    (h : ∀ t, w.session? k = some t → Stays j s written (g t w).2) :
    Stays j s written (onSession k g w).2 := by
  unfold World.onSession
  split
  · exact .of_eq hs rfl
  · next t live => exact h t live

theorem stays_subscribe (i : Nat) (target : Target) (runtime : Bool) :
    Stays j s written (subscribe i target runtime w).2 := by
  rcases subscribe_cases i target runtime w with ⟨e, w', hnew, h⟩ | ⟨f, w', hnew, -, h⟩ <;> rw [hnew] <;>
    exact .of_eq hs h.sessions

theorem stays_connect (config : SessionConfig) : Stays j s written (connect config w).2 := by
  rcases connect_cases config w with ⟨e, -, h | ⟨f, -, h⟩⟩ | ⟨t, new, -, h⟩
  · exact .of_eq hs h.sessions
  · exact .of_eq hs h.sessions
  · exact .of_append hs h.sessions

theorem stays_unfollow (live : w.session? k = some t) (hw : j = k → written) :
    Stays j s written (w.unfollow k t) := by
  unfold unfollow
  split
  · exact .of_eq hs rfl
  · exact .of_set hs live rfl rfl hw

theorem stays_dropSession (live : w.session? k = some t) (hw : j = k → written) :
    Stays j s written (w.dropSession k t) := by
  have hset : ((w.unfollow k t).setSession k { t with following := none, dropped := true }).sessions =
      w.sessions.set k { t with following := none, dropped := true } := by
    unfold unfollow
    cases t.following with
    | none => rfl
    | some l => exact List.set_set _
  simp only [dropSession]
  split <;> exact .of_set hs live hset rfl hw

theorem stays_reload (live : w.session? k = some t) (hw : j = k → written) :
    Stays j s written (reload k t w).2 := by
  rcases reload_cases k t w with ⟨e, -, h⟩ | ⟨-, registry, h⟩
  · exact .of_eq hs h.sessions
  · exact .of_set hs live h.sessions rfl hw

theorem stays_follow (live : w.session? k = some t) (runtime : Bool) (hw : j = k → written) :
    Stays j s written (follow k t runtime w).2 := by
  rcases follow_cases k t runtime w with ⟨e, -, h⟩ | ⟨-, h | ⟨new, following, h⟩⟩
  · exact .of_eq hs h.sessions
  · exact .of_eq hs (congrArg World.sessions h)
  · exact .of_set hs live h.sessions rfl hw

theorem stays_onLoopback {β : Type} (g : β → Outcome α) (e : Edit Loopback β) :
    Stays j s written (onLoopback g e w).2 := by
  unfold onLoopback
  split <;> exact .of_eq hs rfl

end

/-- Whatever the step, a session is still there under its number and on its channel, and only its own
steps and deliveries write it. -/
theorem stays_step (hs : w.sessions[j]? = some s) (x : Step α) : Stays j s (Writes j x) (w.step x).2 := by
  cases x with
  | settle => exact .of_mapIdx hs rfl .settle
  | touch | push | pull | commit | isActive => exact .of_eq hs rfl
  | handle | restart | disconnect | reconnect => exact stays_onLoopback hs _ _
  | fire state =>
    simp only [step, onScripted]
    split
    · exact .of_mapIdx hs rfl (.fire state)
    · exact .of_eq hs rfl
  | replaceDriver config =>
    simp only [step, replaceDriver]
    split <;> exact .of_eq hs rfl
  | subscribe session runtime =>
    cases session with
    | none => exact stays_subscribe hs _ _ _
    | some k => exact .onSession hs fun t _ => stays_subscribe hs _ _ _
  | cancel l => exact .of_eq hs (sessions_release w l)
  | connect config => exact stays_connect hs config
  | notify | persist | fetch | isValid | describe | watch =>
    exact .onSession hs fun t _ => .of_eq hs rfl
  | reload k => exact .onSession hs fun t live => stays_reload hs live fun h => h ▸ .reload
  | refresh k => exact .onSession hs fun t live => .of_set hs live rfl rfl fun h => h ▸ .refresh
  | edit k e => exact .onSession hs fun t live => .of_set hs live rfl rfl fun h => h ▸ .edit e
  | follow k runtime =>
    exact .onSession hs fun t live => stays_follow hs live runtime fun h => h ▸ .follow runtime
  | unfollow k => exact .onSession hs fun t live => stays_unfollow hs live fun h => h ▸ .unfollow
  | duplicate => exact .onSession hs fun t _ => .of_append hs rfl
  | drop k => exact .onSession hs fun t live => stays_dropSession hs live fun h => h ▸ .drop
  | poll l =>
    simp only [step]
    split <;> exact .of_eq hs rfl

theorem stays_run (hs : w.sessions[j]? = some s) (steps : List (Step α)) :
    ∃ s', (w.run steps).sessions[j]? = some s' ∧ s'.channel = s.channel := by
  induction steps generalizing w s with
  | nil => exact ⟨s, hs, rfl⟩
  | cons x steps ih =>
    obtain ⟨s₁, hs₁, hchannel, -⟩ := stays_step hs x
    obtain ⟨s₂, hs₂, hchannel₂⟩ := ih hs₁
    exact ⟨s₂, hs₂, hchannel₂.trans hchannel⟩

/-! ### The registry of a session that does not follow -/

/-- What a session does to its own registry. -/
inductive Rewrites (w : World) (j : Nat) : Step α → Prop
  | edit (e : Edit Registry α) : Rewrites w j (.edit j e)
  | refresh : Rewrites w j (.refresh j)
  | reload (ok : (w.step (.reload (α := α) j)).1.succeeded = true) : Rewrites w j (.reload j)

/-- The session neither rewrites its registry nor starts to follow or goes. -/
def Leaves (j : Nat) (w : World) (x : Step α) : Prop :=
  ¬ w.Rewrites j x ∧ x ≠ .drop j ∧ ∀ runtime, x ≠ .follow j runtime

theorem Sound.due_eq_nil (hw : w.Sound) (hs : w.session? j = some s) (loose : s.following = none) :
    w.due j = [] := by
  rw [due, List.flatMap_eq_nil_iff]
  intro f hf
  rw [List.mem_filter, decide_eq_true_eq] at hf
  obtain ⟨hmem, htarget⟩ := hf
  cases hc : f.cancelled with
  | true => exact w.pending_of_cancelled hc
  | false =>
    obtain ⟨k, hk⟩ := List.mem_iff_getElem?.1 hmem
    obtain ⟨t, ht, hfollow⟩ := hw.owned k f j hk htarget hc
    cases hs.symm.trans ht
    rw [loose] at hfollow
    cases hfollow

/-- A session that does not follow has its registry changed by no step but one that rewrites it. -/
theorem Running.registry_step (hw : w.Running) (hs : w.session? j = some s) (loose : s.following = none)
    (hx : ¬ w.Rewrites j x) (hdrop : x ≠ .drop j) :
    ∃ s', (w.step x).2.session? j = some s' ∧ s'.registry = s.registry ∧
      ((∀ runtime, x ≠ .follow j runtime) → s'.following = none) := by
  have hstored := (session?_eq.1 hs).1
  have hdropped := (session?_eq.1 hs).2
  have kept (h : (w.step x).2.sessions = w.sessions) : ∃ s', (w.step x).2.session? j = some s' ∧
      s'.registry = s.registry ∧ ((∀ runtime, x ≠ .follow j runtime) → s'.following = none) :=
    ⟨s, session?_eq.2 ⟨h ▸ hstored, hdropped⟩, rfl, fun _ => loose⟩
  obtain ⟨s', hs', -, rfl | hwrites⟩ := stays_step hstored x
  · exact ⟨s', session?_eq.2 ⟨hs', hdropped⟩, rfl, fun _ => loose⟩
  · cases hwrites with
    | settle =>
      refine ⟨s, ?_, rfl, fun _ => loose⟩
      change w.settle.session? j = some s
      rw [session?_settle, hs, hw.sound.due_eq_nil hs loose]
      rfl
    | fire state =>
      refine kept ?_
      simp only [World.step, hw.sound.grounded.onScripted_eq]
    | edit e => exact absurd (.edit e) hx
    | refresh => exact absurd .refresh hx
    | reload =>
      simp only [World.step, onSession_live hs] at kept ⊢
      rcases reload_cases j s w with ⟨e, -, h⟩ | ⟨hok, -⟩
      · exact kept h.sessions
      · refine absurd (.reload ?_) hx
        simp only [World.step, onSession_live hs, trying, answering, hok]
        rfl
    | follow runtime =>
      simp only [World.step, onSession_live hs] at kept ⊢
      rcases follow_cases j s runtime w with ⟨e, -, h⟩ | ⟨-, h | ⟨new, following, h⟩⟩
      · exact kept h.sessions
      · exact kept (congrArg World.sessions h)
      · have hset := List.getElem?_set_self (a := { s with following })
          (List.getElem?_eq_some_iff.1 hstored).1
        exact ⟨{ s with following }, session?_eq.2 ⟨(congrArg (·[j]?) h.sessions).trans hset, hdropped⟩,
          rfl, fun hne => absurd rfl (hne runtime)⟩
    | unfollow =>
      refine kept ?_
      simp only [World.step, onSession_live hs, World.unfollow, loose]
    | drop => exact absurd rfl hdrop

theorem Running.registry_run (hw : w.Running) (hs : w.session? j = some s) (loose : s.following = none)
    {steps : List (Step α)} (hsteps : w.Throughout (Leaves j) steps) :
    ∃ s', (w.run steps).session? j = some s' ∧ s'.registry = s.registry := by
  induction steps generalizing w s with
  | nil => exact ⟨s, hs, rfl⟩
  | cons x steps ih =>
    obtain ⟨⟨hx, hdrop, hfollow⟩, hrest⟩ := hsteps
    obtain ⟨s₁, hs₁, hregistry, hloose⟩ := hw.registry_step hs loose hx hdrop
    obtain ⟨s₂, hs₂, hregistry₂⟩ := ih (hw.step x) hs₁ (hloose hfollow) hrest
    exact ⟨s₂, hs₂, hregistry₂.trans hregistry⟩

/-! ### Events from before -/

/-- The subscriptions for a registry have the first events of a driver behind them. -/
structure Past (w : World) (j c n : Nat) : Prop where
  channel : c < w.channels.length
  events : n ≤ (w.driver c).events.length
  cursor : ∀ (k : Nat) f, w.subscriptions[k]? = some f → f.target = .registry j → f.cancelled = false →
    f.channel = c → n ≤ f.cursor

theorem Past.step {c : Nat} (h : w.Past j c n) (hw : w.Running) (x : Step α) : (w.step x).2.Past j c n := by
  have g := hw.grows_step x
  have hevents : n ≤ ((w.step x).2.driver c).events.length :=
    Nat.le_trans h.events (g.driver c h.channel).prefix_events.length_le
  refine ⟨Nat.lt_of_lt_of_le h.channel g.channels, hevents, fun k f' hf' ht hc hch => ?_⟩
  by_cases hx : x = .settle
  · subst hx
    have hsubs : w.settle.subscriptions[k]? = some f' := hf'
    rw [subscriptions_settle, List.getElem?_map] at hsubs
    obtain ⟨f, hf, rfl⟩ := Option.map_eq_some_iff.1 hsubs
    rw [settled_frame] at hc hch
    rw [hw.sound.settled_of_live (List.mem_of_getElem? hf) hc]
    exact hch ▸ h.events
  · have hcarries := (hw.sound.grounded.step_effect hw.driven x hx).carries hw.driven
      fun _ _ => hw.sound.channel_lt
    cases hf : w.subscriptions[k]? with
    | none =>
      have hfresh := hcarries.new k f' hf hf'
      rw [hfresh.cursor, hch]
      exact hevents
    | some f =>
      obtain ⟨f'', hf'', rfl | rfl⟩ := hcarries.old k f hf <;> cases hf'.symm.trans hf''
      · exact h.cursor k f' hf ht hc hch
      · refine h.cursor k f hf ht ?_ hch
        simpa [Subscription.cancel] using (Bool.or_eq_false_iff.1 hc).1

theorem Past.run {c : Nat} (h : w.Past j c n) (hw : w.Running) (steps : List (Step α)) :
    (w.run steps).Past j c n := by
  induction steps generalizing w with
  | nil => exact h
  | cons x steps ih => exact ih (h.step hw x) (hw.step x)

/-- What comes due to a registry is none of the events that are behind its subscriptions. -/
theorem Past.due {state : DriverState} (h : w.Past j s.channel n) (hw : w.Sound)
    (hs : w.session? j = some s) (hdue : state ∈ w.due j) :
    state ∈ (w.driver s.channel).events.drop n := by
  obtain ⟨f, hf, hpending⟩ := List.mem_flatMap.1 hdue
  rw [List.mem_filter, decide_eq_true_eq] at hf
  obtain ⟨hmem, htarget⟩ := hf
  rw [hw.pending_eq hmem] at hpending
  split at hpending
  · cases hpending
  · next hc =>
    obtain ⟨k, hk⟩ := List.mem_iff_getElem?.1 hmem
    have hcancelled : f.cancelled = false := by simpa using hc
    obtain ⟨t, ht, hfollow⟩ := hw.owned k f j hk htarget hcancelled
    cases hs.symm.trans ht
    obtain ⟨f', hf', -, hchannel, -⟩ := (hw.tied j s hs).following k hfollow
    cases hk.symm.trans hf'
    rw [hchannel] at hpending
    have hcursor := h.cursor k f hk htarget hcancelled hchannel
    have hdrop := List.mem_of_mem_drop hpending
    rw [← Nat.add_sub_of_le hcursor, ← List.drop_drop] at hdrop
    exact List.mem_of_mem_drop hdrop

theorem Sound.past_unfollow (hw : w.Sound) (hs : w.session? j = some s) :
    (w.unfollow j s).Past j s.channel (w.driver s.channel).events.length := by
  have hchannels := channels_unfollow w j s
  refine ⟨?_, ?_, fun k f hf ht hc => ?_⟩
  · rw [hchannels]
    exact hw.channel_lt hs
  · exact Nat.le_of_eq (by rw [driver_congr hchannels])
  · have hloose := (session?_unfollow hs).2 (Or.inr ⟨rfl, rfl⟩)
    obtain ⟨t, ht, hfollow⟩ := (hw.unfollow hs).owned k f j hf ht hc
    cases hloose.symm.trans ht
    cases hfollow

/-- After a session has unfollowed, and even once it follows again, a settle gives it nothing that was
broadcast before. -/
theorem registry_after_unfollow (hw : w.Running) (hs : w.session? j = some s) {steps : List (Step α)}
    (hrun : (w.step (.unfollow j : Step α)).2.run steps = v) (ht : v.session? j = some t) :
    ∃ t', v.settle.session? j = some t' ∧ (t'.registry = t.registry ∨
      ∃ state ∈ (v.driver s.channel).events.drop (w.driver s.channel).events.length,
        t'.registry = .ofRecords state) := by
  subst hrun
  have hstep : (w.step (.unfollow j : Step α)).2 = w.unfollow j s := by
    simp only [World.step, onSession_live hs]
  have hrunning := (hw.step (.unfollow j : Step α)).run steps
  have hpast := (hstep ▸ hw.sound.past_unfollow hs).run (hw.step (.unfollow j : Step α)) steps
  obtain ⟨s', hs', hchannel⟩ := stays_run (session?_eq.1 hs).1 (Step.unfollow (α := α) j :: steps)
  cases hs'.symm.trans (session?_eq.1 ht).1
  rw [← hchannel] at hpast ⊢
  refine ⟨_, by rw [session?_settle, ht, Option.map_some], ?_⟩
  unfold Session.takeOver
  split
  · exact Or.inl rfl
  · next state hlast =>
    exact Or.inr ⟨state, hpast.due hrunning.sound ht (List.mem_of_getLast? hlast), rfl⟩

/-! ### Isolation -/

/-- Sessions are isolated. While one does not follow, only what it does itself changes its registry, and
what its driver broadcasts before it unfollows never does. Its own edits, as long as it passes the
registry on to neither the driver nor a copy, change nothing else in the world and no other answer. -/
theorem sessions_isolated (hw : w.Reached) (hs : w.session? j = some s) :
    (s.following = none → ∀ x : Step α, ¬ w.Rewrites j x → x ≠ .drop j →
      ∃ s', (w.step x).2.session? j = some s' ∧ s'.registry = s.registry) ∧
    (s.following = none → ∀ steps : List (Step α), w.Throughout (Leaves j) steps →
      ∃ s', (w.run steps).session? j = some s' ∧ s'.registry = s.registry) ∧
    (∀ (steps : List (Step α)) v t, (w.step (.unfollow j : Step α)).2.run steps = v →
      v.session? j = some t → ∃ t', v.settle.session? j = some t' ∧ (t'.registry = t.registry ∨
        ∃ state ∈ (v.driver s.channel).events.drop (w.driver s.channel).events.length,
          t'.registry = .ofRecords state)) ∧
    ∀ xs ys : List (Step α), (xs.filter fun x => !edits j x) = (ys.filter fun x => !edits j x) →
      (∀ x ∈ xs, ¬ Leaks j x) → (∀ x ∈ ys, ¬ Leaks j x) →
      (w.run ys).channels = (w.run xs).channels ∧ (w.run ys).files = (w.run xs).files ∧
      (w.run ys).subscriptions = (w.run xs).subscriptions ∧
      (w.run ys).watchers = (w.run xs).watchers ∧
      (∀ c, (w.run ys).cached c = (w.run xs).cached c) ∧
      (∀ k, k ≠ j → (w.run ys).session? k = (w.run xs).session? k) ∧
      ∀ x : Step α, ¬ Reads j x → ((w.run ys).step x).1 = ((w.run xs).step x).1 := by
  have hrunning := hw.running (hw.sound.channel_lt hs)
  refine ⟨fun loose x hx hdrop => ?_, fun loose steps => hrunning.registry_run hs loose,
    fun steps v t => registry_after_unfollow hrunning hs, fun xs ys hsame hxs hys => ?_⟩
  · obtain ⟨s', hs', hregistry, -⟩ := hrunning.registry_step hs loose hx hdrop
    exact ⟨s', hs', hregistry⟩
  · have halike := alike_runs w hsame hxs hys
    refine ⟨?_, ?_, ?_, ?_, ?_, fun k hk => halike.session?_eq hk,
      fun x hx => (same_step hx _ _ halike).1⟩ <;> obtain ⟨S, hS, -⟩ := halike <;> rw [hS]
    exact fun c => rfl

/-- Of two sessions on a driver that changes, one follows, and the other keeps what it has and edits it
unseen. -/
theorem sessions_isolated_of_two :
    let start : List (Step Unit) := [.connect {}, .connect { followDriver := true }]
    let w := (({ channels := [] } : World).enter {}).run start
    let steps : List (Step Unit) := [.push [{ id := 1 }], .settle]
    let edit : Step Unit := .edit 0 fun _ => ((), .ofRecords [{ id := 2 }])
    w.Reached ∧ ((w.run steps).session? 0).map (·.registry) = some (.ofRecords []) ∧
      ((w.run steps).session? 1).map (·.registry) = some (.ofRecords [{ id := 1 }]) ∧
      (w.run (edit :: steps)).channels = (w.run steps).channels ∧
      (w.run (edit :: steps)).session? 1 = (w.run steps).session? 1 := by
  intro start w steps edit
  have hw : w.Reached := (Reached.enter .new (.start {}) rfl).run (List.cons_ne_nil _ _) start
  have hs : w.session? 0 = some
      { channel := 0, registry := .ofRecords [], cache := { initial := [], source := 0 } } := rfl
  obtain ⟨-, hkeeps, -, hunseen⟩ := sessions_isolated (α := Unit) hw hs
  have hleaves : w.Throughout (Leaves 0) steps :=
    ⟨⟨nofun, nofun, nofun⟩, ⟨nofun, nofun, nofun⟩, trivial⟩
  obtain ⟨s', hs', hregistry⟩ := hkeeps rfl steps hleaves
  have hquiet : ∀ x ∈ steps, ¬ Leaks 0 x := by
    rintro x hx ⟨⟩ <;> simp [steps] at hx
  have hedit : ¬ Leaks 0 (.edit 0 fun _ => ((), .ofRecords [{ id := 2 }]) : Step Unit) := nofun
  have hquiet' : ∀ x ∈ edit :: steps, ¬ Leaks 0 x := List.forall_mem_cons.2 ⟨hedit, hquiet⟩
  obtain ⟨hchannels, -, -, -, -, hother, -⟩ := hunseen steps (edit :: steps) rfl hquiet hquiet'
  refine ⟨hw, by rw [hs', Option.map_some, hregistry], ?_, hchannels, hother 1 (by decide)⟩
  decide +kernel

end World
end VirtualDisplay
