import VirtualDisplay.Proofs.Channel.Firsts
import VirtualDisplay.Proofs.Registry.Records
import VirtualDisplay.Proofs.World.Runs

/-! Sessions and their drivers. Whenever a world has come to rest, every session knows the live state of
its driver, and one that follows has it as its registry if anything came in. -/

namespace VirtualDisplay

variable {α : Type}

/-- If only one of the elements that pass gives anything, then what it gives is all. -/
theorem flatMap_filter_unique {β γ : Type} {xs : List β} {p : β → Bool} {g : β → List γ} {k : Nat}
    {x : β} (hk : xs[k]? = some x) (hp : p x = true)
    (others : ∀ j y, xs[j]? = some y → p y = true → j ≠ k → g y = []) :
    (xs.filter p).flatMap g = g x := by
  induction xs generalizing k with
  | nil => cases hk
  | cons y ys ih =>
    cases k with
    | zero =>
      cases hk
      have hrest : (ys.filter p).flatMap g = [] := by
        rw [List.flatMap_eq_nil_iff]
        intro z hz
        obtain ⟨hmem, hpz⟩ := List.mem_filter.1 hz
        obtain ⟨j, hj⟩ := List.mem_iff_getElem?.1 hmem
        exact others (j + 1) z hj hpz (Nat.succ_ne_zero j)
      rw [List.filter_cons_of_pos hp, List.flatMap_cons, hrest, List.append_nil]
    | succ k =>
      have htail : (ys.filter p).flatMap g = g x :=
        ih hk fun j z hz hpz hj => others (j + 1) z hz hpz (by omega)
      cases hy : p y with
      | false => rw [List.filter_cons_of_neg (by simp [hy]), htail]
      | true =>
        have hnone : g y = [] := others 0 y rfl hy (by omega)
        rw [List.filter_cons_of_pos hy, List.flatMap_cons, hnone, List.nil_append, htail]

namespace World

variable {w : World} {i k : Nat} {s : Session} {f : Subscription} {d : Loopback}

namespace Sound

variable (hw : w.Sound)
include hw

/-- After a settle a cache holds the live state, since nothing is left in prospect. -/
theorem cached_settle (hs : w.settle.session? i = some s) :
    w.settle.cached s.cache = (w.driver s.channel).live := by
  obtain ⟨g, hg, -, -, hlive, hleads⟩ := (hw.settle.tied i s hs).source
  have hsub := hg
  rw [subscriptions_settle, List.getElem?_map] at hsub
  obtain ⟨f, hf, rfl⟩ := Option.map_eq_some_iff.1 hsub
  rw [settled_frame] at hlive
  obtain ⟨g, hg', hprospect, -⟩ := hw.prospect_settle hf hlive
  cases hg.symm.trans hg'
  rw [hprospect] at hleads
  simp only [cached, updates, hg, Option.map_some, Option.getD_some]
  exact hleads

/-- What a settle has for the registry of a session that follows comes through its own subscription. -/
theorem due_eq (hs : w.session? i = some s) (hk : s.following = some k)
    (hf : w.subscriptions[k]? = some f) : w.due i = w.pending f := by
  obtain ⟨f', hf', htarget, -⟩ := (hw.tied i s hs).following k hk
  cases hf.symm.trans hf'
  apply flatMap_filter_unique hf (by simpa using htarget)
  intro j g hg hp hj
  rw [hw.pending_eq (List.mem_of_getElem? hg)]
  cases hc : g.cancelled with
  | true => rfl
  | false =>
    obtain ⟨t, ht, hfollow⟩ := hw.owned j g i hg (by simpa using hp) hc
    cases hs.symm.trans ht
    cases hk.symm.trans hfollow
    exact absurd rfl hj

/-- What a settle makes of a session that follows. -/
theorem following_settle (hs : w.session? i = some s) (hk : s.following = some k)
    (hf : w.subscriptions[k]? = some f) :
    w.settle.session? i = some (s.takeOver (newest (w.driver s.channel).capacity
      ((w.driver s.channel).events.drop f.cursor))) := by
  obtain ⟨f', hf', -, hchannel, hcancelled⟩ := (hw.tied i s hs).following k hk
  cases hf.symm.trans hf'
  rw [session?_settle, hs, Option.map_some, hw.due_eq hs hk hf,
    hw.pending_eq (List.mem_of_getElem? hf), hcancelled, hchannel]
  rfl

/-- A session that follows takes over the live state if there is an event that it has not had: the last
event is the live state, and however many are skipped, the last one never is. -/
theorem registry_settle (hs : w.session? i = some s) (hk : s.following = some k)
    (hf : w.subscriptions[k]? = some f) (hmissed : (w.driver s.channel).events.drop f.cursor ≠ []) :
    w.settle.session? i =
      some { s with registry := Registry.ofRecords (w.driver s.channel).live } := by
  have hregular := hw.regular _ (hw.channel_lt hs)
  have hlast : ((w.driver s.channel).events.drop f.cursor).getLast? =
      some (w.driver s.channel).live := by
    cases h : ((w.driver s.channel).events.drop f.cursor).getLast? with
    | none => exact absurd (List.getLast?_eq_none_iff.1 h) hmissed
    | some state =>
      rw [List.getLast?_drop] at h
      split at h
      · cases h
      · rw [hregular.latest state h]
  rw [hw.following_settle hs hk hf, Session.takeOver, getLast?_newest hregular.capacity, hlast]

/-- Without such an event its registry stays as it is. -/
theorem registry_settle_of_current (hs : w.session? i = some s) (hk : s.following = some k)
    (hf : w.subscriptions[k]? = some f) (hcurrent : (w.driver s.channel).events.drop f.cursor = []) :
    w.settle.session? i = some s := by
  rw [hw.following_settle hs hk hf, hcurrent]
  simp [newest, Session.takeOver]

end Sound

/-- The records of a registry are live as they are once pushed, if no two of its monitors share an id. -/
theorem push_toRecords {r : Registry} (hr : r.ids.Nodup) (hd : d.connected = true) :
    (Loopback.push r.toRecords d).2.live = r.toRecords := by
  rw [Loopback.push_live hd, firstOfEachId_eq_self, Registry.ids_toRecords]
  exact hr

theorem Grounded.step_notify (hw : w.Grounded) (hs : w.session? i = some s) :
    (w.step (.notify (α := α) i)).2 = w.setDriver s.channel
      (Loopback.push s.registry.toRecords (w.driver s.channel)).2 := by
  simp only [World.step, onSession_live hs, trying, answering, notify, hw.call_push]

/-- What comes back to a session that has pushed its registry ends in that registry. -/
theorem Running.registry_notify (hw : w.Running) (hs : w.session? i = some s)
    (hk : s.following = some k) (hr : s.registry.ids.Nodup)
    (hd : (w.driver s.channel).connected = true) :
    ((w.step (.notify (α := α) i)).2.settle.session? i).map (·.registry) = some s.registry := by
  have hstep := hw.sound.grounded.step_notify (α := α) hs
  have hsound := (hw.step (.notify (α := α) i)).sound
  obtain ⟨f, hf, -⟩ := (hw.sound.tied i s hs).following k hk
  rw [hstep] at hsound ⊢
  have hlive : ((w.setDriver s.channel (Loopback.push s.registry.toRecords
      (w.driver s.channel)).2).driver s.channel).live = s.registry.toRecords := by
    rw [driver_setDriver (hw.sound.channel_lt hs), if_pos rfl, push_toRecords hr hd]
  by_cases hmissed : ((w.setDriver s.channel (Loopback.push s.registry.toRecords
      (w.driver s.channel)).2).driver s.channel).events.drop f.cursor = []
  · rw [hsound.registry_settle_of_current hs hk hf hmissed]
    rfl
  · rw [hsound.registry_settle hs hk hf hmissed, hlive, Registry.ofRecords_toRecords]
    rfl

/-- Right after a settle, every session that has not been dropped knows the live state of its driver.
One that follows has it as its registry if an event was there for it, and what it has pushed just
before the settle it keeps. -/
theorem settled_sessions (hw : w.Reached) :
    (∀ i s, w.settle.session? i = some s →
      ∃ d, w.settle.channels[s.channel]? = some (.loopback d) ∧
        w.settle.cached s.cache = d.live) ∧
    (∀ i s k, w.session? i = some s → s.following = some k →
      ∃ f d, w.subscriptions[k]? = some f ∧
        w.settle.channels[s.channel]? = some (.loopback d) ∧
        (d.events.drop f.cursor ≠ [] →
          (w.settle.session? i).map (·.registry) = some (.ofRecords d.live))) ∧
    (∀ i s k d, w.session? i = some s → s.following = some k → s.registry.ids.Nodup →
      w.channels[s.channel]? = some (.loopback d) → d.connected = true →
      ((w.run [Step.notify (α := α) i, .settle]).session? i).map (·.registry) =
        some s.registry) := by
  have hsound := hw.sound
  refine ⟨fun i s hs => ?_, fun i s k hs hk => ?_, fun i s k d hs hk hr hd hconnected => ?_⟩
  · have hlt := hsound.settle.channel_lt hs
    exact ⟨_, hsound.settle.grounded.getElem?_channels hlt, hsound.cached_settle hs⟩
  · obtain ⟨f, hf, -⟩ := (hsound.tied i s hs).following k hk
    have hchannel := hsound.grounded.getElem?_channels (hsound.channel_lt hs)
    refine ⟨f, _, hf, hchannel, fun hmissed => ?_⟩
    rw [hsound.registry_settle hs hk hf hmissed]
    rfl
  · rw [← driver_eq hd] at hconnected
    exact (hw.running (hsound.channel_lt hs)).registry_notify hs hk hr hconnected

/-- A session that follows a new driver, just before the driver's first event gets to it. -/
theorem settled_sessions_after_push :
    let steps : List (Step Unit) := [.connect { followDriver := true }, .push [{ id := 1 }]]
    let w := (({ channels := [] } : World).enter {}).run steps
    (w.settle.session? 0).map (·.cache) = some { initial := [], source := 0 } ∧
    w.settle.channels[0]? = some (.loopback { live := [{ id := 1 }], events := [[{ id := 1 }]] }) ∧
    w.settle.cached { initial := [], source := 0 } = [{ id := 1 }] ∧
    (w.settle.session? 0).map (·.registry) = some (.ofRecords [{ id := 1 }]) := by
  intro steps w
  have hw : w.Reached := (Reached.enter .new (.start {}) rfl).run (List.cons_ne_nil _ _) steps
  obtain ⟨hcached, hregistry, -⟩ := settled_sessions (α := Unit) hw
  have hd : w.settle.channels[0]? =
      some (.loopback { live := [{ id := 1 }], events := [[{ id := 1 }]] }) := rfl
  have hsession : w.session? 0 = some
      { channel := 0, registry := .ofRecords [], cache := { initial := [], source := 0 },
        following := some 1 } := rfl
  have hsettled : w.settle.session? 0 = some
      { channel := 0, registry := .ofRecords [{ id := 1 }],
        cache := { initial := [], source := 0 }, following := some 1 } := by decide +kernel
  have hfollowing : w.subscriptions[1]? =
      some { channel := 0, target := .registry 0, cursor := 0 } := rfl
  refine ⟨by rw [hsettled]; rfl, hd, ?_, ?_⟩
  · obtain ⟨d, hd', hlive⟩ := hcached 0 _ hsettled
    cases hd.symm.trans hd'
    exact hlive
  · obtain ⟨f, d, hf, hd', htaken⟩ := hregistry 0 _ 1 hsession rfl
    cases hfollowing.symm.trans hf
    cases hd.symm.trans hd'
    exact htaken (List.cons_ne_nil _ _)

end World
end VirtualDisplay
