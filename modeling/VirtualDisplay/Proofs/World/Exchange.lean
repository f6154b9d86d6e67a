import VirtualDisplay.Proofs.Channel.Firsts
import VirtualDisplay.Proofs.Registry.Coalescing
import VirtualDisplay.Proofs.World.Calls
import VirtualDisplay.Proofs.World.Distinct

/-! A registry that is sent to a driver, and a driver state that is fetched into a registry. A driver
drops repeated ids and a registry drops repeated rates, and each leaves alone what the other makes. -/

namespace VirtualDisplay

variable {α : Type}

/-- The registry without the monitors whose id another has that comes before. -/
def Registry.oncePerId (r : Registry) : Registry := ⟨firsts (·.id) r.monitors⟩

namespace Registry

theorem firstOfEachId_toRecords (r : Registry) :
    firstOfEachId r.toRecords = r.oncePerId.toRecords := by
  rw [firstOfEachId_eq, toRecords, firsts_map]
  rfl

theorem oncePerId_eq_self {r : Registry} : r.oncePerId = r ↔ r.ids.Nodup := by
  rw [ids, ← firsts_eq_self]
  exact ⟨congrArg monitors, congrArg mk⟩

theorem oncePerId_oncePerId (r : Registry) : r.oncePerId.oncePerId = r.oncePerId :=
  oncePerId_eq_self.2 (nodup_firsts _ _)

/-- A live state holds no id twice, and so neither does a registry that is made of it. -/
theorem oncePerId_ofRecords {rs : DriverState} (h : rs.Distinct) :
    (ofRecords rs).oncePerId = ofRecords rs := by
  rw [oncePerId_eq_self, ids_ofRecords]
  exact h

end Registry

theorem Loopback.become_eq (next : DriverState) (d : Loopback) : d.become next =
    { d with live := next, events := d.events ++ if next = d.live then [] else [next] } := by
  unfold become
  split
  · next h => simp [h]
  · rfl

namespace World

variable {w : World} {i : Nat} {s : Session} {d : Loopback}

/-! ### One step -/

theorem setSession_same (hs : w.session? i = some s) : w.setSession i s = w := by
  obtain ⟨hi, hs⟩ := List.getElem?_eq_some_iff.1 (session?_eq.1 hs).1
  rw [setSession, ← hs, List.set_getElem_self]

section

variable (hs : w.session? i = some s) (hd : w.channels[s.channel]? = some (.loopback d))
  (hc : d.connected = true)
include hs hd hc

/-- A connected driver takes what it is sent, but for monitors whose id came before. -/
theorem step_notify_connected : w.step (.notify (α := α) i) =
    (.done, w.setDriver s.channel (d.become s.registry.oncePerId.toRecords)) := by
  simp only [step, onSession_live hs, trying, answering, notify, call, World.channel_eq hd,
    Channel.push, Loopback.push, Loopback.handle, hc, if_true, Loopback.obey,
    Registry.firstOfEachId_toRecords]
  rfl

theorem step_reload_connected : w.step (.reload (α := α) i) =
    (.done, w.setSession i { s with registry := .ofRecords d.live }) := by
  have hcall : call s.channel Channel.pull w = (.ok d.live, w) := by
    simp only [call, World.channel_eq hd, Channel.pull, Loopback.pull, hc, if_true]
    exact congrArg _ (setDriver_same hd)
  simp only [step, onSession_live hs, trying, answering, reload, hcall]
  rfl

/-! ### There and back -/

theorem step_notify_reload : (w.step (.notify (α := α) i)).2.step (.reload (α := α) i) =
    (.done, (w.setDriver s.channel (d.become s.registry.oncePerId.toRecords)).setSession i
      { s with registry := s.registry.oncePerId }) := by
  have hs' : (w.setDriver s.channel (d.become s.registry.oncePerId.toRecords)).session? i = some s := hs
  have hd' := getElem?_setDriver hd (d.become s.registry.oncePerId.toRecords)
  have hc' : (d.become s.registry.oncePerId.toRecords).connected = true := by
    rw [Loopback.become_eq, hc]
  rw [step_notify_connected hs hd hc, step_reload_connected hs' hd' hc', Loopback.become_live,
    Registry.ofRecords_toRecords]

theorem step_reload_notify : (w.step (.reload (α := α) i)).2.step (.notify (α := α) i) =
    (.done, (w.setSession i { s with registry := .ofRecords d.live }).setDriver s.channel
      (d.become (Registry.ofRecords d.live).oncePerId.toRecords)) := by
  have hs' : (w.setSession i { s with registry := .ofRecords d.live }).session? i =
      some { s with registry := .ofRecords d.live } := (session?_edit hs).2 (Or.inr ⟨rfl, rfl⟩)
  rw [step_reload_connected hs hd hc, step_notify_connected hs' hd hc]

theorem run_notify_reload : w.run [Step.notify (α := α) i, .reload i] =
    (w.setDriver s.channel (d.become s.registry.oncePerId.toRecords)).setSession i
      { s with registry := s.registry.oncePerId } :=
  congrArg Prod.snd (step_notify_reload hs hd hc)

theorem run_reload_notify : w.run [Step.reload (α := α) i, .notify i] =
    (w.setSession i { s with registry := .ofRecords d.live }).setDriver s.channel
      (d.become (Registry.ofRecords d.live).oncePerId.toRecords) :=
  congrArg Prod.snd (step_reload_notify hs hd hc)

/-- A registry that its driver has taken as it is comes back as it is. -/
theorem run_notify_reload_same (hids : s.registry.oncePerId = s.registry)
    (hlive : d.live = s.registry.toRecords) : w.run [Step.notify (α := α) i, .reload i] = w := by
  rw [run_notify_reload hs hd hc, hids, ← hlive, Loopback.become, if_pos rfl, setDriver_same hd]
  exact setSession_same hs

/-- A live state that makes its way through a registry is what it was. -/
theorem run_reload_notify_same (hregistry : s.registry = .ofRecords d.live)
    (hlive : s.registry.oncePerId.toRecords = d.live) :
    w.run [Step.reload (α := α) i, .notify i] = w := by
  rw [run_reload_notify hs hd hc, ← hregistry, hlive, Loopback.become, if_pos rfl, setSession_same hs]
  exact setDriver_same hd

theorem run_notify_reload_again :
    (w.run [Step.notify (α := α) i, .reload i]).run [Step.notify (α := α) i, .reload i] =
      w.run [Step.notify (α := α) i, .reload i] := by
  rw [run_notify_reload hs hd hc]
  refine run_notify_reload_same (s := { s with registry := s.registry.oncePerId })
    ((session?_edit ?_).2 (Or.inr ⟨rfl, rfl⟩)) (getElem?_setDriver hd _) ?_
    s.registry.oncePerId_oncePerId (Loopback.become_live _ d)
  · exact hs
  · rw [Loopback.become_eq, hc]

theorem run_reload_notify_again (hlive : d.live.Distinct) :
    (w.run [Step.reload (α := α) i, .notify i]).run [Step.reload (α := α) i, .notify i] =
      w.run [Step.reload (α := α) i, .notify i] := by
  rw [run_reload_notify hs hd hc]
  refine run_reload_notify_same (s := { s with registry := .ofRecords d.live })
    ((session?_edit hs).2 (Or.inr ⟨rfl, rfl⟩)) (getElem?_setDriver hd _) ?_ ?_ ?_
  · rw [Loopback.become_eq, hc]
  · rw [Loopback.become_live, Registry.oncePerId_ofRecords hlive, Registry.ofRecords_toRecords]
  · exact (Loopback.become_live _ d).symm

end

/-- What a live state becomes on its way through a registry and back. -/
theorem become_ofRecords (hlive : d.live.Distinct) :
    d.become (Registry.ofRecords d.live).oncePerId.toRecords =
      { d with
        live := d.live.coalesced
        events := d.events ++ if d.live.RepeatsRate then [d.live.coalesced] else [] } := by
  rw [Registry.oncePerId_ofRecords hlive, Registry.toRecords_ofRecords, Loopback.become_eq]
  by_cases h : d.live.RepeatsRate
  · rw [if_neg fun he => DriverState.coalesced_eq_self.1 he h, if_pos h]
  · rw [if_pos (DriverState.coalesced_eq_self.2 h), if_neg h]

/-- A session sends its registry to its driver and fetches it again, or the other way round, and nobody
else does anything. A registry that has been sent and fetched is without the monitors whose id came
before. A live state that has been fetched and sent is without the rates that came before in their
mode, and there is an event of it if there were such rates. A second time, neither changes anything. -/
theorem exchanges_normalise (hw : w.Reached) (hs : w.session? i = some s)
    (hd : w.channels[s.channel]? = some (.loopback d)) (hc : d.connected = true) :
    ((w.step (.notify (α := α) i)).1 = .done ∧
      ((w.step (.notify (α := α) i)).2.step (.reload (α := α) i)).1 = .done ∧
      (w.run [Step.notify (α := α) i, .reload i]).session? i =
        some { s with registry := ⟨firsts (·.id) s.registry.monitors⟩ } ∧
      (⟨firsts (·.id) s.registry.monitors⟩ = s.registry ↔ s.registry.ids.Nodup) ∧
      (w.run [Step.notify (α := α) i, .reload i]).run [Step.notify (α := α) i, .reload i] =
        w.run [Step.notify (α := α) i, .reload i]) ∧
    (w.step (.reload (α := α) i)).1 = .done ∧
      ((w.step (.reload (α := α) i)).2.step (.notify (α := α) i)).1 = .done ∧
      (w.run [Step.reload (α := α) i, .notify i]).channels[s.channel]? = some (.loopback
        { d with
          live := d.live.coalesced
          events := d.events ++ if d.live.RepeatsRate then [d.live.coalesced] else [] }) ∧
      (w.run [Step.reload (α := α) i, .notify i]).run [Step.reload (α := α) i, .notify i] =
        w.run [Step.reload (α := α) i, .notify i] := by
  have hlive : d.live.Distinct := driver_eq hd ▸
    (hw.distinct.driver s.channel (List.getElem?_eq_some_iff.1 hd).1).live
  refine ⟨⟨?_, ?_, ?_, ?_, ?_⟩, ?_, ?_, ?_, ?_⟩
  · rw [step_notify_connected hs hd hc]
  · rw [step_notify_reload hs hd hc]
  · rw [run_notify_reload hs hd hc]
    exact (session?_edit (w := w.setDriver _ _) hs).2 (Or.inr ⟨rfl, rfl⟩)
  · exact Registry.oncePerId_eq_self
  · exact run_notify_reload_again hs hd hc
  · rw [step_reload_connected hs hd hc]
  · rw [step_reload_notify hs hd hc]
  · rw [run_reload_notify hs hd hc, become_ofRecords hlive]
    exact getElem?_setDriver hd _
  · exact run_reload_notify_again hs hd hc hlive

/-- A registry in which an id repeats, next to a driver state in which a rate repeats. -/
theorem exchanges_normalise_of_repeats :
    let state : DriverState := [{ id := 2, modes := [{ width := 1, height := 1, rates := [60, 60] }] }]
    let coalesced : DriverState := [{ id := 2, modes := [{ width := 1, height := 1, rates := [60] }] }]
    let r : Registry := ⟨[{ id := 1 }, { id := 1, enabled := false }]⟩
    let w := (({ channels := [] } : World).enter (.ofState state)).run
      [Step.connect (α := Unit) {}, .edit 0 fun _ => ((), r)]
    (w.run [Step.notify (α := Unit) 0, .reload 0]).session? 0 = some
      { channel := 0, registry := ⟨[{ id := 1 }]⟩, cache := { initial := state, source := 0 } } ∧
    (w.run [Step.reload (α := Unit) 0, .notify 0]).channels[0]? = some (.loopback
      { live := coalesced, events := [coalesced] }) := by
  intro state coalesced r w
  have hw : w.Reached :=
    (Reached.enter (.state state) (.start {}) rfl).run (List.cons_ne_nil _ _) _
  have hs : w.session? 0 =
      some { channel := 0, registry := r, cache := { initial := state, source := 0 } } := rfl
  obtain ⟨⟨-, -, hsent, -⟩, -, -, hfetched, -⟩ :=
    exchanges_normalise (α := Unit) hw hs (d := { live := state }) rfl rfl
  exact ⟨hsent, hfetched⟩

/-- A registry is sent to a connected driver. The driver keeps the monitors that come first with their
ids and drops all others. The ids that lose a monitor are those that are reported, each once, and
one that is in use so many times loses all but the first. -/
theorem dropped_are_reported (hs : w.session? i = some s)
    (hd : w.channels[s.channel]? = some (.loopback d)) (hc : d.connected = true) :
    (w.step (.notify (α := α) i)).1 = .done ∧
    ∃ d', (w.step (.notify (α := α) i)).2.channels[s.channel]? = some (.loopback d') ∧
      (d'.live = s.registry.toRecords ↔ ∀ id, .duplicateMonitor id ∉ s.registry.issues) ∧
      d'.live = firsts (·.id) s.registry.toRecords ∧
      ∀ id, d'.live.filter (·.id = id) = (s.registry.toRecords.filter (·.id = id)).take 1 ∧
        (d'.live.map (·.id)).count id =
          s.registry.ids.count id - (s.registry.ids.count id - 1) ∧
        s.registry.issues.count (.duplicateMonitor id) =
          if (d'.live.map (·.id)).count id < s.registry.ids.count id then 1 else 0 := by
  have hlive : (d.become s.registry.oncePerId.toRecords).live =
      firsts (·.id) s.registry.toRecords := by
    rw [Loopback.become_live, ← Registry.firstOfEachId_toRecords, firstOfEachId_eq]
  have hcount : ∀ id, ((firsts (·.id) s.registry.toRecords).map (·.id)).count id =
      min 1 (s.registry.ids.count id) := by
    intro id
    rw [count_firsts, Registry.ids_toRecords]
  rw [step_notify_connected hs hd hc]
  refine ⟨rfl, _, getElem?_setDriver hd _, ?_, hlive, fun id => ⟨?_, ?_, ?_⟩⟩
  · rw [hlive, firsts_eq_self, Registry.ids_toRecords, Registry.nodup_ids_iff]
  · rw [hlive, filter_firsts]
  · rw [hlive, hcount]
    omega
  · rw [hlive, hcount, Registry.count_duplicateMonitor_issues]
    split <;> split <;> omega

/-- Two of three monitors share an id. -/
theorem dropped_are_reported_of_three :
    let r : Registry := ⟨[{ id := 1 }, { id := 2 }, { id := 1, enabled := false }]⟩
    let w : World := { channels := [.loopback {}], sessions :=
      [{ channel := 0, registry := r, cache := { initial := [], source := 0 } }] }
    r.issues.count (.duplicateMonitor 1) = 1 ∧
      ∃ d, (w.step (.notify (α := Unit) 0)).2.channels[0]? = some (.loopback d) ∧
        d.live = [{ id := 1 }, { id := 2 }] := by
  intro r w
  have hs : w.session? 0 =
      some { channel := 0, registry := r, cache := { initial := [], source := 0 } } := rfl
  obtain ⟨-, d, hd, -, hlive, hids⟩ := dropped_are_reported (α := Unit) hs (d := {}) rfl rfl
  obtain ⟨-, -, hissues⟩ := hids 1
  refine ⟨?_, d, hd, hlive⟩
  rw [hissues, hlive]
  rfl

end World
end VirtualDisplay
