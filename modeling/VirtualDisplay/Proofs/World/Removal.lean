import VirtualDisplay.Proofs.World.Exchange

/-! Monitors that are taken out of a registry before it is sent, or out of the driver after. The driver
ends with the same live state, since both take out all monitors of an id, the repeated ones too. -/

namespace VirtualDisplay

variable {α : Type}

namespace Registry

theorem toRecords_remove (ids : List Id) (r : Registry) :
    (remove ids r).2.toRecords = r.toRecords.filter fun m => !ids.contains m.id := by
  rw [toRecords, toRecords, List.filter_map]
  rfl

theorem oncePerId_remove (ids : List Id) (r : Registry) :
    (remove ids r).2.oncePerId = (remove ids r.oncePerId).2 :=
  congrArg mk (firsts_filter (·.id) (fun id => !ids.contains id) r.monitors)

end Registry

theorem Loopback.handle_connected {d : Loopback} (hc : d.connected = true) (c : DriverCommand) :
    handle (.driver c) d = (.ok none, d.obey c) := by
  simp [handle, hc]

namespace World

variable {w : World} {i : Nat} {s : Session} {d : Loopback}

theorem step_edit (hs : w.session? i = some s) (e : Edit Registry α) : w.step (.edit i e) =
    (.edited (e s.registry).1, w.setSession i { s with registry := (e s.registry).2 }) :=
  onSession_live hs _

/-- A session edits its registry and sends it, and the driver is left with the live state that it has
once it has been sent the registry as it was and has then been given a command. All succeed. -/
def SendsAs (w : World) (i c : Nat) (e : Edit Registry α) (command : DriverCommand) : Prop :=
  ((w.step (.edit i e)).2.step (.notify (α := α) i)).1 = .done ∧
  (w.step (.notify (α := α) i)).1 = .done ∧
  ∃ edited sent, (w.run [.edit i e, .notify i]).channels[c]? = some (.loopback edited) ∧
    (w.run [Step.notify (α := α) i]).channels[c]? = some (.loopback sent) ∧
    (Loopback.handle (.driver command) sent).1 = .ok none ∧
    edited.live = (Loopback.handle (.driver command) sent).2.live

/-- An edit that takes out all monitors of some ids is as good as the command that does. -/
theorem sendsAs_remove (hs : w.session? i = some s) (hd : w.channels[s.channel]? = some (.loopback d))
    (hc : d.connected = true) {e : Edit Registry α} {ids : List Id}
    (he : (e s.registry).2 = (Registry.remove ids s.registry).2) :
    w.SendsAs i s.channel e (.remove ids) := by
  have hs' : (w.setSession i { s with registry := (e s.registry).2 }).session? i =
      some { s with registry := (e s.registry).2 } := (session?_edit hs).2 (Or.inr ⟨rfl, rfl⟩)
  have hsent := step_notify_connected (α := α) hs hd hc
  have hedited := step_notify_connected (α := α) hs' hd hc
  have hconnected : (d.become s.registry.oncePerId.toRecords).connected = true := by
    rw [Loopback.become_eq, hc]
  have hhandle := Loopback.handle_connected hconnected (.remove ids)
  refine ⟨?_, ?_, d.become (e s.registry).2.oncePerId.toRecords,
    d.become s.registry.oncePerId.toRecords, ?_, ?_, congrArg Prod.fst hhandle, ?_⟩
  · rw [step_edit hs, hedited]
  · rw [hsent]
  · rw [run_cons, run_cons, step_edit hs, hedited]
    exact getElem?_setDriver hd _
  · rw [run_cons, hsent]
    exact getElem?_setDriver hd _
  · calc (d.become (e s.registry).2.oncePerId.toRecords).live
        = (e s.registry).2.oncePerId.toRecords := Loopback.become_live _ d
      _ = s.registry.oncePerId.toRecords.filter fun m => !ids.contains m.id := by
          rw [he, Registry.oncePerId_remove, Registry.toRecords_remove]
      _ = (Loopback.handle (.driver (.remove ids)) (d.become s.registry.oncePerId.toRecords)).2.live := by
          rw [hhandle, Loopback.obey, Loopback.become_live, Loopback.become_live]

/-- Monitors may be taken out by id before a registry is sent to a connected driver or afterwards, and
so may those that queries name: the driver is then to take out the ids of what they found. -/
theorem removals_commute (hs : w.session? i = some s)
    (hd : w.channels[s.channel]? = some (.loopback d)) (hc : d.connected = true) :
    (∀ ids, w.SendsAs i s.channel (Registry.remove ids) (.remove ids)) ∧
    ∀ queries, w.SendsAs i s.channel (Registry.removeQuery queries)
      (.remove (queries.filterMap s.registry.findId?)) :=
  ⟨fun _ => sendsAs_remove hs hd hc rfl, fun _ => sendsAs_remove hs hd hc rfl⟩

/-- Two of three monitors share an id, and the one that comes later has the name that is asked for. -/
theorem removals_commute_of_three :
    let r : Registry := ⟨[{ id := 1 }, { id := 2 }, { id := 1, name := some "a" }]⟩
    let w : World := { channels := [.loopback {}], sessions :=
      [{ channel := 0, registry := r, cache := { initial := [], source := 0 } }] }
    let sent : Loopback := { live := [{ id := 1 }, { id := 2 }], events := [[{ id := 1 }, { id := 2 }]] }
    (w.run [Step.notify (α := Nat) 0]).channels[0]? = some (.loopback sent) ∧
    ∃ d, (w.run [Step.edit 0 (Registry.removeQuery ["a"]), .notify 0]).channels[0]? =
        some (.loopback d) ∧
      d.live = (Loopback.handle (.driver (.remove [1])) sent).2.live ∧ d.live = [{ id := 2 }] := by
  intro r w sent
  have hs : w.session? 0 =
      some { channel := 0, registry := r, cache := { initial := [], source := 0 } } := rfl
  have hsent : (w.run [Step.notify (α := Nat) 0]).channels[0]? = some (.loopback sent) := rfl
  have hnamed : ["a"].filterMap r.findId? = [1] := by decide +kernel
  obtain ⟨-, -, d, d', hd, hd', -, hlive⟩ := (removals_commute hs (d := {}) rfl rfl).2 ["a"]
  cases hsent.symm.trans hd'
  rw [hnamed] at hlive
  exact ⟨hsent, d, hd, hlive, hlive⟩

end World
end VirtualDisplay
