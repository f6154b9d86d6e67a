import VirtualDisplay.Proofs.World.Calls
import VirtualDisplay.Proofs.World.Runs

/-! A session that connects while another client gives commands. What is broadcast between its two
calls, the fetch of the driver state and the subscription, is in neither, so its cache may be out of
date until the next event. -/

namespace VirtualDisplay

/-! ### Commands one after the other -/

namespace Loopback

variable {d d' d'' : Loopback} {es fs : List DriverState}

/-- Some events have been broadcast, and they lead from the one live state to the other. -/
structure Passes (d d' : Loopback) (es : List DriverState) : Prop where
  connected : d'.connected = d.connected
  capacity : d'.capacity = d.capacity
  events : d'.events = d.events ++ es
  live : d'.live = es.getLast?.getD d.live

theorem Passes.refl (d : Loopback) : d.Passes d [] := ⟨rfl, rfl, (List.append_nil _).symm, rfl⟩

theorem Passes.trans (h : d.Passes d' es) (h' : d'.Passes d'' fs) : d.Passes d'' (es ++ fs) := by
  refine ⟨h'.connected.trans h.connected, h'.capacity.trans h.capacity, ?_, ?_⟩
  · rw [h'.events, h.events, List.append_assoc]
  · rw [h'.live, h.live, List.getLast?_append]
    cases fs.getLast? <;> rfl

theorem connected_handle (c : ServerCommand) (d : Loopback) :
    (handle c d).2.connected = d.connected := by
  cases hc : d.connected with
  | false => rw [handle_disconnected hc, hc]
  | true => rcases c with c | ⟨⟩ <;> simp [handle, hc, obey_connected]

theorem passes_handle (c : ServerCommand) (d : Loopback) : ∃ es, d.Passes (handle c d).2 es := by
  have h := advances_handle c d
  refine ⟨_, connected_handle c d, h.capacity, h.events, ?_⟩
  split
  · next hlive => exact hlive
  · rfl

def handleAll (cs : List ServerCommand) (d : Loopback) : Loopback :=
  cs.foldl (fun d c => (handle c d).2) d

theorem passes_handleAll (cs : List ServerCommand) (d : Loopback) :
    ∃ es, d.Passes (d.handleAll cs) es := by
  induction cs generalizing d with
  | nil => exact ⟨[], .refl d⟩
  | cons c cs ih =>
    obtain ⟨es, hes⟩ := passes_handle c d
    obtain ⟨fs, hfs⟩ := ih (handle c d).2
    exact ⟨es ++ fs, hes.trans hfs⟩

end Loopback

namespace World

variable {w : World} {d : Loopback}

/-- Commands of another client to the current driver. -/
def commands (cs : List ServerCommand) : List (Step Unit) := cs.map .handle

theorem current_setDriver (w : World) (i : Nat) (d : Loopback) :
    (w.setDriver i d).current = w.current := by
  simp [setDriver, current]

theorem getElem?_setDriver_current (hd : w.channels[w.current]? = some (.loopback d))
    (d' : Loopback) : (w.setDriver w.current d').channels[(w.setDriver w.current d').current]? =
      some (.loopback d') := by
  rw [current_setDriver]
  exact getElem?_setDriver hd d'

theorem run_commands (hd : w.channels[w.current]? = some (.loopback d)) (cs : List ServerCommand) :
    w.run (commands cs) = w.setDriver w.current (d.handleAll cs) := by
  induction cs generalizing w d with
  | nil => exact (setDriver_same hd).symm
  | cons c cs ih =>
    have hstep : (w.step (.handle (α := Unit) c)).2 =
        w.setDriver w.current (Loopback.handle c d).2 := by
      simp only [step, onLoopback, channel_eq hd]
      rfl
    rw [commands, List.map_cons, run_cons, hstep, ← commands, ih (getElem?_setDriver_current hd _),
      current_setDriver, setDriver, setDriver, setDriver, List.set_set]
    rfl

/-! ### The two calls -/

/-- A session connects, and another client gives some commands between its two calls. -/
def connectAmid (between : List ServerCommand) : Edit World (Except ChannelError Nat) := fun w =>
  let i := w.current
  match call i Channel.pull w with
  | (.error e, w) => (.error e, w)
  | (.ok state, w) =>
    match subscribe i .cache true (w.run (commands between)) with
    | (.error e, w) => (.error e, w)
    | (.ok source, w) =>
      let r := addSession
        { channel := i, registry := .ofRecords state, cache := { initial := state, source } } w
      (.ok r.1, r.2)

/-- Without such commands it just connects. -/
theorem connectAmid_nil : connectAmid [] = connect {} := by
  funext w
  rfl

/-- A session that has fetched a state and now comes in, with a new subscription behind its cache. -/
def latecomer (state : DriverState) (w : World) : Session :=
  { channel := w.current, registry := .ofRecords state,
    cache := { initial := state, source := w.subscriptions.length } }

def enroll (state : DriverState) (w : World) : World :=
  { w.attach w.current .cache with sessions := w.sessions ++ [w.latecomer state] }

theorem connectAmid_eq (hw : w.Reached) (hd : w.channels[w.current]? = some (.loopback d))
    (hc : d.connected = true) (between : List ServerCommand) : connectAmid between w =
      (.ok w.sessions.length, (w.setDriver w.current (d.handleAll between)).enroll d.live) := by
  have hgrounded := hw.sound.grounded
  have hdriven := List.ne_nil_of_mem (List.mem_of_getElem? hd)
  have hpull : call w.current Channel.pull w = (.ok d.live, w) := by
    rw [hgrounded.call_pull, driver_eq hd]
    simp [Loopback.pull, hc]
  have hrun := run_commands hd between
  have hgrounded' : (w.setDriver w.current (d.handleAll between)).Grounded :=
    hrun ▸ (hw.run hdriven (commands between)).sound.grounded
  have hconnected : (d.handleAll between).connected = true := by
    obtain ⟨es, hes⟩ := Loopback.passes_handleAll between d
    rw [hes.connected, hc]
  have hsubscribe : subscribe w.current .cache true (w.setDriver w.current (d.handleAll between)) =
      (.ok w.subscriptions.length,
        (w.setDriver w.current (d.handleAll between)).attach w.current .cache) := by
    rw [hgrounded'.subscribe_eq, driver_eq (getElem?_setDriver hd _), hconnected]
    rfl
  simp only [connectAmid, hpull, hrun, hsubscribe, enroll, latecomer, current_setDriver]
  rfl

/-! ### What comes into the cache -/

theorem updates_settle {c : Cache} {f : Subscription} (hf : w.subscriptions[c.source]? = some f)
    (hcancelled : f.cancelled = false) (hended : f.ended = false)
    (hd : w.channels[f.channel]? = some (.loopback d)) :
    w.settle.updates c = f.handed ++ newest d.capacity (d.events.drop f.cursor) := by
  rw [updates, subscriptions_settle, List.getElem?_map, hf]
  simp [settled, channel_eq hd, hended, Subscription.run_of_live hcancelled]

/-- The cache has the last event that comes after the subscription, or else the state fetched. -/
theorem cached_enroll {es : List DriverState} (hd : w.channels[w.current]? = some (.loopback d))
    (hcapacity : 0 < d.capacity) {after : List ServerCommand} (hes : d.Passes (d.handleAll after) es)
    (state : DriverState) :
    let final := ((w.enroll state).run (commands after)).settle
    ∃ s, final.session? w.sessions.length = some s ∧
      final.channels[w.current]? = some (.loopback (d.handleAll after)) ∧
      final.cached s.cache = es.getLast?.getD state := by
  intro final
  let last := (w.enroll state).setDriver w.current (d.handleAll after)
  have hfinal : final = last.settle :=
    congrArg settle (run_commands (w := w.enroll state) hd after)
  have hlast : last.channels[w.current]? = some (.loopback (d.handleAll after)) :=
    getElem?_setDriver (w := w.enroll state) hd _
  have hs : last.session? w.sessions.length = some (w.latecomer state) := by
    simp [last, session?, enroll, setDriver, latecomer]
  have hf : last.subscriptions[w.subscriptions.length]? = some (w.opening w.current .cache) := by
    simp [last, enroll, attach, setDriver]
  rw [hfinal]
  refine ⟨(w.latecomer state).takeOver (last.due w.sessions.length), ?_, hlast, ?_⟩
  · rw [session?_settle, hs, Option.map_some]
  · rw [takeOver_frame, cached, updates_settle hf rfl rfl hlast, opening, driver_eq hd,
      List.nil_append, hes.events, List.drop_left, hes.capacity, getLast?_newest hcapacity]
    rfl

/-- Once another client has given more commands and all events have come in, the session has the live
state in its cache just if the first commands have left that as it was or a later one has changed it. -/
theorem connectAmid_cached (hw : w.Reached) (hd : w.channels[w.current]? = some (.loopback d))
    (hc : d.connected = true) (between after : List ServerCommand) :
    ∃ n s d₁ d₂, (connectAmid between w).1 = .ok n ∧
      (connectAmid between w).2.channels[w.current]? = some (.loopback d₁) ∧
      let final := ((connectAmid between w).2.run (commands after)).settle
      final.session? n = some s ∧ final.channels[w.current]? = some (.loopback d₂) ∧
      (final.cached s.cache = d₂.live ↔ d₁.live = d.live ∨ d₂.events ≠ d₁.events) := by
  have hregular := hw.sound.regular _ (List.getElem?_eq_some_iff.1 hd).1
  rw [driver_eq hd] at hregular
  obtain ⟨es, hes⟩ := Loopback.passes_handleAll between d
  obtain ⟨fs, hfs⟩ := Loopback.passes_handleAll after (d.handleAll between)
  have hd' := getElem?_setDriver hd (d.handleAll between)
  obtain ⟨s, hs, hlast, hcached⟩ := cached_enroll (getElem?_setDriver_current hd (d.handleAll between))
    (hes.capacity ▸ hregular.capacity) hfs d.live
  rw [current_setDriver] at hlast
  rw [connectAmid_eq hw hd hc]
  refine ⟨w.sessions.length, s, _, _, rfl, hd', hs, hlast, ?_⟩
  rw [hcached, hfs.live, hfs.events]
  rcases List.eq_nil_or_concat fs with rfl | ⟨fs, state, rfl⟩
  · simp [eq_comm]
  · simp

/-- Another client sets up the first monitor while a session connects. The session has it in its cache
once it is sent again with a name, and not before. -/
theorem connectAmid_cached_first_monitor :
    let w : World := { channels := [.loopback {}] }
    let joined := (connectAmid [.driver (.notify [{ id := 1 }])] w).2
    let final := (joined.run (commands [.driver (.notify [{ id := 1, name := some "a" }])])).settle
    ∃ s d, final.session? 0 = some s ∧ final.channels[0]? = some (.loopback d) ∧
      final.cached s.cache = d.live := by
  intro w joined final
  have hw : w.Reached := .enter (w := { channels := [] }) .new (.start {}) rfl
  obtain ⟨n, s, d₁, d₂, hn, hd₁, hs, hd₂, hcached⟩ := connectAmid_cached hw rfl rfl
    [.driver (.notify [{ id := 1 }])] [.driver (.notify [{ id := 1, name := some "a" }])]
  cases hn
  refine ⟨s, d₂, hs, hd₂, hcached.2 (Or.inr ?_)⟩
  cases hd₁
  cases hd₂
  decide

/-- When the session connects, and nothing comes after, the monitor is in the driver and not in the
cache. -/
theorem connectAmid_misses_first_monitor :
    let w : World := { channels := [.loopback {}] }
    let final := (connectAmid [.driver (.notify [{ id := 1 }])] w).2.settle
    w.Reached ∧ (connectAmid [.driver (.notify [{ id := 1 }])] w).1 = .ok 0 ∧
    ∃ s d, final.session? 0 = some s ∧ final.channels[0]? = some (.loopback d) ∧
      final.cached s.cache = [] ∧ d.live = [{ id := 1 }] := by
  refine ⟨.enter (w := { channels := [] }) .new (.start {}) rfl, rfl, _, _, rfl, rfl, ?_, rfl⟩
  decide +kernel

end World
end VirtualDisplay
