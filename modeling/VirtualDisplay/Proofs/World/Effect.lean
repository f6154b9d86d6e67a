import VirtualDisplay.Proofs.Channel.Loopback
import VirtualDisplay.World.Step

/-! What a step can do to a world of loopback drivers, once for all steps but `settle`. Every later
file that follows a run splits on the cases of `Effect`, and none of them opens a step again. -/

namespace VirtualDisplay

variable {α β : Type}

/-- Whether a step has done what it is for. -/
def Outcome.succeeded : Outcome α → Bool
  | failed _ | unreadable _ | unknown => false
  | _ => true

namespace World

/-! ### Changes that steps are made of -/

/-- The loopback driver behind a channel. -/
def driver (w : World) (i : Nat) : Loopback :=
  match w.channel i with
  | .loopback d => d
  | .scripted _ => {}

def setDriver (i : Nat) (d : Loopback) (w : World) : World :=
  { w with channels := w.channels.set i (.loopback d) }

/-- A driver takes the place of the current one. -/
def enter (d : Loopback) (w : World) : World := { w with channels := w.channels ++ [.loopback d] }

/-- The subscription that the driver of a channel grants. It starts at the end of the events. -/
def opening (w : World) (i : Nat) (target : Target) : Subscription :=
  { channel := i, target, cursor := (w.driver i).events.length }

def attach (i : Nat) (target : Target) (w : World) : World :=
  { w with subscriptions := w.subscriptions ++ [w.opening i target] }

/-- A session that connects, with the next subscription behind its cache. -/
def newcomer (w : World) : Session :=
  let state := (w.driver w.current).live
  { channel := w.current, registry := .ofRecords state,
    cache := { initial := state, source := w.subscriptions.length } }

def welcome (w : World) : World :=
  { w.attach w.current .cache with sessions := w.sessions ++ [w.newcomer] }

/-- A session starts to follow its driver. -/
def tie (i : Nat) (s : Session) (w : World) : World :=
  (w.attach s.channel (.registry i)).setSession i { s with following := some w.subscriptions.length }

/-- What a step may answer, and what it may make of a world. -/
inductive Effect (w : World) : Step α → Outcome α → World → Prop
  /-- Nothing that sessions, subscriptions or drivers know of. -/
  | aside {x o} (files) (watchers) : Effect w x o { w with files, watchers }
  /-- A driver that is still held obeys a command. One that has failed leaves the live state alone. -/
  | drive {x o} {i : Nat} {d : Loopback} (files) (bound : i < w.channels.length)
      (held : w.held i = true) (advances : (w.driver i).Advances d)
      (failed : o.succeeded = false → d.live = (w.driver i).live) :
      Effect w x o { w.setDriver i d with files }
  | enter {x o} {c : DriverConfig} {d : Loopback} (built : Loopback.ofConfig c w.files = .ok d) :
      Effect w x o (w.enter d)
  | attach {x o} {i : Nat} (bound : i < w.channels.length) : Effect w x o (w.attach i .record)
  | release {o} (k : Nat) : Effect w (.cancel k) o (w.release k)
  | welcome {x o} : Effect w x o w.welcome
  | welcomeTied {x o} : Effect w x o (w.welcome.tie w.sessions.length w.newcomer)
  | edit {x o} {i : Nat} {s : Session} (live : w.session? i = some s) (registry : Registry) :
      Effect w x o (w.setSession i { s with registry })
  | tie {x o} {i : Nat} {s : Session} (live : w.session? i = some s) (loose : s.following = none) :
      Effect w x o (w.tie i s)
  | unfollow {o} {i : Nat} {s : Session} (live : w.session? i = some s) :
      Effect w (.unfollow i) o (w.unfollow i s)
  | duplicate {x o} {i : Nat} {s : Session} (live : w.session? i = some s) :
      Effect w x o { w with sessions := w.sessions ++ [{ s with following := none }] }
  | drop {o} {i : Nat} {s : Session} (live : w.session? i = some s) :
      Effect w (.drop i) o (w.dropSession i s)

/-- An edit has an effect that the step may have. -/
def Performs (w : World) (x : Step α) (e : Edit World (Outcome α)) : Prop :=
  w.Effect x (e w).1 (e w).2

/-- All channels are loopback drivers, and those of sessions exist. -/
structure Grounded (w : World) : Prop where
  loopback : ∀ c ∈ w.channels, ∃ d, c = .loopback d
  session : ∀ i s, w.session? i = some s → s.channel < w.channels.length

/-! ### Drivers -/

variable {w : World} {i : Nat} {d : Loopback}

theorem current_lt (hc : w.channels ≠ []) : w.current < w.channels.length := by
  have h := List.length_pos_iff.2 hc
  unfold current
  omega

theorem held_current (w : World) : w.held w.current = true := by
  simp [held]

theorem session?_eq {s : Session} :
    w.session? i = some s ↔ w.sessions[i]? = some s ∧ s.dropped = false := by
  simp [session?, Option.filter_eq_some_iff]

theorem held_session {s : Session} (h : w.session? i = some s) : w.held s.channel = true := by
  obtain ⟨hs, hd⟩ := session?_eq.1 h
  have hm := List.mem_of_getElem? hs
  simp only [held, Bool.or_eq_true, decide_eq_true_eq, List.any_eq_true]
  exact Or.inr ⟨s, hm, by simp [hd]⟩

theorem driver_eq (h : w.channels[i]? = some (.loopback d)) : w.driver i = d := by
  simp [driver, channel, List.getD_eq_getElem?_getD, h]

theorem driver_setDriver (h : i < w.channels.length) (d : Loopback) (j : Nat) :
    (w.setDriver i d).driver j = if j = i then d else w.driver j := by
  by_cases hj : j = i
  · subst hj
    simp [driver, channel, setDriver, List.getD_eq_getElem?_getD, h]
  · simp [driver, channel, setDriver, List.getD_eq_getElem?_getD,
      List.getElem?_set_ne (Ne.symm hj), hj]

theorem setDriver_same (hd : w.channels[i]? = some (.loopback d)) : w.setDriver i d = w := by
  obtain ⟨hi, hd⟩ := List.getElem?_eq_some_iff.1 hd
  rw [setDriver, ← hd, List.set_getElem_self]

theorem getElem?_setDriver (hd : w.channels[i]? = some (.loopback d)) (d' : Loopback) :
    (w.setDriver i d').channels[i]? = some (.loopback d') := by
  rw [setDriver, List.getElem?_set_self (List.getElem?_eq_some_iff.1 hd).1]

theorem driver_enter_of_lt (h : i < w.channels.length) (d : Loopback) :
    (w.enter d).driver i = w.driver i := by
  simp [driver, channel, enter, List.getD_eq_getElem?_getD, List.getElem?_append_left h]

theorem driver_enter_self (w : World) (d : Loopback) :
    (w.enter d).driver w.channels.length = d := by
  simp [driver, channel, enter, List.getD_eq_getElem?_getD]

namespace Grounded

variable (hw : w.Grounded)
include hw

theorem channel_eq (i : Nat) : w.channel i = .loopback (w.driver i) := by
  unfold driver
  cases hc : w.channel i with
  | loopback d => rfl
  | scripted s =>
    unfold channel at hc
    rw [List.getD_eq_getElem?_getD] at hc
    cases hg : w.channels[i]? with
    | none => simp [hg] at hc
    | some c =>
      obtain ⟨d, rfl⟩ := hw.loopback c (List.mem_of_getElem? hg)
      simp [hg] at hc

theorem getElem?_channels (h : i < w.channels.length) :
    w.channels[i]? = some (.loopback (w.driver i)) := by
  have hc := hw.channel_eq i
  unfold channel at hc
  rw [List.getD_eq_getElem?_getD, List.getElem?_eq_getElem h] at hc
  rw [List.getElem?_eq_getElem h, ← hc]
  rfl

theorem setDriver_self (i : Nat) : w.setDriver i (w.driver i) = w := by
  have h : w.channels.set i (.loopback (w.driver i)) = w.channels := by
    by_cases hi : i < w.channels.length
    · apply List.ext_getElem?
      intro j
      rw [List.getElem?_set]
      split
      · rename_i hj
        subst hj
        rw [hw.getElem?_channels hi]
      · rfl
    · exact List.set_eq_of_length_le (by omega)
  rw [setDriver, h]

/-! ### Calls -/

theorem call_pull (i : Nat) : call i Channel.pull w = ((w.driver i).pull, w) := by
  simp only [call, hw.channel_eq, Channel.pull]
  exact congrArg _ (hw.setDriver_self i)

theorem call_push (i : Nat) (state : DriverState) :
    call i (Channel.push state) w = ((Loopback.push state (w.driver i)).1,
      w.setDriver i (Loopback.push state (w.driver i)).2) := by
  simp only [call, hw.channel_eq, Channel.push]
  rfl

theorem commit_eq (i : Nat) :
    World.commit i w = ((Loopback.commit (w.driver i, w.files)).1,
      { w.setDriver i (Loopback.commit (w.driver i, w.files)).2.1 with
        files := (Loopback.commit (w.driver i, w.files)).2.2 }) := by
  simp only [World.commit, hw.channel_eq, Channel.commit]
  rfl

/-- A loopback driver grants every subscription, unless it is disconnected or there is no runtime. -/
theorem subscribe_eq (i : Nat) (target : Target) (runtime : Bool) :
    subscribe i target runtime w =
      if !(w.driver i).connected then (.error Loopback.disconnected, w)
      else if runtime then (.ok w.subscriptions.length, w.attach i target)
      else (.error .noRuntime, w) := by
  have hset : { w with channels := w.channels.set i (.loopback (w.driver i)) } = w :=
    hw.setDriver_self i
  cases hd : (w.driver i).connected <;> cases runtime <;>
    simp [subscribe, call, hw.channel_eq, Channel.subscribe, Channel.broadcasts, attach,
      opening, hd, hset]

theorem onLoopback_eq (f : β → Outcome α) (e : Edit Loopback β) :
    onLoopback f e w = (f (e (w.driver w.current)).1,
      w.setDriver w.current (e (w.driver w.current)).2) := by
  simp only [onLoopback, hw.channel_eq]
  rfl

theorem onScripted_eq (e : Edit World (Outcome α)) : onScripted e w = (.unknown, w) := by
  simp only [onScripted, hw.channel_eq]

theorem connect_eq (config : SessionConfig) :
    connect config w =
      if !(w.driver w.current).connected then (.error Loopback.disconnected, w)
      else (.ok w.sessions.length, if config.followDriver
        then w.welcome.tie w.sessions.length w.newcomer else w.welcome) := by
  cases hd : (w.driver w.current).connected with
  | false => simp [connect, hw.call_pull, Loopback.pull, hd]
  | true =>
    have hpull : (w.driver w.current).pull = .ok (w.driver w.current).live := by
      simp [Loopback.pull, hd]
    have hsource : subscribe w.current .cache true w =
        (.ok w.subscriptions.length, w.attach w.current .cache) := by
      simp [hw.subscribe_eq, hd]
    cases hf : config.followDriver with
    | false =>
      simp only [connect, hw.call_pull, hpull, hsource, hf]
      rfl
    | true =>
      -- the second subscription finds the driver as the first one did
      have ha : (w.attach w.current .cache).Grounded := ⟨hw.loopback, hw.session⟩
      have hfollow : subscribe w.current (.registry w.sessions.length) true
          (w.attach w.current .cache) = (.ok (w.attach w.current .cache).subscriptions.length,
            (w.attach w.current .cache).attach w.current (.registry w.sessions.length)) := by
        have hd' : ((w.attach w.current .cache).driver w.current).connected = true := hd
        simp [ha.subscribe_eq, hd']
      have hsessions : (w.attach w.current .cache).sessions = w.sessions := rfl
      simp only [connect, hw.call_pull, hpull, hsource, hf, hsessions, hfollow]
      simp [addSession, welcome, newcomer, tie, attach, opening, setSession, driver, channel]

end Grounded

/-! ### Steps -/

section

variable {r : Except ChannelError β} {f : β → Outcome α} {x : Step α}

theorem Effect.same (w : World) (o : Outcome α) : w.Effect x o w := .aside w.files w.watchers

/-- A call that has changed a driver answers through a reading that turns errors into failures. -/
theorem Effect.call (bound : i < w.channels.length) (held : w.held i = true)
    (advances : (w.driver i).Advances d) (hf : ∀ b, (f b).succeeded = true)
    (failed : ∀ e, r = .error e → d.live = (w.driver i).live) :
    w.Effect x (Outcome.ofExcept f r) (w.setDriver i d) := by
  apply Effect.drive w.files bound held advances
  intro ho
  cases r with
  | error e => exact failed e rfl
  | ok b => exact absurd (hf b) (by simpa [Outcome.ofExcept] using ho)

end

theorem onSession_live {s : Session} (live : w.session? i = some s)
    (f : Session → Edit World (Outcome α)) : onSession i f w = f s w := by
  simp [onSession, live]

namespace Grounded

variable (hw : w.Grounded) {x : Step α}
include hw

theorem effect_push (state : DriverState) (bound : i < w.channels.length) (held : w.held i = true) :
    w.Performs x (trying done (World.call i (Channel.push state))) := by
  simp only [Performs, trying, answering, hw.call_push]
  apply Effect.call bound held (Loopback.advances_push state _) (fun _ => rfl)
  intro e he
  rw [Loopback.push_error he]

theorem effect_commit (bound : i < w.channels.length) (held : w.held i = true) :
    w.Performs x (trying done (World.commit i)) := by
  simp only [Performs, trying, answering, hw.commit_eq]
  exact .drive _ bound held (Loopback.advances_commit _ _) fun _ => Loopback.commit_live _ _

theorem effect_subscribe (runtime : Bool) (bound : i < w.channels.length) :
    w.Performs x (trying .opened (World.subscribe i .record runtime)) := by
  simp only [Performs, trying, answering, hw.subscribe_eq]
  split
  · exact .same _ _
  · split
    · exact .attach bound
    · exact .same _ _

theorem effect_pull : w.Performs x (trying .state (World.call i Channel.pull)) := by
  simp only [Performs, trying, answering, hw.call_pull]
  exact .same _ _

omit hw in
/-- A step of a session needs to be looked at for a session that is there. -/
theorem effect_onSession {f : Session → Edit World (Outcome α)}
    (h : ∀ s, w.session? i = some s → w.Performs x (f s)) : w.Performs x (onSession i f) := by
  unfold Performs onSession
  split
  · exact .same _ _
  · rename_i s hs
    exact h s hs

/-- A session that is to follow takes a subscription, unless it has one or cannot get one. -/
theorem step_follow (i : Nat) (runtime : Bool) :
    (w.step (.follow i runtime : Step α)).2 = w ∨ ∃ s, w.session? i = some s ∧ s.following = none ∧
      w.step (.follow i runtime : Step α) = (.done, w.tie i s) := by
  cases live : w.session? i with
  | none => simp [step, onSession, live]
  | some s =>
    simp only [step, onSession_live live, trying, answering, World.follow]
    cases hf : s.following with
    | some k => exact Or.inl rfl
    | none =>
      simp only [Option.isSome_none, Bool.false_eq_true, if_false, hw.subscribe_eq]
      cases (w.driver s.channel).connected with
      | false => exact Or.inl rfl
      | true =>
        cases runtime with
        | false => exact Or.inl rfl
        | true => exact Or.inr ⟨s, rfl, hf, rfl⟩

theorem step_effect (hc : w.channels ≠ []) (x : Step α) (hx : x ≠ .settle) :
    w.Performs x (step x) := by
  have hcur := current_lt hc
  cases x with
  | settle => exact absurd rfl hx
  | touch change => exact .aside _ _
  | handle c =>
    simp only [Performs, step, hw.onLoopback_eq]
    apply Effect.call hcur w.held_current (Loopback.advances_handle c _) (fun _ => rfl)
    intro e he
    rw [Loopback.handle_error he]
  | push state => exact hw.effect_push state hcur w.held_current
  | pull => exact hw.effect_pull
  | commit => exact hw.effect_commit hcur w.held_current
  | restart =>
    simp only [Performs, step, hw.onLoopback_eq]
    apply Effect.call hcur w.held_current (Loopback.advances_restart _ _) (fun _ => rfl)
    intro e he
    rw [Loopback.restart_error he]
  | disconnect =>
    simp only [Performs, step, hw.onLoopback_eq]
    exact .drive w.files hcur w.held_current (.same rfl rfl rfl) fun _ => rfl
  | reconnect =>
    simp only [Performs, step, hw.onLoopback_eq]
    exact .drive w.files hcur w.held_current (.same rfl rfl rfl) fun _ => rfl
  | fire state =>
    simp only [Performs, step, hw.onScripted_eq]
    exact .same _ _
  | replaceDriver config =>
    simp only [Performs, step, World.replaceDriver]
    split
    · exact .same _ _
    · rename_i hd
      exact .enter hd
  | subscribe session runtime =>
    cases session with
    | none => exact hw.effect_subscribe runtime hcur
    | some i => exact effect_onSession fun s hs => hw.effect_subscribe runtime (hw.session i s hs)
  | cancel k => exact .release k
  | isActive k => exact .same _ _
  | connect config =>
    simp only [Performs, step, trying, answering, hw.connect_eq]
    split
    · exact .same _ _
    · split
      · exact .welcomeTied
      · exact .welcome
  | notify i =>
    exact effect_onSession fun s hs => hw.effect_push _ (hw.session i s hs) (held_session hs)
  | persist i =>
    exact effect_onSession fun s hs => hw.effect_commit (hw.session i s hs) (held_session hs)
  | reload i =>
    apply effect_onSession
    intro s hs
    simp only [Performs, trying, answering, World.reload, hw.call_pull]
    cases (w.driver s.channel).pull with
    | error e => exact .same _ _
    | ok state => exact .edit hs _
  | fetch i => exact effect_onSession fun s hs => hw.effect_pull
  | refresh i => exact effect_onSession fun s hs => .edit hs _
  | edit i e => exact effect_onSession fun s hs => .edit hs _
  | isValid i => exact effect_onSession fun s hs => .same _ _
  | describe i => exact effect_onSession fun s hs => .same _ _
  | follow i runtime =>
    rcases hw.step_follow (α := α) i runtime with h | ⟨s, live, loose, h⟩
    · rw [Performs, h]
      exact .same _ _
    · rw [Performs, h]
      exact .tie live loose
  | unfollow i => exact effect_onSession fun s hs => .unfollow hs
  | duplicate i => exact effect_onSession fun s hs => .duplicate hs
  | drop i => exact effect_onSession fun s hs => .drop hs
  | watch i => exact effect_onSession fun s hs => .aside _ _
  | poll i =>
    simp only [Performs, step]
    split
    · exact .same _ _
    · exact .aside _ _

end Grounded
end World
end VirtualDisplay
