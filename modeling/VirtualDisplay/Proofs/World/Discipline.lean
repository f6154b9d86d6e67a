import VirtualDisplay.Proofs.Channel.Script
import VirtualDisplay.Proofs.World.Calls

/-! Which calls steps make on a scripted channel. A step has a few calls to make on one channel, and makes
them in order. At the first that fails it stops and answers that call's error. -/

namespace VirtualDisplay

variable {α β : Type}

/-- The error of a call that an outcome hands on. -/
def Outcome.fault? : Outcome α → Option ChannelError
  | failed e => some e
  | _ => none

theorem Outcome.fault?_eq_some {o : Outcome α} {e : ChannelError} :
    o.fault? = some e ↔ o = .failed e := by
  cases o <;> simp [fault?]

theorem Outcome.fault?_of_succeeded {o : Outcome α} (h : o.succeeded = true) : o.fault? = none := by
  cases o <;> first | rfl | cases h

namespace World

/-- The calls of a session, if it has not been dropped, and the channel it makes them on. -/
def planned (w : World) (i : Nat) (f : Session → List Call) : Option (Nat × List Call) :=
  (w.session? i).map fun s => (s.channel, f s)

/-- The calls that a step makes if none of them fails, and the channel it makes them on. Steps that
concern no session and are no calls themselves have no channel. -/
def plan (w : World) : Step α → Option (Nat × List Call)
  | .push state => some (w.current, [.push state])
  | .pull => some (w.current, [.pull])
  | .commit => some (w.current, [.commit])
  | .subscribe none _ => some (w.current, [.subscribe])
  | .connect config =>
    some (w.current, .pull :: .subscribe :: if config.followDriver then [.subscribe] else [])
  | .notify i => w.planned i fun s => [.push s.registry.toRecords]
  | .persist i => w.planned i fun _ => [.commit]
  | .fetch i | .reload i => w.planned i fun _ => [.pull]
  | .follow i _ => w.planned i fun s => if s.following.isSome then [] else [.subscribe]
  | .subscribe (some i) _ => w.planned i fun _ => [.subscribe]
  | .edit i _ | .isValid i | .describe i | .refresh i | .unfollow i | .duplicate i | .drop i | .watch i =>
    w.planned i fun _ => []
  | .settle | .touch _ | .handle _ | .restart | .disconnect | .reconnect | .fire _ | .replaceDriver _
  | .cancel _ | .isActive _ | .poll _ => none

/-- The calls that a step makes on a channel, if it is a scripted one. -/
def made (w : World) (c : Nat) (x : Step α) : List Call :=
  match w.channels[c]?, w.plan x with
  | some (.scripted s), some (i, cs) => if i = c then (s.attempt cs).1.1 else []
  | _, _ => []

/-- The calls that a run makes on a channel. -/
def madeIn (w : World) (c : Nat) : List (Step α) → List Call
  | [] => []
  | x :: steps => w.made c x ++ (w.step x).2.madeIn c steps

/-- The calls have been attempted on the channel, and on no other. If the channel is a scripted one,
`fault` is the error of the call that failed. -/
structure Attempts (w : World) (i : Nat) (cs : List Call) (fault : Option ChannelError) (w' : World) :
    Prop where
  script : ∀ s, w.channels[i]? = some (.scripted s) →
    w'.channels[i]? = some (.scripted (s.attempt cs).2) ∧ fault = (s.attempt cs).1.2
  others : ∀ c ≠ i, w'.channels[c]? = w.channels[c]?

variable {w w' w'' : World} {x : Step α} {i c : Nat} {s : Script} {cs ds : List Call}
  {fault : Option ChannelError} {e : ChannelError}

namespace Attempts

theorem nothing (h : w'.channels = w.channels) : w.Attempts i [] none w' :=
  ⟨fun _ hs => ⟨h ▸ hs, rfl⟩, fun _ _ => by rw [h]⟩

/-- After calls that have all succeeded come the next. -/
theorem andThen (h : w.Attempts i cs none w') (h' : w'.Attempts i ds fault w'') :
    w.Attempts i (cs ++ ds) fault w'' := by
  refine ⟨fun s hs => ?_, fun c hc => (h'.others c hc).trans (h.others c hc)⟩
  obtain ⟨hs', hok⟩ := h.script s hs
  rw [Script.attempt_append_ok hok.symm]
  exact h'.script _ hs'

/-- After a call that has failed come no more. -/
theorem gaveUp (h : w.Attempts i cs (some e) w') : w.Attempts i (cs ++ ds) (some e) w' := by
  refine ⟨fun s hs => ?_, h.others⟩
  obtain ⟨hs', hfailed⟩ := h.script s hs
  rw [Script.attempt_append_failed hfailed.symm]
  exact ⟨hs', hfailed⟩

/-- What else is done to the world is done to no channel. -/
theorem congr (h : w.Attempts i cs fault w') (hc : w''.channels = w'.channels) :
    w.Attempts i cs fault w'' :=
  ⟨fun s hs => hc ▸ h.script s hs, fun c hne => hc ▸ h.others c hne⟩

end Attempts

/-! ### Calls -/

/-- The edit is the call, on scripted channels. -/
def Places (e : Edit Channel (Except ChannelError β)) (c : Call) : Prop :=
  ∀ s, fault? (e (.scripted s)).1 = (Script.make c s).1 ∧
    (e (.scripted s)).2 = .scripted (Script.make c s).2

theorem places_push (state : DriverState) : Places (Channel.push state) (.push state) :=
  fun _ => ⟨rfl, rfl⟩

theorem places_pull : Places Channel.pull .pull := fun _ => ⟨rfl, rfl⟩

theorem places_subscribe (runtime : Bool) : Places (Channel.subscribe runtime) .subscribe :=
  fun _ => ⟨rfl, rfl⟩

theorem attempts_call {f : Edit Channel (Except ChannelError β)} {c : Call} (hf : Places f c)
    (i : Nat) (w : World) : w.Attempts i [c] (fault? (call i f w).1) (call i f w).2 := by
  refine ⟨fun s hs => ?_, fun c hc => List.getElem?_set_ne hc.symm⟩
  obtain ⟨hfault, hscript⟩ := hf s
  rw [Script.attempt_singleton]
  simp only [call, channel_eq hs, hfault, hscript, and_true]
  exact List.getElem?_set_self (List.getElem?_eq_some_iff.1 hs).1

theorem attempts_commit (i : Nat) (w : World) :
    w.Attempts i [.commit] (fault? (commit i w).1) (commit i w).2 := by
  refine ⟨fun s hs => ?_, fun c hc => List.getElem?_set_ne hc.symm⟩
  rw [Script.attempt_singleton]
  simp only [commit, channel_eq hs, Channel.commit]
  exact ⟨List.getElem?_set_self (List.getElem?_eq_some_iff.1 hs).1, rfl⟩

theorem attempts_subscribe (i : Nat) (target : Target) (runtime : Bool) (w : World) :
    w.Attempts i [.subscribe] (fault? (subscribe i target runtime w).1)
      (subscribe i target runtime w).2 := by
  have h := attempts_call (places_subscribe runtime) i w
  unfold subscribe
  rcases hcall : call i (Channel.subscribe runtime) w with ⟨_ | _, w'⟩ <;> rw [hcall] at h
  · exact h
  · exact h.congr rfl

/-! ### Sessions -/

theorem attempts_connect (config : SessionConfig) (w : World) :
    w.Attempts w.current (.pull :: .subscribe :: if config.followDriver then [.subscribe] else [])
      (fault? (connect config w).1) (connect config w).2 := by
  have hpull := attempts_call places_pull w.current w
  unfold connect
  rcases hcall : call w.current Channel.pull w with ⟨e | state, w₁⟩ <;> rw [hcall] at hpull
  · simp only [hcall]
    exact hpull.gaveUp
  have hsource := attempts_subscribe w.current .cache true w₁
  rcases hcall' : subscribe w.current .cache true w₁ with ⟨e | source, w₂⟩ <;> rw [hcall'] at hsource
  · simp only [hcall, hcall']
    exact (hpull.andThen hsource).gaveUp
  have hconnected := hpull.andThen hsource
  cases hconfig : config.followDriver with
  | false =>
    simp only [hcall, hcall', Bool.false_eq_true, if_false]
    exact hconnected.congr rfl
  | true =>
    have htie := attempts_subscribe w.current (.registry w₂.sessions.length) true w₂
    rcases hcall'' : subscribe w.current (.registry w₂.sessions.length) true w₂ with ⟨e | k, w₃⟩ <;>
      rw [hcall''] at htie <;> simp only [hcall, hcall', hcall'', if_true] <;>
      exact (hconnected.andThen htie).congr rfl

theorem attempts_reload (i : Nat) (s : Session) (w : World) :
    w.Attempts s.channel [.pull] (fault? (reload i s w).1) (reload i s w).2 := by
  have h := attempts_call places_pull s.channel w
  unfold reload
  rcases hcall : call s.channel Channel.pull w with ⟨_ | _, w'⟩ <;> rw [hcall] at h
  · exact h
  · exact h.congr rfl

theorem attempts_follow (i : Nat) (s : Session) (runtime : Bool) (w : World) :
    w.Attempts s.channel (if s.following.isSome then [] else [.subscribe])
      (fault? (follow i s runtime w).1) (follow i s runtime w).2 := by
  unfold follow
  split
  · exact .nothing rfl
  · have h := attempts_subscribe s.channel (.registry i) runtime w
    rcases hcall : subscribe s.channel (.registry i) runtime w with ⟨_ | _, w'⟩ <;> rw [hcall] at h
    · exact h
    · exact h.congr rfl

/-! ### Steps -/

/-- The edit attempts the calls. It answers the error of one that fails, and succeeds if none does. -/
structure Follows (w : World) (p : Nat × List Call) (e : Edit World (Outcome α)) : Prop where
  attempts : w.Attempts p.1 p.2 (e w).1.fault? (e w).2
  succeeded : (e w).1.succeeded = true ↔ (e w).1.fault? = none

theorem Follows.trying {g : β → Outcome α} {f : Edit World (Except ChannelError β)}
    (hg : ∀ b, (g b).succeeded = true) (h : w.Attempts i cs (fault? (f w).1) (f w).2) :
    w.Follows (i, cs) (trying g f) := by
  unfold World.trying answering
  rcases hf : f w with ⟨e | b, w'⟩ <;> rw [hf] at h
  · constructor <;> simp only [hf, Outcome.ofExcept]
    · exact h
    · simp [Outcome.succeeded, Outcome.fault?]
  · have hfault := Outcome.fault?_of_succeeded (hg b)
    constructor <;> simp only [hf, Outcome.ofExcept, hfault]
    · exact h
    · simp [hg b]

theorem Follows.quiet {f : Edit World (Outcome α)} (hc : (f w).2.channels = w.channels)
    (hf : (f w).1.succeeded = true) : w.Follows (i, []) f := by
  have hfault := Outcome.fault?_of_succeeded hf
  refine ⟨?_, by simp [hf, hfault]⟩
  rw [hfault]
  exact .nothing hc

theorem Follows.onSession {p : Nat × List Call} {f : Session → List Call}
    {g : Session → Edit World (Outcome α)} (hp : w.planned i f = some p)
    (h : ∀ s, w.Follows (s.channel, f s) (g s)) : w.Follows p (onSession i g) := by
  obtain ⟨s, live, rfl⟩ := Option.map_eq_some_iff.1 hp
  have he := onSession_live live g
  exact ⟨he ▸ (h s).attempts, he ▸ (h s).succeeded⟩

theorem step_follows {p : Nat × List Call} (h : w.plan x = some p) : w.Follows p (step x) := by
  cases x with
  | push state =>
    cases h
    exact .trying (fun _ => rfl) (attempts_call (places_push state) _ w)
  | pull =>
    cases h
    exact .trying (fun _ => rfl) (attempts_call places_pull _ w)
  | commit =>
    cases h
    exact .trying (fun _ => rfl) (attempts_commit _ w)
  | subscribe session runtime =>
    cases session with
    | none =>
      cases h
      exact .trying (fun _ => rfl) (attempts_subscribe _ _ _ w)
    | some i =>
      exact .onSession h fun s => .trying (fun _ => rfl) (attempts_subscribe _ _ _ w)
  | connect config =>
    cases h
    exact .trying (fun _ => rfl) (attempts_connect config w)
  | notify i =>
    exact .onSession h fun s => .trying (fun _ => rfl) (attempts_call (places_push _) _ w)
  | persist i => exact .onSession h fun s => .trying (fun _ => rfl) (attempts_commit _ w)
  | fetch i => exact .onSession h fun s => .trying (fun _ => rfl) (attempts_call places_pull _ w)
  | reload i => exact .onSession h fun s => .trying (fun _ => rfl) (attempts_reload i s w)
  | follow i runtime =>
    exact .onSession h fun s => .trying (fun _ => rfl) (attempts_follow i s runtime w)
  | unfollow i => exact .onSession h fun s => .quiet (channels_unfollow w i s) rfl
  | drop i => exact .onSession h fun s => .quiet (channels_dropSession w i s) rfl
  | edit | isValid | describe | refresh | duplicate | watch =>
    exact .onSession h fun s => .quiet rfl rfl
  | settle | touch | handle | restart | disconnect | reconnect | fire | replaceDriver | cancel
  | isActive | poll => cases h

/-- A step that has no calls to make leaves scripts alone. -/
theorem script_of_unplanned (h : w.plan x = none) (hs : w.channels[c]? = some (.scripted s)) :
    (w.step x).2.channels[c]? = some (.scripted s) := by
  have hsession : ∀ {i : Nat} {f : Session → List Call} {g : Session → Edit World (Outcome α)},
      w.planned i f = none → (onSession i g w).2 = w := by
    intro i f g h
    simp only [onSession, Option.map_eq_none_iff.1 h]
  have hloopback : ∀ {β : Type} (g : β → Outcome α) (e : Edit Loopback β),
      (onLoopback g e w).2.channels[c]? = some (.scripted s) := by
    intro β g e
    unfold onLoopback
    split
    · exact hs
    · next d hd =>
      refine (List.getElem?_set_ne ?_).trans hs
      rintro rfl
      cases hd.symm.trans (channel_eq hs)
  cases x with
  | push | pull | commit | connect => cases h
  | subscribe session runtime =>
    cases session with
    | none => cases h
    | some i => exact (hsession h).symm ▸ hs
  | notify | persist | fetch | reload | follow | edit | isValid | describe | refresh | unfollow
  | duplicate | drop | watch => exact (hsession h).symm ▸ hs
  | handle | restart | disconnect | reconnect => exact hloopback _ _
  | settle | touch | isActive => exact hs
  | cancel k => exact (channels_release w k).symm ▸ hs
  | fire state =>
    simp only [step, onScripted]
    split <;> exact hs
  | replaceDriver config =>
    simp only [step, replaceDriver]
    split
    · exact hs
    · exact (List.getElem?_append_left (List.getElem?_eq_some_iff.1 hs).1).trans hs
  | poll i =>
    simp only [step]
    split <;> exact hs

theorem made_eq (hs : w.channels[c]? = some (.scripted s)) (h : w.plan x = some (c, cs)) :
    w.made c x = (s.attempt cs).1.1 := by
  simp [made, hs, h]

/-- A script that a step has calls for plays back its results for them, and any other is left alone. -/
theorem script_step (hs : w.channels[c]? = some (.scripted s)) (x : Step α) :
    (∃ cs, w.plan x = some (c, cs) ∧ w.made c x = (s.attempt cs).1.1 ∧
        (w.step x).2.channels[c]? = some (.scripted (s.attempt cs).2)) ∨
      (∀ cs, w.plan x ≠ some (c, cs)) ∧ w.made c x = [] ∧
        (w.step x).2.channels[c]? = some (.scripted s) := by
  cases h : w.plan x with
  | none => exact Or.inr ⟨nofun, by simp [made, h], script_of_unplanned h hs⟩
  | some p =>
    obtain ⟨i, cs⟩ := p
    have ha := (step_follows h).attempts
    by_cases hi : i = c
    · subst hi
      exact Or.inl ⟨cs, rfl, made_eq hs h, (ha.script s hs).1⟩
    · refine Or.inr ⟨fun cs' he => hi ?_, by simp [made, hs, h, hi], ?_⟩
      · cases he
        rfl
      · exact (ha.others c (Ne.symm hi)).trans hs

/-- The calls of a step are added to those before. -/
theorem calls_step (hs : w.channels[c]? = some (.scripted s)) (x : Step α) :
    ∃ s', (w.step x).2.channels[c]? = some (.scripted s') ∧ s'.calls = s.calls ++ w.made c x := by
  rcases script_step hs x with ⟨cs, -, hmade, hs'⟩ | ⟨-, hmade, hs'⟩
  · exact ⟨_, hs', hmade ▸ s.calls_attempt cs⟩
  · exact ⟨_, hs', by rw [hmade, List.append_nil]⟩

theorem calls_run (hs : w.channels[c]? = some (.scripted s)) (steps : List (Step α)) :
    ∃ s', (w.run steps).channels[c]? = some (.scripted s') ∧
      s'.calls = s.calls ++ w.madeIn c steps := by
  induction steps generalizing w s with
  | nil => exact ⟨s, hs, (List.append_nil _).symm⟩
  | cons x steps ih =>
    obtain ⟨s₁, hs₁, hcalls₁⟩ := calls_step hs x
    obtain ⟨s', hs', hcalls⟩ := ih hs₁
    refine ⟨s', hs', ?_⟩
    rw [hcalls, hcalls₁, madeIn, List.append_assoc]

/-- Whatever a script has in store and whatever has been done before, a step makes the calls that it is to
make, in order, up to the first that fails, and no others. It fails with the error of that call, and
otherwise it succeeds. -/
theorem calls_as_planned (hs : w.channels[c]? = some (.scripted s)) (steps : List (Step α)) :
    ∃ s', (w.run steps).channels[c]? = some (.scripted s') ∧
      s'.calls = s.calls ++ w.madeIn c steps ∧
      ∀ x : Step α,
        (∀ cs, (w.run steps).plan x = some (c, cs) →
          ((w.run steps).step x).2.channels[c]? = some (.scripted (s'.attempt cs).2) ∧
          (s'.attempt cs).2.calls = s'.calls ++ (s'.attempt cs).1.1 ∧
          (∀ e, ((w.run steps).step x).1 = .failed e ↔ (s'.attempt cs).1.2 = some e) ∧
          (((w.run steps).step x).1.succeeded = true ↔ (s'.attempt cs).1.2 = none)) ∧
        ((∀ cs, (w.run steps).plan x ≠ some (c, cs)) →
          ((w.run steps).step x).2.channels[c]? = some (.scripted s')) := by
  obtain ⟨s', hs', hcalls⟩ := calls_run hs steps
  refine ⟨s', hs', hcalls, fun x => ⟨fun cs hplan => ?_, fun hplan => ?_⟩⟩
  · have h := step_follows hplan
    obtain ⟨hscript, hfault⟩ := h.attempts.script s' hs'
    refine ⟨hscript, s'.calls_attempt cs, fun e => ?_, ?_⟩
    · rw [← hfault, Outcome.fault?_eq_some]
    · rw [← hfault, h.succeeded]
  · rcases script_step hs' x with ⟨cs, h, -⟩ | ⟨-, -, h⟩
    · exact absurd h (hplan cs)
    · exact h

/-- A session follows, which fails, and then sends a registry with an id twice, which fails as well. -/
theorem calls_as_planned_of_failures :
    let s : Script :=
      { subscribes := [.ok .live, .error .noRuntime], pushes := [.error (.unreachable "gone")] }
    let w : World := { channels := [.scripted s] }
    let steps : List (Step Unit) :=
      [.connect {}, .edit 0 fun _ => ((), ⟨[{ id := 1 }, { id := 1 }]⟩), .follow 0 true]
    let before : List Call := [.pull, .subscribe, .subscribe]
    ∃ s', (w.run steps).channels[0]? = some (.scripted s') ∧ s'.calls = before ∧
      ((w.run steps).step (.notify 0 : Step Unit)).1 = .failed (.unreachable "gone") ∧
      ∃ s'', ((w.run steps).step (.notify 0 : Step Unit)).2.channels[0]? = some (.scripted s'') ∧
        s''.calls = before ++ [.push [{ id := 1, modes := [] }, { id := 1, modes := [] }]] := by
  intro s w steps before
  obtain ⟨s', hs', hcalls, h⟩ := calls_as_planned (w := w) (c := 0) (s := s) rfl steps
  obtain ⟨hscript, hmade, hfailed, -⟩ := (h (.notify 0)).1
    [.push [{ id := 1, modes := [] }, { id := 1, modes := [] }]] rfl
  have hbefore : s'.calls = before := hcalls
  have hfault : (s'.pushes.headD (.ok ())) = .error (.unreachable "gone") := by
    cases hs'
    rfl
  refine ⟨s', hs', hbefore, (hfailed _).2 ?_, _, hscript, ?_⟩
  · rw [Script.attempt_singleton]
    exact congrArg fault? hfault
  · rw [hmade, hbefore, Script.attempt_singleton]

end World
end VirtualDisplay
