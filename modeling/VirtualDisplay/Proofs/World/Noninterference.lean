import VirtualDisplay.Proofs.World.Growth

/-! What the registry of one session has no part in. Two worlds that are alike but for that registry
answer alike and stay alike, whatever is done in both, as long as the session is not duplicated and does
not send its registry. -/

namespace VirtualDisplay

variable {α β γ : Type}

/-- Two sessions under one number. They may differ in the registry if it is the number given. -/
def Session.Like (i k : Nat) (s t : Session) : Prop :=
  ∃ registry, t = { s with registry } ∧ (k ≠ i → registry = s.registry)

theorem Session.Like.refl (i k : Nat) (s : Session) : s.Like i k s := ⟨s.registry, rfl, fun _ => rfl⟩

theorem Session.Like.takeOver {i k : Nat} {s t : Session} (h : s.Like i k t)
    (states : List DriverState) : (s.takeOver states).Like i k (t.takeOver states) := by
  obtain ⟨registry, rfl, hk⟩ := h
  unfold Session.takeOver
  cases states.getLast? with
  | none => exact ⟨registry, rfl, hk⟩
  | some state => exact ⟨_, rfl, fun _ => rfl⟩

theorem Session.Like.eq {i k : Nat} {s t : Session} (h : s.Like i k t) (hk : k ≠ i) : t = s := by
  obtain ⟨registry, rfl, hr⟩ := h
  rw [hr hk]

namespace World

variable {i k : Nat} {s t : Session} {S T : List Session} {w v u : World} {x : Step α}

/-- Session by session, the same but for the registry of one. -/
structure SameBut (i : Nat) (S T : List Session) : Prop where
  length : T.length = S.length
  like : ∀ (k : Nat) s t, S[k]? = some s → T[k]? = some t → s.Like i k t

/-- Two worlds that are the same but for the registry of one session. -/
def Alike (i : Nat) (w v : World) : Prop := ∃ S, v = { w with sessions := S } ∧ SameBut i w.sessions S

/-- Two edits that answer alike worlds alike, and leave them alike. -/
def Same (i : Nat) (e e' : Edit World β) : Prop :=
  ∀ w v, Alike i w v → (e' v).1 = (e w).1 ∧ Alike i (e w).2 (e' v).2

/-! ### Lists of sessions -/

namespace SameBut

theorem refl (i : Nat) (S : List Session) : SameBut i S S := by
  refine ⟨rfl, fun k s t hs ht => ?_⟩
  cases hs.symm.trans ht
  exact .refl i k s

/-- The other list has a session under the same number. -/
theorem exists_like (h : SameBut i S T) (hs : S[k]? = some s) : ∃ t, T[k]? = some t ∧ s.Like i k t := by
  have hk : k < T.length := by
    rw [h.length]
    exact (List.getElem?_eq_some_iff.1 hs).1
  exact ⟨T[k], List.getElem?_eq_getElem hk, h.like k s _ hs (List.getElem?_eq_getElem hk)⟩

theorem trans {U : List Session} (h : SameBut i S T) (h' : SameBut i T U) : SameBut i S U := by
  refine ⟨h'.length.trans h.length, fun k s u hs hu => ?_⟩
  obtain ⟨t, ht, r, rfl, hk⟩ := h.exists_like hs
  obtain ⟨r', rfl, hk'⟩ := h'.like k _ u ht hu
  exact ⟨r', rfl, fun hne => (hk' hne).trans (hk hne)⟩

theorem symm (h : SameBut i S T) : SameBut i T S := by
  refine ⟨h.length.symm, fun k t s ht hs => ?_⟩
  obtain ⟨r, rfl, hk⟩ := h.like k s t hs ht
  exact ⟨s.registry, rfl, fun hne => (hk hne).symm⟩

theorem set (h : SameBut i S T) (hst : s.Like i k t) : SameBut i (S.set k s) (T.set k t) := by
  refine ⟨by simpa using h.length, fun l s' t' hs ht => ?_⟩
  rw [List.getElem?_set] at hs ht
  split at hs
  · next hkl =>
    subst hkl
    rw [if_pos rfl] at ht
    split at hs <;> split at ht <;> cases hs <;> cases ht
    exact hst
  · next hkl =>
    rw [if_neg hkl] at ht
    exact h.like l s' t' hs ht

theorem concat (h : SameBut i S T) (s : Session) : SameBut i (S ++ [s]) (T ++ [s]) := by
  refine ⟨by simp [h.length], fun l s' t' hs ht => ?_⟩
  rw [List.getElem?_append] at hs ht
  rw [h.length] at ht
  split at hs
  · next hl =>
    rw [if_pos hl] at ht
    exact h.like l s' t' hs ht
  · next hl =>
    rw [if_neg hl] at ht
    cases hs.symm.trans ht
    exact .refl i l s'

theorem mapIdx {f : Nat → Session → Session} (h : SameBut i S T)
    (hf : ∀ k s t, s.Like i k t → (f k s).Like i k (f k t)) :
    SameBut i (S.mapIdx f) (T.mapIdx f) := by
  refine ⟨by simpa using h.length, fun k s' t' hs ht => ?_⟩
  rw [List.getElem?_mapIdx] at hs ht
  obtain ⟨s, hS, rfl⟩ := Option.map_eq_some_iff.1 hs
  obtain ⟨t, hT, rfl⟩ := Option.map_eq_some_iff.1 ht
  exact hf k s t (h.like k s t hS hT)

/-- What does not depend on registries is found in both lists or in none. -/
theorem any (h : SameBut i S T) {p : Session → Bool}
    (hp : ∀ (s : Session) registry, p { s with registry } = p s) : T.any p = S.any p := by
  have hmono {S T : List Session} (h : SameBut i S T) (hS : S.any p = true) : T.any p = true := by
    obtain ⟨s, hmem, hs⟩ := List.any_eq_true.1 hS
    obtain ⟨k, hk⟩ := List.mem_iff_getElem?.1 hmem
    obtain ⟨t, ht, registry, rfl, -⟩ := h.exists_like hk
    exact List.any_eq_true.2 ⟨_, List.mem_of_getElem? ht, (hp s registry).trans hs⟩
  exact Bool.eq_iff_iff.2 ⟨hmono h.symm, hmono h⟩

end SameBut

/-! ### Alike worlds -/

theorem Alike.refl (i : Nat) (w : World) : Alike i w w := ⟨w.sessions, rfl, .refl i _⟩

theorem Alike.trans (h : Alike i w v) (h' : Alike i v u) : Alike i w u := by
  obtain ⟨S, rfl, hS⟩ := h
  obtain ⟨T, rfl, hT⟩ := h'
  exact ⟨T, rfl, hS.trans hT⟩

theorem Alike.symm (h : Alike i w v) : Alike i v w := by
  obtain ⟨S, rfl, hS⟩ := h
  exact ⟨w.sessions, rfl, hS.symm⟩

theorem Alike.setSession (h : Alike i w v) (hst : s.Like i k t) :
    Alike i (w.setSession k s) (v.setSession k t) := by
  obtain ⟨S, rfl, hS⟩ := h
  exact ⟨S.set k t, rfl, hS.set hst⟩

theorem Alike.cancel (h : Alike i w v) (l : Nat) : Alike i (w.cancel l) (v.cancel l) := by
  obtain ⟨S, rfl, hS⟩ := h
  exact ⟨S, rfl, hS⟩

theorem Alike.held (h : Alike i w v) (c : Nat) : v.held c = w.held c := by
  obtain ⟨S, rfl, hS⟩ := h
  unfold World.held
  rw [hS.any fun _ _ => rfl]
  rfl

theorem Alike.sourced (h : Alike i w v) (l : Nat) : v.sourced l = w.sourced l := by
  obtain ⟨S, rfl, hS⟩ := h
  exact hS.any fun _ _ => rfl

/-- A session that is there is there in both worlds. -/
theorem Alike.session? (h : Alike i w v) (k : Nat) :
    w.session? k = none ∧ v.session? k = none ∨
      ∃ s t, w.session? k = some s ∧ v.session? k = some t ∧ s.Like i k t := by
  obtain ⟨S, rfl, hS⟩ := h
  unfold World.session?
  cases hs : w.sessions[k]? with
  | none =>
    have hk : S[k]? = none := by
      rw [List.getElem?_eq_none_iff] at hs ⊢
      rwa [hS.length]
    simp [hk]
  | some s =>
    obtain ⟨t, ht, registry, rfl, hk⟩ := hS.exists_like hs
    simp only [ht]
    cases hd : s.dropped with
    | true => simp [hd]
    | false => exact Or.inr ⟨s, _, by simp [hd], by simp [hd], registry, rfl, hk⟩

/-! ### Edits -/

/-- An edit that has nothing to do with sessions. -/
def Apart (e : Edit World β) : Prop :=
  ∀ w S, e { w with sessions := S } = ((e w).1, { (e w).2 with sessions := S }) ∧
    (e w).2.sessions = w.sessions

theorem Apart.same {e : Edit World β} (he : Apart e) (i : Nat) : Same i e e := by
  rintro w _ ⟨S, rfl, hS⟩
  obtain ⟨heq, hsessions⟩ := he w S
  rw [heq]
  exact ⟨rfl, S, rfl, hsessions ▸ hS⟩

theorem apart_call (j : Nat) (e : Edit Channel β) : Apart (call j e) := fun _ _ => ⟨rfl, rfl⟩

theorem apart_commit (j : Nat) : Apart (World.commit j) := fun _ _ => ⟨rfl, rfl⟩

theorem apart_subscribe (j : Nat) (target : Target) (runtime : Bool) :
    Apart (subscribe j target runtime) := by
  intro w S
  have hcall : call j (Channel.subscribe runtime) { w with sessions := S } =
      ((call j (Channel.subscribe runtime) w).1,
        { (call j (Channel.subscribe runtime) w).2 with sessions := S }) := rfl
  have hsessions : (call j (Channel.subscribe runtime) w).2.sessions = w.sessions := rfl
  unfold subscribe
  rw [hcall]
  rcases hw : call j (Channel.subscribe runtime) w with ⟨e | grant, w₁⟩ <;> rw [hw] at hsessions
  · exact ⟨rfl, hsessions⟩
  · exact ⟨rfl, hsessions⟩

theorem same_answering {e e' : Edit World β} (h : Same i e e') (f : β → Outcome α) :
    Same i (answering f e) (answering f e') := by
  intro w v hwv
  obtain ⟨hr, hal⟩ := h w v hwv
  exact ⟨congrArg f hr, hal⟩

theorem same_onSession {f : Session → Edit World (Outcome α)}
    (h : ∀ s t, s.Like i k t → Same i (f s) (f t)) : Same i (onSession k f) (onSession k f) := by
  intro w v hwv
  unfold onSession
  rcases hwv.session? k with ⟨hs, ht⟩ | ⟨s, t, hs, ht, hst⟩ <;> rw [hs, ht]
  · exact ⟨rfl, hwv⟩
  · exact h s t hst w v hwv

/-- Edits of a session that go by everything but its registry. -/
theorem same_session {f : Session → Edit World β}
    (h : ∀ s registry, f { s with registry } = f s) (hf : ∀ s, Same i (f s) (f s))
    (hst : s.Like i k t) : Same i (f s) (f t) := by
  obtain ⟨registry, rfl, -⟩ := hst
  exact (congrArg (Same i (f s)) (h s registry)).mpr (hf s)

theorem Same.run {e e' : Edit World β} (h : Same i e e') (hwv : Alike i w v) :
    ∃ r w' v', e w = (r, w') ∧ e' v = (r, v') ∧ Alike i w' v' := by
  obtain ⟨hr, hal⟩ := h w v hwv
  exact ⟨(e w).1, (e w).2, (e' v).2, rfl, Prod.ext hr rfl, hal⟩

theorem same_addSession (s : Session) : Same i (addSession s) (addSession s) := by
  rintro w _ ⟨S, rfl, hS⟩
  exact ⟨hS.length, S ++ [s], rfl, hS.concat s⟩

theorem Alike.length (h : Alike i w v) : v.sessions.length = w.sessions.length := by
  obtain ⟨S, rfl, hS⟩ := h
  exact hS.length

theorem Alike.current (h : Alike i w v) : v.current = w.current := by
  obtain ⟨S, rfl, -⟩ := h
  rfl

theorem same_connect (config : SessionConfig) : Same i (connect config) (connect config) := by
  intro w v hwv
  obtain ⟨r, w₁, v₁, hw₁, hv₁, h₁⟩ := ((apart_call w.current Channel.pull).same i).run hwv
  cases r with
  | error e =>
    simp only [connect, hwv.current, hw₁, hv₁]
    exact ⟨trivial, h₁⟩
  | ok state =>
    obtain ⟨r, w₂, v₂, hw₂, hv₂, h₂⟩ := ((apart_subscribe w.current .cache true).same i).run h₁
    cases r with
    | error e =>
      simp only [connect, hwv.current, hw₁, hv₁, hw₂, hv₂]
      exact ⟨trivial, h₂⟩
    | ok source =>
      cases hf : config.followDriver with
      | false =>
        simp only [connect, hwv.current, hw₁, hv₁, hw₂, hv₂, hf, Bool.false_eq_true, if_false]
        obtain ⟨hr, h⟩ := same_addSession _ w₂ v₂ h₂
        exact ⟨congrArg _ hr, h⟩
      | true =>
        obtain ⟨r, w₃, v₃, hw₃, hv₃, h₃⟩ :=
          ((apart_subscribe w.current (.registry w₂.sessions.length) true).same i).run h₂
        cases r with
        | error e =>
          simp only [connect, hwv.current, hw₁, hv₁, hw₂, hv₂, hf, if_true, h₂.length, hw₃, hv₃]
          exact ⟨trivial, h₃.cancel source⟩
        | ok k =>
          simp only [connect, hwv.current, hw₁, hv₁, hw₂, hv₂, hf, if_true, h₂.length, hw₃, hv₃]
          obtain ⟨hr, h⟩ := same_addSession _ w₃ v₃ h₃
          exact ⟨congrArg _ hr, h⟩

/-! ### Delivery -/

theorem alike_settle (h : Alike i w v) : Alike i w.settle v.settle := by
  have hsettled : v.settled = w.settled := by
    funext f
    unfold settled
    rw [h.held]
    obtain ⟨S, rfl, -⟩ := h
    rfl
  have hpending : v.pending = w.pending := by
    funext f
    rw [pending, hsettled, pending]
  unfold settle
  rw [hsettled, hpending]
  obtain ⟨S, rfl, hS⟩ := h
  exact ⟨_, rfl, hS.mapIdx fun k s t hst => hst.takeOver _⟩

theorem same_fire (state : DriverState) : Same i (fire state) (fire state) := by
  rintro w _ ⟨S, rfl, hS⟩
  exact ⟨rfl, _, rfl, hS.mapIdx fun k s t hst => hst.takeOver _⟩

/-! ### Sessions -/

theorem same_reload (hst : s.Like i k t) : Same i (reload k s) (reload k t) := by
  obtain ⟨registry, rfl, hk⟩ := hst
  intro w v hwv
  obtain ⟨r, w₁, v₁, hw₁, hv₁, h₁⟩ := ((apart_call s.channel Channel.pull).same i).run hwv
  cases r with
  | error e =>
    simp only [reload, hw₁, hv₁]
    exact ⟨trivial, h₁⟩
  | ok state =>
    simp only [reload, hw₁, hv₁]
    exact ⟨trivial, h₁.setSession (.refl i k _)⟩

theorem same_follow (hst : s.Like i k t) (runtime : Bool) :
    Same i (follow k s runtime) (follow k t runtime) := by
  obtain ⟨registry, rfl, hk⟩ := hst
  intro w v hwv
  cases hf : s.following.isSome with
  | true =>
    simp only [follow, hf, if_true]
    exact ⟨trivial, hwv⟩
  | false =>
    obtain ⟨r, w₁, v₁, hw₁, hv₁, h₁⟩ :=
      ((apart_subscribe s.channel (.registry k) runtime).same i).run hwv
    cases r with
    | error e =>
      simp only [follow, hf, hw₁, hv₁]
      exact ⟨rfl, h₁⟩
    | ok l =>
      simp only [follow, hf, hw₁, hv₁]
      exact ⟨rfl, h₁.setSession ⟨registry, rfl, hk⟩⟩

theorem alike_unfollow (hst : s.Like i k t) (h : Alike i w v) :
    Alike i (w.unfollow k s) (v.unfollow k t) := by
  obtain ⟨registry, rfl, hk⟩ := hst
  unfold unfollow
  cases hf : s.following with
  | none => exact h
  | some l => exact (h.cancel l).setSession ⟨registry, rfl, hk⟩

theorem alike_dropSession (hst : s.Like i k t) (h : Alike i w v) :
    Alike i (w.dropSession k s) (v.dropSession k t) := by
  have hunfollow := alike_unfollow hst h
  obtain ⟨registry, rfl, hk⟩ := hst
  have hgone := hunfollow.setSession
    (s := { s with following := none, dropped := true })
    (t := { s with registry, following := none, dropped := true }) ⟨registry, rfl, hk⟩
  simp only [dropSession, hgone.sourced]
  split
  · exact hgone
  · exact hgone.cancel _

theorem same_duplicate (hst : s.Like i k t) (hk : k ≠ i) :
    Same i (duplicate s) (duplicate t) := by
  rw [hst.eq hk]
  exact same_addSession _

theorem same_editRegistry (hst : s.Like i k t) (hk : k ≠ i) (e : Edit Registry α) :
    Same i (editRegistry k s e) (editRegistry k t e) := by
  rw [hst.eq hk]
  exact fun w v hwv => ⟨rfl, hwv.setSession (.refl i k _)⟩

theorem apart_watch (s : Session) : Apart (watch s) := fun _ _ => ⟨rfl, rfl⟩

theorem alike_refresh (hst : s.Like i k t) (h : Alike i w v) :
    Alike i (w.refresh k s) (v.refresh k t) := by
  have hcached : v.cached s.cache = w.cached s.cache := by
    obtain ⟨S, rfl, -⟩ := h
    rfl
  obtain ⟨registry, rfl, -⟩ := hst
  unfold refresh
  rw [hcached]
  exact h.setSession (.refl i k _)

/-! ### Drivers -/

theorem apart_answering {e : Edit World β} (he : Apart e) (f : β → Outcome α) :
    Apart (answering f e) := by
  intro w S
  obtain ⟨heq, hsessions⟩ := he w S
  exact ⟨by rw [answering, heq]; rfl, hsessions⟩

theorem apart_onLoopback (g : β → Outcome α) (e : Edit Loopback β) : Apart (onLoopback g e) := by
  intro w S
  have hchannel : channel { w with sessions := S } (current { w with sessions := S }) =
      w.channel w.current := rfl
  unfold onLoopback
  rw [hchannel]
  cases w.channel w.current with
  | loopback d => exact ⟨rfl, rfl⟩
  | scripted c => exact ⟨rfl, rfl⟩

theorem apart_replaceDriver (config : DriverConfig) :
    Apart (replaceDriver config : Edit World (Outcome α)) := by
  intro w S
  unfold replaceDriver
  cases h : Loopback.ofConfig config w.files <;> exact ⟨rfl, rfl⟩

theorem apart_release (l : Nat) : Apart fun w => (Outcome.done (α := α), w.release l) := by
  intro w S
  refine ⟨?_, sessions_release w l⟩
  dsimp only [release]
  split <;> rfl

theorem apart_poll (l : Nat) : Apart (step (.poll l) : Edit World (Outcome α)) := by
  intro w S
  simp only [step]
  cases w.watchers[l]? <;> exact ⟨rfl, rfl⟩

theorem same_onScripted {e : Edit World (Outcome α)} (h : Same i e e) :
    Same i (onScripted e) (onScripted e) := by
  intro w v hwv
  have hchannel : v.channel v.current = w.channel w.current := by
    obtain ⟨S, rfl, -⟩ := hwv
    rfl
  unfold onScripted
  rw [hchannel]
  cases w.channel w.current with
  | loopback d => exact ⟨rfl, hwv⟩
  | scripted c => exact h w v hwv

/-! ### Steps -/

/-- The step looks at the registry of a session, to edit it, to send it, to copy it or to tell of it. -/
inductive Reads (i : Nat) : Step α → Prop
  | edit (e : Edit Registry α) : Reads i (.edit i e)
  | notify : Reads i (.notify i)
  | duplicate : Reads i (.duplicate i)
  | isValid : Reads i (.isValid i)
  | describe : Reads i (.describe i)

theorem same_step (hx : ¬ Reads i x) : Same i (step x) (step x) := by
  cases x with
  | settle => exact fun w v hwv => ⟨rfl, alike_settle hwv⟩
  | touch | isActive => exact Apart.same (fun _ _ => ⟨rfl, rfl⟩) i
  | handle | disconnect | reconnect => exact (apart_onLoopback _ _).same i
  | push state => exact Apart.same (fun w S => apart_answering (apart_call w.current _) _ w S) i
  | pull => exact Apart.same (fun w S => apart_answering (apart_call w.current _) _ w S) i
  | commit => exact Apart.same (fun w S => apart_answering (apart_commit w.current) _ w S) i
  | restart =>
    have h : Apart (step .restart : Edit World (Outcome α)) := fun w S =>
      apart_onLoopback _ (Loopback.restart w.files) w S
    exact h.same i
  | fire state => exact same_onScripted (same_answering (same_fire state) _)
  | replaceDriver config => exact (apart_replaceDriver config).same i
  | subscribe session runtime =>
    cases session with
    | none => exact Apart.same (fun w S => apart_answering (apart_subscribe w.current _ _) _ w S) i
    | some k =>
      exact same_onSession fun s t => same_session (fun _ _ => rfl) fun s =>
        same_answering ((apart_subscribe s.channel .record runtime).same i) (.ofExcept .opened)
  | cancel l => exact (apart_release l).same i
  | connect config => exact same_answering (same_connect config) _
  | notify k =>
    have hk : k ≠ i := fun hk => hx (hk ▸ .notify)
    refine same_onSession fun s t hst => ?_
    rw [hst.eq hk]
    exact same_answering ((apart_call _ _).same i) _
  | persist k =>
    exact same_onSession fun s t => same_session (fun _ _ => rfl) fun s =>
      same_answering ((apart_commit s.channel).same i) (.ofExcept done)
  | reload k => exact same_onSession fun s t hst => same_answering (same_reload hst) _
  | fetch k =>
    exact same_onSession fun s t => same_session (fun _ _ => rfl) fun s =>
      same_answering ((apart_call s.channel Channel.pull).same i) (.ofExcept .state)
  | refresh k => exact same_onSession fun s t hst w v hwv => ⟨rfl, alike_refresh hst hwv⟩
  | edit k e =>
    have hk : k ≠ i := fun hk => hx (hk ▸ .edit e)
    exact same_onSession fun s t hst => same_answering (same_editRegistry hst hk e) _
  | isValid k =>
    have hk : k ≠ i := fun hk => hx (hk ▸ .isValid)
    refine same_onSession fun s t hst w v hwv => ?_
    rw [hst.eq hk]
    exact ⟨rfl, hwv⟩
  | describe k =>
    have hk : k ≠ i := fun hk => hx (hk ▸ .describe)
    refine same_onSession fun s t hst w v hwv => ?_
    rw [hst.eq hk]
    exact ⟨rfl, hwv⟩
  | follow k runtime => exact same_onSession fun s t hst => same_answering (same_follow hst runtime) _
  | unfollow k => exact same_onSession fun s t hst w v hwv => ⟨rfl, alike_unfollow hst hwv⟩
  | duplicate k =>
    have hk : k ≠ i := fun hk => hx (hk ▸ .duplicate)
    exact same_onSession fun s t hst => same_answering (same_duplicate hst hk) _
  | drop k => exact same_onSession fun s t hst w v hwv => ⟨rfl, alike_dropSession hst hwv⟩
  | watch k =>
    exact same_onSession fun s t => same_session (fun _ _ => rfl) fun s =>
      same_answering ((apart_watch s).same i) .opened
  | poll l => exact (apart_poll l).same i

/-! ### Runs -/

/-- Whether a step edits the registry of a session. -/
def edits (i : Nat) : Step α → Bool
  | .edit j _ => j = i
  | _ => false

/-- The step passes the registry of a session on, to the driver or to another session. -/
inductive Leaks (i : Nat) : Step α → Prop
  | notify : Leaks i (.notify i)
  | duplicate : Leaks i (.duplicate i)

theorem alike_edit (w : World) (hx : edits i x = true) : Alike i w (w.step x).2 := by
  cases x with
  | edit j e =>
    obtain rfl : j = i := by simpa [edits] using hx
    cases hs : w.session? j with
    | none =>
      simp only [step, onSession, hs]
      exact .refl j w
    | some s =>
      simp only [step, onSession_live hs, answering, editRegistry]
      obtain ⟨hlt, hget⟩ := List.getElem?_eq_some_iff.1 (session?_eq.1 hs).1
      have h : Alike j (w.setSession j s) (w.setSession j { s with registry := (e s.registry).2 }) :=
        (Alike.refl j w).setSession ⟨_, rfl, fun h => absurd rfl h⟩
      rwa [show w.setSession j s = w by rw [setSession, ← hget, List.set_getElem_self]] at h
  | _ => cases hx

theorem alike_step (h : Alike i w v) (hx : ¬ Leaks i x) (hedit : edits i x = false) :
    Alike i (w.step x).2 (v.step x).2 := by
  by_cases hreads : Reads i x
  · have htells {g : Session → Outcome α} {u : World} : (onSession i (fun s w => (g s, w)) u).2 = u := by
      unfold onSession
      split <;> rfl
    cases hreads with
    | edit e => simp [edits] at hedit
    | notify => exact absurd .notify hx
    | duplicate => exact absurd .duplicate hx
    | isValid | describe =>
      simp only [step, htells]
      exact h
  · exact (same_step hreads w v h).2

/-- Without the edits of a registry, a run leads to a world that is alike. -/
theorem alike_run {steps : List (Step α)} (h : Alike i w v) (hsteps : ∀ x ∈ steps, ¬ Leaks i x) :
    Alike i (w.run steps) (v.run (steps.filter fun x => !edits i x)) := by
  induction steps generalizing w v with
  | nil => exact h
  | cons x steps ih =>
    obtain ⟨hx, hrest⟩ := List.forall_mem_cons.1 hsteps
    cases hedit : edits i x with
    | true =>
      rw [List.filter_cons_of_neg (by simp [hedit])]
      exact ih ((alike_edit w hedit).symm.trans h) hrest
    | false =>
      rw [List.filter_cons_of_pos (by simp [hedit])]
      exact ih (alike_step h hx hedit) hrest

theorem alike_runs {xs ys : List (Step α)} (w : World)
    (hsame : (xs.filter fun x => !edits i x) = ys.filter fun x => !edits i x)
    (hxs : ∀ x ∈ xs, ¬ Leaks i x) (hys : ∀ x ∈ ys, ¬ Leaks i x) : Alike i (w.run xs) (w.run ys) :=
  (alike_run (.refl i w) hxs).trans (hsame ▸ (alike_run (.refl i w) hys).symm)

theorem Alike.session?_eq (h : Alike i w v) (hk : k ≠ i) : v.session? k = w.session? k := by
  rcases h.session? k with ⟨hs, ht⟩ | ⟨s, t, hs, ht, hst⟩ <;> rw [hs, ht]
  rw [hst.eq hk]

end World
end VirtualDisplay
