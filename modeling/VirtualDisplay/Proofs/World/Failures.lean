import VirtualDisplay.Proofs.Files.Crashes
import VirtualDisplay.Proofs.World.Lasting
import VirtualDisplay.Proofs.World.Moves

/-! Steps that fail, in any world. A step makes all of its calls that can fail before it changes a
session, and a call that fails changes no driver. What is left behind is directories and an unfinished
file of a commit, and the first subscription of a session that could not follow. -/

namespace VirtualDisplay

open Files Loopback

variable {α β : Type}

namespace World

variable {w w' w'' : World} {x : Step α} {i j k : Nat} {f : Subscription}

/-- What a step that fails may leave. -/
inductive Mishap (w : World) : Step α → World → Prop
  | nothing {x : Step α} {w' : World} (h : w.Untouched w') : Mishap w x w'
  /-- A commit has come as far as its file let it. -/
  | commit {x : Step α} {w' : World} {j : Nat} {d : Loopback} {path : Path} {e : StorageError}
      (moves : w.Moves x j .commit) (driver : w.channel j = .loopback d) (store : d.store = .file path)
      (failed : (StateFile.save path d.live w.files).1 = .error e)
      (h : Untouched { w with files := (StateFile.save path d.live w.files).2 } w') : Mishap w x w'
  /-- A session was to follow and could not. The subscription behind its cache is given up. -/
  | connect {config : SessionConfig} {w' : World} {f : Subscription} (opened : Opened f)
      (h : Untouched { w with subscriptions := w.subscriptions ++ [f.cancel] } w') :
      Mishap w (.connect config) w'

/-- If an edit fails, it leaves what the step may leave. -/
def Fails (w : World) (x : Step α) (e : Edit World (Outcome α)) : Prop :=
  (e w).1.succeeded = false → w.Mishap x (e w).2

/-! ### Edits that fail -/

theorem fails_trying {g : β → Outcome α} {e : Edit World (Except ChannelError β)}
    (hg : ∀ b, (g b).succeeded = true) (h : ∀ err, (e w).1 = .error err → w.Mishap x (e w).2) :
    w.Fails x (trying g e) := by
  intro hf
  simp only [trying, answering] at hf ⊢
  cases he : (e w).1 with
  | error err => exact h err he
  | ok b =>
    rw [he] at hf
    exact absurd (hg b) (by simpa [Outcome.ofExcept] using hf)

theorem fails_call {g : β → Outcome α} {e : Edit Channel (Except ChannelError β)}
    (hg : ∀ b, (g b).succeeded = true) (he : Careful e) : w.Fails x (trying g (call i e)) :=
  fails_trying hg fun _ h => .nothing (untouched_call he h)

theorem fails_onSession {g : Session → Edit World (Outcome α)}
    (h : ∀ s, w.session? i = some s → w.Fails x (g s)) : w.Fails x (onSession i g) := by
  unfold Fails onSession
  split
  · exact fun _ => .nothing (.refl w)
  · next s live => exact h s live

theorem fails_onLoopback {g : β → Outcome α} {e : Edit Loopback (Except ChannelError β)}
    (hg : ∀ b, (g b).succeeded = true) (he : ∀ d err, (e d).1 = .error err → (e d).2 = d) :
    w.Fails x (onLoopback (.ofExcept g) e) := by
  intro hf
  unfold onLoopback at hf ⊢
  split
  · exact .nothing (.refl w)
  · next d hd =>
    refine .nothing (untouched_set fun d' hd' => ?_)
    cases hd.symm.trans hd'
    rw [hd] at hf
    cases hr : (e d).1 with
    | error err => rw [he d err hr]
    | ok b =>
      simp only [hr, Outcome.ofExcept, hg] at hf
      cases hf

theorem commit_error {e : ChannelError} {d : Loopback} {t : Tree}
    (h : (Loopback.commit (d, t)).1 = .error e) :
    (Loopback.commit (d, t)).2.1 = d ∧
      ((Loopback.commit (d, t)).2.2 = t ∨ ∃ path err, d.store = .file path ∧
        (StateFile.save path d.live t).1 = .error err ∧
        (Loopback.commit (d, t)).2.2 = (StateFile.save path d.live t).2) := by
  obtain ⟨live, connected, store, capacity, events⟩ := d
  cases connected with
  | false => exact ⟨rfl, Or.inl rfl⟩
  | true =>
    cases store with
    | memory committed => cases h
    | file path =>
      refine ⟨rfl, Or.inr ⟨path, ?_⟩⟩
      cases hsave : (StateFile.save path live t).1 with
      | ok _ =>
        change (StateFile.save path live t).1.mapError _ = _ at h
        rw [hsave] at h
        cases h
      | error err => exact ⟨err, rfl, rfl, rfl⟩

theorem fails_commit (moves : w.Moves x i .commit) : w.Fails x (trying done (World.commit i)) := by
  refine fails_trying (fun _ => rfl) fun err herr => ?_
  cases hd : w.channel i with
  | scripted s =>
    simp only [World.commit, hd, Channel.commit]
    exact .nothing (untouched_set fun d hd' => by cases hd.symm.trans hd')
  | loopback d =>
    have herr' : (Loopback.commit (d, w.files)).1 = .error err := by
      simpa only [World.commit, hd, Channel.commit] using herr
    simp only [World.commit, hd, Channel.commit]
    obtain ⟨hsame, hfiles⟩ := commit_error herr'
    rw [hsame]
    rcases hfiles with hfiles | ⟨path, e, hstore, hfailed, hfiles⟩
    · rw [hfiles]
      exact .nothing (untouched_set fun _ hd' => hd.symm.trans hd')
    · rw [hfiles]
      exact .commit moves hd hstore hfailed (untouched_set (w := { w with files := _ })
        fun _ hd' => hd.symm.trans hd')

theorem fails_subscribe {g : Nat → Outcome α} {target : Target} {runtime : Bool}
    (hg : ∀ b, (g b).succeeded = true) : w.Fails x (trying g (subscribe i target runtime)) := by
  refine fails_trying hg fun err herr => ?_
  rcases subscribe_cases i target runtime w with ⟨e, w', hnew, h⟩ | ⟨f, w', hnew, -⟩
  · rw [hnew]
    exact .nothing h
  · rw [hnew] at herr
    cases herr

theorem fails_connect (config : SessionConfig) :
    w.Fails (.connect config) (trying .opened (connect config) : Edit World (Outcome α)) := by
  refine fails_trying (fun _ => rfl) fun err herr => ?_
  rcases connect_cases config w with ⟨e, -, h | ⟨f, hf, h⟩⟩ | ⟨s, new, hok, -⟩
  · exact .nothing h
  · exact .connect hf h
  · rw [hok] at herr
    cases herr

theorem fails_reload (s : Session) : w.Fails x (trying done (reload i s)) := by
  refine fails_trying (fun _ => rfl) fun err herr => ?_
  rcases reload_cases i s w with ⟨e, -, h⟩ | ⟨hok, -⟩
  · exact .nothing h
  · rw [hok] at herr
    cases herr

theorem fails_follow (s : Session) (runtime : Bool) : w.Fails x (trying done (follow i s runtime)) := by
  refine fails_trying (fun _ => rfl) fun err herr => ?_
  rcases follow_cases i s runtime w with ⟨e, -, h⟩ | ⟨hok, -⟩
  · exact .nothing h
  · rw [hok] at herr
    cases herr

theorem step_fails (w : World) (x : Step α) : w.Fails x (step x) := by
  cases x with
  | settle | touch | cancel | isActive =>
    intro h
    cases h
  | handle c => exact fails_onLoopback (fun _ => rfl) fun d err h => handle_error h
  | push state => exact fails_call (fun _ => rfl) (careful_push state)
  | pull => exact fails_trying (fun _ => rfl) fun _ _ => .nothing (untouched_pull w _)
  | commit => exact fails_commit .commit
  | restart => exact fails_onLoopback (fun _ => rfl) fun d err h => restart_error h
  | disconnect | reconnect =>
    intro h
    simp only [step, onLoopback] at h ⊢
    split
    · exact .nothing (.refl w)
    · next hd =>
      rw [hd] at h
      cases h
  | fire state =>
    intro h
    simp only [step, onScripted] at h ⊢
    split
    · next hd =>
      rw [hd] at h
      cases h
    · exact .nothing (.refl w)
  | replaceDriver config =>
    intro h
    simp only [step, replaceDriver] at h ⊢
    split
    · exact .nothing (.refl w)
    · next hd =>
      rw [hd] at h
      cases h
  | subscribe session runtime =>
    cases session with
    | none => exact fails_subscribe fun _ => rfl
    | some i => exact fails_onSession fun s _ => fails_subscribe fun _ => rfl
  | connect config => exact fails_connect config
  | notify i => exact fails_onSession fun s _ => fails_call (fun _ => rfl) (careful_push _)
  | persist i => exact fails_onSession fun s live => fails_commit (.persist live)
  | reload i => exact fails_onSession fun s _ => fails_reload s
  | fetch i =>
    exact fails_onSession fun s _ => fails_trying (fun _ => rfl) fun _ _ =>
      .nothing (untouched_pull w _)
  | follow i runtime => exact fails_onSession fun s _ => fails_follow s runtime
  | refresh | edit | isValid | describe | unfollow | duplicate | drop | watch =>
    refine fails_onSession fun s _ h => ?_
    cases h
  | poll i =>
    intro h
    simp only [step] at h ⊢
    split
    · exact .nothing (.refl w)
    · next hx =>
      rw [hx] at h
      cases h

/-! ### What a mishap leaves alone -/

namespace Mishap

theorem sessions (h : w.Mishap x w') : w'.sessions = w.sessions := by
  cases h with
  | nothing h | commit _ _ _ _ h | connect _ h => exact h.sessions

theorem drivers {d : Loopback} (h : w.Mishap x w') (hd : w.channels[i]? = some (.loopback d)) :
    w'.channels[i]? = some (.loopback d) := by
  cases h with
  | nothing h | commit _ _ _ _ h | connect _ h => exact h.drivers i d hd

/-- New subscriptions are given up, and come with a session that does not come. -/
theorem subscriptions (h : w.Mishap x w') : ∃ new, w'.subscriptions = w.subscriptions ++ new ∧
    ((∀ config, x ≠ .connect config) → new = []) ∧
    ∀ f ∈ new, f.handed = [] ∧ (f.cancellable = true → f.cancelled = true) := by
  cases h with
  | nothing h | commit _ _ _ _ h =>
    exact ⟨[], h.subscriptions.trans (List.append_nil _).symm, fun _ => rfl, List.forall_mem_nil _⟩
  | connect opened h =>
    refine ⟨_, h.subscriptions, fun hx => absurd rfl (hx _), ?_⟩
    rw [List.forall_mem_singleton]
    exact ⟨opened.2, fun hc => by simpa [Subscription.cancel] using Or.inr hc⟩

theorem cached (h : w.Mishap x w') (c : Cache) : w'.cached c = w.cached c := by
  obtain ⟨new, hnew, -, hfresh⟩ := h.subscriptions
  have hupdates : w'.updates c = w.updates c := by
    unfold updates
    rw [hnew, List.getElem?_append]
    split
    · rfl
    · next hc =>
      rw [List.getElem?_eq_none (Nat.not_lt.1 hc)]
      cases hf : new[c.source - w.subscriptions.length]? with
      | none => rfl
      | some f => exact (hfresh f (List.mem_of_getElem? hf)).1
  rw [World.cached, World.cached, hupdates]

/-- A commit that fails leaves what its driver goes back to. -/
theorem committed {d : Loopback} (h : w.Mishap x w') (hd : w.channels[i]? = some (.loopback d))
    (ht : w.files.Rooted)
    (hp : ∀ path, d.store = .file path → path.Downward ∧ ¬ StateFile.Overlong path)
    (hown : ∀ j, w.Moves x j .commit → j = i) : d.committed w'.files = d.committed w.files := by
  cases h with
  | nothing h | connect _ h => rw [h.files]
  | commit moves driver store failed h =>
    obtain rfl := hown _ moves
    cases (channel_eq hd).symm.trans driver
    obtain ⟨hdown, hshort⟩ := hp _ store
    rw [Loopback.committed, Loopback.committed, store, h.files]
    exact ((StateFile.cutOff_of_error failed).holds ht hdown).resolve_right fun hlong => hshort hlong.1

end Mishap

/-! ### Subscriptions that are given up -/

/-- However the world goes on, a subscription is handed nothing. It ends when its driver settles, or
when its script hands over a state. -/
def GivenUp (α : Type) (w : World) (k : Nat) : Prop :=
  ∀ steps : List (Step α), ∃ f, (w.run steps).subscriptions[k]? = some f ∧ f.handed = [] ∧
    (∀ d, (w.run steps).channel f.channel = .loopback d → ∃ g,
      ((w.run steps).step (.settle : Step α)).2.subscriptions[k]? = some g ∧ g.ended = true) ∧
    ∀ state, f.channel = (w.run steps).current →
      ((w.run steps).step (.fire state : Step α)).1.succeeded = true → ∃ g,
        ((w.run steps).step (.fire state : Step α)).2.subscriptions[k]? = some g ∧ g.ended = true

theorem givenUp (hf : w.subscriptions[k]? = some f) (hc : f.cancelled = true) (hh : f.handed = []) :
    w.GivenUp α k := by
  intro steps
  obtain ⟨g, hg, hlater⟩ := lasts_run steps w k f hf
  have hgc := hlater.cancelled hc
  exact ⟨g, hg, (hlater.handed hc).trans hh, fun d hd => ended_settle hg hgc hd,
    fun state hcurrent hfired => ended_fire hg hgc hcurrent hfired⟩

/-! ### Trees stay rooted -/

theorem files_subscribe (i : Nat) (target : Target) (runtime : Bool) (w : World) :
    (subscribe i target runtime w).2.files = w.files := by
  rcases subscribe_cases i target runtime w with ⟨e, w', hnew, h⟩ | ⟨f, w', hnew, -, h⟩ <;> rw [hnew] <;>
    exact h.files

theorem files_connect (config : SessionConfig) (w : World) : (connect config w).2.files = w.files := by
  rcases connect_cases config w with ⟨e, -, h | ⟨f, -, h⟩⟩ | ⟨s, new, -, h⟩ <;> exact h.files

theorem files_follow (i : Nat) (s : Session) (runtime : Bool) (w : World) :
    (follow i s runtime w).2.files = w.files := by
  rcases follow_cases i s runtime w with ⟨e, -, h⟩ | ⟨-, h | ⟨new, following, h⟩⟩
  · exact h.files
  · rw [h]
  · exact h.files

theorem files_reload (i : Nat) (s : Session) (w : World) : (reload i s w).2.files = w.files := by
  rcases reload_cases i s w with ⟨e, -, h⟩ | ⟨-, registry, h⟩ <;> exact h.files

theorem rooted_commit (ht : w.files.Rooted) (i : Nat) : (World.commit i w).2.files.Rooted := by
  cases hd : w.channel i with
  | scripted s =>
    simp only [World.commit, hd, Channel.commit]
    exact ht
  | loopback d =>
    obtain ⟨live, connected, store, capacity, events⟩ := d
    simp only [World.commit, hd, Channel.commit]
    cases connected with
    | false => exact ht
    | true =>
      cases store with
      | memory committed => exact ht
      | file path => exact StateFile.rooted_save ht path live

theorem rooted_onSession {g : Session → Edit World (Outcome α)} (ht : w.files.Rooted)
    (h : ∀ s, (g s w).2.files.Rooted) : (onSession i g w).2.files.Rooted := by
  unfold onSession
  split
  · exact ht
  · exact h _

theorem rooted_onLoopback (g : β → Outcome α) (e : Edit Loopback β) (ht : w.files.Rooted) :
    (onLoopback g e w).2.files.Rooted := by
  unfold onLoopback
  split <;> exact ht

/-- The tree stays rooted, unless a hand outside breaks it. -/
theorem rooted_step (ht : w.files.Rooted)
    (hx : ∀ change, x = .touch change → (change w.files).Rooted) : (w.step x).2.files.Rooted := by
  cases x with
  | touch change => exact hx change rfl
  | settle | push | pull | isActive => exact ht
  | handle | restart | disconnect | reconnect => exact rooted_onLoopback _ _ ht
  | commit => exact rooted_commit ht _
  | persist => exact rooted_onSession ht fun s => rooted_commit ht _
  | fire state =>
    simp only [step, onScripted]
    split <;> exact ht
  | replaceDriver config =>
    simp only [step, replaceDriver]
    split <;> exact ht
  | subscribe session runtime =>
    cases session with
    | none => exact (files_subscribe _ _ _ w).symm ▸ ht
    | some i => exact rooted_onSession ht fun s => (files_subscribe _ _ _ w).symm ▸ ht
  | cancel k => exact (files_release w k).symm ▸ ht
  | connect config => exact (files_connect config w).symm ▸ ht
  | notify | fetch | refresh | edit | isValid | describe | duplicate | watch =>
    exact rooted_onSession ht fun s => ht
  | reload i => exact rooted_onSession ht fun s => (files_reload i s w).symm ▸ ht
  | follow i runtime => exact rooted_onSession ht fun s => (files_follow i s runtime w).symm ▸ ht
  | unfollow i => exact rooted_onSession ht fun s => (files_unfollow w i s).symm ▸ ht
  | drop i => exact rooted_onSession ht fun s => (files_dropSession w i s).symm ▸ ht
  | poll i =>
    simp only [step]
    split <;> exact ht

theorem rooted_run (ht : w.files.Rooted) {steps : List (Step α)}
    (hsteps : ∀ change, .touch change ∈ steps → ∀ t : Tree, t.Rooted → (change t).Rooted) :
    (w.run steps).files.Rooted := by
  induction steps generalizing w with
  | nil => exact ht
  | cons x steps ih =>
    refine ih (rooted_step ht fun change hx => ?_) fun change hc => hsteps change (List.mem_cons_of_mem _ hc)
    exact hsteps change (hx ▸ List.mem_cons_self) _ ht

/-! ### Failures -/

/-- A step that fails leaves every session, every cache and every driver as they were, and what a
driver goes back to, unless its file has an overlong name or somebody else was to commit. No session
comes up, and a subscription that did is given up, if its handle is good for that. -/
theorem failed_step_changes_nothing (hx : (w.step x).1.succeeded = false) (hstep : (w.step x).2 = w') :
    w'.sessions = w.sessions ∧ (∀ c, w'.cached c = w.cached c) ∧
      (∀ (i : Nat) d, w.channels[i]? = some (.loopback d) →
        w'.channels[i]? = some (.loopback d) ∧
        (w.files.Rooted →
          (∀ path, d.store = .file path → path.Downward ∧ ¬ StateFile.Overlong path) →
          (∀ j, w.Moves x j .commit → j = i) → d.committed w'.files = d.committed w.files)) ∧
      ∃ new, w'.subscriptions = w.subscriptions ++ new ∧
        ((∀ config, x ≠ .connect config) → new = []) ∧
        ∀ (k : Nat) f, w.subscriptions.length ≤ k → w'.subscriptions[k]? = some f →
          f.cancellable = true → w'.GivenUp α k := by
  subst hstep
  have h : w.Mishap x (w.step x).2 := step_fails w x hx
  obtain ⟨new, hnew, honly, hgiven⟩ := h.subscriptions
  refine ⟨h.sessions, h.cached, fun i d hd => ⟨h.drivers hd, h.committed hd⟩, new, hnew, honly, ?_⟩
  intro k f hk hf hc
  rw [hnew, List.getElem?_append_right hk] at hf
  obtain ⟨hhanded, hcancelled⟩ := hgiven f (List.mem_of_getElem? hf)
  refine givenUp ?_ (hcancelled hc) hhanded
  rw [hnew, List.getElem?_append_right hk, hf]

theorem commit_refused {p : Path} {e : StorageError} {live : DriverState} {files : Tree}
    (h : (StateFile.save p live files).1 = .error e) :
    let w : World := { files, channels := [.loopback { live, store := .file p }] }
    (w.step (.commit : Step Unit)).1.succeeded = false ∧
      (w.step (.commit : Step Unit)).2.files = (StateFile.save p live files).2 := by
  intro w
  refine ⟨?_, rfl⟩
  change (Outcome.ofExcept (done (α := Unit))
    ((StateFile.save p live files).1.mapError _)).succeeded = false
  rw [h]
  rfl

/-- A session that was to follow could subscribe only once, and that subscription is given up. A driver
cannot write the file beside its own, since a directory stands there, and keeps what it has committed. -/
theorem failed_step_changes_nothing_of_two :
    (let d : Loopback := { store := .file ⟨"s"⟩ }
      let w : World :=
        { channels := [.loopback d, .scripted { subscribes := [.ok .live, .error .noRuntime] }] }
      let x : Step Unit := .connect { followDriver := true }
      let w' := (w.step x).2
      (w.step x).1.succeeded = false ∧ w'.sessions = [] ∧
        d.committed w'.files = d.committed w.files ∧
        (∃ f, w'.subscriptions[0]? = some f ∧ f.cancellable = true) ∧ w'.GivenUp Unit 0) ∧
      let d : Loopback := { live := [{ id := 2 }], store := .file ⟨"s"⟩ }
      let committed : Content := .text (StateFile.text [{ id := 1 }])
      let files := Tree.put ["s.json.tmp"] .directory (Tree.put ["s"] (.file committed) {})
      let w : World := { files, channels := [.loopback d] }
      let x : Step Unit := .commit
      let w' := (w.step x).2
      (w.step x).1.succeeded = false ∧ w'.channels[0]? = some (.loopback d) ∧
        d.committed w'.files = .ok [{ id := 1 }] := by
  have hdown : (⟨"s"⟩ : Path).Downward := by
    rw [Path.Downward]
    decide
  have hshort : ¬ StateFile.Overlong ⟨"s"⟩ := by
    rw [StateFile.Overlong]
    decide
  have hfile : ∀ path, Store.file ⟨"s"⟩ = .file path → path.Downward ∧ ¬ StateFile.Overlong path := by
    rintro _ ⟨⟩
    exact ⟨hdown, hshort⟩
  constructor
  · intro d w x w'
    have hx : (w.step x).1.succeeded = false := rfl
    obtain ⟨hsessions, -, hdrivers, new, -, -, hgiven⟩ := failed_step_changes_nothing hx rfl
    have hmoves (j : Nat) (h : w.Moves (.connect { followDriver := true } : Step Unit) j .commit) :
        j = 0 := by
      cases h
    exact ⟨hx, hsessions, (hdrivers 0 d rfl).2 Tree.rooted_empty hfile hmoves, ⟨_, rfl, rfl⟩,
      hgiven 0 _ (Nat.le_refl _) rfl rfl⟩
  · intro d committed files w x w'
    have hs : files.resolve ⟨"s"⟩ = .ok ["s"] :=
      Tree.resolve_of_accepts (Tree.accepts_iff.2 (by decide)) (by decide)
    have htemporary : files.resolve ⟨"s.json.tmp"⟩ = .ok ["s.json.tmp"] :=
      Tree.resolve_of_accepts (Tree.accepts_iff.2 (by decide)) (by decide)
    have hfailed : (StateFile.save ⟨"s"⟩ d.live files).1 = .error (.io ⟨"s.json.tmp"⟩) :=
      StateFile.save_refused rfl htemporary rfl
    have hx : (w.step x).1.succeeded = false := (commit_refused hfailed).1
    obtain ⟨-, -, hdrivers, -⟩ := failed_step_changes_nothing hx rfl
    obtain ⟨hd, hcommitted⟩ := hdrivers 0 d rfl
    have hrooted : files.Rooted :=
      (Tree.rooted_empty.put rfl (by simp) (Or.inr (by simp [Tree.node?, Tree.find]))).put rfl (by simp)
        (Or.inl rfl)
    have hmoves (j : Nat) (h : w.Moves (.commit : Step Unit) j .commit) : j = 0 := by
      cases h
      rfl
    have hbefore : d.committed w.files = .ok [{ id := 1 }] := by
      refine StateFile.load_of_readText ?_
      rw [Tree.readText, hs]
      rfl
    exact ⟨hx, hd, (hcommitted hrooted hfile hmoves).trans hbefore⟩

/-- A subscription whose handle ends nothing stays, and the next state is handed to it. A commit under
an overlong name may take away what the driver goes back to. -/
theorem failed_steps_that_change_something :
    (let w : World := { channels := [.scripted { subscribes := [.ok .inert, .error .noRuntime] }] }
      let x : Step Unit := .connect { followDriver := true }
      let y : Step Unit := .fire []
      (w.step x).1.succeeded = false ∧ ((w.step x).2.step y).1 = .count 1 ∧
        ∃ f, ((w.step x).2.step y).2.subscriptions[0]? = some f ∧ f.ended = false) ∧
      let d : Loopback :=
        { store := .file ⟨String.ofList (['a', '/'] ++ List.replicate 256 'L')⟩ }
      let w : World := { channels := [.loopback d] }
      let x : Step Unit := .commit
      (w.step x).1.succeeded = false ∧ d.committed w.files = .ok [] ∧
        ∃ e, d.committed (w.step x).2.files = .error e := by
  refine ⟨⟨rfl, rfl, _, rfl, rfl⟩, ?_⟩
  intro d w x
  have hmem {c : Char} (hc : c ≠ 'L') : c ∉ List.replicate 256 'L' := fun h =>
    hc (List.eq_of_mem_replicate h)
  obtain ⟨-, hbefore, hfailed, hafter⟩ := StateFile.overlong_refused
    ⟨hmem (by decide), hmem (by decide), by decide⟩ (hmem (by decide)) (by decide +kernel)
    (by decide +kernel) []
  obtain ⟨hx, hfiles⟩ := commit_refused hfailed
  exact ⟨hx, hbefore, _, (congrArg (Loopback.committed · d) hfiles).trans hafter⟩

end World
end VirtualDisplay
