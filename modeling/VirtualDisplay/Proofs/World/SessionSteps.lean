import VirtualDisplay.Proofs.World.Sound

/-! The invariant through the steps of sessions. A session comes and goes with its subscriptions, and
touches no other session's. -/

namespace VirtualDisplay
namespace World
namespace Sound

variable {w w' : World} {i j k : Nat} (hw : w.Sound)
include hw

/-- A session that is still what it was stays tied when subscriptions come up. -/
theorem tied_attach {s : Session} (channel : Nat) (target : Target) (g : w.Grows w')
    (h : s.Tied w i) (hsubs : w'.subscriptions = (w.attach channel target).subscriptions) :
    s.Tied w' i := by
  have old : ∀ {k : Nat} {f : Subscription}, w.subscriptions[k]? = some f →
      w'.subscriptions[k]? = w.subscriptions[k]? := by
    intro k f hf
    rw [hsubs, subscription_attach.2 (Or.inl hf), hf]
  refine hw.tied_of_grows g h ?_ fun k hk => ?_
  · obtain ⟨f, hf, -⟩ := h.source
    exact old hf
  · obtain ⟨f, hf, -⟩ := h.following k hk
    exact old hf

theorem welcome (hcur : w.current < w.channels.length) : w.welcome.Sound := by
  have e : w.Effect (.connect {} : Step Unit) .done w.welcome := .welcome
  have hne : w.channels ≠ [] := List.ne_nil_of_length_pos (by omega)
  refine hw.of_channels rfl e.grows (e.carries hne fun _ _ => hw.channel_lt) ?_ ?_
  · intro i s hs
    rcases session?_welcome.1 hs with hs | ⟨rfl, rfl⟩
    · exact hw.tied_attach _ _ e.grows (hw.tied i s hs) rfl
    · -- nothing has come in and nothing is to come, so what was pulled stands
      refine ⟨⟨_, List.getElem?_concat_length, rfl, rfl, rfl, ?_⟩, fun k hk => by cases hk⟩
      change (([] : List DriverState) ++ (w.driver w.current).events.drop
        (w.driver w.current).events.length).getLast?.getD _ = _
      rw [List.drop_length]
      rfl
  · intro k f j hf ht hc
    rcases subscription_attach.1 hf with hf | ⟨-, rfl⟩
    · obtain ⟨s, hs, hfollow⟩ := hw.owned k f j hf ht hc
      exact ⟨s, session?_welcome.2 (Or.inl hs), hfollow⟩
    · cases ht

/-- A subscription for a registry that a session does not follow through is another session's. -/
theorem owned_by_other {s : Session} {f : Subscription} (live : w.session? i = some s)
    (hk : s.following ≠ some k) (hf : w.subscriptions[k]? = some f) (ht : f.target = .registry j)
    (hc : f.cancelled = false) : ∃ t, j ≠ i ∧ w.session? j = some t ∧ t.following = some k := by
  obtain ⟨t, hlive, hfollow⟩ := hw.owned k f j hf ht hc
  refine ⟨t, ?_, hlive, hfollow⟩
  rintro rfl
  cases live.symm.trans hlive
  exact hk hfollow

theorem tie {s : Session} (live : w.session? i = some s) (loose : s.following = none) :
    (w.tie i s).Sound := by
  have e : w.Effect (.follow i true : Step Unit) .done (w.tie i s) := .tie live loose
  have hch := hw.channel_lt live
  have hne : w.channels ≠ [] := List.ne_nil_of_length_pos (by omega)
  refine hw.of_channels rfl e.grows (e.carries hne fun _ _ => hw.channel_lt) ?_ ?_
  · intro j t ht
    rcases (session?_tie live).1 ht with ⟨-, ht⟩ | ⟨rfl, rfl⟩
    · exact hw.tied_attach _ _ e.grows (hw.tied j t ht) rfl
    · have h := hw.tied_attach s.channel (.registry j) e.grows (hw.tied j s live) rfl
      refine ⟨h.source, fun k hk => ?_⟩
      cases hk
      exact ⟨_, subscription_attach.2 (Or.inr ⟨rfl, rfl⟩), rfl, rfl, rfl⟩
  · intro k f j hf ht hc
    rcases subscription_attach.1 hf with hf | ⟨rfl, rfl⟩
    · have hk : s.following ≠ some k := by simp [loose]
      obtain ⟨t, hj, hlive, hfollow⟩ := hw.owned_by_other live hk hf ht hc
      exact ⟨t, (session?_tie live).2 (Or.inl ⟨hj, hlive⟩), hfollow⟩
    · cases ht
      exact ⟨_, (session?_tie live).2 (Or.inr ⟨rfl, rfl⟩), rfl⟩

theorem edit {s : Session} (live : w.session? i = some s) (registry : Registry) :
    (w.setSession i { s with registry }).Sound := by
  have e : w.Effect (.refresh i : Step Unit) .done (w.setSession i { s with registry }) :=
    .edit live registry
  refine hw.of_channels rfl e.grows (.of_cancels (.of_eq rfl)) ?_ ?_
  · intro j t ht
    rcases (session?_edit live).1 ht with ⟨-, ht⟩ | ⟨rfl, rfl⟩
    · exact hw.tied_of_grows e.grows (hw.tied j t ht) rfl fun _ _ => rfl
    · exact hw.tied_of_grows e.grows ⟨(hw.tied j s live).source, (hw.tied j s live).following⟩ rfl
        fun _ _ => rfl
  · intro k f j hf ht hc
    obtain ⟨t, hlive, hfollow⟩ := hw.owned k f j hf ht hc
    by_cases hj : j = i
    · subst hj
      cases live.symm.trans hlive
      exact ⟨_, (session?_edit live).2 (Or.inr ⟨rfl, rfl⟩), hfollow⟩
    · exact ⟨t, (session?_edit live).2 (Or.inl ⟨hj, hlive⟩), hfollow⟩

theorem duplicate {s : Session} (live : w.session? i = some s) :
    ({ w with sessions := w.sessions ++ [{ s with following := none }] } : World).Sound := by
  have e : w.Effect (.duplicate i : Step Unit) .done
      { w with sessions := w.sessions ++ [{ s with following := none }] } := .duplicate live
  refine hw.of_channels rfl e.grows (.of_cancels (.of_eq rfl)) ?_ ?_
  · intro j t ht
    rcases session?_append.1 ht with ht | ⟨rfl, rfl, -⟩
    · exact hw.tied_of_grows e.grows (hw.tied j t ht) rfl fun _ _ => rfl
    · -- the copy shares the subscription behind the cache, and has none of its own
      have h : Session.Tied w w.sessions.length { s with following := none } :=
        ⟨(hw.tied i s live).source, fun k hk => by cases hk⟩
      exact hw.tied_of_grows e.grows h rfl fun _ _ => rfl
  · intro k f j hf ht hc
    obtain ⟨t, hlive, hfollow⟩ := hw.owned k f j hf ht hc
    exact ⟨t, session?_append.2 (Or.inl hlive), hfollow⟩

/-- The subscription behind a cache and one for a registry are never the same. -/
theorem source_ne_following {s t : Session} {l : Nat} (hs : w.session? i = some s)
    (ht : w.session? j = some t) (hl : t.following = some l) : s.cache.source ≠ l := by
  obtain ⟨f, hf, hcache, -⟩ := (hw.tied i s hs).source
  obtain ⟨f', hf', hregistry, -⟩ := (hw.tied j t ht).following l hl
  rintro rfl
  cases hf.symm.trans hf'
  rw [hcache] at hregistry
  cases hregistry

/-- Two sessions never follow through the same subscription. -/
theorem following_inj {s t : Session} {l : Nat} (hs : w.session? i = some s)
    (ht : w.session? j = some t) (hsl : s.following = some l) (htl : t.following = some l) :
    i = j := by
  obtain ⟨f, hf, hi, -⟩ := (hw.tied i s hs).following l hsl
  obtain ⟨f', hf', hj, -⟩ := (hw.tied j t ht).following l htl
  cases hf.symm.trans hf'
  rw [hi] at hj
  cases hj
  rfl

theorem unfollow {s : Session} (live : w.session? i = some s) : (w.unfollow i s).Sound := by
  have e : w.Effect (.unfollow i : Step Unit) .done (w.unfollow i s) := .unfollow live
  cases hl : s.following with
  | none =>
    simp only [World.unfollow, hl]
    exact hw
  | some l =>
    have hsubs : (w.unfollow i s).subscriptions = (w.cancel l).subscriptions := by
      simp only [World.unfollow, hl]
      rfl
    have other : ∀ {k : Nat}, k ≠ l →
        (w.unfollow i s).subscriptions[k]? = w.subscriptions[k]? := by
      intro k hk
      rw [hsubs, subscription_cancel_ne hk]
    refine hw.of_channels (channels_unfollow w i s) e.grows
      (.of_cancels (cancels_unfollow w i s)) ?_ ?_
    · intro j t ht
      rcases (session?_unfollow live).1 ht with ⟨hj, ht⟩ | ⟨rfl, rfl⟩
      · refine hw.tied_of_grows e.grows (hw.tied j t ht)
          (other (hw.source_ne_following ht live hl)) fun k hk => other ?_
        rintro rfl
        exact hj (hw.following_inj ht live hk hl)
      · have h : Session.Tied w j { s with following := none } :=
          ⟨(hw.tied j s live).source, fun k hk => by cases hk⟩
        have hsource : s.cache.source ≠ l := hw.source_ne_following live live hl
        exact hw.tied_of_grows e.grows h (other hsource) fun k hk => by cases hk
    · intro k f j hf ht hc
      rw [hsubs] at hf
      rcases subscription_cancel.1 hf with ⟨hk, hf⟩ | ⟨-, f₀, hf₀, rfl⟩
      · have hother : s.following ≠ some k := by simpa [hl] using Ne.symm hk
        obtain ⟨t, hj, hlive, hfollow⟩ := hw.owned_by_other live hother hf ht hc
        exact ⟨t, (session?_unfollow live).2 (Or.inl ⟨hj, hlive⟩), hfollow⟩
      · rw [cancelled_cancel (hw.placed f₀ (List.mem_of_getElem? hf₀))] at hc
        cases hc

/-! Dropping a session takes three steps, each of which keeps the invariant: the session stops to
follow, it goes, and the subscription behind its cache is cancelled if no session is left to it. -/

theorem discard {s : Session} (live : w.session? i = some s) (loose : s.following = none) :
    (w.setSession i { s with dropped := true }).Sound := by
  have gone : ∀ {j : Nat} {t : Session}, (w.setSession i { s with dropped := true }).session? j = some t ↔
      j ≠ i ∧ w.session? j = some t := by
    intro j t
    rw [session?_setSession (lt_of_session? live)]
    refine ⟨?_, Or.inl⟩
    rintro (h | ⟨-, rfl, h⟩)
    · exact h
    · cases h
  have g : w.Grows (w.setSession i { s with dropped := true }) :=
    .of_channels rfl fun j t ht => Or.inr ⟨j, t, (gone.1 ht).2, rfl⟩
  refine hw.of_channels rfl g (.of_cancels (.of_eq rfl)) ?_ ?_
  · intro j t ht
    exact hw.tied_of_grows g (hw.tied j t (gone.1 ht).2) rfl fun _ _ => rfl
  · intro k f j hf ht hc
    have hk : s.following ≠ some k := by simp [loose]
    obtain ⟨t, hj, hlive, hfollow⟩ := hw.owned_by_other live hk hf ht hc
    exact ⟨t, gone.2 ⟨hj, hlive⟩, hfollow⟩

theorem cancel_unsourced {l : Nat} {f : Subscription} (hf : w.subscriptions[l]? = some f)
    (hcache : f.target = .cache) (hl : w.sourced l = false) : (w.cancel l).Sound := by
  have g : w.Grows (w.cancel l) := .of_channels rfl fun j s hs => Or.inr ⟨j, s, hs, rfl⟩
  refine hw.of_channels rfl g (.of_cancels (cancels_cancel w l)) ?_ ?_
  · intro j t ht
    have h := hw.tied j t ht
    refine hw.tied_of_grows g h (subscription_cancel_ne ?_) fun k hk => subscription_cancel_ne ?_
    · exact sourced_eq_false.1 hl j t ht
    · rintro rfl
      obtain ⟨f', hf', hregistry, -⟩ := h.following _ hk
      cases hf.symm.trans hf'
      rw [hcache] at hregistry
      cases hregistry
  · intro k f' j hf' ht hc
    rcases subscription_cancel.1 hf' with ⟨-, hf'⟩ | ⟨-, f₀, hf₀, rfl⟩
    · exact hw.owned k f' j hf' ht hc
    · rw [cancelled_cancel (hw.placed f₀ (List.mem_of_getElem? hf₀))] at hc
      cases hc

theorem drop {s : Session} (live : w.session? i = some s) : (w.dropSession i s).Sound := by
  have loose := (session?_unfollow (j := i) live).2 (Or.inr ⟨rfl, rfl⟩)
  have h₁ := hw.unfollow live
  have h₂ := h₁.discard loose rfl
  obtain ⟨f, hf, hcache, -⟩ := (h₁.tied i _ loose).source
  simp only [dropSession]
  split
  · exact h₂
  · rename_i hsourced
    exact h₂.cancel_unsourced hf hcache (by simpa using hsourced)

end Sound
end World
end VirtualDisplay
