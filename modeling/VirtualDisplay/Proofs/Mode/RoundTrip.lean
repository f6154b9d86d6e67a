import VirtualDisplay.Proofs.Mode.Parts

/-! Modes written and read again. The text of a mode stands for that mode and no other, and it is the
one form that all texts for the mode have in common. -/

namespace VirtualDisplay

open Text

namespace Mode

/-- What is written for the mode that a text stands for. -/
def canonical (s : String) : Except ModeTextError String := (ofText s).map text

theorem spells_digits (n : UInt32) : Spells (digits n.toNat) n :=
  ⟨[], digits n.toNat, [], by rw [List.nil_append, List.append_nil], List.forall_mem_nil _,
    List.forall_mem_nil _, word?_eq_some.1 (word?_digits n)⟩

theorem not_mem_digits {c : Char} (hc : c.isDigit = false) (n : Nat) : c ∉ digits n := by
  intro h
  rw [isDigit_of_mem_digits h] at hc
  cases hc

theorem ratesText_eq (rs : List Rate) :
    ratesText rs = ['/'].intercalate (rs.map fun r => digits r.toNat) := by
  induction rs with
  | nil => rfl
  | cons r rs ih =>
    cases rs with
    | nil => simp [ratesText]
    | cons r' rs =>
      rw [ratesText, ih]
      · simp only [List.map_cons, List.intercalate_cons_cons, List.append_assoc]
        rfl
      · exact List.cons_ne_nil r' rs

theorem parts_chars (m : Mode) : Parts m.chars (digits m.width.toNat) (digits m.height.toNat)
    (m.rates.rates.map fun r => digits r.toNat) where
  spelled := by
    rw [chars]
    cases h : m.rates.rates with
    | nil => rfl
    | cons r rs => rw [if_neg (List.cons_ne_nil r rs), ratesText_eq]; rfl
  width_x := not_mem_digits (by decide) _
  width_at := not_mem_digits (by decide) _
  height_at := not_mem_digits (by decide) _
  rates_slash r hr := by
    obtain ⟨n, -, rfl⟩ := List.mem_map.1 hr
    exact not_mem_digits (by decide) _

theorem verdict_text (m : Mode) : Verdict m.text (.ok m) := by
  have hparts := m.parts_chars
  rw [← String.toList_ofList (l := m.chars)] at hparts
  have hrates : List.Forall₂ Spells (m.rates.rates.map fun r => digits r.toNat) m.rates.rates :=
    List.forall₂_map_left_iff.2 (List.forall₂_same.2 fun r _ => spells_digits r)
  exact .mode hparts (spells_digits m.width) (spells_digits m.height) hrates
    (eraseDups_of_nodup m.rates.nodup).symm

theorem ofText_text (m : Mode) : ofText m.text = .ok m := (verdict_text m).ofText_eq

theorem text_injective : Function.Injective text := by
  intro m n h
  have hok := ofText_text m
  rw [h, ofText_text n] at hok
  exact (Except.ok.inj hok).symm

theorem ofText_eq_ok_iff_canonical {s : String} {m : Mode} :
    ofText s = .ok m ↔ canonical s = .ok m.text := by
  rw [canonical]
  cases ofText s with
  | error e => exact ⟨nofun, nofun⟩
  | ok n => simp [Except.map, text_injective.eq_iff]

/-- What is written for a mode is read as that mode. So modes are told apart by their texts, texts stand
for the same mode if the same is written for it, and writing it again changes nothing more. -/
theorem text_is_canonical :
    (∀ m : Mode, ofText m.text = .ok m) ∧ Function.Injective text ∧
    (∀ s m, ofText s = .ok m ↔ canonical s = .ok m.text) ∧
    ∀ s, (canonical s).bind ofText = ofText s ∧ (canonical s).bind canonical = canonical s := by
  refine ⟨ofText_text, text_injective, fun _ _ => ofText_eq_ok_iff_canonical, fun s => ?_⟩
  rw [canonical]
  cases hs : ofText s with
  | error e => exact ⟨rfl, rfl⟩
  | ok m =>
    refine ⟨ofText_text m, ?_⟩
    change canonical m.text = _
    rw [canonical, ofText_text]

end Mode
end VirtualDisplay
