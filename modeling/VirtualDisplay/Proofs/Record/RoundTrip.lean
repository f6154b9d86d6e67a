import VirtualDisplay.Files.StateFile
import VirtualDisplay.Proofs.Record.Values
import VirtualDisplay.Proofs.Registry.Records

/-! Records as text. Whether the text is compact or indented, and whether it is decoded loosely or
strictly, the records come back as they were, and a registry with them. -/

namespace VirtualDisplay

open Json

variable {α : Type}

theorem Loose.ofText_write (build : Value → Except RecordError α) (l : Layout) {v : Value}
    (h : v.Legible) (hp : v.plain = true) : ofText build (String.ofList (v.write l 0)) = build v := by
  rw [ofText, String.toList_ofList, readPlain_write l h hp]

theorem Strict.ofText?_write (decode : Value → Option α) (l : Layout) {v : Value} (h : v.Legible) :
    ofText? decode (String.ofList (v.write l 0)) = decode v := by
  rw [ofText?, String.toList_ofList, read_write l h]
  rfl

namespace DriverState

/-- The text of a state in a layout. -/
def textIn (l : Layout) (rs : DriverState) : String := String.ofList ((toValue rs).write l 0)

theorem loose_textIn (l : Layout) (rs : DriverState) :
    Loose.ofText Loose.monitors (textIn l rs) = .ok rs := by
  rw [textIn, Loose.ofText_write _ l (legible_toValue rs) (plain_toValue rs), Loose.monitors_toValue]

theorem strict_textIn (l : Layout) (rs : DriverState) :
    Strict.ofText? Strict.monitors? (textIn l rs) = some rs := by
  rw [textIn, Strict.ofText?_write _ l (legible_toValue rs), Strict.monitors?_toValue]

end DriverState

theorem StateFile.load_text (rs : DriverState) : Loose.ofText Loose.monitors (text rs) = .ok rs :=
  DriverState.loose_textIn .indented rs

/-- The records come back in all four ways, and so does a registry from its records. -/
theorem DriverState.decode_text :
    (∀ rs : DriverState,
      Loose.ofText Loose.monitors (String.ofList (toValue rs).compact) = .ok rs ∧
      Loose.ofText Loose.monitors (StateFile.text rs) = .ok rs ∧
      Strict.ofText? Strict.monitors? (String.ofList (toValue rs).compact) = some rs ∧
      Strict.ofText? Strict.monitors? (StateFile.text rs) = some rs) ∧
    (∀ r : Registry,
      (Loose.ofText Loose.monitors (String.ofList (toValue r.toRecords).compact)).map
        Registry.ofRecords = .ok r ∧
      (Loose.ofText Loose.monitors (StateFile.text r.toRecords)).map Registry.ofRecords = .ok r ∧
      (Strict.ofText? Strict.monitors? (String.ofList (toValue r.toRecords).compact)).map
        Registry.ofRecords = some r ∧
      (Strict.ofText? Strict.monitors? (StateFile.text r.toRecords)).map Registry.ofRecords =
        some r) := by
  have loose : ∀ (l : Layout) (r : Registry),
      (Loose.ofText Loose.monitors (textIn l r.toRecords)).map Registry.ofRecords = .ok r := by
    intro l r
    rw [loose_textIn, Except.map, Registry.ofRecords_toRecords]
  have strict : ∀ (l : Layout) (r : Registry),
      (Strict.ofText? Strict.monitors? (textIn l r.toRecords)).map Registry.ofRecords = some r := by
    intro l r
    rw [strict_textIn, Option.map_some, Registry.ofRecords_toRecords]
  refine ⟨fun rs => ⟨?_, ?_, ?_, ?_⟩, fun r => ⟨?_, ?_, ?_, ?_⟩⟩
  · exact loose_textIn .compact rs
  · exact loose_textIn .indented rs
  · exact strict_textIn .compact rs
  · exact strict_textIn .indented rs
  · exact loose .compact r
  · exact loose .indented r
  · exact strict .compact r
  · exact strict .indented r

end VirtualDisplay
