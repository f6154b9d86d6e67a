import VirtualDisplay.Proofs.Record.RoundTrip
import VirtualDisplay.Wire.Decode

/-! Commands as text. Every command comes back from its text as it was. Nothing in the text of a union
says which kind of command it holds; still the kind comes back too, since no text of one kind is taken
by the decoder of the other. -/

namespace VirtualDisplay

open Json

namespace Wire

/-- The text of a command in a layout. -/
def textIn (l : Layout) (v : Value) : String := String.ofList (v.write l 0)

theorem ofText?_textIn {α : Type} (decode : Value → Option α) (l : Layout) {v : Value}
    (h : v.Legible) : Strict.ofText? decode (textIn l v) = decode v :=
  Strict.ofText?_write decode l h

/-! ### Names and payloads -/

section
variable (name : String) {payload : Value}

theorem legible_tagged (h : payload.Legible) : (tagged name payload).Legible :=
  Value.legible_ofFields (by simpa using h)

theorem within_tagged {levels : Nat} (h : payload.within levels = true) :
    (tagged name payload).within (levels + 1) = true :=
  Value.within_ofFields (by simpa using h)

theorem plain_tagged_state (rs : DriverState) :
    (tagged name (DriverState.toValue rs)).plain = true :=
  within_tagged name (DriverState.within_toValue rs 121)

@[simp] theorem split?_tagged : split? (tagged name payload) = some (points name, some payload) := rfl

@[simp] theorem split?_ofText : split? (.ofText name) = some (points name, none) := rfl

end

theorem list?_words (ids : List Id) :
    Strict.list? Strict.word? (.array (ids.map .ofWord)) = some ids :=
  Strict.list?_map Strict.word?_ofWord ids

end Wire

open Wire

/-! ### Values of commands: legible, and such that they can be held -/

theorem DriverCommand.legible_toValue (c : DriverCommand) : c.toValue.Legible := by
  cases c with
  | notify monitors => exact legible_tagged _ (DriverState.legible_toValue monitors)
  | remove ids => exact legible_tagged _ (Value.allLegible_map Value.legible_ofWord ids)
  | removeAll => exact Value.legible_ofText _

theorem DriverCommand.plain_toValue (c : DriverCommand) : c.toValue.plain = true := by
  cases c with
  | notify monitors => exact plain_tagged_state _ monitors
  | remove ids =>
    have hids : (Value.array (ids.map .ofWord)).within 126 = true :=
      Value.allWithin_map (Value.within_ofWord · 125) ids
    exact within_tagged _ hids
  | removeAll => exact Value.within_ofText _ _

theorem RequestCommand.legible_toValue (c : RequestCommand) : c.toValue.Legible := by
  cases c
  exact Value.legible_ofText _

theorem RequestCommand.plain_toValue (c : RequestCommand) : c.toValue.plain = true := by
  cases c
  exact Value.within_ofText _ _

theorem ReplyCommand.legible_toValue (c : ReplyCommand) : c.toValue.Legible := by
  cases c with
  | state monitors => exact legible_tagged _ (DriverState.legible_toValue monitors)

theorem ReplyCommand.plain_toValue (c : ReplyCommand) : c.toValue.plain = true := by
  cases c with
  | state monitors => exact plain_tagged_state _ monitors

theorem EventCommand.legible_toValue (c : EventCommand) : c.toValue.Legible := by
  cases c with
  | changed monitors => exact legible_tagged _ (DriverState.legible_toValue monitors)

theorem EventCommand.plain_toValue (c : EventCommand) : c.toValue.plain = true := by
  cases c with
  | changed monitors => exact plain_tagged_state _ monitors

theorem ServerCommand.legible_toValue (c : ServerCommand) : c.toValue.Legible := by
  cases c with
  | driver c => exact c.legible_toValue
  | request c => exact c.legible_toValue

theorem ServerCommand.plain_toValue (c : ServerCommand) : c.toValue.plain = true := by
  cases c with
  | driver c => exact c.plain_toValue
  | request c => exact c.plain_toValue

theorem ClientCommand.legible_toValue (c : ClientCommand) : c.toValue.Legible := by
  cases c with
  | reply c => exact c.legible_toValue
  | event c => exact c.legible_toValue

theorem ClientCommand.plain_toValue (c : ClientCommand) : c.toValue.plain = true := by
  cases c with
  | reply c => exact c.plain_toValue
  | event c => exact c.plain_toValue

namespace Wire

/-! ### One kind of command -/

theorem driver?_toValue (c : DriverCommand) : driver? c.toValue = some c := by
  cases c with
  | notify monitors => simp [driver?, DriverCommand.toValue, Strict.monitors?_toValue]
  | remove ids => simp [driver?, DriverCommand.toValue, list?_words]
  | removeAll => simp [driver?, DriverCommand.toValue, bare]

theorem request?_toValue (c : RequestCommand) : request? c.toValue = some c := by
  cases c
  simp [request?, RequestCommand.toValue, bare]

theorem reply?_toValue (c : ReplyCommand) : reply? c.toValue = some c := by
  cases c
  simp [reply?, ReplyCommand.toValue, Strict.monitors?_toValue]

theorem event?_toValue (c : EventCommand) : event? c.toValue = some c := by
  cases c
  simp [event?, EventCommand.toValue, Strict.monitors?_toValue]

/-! ### The other kind -/

theorem request?_driver (c : DriverCommand) : request? c.toValue = none := by
  cases c <;> simp [request?, DriverCommand.toValue]

theorem driver?_request (c : RequestCommand) : driver? c.toValue = none := by
  cases c
  simp [driver?, RequestCommand.toValue]

theorem event?_reply (c : ReplyCommand) : event? c.toValue = none := by
  cases c
  simp [event?, ReplyCommand.toValue]

theorem reply?_event (c : EventCommand) : reply? c.toValue = none := by
  cases c
  simp [reply?, EventCommand.toValue]

/-! ### Unions -/

theorem server?_toValue (c : ServerCommand) : server? c.toValue = some c := by
  rw [server?, if_pos c.plain_toValue]
  cases c with
  | driver c => simp [ServerCommand.toValue, driver?_toValue]
  | request c => simp [ServerCommand.toValue, driver?_request, request?_toValue]

theorem client?_toValue (c : ClientCommand) : client? c.toValue = some c := by
  rw [client?, if_pos c.plain_toValue]
  cases c with
  | reply c => simp [ClientCommand.toValue, reply?_toValue]
  | event c => simp [ClientCommand.toValue, reply?_event, event?_toValue]

/-- Every command comes back from its text, and a command of a union comes back in its own arm, by the
union as by the decoder of that arm, and not by that of the other. -/
theorem decode_textIn (l : Layout) :
    (∀ c : DriverCommand, Strict.ofText? driver? (textIn l c.toValue) = some c) ∧
    (∀ c : RequestCommand, Strict.ofText? request? (textIn l c.toValue) = some c) ∧
    (∀ c : ReplyCommand, Strict.ofText? reply? (textIn l c.toValue) = some c) ∧
    (∀ c : EventCommand, Strict.ofText? event? (textIn l c.toValue) = some c) ∧
    (∀ c : ServerCommand, Strict.ofText? server? (textIn l c.toValue) = some c) ∧
    (∀ c : ClientCommand, Strict.ofText? client? (textIn l c.toValue) = some c) ∧
    (∀ c, Strict.ofText? driver? (textIn l (ServerCommand.driver c).toValue) = some c ∧
      Strict.ofText? request? (textIn l (ServerCommand.driver c).toValue) = none) ∧
    (∀ c, Strict.ofText? request? (textIn l (ServerCommand.request c).toValue) = some c ∧
      Strict.ofText? driver? (textIn l (ServerCommand.request c).toValue) = none) ∧
    (∀ c, Strict.ofText? reply? (textIn l (ClientCommand.reply c).toValue) = some c ∧
      Strict.ofText? event? (textIn l (ClientCommand.reply c).toValue) = none) ∧
    (∀ c, Strict.ofText? event? (textIn l (ClientCommand.event c).toValue) = some c ∧
      Strict.ofText? reply? (textIn l (ClientCommand.event c).toValue) = none) := by
  refine ⟨fun c => ?_, fun c => ?_, fun c => ?_, fun c => ?_, fun c => ?_, fun c => ?_,
    fun c => ?_, fun c => ?_, fun c => ?_, fun c => ?_⟩
  · rw [ofText?_textIn _ l c.legible_toValue, driver?_toValue]
  · rw [ofText?_textIn _ l c.legible_toValue, request?_toValue]
  · rw [ofText?_textIn _ l c.legible_toValue, reply?_toValue]
  · rw [ofText?_textIn _ l c.legible_toValue, event?_toValue]
  · rw [ofText?_textIn _ l c.legible_toValue, server?_toValue]
  · rw [ofText?_textIn _ l c.legible_toValue, client?_toValue]
  · have h := (ServerCommand.driver c).legible_toValue
    rw [ofText?_textIn _ l h, ofText?_textIn _ l h]
    exact ⟨driver?_toValue c, request?_driver c⟩
  · have h := (ServerCommand.request c).legible_toValue
    rw [ofText?_textIn _ l h, ofText?_textIn _ l h]
    exact ⟨request?_toValue c, driver?_request c⟩
  · have h := (ClientCommand.reply c).legible_toValue
    rw [ofText?_textIn _ l h, ofText?_textIn _ l h]
    exact ⟨reply?_toValue c, event?_reply c⟩
  · have h := (ClientCommand.event c).legible_toValue
    rw [ofText?_textIn _ l h, ofText?_textIn _ l h]
    exact ⟨event?_toValue c, reply?_event c⟩

end Wire
end VirtualDisplay
