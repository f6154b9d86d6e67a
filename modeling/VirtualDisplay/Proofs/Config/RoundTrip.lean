import VirtualDisplay.Config.Location
import VirtualDisplay.Proofs.Files.Tree
import VirtualDisplay.Proofs.Toml.Lines

/-! Settings that are written come back, whatever text is in them, also through a file. -/

namespace VirtualDisplay.ClientConfig

open Files Toml

variable {c : ClientConfig} {s : String}

/-! ### Text -/

section

variable {d d' e : Document} {cs text : List Char} {key : String} {v : Value}

theorem readsTo_heading (hkey : Bare key) (hopen : d.openTable [] key = some d')
    (h : d'.ReadsTo cs e) : d.ReadsTo (heading key ++ cs) e := by
  rw [heading, List.cons_append, List.cons_append, List.append_assoc]
  exact .heading hkey hopen h

theorem readsTo_line (hkey : Bare key) (hvalue : Denotes text v) (hadd : d.add [] key v = some d')
    (h : d'.ReadsTo cs e) : d.ReadsTo (line key text ++ cs) e := by
  rw [line, List.append_assoc, List.append_assoc, List.append_assoc]
  exact .entry hkey hvalue hadd h

end

theorem denotes_boolText (b : Bool) : Denotes (boolText b) (.boolean b) := by
  cases b <;> exact ⟨fun _ => rfl, fun _ _ _ => rfl⟩

/-- The table of the driver. There is no entry for a file that is not set. -/
def driverEntries (c : DriverConfig) : Entries :=
  (c.stateFile.map fun f => ("state_file", .string f)).toList ++
    [("event_capacity", .integer c.eventCapacity)]

def entries (c : ClientConfig) : Entries :=
  [("logging", .table .header [("level", .string c.logging.level)]),
    ("session", .table .header [("follow_driver", .boolean c.session.followDriver)]),
    ("driver", .table .header (driverEntries c.driver))]

theorem read_chars (hc : c.driver.eventCapacity < Text.signedLimit) {cs : List Char}
    (hcs : c.chars? = some cs) : Toml.read cs = some c.entries := by
  rw [chars?, if_pos hc, Option.some.injEq] at hcs
  subst hcs
  simp only [List.append_assoc]
  rw [← List.append_nil (line "event_capacity" _)]
  have hcapacity := denotes_integer hc
  refine read_of_readsTo (e := ⟨c.entries, ["driver"]⟩) nofun ?_
  refine readsTo_heading (by decide) rfl ?_
  refine readsTo_line (by decide) (denotes_string _) rfl (.lineBreak ?_)
  refine readsTo_heading (by decide) rfl ?_
  refine readsTo_line (by decide) (denotes_boolText _) rfl (.lineBreak ?_)
  refine readsTo_heading (by decide) rfl ?_
  -- the table of the driver has one entry or two
  rcases c with ⟨⟨level⟩, ⟨follow⟩, ⟨file, capacity⟩⟩
  cases file with
  | none => exact readsTo_line (by decide) hcapacity rfl (.nil _)
  | some f =>
    refine readsTo_line (by decide) (denotes_string f) rfl ?_
    exact readsTo_line (by decide) hcapacity rfl (.nil _)

theorem ofEntries?_entries (c : ClientConfig) : ofEntries? c.entries = some c := by
  rcases c with ⟨⟨level⟩, ⟨follow⟩, ⟨file, capacity⟩⟩
  cases file <;> rfl

theorem text?_eq_some (hc : c.driver.eventCapacity < Text.signedLimit) : ∃ s, c.text? = some s :=
  ⟨_, by rw [text?, chars?, if_pos hc, Option.map_some]⟩

theorem ofText?_of_text? (h : c.text? = some s) : ofText? s = some c := by
  obtain ⟨cs, hcs, rfl⟩ := Option.map_eq_some_iff.1 h
  have hc : c.driver.eventCapacity < Text.signedLimit := by
    unfold chars? at hcs
    split at hcs
    · assumption
    · cases hcs
  rw [ofText?, String.toList_ofList, read_chars hc hcs, Option.bind_some, ofEntries?_entries]

/-! ### Files -/

theorem save_ok {path : Path} {t : Tree} (h : (save path c t).1 = .ok ()) :
    ∃ s t', c.text? = some s ∧ (Tree.write path (.text s) t').1 = .ok () ∧
      (save path c t).2 = (Tree.write path (.text s) t').2 := by
  simp only [save] at h ⊢
  split at h
  · cases h
  · next t' hdir =>
    cases hs : c.text? with
    | none =>
      rw [hs] at h
      cases h
    | some s =>
      simp only [hs] at h ⊢
      refine ⟨s, t', rfl, ?_⟩
      split at h
      · cases h
      · next t'' hw => simp [hw]

theorem load_of_save {path : Path} {t : Tree} (h : (save path c t).1 = .ok ()) :
    load path (save path c t).2 = .ok c := by
  obtain ⟨s, t', hs, hwrite, hsave⟩ := save_ok h
  rw [load, hsave, Tree.readText_write hwrite]
  simp only [ofText?_of_text? hs]

/-- Settings whose capacity a signed 64-bit number holds can be written, and are read back from their
text, and from any file that they could be written to. -/
theorem round_trip (hc : c.driver.eventCapacity ≤ 0x7fffffffffffffff) :
    (∃ s, c.text? = some s ∧ ofText? s = some c) ∧
    ∀ path t, (save path c t).1 = .ok () → load path (save path c t).2 = .ok c := by
  obtain ⟨s, hs⟩ := text?_eq_some (Nat.lt_succ_of_le hc)
  exact ⟨⟨s, hs, ofText?_of_text? hs⟩, fun _ _ => load_of_save⟩

/-- The level ends with quotes of both kinds after a line break, and the name of the file is empty. -/
theorem round_trip_of_quotes :
    let c : ClientConfig :=
      { logging := { level := "\r\n'''\"\"" }, driver := { stateFile := some "" } }
    c.driver.eventCapacity ≤ 0x7fffffffffffffff ∧ (∃ s, c.text? = some s ∧ ofText? s = some c) ∧
      (save ⟨"a"⟩ c {}).1 = .ok () ∧ load ⟨"a"⟩ (save ⟨"a"⟩ c {}).2 = .ok c := by
  intro c
  have hc : c.driver.eventCapacity ≤ 0x7fffffffffffffff := by decide
  obtain ⟨⟨s, hs, htext⟩, hload⟩ := round_trip hc
  have hplace : ({} : Tree).resolve ⟨"a"⟩ = .ok ["a"] :=
    Tree.resolve_of_accepts (Tree.accepts_iff.2 (by decide)) (by decide)
  have hparent : (Files.Path.mk "a").parent?.filter (·.text ≠ "") = none := by decide +kernel
  have hsave : (save ⟨"a"⟩ c {}).1 = .ok () := by
    simp only [save, hparent, hs, Option.map_none, Option.getD_none]
    rw [Tree.write_eq hplace nofun]
  exact ⟨hc, ⟨s, hs, htext⟩, hsave, hload _ _ hsave⟩

end VirtualDisplay.ClientConfig
