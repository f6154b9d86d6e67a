import Mathlib.Data.List.TakeWhile
import VirtualDisplay.Files.Tree
import VirtualDisplay.Proofs.Text.Split

/-! Paths that never lead up. Such a path leads to one place, whatever is in the tree, and the paths that
are made of it, to what holds it and to what stands beside it, lead where their names say. -/

namespace VirtualDisplay

namespace Files.Path

open Text

variable {p d : Path} {cs dir name : List Char}

/-! ### Names on the way -/

/-- The names between slashes. -/
def parts (cs : List Char) : List String := ((pieces '/' cs).filter (· ≠ [])).map String.ofList

/-- The names between slashes that lead somewhere. -/
def steps (cs : List Char) : Place := (parts cs).filter (· ≠ ".")

/-- Where a path leads that never leads up. -/
def place (p : Path) : Place := p.names.filter (· ≠ ".")

/-- None of the names leads up. -/
def Downward (p : Path) : Prop := ".." ∉ p.names

theorem parts_append (xs ys : List Char) : parts (xs ++ '/' :: ys) = parts xs ++ parts ys := by
  rw [parts, pieces_append, List.filter_append, List.map_append]
  rfl

theorem parts_name (h : '/' ∉ name) (hn : name ≠ []) : parts name = [String.ofList name] := by
  simp [parts, pieces_of_not_mem h, hn]

theorem steps_append (xs ys : List Char) : steps (xs ++ '/' :: ys) = steps xs ++ steps ys := by
  rw [steps, parts_append, List.filter_append]
  rfl

/-- A slash at the end leads nowhere. -/
theorem steps_concat_slash (xs : List Char) : steps (xs ++ ['/']) = steps xs := by
  rw [steps_append]
  exact List.append_nil _

/-- A path to something in a directory, or without one. -/
def Directory (dir : List Char) : Prop := dir = [] ∨ ∃ cs, dir = cs ++ ['/']

theorem parts_directory (h : Directory dir) (name : List Char) :
    parts (dir ++ name) = parts dir ++ parts name := by
  rcases h with rfl | ⟨cs, rfl⟩
  · rfl
  · rw [List.append_assoc, List.singleton_append, parts_append, parts_append cs []]
    simp [parts, pieces]

/-- Names are what stands between slashes, and a dot if nothing stands after the last. -/
theorem names_eq (p : Path) :
    p.names = parts p.text.toList ++
      if (pieces '/' p.text.toList).getLast? = some [] then ["."] else [] := by
  rw [names, List.map_append, parts]
  congr 1
  split <;> rfl

theorem place_eq (p : Path) : p.place = steps p.text.toList := by
  rw [place, names_eq, List.filter_append, steps]
  split <;> simp

theorem downward_iff : p.Downward ↔ ".." ∉ p.place := by
  rw [Downward, place, List.mem_filter]
  simp

/-- A path that ends in a name goes through the names of the directory to that name. -/
theorem names_name (hdir : Directory dir) (hslash : '/' ∉ name) (hname : name ≠ []) :
    (⟨String.ofList (dir ++ name)⟩ : Path).names = parts dir ++ [String.ofList name] := by
  have hlast : (pieces '/' (dir ++ name)).getLast? = some name := by
    rcases hdir with rfl | ⟨cs, rfl⟩
    · rw [List.nil_append, pieces_of_not_mem hslash]
      rfl
    · rw [List.append_assoc, List.singleton_append, pieces_append, pieces_of_not_mem hslash,
        List.getLast?_concat]
  rw [names_eq, String.toList_ofList, hlast, parts_directory hdir, parts_name hslash hname,
    if_neg (by simpa using hname), List.append_nil]

/-! ### The last name -/

/-- What is trimmed off at the end leads nowhere. -/
theorem steps_trimBack (cs : List Char) : steps (trimBack cs).reverse = steps cs.reverse := by
  fun_induction trimBack cs with
  | case1 cs ih =>
    rw [ih]
    simp only [List.reverse_cons, List.append_assoc, List.singleton_append]
    rw [steps_concat_slash, steps_append]
    exact (List.append_nil _).symm
  | case2 => rfl
  | case3 cs hcs ih =>
    rw [ih, List.reverse_cons, steps_concat_slash]
  | case4 => rfl

/-- After trimming, a text in reverse starts with a slash only if it is all there is, and never with
a dot that a slash follows. -/
theorem trimBack_head (cs : List Char) :
    (∀ r, trimBack cs = '/' :: r → r = []) ∧ ∀ r, trimBack cs ≠ '.' :: '/' :: r := by
  fun_induction trimBack cs with
  | case1 cs ih => exact ih
  | case2 => exact ⟨by simp, by simp⟩
  | case3 cs hcs ih => exact ih
  | case4 cs h1 h2 h3 =>
    refine ⟨fun r hr => ?_, fun r hr => h1 r hr⟩
    exact absurd hr (h3 r)

/-- How a path is cut before its last name. -/
structure Cut (p : Path) (name dir : List Char) : Prop where
  slash : '/' ∉ name
  directory : Directory dir
  place : p.place = steps dir ++ steps name
  /-- A path to nothing but a dot, or without a last name, leads nowhere. -/
  nowhere : name = [] ∨ name = ['.'] → p.place = []

theorem cut_cutName (p : Path) : p.Cut p.cutName.1.reverse p.cutName.2.reverse := by
  obtain ⟨hroot, hdot⟩ := trimBack_head p.text.toList.reverse
  have hplace : p.place = steps (trimBack p.text.toList.reverse).reverse := by
    rw [steps_trimBack, List.reverse_reverse, place_eq]
  have hcut : trimBack p.text.toList.reverse = p.cutName.1 ++ p.cutName.2 :=
    List.takeWhile_append_dropWhile.symm
  have hslash : '/' ∉ p.cutName.1 := fun h => by simpa using List.mem_takeWhile_imp h
  have hdir : p.cutName.2 = [] ∨ ∃ cs, p.cutName.2 = '/' :: cs := by
    cases h : p.cutName.2 with
    | nil => exact Or.inl rfl
    | cons c cs =>
      have hc := List.head?_dropWhile_not (· ≠ '/') (trimBack p.text.toList.reverse)
      rw [show (trimBack p.text.toList.reverse).dropWhile (· ≠ '/') = c :: cs from h] at hc
      refine Or.inr ⟨cs, ?_⟩
      simpa using hc
  have hdirectory : Directory p.cutName.2.reverse := by
    rcases hdir with h | ⟨cs, h⟩
    · exact Or.inl (by rw [h, List.reverse_nil])
    · exact Or.inr ⟨cs.reverse, by rw [h, List.reverse_cons]⟩
  refine ⟨by rwa [List.mem_reverse], hdirectory, ?_, fun hname => ?_⟩
  · rw [hplace, hcut, List.reverse_append, steps, steps, steps, parts_directory hdirectory,
      List.filter_append]
  · rw [hcut] at hroot hdot hplace
    rcases hname with hname | hname <;> rw [List.reverse_eq_iff] at hname <;>
      rcases hdir with h | ⟨cs, h⟩ <;> rw [hname, h] at hroot hdot hplace
    · exact hplace
    · rw [hplace, hroot cs rfl]
      rfl
    · exact hplace
    · exact absurd rfl (hdot cs)

theorem Cut.place_concat (h : p.Cut name dir) (hname : name ≠ []) (hdot : name ≠ ['.']) :
    p.place = steps dir ++ [String.ofList name] := by
  have hne : String.ofList name ≠ "." := fun hn => hdot (by simpa using congrArg String.toList hn)
  rw [h.place, steps, steps, parts_name h.slash hname, List.filter_cons_of_pos (by simpa using hne),
    List.filter_nil]

/-! ### What holds a path, and what stands beside it -/

theorem place_parent (h : p.parent? = some d) : d.place = p.place.dropLast := by
  have hcut := p.cut_cutName
  obtain ⟨hname, hd⟩ : p.cutName.1 ≠ [] ∧ d = ofReversed (trimBack p.cutName.2) := by
    unfold parent? at h
    split at h
    · cases h
    · next hne hcut =>
      cases h
      rw [hcut]
      exact ⟨hne, rfl⟩
  have hplace : d.place = steps p.cutName.2.reverse := by
    rw [hd, place_eq, ofReversed, String.toList_ofList, steps_trimBack]
  by_cases hdot : p.cutName.1.reverse = ['.']
  · have hsteps := hcut.place
    rw [hcut.nowhere (Or.inr hdot)] at hsteps
    rw [hplace, hcut.nowhere (Or.inr hdot), (List.append_eq_nil_iff.1 hsteps.symm).1]
    rfl
  · rw [hplace, hcut.place_concat (by simpa using hname) hdot, List.dropLast_concat]

theorem Downward.parent (hp : p.Downward) (h : p.parent? = some d) : d.Downward := by
  rw [downward_iff] at hp ⊢
  rw [place_parent h]
  exact fun hmem => hp (List.dropLast_subset _ hmem)

/-- One path beside another leads through the same names to a last one, and that is a different one. -/
def Beside (p q : Path) : Prop :=
  ∃ dir name other, p.place = steps dir ++ [name] ∧ q.names = parts dir ++ [other] ∧
    other ≠ name ∧ other ≠ "."

theorem Cut.beside {other : List Char} (h : p.Cut name.reverse dir.reverse) (hname : name ≠ [])
    (hdot : name ≠ ['.']) (hslash : '/' ∉ other) (hne : other ≠ name) (hnil : other ≠ [])
    (hone : other ≠ ['.']) : p.Beside (ofReversed (other ++ dir)) := by
  refine ⟨dir.reverse, String.ofList name.reverse, String.ofList other.reverse,
    h.place_concat (by simpa using hname) (by simpa [List.reverse_eq_iff] using hdot), ?_, ?_, ?_⟩
  · rw [ofReversed, List.reverse_append, names_name h.directory (by simpa using hslash)
      (by simpa using hnil)]
  · exact fun heq => hne (by simpa using congrArg String.toList heq)
  · exact fun heq => hone (by simpa [List.reverse_eq_iff] using congrArg String.toList heq)

theorem Cut.beside_extension {ext stem : List Char} (h : p.Cut name.reverse dir.reverse)
    (hname : name ≠ []) (hdot : name ≠ ['.']) (hstem : '/' ∉ stem) (hslash : '/' ∉ ext)
    (hext : '.' ∈ ext) (hne : ext.reverse ++ '.' :: stem ≠ name) :
    p.Beside (ofReversed (ext.reverse ++ '.' :: stem ++ dir)) := by
  refine h.beside hname hdot ?_ hne (by simp) fun heq => ?_
  · simp [hslash, hstem]
  · have := congrArg List.length heq
    cases ext with
    | nil => cases hext
    | cons c cs => simp at this; omega

/-- With another extension a path leads beside itself, or nowhere if it leads nowhere. -/
theorem beside_withExtension {ext : String} (hp : p.Downward) (hdot : '.' ∈ ext.toList)
    (hslash : '/' ∉ ext.toList) :
    p.place = [] ∧ p.withExtension ext = p ∨ p.Beside (p.withExtension ext) := by
  have hcut := p.cut_cutName
  unfold withExtension
  generalize p.cutName = cut at hcut
  obtain ⟨name, dir⟩ := cut
  dsimp only at hcut ⊢
  split
  · next hname =>
    refine Or.inl ⟨?_, rfl⟩
    rcases hname with rfl | rfl | rfl
    · exact hcut.nowhere (Or.inl rfl)
    · exact hcut.nowhere (Or.inr rfl)
    · rw [downward_iff, hcut.place_concat (by decide) (by decide)] at hp
      exact absurd List.mem_concat_self hp
  · next hname =>
    right
    obtain ⟨hnil, hone, htwo⟩ : name ≠ [] ∧ name ≠ ['.'] ∧ name ≠ parentDots := by
      simpa only [not_or] using hname
    have hname : '/' ∉ name := by simpa using hcut.slash
    have hlonger : ext.toList.reverse ++ '.' :: name ≠ name := fun heq => by
      have := congrArg List.length heq
      simp at this
      omega
    split
    · exact hcut.beside_extension hnil hone hname hslash hdot hlonger
    · exact hcut.beside_extension hnil hone hname hslash hdot hlonger
    · next hstem =>
      obtain ⟨rfl, hbefore⟩ := Text.cut?_eq_some hstem
      split
      · exact hcut.beside hnil hone (by decide) (Ne.symm htwo) (by decide) (by decide)
      · refine hcut.beside_extension hnil hone (by decide) hslash hdot fun heq => hbefore ?_
        rw [← List.append_cancel_right heq]
        exact List.mem_reverse.2 hdot
    · next stem _ _ hstem =>
      obtain ⟨rfl, hbefore⟩ := Text.cut?_eq_some hstem
      have hstem : '/' ∉ stem := fun h => hname (List.mem_append_right _ (List.mem_cons_of_mem _ h))
      refine hcut.beside_extension hnil hone hstem hslash hdot fun heq => hbefore ?_
      rw [← List.append_cancel_right heq]
      exact List.mem_reverse.2 hdot

/-! ### Plain names -/

/-- A name without dots. -/
structure Plain (name : List Char) : Prop where
  slash : '/' ∉ name
  dot : '.' ∉ name
  ne_nil : name ≠ []

theorem Plain.ne_dots (h : Plain name) : String.ofList name ≠ ".." := fun heq => by
  have hlist : name = ['.', '.'] := by simpa using congrArg String.toList heq
  exact h.dot (hlist ▸ List.mem_cons_self)

theorem Plain.cutName (hdir : Directory dir) (h : Plain name) :
    (⟨String.ofList (dir ++ name)⟩ : Path).cutName = (name.reverse, dir.reverse) := by
  have htrim : trimBack (name.reverse ++ dir.reverse) = name.reverse ++ dir.reverse := by
    cases hrev : name.reverse with
    | nil => exact absurd (List.reverse_eq_nil_iff.1 hrev) h.ne_nil
    | cons c cs =>
      have hc : c ∈ name := by rw [← List.mem_reverse, hrev]; exact List.mem_cons_self
      have hslash' : c ≠ '/' := fun heq => h.slash (heq ▸ hc)
      have hdot' : c ≠ '.' := fun heq => h.dot (heq ▸ hc)
      rw [List.cons_append, trimBack] <;> simp [hslash', hdot']
  have hall : ∀ c ∈ name.reverse, decide (c ≠ '/') = true := fun c hc => by
    simpa using fun heq : c = '/' => h.slash (heq ▸ List.mem_reverse.1 hc)
  have hstop : dir.reverse.takeWhile (· ≠ '/') = [] ∧ dir.reverse.dropWhile (· ≠ '/') = dir.reverse := by
    rcases hdir with rfl | ⟨cs, rfl⟩ <;> simp
  simp only [Path.cutName, String.toList_ofList, List.reverse_append, htrim]
  rw [List.takeWhile_append_of_pos hall, List.dropWhile_append_of_pos hall, hstop.1, hstop.2,
    List.append_nil]

/-- A name without a dot keeps all of itself. -/
theorem Plain.withExtension (hdir : Directory dir) (h : Plain name) (ext : String) :
    (⟨String.ofList (dir ++ name)⟩ : Path).withExtension ext =
      ⟨String.ofList (dir ++ (name ++ '.' :: ext.toList))⟩ := by
  have hnone : Text.cut? '.' name.reverse = none := Text.cut?_of_not_mem (by simpa using h.dot)
  have hproper : ¬ (name.reverse = [] ∨ name.reverse = ['.'] ∨ name.reverse = parentDots) := by
    rintro (hrev | hrev | hrev) <;> rw [List.reverse_eq_iff] at hrev <;> subst hrev
    · exact h.ne_nil rfl
    · exact h.dot (by decide)
    · exact h.dot (by decide)
  simp only [Path.withExtension, h.cutName hdir, if_neg hproper, hnone]
  simp [ofReversed]

end Files.Path
end VirtualDisplay
