import Mathlib.Logic.Relation
import SwiftPlan.ResponseFile.Expansion
import SwiftPlan.Proofs.Outcome

/-!
# References between response files

An argument `@name` refers to the place that its name denotes, and a file that can be read refers to
the places of the arguments in it.  Names are many and places are few: `./a`, `x/../a` and `/work/a`
may all denote one place.  Whether a reference can be followed is a question about its name, as the
walk along one name may fail where the walk along another one succeeds.  `Refers` therefore takes
the names that count.

The second half says what expansion makes of one argument: an argument that is no reference or
cannot be followed stands for itself, one that leads back is noted, and any other one is replaced by
the expansion of what is in the file (`expandIn_word`, `expandIn_active`, `expandIn_unreadable`,
`expandIn_file`).  Expansion ends where a reference is not a name at all (`expandIn_improper`).  An
argument list is expanded argument by argument (`expandIn_append`).
-/

namespace SwiftPlan

namespace FileSystem

/-- The text in the file at a place. -/
def textAt? (fs : FileSystem) (place : Location) : Option (List Char) :=
  match fs.entry place with
  | .file content => decode? content
  | .directory | .missing => none

lemma textAt?_eq_some {fs : FileSystem} {place : Location} {text : List Char} :
    fs.textAt? place = some text ↔
      ∃ content, fs.files.lookup place = some content ∧ decode? content = some text := by
  rw [textAt?, entry]
  cases hfile : fs.files.lookup place with
  | some content => simp
  | none => cases hdirectory : fs.isDirectory place <;> simp

/-- What is true of all texts in the files is true of the one at a place. -/
lemma of_all_texts {fs : FileSystem} {place : Location} {text : List Char}
    {property : List Char → Bool}
    (h : (fs.files.all fun file => (decode? file.2).all property) = true)
    (htext : fs.textAt? place = some text) : property text = true := by
  obtain ⟨content, hcontent, hdecode⟩ := textAt?_eq_some.1 htext
  obtain ⟨before, after, hfiles, -⟩ := List.lookup_eq_some_iff.1 hcontent
  have hfile := List.all_eq_true.1 h (place, content) (by simp [hfiles])
  rwa [hdecode, Option.all_some] at hfile

lemma isName_of_readText? {fs : FileSystem} {name : String} {text : List Char}
    (h : fs.readText? name = some text) : fs.isName name = true := by
  cases hname : fs.isName name with
  | true => rfl
  | false => simp [readText?, read, hname] at h

/-- Reading by a name finds the text at the place that the name denotes. -/
lemma textAt?_locate {fs : FileSystem} {name : String} {text : List Char}
    (h : fs.readText? name = some text) : fs.textAt? (fs.locate name) = some text := by
  rw [readText?] at h
  split at h
  · simp at h
  · next content hread => exact textAt?_eq_some.2 ⟨content, read_eq_ok hread, h⟩

end FileSystem

namespace ResponseFile

/-! ## The reference graph -/

/-- The names of response files among arguments. -/
def references (arguments : List String) : List String :=
  arguments.filterMap (Text.after? "@")

/-- The arguments in the file at a place, if it holds a text that can be split. -/
def argumentsAt? (fs : FileSystem) (place : Location) : Option (List String) :=
  (fs.textAt? place).bind fun text => (tokens text).toOption

/-- One of the arguments refers to a place, by a name that counts. -/
def Names (fs : FileSystem) (counts : String → Prop) (arguments : List String)
    (place : Location) : Prop :=
  ∃ name ∈ references arguments, counts name ∧ fs.locate name = place

/-- The file at a place refers to another place, by a name that counts. -/
def Refers (fs : FileSystem) (counts : String → Prop) (place target : Location) : Prop :=
  ∃ arguments, argumentsAt? fs place = some arguments ∧ Names fs counts arguments target

/-- A place can be reached from the arguments along references whose names count. -/
def Reaches (fs : FileSystem) (counts : String → Prop) (arguments : List String)
    (place : Location) : Prop :=
  ∃ first, Names fs counts arguments first ∧ Relation.ReflTransGen (Refers fs counts) first place

/-- A cycle of references whose names count can be reached from the arguments. -/
def Circular (fs : FileSystem) (counts : String → Prop) (arguments : List String) : Prop :=
  ∃ place, Reaches fs counts arguments place ∧ Relation.TransGen (Refers fs counts) place place

/-- The file of this name can be read. -/
def Readable (fs : FileSystem) (name : String) : Prop :=
  (fs.readText? name).isSome = true

instance (fs : FileSystem) : DecidablePred (Readable fs) := fun name =>
  inferInstanceAs (Decidable ((fs.readText? name).isSome = true))

/-- Every name counts. -/
def AnyName (_ : String) : Prop :=
  True

/-- There is a reference by this name among the arguments, or in a file that they lead to. -/
def Mentions (fs : FileSystem) (arguments : List String) (name : String) : Prop :=
  name ∈ references arguments ∨ ∃ place words, Reaches fs (Readable fs) arguments place ∧
    argumentsAt? fs place = some words ∧ name ∈ references words

/-- Every reference is by a name that a file may have. -/
def ProperNames (fs : FileSystem) (arguments : List String) : Prop :=
  ∀ name, Mentions fs arguments name → fs.isName name = true

variable {fs : FileSystem} {counts counts' : String → Prop} {active : List Location}
  {arguments rest words first second : List String} {argument name : String} {text : List Char}
  {place target : Location}

lemma mem_references : name ∈ references arguments ↔ "@" ++ name ∈ arguments := by
  simp [references, Text.after?_eq_some_iff]

lemma argumentsAt?_locate (h : fs.readText? name = some text) (hwords : tokens text = .ok words) :
    argumentsAt? fs (fs.locate name) = some words := by
  rw [argumentsAt?, FileSystem.textAt?_locate h, Option.bind_some, hwords]
  rfl

lemma Names.mono (hcounts : ∀ name, counts name → counts' name)
    (h : Names fs counts arguments place) : Names fs counts' arguments place := by
  obtain ⟨name, hname, hcount, hplace⟩ := h
  exact ⟨name, hname, hcounts name hcount, hplace⟩

lemma Refers.mono (hcounts : ∀ name, counts name → counts' name)
    (h : Refers fs counts place target) : Refers fs counts' place target := by
  obtain ⟨words, hwords, hnames⟩ := h
  exact ⟨words, hwords, hnames.mono hcounts⟩

/-- What the file at a place reaches is reached from there by at least one reference. -/
lemma transGen_of_reaches (hwords : argumentsAt? fs place = some words)
    (h : Reaches fs counts words target) : Relation.TransGen (Refers fs counts) place target := by
  obtain ⟨first, hfirst, hwalk⟩ := h
  exact .head' ⟨words, hwords, hfirst⟩ hwalk

/-- What a file reaches that the arguments name is reached from the arguments. -/
lemma Reaches.through (hname : name ∈ references arguments) (hcount : counts name)
    (hwords : argumentsAt? fs (fs.locate name) = some words)
    (h : Reaches fs counts words target) : Reaches fs counts arguments target :=
  ⟨fs.locate name, ⟨name, hname, hcount, rfl⟩, (transGen_of_reaches hwords h).to_reflTransGen⟩

lemma readable_of_readText? (h : fs.readText? name = some text) : Readable fs name := by
  rw [Readable, h]
  rfl

lemma Names.reaches (h : Names fs counts arguments place) : Reaches fs counts arguments place :=
  ⟨place, h, .refl⟩

lemma references_subset_cons : references rest ⊆ references (argument :: rest) := fun _ hname =>
  mem_references.2 (List.mem_cons_of_mem _ (mem_references.1 hname))

lemma mem_references_cons (h : Text.after? "@" argument = some name) :
    name ∈ references (argument :: rest) := by
  rw [mem_references, ← Text.after?_eq_some_iff.1 h]
  exact List.mem_cons_self

lemma reaches_cons (h : Reaches fs counts rest place) :
    Reaches fs counts (argument :: rest) place := by
  obtain ⟨first, ⟨name, hname, hcount, hfirst⟩, hwalk⟩ := h
  exact ⟨first, ⟨name, references_subset_cons hname, hcount, hfirst⟩, hwalk⟩

/-- What the file mentions that the arguments name is mentioned by the arguments. -/
lemma Mentions.through {other : String} (hname : name ∈ references arguments)
    (hread : fs.readText? name = some text) (hwords : tokens text = .ok words)
    (h : Mentions fs words other) : Mentions fs arguments other := by
  have hat := argumentsAt?_locate hread hwords
  have hreadable := readable_of_readText? hread
  rcases h with hother | ⟨place, words', hplace, hwords', hother⟩
  · exact .inr ⟨fs.locate name, words, Names.reaches ⟨name, hname, hreadable, rfl⟩, hat, hother⟩
  · exact .inr ⟨place, words', hplace.through hname hreadable hat, hwords', hother⟩

namespace ProperNames

lemma tail (h : ProperNames fs (argument :: rest)) : ProperNames fs rest := by
  rintro name (hname | ⟨place, words, hplace, hwords, hname⟩)
  · exact h name (.inl (references_subset_cons hname))
  · exact h name (.inr ⟨place, words, reaches_cons hplace, hwords, hname⟩)

lemma through (h : ProperNames fs arguments) (hname : name ∈ references arguments)
    (hread : fs.readText? name = some text) (hwords : tokens text = .ok words) :
    ProperNames fs words :=
  fun other hother => h other (hother.through hname hread hwords)

end ProperNames

/-! ## Expansion of one argument -/

@[simp] lemma expandIn_nil : expandIn fs active [] = pure [] := by
  rw [expandIn]

lemma expandIn_word (h : Text.after? "@" argument = none) :
    expandIn fs active (argument :: rest) = (argument :: ·) <$> expandIn fs active rest := by
  rw [expandIn]
  split
  · rw [map_eq_pure_bind]
  · next other hother => simp [h] at hother

section

variable (h : Text.after? "@" argument = some name)

include h

/-- Expansion ends where a file is asked for by what is not a name. -/
lemma expandIn_improper (himproper : fs.isName name = false) :
    expandIn fs active (argument :: rest) = Diagnosed.fail .notText := by
  rw [expandIn]
  split
  · next hnone => simp [h] at hnone
  · next other hother =>
    obtain rfl : name = other := by simpa [h] using hother
    rw [if_neg (by simp [himproper])]

lemma expandIn_active (hproper : fs.isName name = true) (hactive : fs.locate name ∈ active) :
    expandIn fs active (argument :: rest) = (do
      Diagnosed.note (.responseFileCycle name)
      expandIn fs active rest) := by
  rw [expandIn]
  split
  · next hnone => simp [h] at hnone
  · next other hother =>
    obtain rfl : name = other := by simpa [h] using hother
    rw [if_pos hproper, dif_pos hactive]

lemma expandIn_unreadable (hproper : fs.isName name = true) (hactive : fs.locate name ∉ active)
    (hread : fs.readText? name = none) :
    expandIn fs active (argument :: rest) = (argument :: ·) <$> expandIn fs active rest := by
  rw [expandIn]
  split
  · next hnone => simp [h] at hnone
  · next other hother =>
    obtain rfl : name = other := by simpa [h] using hother
    rw [if_pos hproper, dif_neg hactive]
    split
    · rw [map_eq_pure_bind]
    · next text htext => simp [hread] at htext

lemma expandIn_file (hactive : fs.locate name ∉ active) (hread : fs.readText? name = some text) :
    expandIn fs active (argument :: rest) = (do
      let words ← (tokens text).mapError Failure.unexpectedBlank
      let inner ← expandIn fs (fs.locate name :: active) words
      let outer ← expandIn fs active rest
      return inner ++ outer) := by
  rw [expandIn]
  split
  · next hnone => simp [h] at hnone
  · next other hother =>
    obtain rfl : name = other := by simpa [h] using hother
    rw [if_pos (FileSystem.isName_of_readText? hread), dif_neg hactive]
    split
    · next hnone => simp [hread] at hnone
    · next other hother =>
      obtain rfl : text = other := by simpa [hread] using hother
      rfl

/-- A file that can be split is replaced by the expansion of what is in it. -/
lemma expandIn_splittable (hactive : fs.locate name ∉ active)
    (hread : fs.readText? name = some text) (hwords : tokens text = .ok words) :
    expandIn fs active (argument :: rest) = (do
      let inner ← expandIn fs (fs.locate name :: active) words
      let outer ← expandIn fs active rest
      return inner ++ outer) := by
  rw [expandIn_file h hactive hread, hwords]
  rfl

/-- Expansion ends where a file cannot be split. -/
lemma expandIn_unsplittable {position : TextPosition} (hactive : fs.locate name ∉ active)
    (hread : fs.readText? name = some text) (hwords : tokens text = .error position) :
    expandIn fs active (argument :: rest) = Diagnosed.fail (.unexpectedBlank position) := by
  rw [expandIn_file h hactive hread, hwords]
  rfl

end

/-- Arguments are expanded one after another: what some of them expand to does not depend on the
others. -/
lemma expandIn_append :
    expandIn fs active (first ++ second) = (do
      let front ← expandIn fs active first
      let back ← expandIn fs active second
      return front ++ back) := by
  induction first with
  | nil => simp only [List.nil_append, expandIn_nil, pure_bind, bind_pure]
  | cons argument rest ih =>
    rw [List.cons_append]
    cases hargument : Text.after? "@" argument with
    | none =>
      rw [expandIn_word hargument, expandIn_word hargument, ih]
      simp only [map_eq_pure_bind, bind_assoc, pure_bind, List.cons_append]
    | some name =>
      cases hproper : fs.isName name with
      | false =>
        rw [expandIn_improper hargument hproper, expandIn_improper hargument hproper]
        rfl
      | true =>
        by_cases hactive : fs.locate name ∈ active
        · rw [expandIn_active hargument hproper hactive, expandIn_active hargument hproper hactive,
            ih, bind_assoc]
        · cases hread : fs.readText? name with
          | none =>
            rw [expandIn_unreadable hargument hproper hactive hread,
              expandIn_unreadable hargument hproper hactive hread, ih]
            simp only [map_eq_pure_bind, bind_assoc, pure_bind, List.cons_append]
          | some text =>
            rw [expandIn_file hargument hactive hread, expandIn_file hargument hactive hread, ih]
            simp only [bind_assoc, pure_bind, List.append_assoc]

end ResponseFile

end SwiftPlan
