import SwiftPlan.Proofs.LexicalPath
import SwiftPlan.Proofs.Settings.Resolved

/-!
# Kinds and names of paths

Which kinds a path can have is decided where it is made.  What a user writes is the standard input,
absolute or relative, never temporary and never the standard output; and a working directory, if
there is one, is absolute, so that anchoring a path in it makes no stream and no temporary path
either.  A temporary path in a plan was therefore made by the planner itself.

A file that the planner names itself is a text in the scratch directory (`scratch`) or in the
working directory (`anchored`).  In both places the name ends as the text does, and what stands in
front of an ending does not depend on it (`exists_front_scratch`, `exists_front_anchored`).
-/

namespace SwiftPlan

namespace VirtualPath

variable {path path' : VirtualPath} {text name ext : String}

lemma isRooted_of_isUnrooted (h : isUnrooted text = true) : isRooted text = false := by
  simp only [isUnrooted, Bool.and_eq_true, Bool.not_eq_true'] at h
  exact h.2

lemma relative_eq_ok :
    relative text = .ok path ↔
      isUnrooted text = true ∧ path = ⟨.relative, LexicalPath.normalize text⟩ := by
  rw [relative]
  split
  · next h => simp [h, eq_comm]
  · next h => simp [h]

lemma absolute_eq_ok :
    absolute text = .ok path ↔
      isRooted text = true ∧ path = ⟨.absolute, LexicalPath.normalize text⟩ := by
  rw [absolute]
  split
  · next h => simp [h, eq_comm]
  · next h => simp [h]

lemma temporary_eq_ok :
    temporary text = .ok path ↔
      isUnrooted text = true ∧ path = ⟨.temporary, LexicalPath.normalize text⟩ := by
  rw [temporary]
  split
  · next h => simp [h, eq_comm]
  · next h => simp [h]

lemma isRooted_normalize : isRooted (LexicalPath.normalize text) = isRooted text := by
  rw [isRooted, isRooted, LexicalPath.normalize, String.toList_ofList,
    LexicalPath.isRooted_normalizeChars]

/-- What a user writes is a path of one of three kinds. -/
lemma ofText_eq_ok (h : ofText text = .ok path) :
    text = "-" ∧ path = standardInput ∨
      text ≠ "-" ∧ isRooted text = true ∧ path = ⟨.absolute, LexicalPath.normalize text⟩ ∨
      text ≠ "-" ∧ isUnrooted text = true ∧
        path = ⟨.relative, LexicalPath.normalize text⟩ := by
  rw [ofText] at h
  split at h
  · next hdash => exact .inl ⟨hdash, by simpa using h.symm⟩
  · next hdash =>
    split at h
    · exact .inr (.inl ⟨hdash, absolute_eq_ok.1 h⟩)
    · exact .inr (.inr ⟨hdash, relative_eq_ok.1 h⟩)

/-- A text that is not empty is a path. -/
lemma succeeds_ofText (h : text ≠ "") : Succeeds (ofText text) := by
  rw [ofText]
  split
  · exact .ok _
  · split
    · next hrooted => exact ⟨_, absolute_eq_ok.2 ⟨hrooted, rfl⟩⟩
    · next hrooted =>
      have hunrooted : isUnrooted text = true := by simp [isUnrooted, h, hrooted]
      exact ⟨_, relative_eq_ok.2 ⟨hunrooted, rfl⟩⟩

lemma appending_eq_ok {component : String} :
    path.appending component = .ok path' ↔
      path.isStream = false ∧
        path' = ⟨path.kind, LexicalPath.normalize (LexicalPath.join path.name component)⟩ := by
  rw [appending]
  split
  · next h => simp [h]
  · next h => simp [h, eq_comm]

lemma withExtension_eq_ok {extension : String} (hne : extension ≠ "") :
    path.withExtension extension = .ok path' ↔
      path.isStream = false ∧
        path' = ⟨path.kind, LexicalPath.stem path.name ++ "." ++ extension⟩ := by
  simp only [withExtension, if_neg hne]
  by_cases h : path.isStream = true
  · simp [h]
  · simp [h, eq_comm]

lemma isStream_sibling (h : path.sibling name = .ok path') : path'.isStream = path.isStream := by
  rw [sibling] at h
  split at h
  · obtain rfl : (⟨path.kind, name⟩ : VirtualPath) = path' := Except.ok.inj h
    rfl
  · next parent hparent =>
    obtain ⟨-, rfl⟩ := appending_eq_ok.1 h
    rw [parent?] at hparent
    split at hparent
    · simp at hparent
    · obtain ⟨directory, -, rfl⟩ := Option.map_eq_some_iff.1 hparent
      simp only [isStream]

lemma isStream_withExtension (hne : ext ≠ "") (h : path.withExtension ext = .ok path') :
    path'.isStream = false := by
  obtain ⟨hstream, rfl⟩ := (withExtension_eq_ok hne).1 h
  simpa only [isStream] using hstream

end VirtualPath

/-! ## Paths of a request -/

/-- A directory in which relative paths are anchored is absolute, by its kind and by its name. -/
def IsAnchor (directory : Option VirtualPath) : Prop :=
  ∀ path ∈ directory, path.kind = .absolute ∧ VirtualPath.isRooted path.name = true

lemma IsAnchor.name_ne_empty {directory : Option VirtualPath} {root : VirtualPath}
    (h : IsAnchor directory) (hroot : directory = some root) : root.name ≠ "" := by
  intro hempty
  have hrooted := (h root hroot).2
  simp [VirtualPath.isRooted, LexicalPath.isRooted, hempty] at hrooted

section

variable {directory : Option VirtualPath} {path path' : VirtualPath} {text : String}

/-- Anchoring a path moves a relative one below the directory and keeps every other one. -/
lemma resolvedIn_eq_ok (h : path.resolvedIn directory = .ok path') :
    path' = path ∨
      path.kind = .relative ∧ ∃ root ∈ directory,
        path' = ⟨root.kind, LexicalPath.normalize (LexicalPath.join root.name path.name)⟩ := by
  unfold VirtualPath.resolvedIn at h
  split at h
  · next root hkind => exact .inr ⟨hkind, root, rfl, (VirtualPath.appending_eq_ok.1 h).2⟩
  · exact .inl (by simpa using h.symm)

lemma isTemporary_resolvedIn (hanchor : IsAnchor directory)
    (h : path.resolvedIn directory = .ok path') : path'.isTemporary = path.isTemporary := by
  rcases resolvedIn_eq_ok h with rfl | ⟨hkind, root, hroot, rfl⟩
  · rfl
  · simp [VirtualPath.isTemporary, hkind, (hanchor root hroot).1]

lemma isStream_resolvedIn (hanchor : IsAnchor directory)
    (h : path.resolvedIn directory = .ok path') : path'.isStream = path.isStream := by
  rcases resolvedIn_eq_ok h with rfl | ⟨hkind, root, hroot, rfl⟩
  · rfl
  · simp [VirtualPath.isStream, PathKind.isStream, hkind, (hanchor root hroot).1]

/-- No path that a user writes is temporary. -/
lemma isTemporary_resolvePath (hanchor : IsAnchor directory)
    (h : resolvePath directory text = .ok path) : path.isTemporary = false := by
  obtain ⟨written, hwritten, hresolved⟩ := bind_eq_ok.1 h
  rw [isTemporary_resolvedIn hanchor hresolved]
  rcases VirtualPath.ofText_eq_ok hwritten with ⟨-, rfl⟩ | ⟨-, -, rfl⟩ | ⟨-, -, rfl⟩ <;> rfl

/-- The only stream that a user can write is a dash. -/
lemma isStream_resolvePath (hanchor : IsAnchor directory)
    (h : resolvePath directory text = .ok path) : path.isStream = true ↔ text = "-" := by
  obtain ⟨written, hwritten, hresolved⟩ := bind_eq_ok.1 h
  rw [isStream_resolvedIn hanchor hresolved]
  rcases VirtualPath.ofText_eq_ok hwritten with ⟨hdash, rfl⟩ | ⟨hdash, -, rfl⟩ | ⟨hdash, -, rfl⟩
  · simp [hdash, VirtualPath.isStream, VirtualPath.standardInput, PathKind.isStream]
  · simp [hdash, VirtualPath.isStream, PathKind.isStream]
  · simp [hdash, VirtualPath.isStream, PathKind.isStream]

/-- An input is the standard input, taken for a source, or a file that is anchored and has the type
of its extension. -/
lemma inputOf_eq_ok {input : TypedPath} (h : Settings.inputOf directory text = .ok input) :
    input = ⟨.standardInput, .swift⟩ ∨
      ∃ path : VirtualPath, VirtualPath.ofText text = .ok path ∧
        path.isStream = false ∧ path.isTemporary = false ∧
        (path.kind = .relative → VirtualPath.isRooted path.name = false) ∧
        path.resolvedIn directory = .ok input.path ∧
        input.type = (path.extension?.bind FileType.ofExtension?).getD .object := by
  obtain ⟨path, hpath, hrest⟩ := bind_eq_ok.1 h
  split at hrest
  · next hstdin =>
    obtain rfl := pure_eq_ok.1 hrest
    rcases VirtualPath.ofText_eq_ok hpath with ⟨-, rfl⟩ | ⟨-, -, rfl⟩ | ⟨-, -, rfl⟩
    · exact .inl rfl
    · simp at hstdin
    · simp at hstdin
  · next hstdin =>
    obtain ⟨place, hplace, hinput⟩ := bind_eq_ok.1 hrest
    obtain rfl := pure_eq_ok.1 hinput
    have hwritten : path.isStream = false ∧ path.isTemporary = false ∧
        (path.kind = .relative → VirtualPath.isRooted path.name = false) := by
      rcases VirtualPath.ofText_eq_ok hpath with ⟨-, rfl⟩ | ⟨-, -, rfl⟩ | ⟨-, hunrooted, rfl⟩
      · exact absurd rfl hstdin
      · exact ⟨rfl, rfl, by simp⟩
      · refine ⟨rfl, rfl, fun _ => ?_⟩
        rw [VirtualPath.isRooted_normalize]
        exact VirtualPath.isRooted_of_isUnrooted hunrooted
    exact .inr ⟨path, hpath, hwritten.1, hwritten.2.1, hwritten.2.2, hplace, rfl⟩

end

namespace Settings

variable {surroundings : Surroundings} {arguments : List String} {settings : Settings}
  {current : String} {options : ParsedOptions} {directory : Option VirtualPath}

lemma isAnchor_workingDirectoryOf (h : workingDirectoryOf current options = .ok directory) :
    IsAnchor directory := by
  have habsolute {text : String} {path : VirtualPath} (h : VirtualPath.absolute text = .ok path) :
      path.kind = .absolute ∧ VirtualPath.isRooted path.name = true := by
    obtain ⟨hrooted, rfl⟩ := VirtualPath.absolute_eq_ok.1 h
    exact ⟨rfl, by rwa [VirtualPath.isRooted_normalize]⟩
  intro root hroot
  rw [workingDirectoryOf] at h
  split at h
  · obtain rfl := pure_eq_ok.1 h
    simp at hroot
  · obtain ⟨path, hpath, hrest⟩ := bind_eq_ok.1 h
    split at hrest
    · next hkind =>
      obtain rfl := pure_eq_ok.1 hrest
      obtain rfl : path = root := by simpa using hroot
      rcases VirtualPath.ofText_eq_ok hpath with ⟨-, rfl⟩ | ⟨-, hrooted, rfl⟩ | ⟨-, -, rfl⟩
      · simp [VirtualPath.standardInput] at hkind
      · exact ⟨rfl, by rwa [VirtualPath.isRooted_normalize]⟩
      · simp at hkind
    · obtain ⟨joined, hjoined, hresult⟩ := bind_eq_ok.1 hrest
      obtain rfl := pure_eq_ok.1 hresult
      obtain rfl : joined = root := by simpa using hroot
      exact habsolute hjoined

/-- The working directory of a request is absolute. -/
lemma Resolved.isAnchor (h : settings.Resolved surroundings arguments) :
    IsAnchor settings.workingDirectory :=
  isAnchor_workingDirectoryOf h.workingDirectory

end Settings

/-! ## Files that the planner names -/

namespace VirtualPath

variable {directory : Option VirtualPath} {path path' : VirtualPath} {text tail ext : String}

/-- The file `text` in the scratch directory. -/
def scratch (text : String) : VirtualPath :=
  ⟨.temporary, LexicalPath.normalize text⟩

/-- The text `text` as it is seen from a directory. -/
def seenFrom (directory : Option VirtualPath) (text : String) : String :=
  match directory with
  | none => text
  | some root => LexicalPath.join root.name text

/-- The file `text` in the working directory. -/
def anchored (directory : Option VirtualPath) (text : String) : VirtualPath :=
  ⟨(directory.map (·.kind)).getD .relative, LexicalPath.normalize (seenFrom directory text)⟩

lemma temporary_eq_scratch (h : temporary text = .ok path) : path = scratch text :=
  (temporary_eq_ok.1 h).2

/-- It makes no difference that the planner normalizes a name before it anchors it. -/
lemma eq_anchored (hanchor : IsAnchor directory)
    (h : (do (← relative text).resolvedIn directory) = .ok path) :
    isRooted text = false ∧ path = anchored directory text := by
  obtain ⟨name, hname, hresolved⟩ := bind_eq_ok.1 h
  obtain ⟨hunrooted, rfl⟩ := relative_eq_ok.1 hname
  have hrooted := isRooted_of_isUnrooted hunrooted
  refine ⟨hrooted, ?_⟩
  cases directory with
  | none =>
    obtain rfl : (⟨.relative, LexicalPath.normalize text⟩ : VirtualPath) = path := by
      simpa [resolvedIn] using hresolved
    rfl
  | some root =>
    obtain ⟨-, rfl⟩ := appending_eq_ok.1 hresolved
    simp [anchored, seenFrom, LexicalPath.normalize_join (hanchor.name_ne_empty rfl) hrooted]

lemma isTemporary_anchored (hanchor : IsAnchor directory) :
    (anchored directory text).isTemporary = false := by
  cases directory with
  | none => rfl
  | some root => simp [anchored, isTemporary, (hanchor root rfl).1]

lemma isStream_anchored (hanchor : IsAnchor directory) :
    (anchored directory text).isStream = false := by
  cases directory with
  | none => rfl
  | some root => simp [anchored, isStream, PathKind.isStream, (hanchor root rfl).1]

lemma isStream_temporary (h : temporary text = .ok path) : path.isStream = false := by
  rw [temporary_eq_scratch h]
  rfl

lemma isStream_relative_resolvedIn (hanchor : IsAnchor directory)
    (h : (do (← relative text).resolvedIn directory) = .ok path) : path.isStream = false := by
  rw [(eq_anchored hanchor h).2]
  exact isStream_anchored hanchor

lemma seenFrom_append (htext : isRooted text = false)
    (htail : LexicalPath.IsEnding tail.toList) :
    seenFrom directory (text ++ tail) = seenFrom directory text ++ tail := by
  cases directory with
  | none => rfl
  | some root => exact LexicalPath.join_append htext htail.isRooted

/-- What stands in front of an ending of a scratch file does not depend on it. -/
lemma exists_front_scratch (text : String) :
    ∃ front : String, ∀ tail : String, LexicalPath.IsEnding tail.toList →
      scratch (text ++ tail) = ⟨.temporary, front ++ tail⟩ := by
  obtain ⟨front, hfront⟩ := LexicalPath.exists_front_normalize text
  exact ⟨front, fun tail htail => by rw [scratch, hfront tail htail]⟩

/-- What stands in front of an ending of a file in the working directory does not depend on it. -/
lemma exists_front_anchored (directory : Option VirtualPath) (h : isRooted text = false) :
    ∃ front : String, ∀ tail : String, LexicalPath.IsEnding tail.toList →
      anchored directory (text ++ tail) =
        ⟨(directory.map (·.kind)).getD .relative, front ++ tail⟩ := by
  obtain ⟨front, hfront⟩ := LexicalPath.exists_front_normalize (seenFrom directory text)
  exact ⟨front, fun tail htail => by
    rw [anchored, seenFrom_append h htail, hfront tail htail]⟩

/-- A file with an ending is another one than the file without. -/
lemma anchored_ne_append (h : isRooted text = false) (htail : LexicalPath.IsEnding tail.toList) :
    anchored directory text ≠ anchored directory (text ++ tail) := by
  intro hsame
  have hname := congrArg VirtualPath.name hsame
  simp only [anchored, seenFrom_append h htail] at hname
  exact LexicalPath.normalize_ne_append htail hname

/-- The file ends in this extension. -/
def HasExtension (path : VirtualPath) (ext : String) : Prop :=
  ∃ lead, path.name = lead ++ "." ++ ext

lemma hasExtension_scratch (h : LexicalPath.IsExtension ext) :
    (scratch (text ++ "." ++ ext)).HasExtension ext := by
  obtain ⟨front, hfront⟩ := exists_front_scratch text
  refine ⟨front, ?_⟩
  rw [String.append_assoc, hfront _ h.isEnding, String.append_assoc]

lemma hasExtension_anchored (hrooted : isRooted text = false) (h : LexicalPath.IsExtension ext) :
    (anchored directory (text ++ "." ++ ext)).HasExtension ext := by
  obtain ⟨front, hfront⟩ := exists_front_anchored directory hrooted
  refine ⟨front, ?_⟩
  rw [String.append_assoc, hfront _ h.isEnding, String.append_assoc]

lemma hasExtension_withExtension (hne : ext ≠ "") (h : path.withExtension ext = .ok path') :
    path'.HasExtension ext := by
  obtain ⟨-, rfl⟩ := (withExtension_eq_ok hne).1 h
  exact ⟨_, rfl⟩

/-- A file with another extension is of the same kind. -/
lemma isTemporary_withExtension (hne : ext ≠ "") (h : path.withExtension ext = .ok path') :
    path'.isTemporary = path.isTemporary := by
  obtain ⟨-, hpath⟩ := (withExtension_eq_ok hne).1 h
  have hkind : path'.kind = path.kind := by rw [hpath]
  rw [isTemporary, isTemporary, hkind]

/-- Files with different extensions are different files. -/
lemma HasExtension.unique {ext' : String} (h : path.HasExtension ext) (h' : path.HasExtension ext')
    (hext : LexicalPath.IsExtension ext) (hext' : LexicalPath.IsExtension ext') : ext = ext' := by
  obtain ⟨lead, hlead⟩ := h
  obtain ⟨lead', hlead'⟩ := h'
  exact LexicalPath.eq_of_append_extension hext hext' (hlead.symm.trans hlead')

end VirtualPath

/-- File types have extensions of their own, except for linked images. -/
lemma FileType.isExtension_extension {type : FileType} (h : type ≠ .image) :
    LexicalPath.IsExtension type.extension := by
  cases type with
  | image => exact absurd rfl h
  | _ => decide

lemma FileType.extension_of_ofExtension? {type : FileType} {extension : String}
    (h : FileType.ofExtension? extension = some type) : type.extension = extension := by
  rw [FileType.ofExtension?] at h
  split at h
  · simp at h
  · simpa using List.find?_some h

lemma FileType.ne_image_of_ofExtension? {type : FileType} {extension : String}
    (h : FileType.ofExtension? extension = some type) : type ≠ .image := by
  rintro rfl
  have hempty := FileType.extension_of_ofExtension? h
  simp [FileType.ofExtension?, ← hempty, FileType.extension] at h

lemma FileType.eq_of_extension_eq {type type' : FileType} (h : type.extension = type'.extension) :
    type = type' := by
  revert h
  cases type <;> cases type' <;> decide

end SwiftPlan
