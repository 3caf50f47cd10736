import SwiftPlan.Proofs.VirtualPath.Resolution

/-!
# Sequences of operations on a path

The constructors see to it that a name is in normal form and begins at the root exactly if the path
is absolute (`WellFormed`).  Only `appending`, and what is built on it, goes through the normal form
again.  The other operations put a name together from a part of the old name and the text that they
are given, and leave it at that: the result is well-formed if the text fits (`Operation.Fits`).

For each operation this condition is exact (`wellFormed_iff_fits`), so that for a whole sequence it
is as well (`forall_wellFormed_iff`).  A directory and a working directory always fit.  A component
fits unless it begins at the root and the path is not absolute; so does a sibling of a path that has
a directory, whereas a sibling of any other path must be in normal form itself.  An extension
without slashes fits, with the exception of a dot at the root, where it makes a double dot.
-/

namespace SwiftPlan

namespace LexicalPath

variable {path ext : List Char}

/-- Only a root has nothing behind its last slash. -/
lemma eq_root_of_baseChars_eq_nil (h : normalizeChars path = path) (hbase : baseChars path = []) :
    path = ['/'] ∨ path = ['/', '/'] := by
  have hpath : path = assemble (root path) (settle path).reverse := h.symm
  cases hstack : settle path with
  | nil =>
    rw [hstack] at hpath
    rcases @root_eq path with hroot | hroot | hroot
    all_goals rw [hroot] at hpath
    · rw [hpath] at hbase
      cases hbase
    · exact .inl hpath
    · exact .inr hpath
  | cons top below =>
    have htop : IsComponent top := @isComponent_of_mem_settle path top (by simp [hstack])
    rw [hstack, List.reverse_cons, assemble_append_singleton htop.1] at hpath
    rw [hpath, baseChars_intercalate htop.2.2] at hbase
    exact absurd hbase htop.1

/-- An extension is not taken off at the root. -/
lemma eq_stem_of_baseChars_eq_nil (h : baseChars (splitExtensionChars path).1 = []) :
    (splitExtensionChars path).1 = path := by
  cases hsplit : (splitExtensionChars path).2 with
  | none => exact splitExtensionChars_fst_of_none hsplit
  | some ext =>
    obtain ⟨front, lead, hlead, -, -, hstem⟩ := exists_front_of_extension hsplit
    rw [hstem, baseChars_append hlead.1] at h
    exact absurd (List.append_eq_nil_iff.1 h).2 hlead.ne_nil

/-- A text without slashes makes the name of a file behind a dot, unless it makes a double dot. -/
lemma isFileName_append_dot {piece : List Char} (hpiece : '/' ∉ piece) (hne : ext ≠ [])
    (hslash : '/' ∉ ext) (hparent : ¬ (piece = [] ∧ ext = ['.'])) :
    IsFileName (piece ++ '.' :: ext) := by
  refine ⟨⟨by simp, fun hdot => ?_, ?_⟩, fun hdots => ?_⟩
  · have hlength := congrArg List.length hdot
    have hext := List.length_pos_of_ne_nil hne
    simp only [List.length_append, List.length_cons, List.length_nil] at hlength
    omega
  · simp [hpiece, hslash]
  · have hlength := congrArg List.length hdots
    have hext := List.length_pos_of_ne_nil hne
    simp only [parentMark, List.length_append, List.length_cons, List.length_nil] at hlength
    obtain rfl : piece = [] := List.length_eq_zero_iff.1 (by omega)
    refine hparent ⟨rfl, ?_⟩
    simpa [parentMark] using hdots

/-- An extension without slashes leaves a path normal, unless it makes a double dot of a root. -/
lemma normalizeChars_stem_append_iff (h : normalizeChars path = path) (hne : ext ≠ [])
    (hslash : '/' ∉ ext) :
    normalizeChars ((splitExtensionChars path).1 ++ '.' :: ext) =
        (splitExtensionChars path).1 ++ '.' :: ext ↔
      (ext = ['.'] → path ≠ ['/'] ∧ path ≠ ['/', '/']) := by
  have hstem := normalizeChars_stem h
  constructor
  · rintro hnormal rfl
    constructor
    all_goals
      rintro rfl
      revert hnormal
      decide
  · intro hroot
    apply normalizeChars_append_of_isFileName hstem
    apply isFileName_append_dot slash_notMem_baseChars hne hslash
    rintro ⟨hbase, hdot⟩
    -- nothing stands in front of the dot, so that the path is a root
    have hpath := eq_root_of_baseChars_eq_nil hstem hbase
    rw [eq_stem_of_baseChars_eq_nil hbase] at hpath
    exact hpath.elim (hroot hdot).1 (hroot hdot).2

end LexicalPath

namespace VirtualPath

open LexicalPath

variable {path directory result start : VirtualPath} {kind : PathKind}
  {name base text extension : String}

/-! ## Well-formed paths -/

/-- The path was made from a text. -/
def IsMade (path : VirtualPath) : Prop :=
  ∃ make ∈ [relative, absolute, temporary, ofText], ∃ text, make text = .ok path

/-- What the constructors see to: the absolute paths and no others begin at the root, and names are
in normal form.  Only a standard stream may go without a name. -/
structure WellFormed (path : VirtualPath) : Prop where
  rooted : isRooted path.name = true ↔ path.kind = .absolute
  normal : LexicalPath.normalize path.name = path.name ∨ path.isStream = true ∧ path.name = ""

instance : DecidablePred WellFormed := fun path =>
  decidable_of_iff ((isRooted path.name = true ↔ path.kind = .absolute) ∧
    (LexicalPath.normalize path.name = path.name ∨ path.isStream = true ∧ path.name = ""))
    ⟨fun h => ⟨h.1, h.2⟩, fun h => ⟨h.1, h.2⟩⟩

lemma WellFormed.normal_of_file (h : path.WellFormed) (hstream : path.isStream = false) :
    LexicalPath.normalize path.name = path.name := by
  rcases h.normal with hnormal | ⟨hstream', -⟩
  · exact hnormal
  · rw [hstream] at hstream'
    cases hstream'

lemma WellFormed.name_ne_empty (h : path.WellFormed) (hstream : path.isStream = false) :
    path.name ≠ "" := by
  intro hempty
  have hnormal := h.normal_of_file hstream
  rw [hempty] at hnormal
  revert hnormal
  decide

/-- A file whose name begins as it should is well-formed if the name is in normal form. -/
lemma wellFormed_iff_normal (hkind : kind.isStream = false)
    (hrooted : isRooted name = true ↔ kind = .absolute) :
    WellFormed ⟨kind, name⟩ ↔ LexicalPath.normalize name = name :=
  ⟨fun h => h.normal_of_file hkind, fun h => ⟨hrooted, .inl h⟩⟩

lemma wellFormed_normalize (h : isRooted text = true ↔ kind = .absolute) :
    WellFormed ⟨kind, LexicalPath.normalize text⟩ where
  rooted := by simpa [isRooted_normalize] using h
  normal := by
    left
    rw [normalize_eq_self_iff]
    simp [LexicalPath.normalize, normalizeChars_normalizeChars]

lemma IsMade.wellFormed (h : path.IsMade) : path.WellFormed := by
  have habsolute {text : String} (hrooted : isRooted text = true) :
      WellFormed ⟨.absolute, LexicalPath.normalize text⟩ :=
    wellFormed_normalize (by simp [hrooted])
  have hother {kind : PathKind} {text : String} (hkind : kind ≠ .absolute)
      (hunrooted : isUnrooted text = true) : WellFormed ⟨kind, LexicalPath.normalize text⟩ :=
    wellFormed_normalize (by simp [isRooted_of_isUnrooted hunrooted, hkind])
  obtain ⟨make, hmake, text, hpath⟩ := h
  simp only [List.mem_cons, List.not_mem_nil, or_false] at hmake
  rcases hmake with rfl | rfl | rfl | rfl
  · obtain ⟨hunrooted, rfl⟩ := relative_eq_ok.1 hpath
    exact hother (by decide) hunrooted
  · obtain ⟨hrooted, rfl⟩ := absolute_eq_ok.1 hpath
    exact habsolute hrooted
  · obtain ⟨hunrooted, rfl⟩ := temporary_eq_ok.1 hpath
    exact hother (by decide) hunrooted
  · rcases ofText_eq_ok hpath with ⟨-, rfl⟩ | ⟨-, hrooted, rfl⟩ | ⟨-, hunrooted, rfl⟩
    · exact ⟨by decide, .inr ⟨rfl, rfl⟩⟩
    · exact habsolute hrooted
    · exact hother (by decide) hunrooted

/-- Two names lead to one place, wherever they are seen from: they begin alike, and the same
components are left when double dots are worked off. -/
def SameLocation (first second : String) : Prop :=
  root first.toList = root second.toList ∧ settle first.toList = settle second.toList

instance (first second : String) : Decidable (SameLocation first second) :=
  inferInstanceAs (Decidable (_ ∧ _))

lemma eq_of_sameLocation (h : path.WellFormed) (hresult : result.WellFormed)
    (hkind : path.kind = result.kind) (hstream : path.isStream = false)
    (hsame : SameLocation path.name result.name) : path = result := by
  have hnormal : LexicalPath.normalize path.name = LexicalPath.normalize result.name := by
    rw [LexicalPath.normalize, LexicalPath.normalize, normalizeChars, normalizeChars, hsame.1,
      hsame.2]
  have hstream' : result.isStream = false := by rwa [isStream, ← hkind]
  rw [h.normal_of_file hstream, hresult.normal_of_file hstream'] at hnormal
  cases path
  cases result
  simp_all

/-! ## One operation -/

/-- What can be done to a path to get another one. -/
inductive Operation where
  | appending (component : String)
  | sibling (name : String)
  | withExtension (extension : String)
  | parent
  /-- Resolving it in the working directory with this name. -/
  | resolvedIn (directory : String)
  deriving DecidableEq, Repr

namespace Operation

/-- The path that the operation gives, unless it fails. -/
def result? : Operation → VirtualPath → Option VirtualPath
  | .appending component, path => (path.appending component).toOption
  | .sibling name, path => (path.sibling name).toOption
  | .withExtension extension, path => (path.withExtension extension).toOption
  | .parent, path => path.parent?
  | .resolvedIn directory, path => (do path.resolvedIn (← absolute directory)).toOption

/-- The text that is given to the operation makes a well-formed path of a well-formed one. -/
def Fits : Operation → VirtualPath → Prop
  | .appending component, path => isRooted component = true → path.kind = .absolute
  | .sibling name, path =>
    if path.parent?.isSome then isRooted name = true → path.kind = .absolute
    else isRooted name = false ∧
      (LexicalPath.normalize name = name ∨ path.isStream = true ∧ name = "")
  | .withExtension extension, path =>
    if '/' ∈ extension.toList then
      LexicalPath.normalize (LexicalPath.stem path.name ++ "." ++ extension) =
        LexicalPath.stem path.name ++ "." ++ extension
    else extension = "." → path.name ≠ "/" ∧ path.name ≠ "//"
  | .parent, _ => True
  | .resolvedIn _, _ => True

instance (operation : Operation) (path : VirtualPath) : Decidable (operation.Fits path) :=
  match operation with
  | .appending component =>
    inferInstanceAs (Decidable (isRooted component = true → path.kind = .absolute))
  | .sibling _ => inferInstanceAs (Decidable (ite _ _ _))
  | .withExtension _ => inferInstanceAs (Decidable (ite _ _ _))
  | .parent => inferInstanceAs (Decidable True)
  | .resolvedIn _ => inferInstanceAs (Decidable True)

end Operation

/-- Where a text is joined to the name of a directory, the kind of the path decides whether the text
may begin at the root. -/
lemma wellFormed_join_iff (hbase : base ≠ "") (hrooted : isRooted base = true ↔ kind = .absolute) :
    WellFormed ⟨kind, LexicalPath.normalize (join base text)⟩ ↔
      (isRooted text = true → kind = .absolute) := by
  cases htext : isRooted text with
  | true =>
    have hjoin : join base text = text := by
      rw [join, joinChars_of_isRooted htext, String.ofList_toList]
    rw [hjoin]
    constructor
    · intro h _
      exact h.rooted.1 (by rwa [isRooted_normalize])
    · intro h
      exact wellFormed_normalize (by simp [htext, h rfl])
  | false =>
    have hwell : WellFormed ⟨kind, LexicalPath.normalize (join base text)⟩ :=
      wellFormed_normalize (by rw [isRooted_join hbase htext, hrooted])
    simp [hwell]

lemma parent?_eq_some :
    path.parent? = some directory ↔ path.isStream = false ∧
      directoryChars path.name.toList ≠ [] ∧
        directory = ⟨path.kind, String.ofList (directoryChars path.name.toList)⟩ := by
  rw [parent?]
  cases hstream : path.isStream with
  | true => simp
  | false =>
    rw [if_neg (by simp), directory?]
    cases hdirectory : directoryChars path.name.toList with
    | nil => simp
    | cons c rest =>
      simp only [Option.map_some, Option.some.injEq, ne_eq, reduceCtorEq, not_false_eq_true,
        true_and]
      exact eq_comm

/-- The directory of a well-formed path has a name that begins where the path begins. -/
lemma WellFormed.parent (h : path.WellFormed) (hparent : path.parent? = some directory) :
    directory.kind = path.kind ∧ directory.name ≠ "" ∧ directory.WellFormed := by
  obtain ⟨hstream, hne, rfl⟩ := parent?_eq_some.1 hparent
  have hnormal := normalize_eq_self_iff.1 (h.normal_of_file hstream)
  have hrooted : isRooted (String.ofList (directoryChars path.name.toList)) = isRooted path.name := by
    rw [isRooted, isRooted, String.toList_ofList, isRooted_directoryChars hne]
  refine ⟨rfl, ?_, by rw [hrooted, h.rooted], .inl ?_⟩
  · intro hempty
    exact hne (by simpa using congrArg String.toList hempty)
  · rw [normalize_eq_self_iff, String.toList_ofList]
    exact normalizeChars_directoryChars hnormal hne

/-- A path without a directory does not begin at the root. -/
lemma WellFormed.kind_ne_absolute (h : path.WellFormed) (hparent : path.parent? = none) :
    path.kind ≠ .absolute := by
  intro hkind
  have hstream : path.isStream = false := by simp [isStream, hkind, PathKind.isStream]
  have hslash : '/' ∈ path.name.toList := slash_mem_of_isRooted (h.rooted.2 hkind)
  have hdirectory : directoryChars path.name.toList ≠ [] := fun hnil =>
    directoryChars_eq_nil_iff.1 hnil hslash
  rw [parent?_eq_some.2 ⟨hstream, hdirectory, rfl⟩] at hparent
  cases hparent

lemma WellFormed.sibling_iff (h : path.WellFormed) (hresult : path.sibling name = .ok result) :
    result.WellFormed ↔ (Operation.sibling name).Fits path := by
  rw [VirtualPath.sibling] at hresult
  simp only [Operation.Fits]
  cases hparent : path.parent? with
  | none =>
    rw [hparent] at hresult
    obtain rfl := Except.ok.inj hresult
    have hkind := h.kind_ne_absolute hparent
    constructor
    · intro hwell
      have hrooted : isRooted name = false := by
        rw [← Bool.not_eq_true]
        exact fun hrooted => hkind (hwell.rooted.1 hrooted)
      exact ⟨hrooted, hwell.normal⟩
    · rintro ⟨hrooted, hnormal⟩
      exact ⟨by simp [hrooted, hkind], hnormal⟩
  | some directory =>
    rw [hparent] at hresult
    obtain ⟨-, rfl⟩ := appending_eq_ok.1 hresult
    obtain ⟨hkind, hne, hdirectory⟩ := h.parent hparent
    rw [wellFormed_join_iff hne hdirectory.rooted, hkind]
    rfl

/-- The name of a path with another extension, or with none, begins where the path begins. -/
lemma isRooted_stem_append (h : path.WellFormed) (hstream : path.isStream = false) (tail : String) :
    isRooted (LexicalPath.stem path.name ++ tail) = true ↔ path.kind = .absolute := by
  have hname : path.name.toList ≠ [] := by simpa using h.name_ne_empty hstream
  obtain ⟨hne, rest, hrest⟩ := exists_append_stem hname
  rw [← h.rooted, isRooted, isRooted, LexicalPath.stem, String.toList_append, String.toList_ofList,
    isRooted_append hne]
  conv_rhs => rw [hrest, isRooted_append hne]

lemma WellFormed.withoutExtension (h : path.WellFormed) (hstream : path.isStream = false) :
    WellFormed ⟨path.kind, LexicalPath.stem path.name⟩ := by
  have hrooted := isRooted_stem_append h hstream ""
  rw [String.append_empty] at hrooted
  rw [wellFormed_iff_normal hstream hrooted, normalize_eq_self_iff]
  have hstem := normalizeChars_stem (normalize_eq_self_iff.1 (h.normal_of_file hstream))
  simpa [LexicalPath.stem] using hstem

lemma WellFormed.withExtension_iff (h : path.WellFormed)
    (hresult : path.withExtension extension = .ok result) :
    result.WellFormed ↔ (Operation.withExtension extension).Fits path := by
  have hstream : path.isStream = false := by
    cases hstream : path.isStream with
    | false => rfl
    | true => simp [withExtension, hstream] at hresult
  by_cases hempty : extension = ""
  · subst hempty
    obtain rfl : (⟨path.kind, LexicalPath.stem path.name⟩ : VirtualPath) = result := by
      simpa [withExtension, hstream] using hresult
    simp [h.withoutExtension hstream, Operation.Fits]
  obtain ⟨-, rfl⟩ := (withExtension_eq_ok hempty).1 hresult
  have hrooted := isRooted_stem_append h hstream ("." ++ extension)
  rw [← String.append_assoc] at hrooted
  rw [wellFormed_iff_normal hstream hrooted, Operation.Fits]
  split
  · rfl
  · next hslash =>
    have hnormal := normalize_eq_self_iff.1 (h.normal_of_file hstream)
    have hne : extension.toList ≠ [] := by simpa using hempty
    have hchars : (LexicalPath.stem path.name ++ "." ++ extension).toList =
        (splitExtensionChars path.name.toList).1 ++ '.' :: extension.toList := by
      simp [LexicalPath.stem]
    rw [normalize_eq_self_iff, hchars, normalizeChars_stem_append_iff hnormal hne hslash]
    simp only [← String.toList_inj, ne_eq]
    rfl

/-- An operation keeps the paths well-formed exactly if it fits. -/
lemma wellFormed_iff_fits {operation : Operation} (h : path.WellFormed)
    (hresult : operation.result? path = some result) :
    result.WellFormed ↔ operation.Fits path := by
  cases operation with
  | appending component =>
    obtain ⟨hstream, rfl⟩ := appending_eq_ok.1 (toOption_eq_some.1 hresult)
    exact wellFormed_join_iff (h.name_ne_empty hstream) h.rooted
  | sibling name => exact h.sibling_iff (toOption_eq_some.1 hresult)
  | withExtension extension => exact h.withExtension_iff (toOption_eq_some.1 hresult)
  | parent => exact iff_of_true (h.parent hresult).2.2 trivial
  | resolvedIn name =>
    obtain ⟨directory, hdirectory, hresolved⟩ := bind_eq_ok.1 (toOption_eq_some.1 hresult)
    obtain ⟨hrooted, rfl⟩ := absolute_eq_ok.1 hdirectory
    refine iff_of_true ?_ trivial
    rcases resolvedIn_eq_ok hresolved with rfl | ⟨-, root, hroot, rfl⟩
    · exact h
    · obtain rfl := Option.some.inj hroot
      have hbase : isRooted (LexicalPath.normalize name) = true := by rwa [isRooted_normalize]
      exact (wellFormed_join_iff (ne_empty_of_isRooted hbase) (by simp [hbase])).2 fun _ => rfl

/-! ## A sequence of operations -/

namespace Operation

/-- The path with which a sequence goes on: an operation that fails leaves the one that there is. -/
def next (operation : Operation) (path : VirtualPath) : VirtualPath :=
  (operation.result? path).getD path

end Operation

/-- The paths that are obtained from `start`, one operation after another. -/
def obtained (start : VirtualPath) : List Operation → List VirtualPath
  | [] => [start]
  | operation :: rest => start :: obtained (operation.next start) rest

/-- Every operation of the sequence that does not fail fits the path to which it is applied. -/
def AllFit (start : VirtualPath) : List Operation → Prop
  | [] => True
  | operation :: rest =>
    ((operation.result? start).isSome = true → operation.Fits start) ∧
      AllFit (operation.next start) rest

instance decidableAllFit (start : VirtualPath) :
    (operations : List Operation) → Decidable (AllFit start operations)
  | [] => isTrue trivial
  | operation :: rest =>
    have := decidableAllFit (operation.next start) rest
    inferInstanceAs (Decidable (_ ∧ _))

/-- Every path of a sequence is well-formed exactly if all operations fit. -/
lemma forall_wellFormed_iff {operations : List Operation} (h : start.WellFormed) :
    (∀ path ∈ obtained start operations, path.WellFormed) ↔ AllFit start operations := by
  induction operations generalizing start with
  | nil => simp [obtained, AllFit, h]
  | cons operation rest ih =>
    rw [obtained, List.forall_mem_cons, AllFit]
    cases hresult : operation.result? start with
    | none =>
      have hnext : operation.next start = start := by rw [Operation.next, hresult]; rfl
      rw [hnext, ih h]
      simp [h]
    | some result =>
      have hnext : operation.next start = result := by rw [Operation.next, hresult]; rfl
      have hstep := wellFormed_iff_fits h hresult
      rw [hnext]
      constructor
      · rintro ⟨-, hall⟩
        have hwell : result.WellFormed := hall result (by cases rest <;> simp [obtained])
        exact ⟨fun _ => hstep.1 hwell, (ih hwell).1 hall⟩
      · rintro ⟨hfits, hrest⟩
        have hwell : result.WellFormed := hstep.2 (hfits rfl)
        exact ⟨h, (ih hwell).2 hrest⟩

/-- Whatever is done to paths that were made from texts: if the operations fit, all paths that are
obtained are well-formed, and of two files of one kind that are in one place there is only one
path. -/
theorem wellFormed_of_obtained {operations : List Operation} (hmade : start.IsMade)
    (hfit : AllFit start operations) (hpath : path ∈ obtained start operations) :
    path.WellFormed ∧
      ∀ start' operations', IsMade start' → AllFit start' operations' →
        ∀ path' ∈ obtained start' operations', path.kind = path'.kind → path.isStream = false →
          SameLocation path.name path'.name → path = path' := by
  have hwell : path.WellFormed := (forall_wellFormed_iff hmade.wellFormed).2 hfit path hpath
  refine ⟨hwell, fun start' operations' hmade' hfit' path' hpath' hkind hstream hsame => ?_⟩
  have hwell' : path'.WellFormed := (forall_wellFormed_iff hmade'.wellFormed).2 hfit' path' hpath'
  exact eq_of_sameLocation hwell hwell' hkind hstream hsame

/-- A sibling may climb where there is a directory, and a component may begin at the root once the
path is absolute.  In between two operations fail. -/
theorem wellFormed_of_obtained_of_climbing :
    IsMade ⟨.relative, "a/b.swift"⟩ ∧
      AllFit ⟨.relative, "a/b.swift"⟩ [.withExtension "swiftdoc", .sibling "../..//c", .parent,
        .parent, .resolvedIn "w", .resolvedIn "//w/x", .appending "/y/./z", .withExtension "..",
        .parent] ∧
      ⟨.absolute, "/y"⟩ ∈ obtained ⟨.relative, "a/b.swift"⟩ [.withExtension "swiftdoc",
        .sibling "../..//c", .parent, .parent, .resolvedIn "w", .resolvedIn "//w/x",
        .appending "/y/./z", .withExtension "..", .parent] ∧
      WellFormed ⟨.absolute, "/y"⟩ ∧
      ∀ start' operations', IsMade start' → AllFit start' operations' →
        ∀ path' ∈ obtained start' operations', .absolute = path'.kind →
          isStream ⟨.absolute, "/y"⟩ = false → SameLocation "/y" path'.name →
            ⟨.absolute, "/y"⟩ = path' := by
  have hmade : IsMade ⟨.relative, "a/b.swift"⟩ := ⟨relative, by simp, "a/b.swift", by decide⟩
  refine ⟨hmade, ?fit, ?obtained, wellFormed_of_obtained hmade ?fit ?obtained⟩
  case fit => decide
  case obtained => decide

/-- The standard input has no name, and where an operation does not fit, what comes out is not
well-formed, or one more path for a place that has one. -/
theorem exists_obtained_not_wellFormed :
    (ofText "-" = .ok standardInput ∧
      LexicalPath.normalize standardInput.name ≠ standardInput.name) ∧
    (relative "a" = .ok ⟨.relative, "a"⟩ ∧
      ⟨.relative, "./b"⟩ ∈ obtained ⟨.relative, "a"⟩ [.sibling "./b"] ∧
      ¬ WellFormed ⟨.relative, "./b"⟩ ∧
      relative "b" = .ok ⟨.relative, "b"⟩ ∧ SameLocation "./b" "b") ∧
    (⟨.relative, "/b"⟩ ∈ obtained ⟨.relative, "a"⟩ [.appending "/b"] ∧
      ¬ WellFormed ⟨.relative, "/b"⟩) ∧
    (⟨.relative, "a.b/"⟩ ∈ obtained ⟨.relative, "a"⟩ [.withExtension "b/"] ∧
      ¬ WellFormed ⟨.relative, "a.b/"⟩) ∧
    (absolute "/" = .ok ⟨.absolute, "/"⟩ ∧
      ⟨.absolute, "/.."⟩ ∈ obtained ⟨.absolute, "/"⟩ [.withExtension "."] ∧
      ¬ WellFormed ⟨.absolute, "/.."⟩) ∧
    (⟨.standardInput, "."⟩ ∈ obtained standardInput [.sibling "."] ∧
      SameLocation "." standardInput.name) := by
  decide

end VirtualPath

end SwiftPlan
