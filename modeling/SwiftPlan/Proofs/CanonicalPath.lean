import SwiftPlan.Proofs.VirtualPath

/-!
# Canonical paths

Only some of the steps from path to path bring their result to its normal form.  The others put a
text together from a name that they find and an ending that they choose, and rely on that the result
is in normal form again.  This is so: a normal form with something at its end that has no slash and
is not made of dots alone is a normal form (`normalizeChars_append_of_normal`), even if it was a
dot, a double dot or the root before; and so is one whose last piece has got another extension
(`normalizeChars_withExtension`).

A path is canonical if its name is in normal form and fits its kind (`VirtualPath.Canonical`).  A
temporary path must be one piece then, so that it stays in the scratch directory wherever that is
(`isChildOf_render`).  Everything that makes a path makes a canonical one, or keeps it canonical.
-/

namespace SwiftPlan

namespace LexicalPath

variable {path piece tail first second : List Char} {stack below parts : List (List Char)}
  {rooted : Bool}

/-! ## Normal forms -/

lemma length_push_le : (push rooted stack piece).length ≤ stack.length + 1 := by
  unfold push
  split
  · cases stack with
    | nil => cases rooted <;> simp
    | cons top below =>
      dsimp only
      split
      · simp
      · simp only [List.length_cons]
        omega
  · simp

lemma length_foldl_push_le :
    (parts.foldl (push rooted) stack).length ≤ stack.length + parts.length := by
  induction parts generalizing stack with
  | nil => simp
  | cons part rest ih =>
    have hpush : (push rooted stack part).length ≤ stack.length + 1 := length_push_le
    have hrest : (rest.foldl (push rooted) (push rooted stack part)).length ≤
        (push rooted stack part).length + rest.length := ih
    simp only [List.foldl_cons, List.length_cons]
    omega

/-- What is left of a path is left alone, and so is what stands in front of its last component. -/
lemma foldl_push_of_cons {top : List Char}
    (h : (top :: below).reverse.foldl (push rooted) [] = top :: below) :
    below.reverse.foldl (push rooted) [] = below := by
  rw [List.reverse_cons, List.foldl_append, List.foldl_cons, List.foldl_nil] at h
  have hlength : (below.reverse.foldl (push rooted) []).length ≤ below.length := by
    have hle := @length_foldl_push_le [] below.reverse rooted
    simpa using hle
  generalize below.reverse.foldl (push rooted) [] = before at h hlength
  unfold push at h
  split at h
  · cases before with
    | nil =>
      cases rooted with
      | true => simp at h
      | false => exact (List.cons.inj h).2
    | cons last front =>
      dsimp only at h
      split at h
      · exact (List.cons.inj h).2
      · -- a component was taken away, so that there is not enough left
        have hsame := congrArg List.length h
        simp only [List.length_cons] at hsame hlength
        omega
  · exact (List.cons.inj h).2

lemma foldl_push_settle :
    (settle path).reverse.foldl (push !(root path).isEmpty) [] = settle path := by
  have hsettled := @settle_normalizeChars path
  rw [settle, components_normalizeChars, root_normalizeChars] at hsettled
  exact hsettled

/-- The text names a file in a directory: it is one component and leads down. -/
def IsFileName (name : List Char) : Prop :=
  IsComponent name ∧ name ≠ parentMark

lemma IsEnding.isFileName (h : IsEnding tail) (hpiece : '/' ∉ piece) : IsFileName (piece ++ tail) :=
  h.isComponent_append hpiece

lemma intercalate_append_singleton (hparts : parts ≠ []) :
    ['/'].intercalate (parts ++ [piece]) = ['/'].intercalate parts ++ '/' :: piece := by
  induction parts with
  | nil => exact absurd rfl hparts
  | cons part rest ih =>
    cases rest with
    | nil => simp [List.intercalate_cons_cons]
    | cons next others =>
      simp only [List.cons_append, List.intercalate_cons_cons] at ih ⊢
      rw [ih (List.cons_ne_nil _ _)]
      simp only [List.append_assoc]

lemma assemble_append_singleton {front : List Char} (hpiece : piece ≠ []) :
    assemble front (parts ++ [piece]) = front ++ ['/'].intercalate (parts ++ [piece]) := by
  unfold assemble
  split
  · next hempty =>
    have hnil : ['/'].intercalate (parts ++ [piece]) = [] := (List.append_eq_nil_iff.1 hempty).2
    rw [← List.nil_append piece, intercalate_append_last] at hnil
    exact absurd (List.append_eq_nil_iff.1 hnil).2 hpiece
  · rfl

/-- Components from which nothing can be worked off any more make a normal form. -/
lemma normalizeChars_assemble (hstack : ∀ part ∈ stack, IsComponent part)
    (hsettled : stack.reverse.foldl (push !(root path).isEmpty) [] = stack) :
    normalizeChars (assemble (root path) stack.reverse) = assemble (root path) stack.reverse := by
  have hparts : ∀ part ∈ stack.reverse, IsComponent part := fun part hpart =>
    hstack part (List.mem_reverse.1 hpart)
  have hsettle : settle (assemble (root path) stack.reverse) = stack := by
    rw [settle, components_assemble hparts, root_assemble hparts, hsettled]
  rw [normalizeChars, hsettle, root_assemble hparts]

lemma normalizeChars_assemble_append (hbelow : ∀ part ∈ below, IsComponent part)
    (hsettled : below.reverse.foldl (push !(root path).isEmpty) [] = below)
    (hpiece : IsFileName piece) :
    normalizeChars (assemble (root path) (below.reverse ++ [piece])) =
      assemble (root path) (below.reverse ++ [piece]) := by
  rw [← List.reverse_cons]
  apply normalizeChars_assemble (List.forall_mem_cons.2 ⟨hpiece.1, hbelow⟩)
  rw [List.reverse_cons, List.foldl_append, hsettled]
  exact if_neg hpiece.2

/-- The last of several pieces is what stands behind the last slash. -/
lemma baseChars_intercalate (hpiece : '/' ∉ piece) :
    baseChars (root path ++ ['/'].intercalate (parts ++ [piece])) = piece := by
  have hslash (front : List Char) : baseChars (front ++ '/' :: piece) = piece := by
    rw [baseChars, splitAtLast?_append_cons hpiece]
  by_cases hparts : parts = []
  · have hsingle : ['/'].intercalate ([] ++ [piece]) = piece := by simp
    rw [hparts, hsingle]
    rcases @root_eq path with hroot | hroot | hroot <;> rw [hroot]
    · rw [List.nil_append, baseChars, splitAtLast?_eq_none hpiece]
    · exact hslash []
    · exact hslash ['/']
  · rw [intercalate_append_singleton hparts, ← List.append_assoc, hslash]

/-- A normal form stays one if something is written at its end that makes its last piece the name of
a file. -/
lemma normalizeChars_append_of_isFileName (h : normalizeChars path = path)
    (htail : IsFileName (baseChars path ++ tail)) : normalizeChars (path ++ tail) = path ++ tail := by
  have hsettled := @foldl_push_settle path
  have hparts := @isComponent_of_mem_settle path
  have hpath : path = assemble (root path) (settle path).reverse := h.symm
  cases hstack : settle path with
  | nil =>
    have hsame {piece : List Char} (hpiece : IsFileName piece) :
        normalizeChars (root path ++ piece) = root path ++ piece := by
      have hjoined : assemble (root path) ([].reverse ++ [piece]) = root path ++ piece := by
        rw [List.reverse_nil, assemble_append_singleton hpiece.1.1]
        simp
      rw [← hjoined]
      exact normalizeChars_assemble_append (by simp) rfl hpiece
    rw [hstack] at hpath
    -- the path is a dot if it has no slashes in front, and otherwise these slashes
    rcases @root_eq path with hroot | hroot | hroot
    all_goals
      rw [hroot] at hpath hsame
      rw [hpath] at htail ⊢
      exact hsame htail
  | cons top below =>
    rw [hstack] at hsettled hparts hpath
    obtain ⟨htop, hbelow⟩ := List.forall_mem_cons.1 hparts
    rw [List.reverse_cons, assemble_append_singleton htop.1] at hpath
    have htail' : IsFileName (top ++ tail) := by
      rwa [hpath, baseChars_intercalate htop.2.2] at htail
    have hjoined : path ++ tail = assemble (root path) (below.reverse ++ [top ++ tail]) := by
      rw [assemble_append_singleton htail'.1.1, intercalate_append_last, ← List.append_assoc,
        ← hpath]
    rw [hjoined]
    exact normalizeChars_assemble_append hbelow (foldl_push_of_cons hsettled) htail'

lemma normalizeChars_append_of_normal (h : normalizeChars path = path) (htail : IsEnding tail) :
    normalizeChars (path ++ tail) = path ++ tail :=
  normalizeChars_append_of_isFileName h (htail.isFileName slash_notMem_baseChars)

lemma normalizeChars_of_isFileName (h : IsFileName piece) : normalizeChars piece = piece := by
  have hjoined : assemble (root []) ([].reverse ++ [piece]) = piece := by
    rw [List.reverse_nil, assemble_append_singleton h.1.1]
    simp [root]
  rw [← hjoined]
  exact normalizeChars_assemble_append (by simp) rfl h

/-- What may stand at the end of a normal form depends on what stands in front of it only. -/
lemma normalizeChars_exchange {other : List Char}
    (h : normalizeChars (first ++ tail) = first ++ tail)
    (htail : IsEnding tail) (hother : IsEnding other) :
    normalizeChars (first ++ other) = first ++ other := by
  obtain ⟨front, hfront⟩ := exists_front first
  have hsame : front ++ tail = first ++ tail := by
    rw [← hfront tail htail, h]
  obtain rfl : front = first := List.append_cancel_right hsame
  exact hfront other hother

/-! ## Extensions -/

lemma splitExtensionChars_snd_of_dot_notMem (h : '.' ∉ path) :
    (splitExtensionChars path).2 = none := by
  have hdots : '.' ∉ (baseChars path).dropWhile (· == '.') := by
    intro hmem
    obtain ⟨front, hfront⟩ := exists_append_baseChars path
    apply h
    rw [hfront]
    exact List.mem_append_right _ ((List.dropWhile_sublist _).mem hmem)
  rw [splitExtensionChars, splitAtLast?_eq_none hdots]

/-- A path without an extension is left as it is. -/
lemma splitExtensionChars_fst_of_none (h : (splitExtensionChars path).2 = none) :
    (splitExtensionChars path).1 = path := by
  simp only [splitExtensionChars] at h ⊢
  split at h
  · rfl
  · simp at h

/-- An extension stands behind something that is not made of dots alone. -/
lemma exists_front_of_extension {ext : List Char} (h : (splitExtensionChars path).2 = some ext) :
    ∃ front lead, IsEnding lead ∧ '/' ∉ ext ∧ path = front ++ (lead ++ '.' :: ext) ∧
      (splitExtensionChars path).1 = front ++ lead := by
  obtain ⟨front, hfront⟩ := exists_append_baseChars path
  obtain ⟨lead, hlead, hbase⟩ := exists_lead_of_extension h
  have hslash : '/' ∉ lead ++ '.' :: ext := by
    rw [← hbase]
    exact slash_notMem_baseChars
  have hpath : path = front ++ (lead ++ '.' :: ext) := by rw [← hbase, ← hfront]
  refine ⟨front, lead, hlead, ?_, hpath, ?_⟩
  · intro hmem
    exact hslash (List.mem_append_right _ (List.mem_cons_of_mem _ hmem))
  · have htake : (splitExtensionChars path).1 = path.take (path.length - (ext.length + 1)) := by
      simp only [splitExtensionChars] at h ⊢
      split at h
      · simp at h
      · obtain rfl := Option.some.inj h
        rfl
    have hlength : path.length - (ext.length + 1) = (front ++ lead).length := by
      rw [hpath]
      simp only [List.length_append, List.length_cons]
      omega
    rw [htake, hlength, hpath, ← List.append_assoc, List.take_left]

/-- Without its extension a path begins as it does with it. -/
lemma exists_append_stem (hne : path ≠ []) :
    (splitExtensionChars path).1 ≠ [] ∧ ∃ rest, path = (splitExtensionChars path).1 ++ rest := by
  cases hsplit : (splitExtensionChars path).2 with
  | none =>
    rw [splitExtensionChars_fst_of_none hsplit]
    exact ⟨hne, [], (List.append_nil path).symm⟩
  | some ext =>
    obtain ⟨front, lead, hlead, -, hpath, hstem⟩ := exists_front_of_extension hsplit
    rw [hstem]
    refine ⟨List.append_ne_nil_of_right_ne_nil _ hlead.ne_nil, '.' :: ext, ?_⟩
    rw [hpath, List.append_assoc]

/-- A normal form without its extension is one. -/
lemma normalizeChars_stem (h : normalizeChars path = path) :
    normalizeChars (splitExtensionChars path).1 = (splitExtensionChars path).1 := by
  cases hsplit : (splitExtensionChars path).2 with
  | none => rw [splitExtensionChars_fst_of_none hsplit, h]
  | some ext =>
    obtain ⟨front, lead, hlead, hext, hpath, hstem⟩ := exists_front_of_extension hsplit
    have hwhole : IsEnding (lead ++ '.' :: ext) := by
      obtain ⟨hslash, c, hc, hdot⟩ := hlead
      refine ⟨?_, c, List.mem_append_left _ hc, hdot⟩
      simp [hslash, hext]
    rw [hpath] at h
    rw [hstem]
    exact normalizeChars_exchange h hwhole hlead

/-- A normal form with another extension is one. -/
lemma normalizeChars_withExtension (h : normalizeChars path = path) {ext : List Char}
    (hext : IsEnding ('.' :: ext)) :
    normalizeChars ((splitExtensionChars path).1 ++ '.' :: ext) =
      (splitExtensionChars path).1 ++ '.' :: ext :=
  normalizeChars_append_of_normal (normalizeChars_stem h) hext

/-! ## Directories -/

lemma isRooted_append (hne : first ≠ []) : isRooted (first ++ second) = isRooted first := by
  cases first with
  | nil => exact absurd rfl hne
  | cons c rest => rfl

lemma slash_mem_of_isRooted (h : isRooted path = true) : '/' ∈ path := by
  cases path with
  | nil => simp [isRooted] at h
  | cons c rest =>
    obtain rfl : c = '/' := by simpa [isRooted] using h
    exact List.mem_cons_self

lemma IsFileName.isRooted (h : IsFileName piece) : isRooted piece = false := by
  rw [← Bool.not_eq_true]
  intro hrooted
  exact h.1.2.2 (slash_mem_of_isRooted hrooted)

/-- A path leads from a directory to where the directory begins. -/
lemma isRooted_joinChars (hne : first ≠ []) (h : isRooted second = false) :
    isRooted (joinChars first second) = isRooted first := by
  rw [← isEmpty_root, root_joinChars hne h, isEmpty_root]

lemma exists_append_trimSlashes (path : List Char) : ∃ rest, path = trimSlashes path ++ rest := by
  unfold trimSlashes
  split
  · exact ⟨[], (List.append_nil path).symm⟩
  · next hrest =>
    refine ⟨(path.reverse.takeWhile (· == '/')).reverse, ?_⟩
    rw [← List.reverse_append, List.takeWhile_append_dropWhile, List.reverse_reverse]

lemma trimSlashes_ne_nil (hne : path ≠ []) : trimSlashes path ≠ [] := by
  unfold trimSlashes
  split
  · exact hne
  · next hrest => simpa using hrest

lemma trimSlashes_append_slash {c : Char} (hc : c ≠ '/') :
    trimSlashes (path ++ [c] ++ ['/']) = path ++ [c] := by
  have hreverse : (path ++ [c] ++ ['/']).reverse.dropWhile (· == '/') = c :: path.reverse := by
    simp [hc]
  rw [trimSlashes, hreverse]
  simp

/-- The directory of a path is what stands in front of its last slash. -/
lemma directoryChars_append_slash (hpiece : '/' ∉ piece) :
    directoryChars (first ++ '/' :: piece) = trimSlashes (first ++ ['/']) := by
  rw [directoryChars, splitAtLast?_append_cons hpiece]

/-- The directory of a path begins where the path begins, and there is one if the path has a
slash. -/
lemma directoryChars_eq_nil_iff : directoryChars path = [] ↔ '/' ∉ path := by
  unfold directoryChars
  by_cases hslash : '/' ∈ path
  · obtain ⟨before, after, rfl, hafter⟩ := exists_last_mark hslash
    rw [splitAtLast?_append_cons hafter]
    simp [trimSlashes_ne_nil]
  · rw [splitAtLast?_eq_none hslash]
    simp [hslash]

lemma isRooted_directoryChars (h : directoryChars path ≠ []) :
    isRooted (directoryChars path) = isRooted path := by
  have hslash : '/' ∈ path := by
    by_contra hnone
    exact h (directoryChars_eq_nil_iff.2 hnone)
  obtain ⟨before, after, rfl, hafter⟩ := exists_last_mark hslash
  have hdirectory := @directoryChars_append_slash after before hafter
  have hne : before ++ ['/'] ≠ [] := by simp
  obtain ⟨rest, hrest⟩ := exists_append_trimSlashes (before ++ ['/'])
  have hpath : before ++ '/' :: after = trimSlashes (before ++ ['/']) ++ (rest ++ after) := by
    rw [← List.append_assoc, ← hrest, List.append_assoc, List.singleton_append]
  rw [hdirectory, hpath, isRooted_append (trimSlashes_ne_nil hne)]

lemma settle_joinChars (hne : first ≠ []) (hpiece : IsFileName piece) :
    settle (joinChars first piece) = piece :: settle first := by
  have hrooted := hpiece.isRooted
  rw [settle, components_joinChars hrooted, root_joinChars hne hrooted,
    components_of_isComponent hpiece.1, List.foldl_append]
  exact if_neg hpiece.2

/-- The text leads to the directory, and from there one step down. -/
def IsChildOf (directory text : String) : Prop :=
  root text.toList = root directory.toList ∧
    ∃ name, IsFileName name ∧ settle text.toList = name :: settle directory.toList

lemma isChildOf_join {name : String} (h : IsFileName name.toList) (directory : String) :
    IsChildOf directory (join directory name) := by
  have hrooted : isRooted name.toList = false := h.isRooted
  by_cases hempty : directory = ""
  · subst hempty
    have hjoin : (join "" name).toList = name.toList := by
      rw [join, String.toList_ofList, joinChars, if_neg (by simp [hrooted])]
      simp
    rw [IsChildOf, hjoin]
    refine ⟨root_of_not_isRooted hrooted, name.toList, h, ?_⟩
    rw [settle, components_of_isComponent h.1, root_of_not_isRooted hrooted]
    exact if_neg h.2
  · have hne : directory.toList ≠ [] := by simpa using hempty
    rw [IsChildOf, join, String.toList_ofList]
    exact ⟨root_joinChars hne hrooted, name.toList, h, settle_joinChars hne h⟩

/-- The normal form of a rooted path and its last component. -/
lemma normalizeChars_eq_append (hrooted : isRooted path = true) :
    normalizeChars path = root path ++ ['/'].intercalate (settle path).reverse := by
  have hroot : root path ≠ [] := by
    intro hnil
    have hempty := @isEmpty_root path
    rw [hnil, hrooted] at hempty
    simp at hempty
  rw [normalizeChars, assemble]
  split
  · next hempty => exact absurd (List.append_eq_nil_iff.1 hempty).1 hroot
  · rfl

/-- The directory of several pieces is made of all but the last one. -/
lemma directoryChars_intercalate (hparts : ∀ part ∈ parts, IsComponent part)
    (hpiece : '/' ∉ piece) :
    directoryChars (root path ++ ['/'].intercalate (parts ++ [piece])) =
      root path ++ ['/'].intercalate parts := by
  rcases List.eq_nil_or_concat' parts with rfl | ⟨front, last, rfl⟩
  · -- the directory is where the path begins: nowhere, or at a root of one slash or of two
    have hsingle : ['/'].intercalate ([] ++ [piece]) = piece := by simp
    have hnone : ['/'].intercalate ([] : List (List Char)) = [] := rfl
    rw [hsingle, hnone, List.append_nil]
    rcases @root_eq path with hroot | hroot | hroot <;> rw [hroot]
    · exact directoryChars_eq_nil_iff.2 hpiece
    · show directoryChars ([] ++ '/' :: piece) = ['/']
      rw [directoryChars_append_slash hpiece]
      rfl
    · show directoryChars (['/'] ++ '/' :: piece) = ['/', '/']
      rw [directoryChars_append_slash hpiece]
      rfl
  · have hlast : IsComponent last := hparts last (List.mem_append_right _ (List.mem_singleton_self _))
    obtain ⟨lead, c, rfl⟩ := (List.eq_nil_or_concat' last).resolve_left hlast.1
    have hc : c ≠ '/' := by
      rintro rfl
      exact hlast.2.2 (by simp)
    rw [intercalate_append_singleton (by simp), intercalate_append_last, ← List.append_assoc,
      ← List.append_assoc, directoryChars_append_slash hpiece]
    exact trimSlashes_append_slash hc

/-- A file in a directory is found there again. -/
lemma directoryChars_joinChars (hfirst : normalizeChars first = first)
    (hrooted : isRooted first = true) (hpiece : IsFileName piece) :
    directoryChars (normalizeChars (joinChars first piece)) = first := by
  have hne : first ≠ [] := by
    rintro rfl
    cases hrooted
  have hjoined : isRooted (joinChars first piece) = true := by
    rw [isRooted_joinChars hne hpiece.isRooted, hrooted]
  have hparts : ∀ part ∈ (settle first).reverse, IsComponent part := fun part hpart =>
    isComponent_of_mem_settle part (List.mem_reverse.1 hpart)
  rw [normalizeChars_eq_append hjoined, root_joinChars hne hpiece.isRooted,
    settle_joinChars hne hpiece, List.reverse_cons, directoryChars_intercalate hparts hpiece.1.2.2,
    ← normalizeChars_eq_append hrooted, hfirst]

/-- The directory of a normal form is one. -/
lemma normalizeChars_directoryChars (h : normalizeChars path = path)
    (hne : directoryChars path ≠ []) :
    normalizeChars (directoryChars path) = directoryChars path := by
  have hsettled := @foldl_push_settle path
  have hparts := @isComponent_of_mem_settle path
  have hpath : path = assemble (root path) (settle path).reverse := h.symm
  cases hstack : settle path with
  | nil =>
    rw [hstack] at hpath
    rcases @root_eq path with hroot | hroot | hroot
    all_goals
      rw [hroot] at hpath
      rw [hpath] at hne ⊢
    · exact absurd rfl hne
    · rfl
    · rfl
  | cons top below =>
    rw [hstack] at hsettled hparts hpath
    obtain ⟨htop, hbelow⟩ := List.forall_mem_cons.1 hparts
    have hreverse : ∀ part ∈ below.reverse, IsComponent part := fun part hpart =>
      hbelow part (List.mem_reverse.1 hpart)
    rw [List.reverse_cons, assemble_append_singleton htop.1] at hpath
    have hdirectory : directoryChars path = root path ++ ['/'].intercalate below.reverse := by
      conv_lhs => rw [hpath]
      exact directoryChars_intercalate hreverse htop.2.2
    have hassemble : directoryChars path = assemble (root path) below.reverse := by
      rw [hdirectory] at hne ⊢
      unfold assemble
      split
      · next hempty => exact absurd hempty hne
      · rfl
    rw [hassemble]
    exact normalizeChars_assemble hbelow (foldl_push_of_cons hsettled)

end LexicalPath

/-! ## Canonical paths -/

namespace VirtualPath

open LexicalPath

variable {directory : Option VirtualPath} {path path' : VirtualPath} {text name ext : String}
  {front rest tail : List Char}

lemma normalize_eq_self_iff :
    LexicalPath.normalize name = name ↔ normalizeChars name.toList = name.toList := by
  rw [LexicalPath.normalize, ← String.toList_inj, String.toList_ofList]

/-- The name of the path is in normal form and fits its kind: streams have none, absolute paths and
no others begin at the root, and a temporary path is the name of a file. -/
structure Canonical (path : VirtualPath) : Prop where
  stream : path.isStream = true → path.name = ""
  normal : path.isStream = false → LexicalPath.normalize path.name = path.name
  rooted : isRooted path.name = true ↔ path.kind = .absolute
  single : path.isTemporary = true → IsFileName path.name.toList

lemma Canonical.isChildOf_render (h : path.Canonical) (htemporary : path.isTemporary = true)
    (directory : String) : IsChildOf directory (path.render (some directory)) := by
  have hkind : path.kind = .temporary := eq_of_beq htemporary
  have hrender : path.render (some directory) = join directory path.name := by
    unfold render
    rw [hkind]
  rw [hrender]
  exact isChildOf_join (h.single htemporary) directory

lemma canonical_stream {kind : PathKind} (h : kind.isStream = true) : Canonical ⟨kind, ""⟩ := by
  cases kind with
  | relative | absolute | temporary => cases h
  | standardInput | standardOutput =>
    refine ⟨fun _ => rfl, fun hstream => ?_, by decide, fun htemporary => ?_⟩
    · cases hstream
    · cases htemporary

lemma canonical_normalize {kind : PathKind} (hkind : kind = .relative ∨ kind = .absolute)
    (h : isRooted text = true ↔ kind = .absolute) :
    Canonical ⟨kind, LexicalPath.normalize text⟩ where
  stream hstream := by
    rcases hkind with rfl | rfl <;> cases hstream
  normal _ := by
    rw [normalize_eq_self_iff]
    simp [LexicalPath.normalize, normalizeChars_normalizeChars]
  rooted := by simpa [isRooted_normalize] using h
  single htemporary := by
    rcases hkind with rfl | rfl <;> cases htemporary

lemma canonical_of_isFileName {kind : PathKind} (hstream : kind.isStream = false)
    (hkind : kind ≠ .absolute) (h : IsFileName name.toList) : Canonical ⟨kind, name⟩ where
  stream hstream' := by
    rw [isStream, hstream] at hstream'
    cases hstream'
  normal _ := normalize_eq_self_iff.2 (normalizeChars_of_isFileName h)
  rooted := by
    have hrooted : isRooted name = false := h.isRooted
    simp [hrooted, hkind]
  single _ := h

lemma canonical_absolute (h : isRooted text = true) :
    Canonical ⟨.absolute, LexicalPath.normalize text⟩ :=
  canonical_normalize (.inr rfl) (by simp [h])

lemma canonical_relative (h : isRooted text = false) :
    Canonical ⟨.relative, LexicalPath.normalize text⟩ :=
  canonical_normalize (.inl rfl) (by simp [h])

lemma canonical_ofText (h : ofText text = .ok path) : path.Canonical := by
  rcases ofText_eq_ok h with ⟨-, rfl⟩ | ⟨-, hrooted, rfl⟩ | ⟨-, hunrooted, rfl⟩
  · exact canonical_stream rfl
  · exact canonical_absolute hrooted
  · exact canonical_relative (isRooted_of_isUnrooted hunrooted)

/-- Below a directory there is room for every path that does not begin at the root. -/
lemma canonical_resolvedIn (hanchor : IsAnchor directory) (hpath : path.Canonical)
    (h : path.resolvedIn directory = .ok path') : path'.Canonical := by
  rcases resolvedIn_eq_ok h with rfl | ⟨hkind, root, hroot, rfl⟩
  · exact hpath
  · obtain ⟨habsolute, hrooted⟩ := hanchor root hroot
    have hrelative : isRooted path.name = false := by
      rw [← Bool.not_eq_true, hpath.rooted, hkind]
      decide
    have hne : root.name.toList ≠ [] := by simpa using hanchor.name_ne_empty hroot
    have hjoined : isRooted (join root.name path.name) = true := by
      show LexicalPath.isRooted (String.ofList _).toList = true
      rw [String.toList_ofList, isRooted_joinChars hne hrelative]
      exact hrooted
    rw [habsolute]
    exact canonical_absolute hjoined

lemma canonical_resolvePath (hanchor : IsAnchor directory)
    (h : resolvePath directory text = .ok path) : path.Canonical := by
  obtain ⟨written, hwritten, hresolved⟩ := bind_eq_ok.1 h
  exact canonical_resolvedIn hanchor (canonical_ofText hwritten) hresolved

/-- A name that the planner chooses is anchored like one that is written. -/
lemma canonical_relative_resolvedIn (hanchor : IsAnchor directory)
    (h : (do (← relative text).resolvedIn directory) = .ok path) : path.Canonical := by
  obtain ⟨written, hwritten, hresolved⟩ := bind_eq_ok.1 h
  obtain ⟨hunrooted, rfl⟩ := relative_eq_ok.1 hwritten
  have hcanonical := canonical_relative (isRooted_of_isUnrooted hunrooted)
  exact canonical_resolvedIn hanchor hcanonical hresolved

lemma canonical_temporary (htext : IsEnding text.toList) (h : temporary text = .ok path) :
    path.Canonical := by
  have hname : IsFileName text.toList := htext.isFileName List.not_mem_nil
  have hnormal : LexicalPath.normalize text = text := by
    apply normalize_eq_self_iff.2
    exact normalizeChars_of_isFileName hname
  obtain ⟨-, rfl⟩ := temporary_eq_ok.1 h
  rw [hnormal]
  exact canonical_of_isFileName rfl (by decide) hname

/-- The name of a canonical path with another ending, where that is in normal form. -/
lemma Canonical.withName (h : path.Canonical) (hstream : path.isStream = false)
    (hpath : path.name.toList = front ++ rest) (hfront : front ≠ []) (htail : IsEnding tail)
    (hname : name.toList = front ++ tail)
    (hnormal : normalizeChars (front ++ tail) = front ++ tail) :
    Canonical ⟨path.kind, name⟩ where
  stream hstream' := by
    rw [isStream] at hstream hstream'
    simp [hstream] at hstream'
  normal _ := by
    rw [normalize_eq_self_iff]
    dsimp only
    rw [hname, hnormal]
  rooted := by
    rw [← h.rooted, isRooted, isRooted, hname, hpath]
    rw [isRooted_append hfront, isRooted_append hfront]
  single htemporary := by
    have hslash : '/' ∉ path.name.toList := (h.single htemporary).1.2.2
    dsimp only
    rw [hname]
    refine htail.isFileName fun hmem => hslash ?_
    rw [hpath]
    exact List.mem_append_left _ hmem

/-- No file has an empty name. -/
lemma Canonical.name_ne_nil (h : path.Canonical) (hstream : path.isStream = false) :
    path.name.toList ≠ [] := by
  intro hempty
  have hnormal := normalize_eq_self_iff.1 (h.normal hstream)
  rw [hempty] at hnormal
  revert hnormal
  decide

/-- A path in normal form is what its name is read as, unless the name is a dash. -/
lemma Canonical.ofText_name (h : path.Canonical)
    (hkind : path.kind = .relative ∨ path.kind = .absolute) (hname : path.name ≠ "-") :
    ofText path.name = .ok path := by
  obtain ⟨kind, name⟩ := path
  have hrooted := h.rooted
  dsimp only at hkind hname hrooted
  rcases hkind with rfl | rfl
  · have hunrooted : isRooted name = false := by simpa using hrooted
    have hne : name ≠ "" := by simpa using h.name_ne_nil rfl
    rw [ofText, if_neg hname, if_neg (by simp [hunrooted]), relative,
      if_pos (by simp [isUnrooted, hne, hunrooted]), h.normal rfl]
  · have hroot : isRooted name = true := by simpa using hrooted
    rw [ofText, if_neg hname, if_pos hroot, absolute, if_pos hroot, h.normal rfl]

lemma Canonical.withExtension (h : path.Canonical) (hext : IsExtension ext)
    (hpath : path.withExtension ext = .ok path') : path'.Canonical := by
  obtain ⟨hstream, rfl⟩ := (withExtension_eq_ok hext.1).1 hpath
  have htail : IsEnding ('.' :: ext.toList) := by simpa using hext.isEnding
  have hnormal := normalize_eq_self_iff.1 (h.normal hstream)
  obtain ⟨hfront, rest, hrest⟩ := exists_append_stem (h.name_ne_nil hstream)
  apply h.withName hstream hrest hfront htail
  · simp [LexicalPath.stem]
  · exact normalizeChars_withExtension hnormal htail

/-- An extension may also be written behind the one that there is. -/
lemma Canonical.addExtension (h : path.Canonical) (hstream : path.isStream = false)
    (hext : IsExtension ext) : Canonical ⟨path.kind, path.name ++ "." ++ ext⟩ := by
  have htail : IsEnding ('.' :: ext.toList) := by simpa using hext.isEnding
  have hnormal := normalize_eq_self_iff.1 (h.normal hstream)
  apply h.withName hstream (List.append_nil _).symm (h.name_ne_nil hstream) htail
  · simp
  · exact normalizeChars_append_of_normal hnormal htail

/-- Paths with a slash in their name are relative or absolute. -/
lemma Canonical.kind_of_slash (h : path.Canonical) (hstream : path.isStream = false)
    (hslash : '/' ∈ path.name.toList) : path.kind = .relative ∨ path.kind = .absolute := by
  have htemporary : path.kind ≠ .temporary := by
    intro hkind
    have hsingle := h.single (by simp [isTemporary, hkind])
    exact hsingle.1.2.2 hslash
  rw [isStream] at hstream
  cases hkind : path.kind with
  | relative => exact .inl rfl
  | absolute => exact .inr rfl
  | temporary => exact absurd hkind htemporary
  | standardInput | standardOutput => simp [hkind, PathKind.isStream] at hstream

lemma Canonical.sibling (h : path.Canonical) (hstream : path.isStream = false)
    (hname : IsEnding name.toList) (hpath : path.sibling name = .ok path') : path'.Canonical := by
  have hrooted : isRooted name = false := hname.isRooted
  have hparent : path.parent? = (directory? path.name).map fun parent => ⟨path.kind, parent⟩ := by
    rw [parent?, if_neg (by simp [hstream])]
  rw [VirtualPath.sibling, hparent, directory?] at hpath
  cases hdirectory : directoryChars path.name.toList with
  | nil =>
    -- the directory is where the path is seen from, so that the path does not begin at the root
    rw [hdirectory] at hpath
    obtain rfl := Except.ok.inj hpath
    have hslash : '/' ∉ path.name.toList := directoryChars_eq_nil_iff.1 hdirectory
    have hkind : path.kind ≠ .absolute := by
      intro habsolute
      exact hslash (slash_mem_of_isRooted (h.rooted.2 habsolute))
    exact canonical_of_isFileName hstream hkind (hname.isFileName List.not_mem_nil)
  | cons c others =>
    have hne : directoryChars path.name.toList ≠ [] := by simp [hdirectory]
    have hslash : '/' ∈ path.name.toList := by
      by_contra hnone
      exact hne (directoryChars_eq_nil_iff.2 hnone)
    rw [hdirectory] at hpath
    obtain ⟨-, rfl⟩ := appending_eq_ok.1 hpath
    have hjoined : isRooted (join (String.ofList (c :: others)) name) = isRooted path.name := by
      show LexicalPath.isRooted (String.ofList _).toList = LexicalPath.isRooted path.name.toList
      rw [String.toList_ofList, String.toList_ofList, ← hdirectory, isRooted_joinChars hne hrooted,
        isRooted_directoryChars hne]
    apply canonical_normalize (h.kind_of_slash hstream hslash)
    rw [hjoined]
    exact h.rooted

/-- Files that are anchored in one directory are siblings. -/
lemma sibling_anchored {file : String} (hanchor : IsAnchor directory)
    (hcanonical : ∀ root ∈ directory, root.Canonical) (hfile : IsFileName file.toList)
    (hname : IsFileName name.toList) :
    (anchored directory file).sibling name = .ok (anchored directory name) := by
  have hnormal {text : String} (htext : IsFileName text.toList) :
      LexicalPath.normalize text = text :=
    normalize_eq_self_iff.2 (normalizeChars_of_isFileName htext)
  cases directory with
  | none =>
    have hparent : directory? file = none := by
      rw [directory?, directoryChars_eq_nil_iff.2 hfile.1.2.2]
    simp [anchored, seenFrom, sibling, parent?, isStream, PathKind.isStream, hnormal hfile,
      hnormal hname, hparent]
  | some root =>
    obtain ⟨hkind, hrooted⟩ := hanchor root rfl
    have hroot := (hcanonical root rfl).normal (by simp [isStream, PathKind.isStream, hkind])
    have hne : root.name.toList ≠ [] := by
      intro hnil
      rw [isRooted, hnil] at hrooted
      cases hrooted
    have hparent : directory? (LexicalPath.normalize (join root.name file)) = some root.name := by
      have hdirectory := directoryChars_joinChars (normalize_eq_self_iff.1 hroot) hrooted hfile
      rw [directory?, LexicalPath.normalize, join, String.toList_ofList, String.toList_ofList,
        hdirectory]
      split
      · next hnil => exact absurd hnil hne
      · rw [String.ofList_toList]
    simp [anchored, seenFrom, sibling, parent?, appending, isStream, PathKind.isStream, hkind,
      hparent]

end VirtualPath

end SwiftPlan
