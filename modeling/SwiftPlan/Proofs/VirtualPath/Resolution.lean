import SwiftPlan.Proofs.CanonicalPath

/-!
# Resolving paths step by step

A relative path is resolved in a directory by joining the two names and working off the double dots
of the result.  The names were brought to their normal form before, so that the same double dots are
worked off in several places: in the path, in the directory, and once more at the seam.  The order
does not matter.  Joining is associative as it is written (`joinChars_assoc`), and a normal form may
stand in front of a path or behind a directory in place of the text that it was made from
(`normalize_join_normalize`).

So resolution is an action of relative paths on directories (`resolves_alike`): to resolve a path in
a relative directory and the result at the root is to resolve the directory first and the path in
it.
-/

namespace SwiftPlan

namespace LexicalPath

/-! ## Joining -/

section

variable {first second third : List Char}

lemma normalizeChars_ne_nil : normalizeChars first ≠ [] := by
  unfold normalizeChars assemble
  split
  · simp
  · next h => exact h

/-- To normalize a path before another one is joined to it makes no difference. -/
lemma normalizeChars_normalizeChars_joinChars (hne : first ≠ []) (h : isRooted second = false) :
    normalizeChars (joinChars (normalizeChars first) second) =
      normalizeChars (joinChars first second) := by
  have hroot : root (joinChars (normalizeChars first) second) = root (joinChars first second) := by
    rw [root_joinChars normalizeChars_ne_nil h, root_joinChars hne h, root_normalizeChars]
  have hstack : settle (joinChars (normalizeChars first) second) =
      settle (joinChars first second) := by
    rw [settle, settle, hroot, root_joinChars hne h, components_joinChars h, components_joinChars h,
      components_normalizeChars, List.foldl_append, List.foldl_append, foldl_push_settle]
    rfl
  rw [normalizeChars, hroot, hstack, normalizeChars]

/-- What joining puts between a directory and a path. -/
def seam (first : List Char) : List Char :=
  if first = [] ∨ first.getLast? = some '/' then [] else ['/']

lemma joinChars_of_isRooted (h : isRooted second = true) : joinChars first second = second :=
  if_pos h

lemma joinChars_eq_seam (h : isRooted second = false) :
    joinChars first second = first ++ (seam first ++ second) := by
  rw [joinChars, if_neg (by simp [h]), seam]
  split <;> rfl

/-- A joined path ends where its second part ends. -/
lemma seam_joinChars (h : isRooted second = false) :
    seam (joinChars first second) = seam second := by
  rw [joinChars_eq_seam h]
  cases second with
  | nil =>
    have hempty : seam [] = [] := rfl
    rw [List.append_nil, hempty]
    by_cases hend : first = [] ∨ first.getLast? = some '/'
    · have hseam : seam first = [] := if_pos hend
      rw [hseam, List.append_nil, hseam]
    · have hseam : seam first = ['/'] := if_neg hend
      rw [hseam, seam, if_pos (.inr (by simp))]
  | cons c rest => simp [seam]

/-- Joining is associative, whatever the texts begin and end with. -/
lemma joinChars_assoc :
    joinChars (joinChars first second) third = joinChars first (joinChars second third) := by
  cases hthird : isRooted third with
  | true => simp only [joinChars_of_isRooted hthird]
  | false =>
    cases hsecond : isRooted second with
    | true =>
      have hne : second ≠ [] := by
        rintro rfl
        cases hsecond
      have hjoined : isRooted (joinChars second third) = true := by
        rw [isRooted_joinChars hne hthird, hsecond]
      rw [joinChars_of_isRooted hsecond, joinChars_of_isRooted hjoined]
    | false =>
      have hjoined : isRooted (joinChars second third) = false := by
        cases second with
        | nil => rwa [joinChars_eq_seam hthird]
        | cons c rest => rw [isRooted_joinChars (List.cons_ne_nil c rest) hthird, hsecond]
      rw [joinChars_eq_seam hthird, seam_joinChars hsecond, joinChars_eq_seam hsecond,
        joinChars_eq_seam hjoined, joinChars_eq_seam hthird]
      simp only [List.append_assoc]

end

section

variable {base text other : String}

/-- Both parts may be normalized before they are joined. -/
lemma normalize_join_normalize (hbase : base ≠ "") (htext : isRooted text.toList = false) :
    normalize (join (normalize base) (normalize text)) = normalize (join base text) := by
  have hne : base.toList ≠ [] := by simpa using hbase
  rw [← normalize_join hbase htext]
  simp only [normalize, join, String.toList_ofList]
  rw [normalizeChars_normalizeChars_joinChars hne (isRooted_normalizeChars.trans htext)]

lemma join_assoc : join (join base text) other = join base (join text other) := by
  simp only [join, String.toList_ofList, joinChars_assoc]

end

end LexicalPath

namespace VirtualPath

open LexicalPath

variable {w p q text name : String} {directory : VirtualPath}

/-! ## Resolving -/

lemma ne_empty_of_isUnrooted (h : isUnrooted text = true) : text ≠ "" := by
  simp only [isUnrooted, Bool.and_eq_true, decide_eq_true_eq] at h
  exact h.1

lemma ne_empty_of_isRooted (h : isRooted text = true) : text ≠ "" := by
  rintro rfl
  cases h

lemma isRooted_join (hne : text ≠ "") (h : isRooted name = false) :
    isRooted (join text name) = isRooted text := by
  have hchars : text.toList ≠ [] := by simpa using hne
  rw [isRooted, join, String.toList_ofList, isRooted_joinChars hchars h, isRooted]

lemma join_ne_empty (hne : name ≠ "") : join text name ≠ "" := by
  have hchars : name.toList ≠ [] := by simpa using hne
  intro hempty
  have hjoined : joinChars text.toList name.toList = [] := by
    rw [← String.toList_ofList (l := joinChars _ _)]
    exact congrArg String.toList hempty
  cases hrooted : LexicalPath.isRooted name.toList with
  | true =>
    rw [joinChars_of_isRooted hrooted] at hjoined
    exact hchars hjoined
  | false =>
    rw [joinChars_eq_seam hrooted] at hjoined
    exact hchars (List.append_eq_nil_iff.1 (List.append_eq_nil_iff.1 hjoined).2).2

lemma isUnrooted_join (hq : isUnrooted q = true) (hp : isUnrooted p = true) :
    isUnrooted (join q p) = true := by
  have hrooted : isRooted (join q p) = false := by
    rw [isRooted_join (ne_empty_of_isUnrooted hq) (isRooted_of_isUnrooted hp),
      isRooted_of_isUnrooted hq]
  simp [isUnrooted, hrooted, join_ne_empty (ne_empty_of_isUnrooted hp)]

/-- Resolving a relative path in a directory joins the texts that the two were made from. -/
lemma resolvedIn_normalize (kind : PathKind) (hkind : kind.isStream = false) (hq : q ≠ "")
    (hp : isRooted p = false) :
    (⟨.relative, LexicalPath.normalize p⟩ : VirtualPath).resolvedIn
        (some ⟨kind, LexicalPath.normalize q⟩) =
      .ok ⟨kind, LexicalPath.normalize (join q p)⟩ := by
  have hdirectory : (⟨kind, LexicalPath.normalize q⟩ : VirtualPath).isStream = false := hkind
  rw [← normalize_join_normalize hq hp]
  exact appending_eq_ok.2 ⟨hdirectory, rfl⟩

/-- A path is made again from its name by whatever makes absolute paths. -/
lemma make_normalize_absolute (h : isRooted text = true) :
    ∀ make ∈ [absolute, ofText],
      make (LexicalPath.normalize text) = .ok ⟨.absolute, LexicalPath.normalize text⟩ := by
  have hcanonical := canonical_absolute h
  have hrooted : isRooted (LexicalPath.normalize text) = true := by rwa [isRooted_normalize]
  have habsolute : absolute (LexicalPath.normalize text) =
      .ok ⟨.absolute, LexicalPath.normalize text⟩ :=
    absolute_eq_ok.2 ⟨hrooted, by rw [hcanonical.normal rfl]⟩
  have hdash : LexicalPath.normalize text ≠ "-" := by
    intro hdash
    rw [hdash] at hrooted
    cases hrooted
  simp only [List.forall_mem_cons, List.not_mem_nil, false_implies, implies_true, and_true]
  exact ⟨habsolute, hcanonical.ofText_name (.inr rfl) hdash⟩

lemma relative_normalize (h : isUnrooted text = true) :
    relative (LexicalPath.normalize text) = .ok ⟨.relative, LexicalPath.normalize text⟩ := by
  have hcanonical := canonical_relative (isRooted_of_isUnrooted h)
  have hne : LexicalPath.normalize text ≠ "" := by simpa using hcanonical.name_ne_nil rfl
  have hunrooted : isUnrooted (LexicalPath.normalize text) = true := by
    simp [isUnrooted, isRooted_normalize, isRooted_of_isUnrooted h, hne]
  exact relative_eq_ok.2 ⟨hunrooted, by rw [hcanonical.normal rfl]⟩

/-- Relative paths act on directories by resolution: the relative path `p` leads from the absolute
`w` to where the joined text leads, and from `w` through the relative `q` to one place in either
order.  What is made again from the name of a result is the result. -/
structure ResolvesAlike (w q p : String) : Prop where
  /-- Nothing is lost when the two parts are normalized before they are joined. -/
  joined : ∃ path, (do (← relative p).resolvedIn (← absolute w)) = .ok path ∧
    absolute (join w p) = .ok path ∧ ∀ make ∈ [absolute, ofText], make path.name = .ok path
  /-- The path may be resolved in `q` first, or `q` in `w`. -/
  nested : ∃ path,
    (do (← (← relative p).resolvedIn (← relative q)).resolvedIn (← absolute w)) = .ok path ∧
    (do (← relative p).resolvedIn (← (← relative q).resolvedIn (← absolute w))) = .ok path ∧
      ∀ make ∈ [absolute, ofText], make path.name = .ok path
  /-- The path that is resolved in `q` alone is relative.  A dash is what is written for the standard
  input, so that the name of a file `-` is made a path again by `relative` only. -/
  inner : ∃ path, (do (← relative p).resolvedIn (← relative q)) = .ok path ∧
    relative path.name = .ok path ∧ (path.name ≠ "-" → ofText path.name = .ok path)

theorem resolves_alike (hw : isRooted w = true) (hq : isUnrooted q = true)
    (hp : isUnrooted p = true) : ResolvesAlike w q p := by
  have hpath := relative_eq_ok.2 ⟨hp, rfl⟩
  have hdirectory := relative_eq_ok.2 ⟨hq, rfl⟩
  have hroot := absolute_eq_ok.2 ⟨hw, rfl⟩
  have hwne := ne_empty_of_isRooted hw
  have hqne := ne_empty_of_isUnrooted hq
  have hprooted := isRooted_of_isUnrooted hp
  have hqrooted := isRooted_of_isUnrooted hq
  have hunrooted := isUnrooted_join hq hp
  have hinner := resolvedIn_normalize .relative rfl hqne hprooted
  have houter := resolvedIn_normalize .absolute rfl hwne hqrooted
  have hjoined {text : String} (h : isRooted text = false) : isRooted (join w text) = true := by
    rw [isRooted_join hwne h, hw]
  refine ⟨⟨⟨.absolute, LexicalPath.normalize (join w p)⟩, ?_, ?_, ?_⟩,
    ⟨⟨.absolute, LexicalPath.normalize (join w (join q p))⟩, ?_, ?_, ?_⟩,
    ⟨⟨.relative, LexicalPath.normalize (join q p)⟩, ?_, ?_, ?_⟩⟩
  · refine bind_eq_ok.2 ⟨_, hpath, bind_eq_ok.2 ⟨_, hroot, ?_⟩⟩
    exact resolvedIn_normalize .absolute rfl hwne hprooted
  · exact absolute_eq_ok.2 ⟨hjoined hprooted, rfl⟩
  · exact make_normalize_absolute (hjoined hprooted)
  · refine bind_eq_ok.2 ⟨_, hpath, bind_eq_ok.2 ⟨_, hdirectory, ?_⟩⟩
    refine bind_eq_ok.2 ⟨_, hinner, bind_eq_ok.2 ⟨_, hroot, ?_⟩⟩
    exact resolvedIn_normalize .absolute rfl hwne (isRooted_of_isUnrooted hunrooted)
  · rw [← join_assoc]
    refine bind_eq_ok.2 ⟨_, hpath, bind_eq_ok.2 ⟨_, hdirectory, ?_⟩⟩
    refine bind_eq_ok.2 ⟨_, hroot, bind_eq_ok.2 ⟨_, houter, ?_⟩⟩
    exact resolvedIn_normalize .absolute rfl (join_ne_empty hqne) hprooted
  · exact make_normalize_absolute (hjoined (isRooted_of_isUnrooted hunrooted))
  · exact bind_eq_ok.2 ⟨_, hpath, bind_eq_ok.2 ⟨_, hdirectory, hinner⟩⟩
  · exact relative_normalize hunrooted
  · intro hdash
    have hcanonical := canonical_relative (isRooted_of_isUnrooted hunrooted)
    exact hcanonical.ofText_name (.inl rfl) hdash

/-- Both seams are crossed by double dots, the second one down to a root of two slashes. -/
theorem resolves_alike_of_climbing :
    isRooted "//a/../b" = true ∧ isUnrooted "..//c/d/" = true ∧
      isUnrooted "./../../../.././x//y/." = true ∧
      absolute (join "//a/../b" "./../../../.././x//y/.") = .ok ⟨.absolute, "//x/y"⟩ ∧
      ResolvesAlike "//a/../b" "..//c/d/" "./../../../.././x//y/." :=
  ⟨by decide, by decide, by decide, by decide,
    resolves_alike (by decide) (by decide) (by decide)⟩

end VirtualPath

end SwiftPlan
