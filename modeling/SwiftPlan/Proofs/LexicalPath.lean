import Mathlib.Data.List.Basic
import Mathlib.Data.List.Induction
import Mathlib.Data.List.TakeWhile
import Mathlib.Tactic.Common
import SwiftPlan.LexicalPath

/-!
# Normal forms of paths

A path is brought to its normal form by taking it apart into components, working off the double dots
with a stack, and putting the rest together again.  The first section shows that putting together
and taking apart are inverse (`components_normalizeChars`), so that two paths with the same normal
form settle to the same stack.  The second section is about paths that are joined: components and
stacks go along with `joinChars`, and it makes no difference whether a path is normalized before it
is joined to another one (`normalizeChars_joinChars`).

The last section is about extensions.  A text without slashes that is not only dots, written behind
a path, ends up behind the normal form of the path's front, which does not depend on the text
(`exists_front`).  So the ending of such a path says what was written behind it, and the path never
has the same normal form as with nothing behind it (`normalizeChars_ne_append`).
-/

namespace SwiftPlan.LexicalPath

variable {path first second : List Char} {stack parts : List (List Char)}

/-! ## Taking apart and putting together -/

/-- A piece of a path that stands for something. -/
def IsComponent (piece : List Char) : Prop :=
  piece ≠ [] ∧ piece ≠ ['.'] ∧ '/' ∉ piece

lemma components_append_slash :
    components (first ++ '/' :: second) = components first ++ components second := by
  rw [components, List.splitOn_append_cons_self, List.filter_append, components, components]

lemma components_of_isComponent {piece : List Char} (h : IsComponent piece) :
    components piece = [piece] := by
  obtain ⟨hne, hdot, hslash⟩ := h
  rw [components, List.splitOn_eq_singleton hslash]
  simp [hne, hdot]

/-- The pieces between separators hold none. -/
lemma notMem_of_mem_splitOn {separator : Char} :
    ∀ piece ∈ path.splitOn separator, separator ∉ piece := by
  induction path with
  | nil => simp
  | cons c rest ih =>
    rw [List.splitOn_cons_eq_if_modifyHead]
    split
    · exact List.forall_mem_cons.2 ⟨List.not_mem_nil, ih⟩
    · next hc =>
      cases hrest : rest.splitOn separator with
      | nil => exact absurd hrest (List.splitOn_ne_nil separator rest)
      | cons piece pieces =>
        rw [hrest] at ih
        obtain ⟨hpiece, hpieces⟩ := List.forall_mem_cons.1 ih
        refine List.forall_mem_cons.2 ⟨?_, hpieces⟩
        have hne : separator ≠ c := by
          rintro rfl
          exact hc (beq_self_eq_true separator)
        exact List.not_mem_cons_of_ne_of_not_mem hne hpiece

lemma isComponent_of_mem_components : ∀ piece ∈ components path, IsComponent piece := by
  intro piece hpiece
  obtain ⟨hsplit, hstands⟩ := List.mem_filter.1 hpiece
  have hboth : piece ≠ [] ∧ piece ≠ ['.'] := by simpa using hstands
  exact ⟨hboth.1, hboth.2, notMem_of_mem_splitOn piece hsplit⟩

lemma components_intercalate (h : ∀ piece ∈ parts, IsComponent piece) :
    components (['/'].intercalate parts) = parts := by
  induction parts with
  | nil => rfl
  | cons piece rest ih =>
    obtain ⟨hpiece, hrest⟩ := List.forall_mem_cons.1 h
    cases rest with
    | nil => simpa using components_of_isComponent hpiece
    | cons next others =>
      rw [List.intercalate_cons_cons, List.append_assoc, List.singleton_append,
        components_append_slash, components_of_isComponent hpiece, ih hrest]
      rfl

/-- Going on keeps the stack one of components. -/
lemma isComponent_push {rooted : Bool} {piece : List Char} (hpiece : IsComponent piece)
    (h : ∀ part ∈ stack, IsComponent part) :
    ∀ part ∈ push rooted stack piece, IsComponent part := by
  unfold push
  split
  · next hparent =>
    subst hparent
    cases stack with
    | nil => cases rooted <;> simp [hpiece]
    | cons top below =>
      obtain ⟨htop, hbelow⟩ := List.forall_mem_cons.1 h
      dsimp only
      split
      · exact List.forall_mem_cons.2 ⟨hpiece, h⟩
      · exact hbelow
  · exact List.forall_mem_cons.2 ⟨hpiece, h⟩

lemma isComponent_foldl_push {rooted : Bool} (hparts : ∀ part ∈ parts, IsComponent part)
    (h : ∀ part ∈ stack, IsComponent part) :
    ∀ part ∈ parts.foldl (push rooted) stack, IsComponent part := by
  induction parts generalizing stack with
  | nil => exact h
  | cons piece rest ih =>
    obtain ⟨hpiece, hrest⟩ := List.forall_mem_cons.1 hparts
    exact ih hrest (isComponent_push hpiece h)

lemma isComponent_of_mem_settle : ∀ part ∈ settle path, IsComponent part :=
  isComponent_foldl_push isComponent_of_mem_components (by simp)

/-! The slashes in front of a path are one of three texts. -/

lemma root_of_not_isRooted (h : isRooted path = false) : root path = [] := by
  cases path with
  | nil => rfl
  | cons c rest =>
    have hc : c ≠ '/' := by simpa [isRooted] using h
    unfold root
    split
    · next heq => exact absurd (List.cons.inj heq).1 hc
    · next heq => exact absurd (List.cons.inj heq).1 hc
    · next heq => exact absurd (List.cons.inj heq).1 hc
    · rfl

lemma root_slash (h : isRooted path = false) : root ('/' :: path) = ['/'] := by
  cases path with
  | nil => rfl
  | cons c rest =>
    have hc : c ≠ '/' := by simpa [isRooted] using h
    unfold root
    split
    · next heq => exact absurd (List.cons.inj (List.cons.inj heq).2).1 hc
    · next heq => exact absurd (List.cons.inj (List.cons.inj heq).2).1 hc
    · rfl
    · next hnone => exact absurd rfl (hnone _)

lemma root_slash_slash (h : isRooted path = false) : root ('/' :: '/' :: path) = ['/', '/'] := by
  cases path with
  | nil => rfl
  | cons c rest =>
    have hc : c ≠ '/' := by simpa [isRooted] using h
    unfold root
    split
    · next heq =>
      exact absurd (List.cons.inj (List.cons.inj (List.cons.inj heq).2).2).1 hc
    · rfl
    · next hnone heq => exact absurd (List.cons.inj heq).2.symm (hnone _)
    · next hnone => exact absurd rfl (hnone _)

lemma root_eq : root path = [] ∨ root path = ['/'] ∨ root path = ['/', '/'] := by
  unfold root
  split <;> simp

/-- A path has slashes in front exactly if it begins at the root. -/
lemma isEmpty_root : (!(root path).isEmpty) = isRooted path := by
  cases hrooted : isRooted path with
  | false => simp [root_of_not_isRooted hrooted]
  | true =>
    cases path with
    | nil => simp [isRooted] at hrooted
    | cons c rest =>
      obtain rfl : c = '/' := by simpa [isRooted] using hrooted
      unfold root
      split <;> simp_all

/-- What is written behind a path does not change the slashes in front of it, unless slashes are
written behind slashes. -/
lemma root_append (hne : first ≠ []) (h : isRooted second = false ∨ first.getLast? ≠ some '/') :
    root (first ++ second) = root first := by
  have hrooted {text : List Char} (htext : isRooted text = false) (hne : text ≠ []) :
      isRooted (text ++ second) = false := by
    cases text with
    | nil => exact absurd rfl hne
    | cons c rest => exact htext
  cases first with
  | nil => exact absurd rfl hne
  | cons c rest =>
    by_cases hc : c = '/'
    · subst hc
      cases rest with
      | nil => exact (root_slash (h.resolve_right (by simp))).trans (root_slash rfl).symm
      | cons d rest =>
        by_cases hd : d = '/'
        · subst hd
          cases rest with
          | nil =>
            exact (root_slash_slash (h.resolve_right (by simp))).trans (root_slash_slash rfl).symm
          | cons e rest =>
            by_cases he : e = '/'
            · subst he
              rfl
            · have htext : isRooted (e :: rest) = false := by simp [isRooted, he]
              exact (root_slash_slash (hrooted htext (by simp))).trans (root_slash_slash htext).symm
        · have htext : isRooted (d :: rest) = false := by simp [isRooted, hd]
          exact (root_slash (hrooted htext (by simp))).trans (root_slash htext).symm
    · have htext : isRooted (c :: rest) = false := by simp [isRooted, hc]
      rw [root_of_not_isRooted htext, root_of_not_isRooted (hrooted htext (by simp))]

lemma components_root_append (rest : List Char) :
    components (root path ++ rest) = components rest := by
  have hslash (text : List Char) : components ('/' :: text) = components text := by
    show components ([] ++ '/' :: text) = components text
    rw [components_append_slash]
    rfl
  rcases @root_eq path with hroot | hroot | hroot
  · rw [hroot, List.nil_append]
  · rw [hroot, List.singleton_append, hslash]
  · rw [hroot, List.cons_append, List.singleton_append, hslash, hslash]

lemma isRooted_intercalate (h : ∀ piece ∈ parts, IsComponent piece) :
    isRooted (['/'].intercalate parts) = false := by
  cases parts with
  | nil => rfl
  | cons piece rest =>
    obtain ⟨⟨hne, -, hslash⟩, -⟩ := List.forall_mem_cons.1 h
    cases piece with
    | nil => exact absurd rfl hne
    | cons c cs =>
      have hc : c ≠ '/' := fun hc => hslash (by simp [hc])
      cases rest with
      | nil => simp [isRooted, hc]
      | cons next others => simp [isRooted, hc, List.intercalate_cons_cons]

lemma components_assemble (h : ∀ piece ∈ parts, IsComponent piece) :
    components (assemble (root path) parts) = parts := by
  have hwhole : components (root path ++ ['/'].intercalate parts) = parts := by
    rw [components_root_append, components_intercalate h]
  unfold assemble
  split
  · next hempty =>
    rw [hempty] at hwhole
    exact hwhole
  · exact hwhole

lemma root_assemble (h : ∀ piece ∈ parts, IsComponent piece) :
    root (assemble (root path) parts) = root path := by
  have hrooted := isRooted_intercalate h
  unfold assemble
  rcases @root_eq path with hroot | hroot | hroot
  · rw [hroot, List.nil_append]
    split
    · rfl
    · exact root_of_not_isRooted hrooted
  · rw [hroot]
    exact root_slash hrooted
  · rw [hroot]
    exact root_slash_slash hrooted

/-- The components of a normal form are those that are left when double dots are worked off. -/
lemma components_normalizeChars : components (normalizeChars path) = (settle path).reverse :=
  components_assemble fun part hpart => isComponent_of_mem_settle part (List.mem_reverse.1 hpart)

lemma root_normalizeChars : root (normalizeChars path) = root path :=
  root_assemble fun part hpart => isComponent_of_mem_settle part (List.mem_reverse.1 hpart)

lemma isRooted_normalizeChars : isRooted (normalizeChars path) = isRooted path := by
  rw [← isEmpty_root, root_normalizeChars, isEmpty_root]

/-- Paths with one normal form settle alike. -/
lemma settle_eq_of_normalizeChars_eq (h : normalizeChars first = normalizeChars second) :
    settle first = settle second := by
  have hcomponents := congrArg components h
  rw [components_normalizeChars, components_normalizeChars] at hcomponents
  exact List.reverse_injective hcomponents

/-! ## Joining -/

lemma components_joinChars (h : isRooted second = false) :
    components (joinChars first second) = components first ++ components second := by
  have hrooted : ¬ isRooted second = true := by simp [h]
  rw [joinChars, if_neg hrooted]
  split
  · next hend =>
    rcases hend with rfl | hlast
    · rfl
    · obtain ⟨lead, rfl⟩ := List.getLast?_eq_some_iff.1 hlast
      rw [List.append_assoc, List.singleton_append, components_append_slash,
        components_append_slash]
      simp [components]
  · exact components_append_slash

lemma root_joinChars (hne : first ≠ []) (h : isRooted second = false) :
    root (joinChars first second) = root first := by
  have hrooted : ¬ isRooted second = true := by simp [h]
  rw [joinChars, if_neg hrooted]
  split
  · exact root_append hne (.inl h)
  · next hend => exact root_append hne (.inr fun hlast => hend (.inr hlast))

/-- Components that were worked off already have the same effect on a stack as before.  A stack that
was made at the root is only for the root. -/
lemma foldl_push_settled {rooted inner : Bool} (h : inner = true → rooted = true ∧ stack = []) :
    (parts.foldl (push inner) []).reverse.foldl (push rooted) stack =
      parts.foldl (push rooted) stack := by
  induction parts using List.reverseRecOn with
  | nil => rfl
  | append_singleton rest piece ih =>
    rw [List.foldl_append, List.foldl_append, List.foldl_cons, List.foldl_nil, List.foldl_cons,
      List.foldl_nil, ← ih]
    by_cases hparent : piece = parentMark
    · subst hparent
      cases hsettled : rest.foldl (push inner) [] with
      | nil =>
        cases inner with
        | false => simp [push]
        | true =>
          obtain ⟨rfl, rfl⟩ := h rfl
          simp [push]
      | cons top below =>
        by_cases htop : top = parentMark
        · simp [push, htop]
        · simp [push, htop]
    · simp [push, hparent]

/-- A normal form settles like the path itself. -/
lemma settle_normalizeChars : settle (normalizeChars path) = settle path := by
  rw [settle, components_normalizeChars, root_normalizeChars, settle]
  exact foldl_push_settled fun h => ⟨h, rfl⟩

/-- A normal form is its own normal form. -/
lemma normalizeChars_normalizeChars :
    normalizeChars (normalizeChars path) = normalizeChars path := by
  rw [normalizeChars, root_normalizeChars, settle_normalizeChars]
  rfl

/-- To normalize a path before it is joined to another one makes no difference. -/
lemma normalizeChars_joinChars (hne : first ≠ []) (h : isRooted second = false) :
    normalizeChars (joinChars first (normalizeChars second)) =
      normalizeChars (joinChars first second) := by
  have hnormal : isRooted (normalizeChars second) = false := isRooted_normalizeChars.trans h
  have hsettle : settle second = (components second).foldl (push false) [] := by
    rw [settle, root_of_not_isRooted h]
    rfl
  have hroot : root (joinChars first (normalizeChars second)) = root (joinChars first second) := by
    rw [root_joinChars hne hnormal, root_joinChars hne h]
  have hstack : settle (joinChars first (normalizeChars second)) =
      settle (joinChars first second) := by
    rw [settle, settle, hroot, components_joinChars hnormal, components_joinChars h,
      components_normalizeChars, hsettle, List.foldl_append, List.foldl_append,
      foldl_push_settled (by simp)]
  show assemble (root _) (settle _).reverse = assemble (root _) (settle _).reverse
  rw [hroot, hstack]

/-! ## Endings -/

/-- A text that ends the last component of a path and cannot make it disappear. -/
def IsEnding (tail : List Char) : Prop :=
  '/' ∉ tail ∧ ∃ c ∈ tail, c ≠ '.'

lemma IsEnding.isComponent_append {piece tail : List Char} (h : IsEnding tail)
    (hpiece : '/' ∉ piece) : IsComponent (piece ++ tail) ∧ piece ++ tail ≠ parentMark := by
  obtain ⟨hslash, c, hc, hdot⟩ := h
  have hmem : c ∈ piece ++ tail := List.mem_append_right _ hc
  refine ⟨⟨List.ne_nil_of_mem hmem, fun hsame => ?_, ?_⟩, fun hsame => ?_⟩
  · rw [hsame] at hmem
    exact hdot (List.mem_singleton.1 hmem)
  · rw [List.mem_append, not_or]
    exact ⟨hpiece, hslash⟩
  · rw [hsame] at hmem
    exact hdot (by simpa [parentMark] using hmem)

lemma IsEnding.ne_nil {tail : List Char} (h : IsEnding tail) : tail ≠ [] := by
  obtain ⟨-, c, hc, -⟩ := h
  exact List.ne_nil_of_mem hc

lemma IsEnding.append {tail more : List Char} (h : IsEnding tail) (hmore : IsEnding more) :
    IsEnding (tail ++ more) := by
  obtain ⟨hslash, c, hc, hdot⟩ := h
  refine ⟨?_, c, List.mem_append_left _ hc, hdot⟩
  rw [List.mem_append, not_or]
  exact ⟨hslash, hmore.1⟩

lemma IsEnding.isRooted {tail : List Char} (h : IsEnding tail) : isRooted tail = false := by
  cases tail with
  | nil => rfl
  | cons c rest =>
    have hc : c ≠ '/' := fun hc => h.1 (by simp [hc])
    simp [LexicalPath.isRooted, hc]

lemma IsEnding.root_append {tail : List Char} (h : IsEnding tail) :
    root (path ++ tail) = root path := by
  by_cases hne : path = []
  · subst hne
    exact root_of_not_isRooted h.isRooted
  · exact LexicalPath.root_append hne (.inl h.isRooted)

/-- What is written behind a path without slashes goes into its last piece. -/
lemma exists_last_piece (path : List Char) :
    ∃ parts piece, '/' ∉ piece ∧ ∀ tail, '/' ∉ tail →
      components (path ++ tail) = parts ++ components (piece ++ tail) := by
  induction path using List.reverseRecOn with
  | nil => exact ⟨[], [], by simp, fun tail _ => rfl⟩
  | append_singleton rest c ih =>
    by_cases hc : c = '/'
    · subst hc
      refine ⟨components rest, [], by simp, fun tail _ => ?_⟩
      rw [List.append_assoc, List.singleton_append, components_append_slash, List.nil_append]
    · obtain ⟨parts, piece, hpiece, hall⟩ := ih
      have hslash {text : List Char} (htext : '/' ∉ text) : '/' ∉ c :: text :=
        List.not_mem_cons_of_ne_of_not_mem (Ne.symm hc) htext
      refine ⟨parts, piece ++ [c], ?_, fun tail htail => ?_⟩
      · rw [List.mem_append, not_or]
        exact ⟨hpiece, hslash List.not_mem_nil⟩
      · rw [List.append_assoc, List.append_assoc, List.singleton_append, hall _ (hslash htail)]

/-- Writing an ending behind a path leaves all but the last entry of its stack as they are. -/
lemma exists_settle_append (path : List Char) :
    ∃ below piece, '/' ∉ piece ∧
      (∀ tail, IsEnding tail → settle (path ++ tail) = (piece ++ tail) :: below) ∧
      settle path = (components piece).foldl (push !(root path).isEmpty) below := by
  obtain ⟨parts, piece, hpiece, hall⟩ := exists_last_piece path
  refine ⟨parts.foldl (push !(root path).isEmpty) [], piece, hpiece, fun tail htail => ?_, ?_⟩
  · obtain ⟨hcomponent, hparent⟩ := htail.isComponent_append hpiece
    rw [settle, htail.root_append, hall tail htail.1, components_of_isComponent hcomponent,
      List.foldl_append]
    simp [push, hparent]
  · have hnone := hall [] List.not_mem_nil
    rw [List.append_nil, List.append_nil] at hnone
    rw [settle, hnone, List.foldl_append]

lemma intercalate_append_last (piece tail : List Char) :
    ['/'].intercalate (parts ++ [piece ++ tail]) =
      ['/'].intercalate (parts ++ [piece]) ++ tail := by
  induction parts with
  | nil => simp
  | cons part rest ih =>
    cases rest with
    | nil => simp [List.intercalate_cons_cons]
    | cons next others =>
      simp only [List.cons_append, List.intercalate_cons_cons] at ih ⊢
      rw [ih]
      simp only [List.append_assoc]

/-- An ending stands behind the normal form as it stood behind the path, and what is in front of it
does not depend on it. -/
lemma exists_front (path : List Char) :
    ∃ front, ∀ tail, IsEnding tail → normalizeChars (path ++ tail) = front ++ tail := by
  obtain ⟨below, piece, -, hsettle, -⟩ := exists_settle_append path
  refine ⟨root path ++ ['/'].intercalate (below.reverse ++ [piece]), fun tail htail => ?_⟩
  rw [normalizeChars, htail.root_append, hsettle tail htail, List.reverse_cons]
  unfold assemble
  rw [intercalate_append_last, ← List.append_assoc]
  split
  · next hempty => exact absurd (List.append_eq_nil_iff.1 hempty).2 htail.ne_nil
  · rfl

/-- A path with an ending behind it is another file than the path without. -/
lemma normalizeChars_ne_append {tail : List Char} (h : IsEnding tail) :
    normalizeChars path ≠ normalizeChars (path ++ tail) := by
  intro hsame
  obtain ⟨below, piece, hpiece, hwith, hwithout⟩ := exists_settle_append path
  have hstack := settle_eq_of_normalizeChars_eq hsame
  rw [hwith tail h, hwithout] at hstack
  have hself {text : List Char} : text ≠ text ++ tail := by
    intro htext
    exact h.ne_nil (List.self_eq_append_right.1 htext)
  by_cases hcomponent : IsComponent piece
  · rw [components_of_isComponent hcomponent, List.foldl_cons, List.foldl_nil] at hstack
    by_cases hparent : piece = parentMark
    · subst hparent
      cases below with
      | nil =>
        cases hrooted : !(root path).isEmpty with
        | false =>
          simp only [push, hrooted, if_true] at hstack
          exact hself (List.cons.inj hstack).1
        | true => simp [push, hrooted] at hstack
      | cons top below =>
        by_cases htop : top = parentMark
        · simp only [push, htop, if_true] at hstack
          exact hself (List.cons.inj hstack).1
        · simp only [push, htop, if_true, if_false] at hstack
          have hlength := congrArg List.length hstack
          simp only [List.length_cons] at hlength
          omega
    · simp only [push, hparent, if_false] at hstack
      exact hself (List.cons.inj hstack).1
  · -- the piece stands for nothing, so the stack without the ending is lower
    have hnone : components piece = [] := by
      rw [components, List.splitOn_eq_singleton hpiece]
      simpa [IsComponent, hpiece] using hcomponent
    rw [hnone, List.foldl_nil] at hstack
    have hlength := congrArg List.length hstack
    simp at hlength

/-! ## Extensions -/

lemma splitAtLast?_append_cons {mark : Char} {before after : List Char} (h : mark ∉ after) :
    splitAtLast? mark (before ++ mark :: after) = some (before, after) := by
  have hafter : ∀ c ∈ after.reverse, (c != mark) = true := by
    intro c hc
    have hne : c ≠ mark := fun hsame => h (hsame ▸ List.mem_reverse.1 hc)
    simpa using hne
  have hreverse : (before ++ mark :: after).reverse = after.reverse ++ mark :: before.reverse := by
    simp
  rw [splitAtLast?, hreverse, List.dropWhile_append_of_pos hafter,
    List.takeWhile_append_of_pos hafter]
  simp

lemma splitAtLast?_eq_none {mark : Char} {text : List Char} (h : mark ∉ text) :
    splitAtLast? mark text = none := by
  have hall : ∀ c ∈ text.reverse, (c != mark) = true := by
    intro c hc
    have hne : c ≠ mark := fun hsame => h (hsame ▸ List.mem_reverse.1 hc)
    simpa using hne
  rw [splitAtLast?, List.dropWhile_eq_nil_iff.2 hall]

lemma exists_last_mark {mark : Char} {text : List Char} (h : mark ∈ text) :
    ∃ before after, text = before ++ mark :: after ∧ mark ∉ after := by
  obtain ⟨after, before, htext, hafter⟩ := List.eq_append_cons_of_mem (List.mem_reverse.2 h)
  refine ⟨before.reverse, after.reverse, ?_, fun hmem => hafter (List.mem_reverse.1 hmem)⟩
  rw [← List.reverse_reverse text, htext]
  simp

/-- What is written behind a path without slashes goes into the last piece. -/
lemma baseChars_append {tail : List Char} (h : '/' ∉ tail) :
    baseChars (path ++ tail) = baseChars path ++ tail := by
  have happend {text : List Char} (htext : '/' ∉ text) : '/' ∉ text ++ tail := by
    rw [List.mem_append, not_or]
    exact ⟨htext, h⟩
  by_cases hslash : '/' ∈ path
  · obtain ⟨before, after, rfl, hafter⟩ := exists_last_mark hslash
    rw [List.append_assoc, List.cons_append, baseChars, baseChars, splitAtLast?_append_cons hafter,
      splitAtLast?_append_cons (happend hafter)]
  · rw [baseChars, baseChars, splitAtLast?_eq_none hslash, splitAtLast?_eq_none (happend hslash)]

lemma slash_notMem_baseChars : '/' ∉ baseChars path := by
  by_cases hslash : '/' ∈ path
  · obtain ⟨before, after, rfl, hafter⟩ := exists_last_mark hslash
    rwa [baseChars, splitAtLast?_append_cons hafter]
  · rwa [baseChars, splitAtLast?_eq_none hslash]

/-- A path ends in its last piece. -/
lemma exists_append_baseChars (path : List Char) : ∃ front, path = front ++ baseChars path := by
  by_cases hslash : '/' ∈ path
  · obtain ⟨before, after, rfl, hafter⟩ := exists_last_mark hslash
    refine ⟨before ++ ['/'], ?_⟩
    rw [baseChars, splitAtLast?_append_cons hafter, List.append_assoc, List.singleton_append]
  · refine ⟨[], ?_⟩
    rw [baseChars, splitAtLast?_eq_none hslash, List.nil_append]

/-- What stands in front of an extension is not made of dots alone. -/
lemma exists_lead_of_extension {ext : List Char} (h : (splitExtensionChars path).2 = some ext) :
    ∃ lead, IsEnding lead ∧ baseChars path = lead ++ '.' :: ext := by
  have hdots := @List.takeWhile_append_dropWhile _ (· == '.') (baseChars path)
  generalize hrest : (baseChars path).dropWhile (· == '.') = rest at hdots
  by_cases hdot : '.' ∈ rest
  · obtain ⟨before, after, rfl, hafter⟩ := exists_last_mark hdot
    obtain rfl : after = ext := by
      simpa [splitExtensionChars, hrest, splitAtLast?_append_cons hafter] using h
    have hbase := hdots.symm
    rw [← List.append_assoc] at hbase
    refine ⟨_, ⟨fun hslash => ?_, ?_⟩, hbase⟩
    · refine @slash_notMem_baseChars path ?_
      rw [hbase]
      exact List.mem_append_left _ hslash
    · -- what is left when the dots in front are taken off does not begin with a dot
      have hhead := List.head?_dropWhile_not (· == '.') (baseChars path)
      rw [hrest] at hhead
      cases before with
      | nil => simp at hhead
      | cons c others => exact ⟨c, by simp, by simpa using hhead⟩
  · simp [splitExtensionChars, hrest, splitAtLast?_eq_none hdot] at h

/-- An extension is taken off again if anything but dots stands in front of it in the last piece,
and belongs to the name otherwise. -/
lemma splitExtensionChars_append {ext : List Char} (hne : ext ≠ []) (hslash : '/' ∉ ext)
    (hdot : '.' ∉ ext) :
    splitExtensionChars (path ++ '.' :: ext) =
      if (baseChars path).all (· == '.') then (path ++ '.' :: ext, none) else (path, some ext) := by
  have htail : '/' ∉ '.' :: ext := List.not_mem_cons_of_ne_of_not_mem (by decide) hslash
  have hext : ext.dropWhile (· == '.') = ext := by
    cases ext with
    | nil => rfl
    | cons c rest =>
      have hc : c ≠ '.' := fun hc => hdot (by simp [hc])
      simp [hc]
  rw [splitExtensionChars, baseChars_append htail]
  by_cases hdots : (baseChars path).all (· == '.') = true
  · have hdrop : (baseChars path ++ '.' :: ext).dropWhile (· == '.') = ext := by
      rw [List.dropWhile_append_of_pos (List.all_eq_true.1 hdots)]
      simpa using hext
    simp only [hdrop, splitAtLast?_eq_none hdot, hdots, if_true]
  · have hdrop : (baseChars path ++ '.' :: ext).dropWhile (· == '.') =
        (baseChars path).dropWhile (· == '.') ++ '.' :: ext := by
      rw [List.dropWhile_append, if_neg]
      rw [List.isEmpty_iff, List.dropWhile_eq_nil_iff]
      exact fun hall => hdots (List.all_eq_true.2 hall)
    simp only [hdrop, splitAtLast?_append_cons hdot, if_neg hdots]
    congr 1
    simp

/-! ## Paths as texts -/

section

variable {text base tail ext : String}

lemma exists_front_normalize (text : String) :
    ∃ front : String, ∀ tail : String, IsEnding tail.toList →
      normalize (text ++ tail) = front ++ tail := by
  obtain ⟨front, hfront⟩ := exists_front text.toList
  refine ⟨String.ofList front, fun tail htail => ?_⟩
  rw [normalize, String.toList_append, hfront _ htail, String.ofList_append, String.ofList_toList]

lemma normalize_ne_append (h : IsEnding tail.toList) :
    normalize text ≠ normalize (text ++ tail) := by
  intro hsame
  rw [normalize, normalize, String.toList_append, String.ofList_inj] at hsame
  exact normalizeChars_ne_append h hsame

lemma join_append (htext : isRooted text.toList = false) (htail : isRooted tail.toList = false) :
    join base (text ++ tail) = join base text ++ tail := by
  have hboth : isRooted (text.toList ++ tail.toList) = false := by
    cases hchars : text.toList with
    | nil => exact htail
    | cons c rest =>
      rw [hchars] at htext
      exact htext
  rw [← String.toList_inj]
  simp only [join, joinChars, String.toList_append, String.toList_ofList, htext, hboth,
    Bool.false_eq_true, if_false]
  split <;> simp

lemma normalize_join (hbase : base ≠ "") (htext : isRooted text.toList = false) :
    normalize (join base (normalize text)) = normalize (join base text) := by
  have hne : base.toList ≠ [] := by simpa using hbase
  rw [normalize, normalize, join, join, normalize, String.toList_ofList, String.toList_ofList,
    String.toList_ofList, normalizeChars_joinChars hne htext]

/-- A text that can be the extension of a file. -/
def IsExtension (ext : String) : Prop :=
  ext ≠ "" ∧ '/' ∉ ext.toList ∧ '.' ∉ ext.toList

instance : DecidablePred IsExtension := fun ext =>
  inferInstanceAs (Decidable (ext ≠ "" ∧ '/' ∉ ext.toList ∧ '.' ∉ ext.toList))

lemma IsExtension.isEnding (h : IsExtension ext) : IsEnding ("." ++ ext).toList := by
  obtain ⟨hne, hslash, hdot⟩ := h
  have hchars : ("." ++ ext).toList = '.' :: ext.toList := by simp
  rw [hchars]
  refine ⟨List.not_mem_cons_of_ne_of_not_mem (by decide) hslash, ?_⟩
  obtain ⟨c, hc⟩ := List.exists_mem_of_ne_nil ext.toList (by simpa using hne)
  exact ⟨c, List.mem_cons_of_mem _ hc, fun hsame => hdot (hsame ▸ hc)⟩

lemma stem_append (h : IsExtension ext) :
    stem (text ++ "." ++ ext) =
      if (baseChars text.toList).all (· == '.') then text ++ "." ++ ext else text := by
  obtain ⟨hne, hslash, hdot⟩ := h
  have hchars : (text ++ "." ++ ext).toList = text.toList ++ '.' :: ext.toList := by simp
  have hnil : ext.toList ≠ [] := by simpa using hne
  rw [stem, hchars, splitExtensionChars_append hnil hslash hdot]
  split
  · rw [← hchars, String.ofList_toList]
  · rw [String.ofList_toList]

lemma IsEnding.append_extension (h : IsEnding text.toList) (hext : IsExtension ext) :
    IsEnding (text ++ "." ++ ext).toList := by
  rw [String.append_assoc, String.toList_append]
  exact h.append hext.isEnding

/-- An extension is taken off again if what stands in front of it is not made of dots alone. -/
lemma stem_append_of_isEnding {front : String} (h : IsEnding text.toList) (hext : IsExtension ext) :
    stem (front ++ (text ++ "." ++ ext)) = front ++ text := by
  obtain ⟨hslash, c, hc, hdot⟩ := h
  have hname : front ++ (text ++ "." ++ ext) = front ++ text ++ "." ++ ext := by
    simp only [String.append_assoc]
  rw [hname, stem_append hext, if_neg]
  rw [String.toList_append, baseChars_append hslash, List.all_eq_true]
  intro hall
  exact hdot (by simpa using hall c (List.mem_append_right _ hc))

/-- The extension that a text ends in is determined by the text. -/
lemma eq_of_append_extension {lead lead' ext' : String} (h : IsExtension ext)
    (h' : IsExtension ext') (hsame : lead ++ "." ++ ext = lead' ++ "." ++ ext') : ext = ext' := by
  have hchars := congrArg String.toList hsame
  have hsplit (lead ext : String) (h : IsExtension ext) :
      splitAtLast? '.' (lead ++ "." ++ ext).toList = some (lead.toList, ext.toList) := by
    have htext : (lead ++ "." ++ ext).toList = lead.toList ++ '.' :: ext.toList := by simp
    rw [htext, splitAtLast?_append_cons h.2.2]
  have hlast := congrArg (splitAtLast? '.') hchars
  rw [hsplit lead ext h, hsplit lead' ext' h', Option.some.injEq, Prod.mk.injEq] at hlast
  exact String.toList_inj.1 hlast.2

end

end SwiftPlan.LexicalPath
