import Mathlib.Data.List.Basic
import SwiftPlan.ResponseFile.Token

/-!
# Response files as runs of characters

A text is scanned from left to right, where a backslash takes the character behind it.  `scan`
records which characters were taken in this way, and nothing else: written out again, what was
scanned is the text (`source_scan`).

On scanned texts it is easy to say what the arguments are.  White space that was not taken by a
backslash separates arguments or is refused, everything else belongs to an argument, and the
arguments are the longest runs of what belongs to one (`runs`).  In the text such a run still has
its backslashes.  They are taken out afterwards by a pass of their own (`unescape`), which pairs
backslashes with characters within the run, and so has to find the same pairs that were found in the
whole text (`unescape_source`).

`tokens_eq_runs` says that splitting a text, which does all this at once, gives the same arguments,
or the place of the first character that is refused.
-/

namespace SwiftPlan.ResponseFile

/-- A character of a text, with what a scan from left to right found out about it. -/
inductive Piece where
  /-- A character that no backslash took. -/
  | plain (c : Char)
  /-- A character with the backslash that took it. -/
  | escaped (c : Char)
  /-- A backslash at the end of the text, where there is nothing to take. -/
  | dangling
  deriving DecidableEq, Repr

namespace Piece

/-- The piece as it stands in the text. -/
def source : Piece → List Char
  | plain c => [c]
  | escaped c => ['\\', c]
  | dangling => ['\\']

/-- What is left of the piece in an argument. -/
def char : Piece → Char
  | plain c => c
  | escaped c => c
  | dangling => '\\'

/-- Whether the piece stands between arguments. -/
def separates : Piece → Bool
  | plain c => ResponseFile.separates c
  | escaped _ | dangling => false

/-- Whether the piece is white space that separates nothing. -/
def isRefused : Piece → Bool
  | plain c => Text.isBlank c && !ResponseFile.separates c
  | escaped _ | dangling => false

end Piece

/-- The pieces of a text. -/
def scan : List Char → List Piece
  | [] => []
  | ['\\'] => [.dangling]
  | '\\' :: c :: rest => .escaped c :: scan rest
  | c :: rest => .plain c :: scan rest

/-- Pieces as they stand in a text. -/
def source (pieces : List Piece) : List Char :=
  pieces.flatMap (·.source)

/-- The longest runs of pieces that belong to arguments. -/
def runs (pieces : List Piece) : List (List Piece) :=
  (pieces.splitOnP (·.separates)).filter (· ≠ [])

/-- Takes out each backslash that has a character behind it, and keeps that character. -/
def unescape : List Char → List Char
  | [] => []
  | '\\' :: c :: rest => c :: unescape rest
  | c :: rest => c :: unescape rest

/-- The argument that a run stands for. -/
def argumentOf (run : List Piece) : String :=
  String.ofList (unescape (source run))

variable {text first second gap rest : List Char} {c : Char} {pieces front back run : List Piece}
  {piece : Piece} {words more : List String}

/-! ## Scanning -/

lemma ne_backslash_of_separates (h : separates c = true) : c ≠ '\\' := by
  rintro rfl
  exact absurd h (by decide)

lemma scan_plain (hc : c ≠ '\\') : scan (c :: rest) = .plain c :: scan rest := by
  rw [scan]
  · exact fun hend => absurd hend hc
  · exact fun _ _ hescape => absurd hescape hc

lemma split_plain (hc : c ≠ '\\') :
    split (c :: rest) =
      if separates c then (split rest).map fun (first, others) => ([], withFirst first others)
      else if Text.isBlank c then .error (c :: rest)
      else (split rest).map fun (first, others) => (c :: first, others) := by
  rw [split]
  · exact fun hend => absurd hend hc
  · exact fun _ _ hescape => absurd hescape hc

/-- Induction along a scan. -/
@[elab_as_elim]
lemma scanInduction {motive : List Char → Prop} (nil : motive []) (dangling : motive ['\\'])
    (escaped : ∀ c rest, motive rest → motive ('\\' :: c :: rest))
    (plain : ∀ c rest, c ≠ '\\' → motive rest → motive (c :: rest)) (text : List Char) :
    motive text := by
  fun_induction scan text with
  | case1 => exact nil
  | case2 => exact dangling
  | case3 c rest ih => exact escaped c rest ih
  | case4 c rest hend hescape ih =>
    refine plain c rest ?_ ih
    rintro rfl
    cases rest with
    | nil => exact hend rfl rfl
    | cons c rest => exact hescape c rest rfl rfl

@[simp] lemma source_cons : source (piece :: pieces) = piece.source ++ source pieces :=
  List.flatMap_cons

lemma source_append : source (front ++ back) = source front ++ source back :=
  List.flatMap_append

/-- What the scan found is the text. -/
lemma source_scan (text : List Char) : source (scan text) = text := by
  induction text using scanInduction with
  | nil => rfl
  | dangling => rfl
  | escaped c rest ih => rw [scan, source_cons, ih]; rfl
  | plain c rest hc ih => rw [scan_plain hc, source_cons, ih]; rfl

/-- A text in which no escape is left open is scanned for itself. -/
lemma scan_append (h : .dangling ∉ scan first) :
    scan (first ++ second) = scan first ++ scan second := by
  induction first using scanInduction with
  | nil => rfl
  | dangling => simp [scan] at h
  | escaped c rest ih =>
    rw [scan, List.mem_cons, not_or] at h
    rw [List.cons_append, List.cons_append, scan, ih h.2, scan, List.cons_append]
  | plain c rest hc ih =>
    rw [scan_plain hc, List.mem_cons, not_or] at h
    rw [List.cons_append, scan_plain hc, ih h.2, scan_plain hc, List.cons_append]

lemma scan_gap (h : ∀ c ∈ gap, separates c = true) : scan gap = gap.map .plain := by
  induction gap with
  | nil => rfl
  | cons c gap ih =>
    obtain ⟨hc, hgap⟩ := List.forall_mem_cons.1 h
    rw [scan_plain (ne_backslash_of_separates hc), ih hgap, List.map_cons]

/-! ## Runs -/

lemma separates_plain : (Piece.plain c).separates = separates c := rfl

/-- Scanned alone, a run shows the same escapes as in the text. -/
lemma scan_source_of_mem_splitOnP (h : run ∈ (scan text).splitOnP (·.separates)) :
    scan (source run) = run := by
  induction text using scanInduction generalizing run with
  | nil =>
    obtain rfl : run = [] := by simpa [scan] using h
    rfl
  | dangling =>
    obtain rfl : run = [.dangling] := by
      simpa [scan, List.splitOnP_cons_eq_if_modifyHead, Piece.separates] using h
    rfl
  | escaped c rest ih =>
    obtain ⟨first, others, hsplit⟩ := List.exists_cons_of_ne_nil
      (List.splitOnP_ne_nil (·.separates) (scan rest))
    rw [scan, List.splitOnP_cons_eq_if_modifyHead, if_neg (by simp [Piece.separates]), hsplit,
      List.modifyHead_cons] at h
    rcases List.mem_cons.1 h with rfl | hothers
    · rw [source_cons, Piece.source, List.cons_append, List.cons_append, List.nil_append, scan,
        ih (hsplit ▸ List.mem_cons_self)]
    · exact ih (hsplit ▸ List.mem_cons_of_mem _ hothers)
  | plain c rest hc ih =>
    obtain ⟨first, others, hsplit⟩ := List.exists_cons_of_ne_nil
      (List.splitOnP_ne_nil (·.separates) (scan rest))
    rw [scan_plain hc, List.splitOnP_cons_eq_if_modifyHead] at h
    split at h
    · rcases List.mem_cons.1 h with rfl | hrest
      · rfl
      · exact ih hrest
    · rw [hsplit, List.modifyHead_cons] at h
      rcases List.mem_cons.1 h with rfl | hothers
      · rw [source_cons, Piece.source, List.singleton_append, scan_plain hc,
          ih (hsplit ▸ List.mem_cons_self)]
      · exact ih (hsplit ▸ List.mem_cons_of_mem _ hothers)

lemma unescape_plain (hc : c ≠ '\\') : unescape (c :: rest) = c :: unescape rest := by
  rw [unescape]
  exact fun _ _ hescape => absurd hescape hc

/-- Escapes are taken out as the scan of a text finds them. -/
lemma unescape_eq (text : List Char) : unescape text = (scan text).map (·.char) := by
  induction text using scanInduction with
  | nil => rfl
  | dangling => rfl
  | escaped c rest ih => rw [unescape, scan, List.map_cons, ih]; rfl
  | plain c rest hc ih => rw [unescape_plain hc, scan_plain hc, List.map_cons, ih]; rfl

/-- So the escapes in a run are those of the text. -/
lemma argumentOf_of_mem_runs (h : run ∈ runs (scan text)) :
    argumentOf run = String.ofList (run.map (·.char)) := by
  have hscan : scan (source run) = run := scan_source_of_mem_splitOnP (List.mem_filter.1 h).1
  rw [argumentOf, unescape_eq, hscan]

lemma runs_append_cons (h : piece.separates = true) :
    runs (front ++ piece :: back) = runs front ++ runs back := by
  rw [runs, List.splitOnP_append_cons front back h, List.filter_append]
  rfl

/-- What stands before and behind white space is split apart. -/
lemma runs_append_gap (hne : gap ≠ []) (h : ∀ c ∈ gap, separates c = true) :
    runs (front ++ gap.map .plain ++ back) = runs front ++ runs back := by
  induction gap generalizing front with
  | nil => exact absurd rfl hne
  | cons c gap ih =>
    obtain ⟨hc, hgap⟩ := List.forall_mem_cons.1 h
    have hplain : (Piece.plain c).separates = true := hc
    rw [List.map_cons, List.append_assoc, List.cons_append, runs_append_cons hplain]
    by_cases hlast : gap = []
    · rw [hlast, List.map_nil, List.nil_append]
    · rw [← List.nil_append (gap.map _ ++ back), ← List.append_assoc, ih hlast hgap]
      rfl

/-! ## Splitting -/

/-- The arguments in what comes of splitting a list of pieces. -/
lemma withFirst_map (first : List Piece) (others : List (List Piece)) :
    withFirst (first.map (·.char)) ((others.filter (· ≠ [])).map (·.map (·.char))) =
      ((first :: others).filter (· ≠ [])).map (·.map (·.char)) := by
  by_cases h : first = []
  · simp [withFirst, h]
  · simp [withFirst, h]

/-- A text in which nothing is refused is split where its pieces are. -/
lemma split_of_accepted (h : ∀ piece ∈ scan text, piece.isRefused = false) :
    ∃ first others, (scan text).splitOnP (·.separates) = first :: others ∧
      split text = .ok (first.map (·.char), (others.filter (· ≠ [])).map (·.map (·.char))) := by
  induction text using scanInduction with
  | nil => exact ⟨[], [], rfl, rfl⟩
  | dangling => exact ⟨[.dangling], [], rfl, rfl⟩
  | escaped c rest ih =>
    rw [scan] at h ⊢
    obtain ⟨first, others, hpieces, hsplit⟩ := ih (List.forall_mem_cons.1 h).2
    refine ⟨.escaped c :: first, others, ?_, ?_⟩
    · rw [List.splitOnP_cons_eq_if_modifyHead, if_neg (by simp [Piece.separates]), hpieces,
        List.modifyHead_cons]
    · rw [split, hsplit]
      rfl
  | plain c rest hc ih =>
    rw [scan_plain hc] at h ⊢
    obtain ⟨haccepted, hrest⟩ := List.forall_mem_cons.1 h
    obtain ⟨first, others, hpieces, hsplit⟩ := ih hrest
    rw [split_plain hc, List.splitOnP_cons_eq_if_modifyHead, hpieces, hsplit]
    by_cases hseparates : separates c = true
    · refine ⟨[], first :: others, if_pos hseparates, ?_⟩
      rw [if_pos hseparates, ← withFirst_map]
      rfl
    · have hblank : ¬ Text.isBlank c = true := by
        simpa [Piece.isRefused, hseparates] using haccepted
      refine ⟨.plain c :: first, others, ?_, ?_⟩
      · rw [separates_plain, if_neg hseparates, List.modifyHead_cons]
      · rw [if_neg hseparates, if_neg hblank]
        rfl

/-- Otherwise splitting stops where the first refused character stands. -/
lemma split_of_refused (h : ∃ piece ∈ scan text, piece.isRefused = true) :
    split text = .error (source ((scan text).dropWhile fun piece => !piece.isRefused)) := by
  induction text using scanInduction with
  | nil => simp [scan] at h
  | dangling => simp [scan, Piece.isRefused] at h
  | escaped c rest ih =>
    rw [scan] at h ⊢
    have hrest : ∃ piece ∈ scan rest, piece.isRefused = true := by
      simpa [Piece.isRefused] using h
    rw [split, ih hrest, List.dropWhile_cons_of_pos (by simp [Piece.isRefused])]
    rfl
  | plain c rest hc ih =>
    rw [scan_plain hc] at h ⊢
    rw [split_plain hc]
    by_cases hrefused : (Piece.plain c).isRefused = true
    · have hwhite : Text.isBlank c = true ∧ ¬ separates c = true := by
        simpa [Piece.isRefused] using hrefused
      rw [if_neg hwhite.2, if_pos hwhite.1, List.dropWhile_cons_of_neg (by simp [hrefused]),
        source_cons, source_scan]
      rfl
    · have hrest : ∃ piece ∈ scan rest, piece.isRefused = true := by
        simpa [hrefused] using h
      rw [ih hrest, List.dropWhile_cons_of_pos (by simp [hrefused])]
      split
      · rfl
      · split
        · next hseparates hblank => simp [Piece.isRefused, hseparates, hblank] at hrefused
        · rfl

/-! ## The arguments of a text -/

lemma tokens_of_accepted (h : ∀ piece ∈ scan text, piece.isRefused = false) :
    tokens text = .ok ((runs (scan text)).map argumentOf) := by
  obtain ⟨first, others, hpieces, hsplit⟩ := split_of_accepted h
  have hruns : runs (scan text) = (first :: others).filter (· ≠ []) := by rw [runs, hpieces]
  have harguments : (runs (scan text)).map argumentOf =
      (runs (scan text)).map fun run => String.ofList (run.map (·.char)) :=
    List.map_congr_left fun run hrun => argumentOf_of_mem_runs hrun
  rw [tokens, hsplit, harguments, hruns]
  dsimp only
  rw [withFirst_map, List.map_map]
  rfl

lemma tokens_of_refused (h : ∃ piece ∈ scan text, piece.isRefused = true) :
    tokens text =
      .error (.after (source ((scan text).takeWhile fun piece => !piece.isRefused))) := by
  have hparts : source ((scan text).takeWhile fun piece => !piece.isRefused) ++
      source ((scan text).dropWhile fun piece => !piece.isRefused) = text := by
    rw [← source_append, List.takeWhile_append_dropWhile, source_scan]
  generalize (scan text).takeWhile (fun piece => !piece.isRefused) = before at *
  rw [tokens, split_of_refused h]
  generalize (scan text).dropWhile (fun piece => !piece.isRefused) = behind at *
  dsimp only
  rw [← hparts, List.length_append, Nat.add_sub_cancel, List.take_left]

lemma argumentOf_ne_empty (h : run ∈ runs (scan text)) : argumentOf run ≠ "" := by
  have hne : run ≠ [] := by simpa using (List.mem_filter.1 h).2
  rw [argumentOf_of_mem_runs h]
  simpa [← String.toList_inj] using hne

lemma forall_accepted (h : ¬ ∃ piece ∈ scan text, piece.isRefused = true) :
    ∀ piece ∈ scan text, piece.isRefused = false := by
  simpa using h

lemma accepted_of_tokens (h : tokens text = .ok words) :
    ∀ piece ∈ scan text, piece.isRefused = false :=
  forall_accepted fun hrefused => by simp [tokens_of_refused hrefused] at h

lemma words_of_tokens (h : tokens text = .ok words) : words = (runs (scan text)).map argumentOf :=
  Except.ok.inj (h.symm.trans (tokens_of_accepted (accepted_of_tokens h)))

/-- White space between two texts separates their arguments, unless a backslash takes it. -/
lemma tokens_append_gap (hopen : .dangling ∉ scan text) (hne : gap ≠ [])
    (hgap : ∀ c ∈ gap, separates c = true) (hwords : tokens text = .ok words)
    (hmore : tokens rest = .ok more) : tokens (text ++ gap ++ rest) = .ok (words ++ more) := by
  have hclosed : .dangling ∉ scan (text ++ gap) := by
    rw [scan_append hopen, scan_gap hgap]
    simp [hopen]
  have hscan : scan (text ++ gap ++ rest) = scan text ++ gap.map .plain ++ scan rest := by
    rw [scan_append hclosed, scan_append hopen, scan_gap hgap]
  have haccepted : ∀ piece ∈ scan (text ++ gap ++ rest), piece.isRefused = false := by
    simp only [hscan, List.forall_mem_append, List.forall_mem_map]
    exact ⟨⟨accepted_of_tokens hwords, fun c hc => by simp [Piece.isRefused, hgap c hc]⟩,
      accepted_of_tokens hmore⟩
  rw [tokens_of_accepted haccepted, hscan, runs_append_gap hne hgap, List.map_append,
    ← words_of_tokens hwords, ← words_of_tokens hmore]

/-- **The arguments of a response file.**  A text is refused exactly if it has white space of a
wrong kind with no backslash before it, and then the place of the first such character is reported.
Otherwise its arguments are the longest runs of what belongs to arguments, in order and without the
backslashes that took a character.  No argument is empty, and white space between two texts keeps
their arguments apart if no escape is open. -/
theorem tokens_eq_runs (text : List Char) :
    tokens text =
        (if ∃ piece ∈ scan text, piece.isRefused = true then
          .error (.after (source ((scan text).takeWhile fun piece => !piece.isRefused)))
        else .ok ((runs (scan text)).map argumentOf)) ∧
      (∀ words, tokens text = .ok words → "" ∉ words) ∧
      ∀ gap rest words more, .dangling ∉ scan text → gap ≠ [] →
        (∀ c ∈ gap, separates c = true) → tokens text = .ok words → tokens rest = .ok more →
        tokens (text ++ gap ++ rest) = .ok (words ++ more) := by
  refine ⟨?_, fun words hwords => ?_, fun gap rest words more hopen hne hgap hwords hmore => ?_⟩
  · split
    · next hrefused => exact tokens_of_refused hrefused
    · next haccepted => exact tokens_of_accepted (forall_accepted haccepted)
  · rw [words_of_tokens hwords, List.mem_map]
    rintro ⟨run, hrun, hempty⟩
    exact argumentOf_ne_empty hrun hempty
  · exact tokens_append_gap hopen hne hgap hwords hmore

/-- Two texts with an escaped blank, an escaped backslash in front of white space, and a backslash
at the very end. -/
theorem tokens_eq_runs_of_escapes :
    .dangling ∉ scan "a\\ b\\\\".toList ∧ (∀ c ∈ "\n ".toList, separates c = true) ∧
      tokens "a\\ b\\\\".toList = .ok ["a b\\"] ∧ tokens "c\\".toList = .ok ["c\\"] ∧
      tokens ("a\\ b\\\\".toList ++ "\n ".toList ++ "c\\".toList) =
        .ok (["a b\\"] ++ ["c\\"]) := by
  have hpieces : scan "a\\ b\\\\".toList =
      [.plain 'a', .escaped ' ', .plain 'b', .escaped '\\'] := by
    decide +kernel
  have hopen : .dangling ∉ scan "a\\ b\\\\".toList := by
    rw [hpieces]
    simp
  have hgap : ∀ c ∈ "\n ".toList, separates c = true := by simp [separates]
  have hwords : tokens "a\\ b\\\\".toList = .ok ["a b\\"] := by decide +kernel
  have hmore : tokens "c\\".toList = .ok ["c\\"] := by decide +kernel
  exact ⟨hopen, hgap, hwords, hmore,
    (tokens_eq_runs _).2.2 _ _ _ _ hopen (by decide +kernel) hgap hwords hmore⟩

end SwiftPlan.ResponseFile
