import Mathlib.Data.List.Forall2
import SwiftPlan.Job
import SwiftPlan.Options.Parsed

/-!
# Quotation

Two writers put words on a line.  A job is shown with `ShellWord.quote`, which leaves a word alone
only if all its characters are plain; a parsed command line is shown with `showToken`, which leaves
a word alone unless it is empty or has white space, a quotation mark or a backslash in it.  The
reader `ShellWord.words?` undoes both, since all that it asks of a piece of a line is that it
*spells* its word: read from the start of a word, the piece leaves exactly the word behind and no
quotation open (`Spells`).

So nothing is proved twice.  Unquoted pieces spell themselves when no character in them means
anything to the reader (`spells_of_ordinary`), quoted ones spell what is between the marks
(`spells_quoted`), and a line of pieces with spaces between them is taken apart into the words that
they spell (`wordsFrom_intercalate`).  No condition is put on the words: they may be empty, and
have any characters in them.
-/

namespace SwiftPlan

namespace ShellWord

/-! ## Pieces of a line -/

/-- Read from the start of a word, the piece `cs` leaves `word` behind, with no quotation open. -/
def Spells (cs word : List Char) : Prop :=
  ∀ rest, wordsFrom .bare none (cs ++ rest) = wordsFrom .bare (some word) rest

/-- A character that stands for itself outside quotation marks. -/
def IsOrdinary (c : Char) : Prop :=
  separates c = false ∧ c ≠ '\'' ∧ c ≠ '"' ∧ c ≠ '\\'

lemma wordsFrom_ordinary {c : Char} (h : IsOrdinary c) (word : Option (List Char))
    (rest : List Char) :
    wordsFrom .bare word (c :: rest) = wordsFrom .bare (extend word c) rest := by
  obtain ⟨hsep, hsingle, hdouble, hescape⟩ := h
  rw [wordsFrom]
  · simp [hsep]
  all_goals simp_all

/-- Ordinary characters are added to the word that has begun, one by one. -/
lemma wordsFrom_ordinary_append {cs : List Char} (h : ∀ c ∈ cs, IsOrdinary c)
    (word rest : List Char) :
    wordsFrom .bare (some word) (cs ++ rest) = wordsFrom .bare (some (word ++ cs)) rest := by
  induction cs generalizing word with
  | nil => simp
  | cons c cs ih =>
    rw [List.cons_append, wordsFrom_ordinary (h c List.mem_cons_self), extend, Option.getD_some,
      ih fun d hd => h d (List.mem_cons_of_mem _ hd)]
    simp

/-- Ordinary characters spell themselves.  At least one is needed to begin a word. -/
lemma spells_of_ordinary {cs : List Char} (hne : cs ≠ []) (h : ∀ c ∈ cs, IsOrdinary c) :
    Spells cs cs := by
  obtain ⟨c, cs, rfl⟩ := List.exists_cons_of_ne_nil hne
  intro rest
  rw [List.cons_append, wordsFrom_ordinary (h c List.mem_cons_self), extend, Option.getD_none,
    wordsFrom_ordinary_append fun d hd => h d (List.mem_cons_of_mem _ hd)]
  simp

/-- What stands between single quotes is read up to the last of them.  A single quote in the word
closes the quotation, is put between double quotes, and opens it again. -/
lemma wordsFrom_quoteInside (cs word rest : List Char) :
    wordsFrom .single (some word) (quoteInside cs ++ '\'' :: rest) =
      wordsFrom .bare (some (word ++ cs)) rest := by
  fun_induction quoteInside cs generalizing word with
  | case1 => simp [wordsFrom]
  | case2 cs ih => simp [wordsFrom, extend, ih]
  | case3 c cs hquote ih =>
    have hc : c ≠ '\'' := hquote
    simp [wordsFrom, extend, ih, hc]

lemma spells_quoted (cs : List Char) : Spells ('\'' :: quoteInside cs ++ ['\'']) cs := by
  intro rest
  have hinside := wordsFrom_quoteInside cs [] rest
  simpa [wordsFrom] using hinside

lemma isOrdinary_of_isPlain {c : Char} (h : isPlain c = true) : IsOrdinary c := by
  refine ⟨?_, ?_, ?_, ?_⟩
  · by_contra hsep
    simp only [separates, Bool.not_eq_false, List.contains_iff_mem, List.mem_cons,
      List.not_mem_nil, or_false] at hsep
    rcases hsep with rfl | rfl | rfl | rfl <;> revert h <;> decide
  all_goals
    rintro rfl
    revert h
    decide

/-- A quoted word spells the word. -/
lemma spells_quote (text : String) : Spells (quote text).toList text.toList := by
  rw [quote, String.toList_ofList, quoteChars]
  split
  · next hplain =>
    refine spells_of_ordinary hplain.1 fun c hc => isOrdinary_of_isPlain ?_
    exact List.all_eq_true.1 hplain.2 c hc
  · exact spells_quoted text.toList

/-! ## Lines -/

/-- A line of pieces with one space between each two of them is taken apart into the words that the
pieces spell. -/
lemma wordsFrom_intercalate {pieces words : List (List Char)}
    (h : List.Forall₂ Spells pieces words) :
    wordsFrom .bare none ([' '].intercalate pieces) = some words := by
  induction h with
  | nil => simp [wordsFrom]
  | @cons piece word pieces words hfirst hrest ih =>
    cases hrest with
    | nil => simpa [wordsFrom] using hfirst []
    | cons hnext hmore =>
      rw [List.intercalate_cons_cons, List.append_assoc, hfirst]
      simp [wordsFrom, separates, ih]

/-- A writer of words is undone by `words?` if what it writes for a word spells the word. -/
lemma words?_intercalate {write : String → String}
    (h : ∀ word, Spells (write word).toList word.toList) (words : List String) :
    words? (" ".intercalate (words.map write)) = some words := by
  have hpieces : List.Forall₂ Spells ((words.map write).map String.toList)
      (words.map String.toList) := by
    simp [List.forall₂_map_left_iff, List.forall₂_map_right_iff, List.forall₂_same, h]
  have hspace : " ".toList = [' '] := by decide
  rw [words?, String.toList_intercalate, hspace, wordsFrom_intercalate hpieces]
  simp [Function.comp_def]

end ShellWord

open ShellWord

/-- The reader separates words at four of the white spaces only. -/
lemma Text.isBlank_of_separates {c : Char} (h : separates c = true) : Text.isBlank c = true := by
  simp only [separates, List.contains_iff_mem, List.mem_cons, List.not_mem_nil, or_false] at h
  rcases h with rfl | rfl | rfl | rfl <;> decide

lemma ParsedOptions.spells_showToken (token : String) :
    Spells (showToken token).toList token.toList := by
  rw [showToken]
  split
  · next hbare =>
    simp only [isBare, Bool.and_eq_true, decide_eq_true_eq, List.all_eq_true, Bool.not_eq_true',
      Bool.or_eq_false_iff] at hbare
    refine spells_of_ordinary (by simpa using hbare.1) fun c hc => ?_
    obtain ⟨hblank, hmarks⟩ := hbare.2 c hc
    refine ⟨?_, ?_⟩
    · by_contra hsep
      have hseparates : separates c = true := by simpa using hsep
      simp [Text.isBlank_of_separates hseparates] at hblank
    · simpa using hmarks
  · exact spells_quote token

/-- **What is shown is read back.**  Whatever a job is, and wherever its temporary files go, the
words of the line that shows it are its executable and its arguments; and the words of the line
that shows a parsed command line are its canonical tokens.  Texts may be empty or have quotation
marks, backslashes, line ends and any other white space in them. -/
theorem words?_description :
    (∀ (job : Job) (scratch : Option String),
      words? (job.description scratch) = some (job.tool.path :: job.arguments scratch)) ∧
    ∀ parsed : ParsedOptions, words? parsed.description = some parsed.canonical := by
  constructor
  · intro job scratch
    exact words?_intercalate spells_quote (job.tool.path :: job.arguments scratch)
  · intro parsed
    exact words?_intercalate ParsedOptions.spells_showToken parsed.canonical

/-- An empty word, marks of both kinds, a backslash, and white space at which words end and at
which they do not. -/
example : words? (line ["", "it's", "a\\\"b", "x\ty", "a\u00A0b"]) =
    some ["", "it's", "a\\\"b", "x\ty", "a\u00A0b"] := by
  decide +kernel

end SwiftPlan
