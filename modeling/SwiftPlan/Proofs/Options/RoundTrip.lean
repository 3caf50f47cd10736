import Mathlib.Data.List.Nodup
import SwiftPlan.Options.Standard
import SwiftPlan.Options.Parse
import SwiftPlan.Proofs.Outcome

/-!
# The canonical form of a command line

A parsed command line can be written as tokens again (`ParsedOptions.canonical`).  The written form
differs from what was typed: a value that stood directly behind its option may move into a token of
its own.  So what has to be shown is that no token of the written form is taken for something else,
although values may look like options, be empty, or be the terminator.

The unit of the argument is one element of the command line.  `Readable` says that its tokens, in
front of any tokens whatever, are read as this element and nothing more.  Everything the parser
makes is readable (`readable_of_parse`), and a command line of readable elements is the parse of its
canonical form (`parse_canonical_of_readable`).

The table plays a part at one point only.  A value is moved behind its option when the option was
found by a prefix of the token, and then the bare spelling has to lead back to the same option:
spellings differ, so the exact match finds it, and a spelling that begins with a dash and is neither
`-` nor `--` is not read as an input or as the terminator.
-/

namespace SwiftPlan

namespace Text

lemma after?_append (lead rest : String) : after? lead (lead ++ rest) = some rest :=
  after?_eq_some_iff.2 rfl

lemma after?_self (text : String) : after? text text = some "" :=
  after?_eq_some_iff.2 (by simp)

lemma beginsWith_iff {lead text : String} :
    beginsWith lead text = true ↔ ∃ rest, text = lead ++ rest := by
  simp only [beginsWith, Option.isSome_iff_exists, after?_eq_some_iff]

end Text

namespace OptionTable

variable {table : OptionTable}

/-! ## Looking options up -/

/-- Every option of the table is written with a dash in front, and none of them like the standard
input or the terminator. -/
def Dashed (table : OptionTable) : Prop :=
  ∀ spec ∈ table.options,
    Text.beginsWith "-" spec.spelling = true ∧ spec.spelling ≠ "-" ∧
      spec.spelling ≠ ParsedOptions.terminator

instance : DecidablePred Dashed := fun table =>
  inferInstanceAs (Decidable (∀ spec ∈ table.options, _))

lemma longest?_mem {specs : List OptionSpec} {spec : OptionSpec}
    (h : longest? specs = some spec) : spec ∈ specs := by
  induction specs generalizing spec with
  | nil => simp [longest?] at h
  | cons first rest ih =>
    rw [longest?] at h
    split at h
    · obtain rfl : first = spec := by simpa using h
      exact List.mem_cons_self
    · next best hbest =>
      have hmem : best ∈ rest := ih hbest
      obtain rfl : (if best.spelling.length ≤ first.spelling.length then first else best) = spec :=
        by simpa using h
      split
      · exact List.mem_cons_self
      · exact List.mem_cons_of_mem _ hmem

/-- What a token is found to start with: an option of the table that is spelled like the token, or
one whose value may follow and does follow its spelling. -/
lemma lookup?_eq_some {token : String} {spec : OptionSpec} (h : table.lookup? token = some spec) :
    spec ∈ table.options ∧
      (spec.spelling = token ∨
        spec.shape.joins = true ∧ ∃ rest, token = spec.spelling ++ rest) := by
  rw [lookup?, Option.or_eq_some_iff] at h
  rcases h with hget | ⟨-, hlongest⟩
  · have hspelling := List.find?_some hget
    exact ⟨List.mem_of_find?_eq_some hget, .inl (by simpa using hspelling)⟩
  · have hmem := longest?_mem hlongest
    simp only [joinedIn, List.mem_filter, Bool.and_eq_true, Text.beginsWith_iff] at hmem
    exact ⟨hmem.1, .inr hmem.2⟩

/-- The bare spelling of an option leads back to the option, because no other one is spelled
alike. -/
lemma lookup?_spelling {spec : OptionSpec} (h : spec ∈ table.options) :
    table.lookup? spec.spelling = some spec := by
  obtain ⟨found, hfound⟩ : ∃ found, table.get? spec.spelling = some found := by
    rw [← Option.isSome_iff_exists, get?, List.find?_isSome]
    exact ⟨spec, h, by simp⟩
  have hmem : found ∈ table.options := List.mem_of_find?_eq_some hfound
  have hspelling : found.spelling = spec.spelling := by simpa using List.find?_some hfound
  have hsame : found = spec := List.inj_on_of_nodup_map table.nodup_spelling hmem h hspelling
  rw [lookup?, hfound, Option.some_or, hsame]

/-! ## Reading one element -/

/-- The tokens are read as the element, whatever comes after them. -/
def Takes (table : OptionTable) (used : List String) (element : ParsedOption) : Prop :=
  ∀ more, table.parse (used ++ more) = (table.parse more).map (prepend element)

/-- The tokens of an element are read as the element, whatever comes after them. -/
def Readable (table : OptionTable) (element : ParsedOption) : Prop :=
  ∀ more, table.parse (element.tokens ++ more) = (table.parse more).map (prepend element)

lemma isInputToken_terminator : isInputToken ParsedOptions.terminator = false := by
  decide +kernel

lemma ne_terminator_of_input {token : String} (h : isInputToken token = true) :
    token ≠ ParsedOptions.terminator := by
  rintro rfl
  simp [isInputToken_terminator] at h

lemma takes_input {token : String} (h : isInputToken token = true) :
    table.Takes [token] (.input token) := by
  intro more
  rw [List.singleton_append, parse, if_neg (ne_terminator_of_input h), if_pos h]

/-- A token that is complete in itself. -/
lemma takes_complete {token : String} {spec : OptionSpec} {value : OptionValue}
    (hterm : token ≠ ParsedOptions.terminator) (hinput : ¬ isInputToken token = true)
    (hlookup : table.lookup? token = some spec) (hread : read spec token = .ok (.complete value)) :
    table.Takes [token] (.option spec value) := by
  intro more
  rw [List.singleton_append, parse, if_neg hterm, if_neg hinput]
  simp only [hlookup, hread]

/-- A token whose option waits for its value takes the next token, which may be any token. -/
lemma takes_awaiting {token : String} {spec : OptionSpec}
    (hterm : token ≠ ParsedOptions.terminator) (hinput : ¬ isInputToken token = true)
    (hlookup : table.lookup? token = some spec) (hread : read spec token = .ok .awaiting)
    (value : String) : table.Takes [token, value] (.option spec (.text value)) := by
  intro more
  rw [List.cons_append, List.singleton_append, parse, if_neg hterm, if_neg hinput]
  simp only [hlookup, hread]

/-- An element is readable if its tokens are those that it was read from. -/
lemma readable_of_takes {used : List String} {element : ParsedOption}
    (h : table.Takes used element) (htokens : element.tokens = used) : Readable table element := by
  rw [Readable, htokens]
  exact h

lemma readable_input {token : String} (h : isInputToken token = true) :
    Readable table (.input token) :=
  readable_of_takes (takes_input h) rfl

/-- An option that waits for its value is spelled out in its token. -/
lemma spelling_of_awaiting {token : String} {spec : OptionSpec}
    (hlookup : table.lookup? token = some spec) (hread : read spec token = .ok .awaiting) :
    spec.spelling = token := by
  rcases (lookup?_eq_some hlookup).2 with hspelling | ⟨hjoins, -⟩
  · exact hspelling
  · -- of the options whose value may be joined one waits, and only where it is spelled out
    cases hshape : spec.shape with
    | flag => simp [read, hshape] at hread
    | joined => simp [read, hshape] at hread
    | separate => simp [hshape, OptionShape.joins] at hjoins
    | joinedOrSeparate =>
      by_contra hspelling
      simp [read, hshape, Ne.symm hspelling] at hread
    | commaJoined =>
      rw [read, hshape] at hread
      obtain ⟨parts, -, hparts⟩ := map_eq_ok.1 hread
      cases hparts

/-- Putting the parts of a list between commas together again gives the text that was taken
apart. -/
lemma joined_of_splitParts {spec : OptionSpec} {text : String} {parts : List String}
    (h : splitParts spec text = .ok parts) : (OptionValue.parts parts).joined = text := by
  rw [splitParts] at h
  split at h
  · simp at h
  · obtain rfl : (text.toList.splitOn ',').map String.ofList = parts := by simpa using h
    rw [OptionValue.joined, ← String.toList_inj, String.toList_intercalate, List.map_map]
    simp only [Function.comp_def, String.toList_ofList, List.map_id']
    exact List.intercalate_splitOn ','

/-- The bare spelling of an option that may also be joined stands in front of its value when the
element is written. -/
lemma readable_separated (hdash : table.Dashed) {spec : OptionSpec} (hmem : spec ∈ table.options)
    (hshape : spec.shape = .joinedOrSeparate) (value : String) :
    Readable table (.option spec (.text value)) := by
  obtain ⟨hbegins, hsingle, hterm⟩ := hdash spec hmem
  refine readable_of_takes (takes_awaiting hterm ?_ (lookup?_spelling hmem) ?_ value) ?_
  · simp [isInputToken, hbegins, hsingle]
  · simp [read, hshape]
  · simp [ParsedOption.tokens, hshape, OptionValue.joined]

/-- An option found at the front of a token makes a readable element of what it takes from the
token.  Only a value that is taken off an option with a separate form changes its place. -/
lemma readable_complete (hdash : table.Dashed) {token : String} {spec : OptionSpec}
    {value : OptionValue} (hterm : token ≠ ParsedOptions.terminator)
    (hinput : ¬ isInputToken token = true) (hlookup : table.lookup? token = some spec)
    (hread : read spec token = .ok (.complete value)) : Readable table (.option spec value) := by
  obtain ⟨hmem, hstarts⟩ := lookup?_eq_some hlookup
  have hbehind : spec.shape.joins = true →
      spec.spelling ++ (Text.after? spec.spelling token).getD "" = token := by
    rintro -
    rcases hstarts with rfl | ⟨-, rest, rfl⟩
    · simp [Text.after?_self]
    · simp [Text.after?_append]
  cases hshape : spec.shape with
  | flag =>
    refine readable_of_takes (takes_complete hterm hinput hlookup hread) ?_
    have hspelling : spec.spelling = token := by simpa [hshape, OptionShape.joins] using hstarts
    simp [ParsedOption.tokens, hshape, hspelling]
  | joined =>
    refine readable_of_takes (takes_complete hterm hinput hlookup hread) ?_
    obtain rfl : OptionValue.text ((Text.after? spec.spelling token).getD "") = value := by
      simpa [read, hshape] using hread
    have hjoined := hbehind (by simp [hshape, OptionShape.joins])
    simp [ParsedOption.tokens, hshape, OptionValue.joined, hjoined]
  | separate => simp [read, hshape] at hread
  | joinedOrSeparate =>
    by_cases htoken : token = spec.spelling
    · simp [read, hshape, htoken] at hread
    · obtain rfl : OptionValue.text ((Text.after? spec.spelling token).getD "") = value := by
        simpa [read, hshape, htoken] using hread
      exact readable_separated hdash hmem hshape _
  | commaJoined =>
    refine readable_of_takes (takes_complete hterm hinput hlookup hread) ?_
    cases hparts : splitParts spec ((Text.after? spec.spelling token).getD "") with
    | error error => simp [read, hshape, hparts, Except.map] at hread
    | ok parts =>
      obtain rfl : OptionValue.parts parts = value := by
        simpa [read, hshape, hparts, Except.map] using hread
      have hjoined := hbehind (by simp [hshape, OptionShape.joins])
      simp [ParsedOption.tokens, hshape, joined_of_splitParts hparts, hjoined]

/-- An option that waits for its value makes a readable element, whatever the value is. -/
lemma readable_awaiting {token : String} {spec : OptionSpec}
    (hterm : token ≠ ParsedOptions.terminator) (hinput : ¬ isInputToken token = true)
    (hlookup : table.lookup? token = some spec) (hread : read spec token = .ok .awaiting)
    (value : String) : Readable table (.option spec (.text value)) := by
  have hspelling : spec.spelling = token := spelling_of_awaiting hlookup hread
  refine readable_of_takes (takes_awaiting hterm hinput hlookup hread value) ?_
  cases hshape : spec.shape with
  | flag => simp [read, hshape] at hread
  | joined => simp [read, hshape] at hread
  | separate => simp [ParsedOption.tokens, hshape, hspelling, OptionValue.joined]
  | joinedOrSeparate => simp [ParsedOption.tokens, hshape, hspelling, OptionValue.joined]
  | commaJoined =>
    rw [read, hshape] at hread
    obtain ⟨parts, -, hparts⟩ := map_eq_ok.1 hread
    cases hparts

/-! ## Reading a command line -/

lemma forall_mem_prepend {motive : ParsedOption → Prop} {element : ParsedOption}
    {rest : ParsedOptions} (hfirst : motive element) (hrest : ∀ e ∈ rest.options, motive e) :
    ∀ e ∈ (prepend element rest).options, motive e := by
  rintro e (_ | ⟨_, he⟩)
  · exact hfirst
  · exact hrest e he

/-- Whatever the parser makes of a command line, each element of it is readable. -/
lemma readable_of_parse (hdash : table.Dashed) {arguments : List String} {parsed : ParsedOptions}
    (h : table.parse arguments = .ok parsed) :
    ∀ element ∈ parsed.options, Readable table element := by
  fun_induction parse table arguments generalizing parsed with
  | case1 =>
    obtain rfl : (⟨[], none⟩ : ParsedOptions) = parsed := by simpa using h
    simp
  | case2 rest =>
    obtain rfl : (⟨[], some rest⟩ : ParsedOptions) = parsed := by simpa using h
    simp
  | case3 token rest hterm hinput ih =>
    obtain ⟨others, hothers, rfl⟩ := map_eq_ok.1 h
    exact forall_mem_prepend (readable_input hinput) (ih hothers)
  | case4 => simp at h
  | case5 => simp at h
  | case6 token rest hterm hinput spec hlookup value hread ih =>
    obtain ⟨others, hothers, rfl⟩ := map_eq_ok.1 h
    exact forall_mem_prepend (readable_complete hdash hterm hinput hlookup hread) (ih hothers)
  | case7 => simp at h
  | case8 token hterm hinput spec hlookup hread value rest ih =>
    obtain ⟨others, hothers, rfl⟩ := map_eq_ok.1 h
    exact forall_mem_prepend (readable_awaiting hterm hinput hlookup hread value) (ih hothers)

/-- A command line of readable elements is what its canonical form is parsed to.  The tail needs no
condition: the terminator stands in front of it, and what comes after a terminator is kept. -/
lemma parse_canonical_of_readable (options : List ParsedOption) (tail : Option (List String))
    (h : ∀ element ∈ options, Readable table element) :
    table.parse (ParsedOptions.canonical ⟨options, tail⟩) = .ok ⟨options, tail⟩ := by
  induction options with
  | nil => cases tail <;> simp [ParsedOptions.canonical, parse]
  | cons first rest ih =>
    have hsplit : ParsedOptions.canonical ⟨first :: rest, tail⟩ =
        first.tokens ++ ParsedOptions.canonical ⟨rest, tail⟩ := by
      simp [ParsedOptions.canonical]
    rw [hsplit, h first List.mem_cons_self,
      ih fun element hmem => h element (List.mem_cons_of_mem _ hmem)]
    rfl

/-- **The canonical form is a normal form.**  In a table whose spellings cannot be mistaken for
inputs or for the terminator, a parsed command line is exactly what its canonical form is parsed
to: the same elements with the same values in the same order, and the same tail, if there is one.
So writing it out once more changes nothing. -/
theorem parse_canonical (hdash : table.Dashed) {arguments : List String} {parsed : ParsedOptions}
    (h : table.parse arguments = .ok parsed) :
    table.parse parsed.canonical = .ok parsed ∧
      (table.parse parsed.canonical).map (·.canonical) = .ok parsed.canonical := by
  have hparse : table.parse parsed.canonical = .ok parsed :=
    parse_canonical_of_readable parsed.options parsed.tail (readable_of_parse hdash h)
  exact ⟨hparse, by rw [hparse]; rfl⟩

/-- Values that are taken off their options and look like the terminator and like an option, an
input that is a dash, and a tail that is empty. -/
theorem parse_canonical_of_joined_values :
    let path : OptionSpec :=
      { spelling := "-I", shape := .joinedOrSeparate, groups := ["frontend"], isPath := true }
    let output : OptionSpec := { spelling := "-o", shape := .joinedOrSeparate, isPath := true }
    let parsed : ParsedOptions :=
      ⟨[.option output (.text "--"), .option path (.text "-g"), .input "-"], some []⟩
    standard.Dashed ∧ standard.parse ["-o--", "-I-g", "-", "--"] = .ok parsed ∧
      parsed.canonical = ["-o", "--", "-I", "-g", "-", "--"] ∧
      standard.parse parsed.canonical = .ok parsed ∧
      (standard.parse parsed.canonical).map (·.canonical) = .ok parsed.canonical := by
  intro path output parsed
  have hdash : standard.Dashed := by decide +kernel
  have hparse : standard.parse ["-o--", "-I-g", "-", "--"] = .ok parsed := by decide +kernel
  exact ⟨hdash, hparse, by decide +kernel, parse_canonical hdash hparse⟩

end OptionTable

end SwiftPlan
