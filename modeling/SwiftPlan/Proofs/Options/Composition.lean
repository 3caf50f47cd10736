import SwiftPlan.Proofs.Options.RoundTrip

/-!
# Parsing a command line in two parts

Tokens are read from left to right and never twice.  So the first part of a command line settles
what is made of it, whatever the second part is, with two exceptions: behind a terminator
everything belongs to the tail, and an option at the very end of the first part may still be
waiting for its value.

How many tokens an element takes depends on the option, and a value may look like an option or like
the terminator.  A boundary between two parts can therefore fall inside an element, and an induction
on the tokens one by one does not get past it.  `Course` tells how a list of tokens is read, element
by element.  Every list has a course (`course`), and what is true of the parts follows along it
(`parse_composes`).
-/

namespace SwiftPlan

namespace ParsedOptions

/-- The command line with the elements and the tail of another one behind its own elements. -/
def followedBy (front back : ParsedOptions) : ParsedOptions :=
  ⟨front.options ++ back.options, back.tail⟩

end ParsedOptions

namespace OptionTable

variable {table : OptionTable} {token : String} {used tokens rest first second : List String}
  {spec : OptionSpec} {element : ParsedOption} {value : OptionValue} {error : OptionError}
  {options : List ParsedOption} {tail : List String} {spelling : String}

/-! ## Refusals -/

/-- The tokens are refused, whatever comes after them. -/
def Refuses (table : OptionTable) (tokens : List String) (error : OptionError) : Prop :=
  ∀ more, table.parse (tokens ++ more) = .error error

section

variable (hterm : token ≠ ParsedOptions.terminator) (hinput : ¬ isInputToken token = true)

include hterm hinput

lemma refuses_unknown (hlookup : table.lookup? token = none) :
    table.Refuses (token :: rest) (.unrecognized token) := by
  intro more
  rw [List.cons_append, parse, if_neg hterm, if_neg hinput]
  simp only [hlookup]

variable (hlookup : table.lookup? token = some spec)

include hlookup

lemma refuses_value (hread : read spec token = .error error) :
    table.Refuses (token :: rest) error := by
  intro more
  rw [List.cons_append, parse, if_neg hterm, if_neg hinput]
  simp only [hlookup, hread]

end

/-- The only value that is refused is a list with an empty part. -/
lemma read_eq_error (h : read spec token = .error error) :
    ∃ text, error = .emptyPart spec.spelling text := by
  cases hshape : spec.shape with
  | flag => simp [read, hshape] at h
  | joined => simp [read, hshape] at h
  | separate => simp [read, hshape] at h
  | joinedOrSeparate =>
    by_cases htoken : token = spec.spelling <;> simp [read, hshape, htoken] at h
  | commaJoined =>
    generalize hbehind : (Text.after? spec.spelling token).getD "" = behind at *
    simp only [read, hshape, hbehind, splitParts] at h
    split at h
    · exact ⟨behind, (Except.error.inj h).symm⟩
    · cases h

/-! ## Reading a command line -/

/-- How a list of tokens is read: element by element until it ends, or comes to the terminator, to a
token that is refused, or to an option at the end whose value is missing. -/
inductive Course (table : OptionTable) : List String → Prop where
  | done : Course table []
  | terminated (rest : List String) : Course table (ParsedOptions.terminator :: rest)
  | element {used rest : List String} {element : ParsedOption} (htakes : table.Takes used element)
      (hrest : Course table rest) : Course table (used ++ rest)
  | refused {tokens : List String} {error : OptionError} (hrefuses : table.Refuses tokens error)
      (hkind : ∀ spelling, error ≠ .missingArgument spelling) : Course table tokens
  | awaiting {spec : OptionSpec} (hmem : spec ∈ table.options)
      (hmissing : table.parse [spec.spelling] = .error (.missingArgument spec.spelling))
      (htakes : ∀ next, table.Takes [spec.spelling, next] (.option spec (.text next))) :
      Course table [spec.spelling]

/-- Every list of tokens has a course. -/
lemma course (table : OptionTable) (tokens : List String) : table.Course tokens := by
  fun_induction parse table tokens with
  | case1 => exact .done
  | case2 rest => exact .terminated rest
  | case3 token rest hterm hinput ih => exact .element (takes_input hinput) ih
  | case4 token rest hterm hinput hlookup =>
    exact .refused (refuses_unknown hterm hinput hlookup) fun _ h => by cases h
  | case5 token rest hterm hinput spec hlookup error hread =>
    refine .refused (refuses_value hterm hinput hlookup hread) fun spelling h => ?_
    obtain ⟨text, rfl⟩ := read_eq_error hread
    cases h
  | case6 token rest hterm hinput spec hlookup value hread ih =>
    exact .element (takes_complete hterm hinput hlookup hread) ih
  | case7 token hterm hinput spec hlookup hread =>
    obtain rfl := spelling_of_awaiting hlookup hread
    refine .awaiting (lookup?_eq_some hlookup).1 ?_ (takes_awaiting hterm hinput hlookup hread)
    rw [parse, if_neg hterm, if_neg hinput]
    simp only [hlookup, hread]
  | case8 token hterm hinput spec hlookup hread next rest ih =>
    exact .element (takes_awaiting hterm hinput hlookup hread next) ih

/-- The option with this spelling is the last token, and it takes any token that is added as its
value. -/
def Awaits (table : OptionTable) (tokens : List String) (spelling : String) : Prop :=
  ∃ before front spec, tokens = before ++ [spelling] ∧ table.parse before = .ok ⟨front, none⟩ ∧
    spec ∈ table.options ∧ spec.spelling = spelling ∧
      ∀ next, table.parse (tokens ++ [next]) = .ok ⟨front ++ [.option spec (.text next)], none⟩

lemma awaits_spelling (hmem : spec ∈ table.options)
    (htakes : ∀ next, table.Takes [spec.spelling, next] (.option spec (.text next))) :
    table.Awaits [spec.spelling] spec.spelling := by
  refine ⟨[], [], spec, rfl, rfl, hmem, rfl, fun next => ?_⟩
  have htaken := htakes next []
  rwa [List.append_nil] at htaken

lemma Awaits.behind (htakes : table.Takes used element)
    (h : table.Awaits rest spelling) : table.Awaits (used ++ rest) spelling := by
  obtain ⟨before, front, spec, rfl, hbefore, hmem, hspelling, hnext⟩ := h
  refine ⟨used ++ before, element :: front, spec, (List.append_assoc _ _ _).symm, ?_, hmem,
    hspelling, fun next => ?_⟩
  · rw [htakes, hbefore]
    rfl
  · rw [List.append_assoc, htakes, hnext]
    rfl

lemma Refuses.parse_eq (h : table.Refuses tokens error) : table.parse tokens = .error error := by
  rw [← h [], List.append_nil]

/-- What is parsed without a terminator is put in front of what comes of the rest. -/
lemma parse_append_of_untailed (h : table.parse first = .ok ⟨options, none⟩) :
    table.parse (first ++ second) =
      (table.parse second).map (ParsedOptions.followedBy ⟨options, none⟩) := by
  induction table.course first generalizing options with
  | done =>
    obtain rfl : [] = options := by simpa [parse] using h
    rw [List.nil_append]
    cases table.parse second <;> rfl
  | terminated rest => simp [parse] at h
  | @element used rest element htakes _ ih =>
    rw [htakes] at h
    obtain ⟨⟨others, tail⟩, hothers, hwhole⟩ := map_eq_ok.1 h
    obtain ⟨rfl, rfl⟩ := ParsedOptions.mk.inj hwhole
    rw [List.append_assoc, htakes, ih hothers]
    cases table.parse second <;> rfl
  | refused hrefuses => simp [hrefuses.parse_eq] at h
  | awaiting _ hmissing => simp [hmissing] at h

/-- Behind a terminator everything belongs to the tail. -/
lemma parse_append_of_tailed (h : table.parse first = .ok ⟨options, some tail⟩) :
    table.parse (first ++ second) = .ok ⟨options, some (tail ++ second)⟩ := by
  induction table.course first generalizing options with
  | done => simp [parse] at h
  | terminated rest =>
    obtain ⟨rfl, rfl⟩ : [] = options ∧ rest = tail := by simpa [parse] using h
    rw [List.cons_append, parse, if_pos rfl]
  | @element used rest element htakes _ ih =>
    rw [htakes] at h
    obtain ⟨⟨others, last⟩, hothers, hwhole⟩ := map_eq_ok.1 h
    obtain ⟨rfl, rfl⟩ := ParsedOptions.mk.inj hwhole
    rw [List.append_assoc, htakes, ih hothers]
    rfl
  | refused hrefuses => simp [hrefuses.parse_eq] at h
  | awaiting _ hmissing => simp [hmissing] at h

/-- A token that is refused is refused whatever comes later. -/
lemma parse_append_of_error (h : table.parse first = .error error)
    (hkind : ∀ spelling, error ≠ .missingArgument spelling) :
    table.parse (first ++ second) = .error error := by
  induction table.course first with
  | done => simp [parse] at h
  | terminated rest => simp [parse] at h
  | element htakes _ ih =>
    rw [htakes, map_eq_error] at h
    rw [List.append_assoc, htakes, ih h]
    rfl
  | refused hrefuses =>
    obtain rfl := Except.error.inj (hrefuses.parse_eq.symm.trans h)
    exact hrefuses second
  | awaiting _ hmissing => exact absurd (Except.error.inj (h.symm.trans hmissing)) (hkind _)

/-- A value can only be missing at the very end. -/
lemma awaits_of_parse (h : table.parse first = .error (.missingArgument spelling)) :
    table.Awaits first spelling := by
  induction table.course first with
  | done => simp [parse] at h
  | terminated rest => simp [parse] at h
  | element htakes _ ih =>
    rw [htakes, map_eq_error] at h
    exact (ih h).behind htakes
  | refused hrefuses hkind =>
    exact absurd (Except.error.inj (hrefuses.parse_eq.symm.trans h)) (hkind _)
  | awaiting hmem hmissing htakes =>
    obtain rfl := OptionError.missingArgument.inj (Except.error.inj (hmissing.symm.trans h))
    exact awaits_spelling hmem htakes

/-- **Parsing is compositional, and reports the first error.**  What is parsed without a terminator
is put in front of what the second part is parsed to, or the error of the second part is reported.
Behind a terminator the second part belongs to the tail.  An error in the first part stays the one
that is reported, unless a value is missing: then the option is the last token of the first part,
and any token behind it becomes its value. -/
theorem parse_composes (table : OptionTable) (first second : List String) :
    match table.parse first with
    | .ok ⟨options, none⟩ =>
      table.parse (first ++ second) =
        (table.parse second).map (ParsedOptions.followedBy ⟨options, none⟩)
    | .ok ⟨options, some tail⟩ =>
      table.parse (first ++ second) = .ok ⟨options, some (tail ++ second)⟩
    | .error (.missingArgument spelling) => table.Awaits first spelling
    | .error error => table.parse (first ++ second) = .error error := by
  split
  · next options h => exact parse_append_of_untailed h
  · next options tail h => exact parse_append_of_tailed h
  · next spelling h => exact awaits_of_parse h
  · next error hkind h => exact parse_append_of_error h hkind

end OptionTable

end SwiftPlan
