import SwiftPlan.Proofs.Settings.Reworded

/-!
# The policy on debug information

Two things are read of a command line: the options that choose a level (`flags`) and the names that
are given for the format (`formats`), each in order.  The last of each counts, with one exception:
`-gline-tables-only` holds back a last `-g` from wherever it stands.  So between these two options
the order does not matter (`level_eq_of_perm`), while `-gnone` and `-gdwarf-types` undo what comes
before them.

Nothing else is read.  Whether the options have a level, which format they have and what is wrong
with them is the same for command lines with the same flags and the same last format, whatever stands
around and between them.
-/

namespace SwiftPlan

namespace DebugInfo

/-- The options that choose a level. -/
def levelNames : List String :=
  ["-g", "-gnone", "-gline-tables-only", "-gdwarf-types"]

/-- The options of a command line that choose a level, in order. -/
def flags (parsed : ParsedOptions) : List String :=
  (parsed.allOf levelNames).filterMap (·.identity?)

/-- The names that a command line gives for the format, in order. -/
def formats (parsed : ParsedOptions) : List String :=
  (parsed.allOf ["-debug-info-format="]).map (·.value)

/-- The level that flags choose. -/
inductive Chooses (flags : List String) : Option DebugLevel → Prop where
  | absent (h : flags.getLast? = none) : Chooses flags none
  | off (h : flags.getLast? = some "-gnone") : Chooses flags none
  | lines (h : flags.getLast? = some "-gline-tables-only") : Chooses flags (some .lineTables)
  | types (h : flags.getLast? = some "-gdwarf-types") : Chooses flags (some .dwarfTypes)
  | heldBack (h : flags.getLast? = some "-g") (hlines : "-gline-tables-only" ∈ flags) :
      Chooses flags (some .lineTables)
  | full (h : flags.getLast? = some "-g") (hlines : "-gline-tables-only" ∉ flags) :
      Chooses flags (some .astTypes)

/-- The format of the last name, which is DWARF unless the name is that of another format. -/
inductive IsFormatOf (last : Option String) : DebugFormat → Prop where
  | named (format : DebugFormat) (h : last = some format.name) : IsFormatOf last format
  | other (h : ∀ format : DebugFormat, last ≠ some format.name) : IsFormatOf last .dwarf

/-- What is wrong with the flags and the names of formats, if `info` is what they come down to. -/
def complaints (flags formats : List String) (info : DebugInfo) : List Notice :=
  (match formats.getLast? with
    | none => []
    | some name => if name = "dwarf" ∨ name = "codeview" then [] else [.unknownDebugFormat name]) ++
  (if formats ≠ [] ∧ flags = [] then [.debugFormatAlone] else []) ++
  if info.format ≠ .dwarf ∧ info.level = some .dwarfTypes then
    [.debugFormatNotAllowed info.format.name "-gdwarf-types"]
  else []

variable {parsed other : ParsedOptions} {names : List String}

/-! ## Flags -/

lemma identitiesOf_debugLevels : ParsedOptions.identitiesOf .debugLevels = levelNames := by
  decide +kernel

lemma exists_identity_of_mem_allOf {element : ParsedOption} (h : element ∈ parsed.allOf names) :
    ∃ name ∈ names, element.identity? = some name := by
  obtain ⟨name, hname, hmem⟩ := (Option.any_eq_true _ _).1 (List.mem_filter.1 h).2
  exact ⟨name, by simpa using hmem, hname⟩

lemma mem_levelNames_of_mem_flags {flag : String} (h : flag ∈ flags parsed) :
    flag ∈ levelNames := by
  obtain ⟨element, helement, hflag⟩ := List.mem_filterMap.1 h
  obtain ⟨name, hname, hidentity⟩ := exists_identity_of_mem_allOf helement
  obtain rfl : name = flag := Option.some.inj (hidentity.symm.trans hflag)
  exact hname

/-- The last of the options that choose a level is the last flag. -/
lemma identity?_levelOption? (h : parsed.Known) :
    (levelOption? parsed).bind (·.identity?) = (flags parsed).getLast? := by
  have hlast : levelOption? parsed = (parsed.allOf levelNames).getLast? := by
    rw [levelOption?, ParsedOptions.lastInGroup?_eq_last? h, identitiesOf_debugLevels,
      ParsedOptions.last?]
  have hflags : flags parsed =
      (parsed.allOf levelNames).map fun element => element.identity?.getD "" := by
    rw [flags, ← List.filterMap_eq_map]
    refine List.filterMap_congr fun element helement => ?_
    obtain ⟨name, -, hname⟩ := exists_identity_of_mem_allOf helement
    simp [hname]
  rw [hlast, hflags, List.getLast?_map]
  cases hfound : (parsed.allOf levelNames).getLast? with
  | none => rfl
  | some element =>
    obtain ⟨name, -, hname⟩ := exists_identity_of_mem_allOf (List.mem_of_getLast? hfound)
    simp [hname]

/-- A flag is found wherever it stands. -/
lemma contains_iff_mem_flags {flag : String} (hflag : flag ∈ levelNames) :
    parsed.contains flag = true ↔ flag ∈ flags parsed := by
  simp only [ParsedOptions.contains, ParsedOptions.hasAny, List.any_eq_true, flags,
    List.mem_filterMap]
  constructor
  · rintro ⟨element, helement, hone⟩
    obtain ⟨name, hname, hmem⟩ := (Option.any_eq_true _ _).1 hone
    obtain rfl : name = flag := by simpa using hmem
    exact ⟨element, List.mem_filter.2 ⟨helement, by simp [ParsedOption.isOneOf, hname, hflag]⟩,
      hname⟩
  · rintro ⟨element, helement, hname⟩
    exact ⟨element, (List.mem_filter.1 helement).1, by simp [ParsedOption.isOneOf, hname]⟩

/-! ## The level -/

/-- The flags choose one level only. -/
lemma Chooses.unique {flags : List String} {level level' : Option DebugLevel}
    (h : Chooses flags level) (h' : Chooses flags level') : level = level' := by
  cases h <;> cases h' <;> simp_all

lemma chooses_requestedLevel (h : parsed.Known) :
    Chooses (flags parsed) (requestedLevel parsed) := by
  have hcontains : parsed.contains DebugLevel.lineTables.flag = true ↔
      "-gline-tables-only" ∈ flags parsed := contains_iff_mem_flags (by decide)
  have hfull : DebugLevel.ofFlag? "-g" = some .astTypes := by decide
  rw [requestedLevel, identity?_levelOption? h]
  cases hlast : (flags parsed).getLast? with
  | none => exact .absent hlast
  | some flag =>
    have hflag : flag ∈ levelNames := mem_levelNames_of_mem_flags (List.mem_of_getLast? hlast)
    simp only [levelNames, List.mem_cons, List.not_mem_nil, or_false] at hflag
    obtain rfl | rfl | rfl | rfl := hflag
    · by_cases hlines : "-gline-tables-only" ∈ flags parsed
      · simpa [hfull, hcontains.2 hlines] using Chooses.heldBack hlast hlines
      · simpa [hfull, mt hcontains.1 hlines] using Chooses.full hlast hlines
    · exact .off hlast
    · exact .lines hlast
    · exact .types hlast

/-- Of flags, the last one and the presence of `-gline-tables-only` count. -/
lemma Chooses.congr {flags flags' : List String} {level : Option DebugLevel}
    (hlast : flags'.getLast? = flags.getLast?)
    (hlines : "-gline-tables-only" ∈ flags' ↔ "-gline-tables-only" ∈ flags)
    (h : Chooses flags level) : Chooses flags' level := by
  cases h with
  | absent h => exact .absent (hlast.trans h)
  | off h => exact .off (hlast.trans h)
  | lines h => exact .lines (hlast.trans h)
  | types h => exact .types (hlast.trans h)
  | heldBack h hmem => exact .heldBack (hlast.trans h) (hlines.2 hmem)
  | full h hmem => exact .full (hlast.trans h) (mt hlines.1 hmem)

/-- Between `-g` and `-gline-tables-only` only presence counts. -/
lemma Chooses.of_mild {flags : List String} {level : Option DebugLevel} (h : Chooses flags level)
    (hmild : ∀ flag ∈ flags, flag = "-g" ∨ flag = "-gline-tables-only") :
    level =
      if flags = [] then none
      else if "-gline-tables-only" ∈ flags then some .lineTables else some .astTypes := by
  cases h with
  | absent h => simp [List.getLast?_eq_none_iff.1 h]
  | off h => simpa using hmild _ (List.mem_of_getLast? h)
  | lines h =>
    have hmem := List.mem_of_getLast? h
    simp [hmem, List.ne_nil_of_mem hmem]
  | types h => simpa using hmild _ (List.mem_of_getLast? h)
  | heldBack h hlines => simp [hlines, List.ne_nil_of_mem hlines]
  | full h hlines => simp [hlines, List.ne_nil_of_mem (List.mem_of_getLast? h)]

lemma perm_flags (h : other.options.Perm parsed.options) :
    (flags other).Perm (flags parsed) :=
  (h.filter _).filterMap _

lemma known_of_perm (h : parsed.Known) (hperm : other.options.Perm parsed.options) :
    other.Known :=
  fun element helement => h element (hperm.mem_iff.1 helement)

/-- Permuted options of these two kinds have the same level. -/
lemma level_eq_of_perm (h : parsed.Known) (hperm : other.options.Perm parsed.options)
    (hmild : ∀ flag ∈ flags parsed, flag = "-g" ∨ flag = "-gline-tables-only") :
    (ofOptions other).level = (ofOptions parsed).level := by
  have hflags := perm_flags hperm
  have hother : ∀ flag ∈ flags other, flag = "-g" ∨ flag = "-gline-tables-only" :=
    fun flag hflag => hmild flag (hflags.mem_iff.1 hflag)
  have hempty : flags other = [] ↔ flags parsed = [] := by
    rw [← List.length_eq_zero_iff, hflags.length_eq, List.length_eq_zero_iff]
  calc (ofOptions other).level
      = if flags other = [] then none
          else if "-gline-tables-only" ∈ flags other then some .lineTables else some .astTypes :=
        (chooses_requestedLevel (known_of_perm h hperm)).of_mild hother
    _ = if flags parsed = [] then none
          else if "-gline-tables-only" ∈ flags parsed then some .lineTables else some .astTypes := by
        simp only [hempty, hflags.mem_iff]
    _ = (ofOptions parsed).level := ((chooses_requestedLevel h).of_mild hmild).symm

/-! ## The format -/

lemma requestedFormat?_eq : requestedFormat? parsed = (formats parsed).getLast? := by
  rw [formats, List.getLast?_map]
  rfl

lemma ofName?_eq_some_iff {name : String} {format : DebugFormat} :
    DebugFormat.ofName? name = some format ↔ name = format.name := by
  constructor
  · intro h
    have hname := List.find?_some h
    exact (beq_iff_eq.1 hname).symm
  · rintro rfl
    cases format <;> decide

lemma ofName?_eq_none_iff {name : String} :
    DebugFormat.ofName? name = none ↔ ¬ (name = "dwarf" ∨ name = "codeview") := by
  rw [Option.eq_none_iff_forall_ne_some]
  simp only [ne_eq, ofName?_eq_some_iff]
  constructor
  · rintro h (rfl | rfl)
    · exact h .dwarf rfl
    · exact h .codeView rfl
  · rintro h format rfl
    cases format
    · exact h (.inl rfl)
    · exact h (.inr rfl)

lemma isFormatOf_format : IsFormatOf (formats parsed).getLast? (ofOptions parsed).format := by
  rw [ofOptions, requestedFormat?_eq]
  cases hlast : (formats parsed).getLast? with
  | none => exact .other (by simp)
  | some name =>
    cases hname : DebugFormat.ofName? name with
    | none =>
      have hother : ∀ format : DebugFormat, some name ≠ some format.name := by
        intro format h
        rw [ofName?_eq_some_iff.2 (Option.some.inj h)] at hname
        cases hname
      simpa [hname] using IsFormatOf.other hother
    | some format =>
      simpa [hname] using IsFormatOf.named format (congrArg some (ofName?_eq_some_iff.1 hname))

/-! ## What is wrong -/

lemma getLast?_flags_of_types (h : parsed.Known)
    (htypes : (ofOptions parsed).level = some .dwarfTypes) :
    (flags parsed).getLast? = some "-gdwarf-types" := by
  have hchooses : Chooses (flags parsed) (some .dwarfTypes) := htypes ▸ chooses_requestedLevel h
  cases hchooses with
  | types hlast => exact hlast

lemma notices_eq_complaints (h : parsed.Known) :
    notices parsed = complaints (flags parsed) (formats parsed) (ofOptions parsed) := by
  have hgiven : (requestedFormat? parsed).isSome = true ↔ formats parsed ≠ [] := by
    rw [requestedFormat?_eq, List.getLast?_isSome]
  rw [notices, complaints]
  congr 1
  · congr 1
    · rw [requestedFormat?_eq]
      cases (formats parsed).getLast? with
      | none => rfl
      | some name => simp only [Option.isNone_iff_eq_none, ofName?_eq_none_iff, ite_not]
    · simp only [Bool.and_eq_true, hgiven, isNone_levelOption? h, identity?_levelOption? h,
        Option.isNone_iff_eq_none, List.getLast?_eq_none_iff]
  · dsimp only
    split
    · next hrefused =>
      rw [spelling_levelOption? h, identity?_levelOption? h,
        getLast?_flags_of_types h hrefused.2, Option.getD_some]
    · rfl

lemma complaints_congr {flags flags' formats formats' : List String} {info : DebugInfo}
    (hflags : flags'.getLast? = flags.getLast?) (hformats : formats'.getLast? = formats.getLast?) :
    complaints flags' formats' info = complaints flags formats info := by
  have hnone : flags' = [] ↔ flags = [] := by
    rw [← List.getLast?_eq_none_iff, hflags, List.getLast?_eq_none_iff]
  have hgiven : formats' = [] ↔ formats = [] := by
    rw [← List.getLast?_eq_none_iff, hformats, List.getLast?_eq_none_iff]
  simp only [complaints, hformats, ne_eq, hnone, hgiven]

/-- The debug information of command lines with the same last flag, the same last format and
`-gline-tables-only` in both or in neither. -/
lemma ofOptions_congr (h : parsed.Known) (hother : other.Known)
    (hlast : (flags other).getLast? = (flags parsed).getLast?)
    (hlines : "-gline-tables-only" ∈ flags other ↔ "-gline-tables-only" ∈ flags parsed)
    (hformats : (formats other).getLast? = (formats parsed).getLast?) :
    ofOptions other = ofOptions parsed := by
  have hlevel : requestedLevel other = requestedLevel parsed :=
    (chooses_requestedLevel hother).unique ((chooses_requestedLevel h).congr hlast hlines)
  rw [ofOptions, ofOptions, hlevel, requestedFormat?_eq, requestedFormat?_eq, hformats]

/-- **The policy on debug information.**  The last flag chooses the level, except that
`-gline-tables-only` anywhere holds back a last `-g`, and the last name of a format chooses the
format if it is known.  What is noted, in this order and at most once, is a last name that is not
known, a name without any flag, and types in DWARF in another format.  The order of options that are
`-g` or `-gline-tables-only`, as far as they are flags, does not matter for the level, and of all
options only the last flag, the presence of `-gline-tables-only` and the last name count. -/
theorem debug_policy (h : parsed.Known) :
    Chooses (flags parsed) (ofOptions parsed).level ∧
      IsFormatOf (formats parsed).getLast? (ofOptions parsed).format ∧
      notices parsed = complaints (flags parsed) (formats parsed) (ofOptions parsed) ∧
      (∀ other : ParsedOptions, other.options.Perm parsed.options →
        (∀ flag ∈ flags parsed, flag = "-g" ∨ flag = "-gline-tables-only") →
        (ofOptions other).level = (ofOptions parsed).level) ∧
      ∀ other : ParsedOptions, other.Known →
        (flags other).getLast? = (flags parsed).getLast? →
        ("-gline-tables-only" ∈ flags other ↔ "-gline-tables-only" ∈ flags parsed) →
        (formats other).getLast? = (formats parsed).getLast? →
        ofOptions other = ofOptions parsed ∧ notices other = notices parsed := by
  refine ⟨chooses_requestedLevel h, isFormatOf_format, notices_eq_complaints h,
    fun other hperm hmild => level_eq_of_perm h hperm hmild,
    fun other hother hlast hlines hformats => ?_⟩
  have hinfo := ofOptions_congr h hother hlast hlines hformats
  refine ⟨hinfo, ?_⟩
  rw [notices_eq_complaints hother, notices_eq_complaints h, hinfo, complaints_congr hlast hformats]

/-- `-gline-tables-only -debug-info-format=codeview a.swift -g -debug-info-format=pdb`. -/
def contradictory : ParsedOptions where
  options := [
    .option { spelling := "-gline-tables-only", shape := .flag, groups := ["g"] } .none,
    .option { spelling := "-debug-info-format=", shape := .joined } (.text "codeview"),
    .input "a.swift",
    .option { spelling := "-g", shape := .flag, groups := ["g"] } .none,
    .option { spelling := "-debug-info-format=", shape := .joined } (.text "pdb")]
  tail := none

/-- A flag at the front holds back the last one, and the last name is not known and replaces one
that is.  Backwards, the flags choose the same level; without the first name, nothing changes. -/
theorem debug_policy_of_contradictory :
    contradictory.Known ∧ (ofOptions contradictory).level = some .lineTables ∧
      (ofOptions contradictory).format = .dwarf ∧
      notices contradictory = [.unknownDebugFormat "pdb"] ∧
      (ofOptions ⟨contradictory.options.reverse, none⟩).level = some .lineTables ∧
      ofOptions ⟨contradictory.options.eraseIdx 1, none⟩ = ofOptions contradictory := by
  have hparse : OptionTable.standard.parse ["-gline-tables-only", "-debug-info-format=codeview",
      "a.swift", "-g", "-debug-info-format=pdb"] = .ok contradictory := by
    decide +kernel
  have hknown : contradictory.Known := ParsedOptions.known_of_parse hparse
  have hless : ParsedOptions.Known ⟨contradictory.options.eraseIdx 1, none⟩ :=
    fun element helement => hknown element (List.mem_of_mem_eraseIdx helement)
  have hflags : flags contradictory = ["-gline-tables-only", "-g"] := by decide +kernel
  have hformats : formats contradictory = ["codeview", "pdb"] := by decide +kernel
  obtain ⟨hchooses, hformat, hnotices, hperm, hsame⟩ := debug_policy hknown
  have hlevel : (ofOptions contradictory).level = some .lineTables :=
    hchooses.unique (.heldBack (by rw [hflags]; rfl) (by simp [hflags]))
  refine ⟨hknown, hlevel, ?_, hnotices.trans (by decide +kernel), ?_, ?_⟩
  · rw [hformats] at hformat
    generalize (ofOptions contradictory).format = format at hformat ⊢
    cases hformat with
    | named _ h => exact absurd h (by cases format <;> decide)
    | other => rfl
  · exact (hperm _ (List.reverse_perm _) (by simp [hflags])).trans hlevel
  · exact (hsame _ hless (by decide +kernel) (by decide +kernel) (by decide +kernel)).1

end DebugInfo

end SwiftPlan
