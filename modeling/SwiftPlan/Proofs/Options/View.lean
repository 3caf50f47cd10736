import SwiftPlan.Proofs.Options.RoundTrip

/-!
# What is seen of a command line

Many command lines say the same.  An option may have several spellings, its value may stand in the
same token or in the next one, and options may stand before, between or behind the inputs.  What a
build sees of a command line are its inputs, the names and values of its options, each in order, and
its tail (`ParsedOptions.Agree`).  Here every question that may be asked of a command line is shown
to depend on nothing else.

Some parts of a build do not see all options.  So agreement is up to the options with certain names,
which are ignored; questions about other names have the same answers all the same (`Asks`).

Groups need the table.  An option does not show to which groups it belongs, but in the standard
table its identity decides (`inGroup_eq_mem`), so that a question about a group is one about names.
-/

namespace SwiftPlan

/-- The name under which an option is seen: there are two options that give a search path. -/
def OptionSpec.role (spec : OptionSpec) : String :=
  if spec.identity = "-I=" then "-I" else spec.identity

namespace ParsedOption

/-- What is seen of an element that is an option: its name and its value, unless the name is
ignored. -/
def seen? (ignored : List String) : ParsedOption → Option (String × String)
  | input _ => none
  | option spec value => if spec.role ∈ ignored then none else some (spec.role, value.joined)

/-- The option with a name and a value as it is written most simply. -/
def plain (seen : String × String) : ParsedOption :=
  option { spelling := seen.1, shape := .separate } (.text seen.2)

/-- The name and the value of an element. -/
def namedValue (element : ParsedOption) : String × String :=
  ((element.spec?.map (·.role)).getD "", element.value)

end ParsedOption

namespace ParsedOptions

/-- What is seen of the options, in order. -/
def seen (ignored : List String) (parsed : ParsedOptions) : List (String × String) :=
  parsed.options.filterMap (·.seen? ignored)

/-- Every option is one of the standard table. -/
def Known (parsed : ParsedOptions) : Prop :=
  ∀ element ∈ parsed.options, ∀ spec ∈ element.spec?, spec ∈ OptionTable.standard.options

/-- The command lines look alike up to options that are ignored: they have the same inputs, the same
names and values of options, each in order, and the same tail. -/
structure Agree (ignored : List String) (first second : ParsedOptions) : Prop where
  inputs : first.inputs = second.inputs
  seen : first.seen ignored = second.seen ignored
  tail : first.tail = second.tail

instance (ignored : List String) (first second : ParsedOptions) :
    Decidable (Agree ignored first second) :=
  decidable_of_iff (first.inputs = second.inputs ∧ first.seen ignored = second.seen ignored ∧
      first.tail = second.tail)
    ⟨fun h => ⟨h.1, h.2.1, h.2.2⟩, fun h => ⟨h.inputs, h.seen, h.tail⟩⟩

/-- A question about these names does not tell the two options for search paths apart and is not
about a name that is ignored. -/
def Asks (ignored names : List String) : Prop :=
  (∀ name ∈ names, name ∉ ignored) ∧ ("-I" ∈ names ↔ "-I=" ∈ names)

instance (ignored names : List String) : Decidable (Asks ignored names) :=
  inferInstanceAs (Decidable (_ ∧ _))

variable {ignored more names : List String} {first second parsed : ParsedOptions}
  {element : ParsedOption}

/-! ## Agreement -/

lemma Agree.symm (h : Agree ignored first second) : Agree ignored second first :=
  ⟨h.inputs.symm, h.seen.symm, h.tail.symm⟩

/-- What is seen if more is ignored. -/
lemma seen_of_subset (h : ignored ⊆ more) :
    parsed.seen more = (parsed.seen ignored).filterMap fun seen =>
      if seen.1 ∈ more then none else some seen := by
  rw [seen, seen, List.filterMap_filterMap]
  refine List.filterMap_congr fun element _ => ?_
  cases element with
  | input text => rfl
  | option spec value =>
    by_cases hignored : spec.role ∈ ignored
    · simp [ParsedOption.seen?, hignored, h hignored]
    · simp [ParsedOption.seen?, hignored]

/-- Command lines that agree also do so if more is ignored. -/
lemma Agree.mono (h : Agree ignored first second) (hmore : ignored ⊆ more) :
    Agree more first second :=
  ⟨h.inputs, by rw [seen_of_subset hmore, seen_of_subset hmore, h.seen], h.tail⟩

/-! ## Questions about names -/

lemma isOneOf_eq_any (h : Asks ignored names) :
    element.isOneOf names = (element.seen? ignored).any fun seen => seen.1 ∈ names := by
  cases element with
  | input text => rfl
  | option spec value =>
    have hrole : spec.role ∈ names ↔ spec.identity ∈ names := by
      rw [OptionSpec.role]
      split
      · next hidentity =>
        rw [hidentity]
        exact h.2
      · rfl
    have hone : (ParsedOption.option spec value).isOneOf names = decide (spec.role ∈ names) := by
      rw [decide_eq_decide.2 hrole, ← List.contains_eq_mem]
      rfl
    rw [hone, ParsedOption.seen?]
    split
    · next hignored =>
      have hother : spec.role ∉ names := fun hname => h.1 _ hname hignored
      simpa using hother
    · rfl

lemma namedValue_of_seen? {seen : String × String} (h : element.seen? ignored = some seen) :
    element.namedValue = seen := by
  cases element with
  | input text => simp [ParsedOption.seen?] at h
  | option spec value =>
    rw [ParsedOption.seen?] at h
    split at h
    · simp at h
    · exact Option.some.inj h

/-- An element that is not seen is an input or an option that is ignored. -/
lemma mem_of_seen?_eq_none (hpath : "-I" ∉ ignored) (h : element.seen? ignored = none) :
    ∀ identity ∈ element.identity?, identity ∈ ignored := by
  intro identity hidentity
  cases element with
  | input text => cases hidentity
  | option spec value =>
    obtain rfl : spec.identity = identity := Option.some.inj hidentity
    have hrole : spec.role ∈ ignored := by
      by_contra hrole
      simp [ParsedOption.seen?, hrole] at h
    rw [OptionSpec.role] at hrole
    split at hrole
    · exact absurd hrole hpath
    · exact hrole

/-- An element that is seen is an option with this value, and its identity is seen unless it is one
of those that give search paths. -/
lemma of_seen?_eq_some {seen : String × String} (h : element.seen? ignored = some seen) :
    element.value = seen.2 ∧
      (element.identity? = some seen.1 ∨ element.identity? = some "-I=" ∧ seen.1 = "-I") := by
  obtain rfl := namedValue_of_seen? h
  cases element with
  | input text => simp [ParsedOption.seen?] at h
  | option spec value =>
    refine ⟨rfl, ?_⟩
    have hrole : (ParsedOption.option spec value).namedValue.1 = spec.role := rfl
    rw [hrole, OptionSpec.role]
    split
    · next hidentity => exact .inr ⟨congrArg some hidentity, rfl⟩
    · exact .inl rfl

/-- The names and values of the options that a question is about. -/
lemma map_namedValue_allOf (h : Asks ignored names) :
    (parsed.allOf names).map (·.namedValue) =
      (parsed.seen ignored).filter fun seen => seen.1 ∈ names := by
  rw [allOf, seen]
  induction parsed.options with
  | nil => rfl
  | cons element rest ih =>
    rw [List.filter_cons, isOneOf_eq_any h, List.filterMap_cons]
    cases hseen : element.seen? ignored with
    | none => simpa using ih
    | some seen =>
      by_cases hname : seen.1 ∈ names
      · simpa [hname, namedValue_of_seen? hseen] using ih
      · simpa [hname] using ih

lemma mem_of_last? (h : parsed.last? names = some element) : element.isOneOf names = true :=
  (List.mem_filter.1 (List.mem_of_getLast? h)).2

/-- Options that give search paths apart, an option is seen with its identity. -/
lemma identity?_eq_namedValue (hone : element.isOneOf names = true) (hpath : "-I=" ∉ names) :
    element.identity? = some element.namedValue.1 := by
  cases element with
  | input text => simp [ParsedOption.isOneOf, ParsedOption.identity?, ParsedOption.spec?] at hone
  | option spec value =>
    have hname : spec.identity ∈ names := by
      simpa [ParsedOption.isOneOf, ParsedOption.identity?, ParsedOption.spec?] using hone
    have hother : spec.identity ≠ "-I=" := fun hsame => hpath (hsame ▸ hname)
    have hrole : spec.role = spec.identity := if_neg hother
    rw [ParsedOption.namedValue, ParsedOption.identity?, ParsedOption.spec?, Option.map_some,
      Option.map_some, Option.getD_some, hrole]

lemma last?_bind_identity? (hpath : "-I=" ∉ names) :
    (parsed.last? names).bind (·.identity?) =
      ((parsed.allOf names).map (·.namedValue)).getLast?.map Prod.fst := by
  rw [List.getLast?_map]
  cases hlast : parsed.last? names with
  | none =>
    rw [last?] at hlast
    rw [hlast]
    rfl
  | some element =>
    rw [Option.bind_some, identity?_eq_namedValue (mem_of_last? hlast) hpath]
    rw [last?] at hlast
    rw [hlast]
    rfl

/-- Which of two options was given last is told by its identity. -/
lemma lastWins_eq {positive negative : String} {default : Bool} :
    parsed.lastWins positive negative default =
      ((parsed.last? [positive, negative]).bind (·.identity?)).elim default (· == positive) := by
  rw [lastWins]
  split
  · next hnone =>
    rw [hnone]
    rfl
  · next found hfound =>
    obtain ⟨identity, hidentity, -⟩ := (Option.any_eq_true _ _).1 (mem_of_last? hfound)
    rw [hfound, Option.bind_some, hidentity]
    rfl

/-! ## Questions about groups -/

/-- The identities of the options in a group of the standard table. -/
def identitiesOf (group : OptionGroup) : List String :=
  (OptionTable.standard.options.filter (·.inGroup group.name)).map (·.identity)

/-- In the standard table the identity of an option decides whether it belongs to a group. -/
lemma inGroup_eq_mem (group : OptionGroup) :
    ∀ spec ∈ OptionTable.standard.options,
      spec.inGroup group.name = decide (spec.identity ∈ identitiesOf group) := by
  cases group <;> decide +kernel

/-- Among the options on debug information, none has a second spelling. -/
lemma spelling_eq_identity :
    ∀ spec ∈ OptionTable.standard.options, spec.inGroup OptionGroup.debugLevels.name = true →
      spec.spelling = spec.identity := by
  decide +kernel

lemma lastInGroup?_eq_last? (h : parsed.Known) (group : OptionGroup) :
    parsed.lastInGroup? group.name = parsed.last? (identitiesOf group) := by
  have hgroup : parsed.inGroup group.name = parsed.allOf (identitiesOf group) := by
    refine List.filter_congr fun element helement => ?_
    cases element with
    | input text => rfl
    | option spec value =>
      have hspec : spec ∈ OptionTable.standard.options := h _ helement spec rfl
      have hnames : (ParsedOption.option spec value).isOneOf (identitiesOf group) =
          (identitiesOf group).contains spec.identity := rfl
      rw [hnames, List.contains_eq_mem, ← inGroup_eq_mem group spec hspec]
      rfl
  rw [lastInGroup?, last?, hgroup]

namespace Agree

variable (h : Agree ignored first second)

include h

lemma map_namedValue (hnames : Asks ignored names) :
    (first.allOf names).map (·.namedValue) = (second.allOf names).map (·.namedValue) := by
  rw [map_namedValue_allOf hnames, map_namedValue_allOf hnames, h.seen]

lemma map_value (hnames : Asks ignored names) :
    (first.allOf names).map (·.value) = (second.allOf names).map (·.value) := by
  have hvalues := congrArg (List.map Prod.snd) (h.map_namedValue hnames)
  rwa [List.map_map, List.map_map] at hvalues

lemma lastValue? (hnames : Asks ignored names) :
    first.lastValue? names = second.lastValue? names := by
  rw [ParsedOptions.lastValue?, ParsedOptions.lastValue?, last?, last?, ← List.getLast?_map,
    ← List.getLast?_map, h.map_value hnames]

lemma hasAny (hnames : Asks ignored names) : first.hasAny names = second.hasAny names := by
  have hseen (parsed : ParsedOptions) :
      parsed.hasAny names = (parsed.seen ignored).any fun seen => seen.1 ∈ names := by
    rw [ParsedOptions.hasAny, ParsedOptions.seen, List.any_filterMap]
    refine congrArg parsed.options.any (funext fun element => ?_)
    rw [isOneOf_eq_any hnames]
    cases element.seen? ignored <;> rfl
  rw [hseen, hseen, h.seen]

lemma lastIdentity? (hnames : Asks ignored names) (hpath : "-I=" ∉ names) :
    (first.last? names).bind (·.identity?) = (second.last? names).bind (·.identity?) := by
  rw [last?_bind_identity? hpath, last?_bind_identity? hpath, h.map_namedValue hnames]

lemma lastWins {positive negative : String} {default : Bool}
    (hnames : Asks ignored [positive, negative]) (hpath : "-I=" ∉ [positive, negative]) :
    first.lastWins positive negative default = second.lastWins positive negative default := by
  rw [lastWins_eq, lastWins_eq, h.lastIdentity? hnames hpath]

lemma lastInGroup? (hfirst : first.Known) (hsecond : second.Known) {group : OptionGroup}
    (hnames : Asks ignored (identitiesOf group)) (hpath : "-I=" ∉ identitiesOf group) :
    (first.lastInGroup? group.name).bind (·.identity?) =
      (second.lastInGroup? group.name).bind (·.identity?) := by
  rw [lastInGroup?_eq_last? hfirst, lastInGroup?_eq_last? hsecond, h.lastIdentity? hnames hpath]

end Agree

/-! ## Handing options on -/

/-- Does a step for each element of a list and puts together what comes of them. -/
def collect {ε α β : Type} (step : α → Except ε (List β)) (elements : List α) :
    Except ε (List β) := do
  return (← elements.mapM step).flatten

lemma collect_cons {ε α β : Type} {step : α → Except ε (List β)} {first : α} {rest : List α} :
    collect step (first :: rest) = (do
      let front ← step first
      let back ← collect step rest
      return front ++ back) := by
  simp only [collect, List.mapM_cons, bind_assoc, pure_bind, List.flatten_cons]

/-- A step that makes nothing of inputs and of ignored options and does not care how an option is
written can be done on what is seen. -/
lemma collect_eq_seen {ε β : Type} {step : ParsedOption → Except ε (List β)}
    (hnone : ∀ element, element.seen? ignored = none → step element = pure [])
    (hsome : ∀ element seen, element.seen? ignored = some seen →
      step element = step (.plain seen)) :
    collect step parsed.options = collect (step ∘ .plain) (parsed.seen ignored) := by
  rw [seen]
  induction parsed.options with
  | nil => rfl
  | cons element rest ih =>
    rw [collect_cons, ih, List.filterMap_cons]
    cases hseen : element.seen? ignored with
    | none =>
      rw [hnone element hseen, pure_bind]
      simp only [List.nil_append, bind_pure]
    | some seen =>
      rw [hsome element seen hseen]
      dsimp only
      rw [collect_cons]
      rfl

lemma Agree.collect {ε β : Type} {step : ParsedOption → Except ε (List β)}
    (h : Agree ignored first second)
    (hnone : ∀ element, element.seen? ignored = none → step element = pure [])
    (hsome : ∀ element seen, element.seen? ignored = some seen →
      step element = step (.plain seen)) :
    ParsedOptions.collect step first.options = ParsedOptions.collect step second.options := by
  rw [collect_eq_seen hnone hsome, collect_eq_seen hnone hsome, h.seen]

/-! ## Parsed command lines -/

lemma known_of_parse {arguments : List String}
    (h : OptionTable.standard.parse arguments = .ok parsed) : parsed.Known := by
  unfold Known
  fun_induction OptionTable.parse OptionTable.standard arguments generalizing parsed with
  | case1 =>
    obtain rfl : (⟨[], none⟩ : ParsedOptions) = parsed := by simpa using h
    simp
  | case2 rest =>
    obtain rfl : (⟨[], some rest⟩ : ParsedOptions) = parsed := by simpa using h
    simp
  | case3 token rest hterm hinput ih =>
    obtain ⟨others, hothers, rfl⟩ := map_eq_ok.1 h
    exact OptionTable.forall_mem_prepend (by simp [ParsedOption.spec?]) (ih hothers)
  | case4 => simp at h
  | case5 => simp at h
  | case6 token rest hterm hinput spec hlookup value hread ih =>
    obtain ⟨others, hothers, rfl⟩ := map_eq_ok.1 h
    have hspec := (OptionTable.lookup?_eq_some hlookup).1
    exact OptionTable.forall_mem_prepend (by simpa [ParsedOption.spec?]) (ih hothers)
  | case7 => simp at h
  | case8 token hterm hinput spec hlookup hread value rest ih =>
    obtain ⟨others, hothers, rfl⟩ := map_eq_ok.1 h
    have hspec := (OptionTable.lookup?_eq_some hlookup).1
    exact OptionTable.forall_mem_prepend (by simpa [ParsedOption.spec?]) (ih hothers)

end ParsedOptions

end SwiftPlan
