import SwiftPlan.Proofs.Options.RoundTrip

/-!
# Looking options up

What a token starts with is a question about the set of options and not about their order.  `Finds`
gives the answer without a table: the option that is spelled like the token, else the longest of the
options that may stand in front of a value and begin the token, else none.  Where no spelling is
used twice there is exactly one answer, because two beginnings of one token that are equally long
are equal (`Finds.unique`), and it stays when the options are put into another order
(`Finds.of_perm`).

A table gives this answer (`finds_lookup?`), and so does a scan of the options from the longest
spelling to the shortest, whichever of them come first among spellings of one length
(`finds_scan`).  A command line is read with no more than these answers (`parse_congr`), so that it
is read alike with any order of the options.
-/

namespace SwiftPlan

namespace Text

lemma beginsWith_iff_prefix {lead text : String} :
    beginsWith lead text = true ↔ lead.toList <+: text.toList := by
  rw [beginsWith_iff]
  constructor
  · rintro ⟨rest, rfl⟩
    exact ⟨rest.toList, by simp⟩
  · rintro ⟨rest, hrest⟩
    exact ⟨String.ofList rest, by rw [← String.toList_inj, ← hrest]; simp⟩

end Text

namespace OptionTable

variable {table table' : OptionTable} {options options' : List OptionSpec} {token : String}
  {spec other : OptionSpec} {found found' : Option OptionSpec}

/-! ## What a token starts with -/

/-- The option begins the token, and its value may stand directly behind it. -/
structure Opens (options : List OptionSpec) (token : String) (spec : OptionSpec) : Prop where
  mem : spec ∈ options
  joins : spec.shape = .joined ∨ spec.shape = .joinedOrSeparate ∨ spec.shape = .commaJoined
  begins : spec.spelling.toList <+: token.toList

/-- What is found for a token among the options, in whatever order they are. -/
inductive Finds (options : List OptionSpec) (token : String) : Option OptionSpec → Prop where
  /-- The option that is spelled like the token. -/
  | exact {spec : OptionSpec} (hmem : spec ∈ options) (hspelling : spec.spelling = token) :
      Finds options token (some spec)
  /-- The option that begins more of the token than every other one. -/
  | longest {spec : OptionSpec} (hexact : ∀ other ∈ options, other.spelling ≠ token)
      (hopens : Opens options token spec)
      (hlongest : ∀ other, Opens options token other → other ≠ spec →
        other.spelling.length < spec.spelling.length) : Finds options token (some spec)
  | nothing (hexact : ∀ other ∈ options, other.spelling ≠ token)
      (hopens : ∀ other, ¬ Opens options token other) : Finds options token none

lemma joins_iff {shape : OptionShape} :
    shape.joins = true ↔ shape = .joined ∨ shape = .joinedOrSeparate ∨ shape = .commaJoined := by
  cases shape <;> simp [OptionShape.joins]

lemma opens_iff : Opens options token spec ↔
    spec ∈ options ∧ spec.shape.joins = true ∧ Text.beginsWith spec.spelling token = true := by
  rw [joins_iff, Text.beginsWith_iff_prefix]
  exact ⟨fun hopens => ⟨hopens.mem, hopens.joins, hopens.begins⟩, fun h => ⟨h.1, h.2.1, h.2.2⟩⟩

lemma opens_of_perm (h : options.Perm options') :
    Opens options token spec ↔ Opens options' token spec := by
  rw [opens_iff, opens_iff, h.mem_iff]

lemma Finds.of_perm (h : options.Perm options') (hfinds : Finds options token found) :
    Finds options' token found := by
  have hnone (hexact : ∀ other ∈ options, other.spelling ≠ token) :
      ∀ other ∈ options', other.spelling ≠ token := fun other hmem =>
    hexact other (h.mem_iff.2 hmem)
  cases hfinds with
  | exact hmem hspelling => exact .exact (h.mem_iff.1 hmem) hspelling
  | longest hexact hopens hlongest =>
    exact .longest (hnone hexact) ((opens_of_perm h).1 hopens) fun other hother =>
      hlongest other ((opens_of_perm h).2 hother)
  | nothing hexact hopens =>
    exact .nothing (hnone hexact) fun other hother => hopens other ((opens_of_perm h).2 hother)

section

variable (hnodup : (options.map (·.spelling)).Nodup)

include hnodup

/-- A token has one beginning of each length, and each spelling one option. -/
lemma Opens.eq_of_length (hspec : Opens options token spec) (hother : Opens options token other)
    (hlength : spec.spelling.length = other.spelling.length) : spec = other := by
  have hlists : spec.spelling.toList.length = other.spelling.toList.length := by
    simpa only [String.length_toList] using hlength
  have hbegins := List.prefix_of_prefix_length_le hspec.begins hother.begins (Nat.le_of_eq hlists)
  have hspelling := String.toList_inj.1 (hbegins.eq_of_length hlists)
  exact List.inj_on_of_nodup_map hnodup hspec.mem hother.mem hspelling

/-- Among options whose spellings differ, one that nothing exceeds exceeds all others. -/
lemma Finds.of_le (hexact : ∀ other ∈ options, other.spelling ≠ token)
    (hopens : Opens options token spec)
    (hle : ∀ other, Opens options token other → other.spelling.length ≤ spec.spelling.length) :
    Finds options token (some spec) := by
  refine .longest hexact hopens fun other hother hne => ?_
  refine Nat.lt_of_le_of_ne (hle other hother) fun hlength => hne ?_
  exact hother.eq_of_length hnodup hopens hlength

lemma Finds.unique (h : Finds options token found) (h' : Finds options token found') :
    found = found' := by
  cases h with
  | exact hmem hspelling =>
    cases h' with
    | exact hmem' hspelling' =>
      rw [List.inj_on_of_nodup_map hnodup hmem hmem' (hspelling.trans hspelling'.symm)]
    | longest hexact => exact absurd hspelling (hexact _ hmem)
    | nothing hexact => exact absurd hspelling (hexact _ hmem)
  | @longest spec hexact hopens hlongest =>
    cases h' with
    | exact hmem' hspelling' => exact absurd hspelling' (hexact _ hmem')
    | @longest other _ hopens' hlongest' =>
      by_contra hne
      have hdiffer : spec ≠ other := fun hsame => hne (by rw [hsame])
      have hlt := hlongest other hopens' hdiffer.symm
      have hgt := hlongest' spec hopens hdiffer
      omega
    | nothing _ hnone => exact absurd hopens (hnone _)
  | nothing hexact hnone =>
    cases h' with
    | exact hmem' hspelling' => exact absurd hspelling' (hexact _ hmem')
    | longest _ hopens' => exact absurd hopens' (hnone _)
    | nothing => rfl

end

/-! ## Tables -/

lemma mem_joinedIn : spec ∈ table.joinedIn token ↔ Opens table.options token spec := by
  rw [joinedIn, List.mem_filter, Bool.and_eq_true, opens_iff]

lemma longest?_eq_none_iff : longest? options = none ↔ options = [] := by
  cases options with
  | nil => simp [longest?]
  | cons first rest =>
    rw [longest?]
    split <;> simp

lemma length_le_of_longest? (h : longest? options = some spec) :
    ∀ other ∈ options, other.spelling.length ≤ spec.spelling.length := by
  induction options generalizing spec with
  | nil => simp
  | cons first rest ih =>
    rw [longest?] at h
    cases hrest : longest? rest with
    | none =>
      rw [hrest] at h
      obtain rfl := longest?_eq_none_iff.1 hrest
      obtain rfl : first = spec := by simpa using h
      simp
    | some best =>
      rw [hrest] at h
      have hbest := ih hrest
      obtain rfl : (if best.spelling.length ≤ first.spelling.length then first else best) = spec :=
        by simpa using h
      refine List.forall_mem_cons.2 ⟨?_, fun other hother => ?_⟩
      · split <;> omega
      · have hle := hbest other hother
        split <;> omega

lemma get?_eq_some (h : table.get? token = some spec) :
    spec ∈ table.options ∧ spec.spelling = token :=
  ⟨List.mem_of_find?_eq_some h, by simpa using List.find?_some h⟩

lemma get?_eq_none_iff :
    table.get? token = none ↔ ∀ other ∈ table.options, other.spelling ≠ token := by
  simp [get?]

lemma finds_lookup? : Finds table.options token (table.lookup? token) := by
  rw [lookup?]
  cases hget : table.get? token with
  | some spec =>
    obtain ⟨hmem, hspelling⟩ := get?_eq_some hget
    exact .exact hmem hspelling
  | none =>
    have hexact := get?_eq_none_iff.1 hget
    rw [Option.none_or]
    cases hlongest : longest? (table.joinedIn token) with
    | none =>
      refine .nothing hexact fun other hother => ?_
      have hmem := mem_joinedIn.2 hother
      rw [longest?_eq_none_iff.1 hlongest] at hmem
      cases hmem
    | some spec =>
      refine .of_le table.nodup_spelling hexact (mem_joinedIn.1 (longest?_mem hlongest)) ?_
      exact fun other hother => length_le_of_longest? hlongest other (mem_joinedIn.2 hother)

lemma finds_iff : Finds table.options token found ↔ table.lookup? token = found := by
  constructor
  · exact fun h => finds_lookup?.unique table.nodup_spelling h
  · rintro rfl
    exact finds_lookup?

lemma lookup?_of_perm (h : table'.options.Perm table.options) (token : String) :
    table'.lookup? token = table.lookup? token :=
  (finds_iff.1 (finds_lookup?.of_perm h)).symm

/-- The options that may stand in front of a value, from the longest spelling to the shortest. -/
structure Ranked (options ranked : List OptionSpec) : Prop where
  perm : ranked.Perm (options.filter (·.shape.joins))
  longestFirst : ranked.Pairwise fun first second =>
    second.spelling.length ≤ first.spelling.length

/-- The options that may stand in front of a value, sorted so that those of one length stay in the
order of the table. -/
def byLength (options : List OptionSpec) : List OptionSpec :=
  (options.filter (·.shape.joins)).mergeSort fun first second =>
    second.spelling.length ≤ first.spelling.length

lemma ranked_byLength : Ranked options (byLength options) where
  perm := List.mergeSort_perm _ _
  longestFirst := by
    refine (List.pairwise_mergeSort ?_ ?_ _).imp of_decide_eq_true
    · intro first second third hfirst hsecond
      rw [decide_eq_true_eq] at *
      exact Nat.le_trans hsecond hfirst
    · intro first second
      simpa using Nat.le_total _ _

/-- The first option of a ranking that begins the token is the longest one. -/
lemma finds_scan {ranked : List OptionSpec} (h : Ranked table.options ranked) :
    Finds table.options token ((table.get? token).or
      (ranked.find? fun option => Text.beginsWith option.spelling token)) := by
  have hmem {option : OptionSpec} : option ∈ ranked ∧
      Text.beginsWith option.spelling token = true ↔ Opens table.options token option := by
    rw [h.perm.mem_iff, List.mem_filter, opens_iff, and_assoc]
  cases hget : table.get? token with
  | some spec =>
    obtain ⟨hmem, hspelling⟩ := get?_eq_some hget
    exact .exact hmem hspelling
  | none =>
    have hexact := get?_eq_none_iff.1 hget
    rw [Option.none_or]
    cases hfind : ranked.find? fun option => Text.beginsWith option.spelling token with
    | none =>
      refine .nothing hexact fun other hother => ?_
      obtain ⟨hranked, hbegins⟩ := hmem.2 hother
      exact absurd hbegins (List.find?_eq_none.1 hfind other hranked)
    | some spec =>
      obtain ⟨hbegins, before, behind, rfl, hbefore⟩ := List.find?_eq_some_iff_append.1 hfind
      refine .of_le table.nodup_spelling hexact (hmem.1 ⟨by simp, hbegins⟩) fun other hother => ?_
      obtain ⟨hranked, hother⟩ := hmem.2 hother
      -- what stands in front of the first one does not begin the token
      rcases List.mem_append.1 hranked with hfront | hback
      · have hnot := hbefore other hfront
        simp [hother] at hnot
      · have hrest := (List.pairwise_append.1 h.longestFirst).2.1
        rcases List.mem_cons.1 hback with rfl | hbehind
        · exact Nat.le_refl _
        · exact (List.pairwise_cons.1 hrest).1 other hbehind

/-- Reading a command line asks a table for nothing but what its tokens start with. -/
lemma parse_congr (h : ∀ token, table'.lookup? token = table.lookup? token)
    (arguments : List String) : table'.parse arguments = table.parse arguments := by
  fun_induction parse table arguments with
  | case1 => rw [parse]
  | case2 rest => rw [parse, if_pos rfl]
  | case3 token rest hterm hinput ih => rw [parse, if_neg hterm, if_pos hinput, ih]
  | case4 token rest hterm hinput hlookup =>
    rw [parse, if_neg hterm, if_neg hinput]
    simp only [h, hlookup]
  | case5 token rest hterm hinput spec hlookup error hread =>
    rw [parse, if_neg hterm, if_neg hinput]
    simp only [h, hlookup, hread]
  | case6 token rest hterm hinput spec hlookup value hread ih =>
    rw [parse, if_neg hterm, if_neg hinput]
    simp only [h, hlookup, hread, ih]
  | case7 token hterm hinput spec hlookup hread =>
    rw [parse, if_neg hterm, if_neg hinput]
    simp only [h, hlookup, hread]
  | case8 token hterm hinput spec hlookup hread next rest ih =>
    rw [parse, if_neg hterm, if_neg hinput]
    simp only [h, hlookup, hread, ih]

lemma ofList_eq_ok (hnodup : (options.map (·.spelling)).Nodup) :
    ofList options = .ok ⟨options, hnodup⟩ := by
  unfold ofList
  split
  · next spelling hrepeat =>
    have hnone : firstRepeat? [] (options.map (·.spelling)) = none :=
      firstRepeat?_eq_none_iff.2 ⟨hnodup, by simp⟩
    rw [hnone] at hrepeat
    cases hrepeat
  · rfl

/-- The table takes tokens for what is found among the options, as a scan of the options sorted by
their lengths does, and so does the table of the options in any other order, which reads every
command line alike. -/
structure Represents (table : OptionTable) (options : List OptionSpec) : Prop where
  finds : ∀ token found, Finds options token found ↔ table.lookup? token = found
  scans : ∀ token, (table.get? token).or
    ((byLength options).find? fun option => Text.beginsWith option.spelling token) =
      table.lookup? token
  permuted : ∀ options', options'.Perm options → ∃ table', ofList options' = .ok table' ∧
    (∀ token, table'.lookup? token = table.lookup? token) ∧
      ∀ arguments, table'.parse arguments = table.parse arguments

lemma represents_options : table.Represents table.options where
  finds _ _ := finds_iff
  scans _ := (finds_scan ranked_byLength).unique table.nodup_spelling finds_lookup?
  permuted options' hperm := by
    have hnodup : (options'.map (·.spelling)).Nodup :=
      (hperm.map _).nodup_iff.2 table.nodup_spelling
    have hlookup (token : String) :
        lookup? ⟨options', hnodup⟩ token = table.lookup? token := lookup?_of_perm hperm token
    exact ⟨_, ofList_eq_ok hnodup, hlookup, parse_congr hlookup⟩

theorem exists_represents (hnodup : (options.map (·.spelling)).Nodup) :
    ∃ table, ofList options = .ok table ∧ table.Represents options :=
  ⟨⟨options, hnodup⟩, ofList_eq_ok hnodup, represents_options⟩

/-- Options of which the first begins the others, and the third the second. -/
def overlapping : List OptionSpec := [
  { spelling := "-I", shape := .joinedOrSeparate },
  { spelling := "-Ian", shape := .separate },
  { spelling := "-Ia", shape := .commaJoined },
  { spelling := "-I=", shape := .joined }]

theorem exists_represents_overlapping :
    (overlapping.map (·.spelling)).Nodup ∧
      ∃ table, ofList overlapping = .ok table ∧ table.Represents overlapping :=
  have hnodup : (overlapping.map (·.spelling)).Nodup := by decide
  ⟨hnodup, exists_represents hnodup⟩

end OptionTable

end SwiftPlan
