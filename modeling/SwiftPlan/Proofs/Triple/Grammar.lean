import Mathlib.Data.List.TakeWhile
import SwiftPlan.Proofs.Outcome
import SwiftPlan.Triple

/-!
# Which texts are triples

The third part of a triple is the name of a system with a version behind it, and nothing else
(`IsSystem`).  Names and versions have no character in common, so that there is one way to take such
a part apart, and the parts of a triple can be put together to the text again.

One text too many is read as a system: the part may end in a line feed.  So a text is accepted if it
is a triple, or if it would be one without a line feed behind the system (`IsTriple`), and no text is
both.
-/

namespace SwiftPlan

namespace Triple

/-- The names of the systems that can be built for. -/
def systemNames : List String :=
  ["macosx", "macos", "darwin", "ios", "tvos", "watchos", "linux", "freebsd", "openbsd", "android"]

/-- What may stand behind the name of a system: nothing, or a digit and then digits and dots. -/
inductive IsVersion : List Char → Prop where
  | absent : IsVersion []
  | given {first : Char} {rest : List Char} (hfirst : first.isDigit = true)
      (hrest : ∀ c ∈ rest, c.isDigit = true ∨ c = '.') : IsVersion (first :: rest)

/-- A system as it is written in a triple: its name, and behind it the version. -/
def IsSystem (part : List Char) : Prop :=
  ∃ name ∈ systemNames, ∃ version, IsVersion version ∧ part = name.toList ++ version

/-- The text has parts between dashes.  The first three are not empty, and the third one is a system
with `ending` behind it. -/
def IsTriple (ending : List Char) (text : String) : Prop :=
  ∃ arch vendor system environment,
    text.toList.splitOn '-' = arch :: vendor :: (system ++ ending) :: environment ∧
      arch ≠ [] ∧ vendor ≠ [] ∧ system ≠ [] ∧ IsSystem system

variable {text : String} {part name version ending : List Char} {c : Char}

/-! ## Characters -/

lemma IsVersion.isVersionChar (h : IsVersion version) (hc : c ∈ version) :
    Triple.isVersionChar c = true := by
  cases h with
  | absent => simp at hc
  | given hfirst hrest =>
    rcases List.mem_cons.1 hc with rfl | hc
    · simp [Triple.isVersionChar, hfirst]
    · simpa [Triple.isVersionChar] using hrest c hc

lemma isVersion_iff :
    IsVersion version ↔ version.all isVersionChar = true ∧ version.head? ≠ some '.' := by
  constructor
  · intro h
    refine ⟨List.all_eq_true.2 fun c hc => h.isVersionChar hc, ?_⟩
    cases h with
    | absent => simp
    | given hfirst =>
      rintro ⟨⟩
      exact absurd hfirst (by decide)
  · rintro ⟨hall, hhead⟩
    cases version with
    | nil => exact .absent
    | cons first rest =>
      simp only [List.all_cons, Bool.and_eq_true, isVersionChar, Bool.or_eq_true, beq_iff_eq,
        List.all_eq_true] at hall
      exact .given (hall.1.resolve_right fun hdot => hhead (congrArg some hdot)) hall.2

instance : DecidablePred IsVersion := fun _ =>
  decidable_of_iff' _ isVersion_iff

/-- Versions do not go on where a name does. -/
lemma isVersionChar_eq_false (h : isSystemChar c = true) : isVersionChar c = false := by
  have hlower : c.isLower = (decide ('a'.val ≤ c.val) && decide (c.val ≤ 'z'.val)) := rfl
  simp only [isSystemChar, hlower, Bool.or_eq_true, Bool.and_eq_true, decide_eq_true_eq,
    beq_iff_eq] at h
  rcases h with ⟨hlow, -⟩ | rfl
  · simp only [isVersionChar, Char.isDigit, Bool.or_eq_false_iff, Bool.and_eq_false_iff,
      decide_eq_false_iff_not, beq_eq_false_iff_ne]
    constructor
    · exact .inr fun hhigh => absurd (UInt32.le_trans hlow hhigh) (by decide)
    · rintro rfl
      exact absurd hlow (by decide)
  · decide

lemma isSystemChar_eq_false (h : isVersionChar c = true) : isSystemChar c = false := by
  by_contra hsystem
  rw [isVersionChar_eq_false (by simpa using hsystem)] at h
  cases h

/-! ## Systems -/

/-- What may stand behind a system without being seen. -/
def IsEnding (ending : List Char) : Prop :=
  ending = [] ∨ ending = ['\n']

/-- What is seen of the text behind the name of a system. -/
def seen (behind : List Char) : List Char :=
  if behind.getLast? = some '\n' then behind.dropLast else behind

lemma splitSystem?_eq :
    splitSystem? part =
      if part.takeWhile isSystemChar ≠ [] ∧ IsVersion (seen (part.dropWhile isSystemChar)) then
        some (part.takeWhile isSystemChar, seen (part.dropWhile isSystemChar))
      else none := by
  simp only [isVersion_iff]
  rfl

lemma exists_ending (behind : List Char) :
    ∃ ending, IsEnding ending ∧ behind = seen behind ++ ending := by
  rw [seen]
  split
  · next hlast => exact ⟨['\n'], .inr rfl, (List.dropLast_append_getLast? _ hlast).symm⟩
  · exact ⟨[], .inl rfl, (List.append_nil _).symm⟩

lemma seen_append (hversion : IsVersion version) (hending : IsEnding ending) :
    seen (version ++ ending) = version := by
  rcases hending with rfl | rfl
  · rw [List.append_nil, seen, if_neg]
    intro hlast
    exact absurd (hversion.isVersionChar (List.mem_of_getLast? hlast)) (by decide)
  · simp [seen]

lemma dropWhile_version (hversion : IsVersion version) (hending : IsEnding ending) :
    (version ++ ending).dropWhile isSystemChar = version ++ ending := by
  cases hversion with
  | absent => rcases hending with rfl | rfl <;> rfl
  | @given first rest hfirst _ =>
    have hsystem : isSystemChar first = false :=
      isSystemChar_eq_false (by simp [isVersionChar, hfirst])
    rw [List.cons_append, List.dropWhile_cons_of_neg (by simp [hsystem])]

/-- There is one way to take a system apart. -/
lemma splitSystem?_eq_some_iff :
    splitSystem? part = some (name, version) ↔
      ∃ ending, IsEnding ending ∧ part = name ++ version ++ ending ∧ name ≠ [] ∧
        (∀ c ∈ name, isSystemChar c = true) ∧ IsVersion version := by
  rw [splitSystem?_eq]
  constructor
  · intro h
    split at h
    · next hshape =>
      obtain ⟨rfl, rfl⟩ := Prod.mk.inj (Option.some.inj h)
      obtain ⟨ending, hending, hbehind⟩ := exists_ending (part.dropWhile isSystemChar)
      refine ⟨ending, hending, ?_, hshape.1, fun c hc => List.mem_takeWhile_imp hc, hshape.2⟩
      rw [List.append_assoc, ← hbehind, List.takeWhile_append_dropWhile]
    · cases h
  · rintro ⟨ending, hending, rfl, hne, hname, hversion⟩
    have hdrop : (name ++ version ++ ending).dropWhile isSystemChar = version ++ ending := by
      rw [List.append_assoc, List.dropWhile_append_of_pos hname,
        dropWhile_version hversion hending]
    have htake : (name ++ version ++ ending).takeWhile isSystemChar = name := by
      have hwhole := List.takeWhile_append_dropWhile (p := isSystemChar)
        (l := name ++ version ++ ending)
      rw [hdrop, List.append_assoc name] at hwhole
      rw [List.append_assoc]
      exact List.append_cancel_right hwhole
    rw [hdrop, htake, seen_append hversion hending, if_pos ⟨hne, hversion⟩]

/-! ## Names -/

lemma exists_ofName?_iff {name : String} :
    (∃ system, OperatingSystem.ofName? name = some system) ↔ name ∈ systemNames := by
  have hnames : systemNames = OperatingSystem.names.map (·.1) := rfl
  rw [← Option.isSome_iff_exists, ← not_iff_not, Option.not_isSome_iff_eq_none,
    OperatingSystem.ofName?, List.lookup_eq_none_iff, hnames, List.mem_map]
  simp only [bne_iff_ne, not_exists, not_and]
  exact forall₂_congr fun _ _ => ne_comm

lemma name_mem_systemNames (system : OperatingSystem) : system.name ∈ systemNames :=
  exists_ofName?_iff.1 ⟨system, OperatingSystem.ofName?_name system⟩

lemma isSystemChar_of_mem_systemNames :
    ∀ name ∈ systemNames, name.toList ≠ [] ∧ ∀ c ∈ name.toList, isSystemChar c = true := by
  have hall : (systemNames.all fun name =>
      !name.toList.isEmpty && name.toList.all isSystemChar) = true := by
    decide +kernel
  simpa using hall

lemma IsSystem.ne_nil (h : IsSystem part) : part ≠ [] := by
  obtain ⟨name, hname, version, -, rfl⟩ := h
  simp [(isSystemChar_of_mem_systemNames name hname).1]

/-- A part is read as a system if it is one, but for an ending that is not seen. -/
lemma exists_splitSystem?_iff :
    (∃ name version system, splitSystem? part = some (name, version) ∧
        OperatingSystem.ofName? (String.ofList name) = some system) ↔
      ∃ system ending, IsEnding ending ∧ part = system ++ ending ∧ IsSystem system := by
  constructor
  · rintro ⟨name, version, system, hsplit, hsystem⟩
    obtain ⟨ending, hending, rfl, -, -, hversion⟩ := splitSystem?_eq_some_iff.1 hsplit
    have hname := exists_ofName?_iff.1 ⟨system, hsystem⟩
    exact ⟨name ++ version, ending, hending, rfl, String.ofList name, hname, version, hversion,
      by rw [String.toList_ofList]⟩
  · rintro ⟨-, ending, hending, rfl, name, hname, version, hversion, rfl⟩
    obtain ⟨hne, hchars⟩ := isSystemChar_of_mem_systemNames name hname
    obtain ⟨system, hsystem⟩ := exists_ofName?_iff.2 hname
    exact ⟨name.toList, version, system,
      splitSystem?_eq_some_iff.2 ⟨ending, hending, rfl, hne, hchars, hversion⟩,
      by rwa [String.ofList_toList]⟩

/-! ## Texts -/

/-- The version of a target that asks for `asked`. -/
def deployed (system : OperatingSystem) (asked : Version) : Version :=
  if asked = .zero then system.defaultVersion?.getD asked else asked

/-- The environment of a target with these parts behind the system. -/
def environmentOf (parts : List (List Char)) : Option String :=
  match ['-'].intercalate parts with
  | [] => none
  | environment => some (String.ofList environment)

/-- What it takes to be accepted, and what comes of it. -/
lemma ofText_eq_ok_iff {triple : Triple} :
    ofText text = .ok triple ↔
      ∃ arch vendor part rest name version system,
        text.toList.splitOn '-' = arch :: vendor :: part :: rest ∧ arch ≠ [] ∧ vendor ≠ [] ∧
          splitSystem? part = some (name, version) ∧
          OperatingSystem.ofName? (String.ofList name) = some system ∧
          triple = ⟨text, String.ofList arch, String.ofList vendor, system,
            deployed system (Version.ofChars version), environmentOf rest⟩ := by
  rw [ofText]
  constructor
  · intro h
    split at h
    · next arch vendor part rest hparts =>
      split at h
      · cases h
      · next hempty =>
        simp only [not_or] at hempty
        split at h
        · cases h
        · next name version hsplit =>
          split at h
          · cases h
          · next system hsystem =>
            exact ⟨arch, vendor, part, rest, name, version, system, hparts, hempty.1, hempty.2.1,
              hsplit, hsystem, (Except.ok.inj h).symm⟩
    · cases h
  · rintro ⟨arch, vendor, part, rest, name, version, system, hparts, harch, hvendor, hsplit,
      hsystem, rfl⟩
    have hpart : part ≠ [] := by
      rintro rfl
      cases hsplit
    simp only [hparts, harch, hvendor, hpart, or_self, if_false, hsplit, hsystem]
    rfl

/-- The texts that are accepted. -/
lemma exists_ofText_iff :
    (∃ triple, ofText text = .ok triple) ↔ ∃ ending, IsEnding ending ∧ IsTriple ending text := by
  simp only [ofText_eq_ok_iff]
  constructor
  · rintro ⟨-, arch, vendor, part, rest, name, version, system, hparts, harch, hvendor, hsplit,
      hsystem, -⟩
    obtain ⟨written, ending, hending, rfl, hwritten⟩ :=
      exists_splitSystem?_iff.1 ⟨name, version, system, hsplit, hsystem⟩
    exact ⟨ending, hending, arch, vendor, written, rest, hparts, harch, hvendor, hwritten.ne_nil,
      hwritten⟩
  · rintro ⟨ending, hending, arch, vendor, written, rest, hparts, harch, hvendor, -, hwritten⟩
    obtain ⟨name, version, system, hsplit, hsystem⟩ :=
      exists_splitSystem?_iff.2 ⟨written, ending, hending, rfl, hwritten⟩
    exact ⟨_, arch, vendor, _, rest, name, version, system, hparts, harch, hvendor, hsplit, hsystem,
      rfl⟩

/-- Systems are written in the characters of names and versions. -/
lemma IsSystem.notMem (h : IsSystem part) (hname : isSystemChar c = false)
    (hversion : isVersionChar c = false) : c ∉ part := by
  obtain ⟨name, hsystem, version, hgiven, rfl⟩ := h
  rw [List.mem_append, not_or]
  constructor
  · intro hmem
    rw [(isSystemChar_of_mem_systemNames name hsystem).2 c hmem] at hname
    cases hname
  · intro hmem
    rw [hgiven.isVersionChar hmem] at hversion
    cases hversion

/-- No text is a triple with and without a line feed behind the system. -/
lemma not_isTriple_lineFeed (h : IsTriple [] text) : ¬ IsTriple ['\n'] text := by
  rintro ⟨arch, vendor, system, rest, hparts, -, -, -, -⟩
  obtain ⟨arch', vendor', system', rest', hparts', -, -, -, hsystem'⟩ := h
  rw [hparts] at hparts'
  simp only [List.append_nil, List.cons.injEq] at hparts'
  refine hsystem'.notMem (c := '\n') (by decide) (by decide) ?_
  rw [← hparts'.2.2.1]
  simp

/-- What is read of a text, with dashes between, is the text but for a dash at the end. -/
lemma exists_parts_of_ofText {triple : Triple} (h : ofText text = .ok triple) :
    ∃ part rest ending,
      text.toList.splitOn '-' = triple.arch.toList :: triple.vendor.toList :: part :: rest ∧
        text.toList = ['-'].intercalate ([triple.arch.toList, triple.vendor.toList, part] ++
          triple.environment.toList.map String.toList) ++ ending ∧
        (ending = [] ∨ ending = ['-']) := by
  obtain ⟨arch, vendor, part, rest, name, version, system, hparts, -, -, -, -, rfl⟩ :=
    ofText_eq_ok_iff.1 h
  have htext : text.toList = ['-'].intercalate (arch :: vendor :: part :: rest) := by
    rw [← hparts, List.intercalate_splitOn]
  simp only [String.toList_ofList]
  cases rest with
  | nil => exact ⟨part, [], [], hparts, by simpa [environmentOf] using htext, .inl rfl⟩
  | cons first others =>
    have hwhole : text.toList =
        ['-'].intercalate [arch, vendor, part] ++ '-' :: ['-'].intercalate (first :: others) := by
      rw [htext]
      simp [List.intercalate_cons_cons]
    cases henvironment : ['-'].intercalate (first :: others) with
    | nil =>
      refine ⟨part, first :: others, ['-'], hparts, ?_, .inr rfl⟩
      simpa [environmentOf, henvironment] using hwhole
    | cons c cs =>
      refine ⟨part, first :: others, [], hparts, ?_, .inl rfl⟩
      rw [henvironment] at hwhole
      simpa [environmentOf, henvironment, List.intercalate_cons_cons] using hwhole

/-- **Which texts are triples.**  A text is accepted if it is a triple, or if it is one with a line
feed behind the system; so the triples are accepted and nothing else, unless it is such a text.
What is accepted can be put together again from the architecture, the vendor, the third part and the
environment, but for a dash at the end. -/
theorem ofText_accepts_iff (text : String) :
    ((∃ triple, ofText text = .ok triple) ↔ IsTriple [] text ∨ IsTriple ['\n'] text) ∧
      (((∃ triple, ofText text = .ok triple) ↔ IsTriple [] text) ↔ ¬ IsTriple ['\n'] text) ∧
      ∀ triple, ofText text = .ok triple → ∃ part rest ending,
        text.toList.splitOn '-' = triple.arch.toList :: triple.vendor.toList :: part :: rest ∧
          text.toList = ['-'].intercalate ([triple.arch.toList, triple.vendor.toList, part] ++
            triple.environment.toList.map String.toList) ++ ending ∧
          (ending = [] ∨ ending = ['-']) := by
  have haccepts : (∃ triple, ofText text = .ok triple) ↔
      IsTriple [] text ∨ IsTriple ['\n'] text := by
    rw [exists_ofText_iff]
    simp [IsEnding, or_and_right, exists_or]
  refine ⟨haccepts, ?_, fun triple => exists_parts_of_ofText⟩
  rw [haccepts]
  constructor
  · intro h hbreak
    exact not_isTriple_lineFeed (h.1 (.inr hbreak)) hbreak
  · intro hbreak
    exact or_iff_left hbreak

/-- A text with an alias, dots side by side and a dash at its end. -/
theorem ofText_accepts_iff_of_trailingDash :
    IsTriple [] "arm64-apple-darwin20..1.-" ∧
      (∃ triple, ofText "arm64-apple-darwin20..1.-" = .ok triple) ∧
      ∃ part rest ending,
        "arm64-apple-darwin20..1.-".toList.splitOn '-' =
            "arm64".toList :: "apple".toList :: part :: rest ∧
          "arm64-apple-darwin20..1.-".toList =
            ['-'].intercalate ["arm64".toList, "apple".toList, part] ++ ending ∧
          (ending = [] ∨ ending = ['-']) := by
  have hread : ofText "arm64-apple-darwin20..1.-" =
      .ok ⟨"arm64-apple-darwin20..1.-", "arm64", "apple", .macOS, ⟨20, 1, 0⟩, none⟩ := by
    decide +kernel
  have hsystem : IsSystem "darwin20..1.".toList :=
    ⟨"darwin", by decide, "20..1.".toList, by decide +kernel, by decide +kernel⟩
  have htriple : IsTriple [] "arm64-apple-darwin20..1.-" :=
    ⟨"arm64".toList, "apple".toList, "darwin20..1.".toList, [[]], by decide +kernel,
      by decide +kernel, by decide +kernel, hsystem.ne_nil, hsystem⟩
  obtain ⟨haccepts, -, hparts⟩ := ofText_accepts_iff "arm64-apple-darwin20..1.-"
  exact ⟨htriple, haccepts.2 (.inl htriple), hparts _ hread⟩

/-- A system with a line feed behind it is no system, but it is read as one. -/
theorem exists_lineFeed_accepted :
    ofText "x86_64-apple-macosx10.15\n" =
        .ok ⟨"x86_64-apple-macosx10.15\n", "x86_64", "apple", .macOS, ⟨10, 15, 0⟩, none⟩ ∧
      ¬ IsTriple [] "x86_64-apple-macosx10.15\n" := by
  refine ⟨by decide +kernel, fun htriple => not_isTriple_lineFeed htriple ?_⟩
  have hsystem : IsSystem "macosx10.15".toList :=
    ⟨"macosx", by decide, "10.15".toList, by decide +kernel, by decide +kernel⟩
  exact ⟨"x86_64".toList, "apple".toList, "macosx10.15".toList, [], by decide +kernel,
    by decide +kernel, by decide +kernel, hsystem.ne_nil, hsystem⟩

end Triple

end SwiftPlan
