import SwiftPlan.Proofs.LexicalPath
import SwiftPlan.Proofs.Triple.Grammar

/-!
# Versions read again

A version may be written in many ways: with zeros in front, with dots side by side, with more than
three numbers or with fewer, and not at all.  What is read of it is three numbers, and those are
displayed as three decimal numbers (`isNumeral_toDigits`), which are read as the same three again
(`ofChars_display`).

So a target can be written with the name of its system and the version that was settled on, and the
text is a triple for the same target (`ofText_versioned`).  The version that a system gets if none
was asked for is not zero, so it is not replaced again.
-/

namespace SwiftPlan

/-! ## Numbers -/

/-- A decimal number without zeros in front. -/
def IsNumeral (digits : List Char) : Prop :=
  digits ≠ [] ∧ (∀ c ∈ digits, c.isDigit = true) ∧ (digits.head? = some '0' → digits = ['0'])

namespace Version

lemma number_toDigits (n : Nat) : number (Nat.toDigits 10 n) = n :=
  Nat.ofDigitChars_ten_toDigits

lemma head?_toDigits (n : Nat) (h : (Nat.toDigits 10 n).head? = some '0') :
    Nat.toDigits 10 n = ['0'] := by
  induction n using Nat.strong_induction_on with
  | _ n ih =>
    rw [Nat.toDigits_eq_if (by decide)] at h ⊢
    split at h
    · next hsmall =>
      rw [if_pos hsmall]
      simpa using h
    · next hlarge =>
      -- The first digit of a longer number is that of a smaller one, which is not zero.
      rw [List.head?_append_of_ne_nil _ Nat.toDigits_ne_nil] at h
      have hfront := ih (n / 10) (by omega) h
      have hzero : n / 10 = 0 := by
        rw [← number_toDigits (n / 10), hfront]
        rfl
      omega

lemma isNumeral_toDigits (n : Nat) : IsNumeral (Nat.toDigits 10 n) :=
  ⟨Nat.toDigits_ne_nil, fun _ hc => Nat.isDigit_of_mem_toDigits (by decide) (by decide) hc,
    head?_toDigits n⟩

variable {version : Version}

/-! ## Display -/

/-- The three numbers of a version as they are displayed. -/
def numerals (version : Version) : List (List Char) :=
  version.numbers.map (Nat.toDigits 10)

lemma isNumeral_of_mem_numerals : ∀ numeral ∈ version.numerals, IsNumeral numeral := by
  intro numeral hnumeral
  obtain ⟨n, -, rfl⟩ := List.mem_map.1 hnumeral
  exact isNumeral_toDigits n

lemma map_number_numerals : version.numerals.map number = version.numbers := by
  rw [numerals, List.map_map]
  exact List.map_id'' number_toDigits _

lemma toList_display : version.display.toList = ['.'].intercalate version.numerals := by
  have hdot : ".".toList = ['.'] := rfl
  rw [display, String.toList_intercalate, hdot, numerals, List.map_map]
  congr 1
  exact List.map_congr_left fun n _ => String.toList_ofList

/-- What is displayed of a version is read as the version. -/
lemma ofChars_display : ofChars version.display.toList = version := by
  have hdot : ∀ numeral ∈ version.numerals, '.' ∉ numeral := fun numeral hnumeral hmem =>
    absurd ((isNumeral_of_mem_numerals numeral hnumeral).2.1 _ hmem) (by decide)
  have hne : ∀ numeral ∈ version.numerals, decide (numeral ≠ []) = true :=
    fun numeral hnumeral => decide_eq_true (isNumeral_of_mem_numerals numeral hnumeral).1
  rw [ofChars, toList_display, List.splitOn_intercalate _ hdot (List.cons_ne_nil _ _),
    List.filter_eq_self.2 hne, map_number_numerals]
  rfl

lemma display_injective {other : Version} (h : version.display = other.display) :
    version = other :=
  calc version = ofChars version.display.toList := ofChars_display.symm
    _ = ofChars other.display.toList := by rw [h]
    _ = other := ofChars_display

lemma toList_display_eq :
    version.display.toList = Nat.toDigits 10 version.major ++
      '.' :: (Nat.toDigits 10 version.minor ++ '.' :: Nat.toDigits 10 version.patch) := by
  simp [toList_display, numerals, numbers, List.intercalate_cons_cons]

/-- What is displayed of a version may stand behind the name of a system. -/
lemma isVersion_display : Triple.IsVersion version.display.toList := by
  have hdigit : ∀ n, ∀ c ∈ Nat.toDigits 10 n, c.isDigit = true := fun n =>
    (isNumeral_toDigits n).2.1
  rw [toList_display_eq]
  cases hmajor : Nat.toDigits 10 version.major with
  | nil => exact absurd hmajor Nat.toDigits_ne_nil
  | cons first others =>
    obtain ⟨hfirst, hothers⟩ := List.forall_mem_cons.1 (hmajor ▸ hdigit version.major)
    rw [List.cons_append]
    refine .given hfirst fun c hc => ?_
    simp only [List.mem_append, List.mem_cons] at hc
    rcases hc with hc | rfl | hc | rfl | hc
    · exact .inl (hothers c hc)
    · exact .inr rfl
    · exact .inl (hdigit _ c hc)
    · exact .inr rfl
    · exact .inl (hdigit _ c hc)

end Version

namespace Triple

variable {text : String} {triple : Triple}

/-! ## Deployment versions -/

lemma exists_defaultVersion?_of_darwin {system : OperatingSystem} (h : system.family = .darwin) :
    ∃ version, system.defaultVersion? = some version ∧ version ≠ .zero := by
  cases system <;> simp_all [OperatingSystem.defaultVersion?, OperatingSystem.family, Version.zero]

lemma defaultVersion?_of_elf {system : OperatingSystem} (h : system.family = .elf) :
    system.defaultVersion? = none := by
  cases system <;> simp_all [OperatingSystem.defaultVersion?, OperatingSystem.family]

lemma deployed_ne_zero {system : OperatingSystem} {asked : Version} (h : system.family = .darwin) :
    deployed system asked ≠ .zero := by
  obtain ⟨version, hdefault, hne⟩ := exists_defaultVersion?_of_darwin h
  rw [deployed, hdefault]
  split
  · exact hne
  · assumption

/-- The version that is settled on stays. -/
lemma deployed_deployed (system : OperatingSystem) (asked : Version) :
    deployed system (deployed system asked) = deployed system asked := by
  cases hfamily : system.family with
  | darwin => exact if_neg (deployed_ne_zero hfamily)
  | elf =>
    have hasked : ∀ version, deployed system version = version := by
      simp [deployed, defaultVersion?_of_elf hfamily]
    rw [hasked, hasked]

/-! ## Targets written again -/

/-- A target with the usual name of its system and the version that was settled on. -/
def versioned (triple : Triple) : String :=
  triple.arch ++ "-" ++ triple.vendor ++ "-" ++ triple.system.name ++ triple.version.display ++
    match triple.environment with
    | none => ""
    | some environment => "-" ++ environment

/-- The parts of an environment. -/
def environmentParts (environment : Option String) : List (List Char) :=
  match environment with
  | none => []
  | some environment => environment.toList.splitOn '-'

/-- An environment that was read of a text is read again of its parts. -/
lemma environmentOf_environmentParts (parts : List (List Char)) :
    environmentOf (environmentParts (environmentOf parts)) = environmentOf parts := by
  cases hwhole : ['-'].intercalate parts with
  | nil => simp [environmentOf, environmentParts, hwhole]
  | cons c cs => simp [environmentOf, environmentParts, hwhole, List.intercalate_splitOn]

lemma isSystem_versioned (system : OperatingSystem) (version : Version) :
    IsSystem (system.name.toList ++ version.display.toList) :=
  ⟨system.name, name_mem_systemNames system, version.display.toList, Version.isVersion_display,
    rfl⟩

lemma splitSystem?_versioned (system : OperatingSystem) (version : Version) :
    splitSystem? (system.name.toList ++ version.display.toList) =
      some (system.name.toList, version.display.toList) := by
  obtain ⟨hne, hchars⟩ := isSystemChar_of_mem_systemNames system.name (name_mem_systemNames system)
  exact splitSystem?_eq_some_iff.2
    ⟨[], .inl rfl, (List.append_nil _).symm, hne, hchars, Version.isVersion_display⟩

lemma splitOn_versioned (harch : '-' ∉ triple.arch.toList) (hvendor : '-' ∉ triple.vendor.toList) :
    triple.versioned.toList.splitOn '-' =
      triple.arch.toList :: triple.vendor.toList ::
        (triple.system.name.toList ++ triple.version.display.toList) ::
          environmentParts triple.environment := by
  have hsystem := (isSystem_versioned triple.system triple.version).notMem (c := '-') (by decide)
    (by decide)
  have htext : triple.versioned.toList = triple.arch.toList ++ '-' :: (triple.vendor.toList ++
      '-' :: (triple.system.name.toList ++ triple.version.display.toList ++
        match triple.environment with
        | none => []
        | some environment => '-' :: environment.toList)) := by
    cases henvironment : triple.environment <;> simp [versioned, henvironment]
  rw [htext, List.splitOn_append_cons_self, List.splitOn_append_cons_self,
    List.splitOn_eq_singleton harch, List.splitOn_eq_singleton hvendor]
  cases triple.environment with
  | none => simp [List.splitOn_eq_singleton hsystem, environmentParts]
  | some environment =>
    simp only [List.splitOn_append_cons_self, List.splitOn_eq_singleton hsystem, environmentParts]
    rfl

/-- A target that is written with its version is read as the same target. -/
lemma ofText_versioned_of_ofText (h : ofText text = .ok triple) :
    ofText triple.versioned = .ok { triple with text := triple.versioned } := by
  obtain ⟨arch, vendor, part, rest, name, version, system, hparts, harch, hvendor, -, -, rfl⟩ :=
    ofText_eq_ok_iff.1 h
  have hdash : ∀ piece ∈ arch :: vendor :: part :: rest, '-' ∉ piece :=
    hparts ▸ LexicalPath.notMem_of_mem_splitOn
  simp only [List.forall_mem_cons] at hdash
  set settled := deployed system (Version.ofChars version) with hsettled
  refine ofText_eq_ok_iff.2 ⟨arch, vendor, system.name.toList ++ settled.display.toList,
    environmentParts (environmentOf rest), system.name.toList, settled.display.toList, system,
    ?_, harch, hvendor, splitSystem?_versioned system settled, ?_, ?_⟩
  · rw [splitOn_versioned]
    all_goals simp [hdash]
  · rw [String.ofList_toList, OperatingSystem.ofName?_name]
  · rw [Version.ofChars_display, hsettled, deployed_deployed, environmentOf_environmentParts]

/-- What is displayed of the version of a target of the Darwin family is not zero. -/
lemma display_ne_of_isDarwin (h : ofText text = .ok triple) (hdarwin : triple.isDarwin = true) :
    triple.version.display ≠ "0.0.0" := by
  obtain ⟨arch, vendor, part, rest, name, version, system, -, -, -, -, -, rfl⟩ :=
    ofText_eq_ok_iff.1 h
  have hzero : Version.zero.display = "0.0.0" := by decide +kernel
  rw [← hzero]
  exact fun heq => deployed_ne_zero (by simpa [isDarwin, family] using hdarwin)
    (Version.display_injective heq)

/-- **Versions read again.**  Write a target that was read with the usual name of its system and the
three numbers of its version: what is read of that is the same target, with the same platform and the
same option for the linker.  The three numbers are decimal numbers without zeros in front, and not
all of them are zero if the target belongs to the Darwin family. -/
theorem ofText_versioned (h : ofText text = .ok triple) :
    (∃ again, ofText triple.versioned = .ok again ∧ again.arch = triple.arch ∧
        again.vendor = triple.vendor ∧ again.system = triple.system ∧
        again.version = triple.version ∧ again.environment = triple.environment ∧
        again.family = triple.family ∧ again.version.display = triple.version.display ∧
        again.minimumVersionFlag? = triple.minimumVersionFlag?) ∧
      (∃ major minor patch, IsNumeral major ∧ IsNumeral minor ∧ IsNumeral patch ∧
        triple.version.display.toList = major ++ '.' :: (minor ++ '.' :: patch) ∧
        [major, minor, patch].map Version.number = triple.version.numbers) ∧
      (triple.isDarwin = true → triple.version.display ≠ "0.0.0") := by
  refine ⟨?_, ?_, display_ne_of_isDarwin h⟩
  · exact ⟨_, ofText_versioned_of_ofText h, rfl, rfl, rfl, rfl, rfl, rfl, rfl, rfl⟩
  · refine ⟨Nat.toDigits 10 triple.version.major, Nat.toDigits 10 triple.version.minor,
      Nat.toDigits 10 triple.version.patch, ?_, ?_, ?_, Version.toList_display_eq,
      Version.map_number_numerals⟩
    all_goals exact Version.isNumeral_toDigits _

/-- A version with zeros in front, dots side by side and a number too many, an environment that
starts with a dash, and a system under another name. -/
theorem ofText_versioned_of_crowdedVersion :
    ofText "x86_64-apple-darwin0010..05.007.9--simulator-" =
        .ok ⟨"x86_64-apple-darwin0010..05.007.9--simulator-", "x86_64", "apple", .macOS,
          ⟨10, 5, 7⟩, some "-simulator-"⟩ ∧
      ∃ again, ofText "x86_64-apple-macosx10.5.7--simulator-" = .ok again ∧
        again.version = ⟨10, 5, 7⟩ ∧ again.version.display ≠ "0.0.0" ∧
        again.environment = some "-simulator-" := by
  have hread : ofText "x86_64-apple-darwin0010..05.007.9--simulator-" =
      .ok ⟨"x86_64-apple-darwin0010..05.007.9--simulator-", "x86_64", "apple", .macOS,
        ⟨10, 5, 7⟩, some "-simulator-"⟩ := by
    decide +kernel
  refine ⟨hread, ?_⟩
  obtain ⟨⟨again, hagain, -, -, -, hversion, henvironment, -, hdisplay, -⟩, -, hnonzero⟩ :=
    ofText_versioned hread
  exact ⟨again, hagain, hversion, hdisplay ▸ hnonzero (by decide), henvironment⟩

end Triple

end SwiftPlan
