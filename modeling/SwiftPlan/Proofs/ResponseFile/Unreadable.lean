import SwiftPlan.Proofs.ResponseFile.Cycle

/-!
# References that cannot be followed

An argument `@name` is meant to stay as it is if there is no text of that name, because linkers give
such arguments a meaning of their own, and only files that can be read are meant to be noted as
leading back.  `Expands` says what comes of arguments by these rules.

Expansion asks in another order.  Whether a reference leads back is a question about the place that
the name denotes, and it is asked first; whether there is a text is found out by a walk along the
name.  The two may disagree: the name `missing/../args` denotes the place of `args`, but the walk
does not get past the directory that is missing.  While `args` is being expanded, such a reference
is noted and dropped.

An active place holds a text, so the names in question are those on which the walk itself fails
(`readable_iff_not_detours`); the name of a directory, or of a file that holds no text, is never
taken for an active file.  Where a reference is not a name at all, there is no walk, and expansion
ends.  Nothing else can happen to a reference that cannot be followed: expansion follows the rules
exactly if it meets no detour to an active file and nothing but names (`keeps_unreadable_iff`).
-/

namespace SwiftPlan

namespace FileSystem

/-- The walk along a name fails: it leaves something that is missing or is a file. -/
def Detours (fs : FileSystem) (name : String) : Prop :=
  ∃ error, fs.walk (fs.start name) (LexicalPath.components name.toList) = .error error

variable {fs : FileSystem} {name : String} {text : List Char}

/-- A text is read by each name that denotes its place, unless the walk along the name fails. -/
lemma readText?_eq_some_iff_not_detours (hproper : fs.isName name = true)
    (h : fs.textAt? (fs.locate name) = some text) :
    fs.readText? name = some text ↔ ¬ fs.Detours name := by
  obtain ⟨content, hcontent, hdecode⟩ := textAt?_eq_some.1 h
  cases hwalk : fs.walk (fs.start name) (LexicalPath.components name.toList) with
  | error error => simp [readText?, read, Detours, hproper, hwalk]
  | ok place =>
    obtain rfl : place = fs.locate name := walk_eq_ok hwalk
    simp [readText?, read, Detours, hproper, hwalk, entry, hcontent, hdecode]

end FileSystem

namespace ResponseFile

/-- What comes of arguments if a reference that cannot be followed stays as it is, whatever files
are being expanded, and only one that can be followed is noted. -/
inductive Expands (fs : FileSystem) :
    List Location → List String → Diagnosed (List String) → Prop where
  | nil {active : List Location} : Expands fs active [] (pure [])
  | kept {active : List Location} {argument : String} {rest : List String}
      {outer : Diagnosed (List String)}
      (hkept : (Text.after? "@" argument).bind fs.readText? = none)
      (hrest : Expands fs active rest outer) :
      Expands fs active (argument :: rest) ((argument :: ·) <$> outer)
  | noted {active : List Location} {argument name : String} {rest : List String}
      {outer : Diagnosed (List String)} (hname : Text.after? "@" argument = some name)
      (hreadable : Readable fs name) (hactive : fs.locate name ∈ active)
      (hrest : Expands fs active rest outer) :
      Expands fs active (argument :: rest) (do
        Diagnosed.note (.responseFileCycle name)
        outer)
  | replaced {active : List Location} {argument name : String} {rest words : List String}
      {text : List Char} {inner outer : Diagnosed (List String)}
      (hname : Text.after? "@" argument = some name) (hactive : fs.locate name ∉ active)
      (hread : fs.readText? name = some text) (hwords : tokens text = .ok words)
      (hinner : Expands fs (fs.locate name :: active) words inner)
      (hrest : ∀ front, inner.outcome = .ok front → Expands fs active rest outer) :
      Expands fs active (argument :: rest) (do
        let front ← inner
        let back ← outer
        return front ++ back)
  | refused {active : List Location} {argument name : String} {rest : List String}
      {text : List Char} {position : TextPosition} (hname : Text.after? "@" argument = some name)
      (hactive : fs.locate name ∉ active) (hread : fs.readText? name = some text)
      (hwords : tokens text = .error position) :
      Expands fs active (argument :: rest) (Diagnosed.fail (.unexpectedBlank position))

/-- An argument is met when expansion comes to it, among the arguments that it begins with or in a
file.  The first two lists are the active places and the arguments to begin with; `active'` are the
places that are active at that moment. -/
inductive Encounters (fs : FileSystem) :
    List Location → List String → List Location → String → Prop where
  | here {active : List Location} {argument : String} {rest : List String} :
      Encounters fs active (argument :: rest) active argument
  | later {active active' : List Location} {argument met : String} {rest front : List String}
      (hfront : (expandIn fs active [argument]).outcome = .ok front)
      (hrest : Encounters fs active rest active' met) :
      Encounters fs active (argument :: rest) active' met
  | inside {active active' : List Location} {argument name met : String}
      {rest words : List String} {text : List Char}
      (hname : Text.after? "@" argument = some name) (hactive : fs.locate name ∉ active)
      (hread : fs.readText? name = some text) (hwords : tokens text = .ok words)
      (hinside : Encounters fs (fs.locate name :: active) words active' met) :
      Encounters fs active (argument :: rest) active' met

/-- A reference is met that denotes an active place by a detour. -/
def Strays (fs : FileSystem) (active : List Location) (arguments : List String) : Prop :=
  ∃ active' name, Encounters fs active arguments active' ("@" ++ name) ∧
    fs.isName name = true ∧ fs.locate name ∈ active' ∧ fs.Detours name

/-- A reference is met that is not a name. -/
def Stumbles (fs : FileSystem) (active : List Location) (arguments : List String) : Prop :=
  ∃ active' name, Encounters fs active arguments active' ("@" ++ name) ∧ fs.isName name = false

/-- There is a text at every active place. -/
def HoldTexts (fs : FileSystem) (active : List Location) : Prop :=
  ∀ place ∈ active, ∃ text, fs.textAt? place = some text

variable {fs : FileSystem} {active active' : List Location} {arguments rest front : List String}
  {argument name met : String} {words : List String} {text : List Char}
  {result : Diagnosed (List String)}

/-! ## Active places -/

lemma HoldTexts.cons (h : HoldTexts fs active) (hread : fs.readText? name = some text) :
    HoldTexts fs (fs.locate name :: active) :=
  List.forall_mem_cons.2 ⟨⟨text, FileSystem.textAt?_locate hread⟩, h⟩

/-- Files become active when their texts have been read. -/
lemma Encounters.holdTexts (h : Encounters fs active arguments active' met)
    (hactive : HoldTexts fs active) : HoldTexts fs active' := by
  induction h with
  | here => exact hactive
  | later _ _ ih => exact ih hactive
  | inside _ _ hread _ _ ih => exact ih (hactive.cons hread)

/-- A name that denotes an active place can be read unless it takes a detour. -/
lemma readable_iff_not_detours (hactive : HoldTexts fs active) (hproper : fs.isName name = true)
    (h : fs.locate name ∈ active) : Readable fs name ↔ ¬ fs.Detours name := by
  obtain ⟨text, htext⟩ := hactive _ h
  rw [← FileSystem.readText?_eq_some_iff_not_detours hproper htext]
  constructor
  · intro hreadable
    obtain ⟨other, hother⟩ := Option.isSome_iff_exists.1 hreadable
    obtain rfl : text = other :=
      Option.some.inj (htext.symm.trans (FileSystem.textAt?_locate hother))
    exact hother
  · exact readable_of_readText?

/-! ## What is met -/

lemma outcome_word (hword : Text.after? "@" argument = none) :
    (expandIn fs active [argument]).outcome = .ok [argument] := by
  rw [expandIn_word hword, expandIn_nil]
  rfl

section

variable (hname : Text.after? "@" argument = some name)

include hname

lemma outcome_active (hproper : fs.isName name = true) (hactive : fs.locate name ∈ active) :
    (expandIn fs active [argument]).outcome = .ok [] := by
  rw [expandIn_active hname hproper hactive, expandIn_nil]
  rfl

lemma outcome_unreadable (hproper : fs.isName name = true) (hactive : fs.locate name ∉ active)
    (hread : fs.readText? name = none) :
    (expandIn fs active [argument]).outcome = .ok [argument] := by
  rw [expandIn_unreadable hname hproper hactive hread, expandIn_nil]
  rfl

lemma outcome_splittable (hactive : fs.locate name ∉ active) (hread : fs.readText? name = some text)
    (hwords : tokens text = .ok words)
    (hfront : (expandIn fs (fs.locate name :: active) words).outcome = .ok front) :
    (expandIn fs active [argument]).outcome = .ok (front ++ []) := by
  rw [expandIn_splittable hname hactive hread hwords, expandIn_nil]
  simp only [Diagnosed.outcome_bind_eq_ok]
  exact ⟨front, hfront, [], rfl, rfl⟩

end

/-- Whatever is noted is met, and leads back. -/
lemma encounters_of_noted (h : .responseFileCycle met ∈ (expandIn fs active arguments).notices) :
    ∃ active', Encounters fs active arguments active' ("@" ++ met) ∧ fs.isName met = true ∧
      fs.locate met ∈ active' := by
  induction active, arguments using expandIn.induct fs with
  | case1 active => simp at h
  | case2 active argument rest hword ih =>
    rw [expandIn_word hword, map_eq_pure_bind, Diagnosed.mem_notices_bind] at h
    obtain ⟨active', hmet, hback⟩ := ih (h.resolve_right (by simp))
    exact ⟨active', .later (outcome_word hword) hmet, hback⟩
  | case3 active argument rest name hname hproper hactive ih =>
    rw [expandIn_active hname hproper hactive, Diagnosed.mem_notices_bind] at h
    rcases h with hnote | ⟨-, -, hrest⟩
    · obtain rfl := Notice.responseFileCycle.inj (List.mem_singleton.1 hnote)
      obtain rfl := Text.after?_eq_some_iff.1 hname
      exact ⟨active, .here, hproper, hactive⟩
    · obtain ⟨active', hmet, hback⟩ := ih hrest
      exact ⟨active', .later (outcome_active hname hproper hactive) hmet, hback⟩
  | case4 active argument rest name hname hproper hactive hread ih =>
    rw [expandIn_unreadable hname hproper hactive hread, map_eq_pure_bind,
      Diagnosed.mem_notices_bind] at h
    obtain ⟨active', hmet, hback⟩ := ih (h.resolve_right (by simp))
    exact ⟨active', .later (outcome_unreadable hname hproper hactive hread) hmet, hback⟩
  | case5 active argument rest name hname _ hactive text hread _ ihinner ihouter =>
    rw [expandIn_file hname hactive hread] at h
    simp only [Diagnosed.mem_notices_bind] at h
    rcases h with hsplit | ⟨words, hsplit, hinner | ⟨inner, hfront, houter | ⟨outer, -, hnone⟩⟩⟩
    · exact absurd hsplit List.not_mem_nil
    · obtain ⟨active', hmet, hback⟩ := ihinner words hinner
      exact ⟨active', .inside hname hactive hread (mapError_eq_ok.1 hsplit) hmet, hback⟩
    · obtain ⟨active', hmet, hback⟩ := ihouter houter
      have hone := outcome_splittable hname hactive hread (mapError_eq_ok.1 hsplit) hfront
      exact ⟨active', .later hone hmet, hback⟩
    · exact absurd hnone List.not_mem_nil
  | case6 active argument rest name hname himproper =>
    rw [expandIn_improper hname (by simpa using himproper)] at h
    exact absurd h List.not_mem_nil

/-! ## Expansion without detours -/

/-- What is met if no detour to an active file is met and nothing but names. -/
lemma met_of_not_strays (hstray : ¬ Strays fs active arguments)
    (hnames : ¬ Stumbles fs active arguments)
    (hmet : Encounters fs active arguments active' ("@" ++ name)) :
    fs.isName name = true ∧ (fs.locate name ∈ active' → ¬ fs.Detours name) := by
  have hproper : fs.isName name = true := by
    rw [← Bool.not_eq_false]
    exact fun himproper => hnames ⟨active', name, hmet, himproper⟩
  exact ⟨hproper, fun hmem hdetour => hstray ⟨active', name, hmet, hproper, hmem, hdetour⟩⟩

/-- Expansion follows the rules if references to active files take no detours. -/
lemma expands_of_forall_met (hactive : HoldTexts fs active)
    (h : ∀ active' name, Encounters fs active arguments active' ("@" ++ name) →
      fs.isName name = true ∧ (fs.locate name ∈ active' → ¬ fs.Detours name)) :
    Expands fs active arguments (expandIn fs active arguments) := by
  induction active, arguments using expandIn.induct fs with
  | case1 active =>
    rw [expandIn_nil]
    exact .nil
  | case2 active argument rest hword ih =>
    rw [expandIn_word hword]
    exact .kept (by rw [hword, Option.bind_none])
      (ih hactive fun _ _ hmet => h _ _ (.later (outcome_word hword) hmet))
  | case3 active argument rest name hname hproper hmem ih =>
    have hfront := outcome_active hname hproper hmem
    have hreadable : Readable fs name := by
      obtain rfl := Text.after?_eq_some_iff.1 hname
      exact (readable_iff_not_detours hactive hproper hmem).2 ((h active name .here).2 hmem)
    rw [expandIn_active hname hproper hmem]
    exact .noted hname hreadable hmem (ih hactive fun _ _ hmet => h _ _ (.later hfront hmet))
  | case4 active argument rest name hname hproper hmem hread ih =>
    have hfront := outcome_unreadable hname hproper hmem hread
    rw [expandIn_unreadable hname hproper hmem hread]
    exact .kept (by rw [hname, Option.bind_some, hread])
      (ih hactive fun _ _ hmet => h _ _ (.later hfront hmet))
  | case5 active argument rest name hname _ hmem text hread _ ihinner ihouter =>
    cases hwords : tokens text with
    | error position =>
      rw [expandIn_unsplittable hname hmem hread hwords]
      exact .refused hname hmem hread hwords
    | ok words =>
      have hinner := ihinner words (hactive.cons hread) fun _ _ hmet =>
        h _ _ (.inside hname hmem hread hwords hmet)
      rw [expandIn_splittable hname hmem hread hwords]
      refine .replaced hname hmem hread hwords hinner fun front hfront => ?_
      have hone := outcome_splittable hname hmem hread hwords hfront
      exact ihouter hactive fun _ _ hmet => h _ _ (.later hone hmet)
  | case6 active argument rest name hname himproper =>
    obtain rfl := Text.after?_eq_some_iff.1 hname
    exact absurd (h active name .here).1 himproper

/-- By the rules, only files that can be read are noted. -/
lemma Expands.readable (h : Expands fs active arguments result)
    (hnoted : .responseFileCycle name ∈ result.notices) : Readable fs name := by
  induction h with
  | nil => simp at hnoted
  | kept _ _ ih =>
    rw [map_eq_pure_bind, Diagnosed.mem_notices_bind] at hnoted
    exact ih (hnoted.resolve_right (by simp))
  | noted hname hreadable _ _ ih =>
    rcases Diagnosed.mem_notices_bind.1 hnoted with hnote | ⟨-, -, hlater⟩
    · obtain rfl := Notice.responseFileCycle.inj (List.mem_singleton.1 hnote)
      exact hreadable
    · exact ih hlater
  | replaced _ _ _ _ _ _ ihinner ihrest =>
    simp only [Diagnosed.mem_notices_bind] at hnoted
    rcases hnoted with hinner | ⟨front, hfront, houter | ⟨back, -, hnone⟩⟩
    · exact ihinner hinner
    · exact ihrest front hfront houter
    · exact absurd hnone List.not_mem_nil
  | refused => exact absurd hnoted List.not_mem_nil

/-- By the rules, an expansion fails only where a text is refused. -/
lemma Expands.ne_notText (h : Expands fs active arguments result) :
    result.outcome ≠ .error .notText := by
  induction h with
  | nil => simp
  | kept _ _ ih =>
    rw [map_eq_pure_bind, ne_eq, Diagnosed.outcome_bind_eq_error]
    rintro (hfails | ⟨_, _, hnone⟩)
    · exact ih hfails
    · cases hnone
  | noted _ _ _ _ ih => exact ih
  | replaced _ _ _ _ _ _ ihinner ihrest =>
    simp only [ne_eq, Diagnosed.outcome_bind_eq_error]
    rintro (hinner | ⟨front, hfront, houter | ⟨_, _, hnone⟩⟩)
    · exact ihinner hinner
    · exact ihrest front hfront houter
    · cases hnone
  | refused => simp [Diagnosed.fail]

/-- Whatever leads back is noted where it is met. -/
lemma Encounters.noted (h : Encounters fs active arguments active' ("@" ++ name))
    (hproper : fs.isName name = true) (hmem : fs.locate name ∈ active') :
    .responseFileCycle name ∈ (expandIn fs active arguments).notices := by
  generalize hmet : "@" ++ name = met at h
  induction h with
  | here =>
    rw [expandIn_active (Text.after?_eq_some_iff.2 hmet.symm) hproper hmem,
      Diagnosed.mem_notices_bind]
    exact .inl List.mem_cons_self
  | @later active _ argument _ rest front hfront _ ih =>
    rw [← List.singleton_append, expandIn_append]
    simp only [Diagnosed.mem_notices_bind]
    exact .inr ⟨front, hfront, .inl (ih hmem hmet)⟩
  | inside hname hactive hread hwords _ ih =>
    rw [expandIn_splittable hname hactive hread hwords, Diagnosed.mem_notices_bind]
    exact .inl (ih hmem hmet)

/-- Expansion ends where it meets what is not a name. -/
lemma Encounters.ends (h : Encounters fs active arguments active' ("@" ++ name))
    (himproper : fs.isName name = false) :
    (expandIn fs active arguments).outcome = .error .notText := by
  generalize hmet : "@" ++ name = met at h
  induction h with
  | here =>
    rw [expandIn_improper (Text.after?_eq_some_iff.2 hmet.symm) himproper]
    rfl
  | @later active _ argument _ rest front hfront _ ih =>
    rw [← List.singleton_append, expandIn_append]
    simp only [Diagnosed.outcome_bind_eq_error]
    exact .inr ⟨front, hfront, .inl (ih hmet)⟩
  | inside hname hactive hread hwords _ ih =>
    rw [expandIn_splittable hname hactive hread hwords, Diagnosed.outcome_bind_eq_error]
    exact .inl (ih hmet)

/-! ## What is kept -/

/-- The argument stands for itself at its place, and nothing is noted for it. -/
def Stays (fs : FileSystem) (active : List Location) (argument : String) : Prop :=
  ∀ rest, expandIn fs active (argument :: rest) = (argument :: ·) <$> expandIn fs active rest

/-- A reference that cannot be followed stays if it is a name, unless it denotes an active place. -/
lemma stays_iff (h : ¬ Readable fs name) :
    Stays fs active ("@" ++ name) ↔ fs.isName name = true ∧ fs.locate name ∉ active := by
  have hname : Text.after? "@" ("@" ++ name) = some name := Text.after?_eq_some_iff.2 rfl
  constructor
  · intro hstays
    have halone := hstays []
    rw [expandIn_nil, map_pure] at halone
    cases hproper : fs.isName name with
    | false =>
      rw [expandIn_improper hname hproper] at halone
      cases congrArg Diagnosed.outcome halone
    | true =>
      refine ⟨rfl, fun hmem => ?_⟩
      rw [expandIn_active hname hproper hmem, expandIn_nil] at halone
      exact absurd (congrArg Diagnosed.notices halone) (List.cons_ne_nil _ _)
  · rintro ⟨hproper, hmem⟩ rest
    exact expandIn_unreadable hname hproper hmem (Option.not_isSome_iff_eq_none.1 h)

/-- What is not a name cannot be followed. -/
lemma not_readable_of_improper (h : fs.isName name = false) : ¬ Readable fs name := by
  intro hreadable
  obtain ⟨text, hread⟩ := Option.isSome_iff_exists.1 hreadable
  rw [FileSystem.isName_of_readText? hread] at h
  cases h

/-- **References that cannot be followed stay, but for detours.**  Expansion keeps every reference
that cannot be followed at its place and notes nothing for it, whatever files are being expanded,
exactly if it never meets a reference that denotes the place of one of these files by a detour, and
never one that is not a name.  Under the same condition what comes of the arguments is what the
rules say.  Only files that can be read are noted exactly if no detour is met. -/
theorem keeps_unreadable_iff (fs : FileSystem) (arguments : List String) :
    ((∀ active name, Encounters fs [] arguments active ("@" ++ name) → ¬ Readable fs name →
        Stays fs active ("@" ++ name)) ↔ ¬ Strays fs [] arguments ∧ ¬ Stumbles fs [] arguments) ∧
      ((∀ name, .responseFileCycle name ∈ (expand fs arguments).notices → Readable fs name) ↔
        ¬ Strays fs [] arguments) ∧
      (Expands fs [] arguments (expand fs arguments) ↔
        ¬ Strays fs [] arguments ∧ ¬ Stumbles fs [] arguments) := by
  have hnone : HoldTexts fs [] := List.forall_mem_nil _
  have hnoted : (∀ name, .responseFileCycle name ∈ (expand fs arguments).notices →
      Readable fs name) → ¬ Strays fs [] arguments := by
    rintro hreadable ⟨active, name, hmet, hproper, hmem, hdetour⟩
    exact (readable_iff_not_detours (hmet.holdTexts hnone) hproper hmem).1
      (hreadable name (hmet.noted hproper hmem)) hdetour
  refine ⟨⟨fun hstays => ⟨?_, ?_⟩, ?_⟩, ⟨hnoted, ?_⟩, ⟨fun hexpands => ⟨?_, ?_⟩, ?_⟩⟩
  · rintro ⟨active, name, hmet, hproper, hmem, hdetour⟩
    have hunreadable : ¬ Readable fs name := fun hreadable =>
      (readable_iff_not_detours (hmet.holdTexts hnone) hproper hmem).1 hreadable hdetour
    exact ((stays_iff hunreadable).1 (hstays active name hmet hunreadable)).2 hmem
  · rintro ⟨active, name, hmet, himproper⟩
    have hunreadable := not_readable_of_improper himproper
    have hproper := ((stays_iff hunreadable).1 (hstays active name hmet hunreadable)).1
    rw [himproper] at hproper
    cases hproper
  · rintro ⟨hstray, hnames⟩ active name hmet hunreadable
    obtain ⟨hproper, hdirect⟩ := met_of_not_strays hstray hnames hmet
    refine (stays_iff hunreadable).2 ⟨hproper, fun hmem => hunreadable ?_⟩
    exact (readable_iff_not_detours (hmet.holdTexts hnone) hproper hmem).2 (hdirect hmem)
  · intro hstray name hname
    obtain ⟨active, hmet, hproper, hmem⟩ := encounters_of_noted hname
    refine (readable_iff_not_detours (hmet.holdTexts hnone) hproper hmem).2 fun hdetour => ?_
    exact hstray ⟨active, name, hmet, hproper, hmem, hdetour⟩
  · exact hnoted fun name hname => hexpands.readable hname
  · rintro ⟨active, name, hmet, himproper⟩
    exact hexpands.ne_notText (hmet.ends himproper)
  · exact fun ⟨hstray, hnames⟩ => expands_of_forall_met hnone fun _ _ hmet =>
      met_of_not_strays hstray hnames hmet

/-- A file that refers to its own place by a name that leads through a missing directory. -/
def roundabout : FileSystem :=
  .ofFiles "/work" [("f", "a.swift @missing/../f".toUTF8)]

/-- The reference cannot be followed, and by the rules it stays; but it is noted and dropped. -/
theorem exists_unreadable_noted :
    ¬ Readable roundabout "missing/../f" ∧
      Expands roundabout [] ["@f"] (pure ["a.swift", "@missing/../f"]) ∧
      expand roundabout ["@f"] = ⟨[.responseFileCycle "missing/../f"], .ok ["a.swift"]⟩ := by
  have hread : roundabout.readText? "f" = some "a.swift @missing/../f".toList := by
    decide +kernel
  have hwords : tokens "a.swift @missing/../f".toList = .ok ["a.swift", "@missing/../f"] := by
    decide +kernel
  have hname : Text.after? "@" "@f" = some "f" := by decide +kernel
  have hback : Text.after? "@" "@missing/../f" = some "missing/../f" := by decide +kernel
  refine ⟨by decide +kernel, ?_, ?_⟩
  · have hinside : Expands roundabout [roundabout.locate "f"] ["a.swift", "@missing/../f"]
        (pure ["a.swift", "@missing/../f"]) :=
      .kept (by decide +kernel) (.kept (by decide +kernel) .nil)
    exact .replaced hname List.not_mem_nil hread hwords hinside fun _ _ => .nil
  · rw [expand, expandIn_splittable hname List.not_mem_nil hread hwords,
      expandIn_word (by decide +kernel), expandIn_active hback rfl (by decide +kernel),
      expandIn_nil, expandIn_nil]
    rfl

end ResponseFile

end SwiftPlan
