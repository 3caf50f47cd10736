import SwiftPlan.Proofs.ResponseFile.Reference

/-!
# Cycles of response files

Expansion keeps the places of the files that it is in the middle of, and notes a reference to one of
them instead of following it.  If nothing is noted, keeping them made no difference: the arguments
are what comes of replacing every reference by the contents of its file, again and again
(`splice?`).

Expansion can fail on what it comes to, which is set aside here: the files that it comes to can be
split, and references are by names that files may have (`ProperNames`).

The places in the middle of which expansion stands are those of a walk along readable references
from the arguments.  So something is noted exactly if such a walk comes to a file that refers back
to a place on it (`quiet_iff_not_comesBack`).  The reference that leads back need not be one that
can be followed, because whether a place is on the walk is asked first.  Hence two conditions that
are easier to state: without any cycle of references nothing is noted, and with a cycle of readable
references something is (`expand_splices_unless_circular`).
-/

namespace SwiftPlan.ResponseFile

/-- References are replaced by the contents of their files without keeping account of the files that
this is in the middle of. -/
inductive Splices (fs : FileSystem) : List String → List String → Prop where
  | nil : Splices fs [] []
  | word {argument : String} {rest outer : List String}
      (hword : (Text.after? "@" argument).bind fs.readText? = none)
      (hrest : Splices fs rest outer) : Splices fs (argument :: rest) (argument :: outer)
  | file {argument : String} {rest words inner outer : List String} {text : List Char}
      (htext : (Text.after? "@" argument).bind fs.readText? = some text)
      (hwords : tokens text = .ok words) (hinner : Splices fs words inner)
      (hrest : Splices fs rest outer) : Splices fs (argument :: rest) (inner ++ outer)

open Classical in
/-- What comes of replacing references without keeping account of files. There is no result if this
never ends, or if a file cannot be split. -/
noncomputable def splice? (fs : FileSystem) (arguments : List String) : Option (List String) :=
  if h : ∃ expanded, Splices fs arguments expanded then some h.choose else none

/-- If there is a text at the place, it can be split into arguments. -/
def Splits (fs : FileSystem) (place : Location) : Prop :=
  ∀ text, fs.textAt? place = some text → ∃ words, tokens text = .ok words

/-- Expansion succeeds and notes nothing. -/
def Quiet (fs : FileSystem) (active : List Location) (arguments : List String) : Prop :=
  ∃ expanded, expandIn fs active arguments = pure expanded

/-- A walk along readable references comes to a file that refers back to a place on the walk. -/
def ComesBack (fs : FileSystem) (arguments : List String) : Prop :=
  ∃ place last, Reaches fs (Readable fs) arguments place ∧
    Relation.ReflTransGen (Refers fs (Readable fs)) place last ∧ Refers fs AnyName last place

/-- A reference to the place is met among the arguments or in a file that they lead to. -/
def Meets (fs : FileSystem) (arguments : List String) (place : Location) : Prop :=
  ∃ name, Mentions fs arguments name ∧ fs.locate name = place

variable {fs : FileSystem} {active : List Location} {arguments rest words expanded : List String}
  {argument name : String} {text : List Char} {place last : Location}

/-! ## Success -/

/-- Every file can be split if those of the file system can. -/
lemma splits_of_all
    (h : (fs.files.all fun file =>
      (FileSystem.decode? file.2).all fun text => (tokens text).isOk) = true) (place : Location) :
    Splits fs place := by
  intro text htext
  have hall := FileSystem.of_all_texts h htext
  cases hwords : tokens text with
  | error position => simp [hwords, Except.isOk, Except.toBool] at hall
  | ok words => exact ⟨words, rfl⟩

lemma eq_or_mem_of_mem_withFirst {word first : List Char} {others : List (List Char)}
    (h : word ∈ withFirst first others) : word = first ∨ word ∈ others := by
  rw [withFirst] at h
  split at h
  · exact .inr h
  · exact List.mem_cons.1 h

/-- The arguments in a text are made of its characters. -/
lemma subset_of_split {first : List Char} {others : List (List Char)}
    (h : split text = .ok (first, others)) : first ⊆ text ∧ ∀ word ∈ others, word ⊆ text := by
  fun_induction split text generalizing first others with
  | case1 =>
    obtain ⟨rfl, rfl⟩ := Prod.mk.inj (Except.ok.inj h)
    simp
  | case2 =>
    obtain ⟨rfl, rfl⟩ := Prod.mk.inj (Except.ok.inj h)
    simp
  | case3 c rest ih =>
    obtain ⟨⟨first', others'⟩, hrest, hresult⟩ := map_eq_ok.1 h
    obtain ⟨rfl, rfl⟩ := Prod.mk.inj hresult
    obtain ⟨hfirst, hothers⟩ := ih hrest
    exact ⟨List.subset_cons_of_subset _ (List.cons_subset_cons c hfirst), fun word hword =>
      List.subset_cons_of_subset _ (List.subset_cons_of_subset _ (hothers word hword))⟩
  | case4 c rest _ _ _ ih =>
    obtain ⟨⟨first', others'⟩, hrest, hresult⟩ := map_eq_ok.1 h
    obtain ⟨rfl, rfl⟩ := Prod.mk.inj hresult
    obtain ⟨hfirst, hothers⟩ := ih hrest
    refine ⟨List.nil_subset _, fun word hword => List.subset_cons_of_subset _ ?_⟩
    rcases eq_or_mem_of_mem_withFirst hword with rfl | hword
    · exact hfirst
    · exact hothers word hword
  | case5 => cases h
  | case6 c rest _ _ _ _ ih =>
    obtain ⟨⟨first', others'⟩, hrest, hresult⟩ := map_eq_ok.1 h
    obtain ⟨rfl, rfl⟩ := Prod.mk.inj hresult
    obtain ⟨hfirst, hothers⟩ := ih hrest
    exact ⟨List.cons_subset_cons c hfirst, fun word hword =>
      List.subset_cons_of_subset _ (hothers word hword)⟩

lemma subset_of_tokens {word : String} (h : tokens text = .ok words) (hword : word ∈ words) :
    word.toList ⊆ text := by
  rw [tokens] at h
  cases hsplit : split text with
  | error rest => simp [hsplit] at h
  | ok result =>
    obtain ⟨hfirst, hothers⟩ := subset_of_split hsplit
    obtain rfl : (withFirst result.1 result.2).map String.ofList = words := by
      simpa [hsplit] using h
    obtain ⟨chars, hchars, rfl⟩ := List.mem_map.1 hword
    rw [String.toList_ofList]
    rcases eq_or_mem_of_mem_withFirst hchars with rfl | hchars
    · exact hfirst
    · exact hothers chars hchars

/-- Names are proper if the arguments and the files have no character that is forbidden. -/
lemma properNames_of_all (harguments : arguments.all fs.isName = true)
    (hfiles : (fs.files.all fun file =>
      (FileSystem.decode? file.2).all fun text => fs.isName (String.ofList text)) = true) :
    ProperNames fs arguments := by
  have hpart {name argument : String} (hname : "@" ++ name = argument)
      (hargument : fs.isName argument = true) : fs.isName name = true := by
    subst hname
    simp only [FileSystem.isName, String.toList_append, List.all_append, Bool.and_eq_true] at *
    exact hargument.2
  rintro name (hname | ⟨place, words, -, hwords, hname⟩)
  · exact hpart rfl (List.all_eq_true.1 harguments _ (mem_references.1 hname))
  · rw [argumentsAt?, Option.bind_eq_some_iff] at hwords
    obtain ⟨text, htext, hsplit⟩ := hwords
    have hall := FileSystem.of_all_texts hfiles htext
    refine hpart rfl (List.all_eq_true.2 fun c hc => ?_)
    have hmem := subset_of_tokens (toOption_eq_some.1 hsplit) (mem_references.1 hname) hc
    exact List.all_eq_true.1 hall c (by rwa [String.toList_ofList])

/-- Expansion succeeds if every file that it comes to can be split and names are proper. -/
lemma exists_outcome_expandIn
    (h : ∀ place, Reaches fs (Readable fs) arguments place → Splits fs place)
    (hnames : ProperNames fs arguments) :
    ∃ expanded, (expandIn fs active arguments).outcome = .ok expanded := by
  induction active, arguments using expandIn.induct fs with
  | case1 active => exact ⟨[], by rw [expandIn_nil, Diagnosed.outcome_pure]⟩
  | case2 active argument rest hword ih =>
    obtain ⟨expanded, hexpanded⟩ :=
      ih (fun place hplace => h place (reaches_cons hplace)) hnames.tail
    refine ⟨argument :: expanded, ?_⟩
    rw [expandIn_word hword, map_eq_pure_bind, Diagnosed.outcome_bind_eq_ok]
    exact ⟨expanded, hexpanded, rfl⟩
  | case3 active argument rest name hname hproper hactive ih =>
    obtain ⟨expanded, hexpanded⟩ :=
      ih (fun place hplace => h place (reaches_cons hplace)) hnames.tail
    refine ⟨expanded, ?_⟩
    rw [expandIn_active hname hproper hactive, Diagnosed.outcome_bind_eq_ok]
    exact ⟨(), rfl, hexpanded⟩
  | case4 active argument rest name hname hproper hactive hread ih =>
    obtain ⟨expanded, hexpanded⟩ :=
      ih (fun place hplace => h place (reaches_cons hplace)) hnames.tail
    refine ⟨argument :: expanded, ?_⟩
    rw [expandIn_unreadable hname hproper hactive hread, map_eq_pure_bind,
      Diagnosed.outcome_bind_eq_ok]
    exact ⟨expanded, hexpanded, rfl⟩
  | case5 active argument rest name hname _ hactive text hread _ ihinner ihouter =>
    have hmem : name ∈ references (argument :: rest) := mem_references_cons hname
    have hreadable : Readable fs name := readable_of_readText? hread
    have hplace : Reaches fs (Readable fs) (argument :: rest) (fs.locate name) :=
      Names.reaches ⟨name, hmem, hreadable, rfl⟩
    obtain ⟨words, hwords⟩ := h _ hplace text (FileSystem.textAt?_locate hread)
    obtain ⟨inner, hinner⟩ := ihinner words
      (fun place hplace =>
        h place (hplace.through hmem hreadable (argumentsAt?_locate hread hwords)))
      (hnames.through hmem hread hwords)
    obtain ⟨outer, houter⟩ :=
      ihouter (fun place hplace => h place (reaches_cons hplace)) hnames.tail
    refine ⟨inner ++ outer, ?_⟩
    rw [expandIn_file hname hactive hread, hwords]
    simp only [Diagnosed.outcome_bind_eq_ok]
    exact ⟨words, rfl, inner, hinner, outer, houter, rfl⟩
  | case6 active argument rest name hname himproper =>
    exact absurd (hnames name (.inl (mem_references_cons hname))) himproper

/-- All that expansion notes is references that lead back. -/
lemma exists_name_of_mem_notices {notice : Notice}
    (h : notice ∈ (expandIn fs active arguments).notices) :
    ∃ name, notice = .responseFileCycle name := by
  induction active, arguments using expandIn.induct fs with
  | case1 active => simp at h
  | case2 active argument rest hword ih =>
    rw [expandIn_word hword, map_eq_pure_bind, Diagnosed.mem_notices_bind] at h
    exact ih (h.resolve_right (by simp))
  | case3 active argument rest name hname hproper hactive ih =>
    rw [expandIn_active hname hproper hactive, Diagnosed.mem_notices_bind] at h
    rcases h with hnote | ⟨-, -, hrest⟩
    · exact ⟨name, List.mem_singleton.1 hnote⟩
    · exact ih hrest
  | case4 active argument rest name hname hproper hactive hread ih =>
    rw [expandIn_unreadable hname hproper hactive hread, map_eq_pure_bind,
      Diagnosed.mem_notices_bind] at h
    exact ih (h.resolve_right (by simp))
  | case5 active argument rest name hname _ hactive text hread _ ihinner ihouter =>
    rw [expandIn_file hname hactive hread] at h
    simp only [Diagnosed.mem_notices_bind] at h
    rcases h with hsplit | ⟨words, -, hinner | ⟨inner, -, houter | ⟨outer, -, hnone⟩⟩⟩
    · exact absurd hsplit List.not_mem_nil
    · exact ihinner words hinner
    · exact ihouter houter
    · exact absurd hnone List.not_mem_nil
  | case6 active argument rest name hname himproper =>
    rw [expandIn_improper hname (by simpa using himproper)] at h
    exact absurd h List.not_mem_nil

/-! ## Quiet expansion -/

/-- What makes one reference quiet: its name is proper, it does not lead back, and if it can be
followed then what is in its file is quiet. -/
structure QuietReference (fs : FileSystem) (active : List Location) (name : String) : Prop where
  proper : fs.isName name = true
  forward : fs.locate name ∉ active
  inside : ∀ text, fs.readText? name = some text →
    ∃ words, tokens text = .ok words ∧ Quiet fs (fs.locate name :: active) words

lemma quiet_map_iff {step : Diagnosed (List String)} {argument : String} :
    (∃ expanded, (argument :: ·) <$> step = pure expanded) ↔
      ∃ expanded, step = pure expanded := by
  simp only [map_eq_pure_bind, Diagnosed.bind_eq_pure]
  constructor
  · rintro ⟨-, expanded, hstep, -⟩
    exact ⟨expanded, hstep⟩
  · rintro ⟨expanded, hstep⟩
    exact ⟨argument :: expanded, expanded, hstep, rfl⟩

lemma quiet_cons :
    Quiet fs active (argument :: rest) ↔
      (∀ name, Text.after? "@" argument = some name → QuietReference fs active name) ∧
        Quiet fs active rest := by
  cases hargument : Text.after? "@" argument with
  | none =>
    rw [Quiet, expandIn_word hargument, quiet_map_iff]
    simp [Quiet]
  | some name =>
    simp only [Option.some.injEq, forall_eq']
    cases hproper : fs.isName name with
    | false =>
      have hfails : ¬ Quiet fs active (argument :: rest) := by
        rintro ⟨expanded, hexpanded⟩
        rw [expandIn_improper hargument hproper] at hexpanded
        cases congrArg Diagnosed.outcome hexpanded
      exact iff_of_false hfails fun h => by simpa [hproper] using h.1.proper
    | true =>
      by_cases hactive : fs.locate name ∈ active
      · -- a reference that leads back is noted
        have hnoted : ¬ Quiet fs active (argument :: rest) := by
          rintro ⟨expanded, hexpanded⟩
          rw [expandIn_active hargument hproper hactive, Diagnosed.bind_eq_pure] at hexpanded
          obtain ⟨_, hnote, -⟩ := hexpanded
          exact absurd (congrArg Diagnosed.notices hnote) (List.cons_ne_nil _ _)
        exact iff_of_false hnoted fun h => h.1.forward hactive
      · cases hread : fs.readText? name with
        | none =>
          have hquiet : QuietReference fs active name := ⟨hproper, hactive, by simp [hread]⟩
          rw [Quiet, expandIn_unreadable hargument hproper hactive hread, quiet_map_iff,
            and_iff_right hquiet, Quiet]
        | some text =>
          simp only [Quiet, expandIn_file hargument hactive hread, Diagnosed.bind_eq_pure]
          constructor
          · rintro ⟨-, words, hwords, inner, hinner, outer, houter, -⟩
            have hsplit : tokens text = .ok words :=
              mapError_eq_ok.1 (congrArg Diagnosed.outcome hwords)
            refine ⟨⟨hproper, hactive, fun text' hread' => ?_⟩, outer, houter⟩
            obtain rfl : text = text' := Option.some.inj (hread.symm.trans hread')
            exact ⟨words, hsplit, inner, hinner⟩
          · rintro ⟨hquiet, outer, houter⟩
            obtain ⟨words, hwords, inner, hinner⟩ := hquiet.inside text hread
            exact ⟨inner ++ outer, words, by rw [hwords]; rfl, inner, hinner, outer, houter, rfl⟩

lemma forall_references_cons {property : String → Prop} :
    (∀ name ∈ references (argument :: rest), property name) ↔
      (∀ name, Text.after? "@" argument = some name → property name) ∧
        ∀ name ∈ references rest, property name := by
  cases h : Text.after? "@" argument <;> simp [references, h]

/-- Expansion is quiet exactly if it is for each reference. -/
lemma quiet_iff :
    Quiet fs active arguments ↔ ∀ name ∈ references arguments, QuietReference fs active name := by
  induction arguments with
  | nil => simp [Quiet, references]
  | cons argument rest ih => rw [quiet_cons, ih, forall_references_cons]

/-- Only one list comes of replacing references. -/
lemma Splices.unique {other : List String} (h : Splices fs arguments expanded)
    (hother : Splices fs arguments other) : expanded = other := by
  induction h generalizing other with
  | nil =>
    cases hother
    rfl
  | word hword _ ihrest =>
    cases hother with
    | word _ hrest => rw [ihrest hrest]
    | file htext => simp [hword] at htext
  | file htext hwords _ _ ihinner ihrest =>
    cases hother with
    | word hword => simp [htext] at hword
    | file htext' hwords' hinner hrest =>
      obtain rfl := Option.some.inj (htext.symm.trans htext')
      obtain rfl := Except.ok.inj (hwords.symm.trans hwords')
      rw [ihinner hinner, ihrest hrest]

lemma splice?_eq_some_iff :
    splice? fs arguments = some expanded ↔ Splices fs arguments expanded := by
  rw [splice?]
  split
  · next h =>
    rw [Option.some.injEq]
    constructor
    · rintro rfl
      exact h.choose_spec
    · intro hexpanded
      exact h.choose_spec.unique hexpanded
  · next h =>
    constructor
    · intro hnone
      cases hnone
    · intro hexpanded
      exact absurd ⟨expanded, hexpanded⟩ h

/-- If nothing is noted then keeping account of places made no difference. -/
lemma splices_of_quiet (h : expandIn fs active arguments = pure expanded) :
    Splices fs arguments expanded := by
  induction active, arguments using expandIn.induct fs generalizing expanded with
  | case1 active =>
    rw [expandIn_nil] at h
    obtain rfl := Except.ok.inj (Diagnosed.mk.inj h).2
    exact .nil
  | case2 active argument rest hword ih =>
    rw [expandIn_word hword, map_eq_pure_bind, Diagnosed.bind_eq_pure] at h
    obtain ⟨outer, houter, hexpanded⟩ := h
    obtain rfl := Except.ok.inj (Diagnosed.mk.inj hexpanded).2
    exact .word (by rw [hword, Option.bind_none]) (ih houter)
  | case3 active argument rest name hname _ hactive ih =>
    exact absurd hactive ((quiet_cons.1 ⟨expanded, h⟩).1 name hname).forward
  | case4 active argument rest name hname hproper hactive hread ih =>
    rw [expandIn_unreadable hname hproper hactive hread, map_eq_pure_bind,
      Diagnosed.bind_eq_pure] at h
    obtain ⟨outer, houter, hexpanded⟩ := h
    obtain rfl := Except.ok.inj (Diagnosed.mk.inj hexpanded).2
    exact .word (by rw [hname, Option.bind_some, hread]) (ih houter)
  | case5 active argument rest name hname _ hactive text hread _ ihinner ihouter =>
    rw [expandIn_file hname hactive hread] at h
    simp only [Diagnosed.bind_eq_pure] at h
    obtain ⟨words, hwords, inner, hinner, outer, houter, hexpanded⟩ := h
    obtain rfl := Except.ok.inj (Diagnosed.mk.inj hexpanded).2
    have hsplit : tokens text = .ok words := mapError_eq_ok.1 (congrArg Diagnosed.outcome hwords)
    have htext : (Text.after? "@" argument).bind fs.readText? = some text := by
      rw [hname, Option.bind_some, hread]
    exact .file htext hsplit (ihinner words hinner) (ihouter houter)
  | case6 active argument rest name hname himproper =>
    exact absurd ((quiet_cons.1 ⟨expanded, h⟩).1 name hname).proper himproper

/-! ## Walks -/

/-- Expansion is in the middle of the file at a place, and nothing is noted for what is in it. -/
def Visits (fs : FileSystem) (active : List Location) (place : Location) : Prop :=
  place ∈ active ∧ ∃ words, argumentsAt? fs place = some words ∧ Quiet fs active words

/-- A quiet expansion visits the files that its arguments name. -/
lemma visits_of_names (hquiet : Quiet fs active arguments)
    (h : Names fs (Readable fs) arguments place) : Visits fs (place :: active) place := by
  obtain ⟨name, hname, hreadable, rfl⟩ := h
  obtain ⟨text, hread⟩ := Option.isSome_iff_exists.1 hreadable
  obtain ⟨words, hwords, hinner⟩ := (quiet_iff.1 hquiet name hname).inside text hread
  exact ⟨List.mem_cons_self, words, argumentsAt?_locate hread hwords, hinner⟩

/-- From a file that it visits, expansion goes on to the files that are named there. -/
lemma Visits.step (h : Visits fs active place) (hrefers : Refers fs (Readable fs) place last) :
    Visits fs (last :: active) last := by
  obtain ⟨-, words, hwords, hquiet⟩ := h
  obtain ⟨words', hwords', hnames⟩ := hrefers
  obtain rfl : words = words' := by simpa [hwords] using hwords'
  exact visits_of_names hquiet hnames

/-- So it visits every file on a walk, with the places on the walk kept. -/
lemma Visits.walk (h : Visits fs active place)
    (hwalk : Relation.ReflTransGen (Refers fs (Readable fs)) place last) :
    ∃ more, active ⊆ more ∧ Visits fs more last := by
  induction hwalk with
  | refl => exact ⟨active, List.Subset.refl active, h⟩
  | tail _ hrefers ih =>
    obtain ⟨more, hsubset, hvisits⟩ := ih
    exact ⟨_ :: more, List.Subset.trans hsubset (List.subset_cons_self _ _), hvisits.step hrefers⟩

lemma not_comesBack_of_quiet (h : Quiet fs [] arguments) : ¬ ComesBack fs arguments := by
  rintro ⟨place, last, ⟨first, hfirst, hreach⟩, hwalk, words, hwords, name, hname, -, rfl⟩
  obtain ⟨before, -, hplace⟩ := (visits_of_names h hfirst).walk hreach
  obtain ⟨active, hsubset, -, words', hwords', hquiet⟩ := hplace.walk hwalk
  obtain rfl : words = words' := by simpa [hwords] using hwords'
  exact (quiet_iff.1 hquiet name hname).forward (hsubset hplace.1)

/-- What is in a file must not meet the place of the file itself, or a walk comes back. -/
lemma comesBack_of_meets (hname : name ∈ references arguments)
    (hread : fs.readText? name = some text) (hwords : tokens text = .ok words)
    (h : Meets fs words (fs.locate name)) : ComesBack fs arguments := by
  have hat := argumentsAt?_locate hread hwords
  have hplace : Reaches fs (Readable fs) arguments (fs.locate name) :=
    Names.reaches ⟨name, hname, readable_of_readText? hread, rfl⟩
  obtain ⟨other, hother | ⟨last, words', hlast, hwords', hother⟩, hlocate⟩ := h
  · exact ⟨_, _, hplace, .refl, words, hat, other, hother, trivial, hlocate⟩
  · exact ⟨_, last, hplace, (transGen_of_reaches hat hlast).to_reflTransGen, words', hwords',
      other, hother, trivial, hlocate⟩

lemma quiet_of_not_comesBack
    (hsplits : ∀ place, Reaches fs (Readable fs) arguments place → Splits fs place)
    (hnames : ProperNames fs arguments) (hclear : ∀ place ∈ active, ¬ Meets fs arguments place)
    (h : ¬ ComesBack fs arguments) : Quiet fs active arguments := by
  -- each file that is followed is one less that can be followed below it
  induction hsize : (inactive fs active).length using Nat.strongRecOn
    generalizing active arguments with
  | _ size ih =>
    refine quiet_iff.2 fun name hname => ?_
    have hactive : fs.locate name ∉ active := fun hmem =>
      hclear _ hmem ⟨name, .inl hname, rfl⟩
    refine ⟨hnames name (.inl hname), hactive, fun text hread => ?_⟩
    have hreadable := readable_of_readText? hread
    obtain ⟨words, hwords⟩ :=
      hsplits _ (Names.reaches ⟨name, hname, hreadable, rfl⟩) text (FileSystem.textAt?_locate hread)
    have hat := argumentsAt?_locate hread hwords
    have hless : (inactive fs (fs.locate name :: active)).length < size :=
      hsize ▸ length_inactive_cons_lt (FileSystem.locate_mem_locations hread) hactive
    refine ⟨words, hwords, ih _ hless ?_ (hnames.through hname hread hwords) ?_ ?_ rfl⟩
    · exact fun place hplace => hsplits place (hplace.through hname hreadable hat)
    · rintro place hplace ⟨other, hother, hlocate⟩
      rcases List.mem_cons.1 hplace with rfl | hmem
      · exact h (comesBack_of_meets hname hread hwords ⟨other, hother, hlocate⟩)
      · exact hclear place hmem ⟨other, hother.through hname hread hwords, hlocate⟩
    · rintro ⟨place, last, hplace, hwalk, hrefers⟩
      exact h ⟨place, last, hplace.through hname hreadable hat, hwalk, hrefers⟩

/-- Nothing is noted exactly if no walk along readable references comes to a file that refers back
to a place on the walk. -/
theorem quiet_iff_not_comesBack
    (hsplits : ∀ place, Reaches fs (Readable fs) arguments place → Splits fs place)
    (hnames : ProperNames fs arguments) :
    Quiet fs [] arguments ↔ ¬ ComesBack fs arguments :=
  ⟨not_comesBack_of_quiet, quiet_of_not_comesBack hsplits hnames (by simp)⟩

/-! ## Cycles -/

/-- A walk that comes back is a cycle of references. -/
lemma circular_of_comesBack (h : ComesBack fs arguments) : Circular fs AnyName arguments := by
  obtain ⟨place, last, ⟨first, hfirst, hreach⟩, hwalk, hback⟩ := h
  have hany : Refers fs (Readable fs) ≤ Refers fs AnyName :=
    fun _ _ hrefers => hrefers.mono fun _ _ => trivial
  have hstart : Reaches fs AnyName arguments place :=
    ⟨first, hfirst.mono fun _ _ => trivial, Relation.ReflTransGen.mono hany _ _ hreach⟩
  exact ⟨place, hstart, .tail' (Relation.ReflTransGen.mono hany _ _ hwalk) hback⟩

/-- A cycle of readable references is a walk that comes back. -/
lemma comesBack_of_circular (h : Circular fs (Readable fs) arguments) : ComesBack fs arguments := by
  obtain ⟨place, hplace, hcycle⟩ := h
  obtain ⟨last, hwalk, hback⟩ := Relation.TransGen.tail'_iff.1 hcycle
  exact ⟨place, last, hplace, hwalk, hback.mono fun _ _ => trivial⟩

/-- **Expansion ends, and detects cycles.**  If every file that it comes to can be split and every
reference is by a name that a file may have, expansion ends with a list of arguments.  If no cycle
of references can be reached from the arguments, nothing is noted and the list is what naive
replacement gives; if a cycle of readable references can be reached along readable references, a
reference that leads back is noted. -/
theorem expand_splices_unless_circular
    (hsplits : ∀ place, Reaches fs (Readable fs) arguments place → Splits fs place)
    (hnames : ProperNames fs arguments) :
    ∃ expanded, (expand fs arguments).outcome = .ok expanded ∧
      (¬ Circular fs AnyName arguments →
        (expand fs arguments).notices = [] ∧ splice? fs arguments = some expanded) ∧
      (Circular fs (Readable fs) arguments →
        ∃ name, .responseFileCycle name ∈ (expand fs arguments).notices) := by
  obtain ⟨expanded, hexpanded⟩ : ∃ expanded, (expand fs arguments).outcome = .ok expanded :=
    exists_outcome_expandIn hsplits hnames
  refine ⟨expanded, hexpanded, fun hacyclic => ?_, fun hcyclic => ?_⟩
  · obtain ⟨other, hquiet⟩ :=
      (quiet_iff_not_comesBack hsplits hnames).2 fun hback => hacyclic (circular_of_comesBack hback)
    obtain rfl : other = expanded := by
      rw [expand, hquiet] at hexpanded
      exact Except.ok.inj hexpanded
    exact ⟨congrArg Diagnosed.notices hquiet, splice?_eq_some_iff.2 (splices_of_quiet hquiet)⟩
  · have hnoted : (expand fs arguments).notices ≠ [] := fun hnone =>
      (quiet_iff_not_comesBack hsplits hnames).1
        ⟨expanded, congrArg₂ Diagnosed.mk hnone hexpanded⟩ (comesBack_of_circular hcyclic)
    obtain ⟨notice, hnotice⟩ := List.exists_mem_of_ne_nil _ hnoted
    obtain ⟨name, rfl⟩ := exists_name_of_mem_notices hnotice
    exact ⟨name, hnotice⟩

/-- Two files that refer to each other, by several names. -/
def reciprocal : FileSystem :=
  .ofMachine "/work"
    [("args", "-g @./more -O".toUTF8), ("more", "x.swift @/work/args y.swift".toUTF8)]

/-- The two files are expanded once, and the reference from the second one to the first is noted. -/
theorem expand_splices_unless_circular_of_reciprocal :
    (∀ place, Reaches reciprocal (Readable reciprocal) ["swiftc", "@args"] place →
        Splits reciprocal place) ∧
      ProperNames reciprocal ["swiftc", "@args"] ∧
      Circular reciprocal (Readable reciprocal) ["swiftc", "@args"] ∧
      ∃ expanded, (expand reciprocal ["swiftc", "@args"]).outcome = .ok expanded ∧
        ∃ name, .responseFileCycle name ∈ (expand reciprocal ["swiftc", "@args"]).notices := by
  have hsplits (place : Location)
      (_ : Reaches reciprocal (Readable reciprocal) ["swiftc", "@args"] place) :
      Splits reciprocal place :=
    splits_of_all (by decide +kernel) place
  have hfirst : Names reciprocal (Readable reciprocal) ["swiftc", "@args"]
      (reciprocal.locate "args") :=
    ⟨"args", by decide +kernel, by decide +kernel, rfl⟩
  have hthere : Refers reciprocal (Readable reciprocal) (reciprocal.locate "args")
      (reciprocal.locate "more") :=
    ⟨["-g", "@./more", "-O"], by decide +kernel, "./more", by decide +kernel,
      by decide +kernel, by decide +kernel⟩
  have hback : Refers reciprocal (Readable reciprocal) (reciprocal.locate "more")
      (reciprocal.locate "args") :=
    ⟨["x.swift", "@/work/args", "y.swift"], by decide +kernel, "/work/args", by decide +kernel,
      by decide +kernel, by decide +kernel⟩
  have hcircular : Circular reciprocal (Readable reciprocal) ["swiftc", "@args"] :=
    ⟨reciprocal.locate "args", hfirst.reaches, .tail (.single hthere) hback⟩
  have hnames : ProperNames reciprocal ["swiftc", "@args"] :=
    properNames_of_all (by decide +kernel) (by decide +kernel)
  obtain ⟨expanded, hexpanded, -, hnoted⟩ := expand_splices_unless_circular hsplits hnames
  exact ⟨hsplits, hnames, hcircular, expanded, hexpanded, hnoted hcircular⟩

/-- A file that refers to itself, and one that refers to it by a name that leads through a directory
that is missing. -/
def detour : FileSystem :=
  .ofMachine "/work" [("a", "@missing/../f".toUTF8), ("f", "@f".toUTF8)]

/-- The cycle is behind a reference that stays, so it is not entered. -/
lemma cycle_not_noted_of_detour :
    (∃ place, Reaches detour AnyName ["@a"] place ∧
        Relation.TransGen (Refers detour (Readable detour)) place place) ∧
      (expand detour ["@a"]).notices = [] := by
  have hfirst : Names detour AnyName ["@a"] (detour.locate "a") :=
    ⟨"a", by decide +kernel, trivial, rfl⟩
  have hthere : Refers detour AnyName (detour.locate "a") (detour.locate "f") :=
    ⟨["@missing/../f"], by decide +kernel, "missing/../f", by decide +kernel, trivial,
      by decide +kernel⟩
  have hcycle : Refers detour (Readable detour) (detour.locate "f") (detour.locate "f") :=
    ⟨["@f"], by decide +kernel, "f", by decide +kernel, by decide +kernel, rfl⟩
  have hstays : Quiet detour [detour.locate "a"] ["@missing/../f"] := by
    refine quiet_iff.2 fun name hname => ?_
    have hreferences : references ["@missing/../f"] = ["missing/../f"] := by decide +kernel
    obtain rfl : name = "missing/../f" := by simpa [hreferences] using hname
    have hread : detour.readText? "missing/../f" = none := by decide +kernel
    exact ⟨by decide +kernel, by decide +kernel, fun text htext => by simp [hread] at htext⟩
  have hquiet : Quiet detour [] ["@a"] := by
    refine quiet_iff.2 fun name hname => ?_
    have hreferences : references ["@a"] = ["a"] := by decide +kernel
    obtain rfl : name = "a" := by simpa [hreferences] using hname
    have hread : detour.readText? "a" = some "@missing/../f".toList := by decide +kernel
    refine ⟨by decide +kernel, List.not_mem_nil, fun text htext => ⟨["@missing/../f"], ?_, hstays⟩⟩
    obtain rfl : "@missing/../f".toList = text := Option.some.inj (hread.symm.trans htext)
    decide +kernel
  obtain ⟨expanded, hexpanded⟩ := hquiet
  exact ⟨⟨_, ⟨_, hfirst, .single hthere⟩, .single hcycle⟩, congrArg Diagnosed.notices hexpanded⟩

/-- What leads nowhere leads to no cycle. -/
lemma not_circular_of_missing {counts : String → Prop}
    (h : ∀ name ∈ references arguments, argumentsAt? fs (fs.locate name) = none) :
    ¬ Circular fs counts arguments := by
  have hnothing {first target : Location} (hfirst : Names fs counts arguments first) :
      ¬ Refers fs counts first target := by
    rintro ⟨words, hwords, -⟩
    obtain ⟨name, hname, -, rfl⟩ := hfirst
    simp [h name hname] at hwords
  rintro ⟨place, ⟨first, hfirst, hreach⟩, hcycle⟩
  rcases hreach.cases_head with rfl | ⟨next, hnext, -⟩
  · obtain ⟨next, hnext, -⟩ := Relation.TransGen.head'_iff.1 hcycle
    exact hnothing hfirst hnext
  · exact hnothing hfirst hnext

/-- A cycle of readable references need not be noted if one of the references that lead to it cannot
be followed, and where there is no cycle a reference by what is not a name has no replacement. -/
theorem exists_cycle_not_noted :
    (∀ place, Splits detour place) ∧
      ((∃ place, Reaches detour AnyName ["@a"] place ∧
          Relation.TransGen (Refers detour (Readable detour)) place place) ∧
        (expand detour ["@a"]).notices = []) ∧
      ¬ Circular detour AnyName ["@a\x00b"] ∧
      (expand detour ["@a\x00b"]).outcome = .error .notText := by
  refine ⟨splits_of_all (by decide +kernel), cycle_not_noted_of_detour, ?_, ?_⟩
  · exact not_circular_of_missing (by decide +kernel)
  · have hname : Text.after? "@" "@a\x00b" = some "a\x00b" := by decide +kernel
    rw [expand, expandIn_improper hname (by decide +kernel)]
    rfl

end SwiftPlan.ResponseFile
