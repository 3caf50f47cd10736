import SwiftPlan.Proofs.Plan.Outputs
import SwiftPlan.Text.Identifier

/-!
# What the files of units are named after

Without other directions the files of a unit are named after its stem: the base name of its source,
or the name of the module if it has no source of its own.  Stems are as good as the names made from
them.  If the name of the module is an identifier, then a stem has no slashes and is not made of
dots alone (`isEnding_stem`), so that normal forms and extensions leave it as it is: a file named
after it is called `front ++ stem ++ tail`, where only the stem depends on the unit
(`NamedByStem`).  So two units write the same file of some type exactly if their stems are equal.
-/

namespace SwiftPlan

open LexicalPath

/-! ## Names that nothing is done to -/

lemma Text.dot_notMem_of_isIdentifier {name : String} (h : Text.isIdentifier name = true) :
    '.' ∉ name.toList := by
  intro hdot
  exact absurd ((Text.isIdentifierChars_all h).2 '.' hdot) (by decide)

/-- An identifier has no slashes and no dots. -/
lemma Text.isEnding_of_isIdentifier {name : String} (h : Text.isIdentifier name = true) :
    IsEnding name.toList := by
  obtain ⟨hne, hall⟩ := Text.isIdentifierChars_all h
  obtain ⟨c, hc⟩ := List.exists_mem_of_ne_nil _ hne
  refine ⟨fun hslash => ?_, c, hc, fun hdot => ?_⟩
  · exact absurd (hall '/' hslash) (by decide)
  · exact Text.dot_notMem_of_isIdentifier h (hdot ▸ hc)

namespace VirtualPath

variable {directory : Option VirtualPath} {path path' : VirtualPath} {text lead ext ext' : String}

lemma isUnrooted_of_isEnding (h : IsEnding text.toList) : isUnrooted text = true := by
  have hne : text ≠ "" := by
    rintro rfl
    exact h.ne_nil rfl
  have hrooted : isRooted text = false := h.isRooted
  simp [isUnrooted, hne, hrooted]

lemma temporary_of_isEnding (h : IsEnding text.toList) : temporary text = .ok (scratch text) :=
  temporary_eq_ok.2 ⟨isUnrooted_of_isEnding h, rfl⟩

lemma anchored_of_isEnding (hanchor : IsAnchor directory) (h : IsEnding text.toList) :
    (do (← relative text).resolvedIn directory) = .ok (anchored directory text) := by
  have hrelative := relative_eq_ok.2 ⟨isUnrooted_of_isEnding h, rfl⟩
  have hok : ∃ path, (do (← relative text).resolvedIn directory) = .ok path := by
    cases directory with
    | none => exact ⟨_, bind_eq_ok.2 ⟨_, hrelative, rfl⟩⟩
    | some root =>
      have hstream : root.isStream = false := by
        simp [isStream, PathKind.isStream, (hanchor root rfl).1]
      exact ⟨_, bind_eq_ok.2 ⟨_, hrelative, appending_eq_ok.2 ⟨hstream, rfl⟩⟩⟩
  obtain ⟨path, hpath⟩ := hok
  rw [hpath, (eq_anchored hanchor hpath).2]

/-- The name of the file ends in something that is not made of dots alone, and this extension. -/
def EndsWith (path : VirtualPath) (ext : String) : Prop :=
  ∃ front lead, IsEnding lead.toList ∧ path.name = front ++ (lead ++ "." ++ ext)

lemma endsWith_of_extension? (h : path.extension? = some ext) : path.EndsWith ext := by
  rw [extension?] at h
  split at h
  · simp at h
  · next hstream =>
    rw [base, if_neg hstream, LexicalPath.extension?, LexicalPath.base, String.toList_ofList] at h
    obtain ⟨chars, hchars, rfl⟩ := Option.map_eq_some_iff.1 h
    obtain ⟨lead, hlead, hbase⟩ := exists_lead_of_extension hchars
    obtain ⟨front, hfront⟩ := exists_append_baseChars path.name.toList
    obtain ⟨front', hfront'⟩ := exists_append_baseChars (baseChars path.name.toList)
    refine ⟨String.ofList (front ++ front'), String.ofList lead, by rwa [String.toList_ofList], ?_⟩
    rw [← String.toList_inj]
    simp only [String.toList_append, String.toList_ofList]
    rw [hfront, hfront', hbase]
    simp

lemma EndsWith.hasExtension (h : path.EndsWith ext) : path.HasExtension ext := by
  obtain ⟨front, lead, -, hname⟩ := h
  refine ⟨front ++ lead, ?_⟩
  rw [hname]
  simp only [String.append_assoc]

/-- Anchoring a file keeps the end of its name. -/
lemma EndsWith.resolvedIn (h : path.EndsWith ext) (hext : IsExtension ext)
    (hrelative : path.kind = .relative → isRooted path.name = false)
    (hresolved : path.resolvedIn directory = .ok path') : path'.EndsWith ext := by
  rcases resolvedIn_eq_ok hresolved with rfl | ⟨hkind, root, -, rfl⟩
  · exact h
  · obtain ⟨front, lead, hlead, hname⟩ := h
    have htail := hlead.append_extension hext
    have hrooted := hrelative hkind
    rw [hname] at hrooted
    obtain ⟨front', hfront'⟩ := exists_front_normalize (join root.name front)
    refine ⟨front', lead, hlead, ?_⟩
    dsimp only
    rw [hname, join_append (isRooted_of_append hrooted) htail.isRooted, hfront' _ htail]

/-- Without directory and extension such a name has no slashes and is not made of dots alone
either. -/
lemma EndsWith.isEnding_stem (h : path.EndsWith ext) (hext : IsExtension ext)
    (hstream : path.isStream = false) : IsEnding path.stem.toList := by
  obtain ⟨front, lead, hlead, hname⟩ := h
  have hbase : path.base = String.ofList (baseChars front.toList) ++ (lead ++ "." ++ ext) := by
    rw [base, if_neg (by simp [hstream]), LexicalPath.base, hname, String.toList_append,
      baseChars_append (hlead.append_extension hext).1, String.ofList_append, String.ofList_toList]
  rw [stem, hbase, stem_append_of_isEnding hlead hext, String.toList_append, String.toList_ofList]
  obtain ⟨hslash, c, hc, hdot⟩ := hlead
  refine ⟨?_, c, List.mem_append_right _ hc, hdot⟩
  rw [List.mem_append, not_or]
  exact ⟨slash_notMem_baseChars, hslash⟩

/-- The extension of a file that is named after something can be exchanged for another one. -/
lemma withExtension_of_isEnding {kind : PathKind} {front : String} (hlead : IsEnding lead.toList)
    (hext : IsExtension ext) (hne : ext' ≠ "") (hkind : kind.isStream = false) :
    withExtension ⟨kind, front ++ (lead ++ "." ++ ext)⟩ ext' =
      .ok ⟨kind, front ++ (lead ++ "." ++ ext')⟩ := by
  refine (withExtension_eq_ok hne).2 ⟨hkind, ?_⟩
  dsimp only
  rw [stem_append_of_isEnding hlead hext]
  simp only [String.append_assoc]

end VirtualPath

namespace Plan

variable {surroundings : Surroundings} {arguments : List String} {settings : Settings}
  {unit : CompileUnit}

/-! ## Stems -/

/-- An input is the standard input, or is taken for an object for want of a better type, or has the
extension of its type in its name. -/
lemma endsWith_of_mem_inputs (hresolved : settings.Resolved surroundings arguments)
    {input : TypedPath} (h : input ∈ settings.inputs) :
    input = ⟨.standardInput, .swift⟩ ∨ input.type = .object ∨
      input.type ≠ .image ∧ input.path.isStream = false ∧
        input.path.EndsWith input.type.extension := by
  obtain ⟨text, -, hinput⟩ := exists_of_mem_mapM hresolved.inputs h
  rcases inputOf_eq_ok hinput with rfl | ⟨path, -, hstream, -, hrelative, hplace, hown⟩
  · exact .inl rfl
  · cases htyped : path.extension?.bind FileType.ofExtension? with
    | none => exact .inr (.inl (by simp [hown, htyped]))
    | some type =>
      obtain rfl : input.type = type := by simp [hown, htyped]
      obtain ⟨extension, hextension, hfound⟩ := Option.bind_eq_some_iff.1 htyped
      obtain rfl := FileType.extension_of_ofExtension? hfound
      have htype := FileType.ne_image_of_ofExtension? hfound
      have hends := VirtualPath.endsWith_of_extension? hextension
      exact .inr (.inr ⟨htype, (isStream_resolvedIn hresolved.isAnchor hplace).trans hstream,
        hends.resolvedIn (FileType.isExtension_extension htype) hrelative hplace⟩)

/-- A unit is called by the name of the module or by the name of a source, which is a proper one. -/
lemma stem_eq_or_isEnding (hresolved : settings.Resolved surroundings arguments)
    (h : unit ∈ compileUnits settings) :
    unit.stem settings = settings.moduleName ∨ IsEnding (unit.stem settings).toList := by
  cases unit with
  | whole => exact .inl rfl
  | primary source index =>
    rw [CompileUnit.stem]
    split
    · exact .inl rfl
    · next hkind =>
      obtain ⟨hmem, htype⟩ := List.mem_filter.1 (mem_swiftInputs_of_mem_compileUnits h)
      have hswift : source.type = .swift := eq_of_beq htype
      rcases endsWith_of_mem_inputs hresolved hmem with rfl | hobject | ⟨-, hstream, hends⟩
      · exact absurd rfl hkind
      · simp [hswift] at hobject
      · rw [hswift] at hends
        exact .inr (hends.isEnding_stem (by decide) hstream)

/-- Stems can stand in file names: a stem has no slashes and is not made of dots alone. -/
lemma isEnding_stem (hresolved : settings.Resolved surroundings arguments)
    (hname : Text.isIdentifier settings.moduleName = true) (h : unit ∈ compileUnits settings) :
    IsEnding (unit.stem settings).toList := by
  rcases stem_eq_or_isEnding hresolved h with hmodule | hending
  · rw [hmodule]
    exact Text.isEnding_of_isIdentifier hname
  · exact hending

/-! ## Products -/

lemma isEnding_library (hname : Text.isIdentifier settings.moduleName = true) :
    IsEnding ("lib" ++ settings.moduleName).toList := by
  rw [String.toList_append]
  have hlib : IsEnding "lib".toList := ⟨by decide, 'l', by decide, by decide⟩
  exact hlib.append (Text.isEnding_of_isIdentifier hname)

lemma isEnding_defaultProductName (hname : Text.isIdentifier settings.moduleName = true)
    (product : LinkProduct) : IsEnding (defaultProductName settings product).toList := by
  rcases defaultProductName_eq settings product with ⟨-, ext, hext, hcalled⟩ | ⟨-, hcalled⟩
  · rw [hcalled]
    exact (isEnding_library hname).append_extension (isExtension_of_mem_libraryExtensions ext hext)
  · rw [hcalled]
    exact Text.isEnding_of_isIdentifier hname

/-! ## Files that are named after stems -/

/-- A file that each unit has is called by the stem of the unit, between texts that are the same for
all units. -/
def NamedByStem (settings : Settings) (name : CompileUnit → Except PathError VirtualPath)
    (ext : String) : Prop :=
  ∃ kind front, PathKind.isStream kind = false ∧ ∀ unit ∈ compileUnits settings,
    name unit = .ok ⟨kind, front ++ (unit.stem settings ++ "." ++ ext)⟩

variable {name : CompileUnit → Except PathError VirtualPath} {ext ext' : String}

lemma NamedByStem.congr {other : CompileUnit → Except PathError VirtualPath}
    (h : NamedByStem settings other ext) (hsame : ∀ unit, name unit = other unit) :
    NamedByStem settings name ext := by
  obtain rfl : name = other := funext hsame
  exact h

/-- Files that are named after stems are pairwise different exactly if the stems are. -/
lemma NamedByStem.nodup_iff (h : NamedByStem settings name ext) :
    ((compileUnits settings).map name).Nodup ↔
      ((compileUnits settings).map (·.stem settings)).Nodup := by
  obtain ⟨kind, front, -, hname⟩ := h
  rw [List.Nodup, List.pairwise_map, List.Nodup, List.pairwise_map]
  refine List.Pairwise.iff_of_mem fun {unit unit'} hunit hunit' => ?_
  rw [hname unit hunit, hname unit' hunit']
  simp [String.append_assoc]

/-- The file with another extension is named after the stem as well. -/
lemma NamedByStem.withExtension (h : NamedByStem settings name ext) (hext : IsExtension ext)
    (hne : ext' ≠ "")
    (hstem : ∀ unit ∈ compileUnits settings, IsEnding (unit.stem settings).toList) :
    NamedByStem settings (fun unit => do (← name unit).withExtension ext') ext' := by
  obtain ⟨kind, front, hkind, hname⟩ := h
  refine ⟨kind, front, hkind, fun unit hunit => bind_eq_ok.2 ⟨_, hname unit hunit, ?_⟩⟩
  exact VirtualPath.withExtension_of_isEnding (hstem unit hunit) hext hne hkind

lemma namedByStem_scratchFile
    (hstem : ∀ unit ∈ compileUnits settings, IsEnding (unit.stem settings).toList)
    {type : FileType} (htype : type ≠ .image) :
    NamedByStem settings (·.scratchFile settings type) type.extension := by
  obtain ⟨front, hfront⟩ := VirtualPath.exists_front_scratch ""
  refine ⟨.temporary, front, rfl, fun unit hunit => ?_⟩
  have hending := (hstem unit hunit).append_extension (FileType.isExtension_extension htype)
  have hname := hfront _ hending
  rw [String.empty_append] at hname
  rw [← hname]
  exact VirtualPath.temporary_of_isEnding hending

lemma namedByStem_objectPath (hanchor : IsAnchor settings.workingDirectory)
    (hunnamed : settings.options.hasAny Settings.outputOptions = false)
    (hstem : ∀ unit ∈ compileUnits settings, IsEnding (unit.stem settings).toList) :
    NamedByStem settings (·.objectPath settings) FileType.object.extension := by
  cases hproduct : settings.goal.product? with
  | some product =>
    refine (namedByStem_scratchFile hstem (by decide)).congr fun unit => ?_
    show unit.objectPath settings = unit.scratchFile settings .object
    rw [CompileUnit.objectPath, if_pos (by simp [hproduct])]
  | none =>
    have hempty : VirtualPath.isRooted "" = false := rfl
    obtain ⟨front, hfront⟩ :=
      VirtualPath.exists_front_anchored settings.workingDirectory hempty
    refine ⟨(settings.workingDirectory.map (·.kind)).getD .relative, front, ?_,
      fun unit hunit => ?_⟩
    · exact @VirtualPath.isStream_anchored _ "" hanchor
    · have hending := (hstem unit hunit).append_extension
        (FileType.isExtension_extension (by decide : FileType.object ≠ .image))
      have hname := hfront _ hending
      rw [String.empty_append] at hname
      show unit.objectPath settings = _
      rw [CompileUnit.objectPath, if_neg (by simp [hproduct]),
        Settings.lastValue?_outputOption hunnamed (by decide), ← hname]
      exact VirtualPath.anchored_of_isEnding hanchor hending

/-- If there are several units then lists of dependencies are named after stems, because the files
beside them are. -/
lemma namedByStem_dependenciesBeside (hanchor : IsAnchor settings.workingDirectory)
    (hunnamed : settings.options.hasAny Settings.outputOptions = false)
    (hstem : ∀ unit ∈ compileUnits settings, IsEnding (unit.stem settings).toList)
    (hmany : 1 < (compileUnits settings).length) :
    NamedByStem settings (dependenciesBeside settings) FileType.dependencies.extension := by
  by_cases hgoal : settings.goal.compilerOutput? = some .object
  · have hobject := namedByStem_objectPath hanchor hunnamed hstem
    refine (hobject.withExtension (by decide) (by decide) hstem).congr fun unit => ?_
    rw [dependenciesBeside, if_pos hgoal]
  · cases hfiles : settings.moduleFiles with
    | none =>
      refine (namedByStem_scratchFile hstem (by decide)).congr fun unit => ?_
      rw [dependenciesBeside, if_neg hgoal, hfiles]
    | some files =>
      have hpartial : writesPartialModules settings = true := by
        simp [writesPartialModules, hfiles, hmany]
      have hpart : NamedByStem settings (·.scratchFile settings .swiftModule)
          FileType.swiftModule.extension := namedByStem_scratchFile hstem (by decide)
      refine (hpart.withExtension (by decide) (by decide) hstem).congr fun unit => ?_
      rw [dependenciesBeside, if_neg hgoal, hfiles]
      dsimp only
      rw [if_pos hpartial]

/-- The parts of a unit are apart from the module that is put together if that was asked for, and
otherwise if the unit is not called like the module. -/
lemma parts_ne_iff (hresolved : settings.Resolved surroundings arguments)
    (hunnamed : settings.options.hasAny Settings.outputOptions = false)
    (hname : Text.isIdentifier settings.moduleName = true) {files : ModuleFiles}
    (hfiles : settings.moduleFiles = some files) (hunit : unit ∈ compileUnits settings) :
    unit.scratchFile settings .swiftModule ≠ .ok files.output.path ∧
        unit.scratchFile settings .swiftDocumentation ≠ .ok files.documentation ↔
      (settings.options.hasAny BuildGoal.moduleRequests = false →
        settings.moduleName ≠ unit.stem settings) := by
  have hdocumentation := hresolved.documentation_eq_ok hunnamed hfiles
  rcases hresolved.modulePath_eq hunnamed hfiles with ⟨hasked, -, hpath⟩ | ⟨hasked, -, hpath⟩
  · have hmodule : files.output.path.isTemporary = false := by
      rw [hpath]
      exact VirtualPath.isTemporary_anchored hresolved.isAnchor
    have hdurable : files.documentation.isTemporary = false :=
      (VirtualPath.isTemporary_withExtension (by decide) hdocumentation).trans hmodule
    have hapart {type : FileType} {path : VirtualPath} (h : path.isTemporary = false) :
        unit.scratchFile settings type ≠ .ok path := by
      intro hsame
      rw [scratchFile_eq hsame] at h
      exact absurd h (by simp [VirtualPath.scratch, VirtualPath.isTemporary])
    simp [hasked, hapart hmodule, hapart hdurable]
  · have hstem := isEnding_stem hresolved hname hunit
    have hown := Text.isEnding_of_isIdentifier hname
    have hmod : IsExtension FileType.swiftModule.extension := by decide
    have hdoc : IsExtension FileType.swiftDocumentation.extension := by decide
    obtain ⟨front, hfront⟩ := VirtualPath.exists_front_scratch ""
    have hcalled {text ext : String} (htext : IsEnding text.toList) (hext : IsExtension ext) :
        VirtualPath.scratch (text ++ "." ++ ext) = ⟨.temporary, front ++ (text ++ "." ++ ext)⟩ := by
      rw [← hfront _ (htext.append_extension hext), String.empty_append]
    rw [ModuleOutput.fileName, hcalled hown hmod] at hpath
    rw [hpath, VirtualPath.withExtension_of_isEnding hown hmod (by decide) rfl,
      Except.ok.injEq] at hdocumentation
    rw [CompileUnit.scratchFile, CompileUnit.scratchFile, hpath, ← hdocumentation,
      VirtualPath.temporary_of_isEnding (hstem.append_extension hmod),
      VirtualPath.temporary_of_isEnding (hstem.append_extension hdoc), hcalled hstem hmod,
      hcalled hstem hdoc]
    simp [hasked, String.append_assoc, eq_comm]

end Plan

end SwiftPlan
