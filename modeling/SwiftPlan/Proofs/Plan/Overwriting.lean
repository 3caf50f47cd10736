import SwiftPlan.Proofs.CanonicalPath
import SwiftPlan.Proofs.Plan.Stems

/-!
# Outputs that are inputs

A build that does not say where outputs go may still write over one of its inputs.  No input is
temporary, so this takes an output that is kept (`Outlives`), and the name of a file says of which
type it is, so the input is of the type of the output.  A product has no such name: on a command
line it is taken for an object.  Only an executable can be called like anything, if the module is.

What an input is taken for depends on the text by which it is given, and not on where the path leads
from the working directory: `.` is no Swift source, even if the directory is called `a.swift`.  But
what lies directly in the working directory has to be given by its own name
(`base_of_resolvedIn_anchored`), however often the text goes up and down before.
-/

namespace SwiftPlan

namespace LexicalPath

variable {path first second piece : List Char} {stack below : List (List Char)} {rooted : Bool}
  {text ext : String} {bound : Nat}

/-! ## Going up -/

lemma push_parentMark (h : stack.length ≤ bound ∨ stack.head? = some parentMark) :
    (push rooted stack parentMark).length ≤ bound ∨
      (push rooted stack parentMark).head? = some parentMark := by
  cases stack with
  | nil => cases rooted <;> simp [push]
  | cons top below =>
    by_cases htop : top = parentMark
    · exact .inr (by simp [push, htop])
    · refine .inl ?_
      have hlength : (top :: below).length ≤ bound := h.resolve_right (by simpa using htop)
      simp only [push, htop, if_true, if_false]
      simp only [List.length_cons] at hlength
      omega

/-- What ends in a double dot when it is worked off leads up, or to a double dot. -/
lemma foldl_push_parentMark
    (h : (parentMark :: below).reverse.foldl (push false) [] = parentMark :: below) :
    ((parentMark :: below).reverse.foldl (push rooted) stack).length ≤ stack.length ∨
      ((parentMark :: below).reverse.foldl (push rooted) stack).head? = some parentMark := by
  induction below with
  | nil => exact push_parentMark (.inl (Nat.le_refl _))
  | cons top rest ih =>
    have hrest := foldl_push_of_cons h
    have htop : top = parentMark := by
      by_contra hne
      rw [List.reverse_cons, List.foldl_append, hrest] at h
      have hlength := congrArg List.length h
      simp [push, hne] at hlength
      omega
    subst htop
    rw [List.reverse_cons, List.foldl_append]
    exact push_parentMark (ih hrest)

/-- If a path leads one step down from a directory, then by the name of what is there. -/
lemma head?_settle_of_joinChars (hne : first ≠ []) (hrooted : isRooted second = false)
    (hnormal : normalizeChars second = second) (hpiece : piece ≠ parentMark)
    (h : settle (joinChars first second) = piece :: settle first) :
    (settle second).head? = some piece := by
  have hcomponents : components second = (settle second).reverse := by
    rw [← components_normalizeChars, hnormal]
  have hsettled := @foldl_push_settle second
  have hfirst : settle first = (components first).foldl (push !(root first).isEmpty) [] := rfl
  rw [settle, root_joinChars hne hrooted, components_joinChars hrooted, List.foldl_append, ← hfirst,
    hcomponents] at h
  rw [root_of_not_isRooted hrooted] at hsettled
  cases hstack : settle second with
  | nil => simp [hstack] at h
  | cons top below =>
    rw [hstack] at h hsettled
    by_cases htop : top = parentMark
    · subst htop
      have hup := @foldl_push_parentMark (settle first) below (!(root first).isEmpty) hsettled
      rw [h] at hup
      rcases hup with hlength | hhead
      · exact absurd hlength (by simp)
      · exact absurd (Option.some.inj hhead) hpiece
    · rw [List.reverse_cons, List.foldl_append] at h
      simp only [List.foldl_cons, List.foldl_nil, push, htop, if_false] at h
      rw [(List.cons.inj h).1]
      rfl

/-- The last piece of a normal form is what was settled last. -/
lemma baseChars_normalizeChars (h : settle path = piece :: below) :
    baseChars (normalizeChars path) = piece := by
  have hpiece : IsComponent piece := by
    refine @isComponent_of_mem_settle path piece ?_
    rw [h]
    exact List.mem_cons_self
  rw [normalizeChars, h, List.reverse_cons, assemble_append_singleton hpiece.1,
    baseChars_intercalate hpiece.2.2]

/-- An extension is found behind anything but dots. -/
lemma extension?_append (h : IsEnding text.toList) (hext : IsExtension ext) :
    extension? (text ++ "." ++ ext) = some ext := by
  obtain ⟨hslash, c, hc, hdot⟩ := h
  have hchars : (text ++ "." ++ ext).toList = text.toList ++ '.' :: ext.toList := by simp
  have hbase : baseChars text.toList = text.toList := by
    rw [baseChars, splitAtLast?_eq_none hslash]
  have hdots : ¬ (text.toList.all (· == '.')) = true := fun hall =>
    hdot (by simpa using List.all_eq_true.1 hall c hc)
  rw [extension?, hchars, splitExtensionChars_append (by simpa using hext.1) hext.2.1 hext.2.2,
    hbase, if_neg hdots, Option.map_some, String.ofList_toList]

lemma extension?_of_isIdentifier (h : Text.isIdentifier text = true) : extension? text = none := by
  have hnone := splitExtensionChars_snd_of_dot_notMem (Text.dot_notMem_of_isIdentifier h)
  rw [extension?, hnone, Option.map_none]

end LexicalPath

open LexicalPath

namespace VirtualPath

variable {directory : Option VirtualPath} {path path' : VirtualPath} {name lead ext ext' : String}

lemma settle_of_isFileName (hname : IsFileName name.toList) :
    settle name.toList = [name.toList] := by
  rw [settle, components_of_isComponent hname.1, root_of_not_isRooted hname.isRooted]
  exact if_neg hname.2

/-- What lies directly in the working directory is given by its own name. -/
lemma base_of_resolvedIn_anchored (hanchor : IsAnchor directory) (hpath : path.Canonical)
    (hstream : path.isStream = false) (hname : IsFileName name.toList)
    (h : path.resolvedIn directory = .ok (anchored directory name)) : path.base = name := by
  have hnormal : normalizeChars path.name.toList = path.name.toList :=
    normalize_eq_self_iff.1 (hpath.normal hstream)
  have hroot {root : VirtualPath} (hroot : directory = some root) : root.name.toList ≠ [] := by
    simpa using hanchor.name_ne_empty hroot
  have hlast : (settle path.name.toList).head? = some name.toList := by
    rcases resolvedIn_eq_ok h with hsame | ⟨hkind, root, hdirectory, hjoined⟩
    · rw [← hsame, anchored, LexicalPath.normalize, String.toList_ofList, settle_normalizeChars]
      cases directory with
      | none =>
        show (settle name.toList).head? = some name.toList
        rw [settle_of_isFileName hname]
        rfl
      | some root =>
        rw [seenFrom, join, String.toList_ofList, settle_joinChars (hroot rfl) hname]
        rfl
    · obtain rfl : directory = some root := hdirectory
      have hrelative : LexicalPath.isRooted path.name.toList = false := by
        have hrooted := hpath.rooted
        simp only [hkind, reduceCtorEq, iff_false, Bool.not_eq_true] at hrooted
        exact hrooted
      have hnames := congrArg VirtualPath.name hjoined
      simp only [anchored, seenFrom, LexicalPath.normalize, join, String.toList_ofList,
        String.ofList_inj] at hnames
      have hsettle := settle_eq_of_normalizeChars_eq hnames.symm
      rw [settle_joinChars (hroot rfl) hname] at hsettle
      exact head?_settle_of_joinChars (hroot rfl) hrelative hnormal hname.2 hsettle
  obtain ⟨below, hbelow⟩ := List.head?_eq_some_iff.1 hlast
  rw [base, if_neg (by simp [hstream]), LexicalPath.base, ← hnormal,
    baseChars_normalizeChars hbelow, String.ofList_toList]

/-- A file in the working directory with another extension. -/
lemma anchored_withExtension (hanchor : IsAnchor directory) (hlead : IsEnding lead.toList)
    (hext : IsExtension ext) (hext' : IsExtension ext')
    (h : (anchored directory (lead ++ "." ++ ext)).withExtension ext' = .ok path) :
    path = anchored directory (lead ++ "." ++ ext') := by
  have hempty : isRooted "" = false := rfl
  obtain ⟨front, hfront⟩ := exists_front_anchored directory hempty
  have hplace {ext : String} (hext : IsExtension ext) : anchored directory (lead ++ "." ++ ext) =
      ⟨(directory.map (·.kind)).getD .relative, front ++ (lead ++ "." ++ ext)⟩ := by
    rw [← hfront _ (hlead.append_extension hext), String.empty_append]
  have hstream : PathKind.isStream ((directory.map (·.kind)).getD .relative) = false :=
    @isStream_anchored _ "" hanchor
  rw [hplace hext, withExtension_of_isEnding hlead hext hext'.1 hstream, ← hplace hext'] at h
  exact (Except.ok.inj h).symm

/-- A bundle in the working directory is named after the image. -/
lemma bundle_anchored (hname : IsEnding name.toList) :
    (anchored directory name).bundle =
      anchored directory (name ++ "." ++ FileType.dSYM.extension) := by
  have hempty : isRooted "" = false := rfl
  obtain ⟨front, hfront⟩ := exists_front_anchored directory hempty
  have hext : IsExtension FileType.dSYM.extension := by decide
  have hbundle := hfront _ (hname.append_extension hext)
  have himage := hfront _ hname
  rw [String.empty_append] at hbundle himage
  rw [hbundle, himage, bundle]
  simp only [String.append_assoc]

end VirtualPath

/-- The type that a file of this type has as an input. -/
def FileType.asInput : FileType → FileType
  | .image => .object
  | type => type

namespace Plan

variable {surroundings : Surroundings} {arguments : List String} {settings : Settings}
  {unit : CompileUnit} {compiles merges links jobs : List Job} {file input : TypedPath}
  {path : VirtualPath} {product : LinkProduct}

/-! ## Files that are kept -/

/-- The file lies in the working directory, under a name that says what it is taken for. -/
def Placed (settings : Settings) (file : TypedPath) : Prop :=
  ∃ name : String, IsFileName name.toList ∧
    file.path = .anchored settings.workingDirectory name ∧
    ((LexicalPath.extension? name).bind FileType.ofExtension?).getD .object = file.type.asInput

lemma placed_append {lead : String} {type : FileType} (hlead : IsEnding lead.toList)
    (htype : type ≠ .image) :
    Placed settings
      ⟨.anchored settings.workingDirectory (lead ++ "." ++ type.extension), type⟩ := by
  have hext := FileType.isExtension_extension htype
  refine ⟨_, (hlead.append_extension hext).isFileName List.not_mem_nil, rfl, ?_⟩
  rw [extension?_append hlead hext, Option.bind_some]
  cases type with
  | image => exact absurd rfl htype
  | _ => rfl

/-- A list of dependencies is placed if the file beside it is. -/
lemma placed_withExtension (hanchor : IsAnchor settings.workingDirectory) {lead ext : String}
    (hlead : IsEnding lead.toList) (hext : IsExtension ext) {type : FileType}
    (htype : type ≠ .image)
    (h : (VirtualPath.anchored settings.workingDirectory (lead ++ "." ++ ext)).withExtension
      type.extension = .ok path) : Placed settings ⟨path, type⟩ := by
  have hext' := FileType.isExtension_extension htype
  rw [VirtualPath.anchored_withExtension hanchor hlead hext hext' h]
  exact placed_append hlead htype

/-- No type of files has the extension of a product, if that has one. -/
lemma ofExtension?_defaultProductName (hname : Text.isIdentifier settings.moduleName = true)
    (product : LinkProduct) :
    (LexicalPath.extension? (defaultProductName settings product)).bind FileType.ofExtension? =
      none := by
  rcases defaultProductName_eq settings product with ⟨-, ext, hmem, hcalled⟩ | ⟨-, hcalled⟩
  · have hunknown : ∀ ext ∈ libraryExtensions, FileType.ofExtension? ext = none := by decide
    rw [hcalled, extension?_append (isEnding_library hname)
      (isExtension_of_mem_libraryExtensions ext hmem), Option.bind_some, hunknown ext hmem]
  · rw [hcalled, extension?_of_isIdentifier hname]
    rfl

lemma placed_product (hname : Text.isIdentifier settings.moduleName = true) :
    Placed settings
      ⟨.anchored settings.workingDirectory (defaultProductName settings product), .image⟩ := by
  refine ⟨_, (isEnding_defaultProductName hname product).isFileName List.not_mem_nil, rfl, ?_⟩
  rw [ofExtension?_defaultProductName hname product]
  rfl

lemma isTemporary_scratchFile {type : FileType} (h : unit.scratchFile settings type = .ok path) :
    path.isTemporary = true := by
  rw [scratchFile_eq h]
  rfl

/-- Of the module and its documentation, neither or both are kept. -/
lemma placed_moduleFiles (hresolved : settings.Resolved surroundings arguments)
    (hunnamed : settings.options.hasAny Settings.outputOptions = false)
    (hname : Text.isIdentifier settings.moduleName = true) {files : ModuleFiles}
    (hfiles : settings.moduleFiles = some files) :
    files.output.path.isTemporary = true ∧ files.documentation.isTemporary = true ∨
      files.output.path = .anchored settings.workingDirectory
          (ModuleOutput.fileName settings.moduleName) ∧
        Placed settings ⟨files.output.path, .swiftModule⟩ ∧
        Placed settings ⟨files.documentation, .swiftDocumentation⟩ := by
  have hmodule := Text.isEnding_of_isIdentifier hname
  have hdocumentation := hresolved.documentation_eq_ok hunnamed hfiles
  rcases hresolved.modulePath_eq hunnamed hfiles with ⟨-, -, hpath⟩ | ⟨-, -, hpath⟩
  · rw [hpath, ModuleOutput.fileName] at hdocumentation
    refine .inr ⟨hpath, ?_, placed_withExtension hresolved.isAnchor hmodule (by decide) (by decide)
      hdocumentation⟩
    rw [hpath]
    exact placed_append hmodule (by decide)
  · have htemporary : files.output.path.isTemporary = true := by
      rw [hpath]
      rfl
    exact .inl ⟨htemporary,
      (VirtualPath.isTemporary_withExtension (by decide) hdocumentation).trans htemporary⟩

lemma placed_of_module (hresolved : settings.Resolved surroundings arguments)
    (hunnamed : settings.options.hasAny Settings.outputOptions = false)
    (hname : Text.isIdentifier settings.moduleName = true) {files : ModuleFiles}
    (hfiles : settings.moduleFiles = some files)
    (h : typed file = (.swiftModule, .ok files.output.path) ∨
      typed file = (.swiftDocumentation, .ok files.documentation)) :
    file.path.isTemporary = true ∨ Placed settings file := by
  obtain ⟨path, type⟩ := file
  rcases h with h | h
  · obtain ⟨rfl, hpath⟩ := typed_eq_iff.1 h
    obtain rfl : files.output.path = path := by simpa using hpath
    rcases placed_moduleFiles hresolved hunnamed hname hfiles with ⟨htemporary, -⟩ | ⟨-, hplaced, -⟩
    · exact .inl htemporary
    · exact .inr hplaced
  · obtain ⟨rfl, hpath⟩ := typed_eq_iff.1 h
    obtain rfl : files.documentation = path := by simpa using hpath
    rcases placed_moduleFiles hresolved hunnamed hname hfiles with ⟨-, htemporary⟩ | ⟨-, -, hplaced⟩
    · exact .inl htemporary
    · exact .inr hplaced

lemma placed_object (hanchor : IsAnchor settings.workingDirectory)
    (hunnamed : settings.options.hasAny Settings.outputOptions = false)
    (h : unit.objectPath settings = .ok path) :
    path.isTemporary = true ∨ path = .anchored settings.workingDirectory
      (unit.stem settings ++ "." ++ FileType.object.extension) := by
  cases hproduct : settings.goal.product? with
  | none => exact .inr (objectPath_eq_anchored hanchor hunnamed hproduct h).2
  | some product =>
    obtain rfl := objectPath_eq_scratch (by simp [hproduct]) h
    exact .inl rfl

lemma placed_dependencies (hresolved : settings.Resolved surroundings arguments)
    (hunnamed : settings.options.hasAny Settings.outputOptions = false)
    (hname : Text.isIdentifier settings.moduleName = true) (hunit : unit ∈ compileUnits settings)
    (h : dependenciesBeside settings unit = .ok path) :
    path.isTemporary = true ∨ Placed settings ⟨path, .dependencies⟩ := by
  have hstem := isEnding_stem hresolved hname hunit
  rw [dependenciesBeside] at h
  split at h
  · obtain ⟨object, hobject, hpath⟩ := bind_eq_ok.1 h
    rcases placed_object hresolved.isAnchor hunnamed hobject with htemporary | rfl
    · exact .inl ((VirtualPath.isTemporary_withExtension (by decide) hpath).trans htemporary)
    · exact .inr (placed_withExtension hresolved.isAnchor hstem (by decide) (by decide) hpath)
  · split at h
    · exact .inl (isTemporary_scratchFile h)
    · next files hfiles =>
      split at h
      · obtain ⟨module, hmodule, hpath⟩ := bind_eq_ok.1 h
        exact .inl ((VirtualPath.isTemporary_withExtension (by decide) hpath).trans
          (isTemporary_scratchFile hmodule))
      · rcases placed_moduleFiles hresolved hunnamed hname hfiles with ⟨htemporary, -⟩ | ⟨hplace, -⟩
        · exact .inl ((VirtualPath.isTemporary_withExtension (by decide) h).trans htemporary)
        · rw [hplace, ModuleOutput.fileName] at h
          exact .inr (placed_withExtension hresolved.isAnchor (Text.isEnding_of_isIdentifier hname)
            (by decide) (by decide) h)

/-- If the module has a proper name, then what a unit writes is temporary or placed. -/
lemma placed_of_mem_unitOutputs (hresolved : settings.Resolved surroundings arguments)
    (hunnamed : settings.options.hasAny Settings.outputOptions = false)
    (hname : Text.isIdentifier settings.moduleName = true) (hunit : unit ∈ compileUnits settings)
    (h : typed file ∈ unitOutputs settings unit) :
    file.path.isTemporary = true ∨ Placed settings file := by
  obtain ⟨path, type⟩ := file
  rcases mem_unitOutputs_iff.1 h with ⟨-, hobject⟩ | hmodule | ⟨-, hlist⟩
  · obtain ⟨rfl, hpath⟩ := typed_eq_iff.1 hobject
    rcases placed_object hresolved.isAnchor hunnamed hpath with htemporary | hplace
    · exact .inl htemporary
    · refine .inr ?_
      dsimp only at hplace
      rw [hplace]
      exact placed_append (isEnding_stem hresolved hname hunit) (by decide)
  · obtain ⟨files, hfiles, ⟨-, hpart⟩ | ⟨-, hwhole⟩⟩ := mem_unitModules_iff.1 hmodule
    · rcases hpart with hpart | hpart
      · exact .inl (isTemporary_scratchFile (typed_eq_iff.1 hpart).2)
      · exact .inl (isTemporary_scratchFile (typed_eq_iff.1 hpart).2)
    · exact placed_of_module hresolved hunnamed hname hfiles hwhole
  · obtain ⟨rfl, hpath⟩ := typed_eq_iff.1 hlist
    exact placed_dependencies hresolved hunnamed hname hunit hpath

lemma placed_of_mem_mergeJobs (hresolved : settings.Resolved surroundings arguments)
    (hunnamed : settings.options.hasAny Settings.outputOptions = false)
    (hname : Text.isIdentifier settings.moduleName = true)
    (h : mergeJobs settings compiles = .ok merges) (hfile : file ∈ merges.flatMap (·.outputs)) :
    file.path.isTemporary = true ∨ Placed settings file := by
  rcases outputs_of_mergeJobs h with ⟨-, files, hfiles, houtputs⟩ | ⟨-, hnone⟩
  · rw [houtputs] at hfile
    refine placed_of_module hresolved hunnamed hname hfiles ?_
    simp only [List.mem_cons, List.not_mem_nil, or_false] at hfile
    rcases hfile with rfl | rfl
    · exact .inl rfl
    · exact .inr rfl
  · simp [hnone] at hfile

lemma placed_of_mem_productJobs (hanchor : IsAnchor settings.workingDirectory)
    (hunnamed : settings.options.hasAny Settings.outputOptions = false)
    (hname : Text.isIdentifier settings.moduleName = true)
    (h : productJobs settings compiles = .ok links) (hfile : file ∈ links.flatMap (·.outputs)) :
    file.path.isTemporary = true ∨ Placed settings file := by
  rcases productJobs_eq_ok h with ⟨-, rfl⟩ | ⟨product, -, hlinks⟩
  · simp at hfile
  obtain ⟨extracted, collected, hextracted, hcollected, houtputs⟩ :=
    outputs_of_linkJobs hanchor hunnamed hlinks
  rw [houtputs, List.mem_append, List.mem_cons] at hfile
  rcases hfile with hfile | rfl | hfile
  · rcases hextracted with rfl | ⟨path, rfl, rfl⟩
    · simp at hfile
    · obtain rfl := List.mem_singleton.1 hfile
      exact .inl rfl
  · exact .inr (placed_product hname)
  · rcases hcollected with rfl | ⟨path, rfl, rfl⟩
    · simp at hfile
    · obtain rfl := List.mem_singleton.1 hfile
      have hproduct := isEnding_defaultProductName hname product
      rw [VirtualPath.bundle_anchored hproduct]
      exact .inr (placed_append hproduct (by decide))

/-- If the module has a proper name, then every file of a build is temporary or placed. -/
lemma placed_of_mem_buildJobs (hresolved : settings.Resolved surroundings arguments)
    (hunnamed : settings.options.hasAny Settings.outputOptions = false)
    (hname : Text.isIdentifier settings.moduleName = true) (h : buildJobs settings = .ok jobs)
    (hfile : file ∈ jobs.flatMap (·.outputs)) :
    file.path.isTemporary = true ∨ Placed settings file := by
  obtain ⟨compiles, merges, links, hcompiles, hmerges, hlinks, rfl⟩ := buildJobs_eq_ok h
  rw [List.flatMap_append, List.flatMap_append, List.mem_append, List.mem_append] at hfile
  rcases hfile with (hfile | hfile) | hfile
  · obtain ⟨unit, hunit, htyped⟩ := exists_unit_of_mem_outputs hresolved hunnamed hcompiles hfile
    exact placed_of_mem_unitOutputs hresolved hunnamed hname hunit htyped
  · exact placed_of_mem_mergeJobs hresolved hunnamed hname hmerges hfile
  · exact placed_of_mem_productJobs hresolved.isAnchor hunnamed hname hlinks hfile

/-! ## Types of inputs -/

/-- An input is taken for what the name of the file in the working directory says. -/
lemma type_of_placed (hresolved : settings.Resolved surroundings arguments)
    (hplaced : Placed settings file) (hinput : input ∈ settings.inputs)
    (hpath : file.path = input.path) : input.type = file.type.asInput := by
  obtain ⟨name, hname, hplace, htype⟩ := hplaced
  obtain ⟨text, -, htext⟩ := exists_of_mem_mapM hresolved.inputs hinput
  rcases inputOf_eq_ok htext with rfl | ⟨path, hwritten, hstream, -, -, hresolve, hown⟩
  · have hstdin := @VirtualPath.isStream_anchored _ name hresolved.isAnchor
    rw [← hplace, hpath] at hstdin
    exact absurd hstdin (by decide)
  · rw [← hpath, hplace] at hresolve
    have hbase := VirtualPath.base_of_resolvedIn_anchored hresolved.isAnchor
      (VirtualPath.canonical_ofText hwritten) hstream hname hresolve
    rw [hown, VirtualPath.extension?, if_neg (by simp [hstream]), hbase, htype]

/-- An input with the extension of a type is of this type, unless it is an object. -/
lemma type_of_fits (hresolved : settings.Resolved surroundings arguments)
    (hfit : Fits settings file) (hinput : input ∈ settings.inputs)
    (hpath : file.path = input.path) : input.type = file.type ∨ input.type = .object := by
  have hext := hfit.extension
  rw [hpath] at hext
  rcases endsWith_of_mem_inputs hresolved hinput with rfl | hobject | ⟨himage, -, hends⟩
  · obtain ⟨lead, hlead⟩ := hext
    have hlength := congrArg String.length hlead
    have hdot : ".".length = 1 := rfl
    simp only [VirtualPath.standardInput, String.length_append, String.length_empty] at hlength
    omega
  · exact .inr hobject
  · exact .inl (FileType.eq_of_extension_eq (hends.hasExtension.unique hext
      (FileType.isExtension_extension himage) (FileType.isExtension_extension hfit.notImage)))

/-- An input that is called like a library is taken for an object. -/
lemma type_of_library (hresolved : settings.Resolved surroundings arguments) {ext : String}
    (hext : ext ∈ libraryExtensions) (hinput : input ∈ settings.inputs)
    (hpath : VirtualPath.anchored settings.workingDirectory
      ("lib" ++ settings.moduleName ++ "." ++ ext) = input.path) : input.type = .object := by
  have hcalled := @hasExtension_library settings ext hext
  have hstream := @VirtualPath.isStream_anchored _ ("lib" ++ settings.moduleName ++ "." ++ ext)
    hresolved.isAnchor
  rw [hpath] at hcalled hstream
  rcases endsWith_of_mem_inputs hresolved hinput with rfl | hobject | ⟨himage, -, hends⟩
  · exact absurd hstream (by decide)
  · exact hobject
  · have heq := hends.hasExtension.unique hcalled (FileType.isExtension_extension himage)
      (isExtension_of_mem_libraryExtensions ext hext)
    rw [← heq] at hext
    revert hext
    cases input.type <;> decide

end Plan

end SwiftPlan
