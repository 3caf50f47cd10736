import Mathlib.Data.List.Nodup
import SwiftPlan.Proofs.Json
import SwiftPlan.Proofs.Settings.Paths

/-!
# What is kept of an output-file map

A document is read member by member.  Reading stops at the first member that is no object; what is
noted until then stays noted.  A member of an entry that is not a destination for a known kind of
output costs one notice and is left out.  So the notices are read off the members of the entries one
by one (`fault?`), and so is what is kept of them (`kept?`).

Names in a settled document differ, and kinds of output have different keys.  So no entry hides
another one, and no destination of an entry does: what is kept is found again (`find?_eq_some_iff`).
-/

namespace SwiftPlan

/-! ## Documents -/

namespace Json

/-- The members of a value, if it is an object. -/
def members? : Json → Option (List (String × Json))
  | .object members => some members
  | _ => none

/-- The text of a value, if it is a text and not empty. -/
def destination? : Json → Option String
  | .string text => if text = "" then none else some text
  | _ => none

lemma members?_eq_some_iff {value : Json} {members : List (String × Json)} :
    value.members? = some members ↔ value = .object members := by
  cases value <;> simp [members?]

lemma destination?_eq_some_iff {value : Json} {text : String} :
    value.destination? = some text ↔ value = .string text ∧ text ≠ "" := by
  cases value with
  | string other =>
    simp only [destination?, Json.string.injEq]
    split
    · next hempty => simp [hempty, eq_comm]
    · next hne =>
      constructor
      · rintro ⟨⟩
        exact ⟨rfl, hne⟩
      · rintro ⟨rfl, -⟩
        rfl
  | _ => simp [destination?]

end Json

namespace OutputFileMap

variable {source key kind : String} {members entry : List (String × Json)} {value : Json}
  {type : FileType} {path : VirtualPath} {map : OutputFileMap}

/-! ## Members of an entry -/

/-- What is noted for a member of an entry, if anything: that its kind is not known, or else that it
is not a nonempty text. -/
def fault? (source : String) (member : String × Json) : Option Notice :=
  if ∀ type ∈ FileType.all, type.mapKey ≠ member.1 then some (.unknownOutputKind source member.1)
  else if member.2.destination? = none then some (.invalidDestination source member.1)
  else none

/-- What is noted for the members of entries, in the order of the document. -/
def faults (source : String) (members : List (String × Json)) : List Notice :=
  (members.flatMap fun member => member.2.members?.getD []).filterMap (fault? source)

/-- What is kept of a member of an entry. -/
def kept? (member : String × Json) : Option (FileType × VirtualPath) := do
  let type ← FileType.ofMapKey? member.1
  let text ← member.2.destination?
  let path ← (VirtualPath.ofText text).toOption
  return (type, path)

/-- What is kept of a member of a document. -/
def keptEntry (member : String × Json) : String × OutputEntry :=
  (member.1, (member.2.members?.getD []).filterMap kept?)

lemma kept?_eq_some_iff :
    kept? (kind, value) = some (type, path) ↔
      type.mapKey = kind ∧
        ∃ text, value = .string text ∧ text ≠ "" ∧ VirtualPath.ofText text = .ok path := by
  simp only [kept?, Option.bind_eq_bind, Option.bind_eq_some_iff, FileType.ofMapKey?_eq_some_iff,
    Json.destination?_eq_some_iff, toOption_eq_some, Option.pure_def, Option.some.injEq,
    Prod.mk.injEq]
  constructor
  · rintro ⟨_, hkind, text, ⟨hvalue, hne⟩, _, hpath, rfl, rfl⟩
    exact ⟨hkind, text, hvalue, hne, hpath⟩
  · rintro ⟨hkind, text, hvalue, hne, hpath⟩
    exact ⟨type, hkind, text, ⟨hvalue, hne⟩, path, hpath, rfl, rfl⟩

lemma ofMapKey?_eq_none_iff :
    FileType.ofMapKey? kind = none ↔ ∀ type ∈ FileType.all, type.mapKey ≠ kind := by
  simp [FileType.ofMapKey?]

/-- A member of an entry is noted or kept. -/
lemma readDestination_eq :
    readDestination source kind value =
      ⟨(fault? source (kind, value)).toList, .ok (kept? (kind, value))⟩ := by
  simp only [readDestination, fault?, ← ofMapKey?_eq_none_iff]
  cases htype : FileType.ofMapKey? kind with
  | none =>
    simp only [kept?, htype]
    rfl
  | some type =>
    cases value with
    | string text =>
      by_cases hempty : text = ""
      · subst hempty
        simp only [kept?, htype]
        rfl
      · obtain ⟨path, hpath⟩ := VirtualPath.succeeds_ofText hempty
        have hkind : type.mapKey = kind := FileType.ofMapKey?_eq_some_iff.1 htype
        rw [kept?_eq_some_iff.2 ⟨hkind, text, rfl, hempty, hpath⟩]
        simp only [Json.destination?, if_neg hempty, hpath]
        rfl
    | _ =>
      simp only [kept?, htype]
      rfl

/-- The members of an entry are read one by one. -/
lemma readEntry_eq :
    readEntry source entry = ⟨entry.filterMap (fault? source), .ok (entry.filterMap kept?)⟩ := by
  induction entry with
  | nil => rfl
  | cons member rest ih =>
    rw [readEntry, readDestination_eq, ih]
    simp only [Diagnosed.bind_ok, Diagnosed.pure_eq, List.filterMap_eq_flatMap_toList,
      List.flatMap_cons, List.append_nil]

/-! ## Members of a document -/

lemma faults_cons {member : String × Json} :
    faults source (member :: members) =
      (member.2.members?.getD []).filterMap (fault? source) ++ faults source members := by
  rw [faults, List.flatMap_cons, List.filterMap_append]
  rfl

/-- As long as members are objects, they are read one by one. -/
lemma readEntries_append {front back : List (String × Json)}
    (h : ∀ member ∈ front, member.2.members?.isSome) :
    readEntries source (front ++ back) =
      ⟨faults source front ++ (readEntries source back).notices,
        (readEntries source back).outcome.map (front.map keptEntry ++ ·)⟩ := by
  induction front with
  | nil =>
    rw [List.nil_append]
    obtain ⟨notices, failure | entries⟩ := readEntries source back <;> simp [faults, Except.map]
  | cons member rest ih =>
    obtain ⟨hfirst, hrest⟩ := List.forall_mem_cons.1 h
    obtain ⟨key, value⟩ := member
    obtain ⟨entry, hentry⟩ := Option.isSome_iff_exists.1 hfirst
    obtain rfl := Json.members?_eq_some_iff.1 hentry
    rw [List.cons_append, readEntries, readEntry_eq, ih hrest, faults_cons]
    obtain ⟨notices, failure | entries⟩ := readEntries source back <;>
      simp [Json.members?, keptEntry, Except.map]

/-- A document of objects is read to its end. -/
lemma ofJson_of_objects (h : ∀ member ∈ members, member.2.members?.isSome) :
    ofJson source (.object members) = ⟨faults source members, .ok ⟨members.map keptEntry⟩⟩ := by
  rw [ofJson, ← List.append_nil members, readEntries_append h]
  simp [readEntries, Except.map]

/-- Reading stops at the first member that is no object. -/
lemma ofJson_of_offender {front back : List (String × Json)}
    (h : ∀ member ∈ front, member.2.members?.isSome) (hvalue : value.members? = none) :
    ofJson source (.object (front ++ (key, value) :: back)) =
      ⟨faults source front, .error (.driver (.outputFileMap (.entryNotObject source key)))⟩ := by
  have hstop : readEntries source ((key, value) :: back) =
      ⟨[], .error (.driver (.outputFileMap (.entryNotObject source key)))⟩ := by
    cases value with
    | object => cases hvalue
    | _ => rfl
  rw [ofJson, readEntries_append h, hstop]
  simp [Except.map]

lemma ofJson_of_not_object {document : Json} (h : document.members? = none) :
    ofJson source document = ⟨[], .error (.driver (.outputFileMap (.notObject source)))⟩ := by
  cases document with
  | object => cases h
  | _ => rfl

/-- A list has a first member that is no object, if not all of them are objects. -/
lemma exists_offender (h : ¬ ∀ member ∈ members, member.2.members?.isSome) :
    ∃ front key value back, members = front ++ (key, value) :: back ∧
      (∀ member ∈ front, member.2.members?.isSome) ∧ value.members? = none := by
  induction members with
  | nil => simp at h
  | cons member rest ih =>
    obtain ⟨key, value⟩ := member
    cases hvalue : value.members? with
    | none => exact ⟨[], key, value, rest, rfl, by simp, hvalue⟩
    | some entry =>
      have hrest : ¬ ∀ member ∈ rest, member.2.members?.isSome := fun hall =>
        h (List.forall_mem_cons.2 ⟨by simp [hvalue], hall⟩)
      obtain ⟨front, key', value', back, rfl, hfront, hstop⟩ := ih hrest
      exact ⟨(key, value) :: front, key', value', back, rfl,
        List.forall_mem_cons.2 ⟨by simp [hvalue], hfront⟩, hstop⟩

/-! ## Looking up -/

lemma lookup_eq_some_iff_mem {α β : Type} [BEq α] [LawfulBEq α] {pairs : List (α × β)}
    (h : (pairs.map (·.1)).Nodup) {key : α} {value : β} :
    pairs.lookup key = some value ↔ (key, value) ∈ pairs := by
  constructor
  · exact mem_of_lookup
  · intro hmem
    obtain ⟨front, back, rfl⟩ := List.append_of_mem hmem
    rw [List.lookup_eq_some_iff]
    refine ⟨front, back, rfl, fun pair hpair => bne_iff_ne.2 fun hsame => ?_⟩
    rw [List.map_append, List.nodup_append] at h
    exact h.2.2 pair.1 (List.mem_map_of_mem hpair) key (by simp) hsame.symm

/-- Destinations of an entry have the types that the names of its members stand for, so they differ
if the names do. -/
lemma nodup_kept (h : (entry.map (·.1)).Nodup) : ((entry.filterMap kept?).map (·.1)).Nodup := by
  have hkeys :
      (((entry.filterMap kept?).map (·.1)).map FileType.mapKey).Sublist (entry.map (·.1)) := by
    clear h
    induction entry with
    | nil => exact .slnil
    | cons member rest ih =>
      rw [List.filterMap_cons]
      cases hkept : kept? member with
      | none => exact ih.cons _
      | some destination =>
        have hkey : destination.1.mapKey = member.1 := (kept?_eq_some_iff.1 hkept).1
        simpa [hkey] using ih.cons_cons member.1
  exact List.Nodup.of_map _ (h.sublist hkeys)

/-- The document gives a text as the destination of an output. -/
def Gives (members : List (String × Json)) (key : String) (type : FileType) (text : String) :
    Prop :=
  ∃ entry, (key, .object entry) ∈ members ∧ (type.mapKey, .string text) ∈ entry ∧ text ≠ ""

/-- What the map gives is what the document gives. -/
lemma find?_eq_some_iff (h : (Json.object members).Settled) :
    (OutputFileMap.mk (members.map keptEntry)).find? key type = some path ↔
      ∃ text, Gives members key type text ∧ VirtualPath.ofText text = .ok path := by
  obtain ⟨hnames, hvalues⟩ : (members.map (·.1)).Nodup ∧ ∀ member ∈ members, member.2.Settled := by
    cases h with
    | object hnames hvalues => exact ⟨hnames, hvalues⟩
  have hentries : ((members.map keptEntry).map (·.1)).Nodup := by
    rwa [List.map_map]
  rw [find?, Option.bind_eq_some_iff]
  constructor
  · rintro ⟨kept, hkept, hpath⟩
    obtain ⟨⟨_, value⟩, hmember, hsame⟩ := List.mem_map.1 (mem_of_lookup hkept)
    obtain ⟨rfl, rfl⟩ := Prod.mk.inj hsame
    obtain ⟨⟨kind, destination⟩, hdestination, hmade⟩ := List.mem_filterMap.1 (mem_of_lookup hpath)
    cases hvalue : value.members? with
    | none => simp [hvalue] at hdestination
    | some entry =>
      rw [hvalue, Option.getD_some] at hdestination
      obtain rfl := Json.members?_eq_some_iff.1 hvalue
      obtain ⟨rfl, text, rfl, hne, htext⟩ := kept?_eq_some_iff.1 hmade
      exact ⟨text, ⟨entry, hmember, hdestination, hne⟩, htext⟩
  · rintro ⟨text, ⟨entry, hmember, hdestination, hne⟩, htext⟩
    have hentry : (entry.map (·.1)).Nodup := by
      cases hvalues _ hmember with
      | object hnames => exact hnames
    have hkept : kept? (type.mapKey, .string text) = some (type, path) :=
      kept?_eq_some_iff.2 ⟨rfl, text, rfl, hne, htext⟩
    exact ⟨entry.filterMap kept?,
      (lookup_eq_some_iff_mem hentries).2 (List.mem_map.2 ⟨_, hmember, rfl⟩),
      (lookup_eq_some_iff_mem (nodup_kept hentry)).2
        (List.mem_filterMap.2 ⟨_, hdestination, hkept⟩)⟩

/-- The two ways to ask a map differ only in how they say that there is nothing. -/
lemma get_eq_ok_iff : map.get key type = .ok path ↔ map.find? key type = some path := by
  rw [get, find?]
  cases map.entries.lookup key with
  | none => simp
  | some entry =>
    rw [Option.bind_some]
    dsimp only
    cases List.lookup type entry <;> simp

/-- The map keeps exactly what is valid in the document with these members. -/
structure Keeps (members : List (String × Json)) (map : OutputFileMap) : Prop where
  /-- The map has the entries of the document, in order. -/
  keys : map.entries.map (·.1) = members.map (·.1)
  /-- A destination that the document gives is found. -/
  given : ∀ key type text, Gives members key type text →
    ∃ path, VirtualPath.ofText text = .ok path ∧ map.find? key type = some path
  /-- Nothing else is found. -/
  absent : ∀ key type, (∀ text, ¬ Gives members key type text) → map.find? key type = none
  /-- A destination can also be demanded. -/
  demanded : ∀ key type path, map.get key type = .ok path ↔ map.find? key type = some path

lemma keeps_kept (h : (Json.object members).Settled) : Keeps members ⟨members.map keptEntry⟩ where
  keys := by
    rw [List.map_map]
    rfl
  given key type text htext := by
    have ⟨_, _, _, hne⟩ := htext
    obtain ⟨path, hpath⟩ := VirtualPath.succeeds_ofText hne
    exact ⟨path, hpath, (find?_eq_some_iff h).2 ⟨text, htext, hpath⟩⟩
  absent key type hnone := by
    rw [Option.eq_none_iff_forall_ne_some]
    intro path hpath
    obtain ⟨text, htext, -⟩ := (find?_eq_some_iff h).1 hpath
    exact hnone text htext
  demanded key type path := get_eq_ok_iff

/-- **An output-file map keeps exactly the valid entries.**  Reading a settled document succeeds
exactly if it is an object of objects.  Then the map keeps what is valid, and what is noted are the
faults of the members of its entries.  Otherwise the error tells that the document is no object, or
which of its members is the first one that is none, and what is noted are the faults in front of
it.  Unknown kinds are warnings, and other faults are errors. -/
theorem ofJson_keeps_valid (source : String) {document : Json} (h : document.Settled) :
    ((∃ map, (ofJson source document).outcome = .ok map) ↔
        ∃ members, document = .object members ∧ ∀ member ∈ members, member.2.members?.isSome) ∧
      (∀ members, document = .object members → (∀ member ∈ members, member.2.members?.isSome) →
        (ofJson source document).notices = faults source members ∧
          ∃ map, (ofJson source document).outcome = .ok map ∧ Keeps members map) ∧
      (document.members? = none →
        ofJson source document = ⟨[], .error (.driver (.outputFileMap (.notObject source)))⟩) ∧
      (∀ front key value back, document = .object (front ++ (key, value) :: back) →
        (∀ member ∈ front, member.2.members?.isSome) → value.members? = none →
        ofJson source document = ⟨faults source front,
          .error (.driver (.outputFileMap (.entryNotObject source key)))⟩) ∧
      ∀ kind, (Notice.unknownOutputKind source kind).diagnostic.severity = .warning ∧
        (Notice.invalidDestination source kind).diagnostic.severity = .error := by
  refine ⟨⟨?_, ?_⟩, ?_, ofJson_of_not_object, ?_, fun kind => ⟨rfl, rfl⟩⟩
  · rintro ⟨map, hmap⟩
    cases hdocument : document.members? with
    | none =>
      rw [ofJson_of_not_object hdocument] at hmap
      cases hmap
    | some members =>
      obtain rfl := Json.members?_eq_some_iff.1 hdocument
      refine ⟨members, rfl, ?_⟩
      by_contra hall
      obtain ⟨front, key, value, back, rfl, hfront, hvalue⟩ := exists_offender hall
      rw [ofJson_of_offender hfront hvalue] at hmap
      cases hmap
  · rintro ⟨members, rfl, hall⟩
    rw [ofJson_of_objects hall]
    exact ⟨_, rfl⟩
  · rintro members rfl hall
    rw [ofJson_of_objects hall]
    exact ⟨rfl, _, rfl, keeps_kept h⟩
  · rintro front key value back rfl hfront hvalue
    exact ofJson_of_offender hfront hvalue

/-- A document with a repeated kind, an unknown kind, an empty text and a dash. -/
def crowdedText : String :=
  "\x7b\"a.swift\": \x7b\"object\": 1, \"objekt\": 2, \"swiftdoc\": \"\", \"object\": \"./b.o\"\x7d, " ++
    "\"\": \x7b\"dSYM\": \"-\"\x7d\x7d"

/-- Of two members of one name the last one counts, two faults are noted, and a dash is the standard
input.  If a number follows, reading stops there. -/
theorem ofJson_keeps_valid_of_crowdedText :
    (∃ document members map, Json.ofText crowdedText.toList = .ok document ∧
      document = .object members ∧ Keeps members map ∧
      (ofJson "m.json" document).outcome = .ok map ∧
      (ofJson "m.json" document).notices =
        [.unknownOutputKind "m.json" "objekt", .invalidDestination "m.json" "swiftdoc"] ∧
      map.entries =
        [("a.swift", [(.object, ⟨.relative, "b.o"⟩)]), (wholeBuild, [(.dSYM, .standardInput)])]) ∧
    ofJson "m.json" (.object [("a.swift", .object [("objekt", .null)]), ("b", .number "1")]) =
      ⟨[.unknownOutputKind "m.json" "objekt"],
        .error (.driver (.outputFileMap (.entryNotObject "m.json" "b")))⟩ := by
  constructor
  · have hread : ((Json.ofText crowdedText.toList).toOption.map fun document =>
        (ofJson "m.json" document).outcome.toOption.map (·.entries)) = some (some
          [("a.swift", [(.object, ⟨.relative, "b.o"⟩)]),
            (wholeBuild, [(.dSYM, .standardInput)])]) := by
      decide +kernel
    have hnoted : ((Json.ofText crowdedText.toList).toOption.map fun document =>
        (ofJson "m.json" document).notices) =
          some [.unknownOutputKind "m.json" "objekt", .invalidDestination "m.json" "swiftdoc"] := by
      decide +kernel
    obtain ⟨document, hdocument, hread⟩ := Option.map_eq_some_iff.1 hread
    obtain ⟨map, hmap, hentries⟩ := Option.map_eq_some_iff.1 hread
    rw [hdocument, Option.map_some, Option.some.injEq] at hnoted
    have hsettled := Json.settled_ofText (toOption_eq_some.1 hdocument)
    obtain ⟨hsucceeds, hkeeps, -⟩ := ofJson_keeps_valid "m.json" hsettled
    obtain ⟨members, hmembers, hobjects⟩ := hsucceeds.1 ⟨map, toOption_eq_some.1 hmap⟩
    obtain ⟨-, other, hother, hkept⟩ := hkeeps members hmembers hobjects
    obtain rfl := Except.ok.inj (hother.symm.trans (toOption_eq_some.1 hmap))
    exact ⟨document, members, other, toOption_eq_some.1 hdocument, hmembers, hkept, hother,
      hnoted, hentries⟩
  · have hsettled : Json.Settled
        (.object ([("a.swift", .object [("objekt", .null)])] ++ [("b", .number "1")])) := by
      refine .object (by decide) ?_
      simp only [List.cons_append, List.nil_append, List.forall_mem_cons]
      exact ⟨.object (by decide) (by simp [Json.Settled.null]), .number "1", by simp⟩
    obtain ⟨-, -, -, hstop, -⟩ := ofJson_keeps_valid "m.json" hsettled
    exact hstop _ _ _ _ rfl (by simp [Json.members?]) rfl

end OutputFileMap

end SwiftPlan
