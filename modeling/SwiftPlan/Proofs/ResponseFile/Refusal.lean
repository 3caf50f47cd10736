import SwiftPlan.Proofs.ResponseFile.Cycle

/-!
# Response files that are refused

A response file with white space of a wrong kind cannot be split, and the expansion that comes to it
ends without a list of arguments.  So does an expansion that comes to a reference by what is not a
name.  There is no other way for an expansion to fail (`failsWith_expandIn`).  It fails exactly if
such a file or such a reference is reached from the arguments along readable references
(`expand_succeeds_iff`).

Expansion does not follow a reference to a file that it is in the middle of, so it does not take
every walk along references.  But to come to a file it is enough to follow one walk to it, and there
is always one that never returns to a file on the way: from the last visit on, a walk avoids the
place where it began (`leaves_of_walk`).
-/

namespace SwiftPlan.ResponseFile

/-- The file at a place has a readable reference to another place, and expansion is not in the
middle of the file there. -/
def Enters (fs : FileSystem) (active : List Location) (place target : Location) : Prop :=
  Refers fs (Readable fs) place target ∧ target ∉ active

/-- The failure of an expansion: it is not an error of the driver. -/
def IsRefusal (failure : Failure) : Prop :=
  (∃ position, failure = .unexpectedBlank position) ∨ failure = .notText

variable {fs : FileSystem} {active : List Location} {arguments rest expanded : List String}
  {name : String} {text : List Char} {place last : Location}

/-! ## Failures -/

/-- Expansion fails only where a text or a name is refused. -/
lemma failsWith_expandIn : Diagnosed.FailsWith IsRefusal (expandIn fs active arguments) := by
  induction active, arguments using expandIn.induct fs with
  | case1 active =>
    rw [expandIn_nil]
    exact Diagnosed.failsWith_pure []
  | case2 active argument rest hword ih =>
    rw [expandIn_word hword, map_eq_pure_bind]
    exact ih.bind fun outer _ => Diagnosed.failsWith_pure _
  | case3 active argument rest name hname hproper hactive ih =>
    rw [expandIn_active hname hproper hactive]
    exact (Diagnosed.failsWith_of_outcome_eq_ok rfl).bind fun _ _ => ih
  | case4 active argument rest name hname hproper hactive hread ih =>
    rw [expandIn_unreadable hname hproper hactive hread, map_eq_pure_bind]
    exact ih.bind fun outer _ => Diagnosed.failsWith_pure _
  | case5 active argument rest name hname _ hactive text hread _ ihinner ihouter =>
    rw [expandIn_file hname hactive hread]
    have hsplit : Diagnosed.FailsWith IsRefusal
        (Diagnosed.ofExcept ((tokens text).mapError Failure.unexpectedBlank)) :=
      Diagnosed.failsWith_mapError fun position => .inl ⟨position, rfl⟩
    exact hsplit.bind fun words _ => (ihinner words).bind fun inner _ =>
      ihouter.bind fun outer _ => Diagnosed.failsWith_pure _
  | case6 active argument rest name hname himproper =>
    rw [expandIn_improper hname (by simpa using himproper)]
    intro failure hfailure
    exact .inr (Except.error.inj hfailure).symm

/-! ## Files that expansion comes to -/

/-- An expansion that succeeds has expanded what every reference leads to that it followed. -/
lemma exists_outcome_of_reference (h : (expandIn fs active arguments).outcome = .ok expanded)
    (hname : name ∈ references arguments) (hactive : fs.locate name ∉ active)
    (hread : fs.readText? name = some text) :
    ∃ words inner, tokens text = .ok words ∧
      (expandIn fs (fs.locate name :: active) words).outcome = .ok inner := by
  obtain ⟨front, back, rfl⟩ := List.append_of_mem (mem_references.1 hname)
  have hargument : Text.after? "@" ("@" ++ name) = some name := Text.after?_eq_some_iff.2 rfl
  rw [expandIn_append, expandIn_file hargument hactive hread] at h
  simp only [Diagnosed.outcome_bind_eq_ok] at h
  obtain ⟨-, -, -, ⟨words, hwords, inner, hinner, -⟩, -⟩ := h
  exact ⟨words, inner, mapError_eq_ok.1 hwords, hinner⟩

/-- A walk ends where it began, or there is a last time that it leaves this place. -/
lemma leaves_of_walk (h : Relation.ReflTransGen (Enters fs active) place last) :
    last = place ∨ ∃ next, Enters fs (place :: active) place next ∧
      Relation.ReflTransGen (Enters fs (place :: active)) next last := by
  induction h with
  | refl => exact .inl rfl
  | @tail middle last _ henters ih =>
    by_cases hback : last = place
    · exact .inl hback
    have henters' : Enters fs (place :: active) middle last :=
      ⟨henters.1, fun hmem => (List.mem_cons.1 hmem).elim hback henters.2⟩
    rcases ih with rfl | ⟨next, hnext, hwalk⟩
    · exact .inr ⟨last, henters', .refl⟩
    · exact .inr ⟨next, hnext, hwalk.tail henters'⟩

/-- An expansion that succeeds has been asked for nothing but names. -/
lemma isName_of_outcome (h : (expandIn fs active arguments).outcome = .ok expanded)
    (hname : name ∈ references arguments) : fs.isName name = true := by
  obtain ⟨front, back, rfl⟩ := List.append_of_mem (mem_references.1 hname)
  have hargument : Text.after? "@" ("@" ++ name) = some name := Text.after?_eq_some_iff.2 rfl
  rw [← Bool.not_eq_false]
  intro himproper
  rw [expandIn_append, expandIn_improper hargument himproper] at h
  simp only [Diagnosed.outcome_bind_eq_ok] at h
  obtain ⟨_, _, _, hfails, _⟩ := h
  cases hfails

/-- What is in the file at a place has been expanded, in the middle of some files. -/
def Expanded (fs : FileSystem) (place : Location) : Prop :=
  ∃ text words active' inner, fs.textAt? place = some text ∧ tokens text = .ok words ∧
    (expandIn fs active' words).outcome = .ok inner

/-- An expansion that succeeds has expanded every file on a walk past the active ones. -/
lemma expanded_of_outcome_expandIn (h : (expandIn fs active arguments).outcome = .ok expanded)
    (hfirst : Names fs (Readable fs) arguments place) (hactive : place ∉ active)
    (hwalk : Relation.ReflTransGen (Enters fs active) place last) : Expanded fs last := by
  -- below the first file on the walk there is one less that can become active
  induction hsize : (inactive fs active).length using Nat.strongRecOn
    generalizing active arguments expanded place with
  | _ size ih =>
    obtain ⟨name, hname, hreadable, rfl⟩ := hfirst
    obtain ⟨text, hread⟩ := Option.isSome_iff_exists.1 hreadable
    obtain ⟨words, inner, hwords, hinner⟩ := exists_outcome_of_reference h hname hactive hread
    rcases leaves_of_walk hwalk with rfl | ⟨next, ⟨hrefers, hnext⟩, hrest⟩
    · exact ⟨text, words, _, inner, FileSystem.textAt?_locate hread, hwords, hinner⟩
    · obtain ⟨words', hwords', hnames⟩ := hrefers
      obtain rfl : words = words' :=
        Option.some.inj ((argumentsAt?_locate hread hwords).symm.trans hwords')
      have hless : (inactive fs (fs.locate name :: active)).length < size :=
        hsize ▸ length_inactive_cons_lt (FileSystem.locate_mem_locations hread) hactive
      exact ih _ hless hinner hnames hnext hrest rfl

lemma expanded_of_reaches (h : (expand fs arguments).outcome = .ok expanded)
    (hreach : Reaches fs (Readable fs) arguments last) : Expanded fs last := by
  obtain ⟨place, hfirst, hwalk⟩ := hreach
  have hwalk : Relation.ReflTransGen (Enters fs []) place last :=
    Relation.ReflTransGen.mono (fun _ _ hrefers => ⟨hrefers, List.not_mem_nil⟩) _ _ hwalk
  exact expanded_of_outcome_expandIn h hfirst List.not_mem_nil hwalk

/-- **Expansion succeeds** exactly if every file can be split that is reached from the arguments
along readable references, and every reference there is by a name that a file may have. -/
theorem expand_succeeds_iff :
    (∃ expanded, (expand fs arguments).outcome = .ok expanded) ↔
      (∀ place, Reaches fs (Readable fs) arguments place → Splits fs place) ∧
        ProperNames fs arguments := by
  constructor
  · rintro ⟨expanded, hexpanded⟩
    constructor
    · intro place hplace text htext
      obtain ⟨text', words, -, -, htext', hwords, -⟩ := expanded_of_reaches hexpanded hplace
      obtain rfl := Option.some.inj (htext'.symm.trans htext)
      exact ⟨words, hwords⟩
    · rintro name (hname | ⟨place, words, hplace, hwords, hname⟩)
      · exact isName_of_outcome hexpanded hname
      · obtain ⟨text, words', _, inner, htext, hwords', hinner⟩ :=
          expanded_of_reaches hexpanded hplace
        obtain rfl : words' = words := by
          rw [argumentsAt?, htext, Option.bind_some, hwords'] at hwords
          exact Option.some.inj hwords
        exact isName_of_outcome hinner hname
  · exact fun h => exists_outcome_expandIn h.1 h.2

end SwiftPlan.ResponseFile
