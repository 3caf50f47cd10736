import SwiftPlan.Proofs.ResponseFile.Reference

/-!
# Arguments that are expanded already

Expansion leaves a reference standing only if its file cannot be read.  A reference that leads back
is dropped, and every other one is replaced by what is in its file, where the same holds.  So in
what comes of an expansion no reference can be followed (`settled_of_expandIn`).

When such arguments are expanded from the start, no file is in the middle of being expanded and
nothing can lead back, so that each of them stands for itself (`Settled.expand_eq`).  This is kept
where arguments are taken away, and where words are added that are no references.  Arguments may
also be expanded in two parts, since each of them is expanded among the same active files as the
first (`expand_composes`).
-/

namespace SwiftPlan.ResponseFile

variable {fs : FileSystem} {active : List Location} {argument name : String}
  {arguments rest expanded first second front back : List String}

/-- The argument refers to nothing, or by its name to no file that can be read. -/
def Stands (fs : FileSystem) (argument : String) : Prop :=
  ∀ name ∈ Text.after? "@" argument, fs.isName name = true ∧ fs.readText? name = none

/-- No argument refers to a file that can be read. -/
def Settled (fs : FileSystem) (arguments : List String) : Prop :=
  ∀ argument ∈ arguments, Stands fs argument

instance (fs : FileSystem) : DecidablePred (Stands fs) := fun argument =>
  inferInstanceAs (Decidable (∀ name ∈ Text.after? "@" argument, _))

instance (fs : FileSystem) : DecidablePred (Settled fs) := fun arguments =>
  inferInstanceAs (Decidable (∀ argument ∈ arguments, _))

namespace Settled

lemma nil : Settled fs [] :=
  List.forall_mem_nil _

lemma cons (h : Stands fs argument) (hrest : Settled fs rest) : Settled fs (argument :: rest) :=
  List.forall_mem_cons.2 ⟨h, hrest⟩

/-- A word that is no reference does not matter. -/
lemma cons_word (h : Text.after? "@" argument = none) (hrest : Settled fs rest) :
    Settled fs (argument :: rest) :=
  hrest.cons (by simp [Stands, h])

lemma append (hfirst : Settled fs first) (hsecond : Settled fs second) :
    Settled fs (first ++ second) :=
  List.forall_mem_append.2 ⟨hfirst, hsecond⟩

lemma subset (h : Settled fs arguments) (hsubset : rest ⊆ arguments) : Settled fs rest :=
  fun argument hargument => h argument (hsubset hargument)

/-- Settled arguments are their own expansion. -/
lemma expand_eq (h : Settled fs arguments) : expand fs arguments = pure arguments := by
  rw [expand]
  induction arguments with
  | nil => exact expandIn_nil
  | cons argument rest ih =>
    obtain ⟨hfirst, hrest⟩ := List.forall_mem_cons.1 h
    cases hname : Text.after? "@" argument with
    | none => rw [expandIn_word hname, ih hrest, map_pure]
    | some name =>
      obtain ⟨hproper, hread⟩ := hfirst name hname
      rw [expandIn_unreadable hname hproper List.not_mem_nil hread, ih hrest, map_pure]

end Settled

/-- What comes of an expansion is settled, whatever files it was in the middle of. -/
lemma settled_of_expandIn (h : (expandIn fs active arguments).outcome = .ok expanded) :
    Settled fs expanded := by
  induction active, arguments using expandIn.induct fs generalizing expanded with
  | case1 active =>
    rw [expandIn_nil] at h
    obtain rfl := Except.ok.inj h
    exact .nil
  | case2 active argument rest hword ih =>
    rw [expandIn_word hword, map_eq_pure_bind, Diagnosed.outcome_bind_eq_ok] at h
    obtain ⟨outer, houter, hexpanded⟩ := h
    obtain rfl := Except.ok.inj hexpanded
    exact .cons_word hword (ih houter)
  | case3 active argument rest name hname hproper hactive ih =>
    -- the reference leads back and leaves nothing
    rw [expandIn_active hname hproper hactive, Diagnosed.outcome_bind_eq_ok] at h
    obtain ⟨-, -, hexpanded⟩ := h
    exact ih hexpanded
  | case4 active argument rest name hname hproper hactive hread ih =>
    rw [expandIn_unreadable hname hproper hactive hread, map_eq_pure_bind,
      Diagnosed.outcome_bind_eq_ok] at h
    obtain ⟨outer, houter, hexpanded⟩ := h
    obtain rfl := Except.ok.inj hexpanded
    have hstands : Stands fs argument := fun other hother => by
      obtain rfl : name = other := Option.some.inj (hname.symm.trans hother)
      exact ⟨hproper, hread⟩
    exact .cons hstands (ih houter)
  | case5 active argument rest name hname _ hactive text hread _ ihinner ihouter =>
    rw [expandIn_file hname hactive hread] at h
    simp only [Diagnosed.outcome_bind_eq_ok] at h
    obtain ⟨words, -, inner, hinner, outer, houter, hexpanded⟩ := h
    obtain rfl := Except.ok.inj hexpanded
    exact (ihinner words hinner).append (ihouter houter)
  | case6 active argument rest name hname himproper =>
    rw [expandIn_improper hname (by simpa using himproper)] at h
    cases h

/-! ## Expansion in parts, and once more -/

/-- **Expansion is compositional and idempotent.**  Arguments that are expanded in two parts give
the two lists one after the other, and first the notices of the first part, whatever files refer to
themselves there.  What has been expanded is its own expansion, without notices. -/
theorem expand_composes (hfirst : (expand fs first).outcome = .ok front)
    (hsecond : (expand fs second).outcome = .ok back) :
    expand fs (first ++ second) =
        ⟨(expand fs first).notices ++ (expand fs second).notices, .ok (front ++ back)⟩ ∧
      expand fs front = pure front := by
  have hsettled : Settled fs front := settled_of_expandIn hfirst
  refine ⟨?_, hsettled.expand_eq⟩
  have hfront : expand fs first = ⟨(expand fs first).notices, .ok front⟩ := by rw [← hfirst]
  have hback : expand fs second = ⟨(expand fs second).notices, .ok back⟩ := by rw [← hsecond]
  calc expand fs (first ++ second)
      = (do
          let front ← expand fs first
          let back ← expand fs second
          return front ++ back) := expandIn_append
    _ = ⟨(expand fs first).notices ++ (expand fs second).notices, .ok (front ++ back)⟩ := by
      rw [hfront, hback]
      simp

/-- A file that names itself, and one that is missing. -/
def selfNaming : FileSystem :=
  .ofFiles "/work" [("args", "-g @./args @missing".toUTF8)]

/-- The file is noted once for each part that it is named in, and the reference to the missing file
is left. -/
theorem expand_composes_of_selfNaming :
    (expand selfNaming ["swiftc", "@args"]).outcome = .ok ["swiftc", "-g", "@missing"] ∧
      (expand selfNaming ["@args", "-O"]).outcome = .ok ["-g", "@missing", "-O"] ∧
      expand selfNaming (["swiftc", "@args"] ++ ["@args", "-O"]) =
        ⟨[.responseFileCycle "./args"] ++ [.responseFileCycle "./args"],
          .ok (["swiftc", "-g", "@missing"] ++ ["-g", "@missing", "-O"])⟩ ∧
      expand selfNaming ["swiftc", "-g", "@missing"] = pure ["swiftc", "-g", "@missing"] := by
  have hread : selfNaming.readText? "args" = some "-g @./args @missing".toList := by
    decide +kernel
  have hwords : tokens "-g @./args @missing".toList = .ok ["-g", "@./args", "@missing"] := by
    decide +kernel
  have hname : Text.after? "@" "@args" = some "args" := by decide +kernel
  have hinside : expandIn selfNaming [selfNaming.locate "args"] ["-g", "@./args", "@missing"] =
      ⟨[.responseFileCycle "./args"], .ok ["-g", "@missing"]⟩ := by
    have hself : Text.after? "@" "@./args" = some "./args" := by decide +kernel
    have hmissing : Text.after? "@" "@missing" = some "missing" := by decide +kernel
    rw [expandIn_word (by decide +kernel), expandIn_active hself rfl (by decide +kernel),
      expandIn_unreadable hmissing rfl (by decide +kernel) (by decide +kernel), expandIn_nil]
    rfl
  have hfile (rest : List String) : expand selfNaming ("@args" :: rest) = (do
      let inner ← ⟨[.responseFileCycle "./args"], .ok ["-g", "@missing"]⟩
      let outer ← expand selfNaming rest
      return inner ++ outer) := by
    rw [expand, expandIn_splittable hname List.not_mem_nil hread hwords, hinside, expand]
  have hfirst : expand selfNaming ["swiftc", "@args"] =
      ⟨[.responseFileCycle "./args"], .ok ["swiftc", "-g", "@missing"]⟩ := by
    rw [expand, expandIn_word (by decide +kernel), ← expand, hfile, expand, expandIn_nil]
    rfl
  have hsecond : expand selfNaming ["@args", "-O"] =
      ⟨[.responseFileCycle "./args"], .ok ["-g", "@missing", "-O"]⟩ := by
    rw [hfile, expand, expandIn_word (by decide +kernel), expandIn_nil]
    rfl
  have hparts := expand_composes (congrArg Diagnosed.outcome hfirst)
    (congrArg Diagnosed.outcome hsecond)
  rw [hfirst, hsecond] at hparts ⊢
  exact ⟨rfl, rfl, hparts⟩

end SwiftPlan.ResponseFile
