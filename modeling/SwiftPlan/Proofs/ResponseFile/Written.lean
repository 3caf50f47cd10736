import SwiftPlan.Proofs.ResponseFile.Plain
import SwiftPlan.Proofs.ResponseFile.Reference
import SwiftPlan.Proofs.ResponseFile.Runs

/-!
# Writing response files

Arguments are written to a response file with a backslash before each backslash and each blank in
them, and with separators between them.  `Written` is the relation between arguments and the texts
that hold them in this way: how many separators there are and which ones is left open, and so is
whether the text begins or ends with some.

Whatever the choice, the arguments are what the text is split into (`Written.tokens_eq`), and that
is still so when the file is read and its line ends are joined (`Written.joinLineEnds`).  Hence it
makes no difference whether arguments stand on the command line or in a file
(`expand_written`).
-/

namespace SwiftPlan

namespace Text

variable {front back : List Char}

lemma joinLineEnds_append (h : '\r' ∉ front) :
    joinLineEnds (front ++ back) = front ++ joinLineEnds back := by
  induction front with
  | nil => rfl
  | cons c front ih =>
    obtain ⟨hc, hfront⟩ := List.ne_and_not_mem_of_not_mem_cons h
    rw [List.cons_append, joinLineEnds, ih hfront, List.cons_append]
    · exact fun _ hcr _ => hc hcr.symm
    · exact fun hcr => hc hcr.symm

/-- A carriage return is read as a line feed, or is dropped before one. -/
lemma joinLineEnds_cr (text : List Char) :
    joinLineEnds ('\r' :: text) = '\n' :: joinLineEnds text ∨
      joinLineEnds ('\r' :: text) = joinLineEnds text := by
  cases text with
  | nil => exact .inl rfl
  | cons c rest =>
    by_cases hc : c = '\n'
    · subst hc
      exact .inr rfl
    · exact .inl (by rw [joinLineEnds]; exact fun other h => hc (List.cons.inj h).1)

end Text

namespace FileSystem

/-- The text in a file is the one that was written there, but for its line ends. -/
lemma decode?_toUTF8 (text : String) :
    decode? text.toUTF8 = some (Text.joinLineEnds text.toList) := by
  have hvalid : String.fromUTF8? text.toUTF8 = some text := by
    rw [String.fromUTF8?, String.toUTF8_eq_toByteArray, dif_pos text.isValidUTF8]
    rfl
  rw [decode?, hvalid, Option.map_some]

lemma readText?_of_read {fs : FileSystem} {name text : String}
    (h : fs.read name = .ok text.toUTF8) :
    fs.readText? name = some (Text.joinLineEnds text.toList) := by
  rw [readText?, h]
  exact decode?_toUTF8 text

end FileSystem

namespace ResponseFile

/-- A word with a backslash before each backslash and each blank. -/
def escape (word : List Char) : List Char :=
  word.flatMap fun c => if c = '\\' ∨ Text.isBlank c = true then ['\\', c] else [c]

/-- A text holds these arguments: they are escaped, and there are separators between them. -/
inductive Written : List String → List Char → Prop where
  | empty : Written [] []
  | separator {c : Char} {arguments : List String} {text : List Char} :
      separates c = true → Written arguments text → Written arguments (c :: text)
  | argument {argument : String} {arguments : List String} {text : List Char} :
      (∀ c ∈ text.head?, separates c = true) → Written arguments text →
        Written (argument :: arguments) (escape argument.toList ++ text)

variable {fs : FileSystem} {arguments before after : List String} {name : String}
  {word text first : List Char} {others : List (List Char)} {c : Char}

lemma isBlank_of_separates (h : separates c = true) : Text.isBlank c = true := by
  simp only [separates, List.contains_iff_mem, List.mem_cons, List.not_mem_nil, or_false] at h
  rcases h with rfl | rfl | rfl | rfl | rfl <;> decide

/-! ## Splitting -/

lemma split_separator (h : separates c = true) :
    split (c :: text) = (split text).map fun (first, others) => ([], withFirst first others) := by
  rw [split_plain (ne_backslash_of_separates h), if_pos h]

/-- An escaped character belongs to the argument that is being read. -/
lemma split_escape_cons :
    split (escape (c :: word) ++ text) =
      (split (escape word ++ text)).map fun (first, others) => (c :: first, others) := by
  by_cases hspecial : c = '\\' ∨ Text.isBlank c = true
  · rw [escape, List.flatMap_cons, if_pos hspecial]
    exact split.eq_3 c _
  · obtain ⟨hc, hblank⟩ := not_or.1 hspecial
    have hseparates : ¬ separates c = true := fun h => hblank (isBlank_of_separates h)
    rw [escape, List.flatMap_cons, if_neg hspecial, List.cons_append, List.nil_append,
      List.cons_append, split_plain hc, if_neg hseparates, if_neg hblank]
    rfl

/-- An escaped word in front of a text belongs to the argument that the text begins with. -/
lemma split_escape :
    split (escape word ++ text) =
      (split text).map fun (first, others) => (word ++ first, others) := by
  induction word with
  | nil => cases h : split text <;> simp [escape, h, Except.map]
  | cons c word ih =>
    rw [split_escape_cons, ih]
    cases split text <;> rfl

/-- No argument begins before a separator or at the end. -/
lemma first_eq_nil (hhead : ∀ c ∈ text.head?, separates c = true)
    (h : split text = .ok (first, others)) : first = [] := by
  cases text with
  | nil =>
    rw [split] at h
    exact (Prod.mk.inj (Except.ok.inj h)).1.symm
  | cons c rest =>
    rw [split_separator (hhead c rfl)] at h
    obtain ⟨_, -, hparts⟩ := map_eq_ok.1 h
    exact (Prod.mk.inj hparts).1.symm

namespace Written

lemma exists_split (h : Written arguments text)
    (hnonempty : ∀ argument ∈ arguments, argument ≠ "") :
    ∃ first others, split text = .ok (first, others) ∧
      withFirst first others = arguments.map String.toList := by
  induction h with
  | empty => exact ⟨[], [], rfl, rfl⟩
  | @separator c arguments text hc _ ih =>
    obtain ⟨first, others, hsplit, harguments⟩ := ih hnonempty
    exact ⟨[], withFirst first others, by rw [split_separator hc, hsplit]; rfl, harguments⟩
  | @argument argument arguments text hhead _ ih =>
    obtain ⟨hargument, hrest⟩ := List.forall_mem_cons.1 hnonempty
    obtain ⟨first, others, hsplit, harguments⟩ := ih hrest
    obtain rfl := first_eq_nil hhead hsplit
    have hword : argument.toList ++ [] ≠ [] := by simpa using hargument
    refine ⟨argument.toList ++ [], others, by rw [split_escape, hsplit]; rfl, ?_⟩
    rw [withFirst, if_neg hword, List.append_nil, List.map_cons, ← harguments, withFirst,
      if_pos rfl]

/-- A text is split into the arguments that were written to it. -/
lemma tokens_eq (h : Written arguments text) (hnonempty : ∀ argument ∈ arguments, argument ≠ "") :
    tokens text = .ok arguments := by
  obtain ⟨first, others, hsplit, harguments⟩ := h.exists_split hnonempty
  rw [tokens, hsplit]
  simp [harguments, List.map_map, Function.comp_def]

lemma cr_notMem_escape (h : '\r' ∉ word) : '\r' ∉ escape word := by
  intro hmem
  obtain ⟨c, hc, hcr⟩ := List.mem_flatMap.1 hmem
  split at hcr
  · rcases List.mem_pair.1 hcr with hbackslash | rfl
    · exact absurd hbackslash (by decide)
    · exact h hc
  · obtain rfl := List.mem_singleton.1 hcr
    exact h hc

/-- Where a text begins with a separator or is empty, so does the text that is read. -/
lemma separates_head_joinLineEnds (h : ∀ c ∈ text.head?, separates c = true) :
    ∀ c ∈ (Text.joinLineEnds text).head?, separates c = true := by
  fun_cases Text.joinLineEnds text with
  | case1 => simp
  | case2 rest => simp [separates]
  | case3 rest => simp [separates]
  | case4 c rest => simpa using h

/-- The line ends of a text are separators, so joining them leaves the arguments in it as they
are. -/
lemma joinLineEnds (h : Written arguments text)
    (hplain : ∀ argument ∈ arguments, '\r' ∉ argument.toList) :
    Written arguments (Text.joinLineEnds text) := by
  induction h with
  | empty => exact .empty
  | @separator c arguments text hc _ ih =>
    by_cases hcr : c = '\r'
    · subst hcr
      rcases Text.joinLineEnds_cr text with hjoin | hjoin
      · rw [hjoin]
        exact .separator (by decide) (ih hplain)
      · rw [hjoin]
        exact ih hplain
    · have hone : '\r' ∉ [c] := fun hmem => hcr (List.mem_singleton.1 hmem).symm
      rw [← List.singleton_append, Text.joinLineEnds_append hone]
      exact .separator hc (ih hplain)
  | @argument argument arguments text hhead _ ih =>
    obtain ⟨hargument, hrest⟩ := List.forall_mem_cons.1 hplain
    rw [Text.joinLineEnds_append (cr_notMem_escape hargument)]
    exact .argument (separates_head_joinLineEnds hhead) (ih hrest)

end Written

/-! ## Expansion -/

/-- Arguments may be written to a file if they are not empty, name no response file and have no
carriage return in them. -/
def Writable (arguments : List String) : Prop :=
  ∀ argument ∈ arguments, argument ≠ "" ∧ Text.after? "@" argument = none ∧ '\r' ∉ argument.toList

/-- A reference to a file to which arguments were written expands to the arguments. -/
lemma expandIn_written {active : List Location} (hactive : fs.locate name ∉ active)
    (hread : fs.read name = .ok (String.ofList text).toUTF8) (htext : Written arguments text)
    (harguments : Writable arguments) : expandIn fs active ["@" ++ name] = pure arguments := by
  have hjoined : Written arguments (Text.joinLineEnds text) :=
    htext.joinLineEnds fun argument h => (harguments argument h).2.2
  have hwords : tokens (Text.joinLineEnds text) = .ok arguments :=
    hjoined.tokens_eq fun argument h => (harguments argument h).1
  have hplain : Plain arguments := fun argument h => (harguments argument h).2.1
  have hstored : fs.readText? name = some (Text.joinLineEnds text) := by
    rw [FileSystem.readText?_of_read hread, String.toList_ofList]
  rw [expandIn_splittable (Text.after?_eq_some_iff.2 rfl) hactive hstored hwords,
    expandIn_eq_self hplain, expandIn_nil, pure_bind, pure_bind, List.append_nil]

/-- **Response files are transparent.**  A reference to a file to which arguments were written
expands to the arguments, and whatever stands around it, the command line expands to what it would
with the arguments in the place of the reference, with the same notices. -/
theorem expand_written (hread : fs.read name = .ok (String.ofList text).toUTF8)
    (htext : Written arguments text) (harguments : Writable arguments) :
    expand fs ["@" ++ name] = pure arguments ∧
      expand fs (before ++ ["@" ++ name] ++ after) =
        expand fs (before ++ arguments ++ after) := by
  have hreference : expandIn fs [] ["@" ++ name] = pure arguments :=
    expandIn_written List.not_mem_nil hread htext harguments
  have hplain : Plain arguments := fun argument h => (harguments argument h).2.1
  have harguments : expandIn fs [] arguments = pure arguments := expandIn_eq_self hplain
  refine ⟨hreference, ?_⟩
  rw [expand, expand, expandIn_append, expandIn_append, expandIn_append, expandIn_append,
    hreference, harguments]

/-- Two arguments with separators of several kinds around them. -/
def escapedText : List Char :=
  " -DNAME=a\\ b\\\\c\r\n\tx.swift\n".toList

/-- A file to which the two arguments were written. -/
def escaped : FileSystem :=
  .ofFiles "/work" [("args", (String.ofList escapedText).toUTF8)]

/-- The two arguments may be given through the file, between references to it. -/
theorem expand_written_of_escaped :
    escaped.read "args" = .ok (String.ofList escapedText).toUTF8 ∧
      Written ["-DNAME=a b\\c", "x.swift"] escapedText ∧
      Writable ["-DNAME=a b\\c", "x.swift"] ∧
      expand escaped ["@" ++ "args"] = pure ["-DNAME=a b\\c", "x.swift"] ∧
      expand escaped (["swiftc", "@args"] ++ ["@" ++ "args"] ++ ["@./args"]) =
        expand escaped (["swiftc", "@args"] ++ ["-DNAME=a b\\c", "x.swift"] ++ ["@./args"]) := by
  have hread : escaped.read "args" = .ok (String.ofList escapedText).toUTF8 := by
    decide +kernel
  have hparts : escapedText =
      ' ' :: (escape "-DNAME=a b\\c".toList ++
        '\r' :: '\n' :: '\t' :: (escape "x.swift".toList ++ ['\n'])) := by
    decide +kernel
  have htext : Written ["-DNAME=a b\\c", "x.swift"] escapedText := by
    rw [hparts]
    refine .separator (by decide) (.argument (by simp [separates]) ?_)
    refine .separator (by decide) (.separator (by decide) (.separator (by decide) ?_))
    exact .argument (by simp [separates]) (.separator (by decide) .empty)
  have harguments : Writable ["-DNAME=a b\\c", "x.swift"] := by
    rw [Writable]
    decide +kernel
  exact ⟨hread, htext, harguments, expand_written hread htext harguments⟩

end ResponseFile

end SwiftPlan
