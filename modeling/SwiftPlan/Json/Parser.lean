import SwiftPlan.Json.Value
import SwiftPlan.Text.Lines

/-!
# Reading JSON

`Json.ofText` reads a document, or says what is wrong with it and where. Each reader below takes
the text from where it begins to read, and answers with what it has read and the text behind it;
a fault is given by the text from the faulty place on. As every reader leaves less than it was
given, reading ends.

Besides the numbers of the standard, the names `NaN`, `Infinity` and `-Infinity` are accepted.
-/

namespace SwiftPlan.Json

/-- What can be wrong with a document. -/
inductive Problem where
  | expectingValue
  | expectingName
  | expectingColon
  | expectingComma
  | extraData
  | unterminatedString
  | controlCharacter
  | badEscape
  | badCodeEscape
  | byteOrderMark
  deriving DecidableEq, Repr

/-- The wording of a problem. -/
def Problem.message : Problem → String
  | expectingValue => "Expecting value"
  | expectingName => "Expecting property name enclosed in double quotes"
  | expectingColon => "Expecting ':' delimiter"
  | expectingComma => "Expecting ',' delimiter"
  | extraData => "Extra data"
  | unterminatedString => "Unterminated string starting at"
  | controlCharacter => "Invalid control character at"
  | badEscape => "Invalid \\escape"
  | badCodeEscape => "Invalid \\uXXXX escape"
  | byteOrderMark => "Unexpected UTF-8 BOM (decode using utf-8-sig)"

/-- Why a document cannot be read. -/
structure SyntaxError where
  problem : Problem
  position : TextPosition
  deriving DecidableEq, Repr

/-- The wording of an error: the problem and its place. -/
def SyntaxError.message (error : SyntaxError) : String :=
  error.problem.message ++ ": line " ++ toString error.position.line
    ++ " column " ++ toString error.position.column
    ++ " (char " ++ toString error.position.offset ++ ")"

/-- A problem, and the text from where it is. -/
structure Fault where
  problem : Problem
  rest : List Char

/-- The characters that may stand between the parts of a document. -/
def separates (c : Char) : Bool :=
  [' ', '\t', '\n', '\r'].contains c

/-- The text without the separators at its beginning. -/
def skip (text : List Char) : List Char :=
  text.dropWhile separates

theorem length_skip_le (text : List Char) : (skip text).length ≤ text.length :=
  (List.dropWhile_sublist _).length_le

/-- What a reader of `text` answers: what it has read and the text behind it, which is shorter. -/
abbrev Reading (α : Type) (text : List Char) :=
  Except Fault { result : α × List Char // result.2.length < text.length }

/-! ## Strings -/

/-- The value of a hexadecimal digit. -/
def hexValue? (c : Char) : Option Nat :=
  if c.isDigit then some (c.toNat - '0'.toNat)
  else if 'a' ≤ c ∧ c ≤ 'f' then some (c.toNat - 'a'.toNat + 10)
  else if 'A' ≤ c ∧ c ≤ 'F' then some (c.toNat - 'A'.toNat + 10)
  else none

/-- The number in the first four characters of a text, if they are hexadecimal digits and not the
end of the text. -/
def codeUnit? (text : List Char) : Option Nat :=
  match text with
  | a :: b :: c :: d :: _ :: _ => do
    let a ← hexValue? a
    let b ← hexValue? b
    let c ← hexValue? c
    let d ← hexValue? d
    return ((a * 16 + b) * 16 + c) * 16 + d
  | _ => none

/-- Whether a code unit is the first half of a pair. -/
def isHighHalf (unit : Nat) : Bool :=
  0xD800 ≤ unit && unit ≤ 0xDBFF

/-- Whether a code unit is the second half of a pair. -/
def isLowHalf (unit : Nat) : Bool :=
  0xDC00 ≤ unit && unit ≤ 0xDFFF

/-- The character of a code unit. Half of a pair is not a character: a replacement character stands
for it, whichever half it is. -/
def unitChar (unit : Nat) : Char :=
  if isHighHalf unit || isLowHalf unit then '\ufffd' else Char.ofNat unit

/-- The character of a pair of code units. -/
def pairChar (high low : Nat) : Char :=
  Char.ofNat (0x10000 + (high - 0xD800) * 0x400 + (low - 0xDC00))

/-- The character that a backslash and `c` stand for. -/
def shortEscape? (c : Char) : Option Char :=
  match c with
  | '"' => some '"'
  | '\\' => some '\\'
  | '/' => some '/'
  | 'b' => some '\x08'
  | 'f' => some '\x0c'
  | 'n' => some '\n'
  | 'r' => some '\r'
  | 't' => some '\t'
  | _ => none

/-- The text from a code escape on, read as a character and the text behind it. Two escapes that
make up a pair are one character. -/
def codeEscape (text : List Char) : Except Fault (Char × List Char) :=
  match codeUnit? text with
  | none => .error ⟨.badCodeEscape, 'u' :: text⟩
  | some unit =>
    let behind := text.drop 4
    if isHighHalf unit then
      match behind with
      | '\\' :: 'u' :: next =>
        match codeUnit? next with
        | none => .error ⟨.badCodeEscape, 'u' :: next⟩
        | some low =>
          if isLowHalf low then .ok (pairChar unit low, next.drop 4)
          else .ok (unitChar unit, behind)
      | _ => .ok (unitChar unit, behind)
    else .ok (unitChar unit, behind)

theorem length_le_of_codeEscape {text rest : List Char} {c : Char}
    (h : codeEscape text = .ok (c, rest)) : rest.length ≤ text.length := by
  unfold codeEscape at h
  split at h
  · simp at h
  · dsimp only at h
    split at h
    · split at h
      · next next hb =>
        split at h
        · simp at h
        · have : next.length + 2 ≤ text.length := by
            have := congrArg List.length hb
            simp at this
            omega
          split at h <;> simp at h <;> simp [← h.2]
          omega
      · simp at h
        simp [← h.2]
    · simp at h
      simp [← h.2]

/-- Reads a string up to its closing mark. `opening` is the text from its opening mark. -/
def readString (opening : List Char) : (text : List Char) → Reading (List Char) text
  | [] => .error ⟨.unterminatedString, opening⟩
  | '"' :: rest => .ok ⟨([], rest), by simp⟩
  | ['\\'] => .error ⟨.unterminatedString, opening⟩
  | '\\' :: 'u' :: rest =>
    match h : codeEscape rest with
    | .error fault => .error fault
    | .ok (c, behind) =>
      have := length_le_of_codeEscape h
      match readString opening behind with
      | .error fault => .error fault
      | .ok ⟨(cs, behind'), hb⟩ => .ok ⟨(c :: cs, behind'), by simp at hb ⊢; omega⟩
  | '\\' :: c :: rest =>
    match shortEscape? c with
    | none => .error ⟨.badEscape, '\\' :: c :: rest⟩
    | some escaped =>
      match readString opening rest with
      | .error fault => .error fault
      | .ok ⟨(cs, behind), hb⟩ => .ok ⟨(escaped :: cs, behind), by simp at hb ⊢; omega⟩
  | c :: rest =>
    if c.toNat ≤ 0x1F then .error ⟨.controlCharacter, c :: rest⟩
    else
      match readString opening rest with
      | .error fault => .error fault
      | .ok ⟨(cs, behind), hb⟩ => .ok ⟨(c :: cs, behind), by simp at hb ⊢; omega⟩
termination_by text => text.length
decreasing_by all_goals (simp; try omega)

/-! ## Numbers -/

/-- What stands behind the whole part of a number, if the text begins with one. -/
def afterWhole? (text : List Char) : Option (List Char) :=
  match text with
  | [] => none
  | c :: rest =>
    if c = '0' then some rest
    else if c.isDigit then some (rest.dropWhile Char.isDigit)
    else none

/-- What stands behind the fraction that begins the text; a dot without a digit is none. -/
def afterFraction (text : List Char) : List Char :=
  match text with
  | '.' :: c :: rest => if c.isDigit then rest.dropWhile Char.isDigit else text
  | _ => text

/-- What stands behind the exponent that begins the text; one without a digit is none. -/
def afterExponent (text : List Char) : List Char :=
  match text with
  | e :: rest =>
    if e = 'e' ∨ e = 'E' then
      let digits :=
        match rest with
        | sign :: behind => if sign = '+' ∨ sign = '-' then behind else rest
        | [] => rest
      match digits with
      | c :: behind => if c.isDigit then behind.dropWhile Char.isDigit else text
      | [] => text
    else text
  | [] => text

/-- What stands behind the number that begins the text, if there is one. -/
def afterNumber? (text : List Char) : Option (List Char) :=
  let unsigned :=
    match text with
    | '-' :: rest => rest
    | _ => text
  (afterWhole? unsigned).map fun rest => afterExponent (afterFraction rest)

theorem length_dropWhile_le (p : Char → Bool) (text : List Char) :
    (text.dropWhile p).length ≤ text.length :=
  (List.dropWhile_sublist p).length_le

theorem length_afterFraction_le (text : List Char) :
    (afterFraction text).length ≤ text.length := by
  unfold afterFraction
  split
  · next c rest =>
    split
    · have := length_dropWhile_le Char.isDigit rest
      simp; omega
    · simp
  · simp

theorem length_afterExponent_le (text : List Char) :
    (afterExponent text).length ≤ text.length := by
  unfold afterExponent
  split
  · next e rest =>
    split
    · have hd : ∀ digits : List Char, digits.length ≤ rest.length →
          (match digits with
            | c :: behind => if c.isDigit then behind.dropWhile Char.isDigit else e :: rest
            | [] => e :: rest).length ≤ (e :: rest).length := by
        intro digits hl
        split
        · next c behind =>
          split
          · have := length_dropWhile_le Char.isDigit behind
            simp at hl ⊢; omega
          · simp
        · simp
      apply hd
      split
      · split <;> simp
      · simp
    · simp
  · simp

theorem length_lt_of_afterNumber? {text rest : List Char} (h : afterNumber? text = some rest) :
    rest.length < text.length := by
  unfold afterNumber? at h
  obtain ⟨middle, hm, rfl⟩ := Option.map_eq_some_iff.1 h
  have h₁ := length_afterExponent_le (afterFraction middle)
  have h₂ := length_afterFraction_le middle
  have h₃ : ∀ unsigned : List Char, afterWhole? unsigned = some middle →
      middle.length < unsigned.length := by
    intro unsigned hu
    unfold afterWhole? at hu
    split at hu
    · simp at hu
    · next c rest =>
      have := length_dropWhile_le Char.isDigit rest
      split at hu
      · simp_all
      · split at hu
        · simp at hu; simp [← hu]; omega
        · simp at hu
  have h₄ := h₃ _ hm
  split at h₄ <;> simp at h₄ ⊢ <;> omega

/-- The names that are values by themselves. -/
def names : List (List Char × Json) :=
  [("null".toList, .null), ("true".toList, .bool true), ("false".toList, .bool false),
    ("NaN".toList, .number "NaN"), ("Infinity".toList, .number "Infinity"),
    ("-Infinity".toList, .number "-Infinity")]

/-- The name that begins a text, as a value, and the text behind it. -/
def readName? (text : List Char) : Option (Json × List Char) :=
  names.findSome? fun (name, value) =>
    if name.isPrefixOf text then some (value, text.drop name.length) else none

theorem length_lt_of_readName? {text rest : List Char} {value : Json}
    (h : readName? text = some (value, rest)) : rest.length < text.length := by
  unfold readName? at h
  obtain ⟨⟨name, v⟩, hm, hi⟩ := List.exists_of_findSome?_eq_some h
  dsimp only at hi
  split at hi
  · next hp =>
    have hl := (List.isPrefixOf_iff_prefix.1 hp).length_le
    have hn : name ≠ [] := by
      simp only [names, List.mem_cons, Prod.mk.injEq, List.not_mem_nil, or_false] at hm
      rcases hm with ⟨rfl, _⟩ | ⟨rfl, _⟩ | ⟨rfl, _⟩ | ⟨rfl, _⟩ | ⟨rfl, _⟩ | ⟨rfl, _⟩ <;> decide
    have := List.length_pos_iff.2 hn
    simp only [Option.some.injEq, Prod.mk.injEq] at hi
    rw [← hi.2, List.length_drop]
    omega
  · simp at hi

/-- Reads a value that is neither a string nor made of parts. -/
def readScalar (text : List Char) : Reading Json text :=
  match hn : readName? text with
  | some (value, rest) => .ok ⟨(value, rest), length_lt_of_readName? hn⟩
  | none =>
    match h : afterNumber? text with
    | some rest =>
      .ok ⟨(.number (String.ofList (text.take (text.length - rest.length))), rest),
        length_lt_of_afterNumber? h⟩
    | none => .error ⟨.expectingValue, text⟩

/-! ## Values -/

mutual

/-- Reads a value. -/
def readValue (text : List Char) : Reading Json text :=
  match text with
  | '"' :: rest =>
    match readString text rest with
    | .error fault => .error fault
    | .ok ⟨(cs, behind), hb⟩ => .ok ⟨(.string (String.ofList cs), behind), by simp at hb ⊢; omega⟩
  | '[' :: rest =>
    have := length_skip_le rest
    match hs : skip rest with
    | ']' :: behind => .ok ⟨(.array [], behind), by simp [hs] at this ⊢; omega⟩
    | items =>
      match readItems items with
      | .error fault => .error fault
      | .ok ⟨(values, behind), hb⟩ =>
        .ok ⟨(.array values, behind), by simp [hs] at this hb ⊢; omega⟩
  | '{' :: rest =>
    have := length_skip_le rest
    match hs : skip rest with
    | '}' :: behind => .ok ⟨(.object [], behind), by simp [hs] at this ⊢; omega⟩
    | members =>
      match readMembers members with
      | .error fault => .error fault
      | .ok ⟨(values, behind), hb⟩ =>
        .ok ⟨(Json.ofMembers values, behind), by simp [hs] at this hb ⊢; omega⟩
  | other => readScalar other
termination_by 2 * text.length
decreasing_by all_goals (simp [hs] at this ⊢; omega)

/-- Reads the items of an array from the first one up to the closing bracket. -/
def readItems (text : List Char) : Reading (List Json) text :=
  match readValue text with
  | .error fault => .error fault
  | .ok ⟨(value, rest), hv⟩ =>
    have := length_skip_le rest
    match hs : skip rest with
    | ']' :: behind => .ok ⟨([value], behind), by simp [hs] at this hv ⊢; omega⟩
    | ',' :: next =>
      have := length_skip_le next
      match readItems (skip next) with
      | .error fault => .error fault
      | .ok ⟨(values, behind), hb⟩ =>
        .ok ⟨(value :: values, behind), by simp [hs] at *; omega⟩
    | other => .error ⟨.expectingComma, other⟩
termination_by 2 * text.length + 1
decreasing_by all_goals first | omega | (simp [hs] at *; omega)

/-- Reads the members of an object from the first one up to the closing bracket. -/
def readMembers (text : List Char) : Reading (List (String × Json)) text :=
  match text with
  | '"' :: nameText =>
    match readString text nameText with
    | .error fault => .error fault
    | .ok ⟨(name, rest), hn⟩ =>
      have := length_skip_le rest
      match hs : skip rest with
      | ':' :: valueText =>
        have := length_skip_le valueText
        match readValue (skip valueText) with
        | .error fault => .error fault
        | .ok ⟨(value, rest'), hv⟩ =>
          have := length_skip_le rest'
          match hs' : skip rest' with
          | '}' :: behind =>
            .ok ⟨([(String.ofList name, value)], behind), by simp [hs, hs'] at *; omega⟩
          | ',' :: next =>
            have := length_skip_le next
            match readMembers (skip next) with
            | .error fault => .error fault
            | .ok ⟨(members, behind), hb⟩ =>
              .ok ⟨((String.ofList name, value) :: members, behind),
                by simp [hs, hs'] at *; omega⟩
          | other => .error ⟨.expectingComma, other⟩
      | other => .error ⟨.expectingColon, other⟩
  | other => .error ⟨.expectingName, other⟩
termination_by 2 * text.length + 1
decreasing_by all_goals (simp [*] at *; omega)

end

/-- Reads a whole document. -/
def readDocument (text : List Char) : Except Fault Json :=
  match text with
  | '\ufeff' :: _ => .error ⟨.byteOrderMark, text⟩
  | _ =>
    match readValue (skip text) with
    | .error fault => .error fault
    | .ok ⟨(value, rest), _⟩ =>
      match skip rest with
      | [] => .ok value
      | other => .error ⟨.extraData, other⟩

/-- The value that a document denotes, or what is wrong with the document. -/
def ofText (text : List Char) : Except SyntaxError Json :=
  (readDocument text).mapError fun fault =>
    ⟨fault.problem, TextPosition.after (text.take (text.length - fault.rest.length))⟩

end SwiftPlan.Json
