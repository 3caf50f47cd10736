import SwiftPlan.Text.CaseMap

/-!
# Upper and lower case

Case changes of whole texts. One character may become several, as `ß` becomes `SS`, and the
lower case of the Greek capital sigma depends on its place: it is `ς` at the end of a word, which
is after a letter and not before one, where marks such as an apostrophe are passed over.
-/

namespace SwiftPlan.Text

/-- The image of `c` under a case mapping given by runs and sequences. -/
def mapCase (runs : List CaseRun) (sequences : List (Nat × List Nat)) (c : Char) : List Char :=
  match sequences.lookup c.toNat with
  | some codes => codes.map Char.ofNat
  | none => [((runs.findSome? (·.image? c.toNat)).map Char.ofNat).getD c]

/-- The upper case of one character. -/
def upperChar (c : Char) : List Char :=
  if c.toNat < 0x80 then [c.toUpper] else mapCase upperRuns upperSequences c

/-- The upper case of a text. -/
def toUpper (text : String) : String :=
  String.ofList (text.toList.flatMap upperChar)

/-- The lower case of one character, wherever it stands. -/
def lowerChar (c : Char) : List Char :=
  if c.toNat < 0x80 then [c.toLower] else mapCase lowerRuns lowerSequences c

/-- Whether the search for a neighbouring letter passes over `c`. -/
def isCaseIgnorable (c : Char) : Bool :=
  if c.toNat < 0x80 then c ∈ ['\'', '.', ':', '^', (Char.ofNat 0x60)] else caseIgnorables.contains c

/-- Whether the first character of `cs` that is not passed over is a letter with a case. -/
def meetsLetter (cs : List Char) : Bool :=
  match cs.dropWhile isCaseIgnorable with
  | [] => false
  | c :: _ => if c.toNat < 0x80 then c.isAlpha else casedLetters.contains c

/-- The lower case of the second argument, where the first one precedes it, nearest first. -/
def lowerFrom : List Char → List Char → List Char
  | _, [] => []
  | before, c :: rest =>
    let image :=
      if c = 'Σ' then [if meetsLetter before && !meetsLetter rest then 'ς' else 'σ']
      else lowerChar c
    image ++ lowerFrom (c :: before) rest

/-- The lower case of a text. -/
def toLower (text : String) : String :=
  String.ofList (lowerFrom [] text.toList)

end SwiftPlan.Text
