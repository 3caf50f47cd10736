import SwiftPlan.Text.Blank
import SwiftPlan.Text.Lines

/-!
# Tokens of a response file

A response file holds arguments with blanks, tabs and line ends between them. A backslash takes
the next character into the argument whatever it is, and disappears; a backslash at the very end
stays. White space of any other kind separates nothing, and is refused where no backslash stands
before it.
-/

namespace SwiftPlan.ResponseFile

/-- The characters that stand between arguments. -/
def separates (c : Char) : Bool :=
  [' ', '\t', '\x0c', '\r', '\n'].contains c

/-- Puts the argument that begins a text in front of those that follow, unless it is empty. -/
def withFirst (first : List Char) (others : List (List Char)) : List (List Char) :=
  if first = [] then others else first :: others

/-- Splits a text into what belongs to an argument that is being read when the text begins, and
the arguments after that one. Where a character is refused the answer is the text from there. -/
def split : List Char → Except (List Char) (List Char × List (List Char))
  | [] => .ok ([], [])
  | ['\\'] => .ok (['\\'], [])
  | '\\' :: c :: rest => (split rest).map fun (first, others) => (c :: first, others)
  | c :: rest =>
    if separates c then (split rest).map fun (first, others) => ([], withFirst first others)
    else if Text.isBlank c then .error (c :: rest)
    else (split rest).map fun (first, others) => (c :: first, others)

/-- The arguments in a text, or the place of the first character that is refused. -/
def tokens (text : List Char) : Except TextPosition (List String) :=
  match split text with
  | .ok (first, others) => .ok ((withFirst first others).map String.ofList)
  | .error rest => .error (TextPosition.after (text.take (text.length - rest.length)))

end SwiftPlan.ResponseFile
