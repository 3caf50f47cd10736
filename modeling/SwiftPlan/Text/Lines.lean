/-!
# Lines of a text

A text file may end its lines in any of three ways; `joinLineEnds` turns all of them into a line
feed, which is how the contents of a file are read. `TextPosition.after` says where the character
that follows a given beginning of a text stands.
-/

namespace SwiftPlan.Text

/-- Writes a carriage return, alone or with a line feed after it, as one line feed. -/
def joinLineEnds : List Char → List Char
  | [] => []
  | '\r' :: '\n' :: rest => '\n' :: joinLineEnds rest
  | '\r' :: rest => '\n' :: joinLineEnds rest
  | c :: rest => c :: joinLineEnds rest

end SwiftPlan.Text

namespace SwiftPlan

/-- A place in a text: the number of characters before it, and the same as a line and a column,
both counted from one. Lines end at line feeds. -/
structure TextPosition where
  offset : Nat
  line : Nat
  column : Nat
  deriving DecidableEq, Repr

/-- The place of the character that follows `before` in a text. -/
def TextPosition.after (before : List Char) : TextPosition where
  offset := before.length
  line := before.count '\n' + 1
  column := (before.reverse.takeWhile (· != '\n')).length + 1

end SwiftPlan
