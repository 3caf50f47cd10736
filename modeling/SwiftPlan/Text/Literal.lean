import SwiftPlan.Text.Printable

/-!
# Quoted literals

A name inside a message is written between quotation marks, so that its end and its unusual
characters can be seen. Single marks are used, unless the text has a single mark and no double
one. The mark and the backslash are escaped by a backslash, tab, line feed and carriage return
have short escapes, and any other character that is not printable is given by its code in two,
four or eight hexadecimal digits, whichever is the shortest that holds it.
-/

namespace SwiftPlan.Text

/-- The lower-case hexadecimal digits of `n`, padded with zeros to `width` places. -/
def hexDigits (width n : Nat) : List Char :=
  let digits := Nat.toDigits 16 n
  List.replicate (width - digits.length) '0' ++ digits

/-- The escape that gives the code of `c`. -/
def codeEscape (c : Char) : List Char :=
  if c.toNat ≤ 0xFF then '\\' :: 'x' :: hexDigits 2 c.toNat
  else if c.toNat ≤ 0xFFFF then '\\' :: 'u' :: hexDigits 4 c.toNat
  else '\\' :: 'U' :: hexDigits 8 c.toNat

/-- One character of a literal that is closed by `mark`. -/
def literalChar (mark c : Char) : List Char :=
  if c = mark || c = '\\' then ['\\', c]
  else if c = '\t' then ['\\', 't']
  else if c = '\n' then ['\\', 'n']
  else if c = '\r' then ['\\', 'r']
  else if isPrintable c then [c]
  else codeEscape c

/-- The mark that encloses the literal of `cs`. -/
def literalMark (cs : List Char) : Char :=
  if cs.contains '\'' && !cs.contains '"' then '"' else '\''

/-- The quoted literal of `text`. -/
def literal (text : String) : String :=
  let mark := literalMark text.toList
  String.ofList (mark :: text.toList.flatMap (literalChar mark) ++ [mark])

end SwiftPlan.Text
