import SwiftPlan.Json.Value
import SwiftPlan.Text.Literal

/-!
# Writing JSON

A value on one line, with a space after each comma and each colon between parts. Only printable
ASCII is written: any other character is given by its code units in hexadecimal digits, except
for the controls that have short escapes.
-/

namespace SwiftPlan.Json

/-- The escape of one code unit. -/
def unitEscape (unit : Nat) : List Char :=
  '\\' :: 'u' :: Text.hexDigits 4 unit

/-- One character inside a string. -/
def stringChar (c : Char) : List Char :=
  if c = '"' ∨ c = '\\' then ['\\', c]
  else if c = '\n' then ['\\', 'n']
  else if c = '\r' then ['\\', 'r']
  else if c = '\t' then ['\\', 't']
  else if c = '\x0c' then ['\\', 'f']
  else if c = '\x08' then ['\\', 'b']
  else if ' ' ≤ c ∧ c ≤ '~' then [c]
  else if c.toNat ≤ 0xFFFF then unitEscape c.toNat
  else
    let n := c.toNat - 0x10000
    unitEscape (0xD800 + n / 0x400) ++ unitEscape (0xDC00 + n % 0x400)

/-- A text as a string. -/
def renderString (text : String) : String :=
  "\"" ++ String.ofList (text.toList.flatMap stringChar) ++ "\""

mutual

/-- A value as text. -/
def render : Json → String
  | null => "null"
  | bool true => "true"
  | bool false => "false"
  | number text => text
  | string text => renderString text
  | array items => "[" ++ ", ".intercalate (renderItems items) ++ "]"
  | object members => "\x7b" ++ ", ".intercalate (renderMembers members) ++ "\x7d"

/-- The items of an array, each as text. -/
def renderItems : List Json → List String
  | [] => []
  | value :: rest => render value :: renderItems rest

/-- The members of an object, each as text. -/
def renderMembers : List (String × Json) → List String
  | [] => []
  | (name, value) :: rest => (renderString name ++ ": " ++ render value) :: renderMembers rest

end

/-- A list of texts as an array. -/
def ofStrings (texts : List String) : Json :=
  .array (texts.map .string)

/-- A text that may be missing. -/
def ofString? : Option String → Json
  | none => .null
  | some text => .string text

/-- A number as a value. -/
def ofNat (n : Nat) : Json :=
  .number (String.ofList (Nat.toDigits 10 n))

end SwiftPlan.Json
