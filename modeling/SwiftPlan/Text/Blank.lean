import SwiftPlan.Text.CodeSet

/-!
# White space

The blanks are the space, the controls U+0009 to U+000D and U+001C to U+001F, and beyond ASCII
the next-line control and the separators of Unicode.
-/

namespace SwiftPlan.Text

/-- The white space beyond ASCII. -/
def wideBlanks : CodeSet := ⟨[
  (0x85, 0x85), (0xA0, 0xA0), (0x1680, 0x1680), (0x2000, 0x200A), (0x2028, 0x2029),
  (0x202F, 0x202F), (0x205F, 0x205F), (0x3000, 0x3000)]⟩

/-- Whether `c` is white space. -/
def isBlank (c : Char) : Bool :=
  if c.toNat < 0x80 then (9 ≤ c.toNat && c.toNat ≤ 13) || (28 ≤ c.toNat && c.toNat ≤ 32)
  else wideBlanks.contains c

end SwiftPlan.Text
