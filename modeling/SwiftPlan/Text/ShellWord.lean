/-!
# Words of a shell command line

`quote` writes any text as one word of a POSIX shell: a nonempty text of plain characters stands
for itself, and everything else goes between single quotes, with each single quote inside written
as `'"'"'`. `words?` takes a command line apart into its words again.
-/

namespace SwiftPlan.ShellWord

/-- The characters that mean themselves anywhere in a word: ASCII letters and digits, and a few
signs. -/
def isPlain (c : Char) : Bool :=
  c.isAlphanum || ['_', '@', '%', '+', '=', ':', ',', '.', '/', '-'].contains c

/-- The inside of a single-quoted word. -/
def quoteInside : List Char → List Char
  | [] => []
  | '\'' :: rest => ['\'', '"', '\'', '"', '\''] ++ quoteInside rest
  | c :: rest => c :: quoteInside rest

/-- One shell word that stands for `cs`. -/
def quoteChars (cs : List Char) : List Char :=
  if cs ≠ [] ∧ cs.all isPlain then cs else '\'' :: quoteInside cs ++ ['\'']

/-- One shell word that stands for `text`. -/
def quote (text : String) : String :=
  String.ofList (quoteChars text.toList)

/-- A command line: the words, quoted and separated by spaces. -/
def line (words : List String) : String :=
  " ".intercalate (words.map quote)

/-! ## Taking a line apart -/

/-- The characters between words. -/
def separates (c : Char) : Bool :=
  [' ', '\t', '\r', '\n'].contains c

/-- How the next character of a line is to be read. -/
inductive Mode where
  /-- Outside quotation marks. -/
  | bare
  /-- Between single quotes, where every other character means itself. -/
  | single
  /-- Between double quotes, where a backslash escapes a double quote or a backslash. -/
  | double
  deriving DecidableEq, Repr

/-- Adds a character to the word that is being read. -/
def extend (word : Option (List Char)) (c : Char) : Option (List Char) :=
  some (word.getD [] ++ [c])

/-- The words of the rest of a line, when `word` is the part of a word already read: `none` if
no word has begun. The answer is `none` where a quotation or an escape is left open. -/
def wordsFrom : Mode → Option (List Char) → List Char → Option (List (List Char))
  | .bare, word, [] => some word.toList
  | .single, _, [] => none
  | .double, _, [] => none
  | .bare, _, ['\\'] => none
  | .bare, word, '\\' :: c :: rest => wordsFrom .bare (extend word c) rest
  | .bare, word, '\'' :: rest => wordsFrom .single (some (word.getD [])) rest
  | .bare, word, '"' :: rest => wordsFrom .double (some (word.getD [])) rest
  | .bare, word, c :: rest =>
    if separates c then (wordsFrom .bare none rest).map (word.toList ++ ·)
    else wordsFrom .bare (extend word c) rest
  | .single, word, c :: rest =>
    if c = '\'' then wordsFrom .bare word rest else wordsFrom .single (extend word c) rest
  | .double, word, '\\' :: c :: rest =>
    if c = '\\' ∨ c = '"' then wordsFrom .double (extend word c) rest
    else wordsFrom .double (extend (extend word '\\') c) rest
  | .double, word, c :: rest =>
    if c = '"' then wordsFrom .bare word rest else wordsFrom .double (extend word c) rest

/-- The words of a command line, if every quotation and escape in it is closed. -/
def words? (line : String) : Option (List String) :=
  (wordsFrom .bare none line.toList).map (·.map String.ofList)

end SwiftPlan.ShellWord
