import SchemaRegistry.Toml.Reader
/-!
# Quotations

A text stands between quotation marks or between apostrophes. Between quotation marks a backslash
starts an escape; between apostrophes nothing is special. Either mark written three times opens a
text of several lines, in which line ends are read as line feeds, one line end right behind the
opening mark does not count, and up to two marks may stand before the three that close it. There, a
backslash at the end of a line joins it to the next line that is not blank.
-/

set_option autoImplicit false

namespace SchemaRegistry.Toml

open Reader

/-! ## Escapes -/

def hexValue? (c : Char) : Option Nat :=
  if c.isDigit then some (c.toNat - '0'.toNat)
  else if 'a' ≤ c ∧ c ≤ 'f' then some (c.toNat - 'a'.toNat + 10)
  else if 'A' ≤ c ∧ c ≤ 'F' then some (c.toNat - 'A'.toNat + 10)
  else none

/-- The number that digits of a base write. -/
def digitsValue (base : Nat) (cs : List Char) : Nat :=
  cs.foldl (fun n c => n * base + (hexValue? c).getD 0) 0

/-- The character of a code point. -/
def charOf (n : Nat) : Except Cause Char :=
  if n.isValidChar then .ok (Char.ofNat n) else .error .outOfRange

/-- A code point in so many hexadecimal digits. -/
def readCodePoint (width : Nat) : Reader Char :=
  check (runOf width fun c => (hexValue? c).isSome) fun digits => charOf (digitsValue 16 digits)

/-- What can stand behind a backslash. -/
def escapeLetters : List Char := ['b', 'f', 'n', 'r', 't', 'u', 'U', '\\', '"']

/-- What an escape stands for, from behind its backslash. -/
def readEscaped : Reader Char
  | 'b' :: rest => .ok ('\x08', rest)
  | 'f' :: rest => .ok ('\x0c', rest)
  | 'n' :: rest => .ok ('\n', rest)
  | 'r' :: rest => .ok ('\r', rest)
  | 't' :: rest => .ok ('\t', rest)
  | '\\' :: rest => .ok ('\\', rest)
  | '"' :: rest => .ok ('"', rest)
  | 'u' :: rest => inPart "unicode 4-digit hex code" (settled (readCodePoint 4)) rest
  | 'U' :: rest => inPart "unicode 8-digit hex code" (settled (readCodePoint 8)) rest
  | c :: rest =>
    inPart "escape sequence" (expecting (escapeLetters.map spelled) (settled fail)) (past c rest)
  | [] => .error { rest := [] }

def readEscape : Reader (List Char) := do
  let _ ← mark '\\'
  let c ← readEscaped
  pure [c]

/-! ## Texts within a line -/

/-- Whether a text between quotation marks can hold the character as it is. -/
def isUnescaped (c : Char) : Bool := isPlain c && c ≠ '"' && c ≠ '\\'

/-- Whether a text between apostrophes can hold the character. -/
def isLiteral (c : Char) : Bool := isPlain c && c ≠ '\''

/-- A text between quotation marks. -/
def readBasicText : Reader String := do
  let _ ← mark '"'
  let parts ← many (firstOf (someRun isUnescaped) readEscape)
  let _ ← inPart "basic string" (settled (mark '"'))
  pure (String.ofList parts.flatten)

/-- A text between apostrophes. -/
def readLiteralText : Reader String :=
  inPart "literal string" do
    let _ ← mark '\''
    let content ← run isLiteral
    let _ ← settled (mark '\'')
    pure (String.ofList content)

/-! ## Texts of several lines -/

/-- The mark that opens and closes a text of several lines. -/
def longMark (c : Char) : List Char := [c, c, c]

/-- One or two marks that belong to the text, in front of what has to follow. -/
def readInnerMarks {α : Type} (c : Char) (following : Reader α) : Reader (List Char) :=
  firstOf (marks [c, c]) (marks [c])
where
  marks (cs : List Char) : Reader (List Char) := do
    word cs
    let _ ← ahead following
    pure cs

/-- The body of a text of several lines, made of pieces and the marks between them. -/
def readLongBody (c : Char) (piece : Reader (List Char)) : Reader (List Char) := do
  let start ← many piece
  let middle ← many do
    let marks ← readInnerMarks c piece
    let pieces ← oneOrMore piece
    pure (marks ++ pieces.flatten)
  let last ← attempt (readInnerMarks c (word (longMark c)))
  pure (start.flatten ++ middle.flatten ++ last.getD [])

def readLongText (c : Char) (name : String) (piece : Reader (List Char)) : Reader String :=
  inPart name do
    word (longMark c)
    let _ ← attempt readNewline
    let body ← settled (readLongBody c piece)
    settled (word (longMark c))
    pure (String.ofList body)

/-- Line ends with backslashes in front, and the blanks and line ends that follow each. -/
def readJoinedLines : Reader (List Char) := do
  let _ ← oneOrMore do
    let _ ← mark '\\'
    readSpaces
    readNewline
    let _ ← many (firstOf readNewline (do let _ ← someRun isSpace))
  pure []

def readLineFeed : Reader (List Char) := do
  readNewline
  pure ['\n']

/-- A text between three quotation marks on either side. -/
def readLongBasicText : Reader String :=
  readLongText '"' "multiline basic string" <|
    firstOf (someRun isUnescaped) (firstOf readJoinedLines (firstOf readEscape readLineFeed))

/-- A text between three apostrophes on either side. -/
def readLongLiteralText : Reader String :=
  readLongText '\'' "multiline literal string" <|
    firstOf (someRun isLiteral) readLineFeed

/-- A text in any of the four forms. -/
def readText : Reader String :=
  firstOf readLongBasicText (firstOf readBasicText (firstOf readLongLiteralText readLiteralText))

end SchemaRegistry.Toml
