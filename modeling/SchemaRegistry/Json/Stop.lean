import SchemaRegistry.Decimal.Shortest
import SchemaRegistry.Json.Tree
import SchemaRegistry.Text.Octets
import SchemaRegistry.Text.Quoted
/-!
# Why and where reading a document stops

A document is read from its octets. Reading stops for one of two reasons: the text is no JSON, or
it is JSON of another shape than asked for. `Cause` names both. `Stop` adds where: a reader is at a
position given by what is still to be read, so a place in the document is the number of octets
behind it, and line and column are computed only for the message. Two places are told apart. A
reader that looked at an octet and refused it stops *at* that octet, which the message counts as
read (`stopAt`); a reader that has consumed the octet stops *behind* it (`stopBehind`). At the end
of the document there is no octet to count, and the two agree.

A stop can lack a place: a value of the wrong shape is noticed when its octets are long gone, or by
somebody who never saw them. It then gets the place of the next reader around it that has one.
-/

set_option autoImplicit false

namespace SchemaRegistry.Json

/-! ## What was found -/

/-- The kind of a value, as a message tells it. -/
inductive Found where
  | null
  | bool (b : Bool)
  | number (n : Number)
  | text (s : String)
  | sequence
  | map

/-- The numeral of a double: plain up to sixteen digits before the point and four zeros behind it,
always with a point; otherwise one digit before the point, and an exponent with its sign. -/
def doubleChars (x : Decimal.Binary64) : List Char :=
  let shown := Decimal.shortest x
  let sign := if x.negative then ['-'] else []
  let ds := shown.digits
  if -5 ≤ shown.order ∧ shown.order ≤ 15 then
    if shown.order < 0 then
      sign ++ ['0', '.'] ++ List.replicate (-shown.order - 1).toNat '0' ++ ds
    else
      let whole := shown.order.toNat + 1
      if ds.length ≤ whole then
        sign ++ ds ++ List.replicate (whole - ds.length) '0' ++ ['.', '0']
      else sign ++ ds.take whole ++ ['.'] ++ ds.drop whole
  else
    let exponent := (if shown.order < 0 then ['-'] else ['+'])
      ++ Nat.toDigits 10 shown.order.natAbs
    let fraction := match ds.tail with
      | [] => []
      | more => '.' :: more
    sign ++ ds.take 1 ++ fraction ++ ['e'] ++ exponent

/-- The numeral of an integer. -/
def integerChars (n : Int) : List Char :=
  (if n < 0 then ['-'] else []) ++ Nat.toDigits 10 n.natAbs

def Number.chars : Number → List Char
  | .integer n => integerChars n
  | .double x => doubleChars x

def Found.message : Found → String
  | .null => "null"
  | .bool b => s!"boolean `{b}`"
  | .number (.integer n) => s!"integer `{n}`"
  | .number (.double x) => s!"floating point `{String.ofList (doubleChars x)}`"
  | .text s => s!"string {Text.quote s}"
  | .sequence => "sequence"
  | .map => "map"

/-- The kind of a value. -/
def found : Json → Found
  | .null => .null
  | .bool b => .bool b
  | .number n => .number n
  | .text s => .text s
  | .array _ => .sequence
  | .object _ => .map

/-! ## Causes -/

/-- A value of another shape than asked for. -/
inductive Mismatch where
  | type (found : Found) (expected : String)
  | value (found : Found) (expected : String)
  | length (count : Nat) (expected : String)
  | missing (field : String)
  | duplicate (field : String)
  | variant (name : String) (known : List String)
  /-- A text that is no text of the kind asked for, in that kind's own words. -/
  | content (message : String)

/-- The names that a variant may have, as a message lists them. -/
def knownVariants : List String → String
  | [] => "there are no variants"
  | [a] => s!"expected `{a}`"
  | [a, b] => s!"expected `{a}` or `{b}`"
  | names => "expected one of " ++ ", ".intercalate (names.map fun n => s!"`{n}`")

def Mismatch.message : Mismatch → String
  | .type found expected => s!"invalid type: {found.message}, expected {expected}"
  | .value found expected => s!"invalid value: {found.message}, expected {expected}"
  | .length count expected => s!"invalid length {count}, expected {expected}"
  | .missing field => s!"missing field `{field}`"
  | .duplicate field => s!"duplicate field `{field}`"
  | .variant name known => s!"unknown variant `{name}`, {knownVariants known}"
  | .content message => message

/-- Why reading stops. -/
inductive Cause where
  | endInValue
  | endInText
  | endInList
  | endInObject
  | expectedValue
  | expectedLiteral
  | expectedColon
  | expectedCommaOrListEnd
  | expectedCommaOrObjectEnd
  | trailingComma
  | trailingCharacters
  | keyNotText
  | controlCharacter
  | invalidEscape
  | loneSurrogate
  | endOfSurrogate
  | invalidCodePoint
  | invalidNumber
  | numberOutOfRange
  | tooDeep
  | mismatch (m : Mismatch)

def Cause.message : Cause → String
  | .endInValue => "EOF while parsing a value"
  | .endInText => "EOF while parsing a string"
  | .endInList => "EOF while parsing a list"
  | .endInObject => "EOF while parsing an object"
  | .expectedValue => "expected value"
  | .expectedLiteral => "expected ident"
  | .expectedColon => "expected `:`"
  | .expectedCommaOrListEnd => "expected `,` or `]`"
  | .expectedCommaOrObjectEnd => r"expected `,` or `}`"
  | .trailingComma => "trailing comma"
  | .trailingCharacters => "trailing characters"
  | .keyNotText => "key must be a string"
  | .controlCharacter => "control character (\\u0000-\\u001F) found while parsing a string"
  | .invalidEscape => "invalid escape"
  | .loneSurrogate => "lone leading surrogate in hex escape"
  | .endOfSurrogate => "unexpected end of hex escape"
  | .invalidCodePoint => "invalid unicode code point"
  | .invalidNumber => "invalid number"
  | .numberOutOfRange => "number out of range"
  | .tooDeep => "recursion limit exceeded"
  | .mismatch m => m.message

/-- Whether the text is JSON so far, and only its shape is wrong. -/
def Cause.isMismatch : Cause → Bool
  | .mismatch _ => true
  | _ => false

/-! ## Places -/

/-- One step from a value to a part of it. The step is unknown while a member's name is read. -/
inductive Segment where
  | key (name : String)
  | index (n : Nat)
  | unknown
  deriving DecidableEq

/-- The end of an unsuccessful reading. -/
structure Stop where
  cause : Cause
  /-- How many octets lie behind the place to report, if there is a place. -/
  mark : Option Nat
  /-- What was left to read. -/
  rest : Octets
  /-- From the whole document to the value at fault. -/
  path : List Segment := []

/-- What a reader returns: a value and what is left to read, or where it stopped. -/
abbrev Outcome (α : Type) := Except Stop (α × Octets)

/-- Stop at the next octet. -/
def stopAt {α : Type} (cause : Cause) (rest : Octets) : Except Stop α :=
  .error { cause, mark := some (rest.length - 1), rest }

/-- Stop behind the octets that were read. -/
def stopBehind {α : Type} (cause : Cause) (rest : Octets) : Except Stop α :=
  .error { cause, mark := some rest.length, rest }

/-- Stop without a place. -/
def stopUnplaced {α : Type} (m : Mismatch) (rest : Octets) : Except Stop α :=
  .error { cause := .mismatch m, mark := none, rest }

/-- The stop with the given place, unless it has one. -/
def Stop.place (stop : Stop) (rest : Octets) : Stop :=
  { stop with mark := some (stop.mark.getD rest.length), rest }

/-- The stop as seen from the value around it. -/
def Stop.inside (segment : Segment) (stop : Stop) : Stop :=
  { stop with path := segment :: stop.path }

/-- A failure inside a part, as seen from the value around it. -/
def inside {α : Type} (segment : Segment) : Except Stop α → Except Stop α :=
  Except.mapError (Stop.inside segment)

/-- A place in a document, both counted from where a reader starts: lines from one, columns in
octets from the last line feed. -/
structure Position where
  line : Nat
  column : Nat
  deriving DecidableEq

/-- The position behind the octets given. -/
def positionBehind (read : Octets) : Position :=
  { line := 1 + read.count 0x0a
    column := (read.reverse.takeWhile (· ≠ 0x0a)).length }

/-- The message of a stop in the document it came from. -/
def Stop.message (stop : Stop) (document : Octets) : String :=
  match stop.mark with
  | none => stop.cause.message
  | some behind =>
    let position := positionBehind (document.take (document.length - behind))
    s!"{stop.cause.message} at line {position.line} column {position.column}"

/-- The way to the value at fault, as a message gives it. -/
def pathText : List Segment → String
  | [] => ""
  | segment :: rest => rest.foldl (fun text segment => text ++ more segment) (first segment)
where
  first : Segment → String
    | .key name => name
    | .index n => s!"[{n}]"
    | .unknown => "?"
  more : Segment → String
    | .key name => "." ++ name
    | .index n => s!"[{n}]"
    | .unknown => ".?"

/-- The message, after the way to the value at fault where that is known. -/
def Stop.messageWithPath (stop : Stop) (document : Octets) : String :=
  if stop.path.all (· = .unknown) then stop.message document
  else s!"{pathText stop.path}: {stop.message document}"

end SchemaRegistry.Json
