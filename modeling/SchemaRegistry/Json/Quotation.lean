import SchemaRegistry.Json.Stop
/-!
# Reading and writing quoted text

Between its quotation marks a text stands for itself, octet by octet, except that a backslash
starts an escape and that control octets are not allowed. A code point outside the basic plane may
be escaped as two surrogates, and a surrogate without its partner is refused, so what is read is
text whenever the octets written out are. Writing escapes only what has to be: the quotation mark,
the backslash and the control octets, the usual five of them by letter.

`skipText` passes over a text that nobody asks for. It checks the form of the escapes and not what
they stand for.
-/

set_option autoImplicit false

namespace SchemaRegistry.Json

/-! ## Escapes -/

/-- What a letter behind a backslash stands for. -/
def simpleEscape? (b : UInt8) : Option UInt8 :=
  if b = 0x22 ∨ b = 0x5c ∨ b = 0x2f then some b
  else if b = 0x62 then some 0x08
  else if b = 0x66 then some 0x0c
  else if b = 0x6e then some 0x0a
  else if b = 0x72 then some 0x0d
  else if b = 0x74 then some 0x09
  else none

def hexDigit? (b : UInt8) : Option Nat :=
  if 0x30 ≤ b ∧ b ≤ 0x39 then some (b.toNat - 0x30)
  else if 0x61 ≤ b ∧ b ≤ 0x66 then some (b.toNat - 0x61 + 10)
  else if 0x41 ≤ b ∧ b ≤ 0x46 then some (b.toNat - 0x41 + 10)
  else none

/-- The number that four hexadecimal digits write. -/
def hexQuad? (a b c d : UInt8) : Option Nat := do
  let a ← hexDigit? a
  let b ← hexDigit? b
  let c ← hexDigit? c
  let d ← hexDigit? d
  pure (((a * 16 + b) * 16 + c) * 16 + d)

def isLeadingSurrogate (n : Nat) : Bool := 0xd800 ≤ n && n ≤ 0xdbff
def isTrailingSurrogate (n : Nat) : Bool := 0xdc00 ≤ n && n ≤ 0xdfff

/-- The code point that two surrogates stand for. -/
def surrogatePair (leading trailing : Nat) : Nat :=
  0x10000 + (leading - 0xd800) * 0x400 + (trailing - 0xdc00)

/-- A code point, as octets in the order opposite to that of the text. -/
def codePointReversed (n : Nat) : Octets :=
  (String.utf8EncodeChar (Char.ofNat n)).reverse

/-! ## Reading -/

/-- The octets of a text behind its opening mark. `taken` holds those already read, last first. -/
def readTextOctets (taken : Octets) : Octets → Outcome Octets
  | [] => stopBehind .endInText []
  | 0x22 :: rest => .ok (taken.reverse, rest)
  | 0x5c :: [] => stopBehind .endInText []
  | 0x5c :: 0x75 :: a :: b :: c :: d :: rest =>
    match hexQuad? a b c d with
    | none => stopBehind .invalidEscape rest
    | some n =>
      if isTrailingSurrogate n then stopBehind .loneSurrogate rest
      else if isLeadingSurrogate n then
        match rest with
        | [] => stopBehind .endInText []
        | 0x5c :: [] => stopBehind .endInText []
        | 0x5c :: 0x75 :: a :: b :: c :: d :: rest =>
          match hexQuad? a b c d with
          | none => stopBehind .invalidEscape rest
          | some m =>
            if isTrailingSurrogate m then
              readTextOctets (codePointReversed (surrogatePair n m) ++ taken) rest
            else stopBehind .loneSurrogate rest
        | 0x5c :: 0x75 :: _ => stopBehind .endInText []
        | 0x5c :: _ :: rest => stopBehind .endOfSurrogate rest
        | _ :: rest => stopBehind .endOfSurrogate rest
      else readTextOctets (codePointReversed n ++ taken) rest
  | 0x5c :: 0x75 :: _ => stopBehind .endInText []
  | 0x5c :: b :: rest =>
    match simpleEscape? b with
    | some c => readTextOctets (c :: taken) rest
    | none => stopBehind .invalidEscape rest
  | b :: rest =>
    if b < 0x20 then stopBehind .controlCharacter rest else readTextOctets (b :: taken) rest

/-- A text behind its opening mark. Octets that are no text are reported at the first of them. -/
def readText (bs : Octets) : Outcome String :=
  match readTextOctets [] bs with
  | .error stop => .error stop
  | .ok (content, rest) =>
    match Text.ofOctets? content with
    | some s => .ok (s, rest)
    | none =>
      -- Counted back from the closing mark, as if every octet had stood for itself.
      let wrong := content.length - Text.validPrefixLength content
      .error { cause := .invalidCodePoint, mark := some (rest.length + wrong), rest }

/-- Passes over a text, from behind its opening mark to behind its closing one. -/
def skipText : Octets → Except Stop Octets
  | [] => stopBehind .endInText []
  | 0x22 :: rest => .ok rest
  | 0x5c :: [] => stopBehind .endInText []
  | 0x5c :: 0x75 :: a :: b :: c :: d :: rest =>
    if (hexQuad? a b c d).isSome then skipText rest else stopBehind .invalidEscape rest
  | 0x5c :: 0x75 :: _ => stopBehind .endInText []
  | 0x5c :: b :: rest =>
    if (simpleEscape? b).isSome then skipText rest else stopBehind .invalidEscape rest
  | b :: rest =>
    if b < 0x20 then stopBehind .controlCharacter (b :: rest) else skipText rest

/-! ## Writing -/

/-- A control character that has no letter of its own, as two hexadecimal digits. -/
def controlEscape (c : Char) : List Char :=
  ['\\', 'u', '0', '0', Nat.digitChar (c.toNat / 16), Nat.digitChar (c.toNat % 16)]

/-- A character between quotation marks. -/
def quotedChar (c : Char) : List Char :=
  if c = '"' then ['\\', '"']
  else if c = '\\' then ['\\', '\\']
  else if c = '\n' then ['\\', 'n']
  else if c = '\r' then ['\\', 'r']
  else if c = '\t' then ['\\', 't']
  else if c = '\x08' then ['\\', 'b']
  else if c = '\x0c' then ['\\', 'f']
  else if c.toNat < 0x20 then controlEscape c
  else [c]

/-- A text with its quotation marks. -/
def quotedChars (s : String) : List Char :=
  '"' :: s.toList.flatMap quotedChar ++ ['"']

end SchemaRegistry.Json
