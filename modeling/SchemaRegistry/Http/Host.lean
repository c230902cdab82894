import SchemaRegistry.Http.Domain
import SchemaRegistry.Http.Percent
/-!
# Hosts

The host of an address is a domain, or a number of 32 bits in up to four parts, or in brackets one
of 128 bits in groups of 16. Each has one written form: domains in lower case, with labels that are
not ASCII in their punycode form; short numbers as four decimal parts; long ones in hexadecimal
groups without leading zeros, the longest run of two or more zero groups left out.
-/

set_option autoImplicit false

namespace SchemaRegistry

/-- Why a text is no address of a leader. -/
inductive UrlFlaw where
  | relative
  | emptyHost
  | invalidPort
  | invalidIpv4
  | invalidIpv6
  | invalidDomain
  | domainCharacter
  /-- An address without a path that could be extended. -/
  | notABase
  deriving DecidableEq

namespace Host

def hexDigits (n : Nat) : List Char := Nat.toDigits 16 n

def decimal (n : Nat) : List Char := Nat.toDigits 10 n

/-- The value of a digit in a base up to sixteen. -/
def digit? (base : Nat) (c : Char) : Option Nat :=
  if c.toNat < 0x80 then
    (Json.hexDigit? c.toNat.toUInt8).bind fun d => if d < base then some d else none
  else none

/-- The number that digits write; no digits write zero. -/
def number? (base : Nat) (cs : List Char) : Option Nat :=
  cs.foldlM (fun n c => (digit? base c).map fun d => n * base + d) 0

/-! ## Numbers of 32 bits -/

/-- A part of a number: hexadecimal behind `0x`, octal behind `0`. -/
def part? (cs : List Char) : Option Nat :=
  match cs with
  | [] => none
  | '0' :: 'x' :: rest | '0' :: 'X' :: rest => number? 16 rest
  | '0' :: rest => number? 8 rest
  | cs => number? 10 cs

/-- The parts of a host between points, without an empty one at the end. -/
def labels (host : List Char) : List (List Char) :=
  match (Text.splitAt (· == '.') host).reverse with
  | [] :: rest@(_ :: _) => rest.reverse
  | parts => parts.reverse

/-- Whether the last label is a number, so that the host must be one. -/
def endsInNumber (host : List Char) : Bool :=
  match (labels host).getLast? with
  | none => false
  | some last =>
    (!last.isEmpty && last.all Char.isDigit) ||
      (match last with
        | '0' :: 'x' :: rest | '0' :: 'X' :: rest => (number? 16 rest).isSome
        | _ => false)

/-- The number that up to four parts make: each but the last is one octet, and the last fills the
rest. -/
def ofParts? : List Nat → Option Nat
  | [] => none
  | parts =>
    let last := parts.getLast?.getD 0
    let front := parts.dropLast
    if front.all (· ≤ 255) && parts.length ≤ 4 && last < Nat.pow 256 (5 - parts.length) then
      some (front.foldl (fun n p => n * 256 + p) 0 * Nat.pow 256 (4 - front.length) + last)
    else none

def ipv4? (host : List Char) : Option Nat :=
  ((labels host).mapM part?).bind ofParts?

def ipv4Chars (n : Nat) : List Char :=
  ['.'].intercalate ([24, 16, 8, 0].map fun shift => decimal ((n >>> shift) % 256))

/-! ## Numbers of 128 bits -/

/-- A group of up to four hexadecimal digits. -/
def group? (cs : List Char) : Option Nat :=
  if cs.isEmpty || 4 < cs.length then none else number? 16 cs

/-- Four decimal parts without needless zeros, as two groups. -/
def dotted? (cs : List Char) : Option (List Nat) := do
  let parts := Text.splitAt (· == '.') cs
  let numbers ← parts.mapM fun p => do
    if p.isEmpty || 3 < p.length || (1 < p.length && p.head? == some '0') then none
    else number? 10 p
  match numbers with
  | [a, b, c, d] => if numbers.all (· ≤ 255) then some [a * 256 + b, c * 256 + d] else none
  | _ => none

/-- The groups between colons; the last may be in four decimal parts. -/
def groups? (cs : List Char) : Option (List Nat) :=
  if cs.isEmpty then some []
  else
    let pieces := Text.splitAt (· == ':') cs
    match pieces.getLast? with
    | none => none
    | some last => do
      let front ← pieces.dropLast.mapM group?
      let back ← if last.contains '.' then dotted? last else (group? last).map ([·])
      some (front ++ back)

/-- The text in front of and behind the first two colons in a row. -/
def splitDouble : List Char → Option (List Char × List Char)
  | ':' :: ':' :: rest => some ([], rest)
  | c :: rest => (splitDouble rest).map fun (a, b) => (c :: a, b)
  | [] => none

/-- The eight groups of a long number. Two colons in a row stand for one or more zero groups. -/
def ipv6? (cs : List Char) : Option (List Nat) := do
  match splitDouble cs with
  | none =>
    let groups ← groups? cs
    if groups.length = 8 then some groups else none
  | some (front, back) =>
    if front.contains '.' then none
    else
      let front ← groups? front
      let back ← groups? back
      if front.length + back.length ≤ 7 then
        some (front ++ List.replicate (8 - front.length - back.length) 0 ++ back)
      else none

/-- The number of zero groups at the start. -/
def zeroRun (groups : List Nat) : Nat := (groups.takeWhile (· = 0)).length

/-- The longest run of zero groups, the first of equals, as its start and length. -/
def longestRun (groups : List Nat) : Nat × Nat :=
  (List.range groups.length).foldl (fun best i =>
    let run := zeroRun (groups.drop i)
    if best.2 < run then (i, run) else best) (0, 0)

def ipv6Chars (groups : List Nat) : List Char :=
  let write (gs : List Nat) := [':'].intercalate (gs.map hexDigits)
  let (start, run) := longestRun groups
  let inner := if run < 2 then write groups
    else write (groups.take start) ++ [':', ':'] ++ write (groups.drop (start + run))
  '[' :: inner ++ [']']

/-! ## Written forms -/

/-- A host as it is written in addresses of the web. -/
def webChars (host : List Char) : Except UrlFlaw (List Char) :=
  match host with
  | '[' :: rest =>
    match rest.reverse with
    | ']' :: inner =>
      match ipv6? inner.reverse with
      | some groups => .ok (ipv6Chars groups)
      | none => .error .invalidIpv6
    | _ => .error .invalidIpv6
  | _ =>
    match Text.ofOctets? (Percent.decode (Text.octets (String.ofList host))) with
    | none => .error .invalidDomain
    | some decoded =>
      match Domain.ascii? decoded.toList with
      | none => .error .invalidDomain
      | some domain =>
        -- Whether it is a number is decided on the written form, not on what was sent.
        if domain.isEmpty then .error .emptyHost
        else if endsInNumber domain then
          match ipv4? domain with
          | some n => .ok (ipv4Chars n)
          | none => .error .invalidIpv4
        else .ok domain

/-- The characters that end a host, or would end it somewhere else. -/
def isDelimiter (c : Char) : Bool :=
  ['\x00', '\t', '\n', '\r', ' ', '#', '/', ':', '<', '>', '?', '@', '[', '\\', ']', '^',
    '|'].contains c

/-- A host of a scheme that is not of the web. It is not looked into. -/
def opaqueChars (host : List Char) : Except UrlFlaw (List Char) :=
  match host with
  | '[' :: _ => webChars host
  | _ =>
    if host.any isDelimiter then .error .domainCharacter
    else .ok (Percent.encode Percent.isControl host)

end Host

end SchemaRegistry
