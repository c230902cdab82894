import SchemaRegistry.Http.Domain.Fold
import SchemaRegistry.Text.Composed
import SchemaRegistry.Text.Direction
import SchemaRegistry.Text.Joining
import SchemaRegistry.Text.Punycode
/-!
# Domains

A domain has labels between points, and they are written in ASCII. A label that is typed in other
characters is folded and composed, so that what looks the same is the same, and then encoded behind
the mark `xn--`. A label that comes with the mark already is decoded, and it must be what encoding
would have given: nothing in it may have to be folded or composed.

Some labels could be taken for others, and are refused: those that begin with a mark, which would
join the point in front of them, those with joiners that mean nothing, and in domains in which
anything is written from right to left those that do not run one way.
-/

set_option autoImplicit false

namespace SchemaRegistry.Domain

open Text

/-- The characters of ASCII that no domain may hold. -/
def isForbidden (c : Char) : Bool :=
  c.toNat ≤ 0x20 || c.toNat == 0x7f ||
    ['#', '%', '/', ':', '<', '>', '?', '@', '[', '\\', ']', '^', '|'].contains c

def isAscii (cs : List Char) : Bool := cs.all (·.toNat < 0x80)

/-- Folded and composed. -/
def normal? (cs : List Char) : Option (List Char) :=
  (cs.mapM fold?).map fun folded => composed folded.flatten

/-! ## Labels -/

/-- A label as it is written and as it is shown. -/
structure Label where
  written : List Char
  shown : List Char
  deriving DecidableEq

/-- What labels begin with that are encoded. -/
def mark : List Char := ['x', 'n', '-', '-']

def hasMark (cs : List Char) : Bool := mark.isPrefixOf cs

/-- Longer labels are not encoded, and longer ones not decoded. -/
def maxEncoded : Nat := 1000
def maxDecoded : Nat := 2000

/-- Whether a label can be shown without being taken for another. -/
def isDistinct (cs : List Char) : Bool :=
  !(cs.head?.map isMark).getD false && joinersMeanSomething [] cs

/-- A label that is encoded. It has to tell of some character outside ASCII. -/
def Label.ofMarked? (written : List Char) : Option Label :=
  let encoded := written.drop mark.length
  if !isAscii written || maxDecoded < encoded.length then none
  else
    match Punycode.decode encoded with
    | none => none
    | some shown =>
      if !isAscii shown && normal? shown == some shown && isDistinct shown then
        some { written, shown }
      else none

/-- The label of folded and composed characters. -/
def Label.ofNormal? (cs : List Char) : Option Label :=
  if hasMark cs then Label.ofMarked? cs
  else if isAscii cs then some { written := cs, shown := cs }
  else if isDistinct cs && cs.length ≤ maxEncoded then
    some { written := mark ++ Punycode.encode cs, shown := cs }
  else none

/-! ## Domains -/

/-- Whether the labels of a domain run one way each, if anything runs from right to left. -/
def areOneWay (labels : List (List Char)) : Bool :=
  !labels.any hasRightToLeft || labels.all fun cs => cs.isEmpty || isOneWay cs

/-- A domain as it is written in ASCII. -/
def ascii? (domain : List Char) : Option (List Char) := do
  let cs ← normal? domain
  if cs.any isForbidden then none
  let labels ← (splitAt (· == '.') cs).mapM Label.ofNormal?
  if areOneWay (labels.map Label.shown) then
    some (['.'].intercalate (labels.map Label.written))
  else none

end SchemaRegistry.Domain
