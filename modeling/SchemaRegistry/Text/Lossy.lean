import SchemaRegistry.Text.Octets
/-!
# Octets taken for text

A reader that must not fail takes octets for text as far as they are, and puts a replacement
character for what is not. An ill-formed piece ends where no text could go on with it: after the
first octet that may not stand at its place, which is looked at again as the start of the next.
-/

set_option autoImplicit false

namespace SchemaRegistry.Text

/-- How many octets follow a first octet, and between which bounds the second one lies. -/
def leadInfo? (b : UInt8) : Option (Nat × UInt8 × UInt8) :=
  if 0xc2 ≤ b ∧ b ≤ 0xdf then some (1, 0x80, 0xbf)
  else if b = 0xe0 then some (2, 0xa0, 0xbf)
  else if b = 0xed then some (2, 0x80, 0x9f)
  else if 0xe1 ≤ b ∧ b ≤ 0xef then some (2, 0x80, 0xbf)
  else if b = 0xf0 then some (3, 0x90, 0xbf)
  else if 0xf1 ≤ b ∧ b ≤ 0xf3 then some (3, 0x80, 0xbf)
  else if b = 0xf4 then some (3, 0x80, 0x8f)
  else none

/-- How many of the octets continue a character that wants `want` more, the next of them between
the bounds. -/
def continuation : Nat → UInt8 → UInt8 → Octets → Nat
  | 0, _, _, _ => 0
  | _, _, _, [] => 0
  | want + 1, low, high, b :: rest =>
    if low ≤ b ∧ b ≤ high then continuation want 0x80 0xbf rest + 1 else 0

/-- The value of the low six bits of octets, behind a number. -/
def continued (n : Nat) (bs : Octets) : Nat :=
  bs.foldl (fun n b => n * 64 + b.toNat % 64) n

/-- The characters of octets, in at most as many steps as given. -/
def lossySteps : Nat → Octets → List Char
  | 0, _ => []
  | _, [] => []
  | steps + 1, b :: rest =>
    if b < 0x80 then Char.ofNat b.toNat :: lossySteps steps rest
    else
      match leadInfo? b with
      | none => '\ufffd' :: lossySteps steps rest
      | some (want, low, high) =>
        let got := continuation want low high rest
        if got = want then
          -- A first octet holds five bits of the code point, or one less for each octet beyond two.
          let lead := b.toNat % Nat.pow 2 (6 - want)
          Char.ofNat (continued lead (rest.take want)) :: lossySteps steps (rest.drop want)
        else '\ufffd' :: lossySteps steps (rest.drop got)

/-- The text that octets are taken for. -/
def ofOctetsLossy (bs : Octets) : String :=
  String.ofList (lossySteps bs.length bs)

end SchemaRegistry.Text
