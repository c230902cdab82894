/-!
# SHA-256

The hash of a sequence of octets: 256 bits that are taken to tell all sequences apart. The message
is padded to blocks of 64 octets, a block is spread over 64 words, and each word drives one round on
a state of eight words. All arithmetic on words wraps.
-/

set_option autoImplicit false

namespace SchemaRegistry.Sha256

/-! ## Constants

The first 32 bits of the fractional parts of the square roots and cube roots of the first primes. -/

/-- The initial state, from the square roots of the first 8 primes. -/
def initial : List UInt32 := [
  0x6a09e667, 0xbb67ae85, 0x3c6ef372, 0xa54ff53a, 0x510e527f, 0x9b05688c, 0x1f83d9ab, 0x5be0cd19]

/-- The round constants, from the cube roots of the first 64 primes. -/
def roundConstants : List UInt32 := [
  0x428a2f98, 0x71374491, 0xb5c0fbcf, 0xe9b5dba5, 0x3956c25b, 0x59f111f1, 0x923f82a4, 0xab1c5ed5,
  0xd807aa98, 0x12835b01, 0x243185be, 0x550c7dc3, 0x72be5d74, 0x80deb1fe, 0x9bdc06a7, 0xc19bf174,
  0xe49b69c1, 0xefbe4786, 0x0fc19dc6, 0x240ca1cc, 0x2de92c6f, 0x4a7484aa, 0x5cb0a9dc, 0x76f988da,
  0x983e5152, 0xa831c66d, 0xb00327c8, 0xbf597fc7, 0xc6e00bf3, 0xd5a79147, 0x06ca6351, 0x14292967,
  0x27b70a85, 0x2e1b2138, 0x4d2c6dfc, 0x53380d13, 0x650a7354, 0x766a0abb, 0x81c2c92e, 0x92722c85,
  0xa2bfe8a1, 0xa81a664b, 0xc24b8b70, 0xc76c51a3, 0xd192e819, 0xd6990624, 0xf40e3585, 0x106aa070,
  0x19a4c116, 0x1e376c08, 0x2748774c, 0x34b0bcb5, 0x391c0cb3, 0x4ed8aa4a, 0x5b9cca4f, 0x682e6ff3,
  0x748f82ee, 0x78a5636f, 0x84c87814, 0x8cc70208, 0x90befffa, 0xa4506ceb, 0xbef9a3f7, 0xc67178f2]

/-! ## Words -/

def rotateRight (x n : UInt32) : UInt32 :=
  (x >>> n) ||| (x <<< (32 - n))

/-- The octets of a word, the highest first. -/
def wordOctets (x : UInt32) : List UInt8 :=
  [(x >>> 24).toUInt8, (x >>> 16).toUInt8, (x >>> 8).toUInt8, x.toUInt8]

/-- The words of a sequence whose length is a multiple of four. -/
def words : List UInt8 → List UInt32
  | a :: b :: c :: d :: rest =>
    ((a.toUInt32 <<< 24) ||| (b.toUInt32 <<< 16) ||| (c.toUInt32 <<< 8) ||| d.toUInt32)
      :: words rest
  | _ => []

/-! ## Padding -/

/-- A number as eight octets, the highest first. -/
def lengthOctets (n : Nat) : List UInt8 :=
  [56, 48, 40, 32, 24, 16, 8, 0].map fun shift => UInt8.ofNat (n >>> shift)

/-- The message, a one bit, as many zero bits as needed, and the length in bits, so that a multiple
of 64 octets results. -/
def pad (message : List UInt8) : List UInt8 :=
  -- Of a block, 55 octets are left beside the one bit and the length; 119 is 55 + 64.
  let zeros := (119 - message.length % 64) % 64
  message ++ 0x80 :: List.replicate zeros 0 ++ lengthOctets (8 * message.length)

/-! ## Rounds -/

/-- The next word of a schedule, from its last sixteen words, the latest first. -/
def nextWord (recent : List UInt32) : UInt32 :=
  -- Words are counted back from the one that is made here.
  let w2 := recent.getD 1 0
  let w7 := recent.getD 6 0
  let w15 := recent.getD 14 0
  let w16 := recent.getD 15 0
  let s0 := rotateRight w15 7 ^^^ rotateRight w15 18 ^^^ (w15 >>> 3)
  let s1 := rotateRight w2 17 ^^^ rotateRight w2 19 ^^^ (w2 >>> 10)
  w16 + s0 + w7 + s1

/-- A schedule extended by a number of words, the latest first. -/
def extend : Nat → List UInt32 → List UInt32
  | 0, recent => recent
  | n + 1, recent => extend n (nextWord recent :: recent)

/-- The 64 words that a block of sixteen is spread over. -/
def schedule (block : List UInt32) : List UInt32 :=
  (extend 48 block.reverse).reverse

/-- The eight words between two rounds. -/
structure State where
  (a b c d e f g h : UInt32)

/-- One round, driven by the sum of a schedule word and a round constant. -/
def round (s : State) (driver : UInt32) : State :=
  let s1 := rotateRight s.e 6 ^^^ rotateRight s.e 11 ^^^ rotateRight s.e 25
  let choice := (s.e &&& s.f) ^^^ (~~~s.e &&& s.g)
  let t1 := s.h + s1 + choice + driver
  let s0 := rotateRight s.a 2 ^^^ rotateRight s.a 13 ^^^ rotateRight s.a 22
  let majority := (s.a &&& s.b) ^^^ (s.a &&& s.c) ^^^ (s.b &&& s.c)
  -- Six of the words only move on by one place.
  { a := t1 + (s0 + majority), b := s.a, c := s.b, d := s.c
    e := s.d + t1, f := s.e, g := s.f, h := s.g }

def State.words (s : State) : List UInt32 :=
  [s.a, s.b, s.c, s.d, s.e, s.f, s.g, s.h]

def State.ofWords (ws : List UInt32) : State :=
  { a := ws.getD 0 0, b := ws.getD 1 0, c := ws.getD 2 0, d := ws.getD 3 0
    e := ws.getD 4 0, f := ws.getD 5 0, g := ws.getD 6 0, h := ws.getD 7 0 }

/-- The state after a block: the rounds' result added to the state before it. -/
def compress (state : List UInt32) (block : List UInt32) : List UInt32 :=
  let drivers := List.zipWith (· + ·) (schedule block) roundConstants
  List.zipWith (· + ·) state (drivers.foldl round (State.ofWords state)).words

/-- The state after a number of blocks. -/
def absorb : Nat → List UInt32 → List UInt32 → List UInt32
  | 0, state, _ => state
  | n + 1, state, ws => absorb n (compress state (ws.take 16)) (ws.drop 16)

/-- The hash of a sequence of octets. -/
def hash (message : List UInt8) : List UInt8 :=
  let padded := pad message
  (absorb (padded.length / 64) initial (words padded)).flatMap wordOctets

/-- Two hexadecimal digits for each octet. -/
def hex (octets : List UInt8) : List Char :=
  octets.flatMap fun b => [Nat.digitChar (b.toNat / 16), Nat.digitChar (b.toNat % 16)]

end SchemaRegistry.Sha256
