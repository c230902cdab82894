/-!
# Punycode

A label of a domain is written in ASCII: its ASCII characters first, and behind a hyphen a sequence
of numbers that says where the others belong. The other code points are inserted in ascending order,
those of one value from left to right. Each number is the distance from one insertion to the next,
counted over all places and all code points that could have come between, so only the distances are
written and never a position.

The numbers have digits of growing weight in base 36. A digit below the threshold of its place is
the last of its number, which is why no separators are needed. The thresholds follow a bias, which
is adapted to the size of the numbers so far. `encode` writes a label and `decode` reads it.

Nothing here is bounded by a number of steps: in writing, a number shrinks with every digit, because
the threshold is at least one, and the code points that are still to be inserted become fewer; in
reading, what is left to read becomes shorter. Numbers of more than 32 bits are not read.
-/

set_option autoImplicit false

namespace SchemaRegistry.Text.Punycode

/-! ## Numbers -/

/-- A digit: a letter up to 25, and a decimal digit above. -/
def digit (n : Nat) : Char :=
  if n < 26 then Char.ofNat ('a'.toNat + n) else Char.ofNat ('0'.toNat + n - 26)

/-- Below this, the digit at a place is the last. -/
def threshold (bias place : Nat) : Nat :=
  if place ≤ bias then 1 else if bias + 26 ≤ place then 26 else place - bias

theorem one_le_threshold (bias place : Nat) : 1 ≤ threshold bias place := by
  grind [threshold]

/-- The digits of a number from a place on, those of least weight first. -/
def digits (bias place n : Nat) : List Char :=
  let t := threshold bias place
  if n < t then [digit n]
  else digit (t + (n - t) % (36 - t)) :: digits bias (place + 36) ((n - t) / (36 - t))
termination_by n
decreasing_by
  have := one_le_threshold bias place
  have := Nat.div_le_self (n - threshold bias place) (36 - threshold bias place)
  omega

/-- The value of a digit, in either case of letters. -/
def digit? (c : Char) : Option Nat :=
  if c.isLower then some (c.toNat - 'a'.toNat)
  else if c.isUpper then some (c.toNat - 'A'.toNat)
  else if c.isDigit then some (c.toNat - '0'.toNat + 26)
  else none

/-- What is too great for a number that is read. -/
def limit : Nat := 4294967296

/-- The sum of a number's digits from a place on, each times its weight, added to `sum`; and what
follows the number. -/
def readNumber (bias : Nat) : Nat → Nat → Nat → List Char → Option (Nat × List Char)
  | _, _, _, [] => none
  | place, weight, sum, c :: rest =>
    match digit? c with
    | none => none
    | some d =>
      let sum := sum + d * weight
      let t := threshold bias place
      if limit ≤ sum then none
      else if d < t then some (sum, rest)
      else if limit ≤ weight * (36 - t) then none
      else readNumber bias (place + 36) (weight * (36 - t)) sum rest

/-- A number has at least one digit. -/
theorem length_lt_of_readNumber {bias place weight sum n : Nat} {cs rest : List Char}
    (h : readNumber bias place weight sum cs = some (n, rest)) : rest.length < cs.length := by
  induction cs generalizing place weight sum with
  | nil => simp [readNumber] at h
  | cons c cs ih =>
    simp only [readNumber] at h
    split at h
    · simp at h
    · split at h
      · simp at h
      · split at h
        · simp only [Option.some.injEq, Prod.mk.injEq] at h
          simp [h.2]
        · split at h
          · simp at h
          · exact Nat.lt_succ_of_lt (ih h)

/-! ## The bias -/

/-- The bias that a scaled number leads to. -/
def biasFor (n : Nat) : Nat :=
  if 455 < n then 36 + biasFor (n / 35) else 36 * n / (n + 38)

/-- The bias after a number, when so many code points have their place. The first number says little
about those that follow, so it counts for less. -/
def adapt (n placed : Nat) (isFirst : Bool) : Nat :=
  let n := if isFirst then n / 700 else n / 2
  biasFor (n + n / placed)

/-! ## Labels -/

/-- How far the numbers of a label are written. -/
structure Progress where
  written : List Char
  /-- The distance from the last insertion. -/
  delta : Nat
  bias : Nat
  /-- How many code points have their place. -/
  placed : Nat

/-- Passes one code point of the label while `m` is inserted; `basic` is how many are ASCII. -/
def pass (basic m : Nat) (p : Progress) (c : Nat) : Progress :=
  if c < m then { p with delta := p.delta + 1 }
  else if c = m then
    { written := p.written ++ digits p.bias 36 p.delta
      delta := 0
      bias := adapt p.delta (p.placed + 1) (p.placed == basic)
      placed := p.placed + 1 }
  else p

/-- Inserts the code points given, the first of which may be `n`. -/
def insertAll (label : List Nat) (basic : Nat) : List Nat → Nat → Progress → Progress
  | [], _, p => p
  | m :: rest, n, p =>
    -- every code point that is skipped could have stood at every place
    let p := { p with delta := p.delta + (m - n) * (p.placed + 1) }
    let p := label.foldl (pass basic m) p
    insertAll label basic rest (m + 1) { p with delta := p.delta + 1 }

/-- The code points that are not ASCII, ascending, each once. -/
def others (label : List Nat) : List Nat :=
  ((label.filter (0x80 ≤ ·)).mergeSort (· ≤ ·)).eraseDups

/-- The label in ASCII, without the mark that tells it is one. -/
def encode (label : List Char) : List Char :=
  let basic := label.filter (·.toNat < 0x80)
  let points := label.map Char.toNat
  let start := { written := [], delta := 0, bias := 72, placed := basic.length }
  basic ++ (if basic.isEmpty then [] else ['-'])
    ++ (insertAll points basic.length (others points) 0x80 start).written

/-- The label with the code points inserted that the numbers tell of. `point` is the one inserted
last, and `place` is where the next one would stand at the least. -/
def insertRead (bias point place : Nat) (label : List Char) : List Char → Option (List Char)
  | [] => some label
  | c :: cs =>
    match _h : readNumber bias 36 1 place (c :: cs) with
    | none => none
    | some (sum, rest) =>
      let places := label.length + 1
      let point := point + sum / places
      if point.isValidChar then
        insertRead (adapt (sum - place) places (place == 0)) point (sum % places + 1)
          (label.insertIdx (sum % places) (Char.ofNat point)) rest
      else none
termination_by cs => cs.length
decreasing_by exact length_lt_of_readNumber _h

/-- The ASCII characters of a label and its numbers, which stand behind the last hyphen that is not
the first character. -/
def splitLabel (label : List Char) : List Char × List Char :=
  let numbers := (label.reverse.takeWhile (· ≠ '-')).reverse
  if numbers.length + 1 < label.length then
    (label.take (label.length - numbers.length - 1), numbers)
  else ([], label)

/-- The label that is written in ASCII. -/
def decode (label : List Char) : Option (List Char) :=
  let (basic, numbers) := splitLabel label
  insertRead 72 0x80 0 basic numbers

end SchemaRegistry.Text.Punycode
