import SchemaRegistry.Json.Stop
/-!
# Blanks, literals and what stands between values

A list or an object is read item by item. `nextItem` and `nextKey` decide whether another one
follows and stop in front of it, or in front of the closing bracket; the bracket is left for whoever
opened it. When reading a part has failed without a place, the place is where the list or object
would have gone on, and `closeList` and `closeObject` find it.
-/

set_option autoImplicit false

namespace SchemaRegistry.Json

/-! ## Blanks -/

/-- Space, tab, line feed and carriage return: the blanks between the parts of a document. -/
def isBlank (b : UInt8) : Bool :=
  b == 0x20 || b == 0x09 || b == 0x0a || b == 0x0d

/-- Without the blanks in front. -/
def skipBlanks (bs : Octets) : Octets :=
  bs.dropWhile isBlank

/-! ## Literals -/

/-- The octets of a literal behind its first. -/
def readLiteral : Octets → Octets → Except Stop Octets
  | [], bs => .ok bs
  | _ :: _, [] => stopBehind .endInValue []
  | e :: expected, b :: rest =>
    if b = e then readLiteral expected rest else stopBehind .expectedLiteral rest

/-- Behind the first letter of `null`. -/
def nullTail : Octets := [0x75, 0x6c, 0x6c]

/-- Behind the first letter of `true`. -/
def trueTail : Octets := [0x72, 0x75, 0x65]

/-- Behind the first letter of `false`. -/
def falseTail : Octets := [0x61, 0x6c, 0x73, 0x65]

/-! ## Between the parts of a list or object -/

/-- Whether another item follows, and the rest from it or from the closing bracket on. -/
def nextItem (first : Bool) (bs : Octets) : Outcome Bool :=
  match skipBlanks bs with
  | [] => stopAt .endInList []
  | 0x5d :: rest => .ok (false, 0x5d :: rest)
  | b :: rest =>
    if first then .ok (true, b :: rest)
    else if b ≠ 0x2c then stopAt .expectedCommaOrListEnd (b :: rest)
    else
      -- A comma promises a value, so that is what the end of the document cuts off.
      match skipBlanks rest with
      | [] => stopAt .endInValue []
      | 0x5d :: more => stopAt .trailingComma (0x5d :: more)
      | more => .ok (true, more)

/-- Whether another member follows, and the rest from its name or from the closing bracket on. -/
def nextKey (first : Bool) (bs : Octets) : Outcome Bool :=
  match skipBlanks bs with
  | [] => stopAt .endInObject []
  | 0x7d :: rest => .ok (false, 0x7d :: rest)
  | b :: rest =>
    if first then
      if b = 0x22 then .ok (true, b :: rest) else stopAt .keyNotText (b :: rest)
    else if b ≠ 0x2c then stopAt .expectedCommaOrObjectEnd (b :: rest)
    else
      match skipBlanks rest with
      | [] => stopAt .endInValue []
      | 0x7d :: more => stopAt .trailingComma (0x7d :: more)
      | 0x22 :: more => .ok (true, 0x22 :: more)
      | more => stopAt .keyNotText more

/-- Passes over the colon between the name and the value of a member. -/
def readColon (bs : Octets) : Except Stop Octets :=
  match skipBlanks bs with
  | [] => stopAt .endInObject []
  | 0x3a :: rest => .ok rest
  | rest => stopAt .expectedColon rest

/-! ## Closing -/

/-- Behind the closing bracket of a list that must not go on. -/
def readListEnd (bs : Octets) : Except Stop Octets :=
  match skipBlanks bs with
  | [] => stopAt .endInList []
  | 0x5d :: rest => .ok rest
  | 0x2c :: rest =>
    match skipBlanks rest with
    | 0x5d :: more => stopAt .trailingComma (0x5d :: more)
    | more => stopAt .trailingCharacters more
  | rest => stopAt .trailingCharacters rest

/-- Where a list goes on after one of its parts has failed. -/
def closeList (bs : Octets) : Octets :=
  match skipBlanks bs with
  | 0x5d :: rest => rest
  | 0x2c :: rest => skipBlanks rest
  | rest => rest

/-- Where an object goes on after one of its parts has failed. -/
def closeObject (bs : Octets) : Octets :=
  match skipBlanks bs with
  | 0x7d :: rest => rest
  | rest => rest

/-- A reading of the parts of a list: a failure without place is placed where the list goes on. -/
def placedInList {α : Type} : Except Stop α → Except Stop α :=
  Except.mapError fun stop => stop.place (closeList stop.rest)

/-- A reading of the parts of an object: a failure without place is placed where the object goes
on. -/
def placedInObject {α : Type} : Except Stop α → Except Stop α :=
  Except.mapError fun stop => stop.place (closeObject stop.rest)

/-! ## Repetition

Both loops are given as many steps as the document has octets. Every item and every member takes at
least one, so the steps do not run out. -/

/-- The items of a list, from behind its bracket up to the closing one; `item` is told the index. -/
def readItems {α : Type} (item : Nat → Octets → Outcome α) : Nat → Nat → Octets → Outcome (List α)
  | 0, _, bs => stopAt .endInList bs
  | steps + 1, index, bs =>
    match nextItem (index == 0) bs with
    | .error stop => .error stop
    | .ok (false, rest) => .ok ([], rest)
    | .ok (true, rest) =>
      match item index rest with
      | .error stop => .error stop
      | .ok (x, rest) =>
        match readItems item steps (index + 1) rest with
        | .error stop => .error stop
        | .ok (xs, rest) => .ok (x :: xs, rest)

end SchemaRegistry.Json
