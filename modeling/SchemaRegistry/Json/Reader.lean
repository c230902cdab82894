import SchemaRegistry.Json.Numeral
import SchemaRegistry.Json.Quotation
import SchemaRegistry.Json.Separator
/-!
# Reading values

`readTree` reads one value as a tree. Lists and objects may be nested 127 levels deep, which is what
bounds the recursion. `readScalar` is its part for values without parts, and refuses a bracket
without consuming it. `foldMembers` goes through the members of an object whatever is made of them;
a name is read here, and the step is given what stands behind it, because a step that knows the name
already may refuse it before the colon.

`skipValue` passes over a value that nobody asks for. It checks brackets and separators, knows no
limit of depth, and sees a missing item where a list is only being closed.
-/

set_option autoImplicit false

namespace SchemaRegistry.Json

/-- How many lists and objects may be open at once. -/
def maxDepth : Nat := 127

/-! ## Scalars -/

/-- A value without parts. An opening bracket is refused where it stands, as a value that is not
`expected`. -/
def readScalar (expected : String) (bs : Octets) : Outcome Json :=
  match skipBlanks bs with
  | [] => stopAt .endInValue []
  | b :: rest =>
    if b = 0x6e then (readLiteral nullTail rest).map fun rest => (.null, rest)
    else if b = 0x74 then (readLiteral trueTail rest).map fun rest => (.bool true, rest)
    else if b = 0x66 then (readLiteral falseTail rest).map fun rest => (.bool false, rest)
    else if b = 0x22 then (readText rest).map fun (s, rest) => (.text s, rest)
    else if b = 0x2d ∨ (digit? b).isSome then
      (readNumeral (b :: rest)).map fun (n, rest) => (.number n, rest)
    else if b = 0x5b then stopBehind (.mismatch (.type .sequence expected)) (b :: rest)
    else if b = 0x7b then stopBehind (.mismatch (.type .map expected)) (b :: rest)
    else stopAt .expectedValue (b :: rest)

/-! ## Members -/

/-- The name of a member, at its quotation mark. -/
def readKey (bs : Octets) : Outcome String :=
  inside .unknown (readText (bs.drop 1))

/-- The members of an object, from behind its bracket up to the closing one. -/
def foldMembers {σ : Type} (step : String → σ → Octets → Outcome σ) :
    Nat → Bool → σ → Octets → Outcome σ
  | 0, _, _, bs => stopAt .endInObject bs
  | steps + 1, first, state, bs =>
    match inside .unknown (nextKey first bs) with
    | .error stop => .error stop
    | .ok (false, rest) => .ok (state, rest)
    | .ok (true, rest) =>
      match readKey rest with
      | .error stop => .error stop
      | .ok (key, rest) =>
        match step key state rest with
        | .error stop => .error stop
        | .ok (state, rest) => foldMembers step steps false state rest

/-! ## Trees -/

/-- A value as a tree, `depth` being how many lists and objects may still be opened. -/
def readTree (depth : Nat) (bs : Octets) : Outcome Json :=
  match skipBlanks bs with
  | 0x5b :: rest =>
    match depth with
    | 0 => stopAt .tooDeep (0x5b :: rest)
    | depth + 1 =>
      match readItems (fun _ => readTree depth) (rest.length + 1) 0 rest with
      | .error stop => .error stop
      | .ok (items, rest) => .ok (.array items, rest.drop 1)
  | 0x7b :: rest =>
    match depth with
    | 0 => stopAt .tooDeep (0x7b :: rest)
    | depth + 1 =>
      let member (key : String) (members : List (String × Json)) (bs : Octets) :=
        match readColon bs with
        | .error stop => .error stop
        | .ok rest =>
          match readTree depth rest with
          | .error stop => .error stop
          | .ok (value, rest) => .ok (members ++ [(key, value)], rest)
      match foldMembers member (rest.length + 1) true [] rest with
      | .error stop => .error stop
      | .ok (members, rest) => .ok (.object members, rest.drop 1)
  | bs => readScalar "" bs

/-- A document that is one value, read by `value`. -/
def readWhole {α : Type} (value : Octets → Outcome α) (document : Octets) : Except Stop α :=
  match value document with
  | .error stop => .error stop
  | .ok (v, rest) =>
    match skipBlanks rest with
    | [] => .ok v
    | rest => stopAt .trailingCharacters rest

/-- A document as a tree. -/
def parse (document : Octets) : Except Stop Json :=
  readWhole (readTree maxDepth) document

/-! ## Passing over a value -/

mutual

/-- Passes over a value in at most `steps` steps. -/
def skipSteps : Nat → Octets → Except Stop Octets
  | 0, bs => stopAt .endInValue bs
  | steps + 1, bs =>
    match skipBlanks bs with
    | [] => stopAt .endInValue []
    | b :: rest =>
      if b = 0x6e then readLiteral nullTail rest
      else if b = 0x74 then readLiteral trueTail rest
      else if b = 0x66 then readLiteral falseTail rest
      else if b = 0x22 then skipText rest
      else if b = 0x2d ∨ (digit? b).isSome then skipNumeral (b :: rest)
      else if b = 0x5b then
        match skipBlanks rest with
        | [] => stopAt .endInList []
        | 0x5d :: more => .ok more
        | more => skipItems steps more
      else if b = 0x7b then
        match skipBlanks rest with
        | [] => stopAt .endInObject []
        | 0x7d :: more => .ok more
        | more => skipMembers steps more
      else stopAt .expectedValue (b :: rest)

/-- Passes over the items of a list from one of them on. -/
def skipItems : Nat → Octets → Except Stop Octets
  | 0, bs => stopAt .endInList bs
  | steps + 1, bs =>
    match skipSteps steps bs with
    | .error stop => .error stop
    | .ok rest =>
      match skipBlanks rest with
      | [] => stopAt .endInList []
      | 0x5d :: more => .ok more
      | 0x2c :: more => skipItems steps more
      | more => stopAt .expectedCommaOrListEnd more

/-- Passes over the members of an object from one of them on. -/
def skipMembers : Nat → Octets → Except Stop Octets
  | 0, bs => stopAt .endInObject bs
  | steps + 1, bs =>
    match skipBlanks bs with
    | [] => stopAt .endInObject []
    | 0x22 :: rest =>
      match skipText rest with
      | .error stop => .error stop
      | .ok rest =>
        match readColon rest with
        | .error stop => .error stop
        | .ok rest =>
          match skipSteps steps rest with
          | .error stop => .error stop
          | .ok rest =>
            match skipBlanks rest with
            | [] => stopAt .endInObject []
            | 0x7d :: more => .ok more
            | 0x2c :: more => skipMembers steps more
            | more => stopAt .expectedCommaOrObjectEnd more
    | rest => stopAt .keyNotText rest

end

/-- Passes over a value. Each octet pays for the two steps that look at it. -/
def skipValue (bs : Octets) : Except Stop Octets :=
  skipSteps (2 * bs.length + 1) bs

end SchemaRegistry.Json
