import SchemaRegistry.Json.Reader
import SchemaRegistry.Json.Shape.Take
/-!
# Reading shapes

`Shape.read` reads a value of a shape from a document, without building a tree, so that it knows the
place of whatever is wrong. A scalar of the wrong kind is reported behind it, a list or an object in
front of its bracket, a missing field behind the record. The value of a tagged record, all but its
tag, is read as a tree first, because the tag may come last; what is wrong in it has no place of its
own.
-/

set_option autoImplicit false

namespace SchemaRegistry.Json

/-! ## Scalars -/

/-- A scalar, refused behind it if `take` refuses it. -/
def readAs {α : Type} (expected : String) (take : Json → Except Mismatch α) (bs : Octets) :
    Outcome α :=
  match readScalar expected bs with
  | .error stop => .error stop
  | .ok (v, rest) =>
    match take v with
    | .ok x => .ok (x, rest)
    | .error m => stopBehind (.mismatch m) rest

/-- A value that is none of the expected kind. -/
def refuse {α : Type} (expected : String) (bs : Octets) : Outcome α :=
  readAs expected (wrongType expected) bs

/-- The name of a variant. -/
def readVariant (names : List String) (bs : Octets) : Outcome (Fin names.length) :=
  readAs "variant identifier" (takeVariant names) bs

/-- Nothing, where an object has to give a variant nothing. -/
def readNothing (bs : Octets) : Outcome Unit :=
  readAs "unit" takeNull bs

/-! ## Lists and objects -/

/-- The reader of the parts of a list or object, given how deep they may go. -/
abbrev PartsReader (α : Type) := Nat → Octets → Outcome α

/-- A list, from behind its bracket to behind the closing one. -/
def readListParts {α : Type} (parts : PartsReader α) (depth : Nat) (bs : Octets) : Outcome α :=
  placedInList <|
    match parts depth bs with
    | .error stop => .error stop
    | .ok (x, rest) => (readListEnd rest).map fun rest => (x, rest)

/-- An object, from behind its bracket to behind the closing one. -/
def readObjectParts {α : Type} (parts : PartsReader α) (depth : Nat) (bs : Octets) : Outcome α :=
  placedInObject (parts depth bs)

/-- A list or an object; what may not be given is refused as not `expected`. -/
def readParts {α : Type} (expected : String) (list object : Option (PartsReader α)) (depth : Nat)
    (bs : Octets) : Outcome α :=
  match skipBlanks bs, list, object, depth with
  | 0x5b :: rest, some _, _, 0 => stopAt .tooDeep (0x5b :: rest)
  | 0x5b :: rest, some list, _, depth + 1 => readListParts list depth rest
  | 0x7b :: rest, _, some _, 0 => stopAt .tooDeep (0x7b :: rest)
  | 0x7b :: rest, _, some object, depth + 1 => readObjectParts object depth rest
  | bs, _, _, _ => refuse expected bs

/-- The name of a variant as the key of an object. -/
def readVariantKey (names : List String) (bs : Octets) : Outcome (Fin names.length) :=
  match skipBlanks bs with
  | [] => stopAt .endInObject []
  | 0x22 :: rest => readVariant names (0x22 :: rest)
  | rest => stopAt .keyNotText rest

/-- A choice by name, or as an object of one member that gives the name nothing. -/
def readChoice (names : List String) (depth : Nat) (bs : Octets) : Outcome (Fin names.length) :=
  match skipBlanks bs with
  | [] => stopAt .endInValue []
  | 0x22 :: rest => readVariant names (0x22 :: rest)
  | 0x7b :: rest =>
    match depth with
    | 0 => stopAt .tooDeep (0x7b :: rest)
    | _ + 1 =>
      match readVariantKey names rest with
      | .error stop => .error stop
      | .ok (i, rest) =>
        match readColon rest with
        | .error stop => .error stop
        | .ok rest =>
          match readNothing rest with
          | .error stop => .error stop
          | .ok ((), rest) =>
            match skipBlanks rest with
            | [] => stopBehind .endInObject []
            | 0x7d :: rest => .ok (i, rest)
            | rest => stopBehind .expectedValue rest
  | rest => stopAt .expectedValue rest

/-! ## Records -/

/-- The members of a record from the first to behind the closing bracket. -/
def readMembers (fs : Fields) (member : String → fs.Slots → Octets → Outcome fs.Slots)
    (bs : Octets) : Outcome fs.Val :=
  match foldMembers member (bs.length + 1) true fs.blank bs with
  | .error stop => .error stop
  | .ok (slots, rest) =>
    -- The closing bracket is still there, and `closeObject` places a missing field behind it.
    match fs.complete slots with
    | .error m => stopUnplaced m rest
    | .ok v => .ok (v, rest.drop 1)

/-- The parts of a tagged record, before the tag is looked at. -/
structure Tagged where
  tag : Option String := none
  members : List (String × Json) := []

/-- The tag, if it is one. -/
def readTag (names : List String) (bs : Octets) : Outcome String :=
  (readVariant names bs).map fun (i, rest) => (names.get i, rest)

/-- A member of a tagged record. -/
def readTaggedMember (tag : String) (names : List String) (depth : Nat) (key : String)
    (state : Tagged) (bs : Octets) : Outcome Tagged :=
  if key = tag then
    if state.tag.isSome then stopUnplaced (.duplicate tag) bs
    else
      match readColon bs with
      | .error stop => .error stop
      | .ok rest =>
        (inside (.key key) (readTag names rest)).map fun (name, rest) =>
          ({ state with tag := some name }, rest)
  else
    match readColon bs with
    | .error stop => .error stop
    | .ok rest =>
      (inside (.key key) (readTree depth rest)).map fun (v, rest) =>
        ({ state with members := state.members ++ [(key, v)] }, rest)

/-- A tagged record given as an object, as its tag and the rest. -/
def readTaggedObject (tag : String) (names : List String) (depth : Nat) (bs : Octets) :
    Outcome (String × Json) :=
  match foldMembers (readTaggedMember tag names depth) (bs.length + 1) true {} bs with
  | .error stop => .error stop
  | .ok (state, rest) =>
    match state.tag with
    | none => stopUnplaced (.missing tag) rest
    | some name => .ok ((name, .object state.members), rest.drop 1)

/-- A tagged record given as a list, as its tag, which is the first item, and the rest. -/
def readTaggedList (tag : String) (names : List String) (depth : Nat) (bs : Octets) :
    Outcome (String × Json) :=
  match nextItem true bs with
  | .error stop => .error stop
  | .ok (false, rest) => stopUnplaced (.missing tag) rest
  | .ok (true, rest) =>
    match inside (.index 0) (readTag names rest) with
    | .error stop => .error stop
    | .ok (name, rest) =>
      (readItems (fun i bs => inside (.index i) (readTree depth bs)) (rest.length + 1) 1 rest).map
        fun (items, rest) => ((name, .array items), rest)

/-- A tagged record, what belongs to the tag being found in the tree of the rest. -/
def readTagged {α : Type} (title tag : String) (names : List String)
    (take : String → Json → Except Mismatch α) (depth : Nat) (bs : Octets) : Outcome α :=
  match readParts s!"internally tagged enum {title}" (some (readTaggedList tag names))
      (some (readTaggedObject tag names)) depth bs with
  | .error stop => .error stop
  | .ok ((name, body), rest) =>
    match take name body with
    | .error m => stopUnplaced m rest
    | .ok x => .ok (x, rest)

/-! ## Shapes -/

mutual

/-- A value of the shape, `depth` being how many lists and objects may still be opened. -/
def Shape.read : (s : Shape) → Nat → Octets → Outcome s.Val
  | .text, _, bs => readAs "a string" takeText bs
  | .flag, _, bs => readAs "a boolean" takeFlag bs
  | .word w, _, bs => readAs w.name w.take bs
  | .instant, _, bs => readAs "an RFC 3339 formatted date and time string" takeInstant bs
  | .list item, depth, bs =>
    let items : PartsReader (List item.Val) := fun depth bs =>
      readItems (fun i bs => inside (.index i) (item.read depth bs)) (bs.length + 1) 0 bs
    readParts "a sequence" (some items) none depth bs
  | .optional inner, depth, bs =>
    match skipBlanks bs with
    | 0x6e :: rest => (readLiteral nullTail rest).map fun rest => (none, rest)
    | bs => (inner.read depth bs).map fun (v, rest) => (some v, rest)
  | .record title fields, depth, bs =>
    readParts s!"struct {title}"
      (some fun depth bs => fields.readItems s!"struct {title}" fields.count depth 0 bs)
      (some fun depth bs => readMembers fields (fun key => fields.readMember depth key) bs)
      depth bs
  | .choice names, depth, bs => readChoice names depth bs
  | .tagged title tag cases, depth, bs => readTagged title tag cases.names cases.take depth bs

/-- A member of a record, from behind its name. What the record does not name is passed over. -/
def Fields.readMember :
    (fs : Fields) → Nat → String → fs.Slots → Octets → Outcome fs.Slots
  | .nil, _, key, slots, bs =>
    match readColon bs with
    | .error stop => .error stop
    | .ok rest => (inside (.key key) (skipValue rest)).map fun rest => (slots, rest)
  | .cons name _ shape rest, depth, key, (slot, slots), bs =>
    if key = name then
      -- A second name is refused by itself, before its colon and whatever its value is.
      if slot.isSome then stopUnplaced (.duplicate name) bs
      else
        match readColon bs with
        | .error stop => .error stop
        | .ok bs =>
          (inside (.key key) (shape.read depth bs)).map fun (v, bs) => ((some v, slots), bs)
    else (rest.readMember depth key slots bs).map fun (slots, bs) => ((slot, slots), bs)

/-- The fields of a record in the order of a list, up to the closing bracket or to the last. -/
def Fields.readItems (title : String) (count : Nat) :
    (fs : Fields) → Nat → Nat → Octets → Outcome fs.Val
  | .nil, _, _, bs => .ok ((), bs)
  | .cons _ need shape rest, depth, index, bs =>
    match nextItem (index == 0) bs with
    | .error stop => .error stop
    | .ok (false, bs) =>
      match need.whenUnreached shape with
      | none => stopUnplaced (.length index (elementsOf title count)) bs
      | some v =>
        (rest.readItems title count depth (index + 1) bs).map fun (vs, bs) => ((v, vs), bs)
    | .ok (true, bs) =>
      match inside (.index index) (shape.read depth bs) with
      | .error stop => .error stop
      | .ok (v, bs) =>
        (rest.readItems title count depth (index + 1) bs).map fun (vs, bs) => ((v, vs), bs)

end

/-- The value of the shape that a document holds. -/
def Shape.ofDocument (s : Shape) (document : Octets) : Except Stop s.Val :=
  readWhole (s.read maxDepth) document

end SchemaRegistry.Json
