import SchemaRegistry.Json.Shape
import SchemaRegistry.Json.Stop
import SchemaRegistry.Time.Reading
/-!
# Shapes of trees

`Shape.take` finds the value of a shape in a tree that was read without knowing the shape. It is
what follows once the tag of a tagged record is known. A record may be given as an object, in which
names it does not have are ignored, or as the list of its fields; a choice is a name, or an object
that maps the name to nothing.
-/

set_option autoImplicit false

namespace SchemaRegistry.Json

/-! ## Scalars -/

/-- Why a value of another kind is refused. -/
def wrongType {α : Type} (expected : String) (v : Json) : Except Mismatch α :=
  .error (.type (found v) expected)

def takeText : Json → Except Mismatch String
  | .text s => .ok s
  | v => wrongType "a string" v

def takeFlag : Json → Except Mismatch Bool
  | .bool b => .ok b
  | v => wrongType "a boolean" v

/-- An integer of the range. A double never is one, whatever its value. -/
def Word.take (w : Word) : Json → Except Mismatch w.Carrier
  | .number (.integer n) =>
    match w.ofInt? n with
    | some n => .ok n
    | none => .error (.value (.number (.integer n)) w.name)
  | v => wrongType w.name v

def takeInstant : Json → Except Mismatch Instant
  | .text s => (Instant.ofText? s).mapError fun flaw => .content flaw.message
  | v => wrongType "an RFC 3339 formatted date and time string" v

/-- The name of a variant. -/
def takeVariant (names : List String) : Json → Except Mismatch (Fin names.length)
  | .text s =>
    match indexOf? s names with
    | some i => .ok i
    | none => .error (.variant s names)
  | v => wrongType "variant identifier" v

/-- Nothing, which is `null`. -/
def takeNull : Json → Except Mismatch Unit
  | .null => .ok ()
  | v => wrongType "unit" v

/-- Nothing, which may also be an object without members. -/
def takeNothing : Json → Except Mismatch Unit
  | .object [] => .ok ()
  | v => takeNull v

/-- A choice by name, or by an object of one member that gives the name nothing. -/
def takeChoice (nothing : Json → Except Mismatch Unit) (names : List String) :
    Json → Except Mismatch (Fin names.length)
  | .text s => takeVariant names (.text s)
  | .object [(key, value)] =>
    match takeVariant names (.text key) with
    | .error m => .error m
    | .ok i => (nothing value).map fun _ => i
  | .object _ => .error (.value .map "map with a single key")
  | v => wrongType "string or map" v

/-! ## Counts -/

/-- What a record has, when the list form of it has not. -/
def elementsOf (title : String) (count : Nat) : String :=
  if count = 1 then s!"{title} with 1 element" else s!"{title} with {count} elements"

/-- What a list has, when it has more than its record. -/
def elementsInSequence (count : Nat) : String :=
  if count = 1 then "1 element in sequence" else s!"{count} elements in sequence"

/-- The fields of a record once all members are read. -/
def Fields.complete : (fs : Fields) → fs.Slots → Except Mismatch fs.Val
  | .nil, _ => .ok ()
  | .cons key need shape rest, (slot, slots) =>
    match slot.or (need.whenUnnamed shape) with
    | none => .error (.missing key)
    | some v => (rest.complete slots).map fun vs => (v, vs)

/-- A record from the list of its fields or from its members. -/
def takeBody (fs : Fields) (title : String) (items : List Json → Except Mismatch fs.Val)
    (member : String → Json → fs.Slots → Except Mismatch fs.Slots) :
    Json → Except Mismatch fs.Val
  | .array values => items values
  | .object members =>
    match members.foldlM (fun slots (key, v) => member key v slots) fs.blank with
    | .error m => .error m
    | .ok slots => fs.complete slots
  | v => wrongType title v

/-! ## Trees -/

mutual

def Shape.take : (s : Shape) → Json → Except Mismatch s.Val
  | .text, v => takeText v
  | .flag, v => takeFlag v
  | .word w, v => w.take v
  | .instant, v => takeInstant v
  | .list item, v =>
    match v with
    | .array items => items.mapM item.take
    | v => wrongType "a sequence" v
  | .optional inner, v =>
    match v with
    | .null => .ok none
    | v => (inner.take v).map some
  | .record title fields, v =>
    takeBody fields s!"struct {title}" (fields.takeItems s!"struct {title}" fields.count 0)
      fields.takeMember v
  | .choice names, v => takeChoice takeNothing names v
  | .tagged title tag cases, v =>
    match v with
    | .object members =>
      match members.lookup tag with
      | none => .error (.missing tag)
      | some value =>
        match takeVariant cases.names value with
        | .error m => .error m
        | .ok i => cases.take (cases.names.get i) (.object (members.filter (·.1 ≠ tag)))
    | .array [] => .error (.missing tag)
    | .array (value :: items) =>
      match takeVariant cases.names value with
      | .error m => .error m
      | .ok i => cases.take (cases.names.get i) (.array items)
    | v => wrongType s!"internally tagged enum {title}" v

/-- The value of the field of that name, if there is one. -/
def Fields.takeMember :
    (fs : Fields) → String → Json → fs.Slots → Except Mismatch fs.Slots
  | .nil, _, _, slots => .ok slots
  | .cons key _ shape rest, name, v, (slot, slots) =>
    if name = key then
      if slot.isSome then .error (.duplicate key)
      else (shape.take v).map fun x => (some x, slots)
    else (rest.takeMember name v slots).map fun slots => (slot, slots)

/-- The fields in the order of a list. -/
def Fields.takeItems (title : String) (count : Nat) :
    (fs : Fields) → Nat → List Json → Except Mismatch fs.Val
  | .nil, index, items =>
    if items.isEmpty then .ok ()
    else .error (.length (index + items.length) (elementsInSequence index))
  | .cons _ need shape rest, index, [] =>
    match need.whenUnreached shape with
    | none => .error (.length index (elementsOf title count))
    | some v => (rest.takeItems title count (index + 1) []).map fun vs => (v, vs)
  | .cons _ _ shape rest, index, item :: items =>
    match shape.take item with
    | .error m => .error m
    | .ok v => (rest.takeItems title count (index + 1) items).map fun vs => (v, vs)

/-- The record that belongs to a tag. -/
def Cases.take : (cs : Cases) → String → Json → Except Mismatch cs.Val
  | .nil, name, _ => .error (.variant name [])
  | .cons name title fields rest, tag, v =>
    if tag = name then
      (takeBody fields title (fields.takeItems title fields.count 0) fields.takeMember v).map .inl
    else (rest.take tag v).map .inr

end

end SchemaRegistry.Json
