import SchemaRegistry.Json.Tree
import SchemaRegistry.Time.Instant
/-!
# Shapes of documents

What the registry exchanges and stores is described by shapes, and one reader and one writer serve
all of them. A `Shape` says which values a document may hold: a text, a flag, a word of a fixed
range, an instant, a list, an optional value, a record of named fields, a choice among names, or a
record whose fields depend on a tag. `Shape.Val` is the type of what is read.

A field says how it may be absent. A *required* field never is. A *nullable* one may be left out of
an object, though not out of the list form of its record, and is always written. An *omissible* one
may be left out of both, and is not written when it is empty.
-/

set_option autoImplicit false

namespace SchemaRegistry.Json

/-! ## Words -/

/-- The ranges of whole numbers. -/
inductive Word where
  | u16
  | u32
  | u64
  | i64
  deriving DecidableEq

/-- The numbers of a range. -/
abbrev Word.Carrier : Word → Type
  | .u16 => UInt16
  | .u32 => UInt32
  | .u64 => UInt64
  | .i64 => Int64

def Word.name : Word → String
  | .u16 => "u16"
  | .u32 => "u32"
  | .u64 => "u64"
  | .i64 => "i64"

def Word.toInt : (w : Word) → w.Carrier → Int
  | .u16, n => n.toNat
  | .u32, n => n.toNat
  | .u64, n => n.toNat
  | .i64, n => n.toInt

/-- The number in the range, if it is in it. -/
def Word.ofInt? : (w : Word) → Int → Option w.Carrier
  | .u16, n => if 0 ≤ n ∧ n < 65536 then some (UInt16.ofNat n.toNat) else none
  | .u32, n => if 0 ≤ n ∧ n < 4294967296 then some (UInt32.ofNat n.toNat) else none
  | .u64, n => if 0 ≤ n ∧ n < 18446744073709551616 then some (UInt64.ofNat n.toNat) else none
  | .i64, n =>
    if -9223372036854775808 ≤ n ∧ n < 9223372036854775808 then some (Int64.ofInt n) else none

/-! ## Shapes -/

/-- How a field may be absent. -/
inductive Need where
  | required
  | nullable
  | omissible
  deriving DecidableEq

mutual

inductive Shape where
  | text
  | flag
  | word (w : Word)
  | instant
  | list (item : Shape)
  | optional (inner : Shape)
  | record (title : String) (fields : Fields)
  | choice (names : List String)
  | tagged (title tag : String) (cases : Cases)

inductive Fields where
  | nil
  | cons (key : String) (need : Need) (shape : Shape) (rest : Fields)

/-- What follows each value of a tag; the title is for messages. -/
inductive Cases where
  | nil
  | cons (name title : String) (fields : Fields) (rest : Cases)

end

mutual

def Shape.Val : Shape → Type
  | .text => String
  | .flag => Bool
  | .word w => w.Carrier
  | .instant => Instant
  | .list item => List item.Val
  | .optional inner => Option inner.Val
  | .record _ fields => fields.Val
  | .choice names => Fin names.length
  | .tagged _ _ cases => cases.Val

def Fields.Val : Fields → Type
  | .nil => Unit
  | .cons _ _ shape rest => shape.Val × rest.Val

def Cases.Val : Cases → Type
  | .nil => Empty
  | .cons _ _ fields rest => fields.Val ⊕ rest.Val

end

/-! ## Absent fields -/

/-- The empty value of a shape that has one. -/
def Shape.empty? : (s : Shape) → Option s.Val
  | .list _ => some []
  | .optional _ => some none
  | _ => none

/-- What a field holds that an object does not name. -/
def Need.whenUnnamed (need : Need) (s : Shape) : Option s.Val :=
  if need = .required then none else s.empty?

/-- What a field holds that the list form of a record does not reach. -/
def Need.whenUnreached (need : Need) (s : Shape) : Option s.Val :=
  if need = .omissible then s.empty? else none

/-- What is known of the fields of a record while its members are read. -/
def Fields.Slots : Fields → Type
  | .nil => Unit
  | .cons _ _ shape rest => Option shape.Val × rest.Slots

def Fields.blank : (fs : Fields) → fs.Slots
  | .nil => ()
  | .cons _ _ _ rest => (none, rest.blank)

def Fields.count : Fields → Nat
  | .nil => 0
  | .cons _ _ _ rest => rest.count + 1

def Cases.names : Cases → List String
  | .nil => []
  | .cons name _ _ rest => name :: rest.names

/-- The place of a name among the names of a choice. -/
def indexOf? (name : String) : (names : List String) → Option (Fin names.length)
  | [] => none
  | n :: names => if n = name then some 0 else (indexOf? name names).map Fin.succ

end SchemaRegistry.Json
