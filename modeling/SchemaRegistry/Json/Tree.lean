import SchemaRegistry.Decimal.Binary64
/-!
# JSON documents

The tree of a JSON document. An object keeps its members in the order in which they were written,
and keeps both of two members of one name: which of them counts is decided where the tree is used.
A numeral without fraction and exponent whose value fits 64 bits is an integer, and every other
numeral is a double, so `1` and `1.0` are different numbers.
-/

set_option autoImplicit false

namespace SchemaRegistry

namespace Json

inductive Number where
  | integer (n : Int)
  | double (x : Decimal.Binary64)
  deriving DecidableEq

end Json

inductive Json where
  | null
  | bool (b : Bool)
  | number (n : Json.Number)
  | text (s : String)
  | array (items : List Json)
  | object (members : List (String × Json))
  deriving Inhabited

end SchemaRegistry
