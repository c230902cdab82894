import SchemaRegistry.Json.Quotation
/-!
# Writing documents

The compact form of a tree: no blanks, members in the order of the tree, each number in its shortest
form. `Json.chars` is the form as a list of characters and `Json.compact` the same as text.
-/

set_option autoImplicit false

namespace SchemaRegistry

open Json

mutual

/-- The compact form of a value. -/
def Json.chars : Json → List Char
  | .null => ['n', 'u', 'l', 'l']
  | .bool true => ['t', 'r', 'u', 'e']
  | .bool false => ['f', 'a', 'l', 's', 'e']
  | .number n => n.chars
  | .text s => quotedChars s
  | .array items => '[' :: Json.itemChars items
  | .object members => '\x7b' :: Json.memberChars members

/-- The items of a list and its closing bracket. -/
def Json.itemChars : List Json → List Char
  | [] => [']']
  | [item] => item.chars ++ [']']
  | item :: items => item.chars ++ ',' :: Json.itemChars items

/-- The members of an object and its closing bracket. -/
def Json.memberChars : List (String × Json) → List Char
  | [] => ['\x7d']
  | [(key, value)] => quotedChars key ++ ':' :: value.chars ++ ['\x7d']
  | (key, value) :: members =>
    quotedChars key ++ ':' :: value.chars ++ ',' :: Json.memberChars members

end

/-- The compact form of a value as text. -/
def Json.compact (v : Json) : String :=
  String.ofList v.chars

end SchemaRegistry
