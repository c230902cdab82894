import SchemaRegistry.Json.Tree
/-!
# The sorted tree

Two documents mean the same if they differ only in the order of members, and of two members of one
name the last counts. `Json.sorted` is the tree that all documents of one meaning share: its members
are in the order of their names, each name once. `Json.without` removes members by name from every
object of a tree, at whatever depth.
-/

set_option autoImplicit false

namespace SchemaRegistry

namespace Json

/-- A member put in its place among sorted ones, unless there is one of its name already. -/
def insertMember (key : String) (value : Json) : List (String × Json) → List (String × Json)
  | [] => [(key, value)]
  | (k, v) :: rest =>
    if key < k then (key, value) :: (k, v) :: rest
    else if key = k then (k, v) :: rest
    else (k, v) :: insertMember key value rest

mutual

/-- The tree with all members sorted, and of equal names only the last. -/
def sorted : Json → Json
  | .array items => .array (sortedItems items)
  | .object members => .object (sortedMembers members)
  | v => v

def sortedItems : List Json → List Json
  | [] => []
  | v :: items => v.sorted :: sortedItems items

def sortedMembers : List (String × Json) → List (String × Json)
  | [] => []
  | (key, v) :: members => insertMember key v.sorted (sortedMembers members)

end

mutual

/-- The tree without the members of those names. -/
def without (names : List String) : Json → Json
  | .array items => .array (itemsWithout names items)
  | .object members => .object (membersWithout names members)
  | v => v

def itemsWithout (names : List String) : List Json → List Json
  | [] => []
  | v :: items => v.without names :: itemsWithout names items

def membersWithout (names : List String) : List (String × Json) → List (String × Json)
  | [] => []
  | (key, v) :: members =>
    if names.contains key then membersWithout names members
    else (key, v.without names) :: membersWithout names members

end

end Json

end SchemaRegistry
