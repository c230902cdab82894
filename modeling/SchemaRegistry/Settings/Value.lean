import SchemaRegistry.Text.Lower
import SchemaRegistry.Toml.Tree
/-!
# Values of settings

A settings file comes down to a table of values. Its keys are places: `a.b` is `b` in the table `a`,
and `a[2]` is the third item of the list `a`, so a file can give a part of a table or list alone.
`Value.collect` puts every value at its place. Names are taken in lower case, and a table that is
put where there is one already is merged with it.
-/

set_option autoImplicit false

namespace SchemaRegistry.Settings

inductive Value where
  /-- An item that only makes room for one behind it. -/
  | absent
  | text (s : String)
  | integer (n : Int)
  | double (x : Toml.Double)
  | flag (b : Bool)
  | list (items : List Value)
  | table (members : List (String × Value))
  deriving Inhabited

/-! ## Values of a document -/

namespace Value

mutual

/-- The value as settings know it: a date is its text, and repeated tables are a list. -/
def ofToml : Toml → Value
  | .text s => .text s
  | .integer n => .integer n
  | .double x => .double x
  | .flag b => .flag b
  | .moment m => .text m.text
  | .list items => .list (ofItems items)
  | .table _ members => .table (ofMembers members)
  | .tables earlier last => .list (ofTables earlier ++ [.table (ofMembers last)])

def ofItems : List Toml → List Value
  | [] => []
  | v :: rest => ofToml v :: ofItems rest

def ofMembers : List (String × Toml) → List (String × Value)
  | [] => []
  | (name, v) :: rest => (name, ofToml v) :: ofMembers rest

def ofTables : List (List (String × Toml)) → List Value
  | [] => []
  | members :: rest => .table (ofMembers members) :: ofTables rest

end

/-! ## Tables and lists -/

/-- The members of a table. Anything else counts as an empty one. -/
def members : Value → List (String × Value)
  | .table members => members
  | _ => []

/-- The items of a list. Anything else counts as an empty one. -/
def items : Value → List Value
  | .list items => items
  | _ => []

/-- The members with one of them replaced, or added at the end. -/
def setMember (name : String) (v : Value) : List (String × Value) → List (String × Value)
  | [] => [(name, v)]
  | (n, old) :: rest => if n = name then (n, v) :: rest else (n, old) :: setMember name v rest

/-- The items with one of them replaced, and as many absent ones before it as it takes. -/
def setItem (index : Nat) (v : Value) (items : List Value) : List Value :=
  (items ++ List.replicate (index + 1 - items.length) Value.absent).set index v

mutual

/-- What becomes of a place that is given a value. Tables are merged, all else is replaced. -/
def replacing (old : Option Value) : Value → Value
  | .table members => merged (old.getD (.table [])) members
  | v => v

/-- A value with members added, their names in lower case. -/
def merged (target : Value) : List (String × Value) → Value
  | [] => target
  | (name, v) :: rest =>
    let name := Text.lower name
    let v := replacing (target.members.lookup name) v
    merged (.table (setMember name v target.members)) rest

end

end Value

/-! ## Places -/

/-- One step into a table or a list. A negative index counts from the end. -/
inductive Step where
  | name (s : String)
  | index (i : Int)
  deriving DecidableEq

namespace Step

def isNameCharacter (c : Char) : Bool :=
  c.isAlphanum || c == ' ' || c == '_' || c == '-'

/-- A name, and what follows it. -/
def readName (cs : List Char) : Option (Step × List Char) :=
  let found := cs.takeWhile isNameCharacter
  if found.isEmpty then none
  else some (.name (Text.lower (String.ofList found)), cs.dropWhile isNameCharacter)

/-- The integer that a sign and digits write, if it fits 64 bits. -/
def readIndex (cs : List Char) : Option (Step × List Char) :=
  let isSpace (c : Char) := c == ' ' || c == '\t'
  let cs := cs.dropWhile isSpace
  let (isNegative, cs) := match cs with
    | '-' :: rest => (true, rest)
    | cs => (false, cs)
  let ds := cs.takeWhile Char.isDigit
  if ds.isEmpty then none
  else
    match Toml.signed isNegative (Toml.digitsValue 10 ds) with
    | .error _ => none
    | .ok i => some (.index i, (cs.dropWhile Char.isDigit).dropWhile isSpace)

/-- The steps that a key goes on with, in at most as many as given. -/
def readMore : Nat → List Char → Option (List Step)
  | _, [] => some []
  | 0, _ => none
  | count + 1, '.' :: rest => do
    let (step, rest) ← readName rest
    (readMore count rest).map (step :: ·)
  | count + 1, '[' :: rest => do
    let (step, rest) ← readIndex rest
    match rest with
    | ']' :: rest => (readMore count rest).map (step :: ·)
    | _ => none
  | _, _ => none

/-- The steps of a key. A key that is none of the form is a single name. -/
def ofKey (key : String) : List Step :=
  let read : Option (List Step) := do
    let (step, rest) ← readName key.toList
    (readMore rest.length rest).map (step :: ·)
  read.getD [.name (Text.lower key)]

/-- The position in a list of so many items. -/
def position (i : Int) (count : Nat) : Nat :=
  if 0 ≤ i then i.toNat else count - i.natAbs

end Step

namespace Value

/-- The value with another one put some steps into it. What is no table or list where a step needs
one is dropped. -/
def put (v : Value) : List Step → Value → Value
  | [], old => replacing (some old) v
  | [.name name], old =>
    .table (setMember name (replacing (old.members.lookup name) v) old.members)
  | [.index i], old => .list (setItem (Step.position i old.items.length) v old.items)
  | .name name :: step :: steps, old =>
    let inner := put v (step :: steps) ((old.members.lookup name).getD .absent)
    .table (setMember name inner old.members)
  | .index i :: step :: steps, old =>
    let index := Step.position i old.items.length
    let inner := put v (step :: steps) (old.items.getD index .absent)
    .list (setItem index inner old.items)

/-- The table in which every value is at the place that its key tells. -/
def collect (pairs : List (String × Value)) : List (String × Value) :=
  (pairs.foldl (fun table (key, v) => put v (Step.ofKey key) table) (.table [])).members

end Value

end SchemaRegistry.Settings
