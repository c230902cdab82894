import SchemaRegistry.Schema.Format
/-!
# Headers carried along

A write that is forwarded carries some of the headers of the request that caused it: those that the
node's whitelist names. Header names are compared without regard to case and written in lower case.
Of several headers of one name the last counts.
-/

set_option autoImplicit false

namespace SchemaRegistry

/-- Headers by name, in the order of names, each name once. -/
abbrev Headers := List (String × String)

namespace Headers

/-- A header put in its place, where it takes that of one of the same name. -/
def insert (name value : String) : Headers → Headers
  | [] => [(name, value)]
  | (n, v) :: rest =>
    if name < n then (name, value) :: (n, v) :: rest
    else if name = n then (name, value) :: rest
    else (n, v) :: insert name value rest

/-- Headers with later ones in place of earlier ones. -/
def ofList (headers : List (String × String)) : Headers :=
  headers.foldl (fun kept (name, value) => kept.insert name value) []

/-- The name in lower case, as far as the letters A to Z go. -/
def lowerName (name : String) : String :=
  String.ofList (name.toList.map Char.toLower)

/-- Whether a whitelist has the name. -/
def isListed (whitelist : List String) (name : String) : Bool :=
  whitelist.any fun listed => Format.sameName listed name

/-- The headers that a whitelist lets through. -/
def filter (whitelist : List String) (headers : List (String × String)) : Headers :=
  ofList ((headers.filter fun (name, _) => isListed whitelist name).map
    fun (name, value) => (lowerName name, value))

end Headers

end SchemaRegistry
