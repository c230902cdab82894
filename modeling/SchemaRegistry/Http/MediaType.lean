import SchemaRegistry.Http.Header
/-!
# Media types

A media type is a type and a subtype, with parameters behind semicolons. A subtype can say after a
plus sign which general syntax it is a case of. The registry takes bodies of type `application`
whose subtype is `json`, or is a case of it, whatever the parameters are, as long as they have the
form of parameters: a name and a value, which is a token or is quoted.
-/

set_option autoImplicit false

namespace SchemaRegistry

/-- The characters of tokens, which names in headers consist of. -/
def isTokenCharacter (c : Char) : Bool :=
  c.isAlphanum ||
    ['!', '#', '$', '%', '&', '\'', '*', '+', '-', '.', '^', '_', '\x60', '|', '~'].contains c

namespace MediaType

/-- The value of a parameter up to a semicolon, from behind its equals sign. -/
def tokenValue? : List Char → Option (List Char)
  | [] => some []
  | cs =>
    match cs.dropWhile isTokenCharacter with
    | [] => some []
    | ';' :: rest => if cs.head? = some ';' then none else some rest
    | _ => none

/-- The rest behind a quoted value, from behind its first character: the content up to the closing
mark, spaces, and a semicolon unless all ends. -/
def quotedRest? (cs : List Char) : Option (List Char) :=
  if (cs.takeWhile (· ≠ '"')).all fun c => 31 < c.toNat && c.toNat ≠ 127 then
    match cs.dropWhile (· ≠ '"') with
    | [] => none
    | _ :: rest =>
      match rest.dropWhile (· = ' ') with
      | [] => some []
      | ';' :: rest => some rest
      | _ => none
  else none

/-- The value of a parameter. The first character of a quoted value may be a mark itself. -/
def value? : List Char → Option (List Char)
  | '"' :: c :: rest => if 31 < c.toNat && c.toNat ≠ 127 then quotedRest? rest else none
  | '"' :: [] => none
  | cs => tokenValue? cs

/-- Whether the text is a sequence of parameters, in at most as many steps as given. -/
def areParameters : Nat → List Char → Bool
  | 0, _ => false
  | steps + 1, cs =>
    match cs.dropWhile (· = ' ') with
    | [] => true
    | cs =>
      let name := cs.takeWhile fun c => isTokenCharacter c
      match name, cs.dropWhile fun c => isTokenCharacter c with
      | _ :: _, '=' :: rest =>
        match value? rest with
        | some rest => areParameters steps rest
        | none => false
      | _, _ => false

/-- The part of a subtype in front of the last plus sign, and the part behind it if there is one. A
plus sign in front of everything else is not one. -/
def splitSuffix (subtype : List Char) : List Char × Option (List Char) :=
  let suffix := (subtype.reverse.takeWhile (· ≠ '+')).reverse
  if suffix.length + 1 < subtype.length then
    (subtype.take (subtype.length - suffix.length - 1), some suffix)
  else (subtype, none)

/-- Whether the text names a type of JSON documents. -/
def isJson (s : String) : Bool :=
  let cs := s.toList.map Char.toLower
  let type := cs.takeWhile isTokenCharacter
  match cs.dropWhile isTokenCharacter with
  | '/' :: rest =>
    let subtype := rest.takeWhile isTokenCharacter
    let rest := rest.dropWhile isTokenCharacter
    let hasForm := match rest with
      | [] => true
      | ';' :: parameters =>
        !subtype.isEmpty && areParameters (parameters.length + 1) parameters
      | _ => false
    let (main, suffix) := splitSuffix subtype
    let json := ['j', 's', 'o', 'n']
    hasForm && type == "application".toList && (main == json || suffix == some json)
  | _ => false

end MediaType

end SchemaRegistry
