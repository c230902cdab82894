import SchemaRegistry.Text.Class
import SchemaRegistry.Text.Quoted
/-!
# Subject names

A subject belongs to a tenant and a context, and has a name local to both. Written out it is

    [tenant "_"] [":" context ":"] local-name

where the tenant is left out for the default tenant and the context for the default context `.`.
`Subject.resolve` reads such a name under the tenant that serves it and `Subject.rendered` writes
it. A name that starts with a colon would be taken for a context, so it is written with its context
even when that is the default one. Malformed contexts are refused and never repaired.
-/

set_option autoImplicit false

namespace SchemaRegistry

/-- The identity of a subject. -/
structure Subject where
  tenant : String
  context : String
  localName : String
  deriving DecidableEq, Inhabited

namespace Subject

def defaultTenant : String := "default"

def defaultContext : String := "."

/-- The context that stands for all contexts in a pattern, and for none in a name. -/
def wildcard : String := "*"

/-- Why a text names no subject. -/
inductive Flaw where
  | wildcardContext (raw : String)
  | emptyName (raw : String)
  | controlCharacter (localName : String)
  /-- The text is what follows the tenant. -/
  | unterminatedContext (text : String)
  | contextWithoutDot (raw : String)
  | contextCharacter (raw : String)
  deriving DecidableEq

def Flaw.message : Flaw → String
  | .wildcardContext raw => s!"The wildcard context is not a valid subject context: '{raw}'"
  | .emptyName raw => s!"Subject name must not be empty: '{raw}'"
  | .controlCharacter localName =>
    s!"Subject name contains control characters: '{Text.escape localName}'"
  | .unterminatedContext text => s!"Unterminated context in subject '{text}'"
  | .contextWithoutDot raw => s!"Context must start with '.' in subject '{raw}'"
  | .contextCharacter raw => s!"Context contains invalid characters in subject '{raw}'"

/-! ## The parts of a name -/

/-- The rest of a text behind a prefix, if it has the prefix. -/
def dropPrefix? : List Char → List Char → Option (List Char)
  | [], text => some text
  | _ :: _, [] => none
  | p :: start, c :: text => if p = c then dropPrefix? start text else none

/-- The name without the prefix of the tenant that serves it. The default tenant has none. -/
def dropTenant (tenant : String) (raw : List Char) : List Char :=
  if tenant = defaultTenant then raw
  else (dropPrefix? (tenant.toList ++ ['_']) raw).getD raw

/-- The context in front of a name, if one is written, and what follows it. -/
def splitContext (text : List Char) : Except Flaw (Option (List Char) × List Char) :=
  match text with
  | ':' :: rest =>
    match rest.dropWhile (· ≠ ':') with
    | [] => .error (.unterminatedContext (String.ofList text))
    | _ :: localName => .ok (some (rest.takeWhile (· ≠ ':')), localName)
  | _ => .ok (none, text)

/-- Whether the text may be a context, as far as its characters go. -/
def hasContextCharacters (context : List Char) : Bool :=
  context.all fun c => !(Text.isBlank c || Text.isControl c)

/-- The context that is written in the name `raw`. -/
def checkContext (raw : String) (context : List Char) : Except Flaw String :=
  if context.head? ≠ some '.' then .error (.contextWithoutDot raw)
  else if ¬ hasContextCharacters context then .error (.contextCharacter raw)
  else .ok (String.ofList context)

/-! ## Resolving and rendering -/

/-- The local name, which must not be empty or hold control characters. -/
def checkLocalName (raw : String) (localName : List Char) : Except Flaw String :=
  if localName.isEmpty then .error (.emptyName raw)
  else if localName.any Text.isControl then .error (.controlCharacter (String.ofList localName))
  else .ok (String.ofList localName)

/-- The context of a name. The wildcard is none. -/
def nameContext (raw : String) : Option (List Char) → Except Flaw String
  | none => .ok defaultContext
  | some context =>
    if context = wildcard.toList then .error (.wildcardContext raw) else checkContext raw context

/-- The subject that a name means under a tenant. -/
def resolve (tenant raw : String) : Except Flaw Subject := do
  let (context, localName) ← splitContext (dropTenant tenant raw.toList)
  let context ← nameContext raw context
  let localName ← checkLocalName raw localName
  pure { tenant, context, localName }

/-- The tenant's part of a name. -/
def tenantText (tenant : String) : String :=
  if tenant = defaultTenant then "" else tenant ++ "_"

/-- The context's part of a name. -/
def contextText (context localName : String) : String :=
  if context ≠ defaultContext ∨ localName.toList.head? = some ':' then ":" ++ context ++ ":" else ""

/-- The name of the subject. -/
def rendered (s : Subject) : String :=
  tenantText s.tenant ++ contextText s.context s.localName ++ s.localName

def isDefaultContext (s : Subject) : Bool :=
  s.context == defaultContext

/-! ## Order -/

/-- The order of listings: by tenant, context and local name, each character by character. -/
def lt (a b : Subject) : Prop :=
  a.tenant < b.tenant ∨ a.tenant = b.tenant ∧
    (a.context < b.context ∨ a.context = b.context ∧ a.localName < b.localName)

instance : LT Subject := ⟨lt⟩

instance (a b : Subject) : Decidable (a < b) :=
  inferInstanceAs (Decidable (_ ∨ _ ∧ (_ ∨ _ ∧ _)))

end Subject

end SchemaRegistry
