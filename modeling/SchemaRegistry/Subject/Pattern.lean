import SchemaRegistry.Subject.Name
/-!
# Patterns of subjects

A listing is asked for by a pattern, which is written like a name: the tenant's prefix, a context,
and the start of a local name. The context may be the wildcard, which stands for every context; a
pattern without a context is about the default context only. A pattern may end where a name would
start, and what starts a local name may be anything.
-/

set_option autoImplicit false

namespace SchemaRegistry.Subject

/-- The contexts that a pattern is about. -/
inductive ContextPattern where
  | any
  | exact (context : String)
  deriving DecidableEq

/-- Whether a context is among those of a pattern. -/
def ContextPattern.covers : ContextPattern → String → Bool
  | .any, _ => true
  | .exact context, other => other == context

/-- Which subjects a listing is about. -/
structure Pattern where
  tenant : String
  context : ContextPattern
  localPrefix : String
  deriving DecidableEq

namespace Pattern

/-- The pattern of every context of the serving tenant. -/
def everyContext : String := ":*:"

/-- The context of a pattern. -/
def context? (raw : String) : Option (List Char) → Except Flaw ContextPattern
  | none => .ok (.exact defaultContext)
  | some context =>
    if context = wildcard.toList then .ok .any
    else (checkContext raw context).map .exact

/-- The pattern that a text means under a tenant. -/
def parse (tenant raw : String) : Except Flaw Pattern := do
  let (context, localPrefix) ← splitContext (dropTenant tenant raw.toList)
  let context ← context? raw context
  pure { tenant, context, localPrefix := String.ofList localPrefix }

/-- The pattern of all subjects of a tenant. -/
def all (tenant : String) : Pattern :=
  { tenant, context := .any, localPrefix := "" }

/-- Whether a subject is among those of a pattern. -/
def covers (p : Pattern) (s : Subject) : Bool :=
  s.tenant == p.tenant && p.context.covers s.context
    && (dropPrefix? p.localPrefix.toList s.localName.toList).isSome

end Pattern

end SchemaRegistry.Subject
