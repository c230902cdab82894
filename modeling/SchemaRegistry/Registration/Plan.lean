import SchemaRegistry.Catalog.References
/-!
# Registrations

Registering a schema that is live under its subject already changes nothing and gives what the
schema has. Any other schema becomes the next version of its subject: its number is one above the
highest that the subject ever gave out, and its id is that of an equal schema anywhere in the
catalog, or one above the highest id that was ever given out. Numbers and ids are words, and a
subject or registry that has used them up can register nothing new.
-/

set_option autoImplicit false

namespace SchemaRegistry

/-- What a registration would do. -/
inductive RegistrationPlan where
  | existing (registered : Registered)
  | append (op : Op) (registered : Registered)
  deriving DecidableEq

/-- What the caller is given. -/
def RegistrationPlan.registered : RegistrationPlan → Registered
  | existing registered => registered
  | append _ registered => registered

namespace Registration

/-- Why there is no next number or id. One more than the highest overflows its word. Where sums are
checked this is a panic in the middle of planning, which ends the task of the write, and the leader
reports that its task failed. What stands behind the colon stands for its account of the panic. -/
def exhausted : Error :=
  .internal "Write task failed: all numbers are used up"

def nextNumber (highest : UInt32) : Except Error UInt32 :=
  if highest.toNat + 1 < 4294967296 then .ok (highest + 1) else .error exhausted

def nextId (highest : Int64) : Except Error Int64 :=
  if highest.toInt + 1 < 9223372036854775808 then .ok (highest + 1) else .error exhausted

/-- The id for a schema: that of an equal one, or a new one. -/
def idFor (c : Catalog) (candidate : Candidate) : Except Error Int64 :=
  match candidate.fingerprint .raw with
  | .error e => .error e
  | .ok wanted =>
    match c.findId wanted with
    | .error e => .error e
    | .ok (some id) => .ok id
    | .ok none => nextId c.maxId

/-- The version that a candidate with resolved references becomes. -/
def newVersion (c : Catalog) (subject : Subject) (candidate : Candidate) : Except Error Version :=
  match idFor c candidate with
  | .error e => .error e
  | .ok id =>
    (nextNumber (c.highestVersion subject)).map fun number =>
      { subject, number, id, format := candidate.format, references := candidate.references
        text := candidate.text, isDeleted := false }

/-- What registering a candidate under a subject would do to a catalog, for a node that serves the
tenant. -/
def plan (c : Catalog) (tenant : String) (subject : Subject) (candidate : Candidate)
    (fidelity : Fidelity) : Except Error RegistrationPlan :=
  match c.resolveCandidate tenant candidate with
  | .error e => .error e
  | .ok candidate =>
    -- Only live versions count as registered: what was deleted is registered anew.
    match c.find subject candidate fidelity false with
    | .error e => .error e
    | .ok (.found v) => .ok (.existing { id := v.id, number := v.number })
    | .ok _ =>
      (newVersion c subject candidate).map fun v =>
        .append (.register v) { id := v.id, number := v.number }

end Registration

end SchemaRegistry
