import SchemaRegistry.Catalog.Lookup
/-!
# References in the catalog

A reference is resolved under the tenant of the node that serves the request: its subject is read as
a name and written out again, and the version must be stored, though it may be deleted. The other
way round, `referencedBy` finds the versions of other subjects that a version is used by.
-/

set_option autoImplicit false

namespace SchemaRegistry.Catalog

/-- The reference with its subject written out. -/
def resolveReference (c : Catalog) (tenant : String) (r : Reference) : Except Error Reference :=
  match r.check with
  | .error e => .error e
  | .ok () =>
    match Subject.resolve tenant r.subject with
    | .error flaw => .error (.invalidSchema s!"Invalid reference '{r.name}': {flaw.message}")
    | .ok subject =>
      if (c.get? subject r.version).isSome then .ok { r with subject := subject.rendered }
      else
        let key := versionText subject r.version
        .error (.invalidSchema s!"Reference '{r.name}' points at {key} which does not exist")

/-- All references, or why the first that is refused is refused. -/
def resolve (c : Catalog) (tenant : String) (references : List Reference) :
    Except Error (List Reference) :=
  references.mapM (c.resolveReference tenant)

/-- The candidate with its references resolved. -/
def resolveCandidate (c : Catalog) (tenant : String) (candidate : Candidate) :
    Except Error Candidate :=
  (c.resolve tenant candidate.references).map fun references => { candidate with references }

/-- Whether a version has a reference to the version of a subject. -/
def refersTo (subject : Subject) (number : UInt32) (v : Version) : Bool :=
  v.references.any fun r => r.subject == subject.rendered && r.version == number

/-- The versions of other subjects that use a version of a subject, in the order of listings. -/
def referencedBy (c : Catalog) (subject : Subject) (number : UInt32) : List Version :=
  (c.rows.map (·.version)).filter fun v => v.subject ≠ subject && refersTo subject number v

end SchemaRegistry.Catalog
