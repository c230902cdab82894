import SchemaRegistry.Hash.Sha256
import SchemaRegistry.Schema.Canonical
import SchemaRegistry.Schema.Version
import SchemaRegistry.Text.Octets
/-!
# Fingerprints

Schemas are compared by fingerprint: a hash of the format, the canonical text and the references.
`Fingerprint.encoding` is the sequence of octets that is hashed. Its parts are separated by zero
octets, and each reference is closed by its version in four octets.
-/

set_option autoImplicit false

namespace SchemaRegistry

/-- A hash in hexadecimal digits. -/
structure Fingerprint where
  digits : String
  deriving DecidableEq

namespace Fingerprint

/-- What one reference adds to the sequence that is hashed. -/
def referenceEncoding (r : Reference) : Octets :=
  0 :: Text.octets r.name ++ 0 :: Text.octets r.subject ++ 0 :: Sha256.wordOctets r.version

/-- The sequence that is hashed. -/
def encoding (format : Format) (canonical : String) (references : List Reference) : Octets :=
  Text.octets format.name ++ 0 :: Text.octets canonical ++ references.flatMap referenceEncoding

/-- The fingerprint of a canonical text. -/
def compute (format : Format) (canonical : String) (references : List Reference) : Fingerprint :=
  ⟨String.ofList (Sha256.hex (Sha256.hash (encoding format canonical references)))⟩

end Fingerprint

/-- The fingerprint of a schema text, or why the text is no schema. -/
def fingerprint (format : Format) (text : String) (references : List Reference)
    (fidelity : Fidelity) : Except Error Fingerprint :=
  (canonicalize format text fidelity).map fun canonical =>
    Fingerprint.compute format canonical references

def Candidate.fingerprint (c : Candidate) (fidelity : Fidelity) : Except Error Fingerprint :=
  SchemaRegistry.fingerprint c.format c.text c.references fidelity

def Version.fingerprint (v : Version) (fidelity : Fidelity) : Except Error Fingerprint :=
  SchemaRegistry.fingerprint v.format v.text v.references fidelity

end SchemaRegistry
