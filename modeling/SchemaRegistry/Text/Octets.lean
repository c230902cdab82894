/-!
# Text as octets

Text that crosses a boundary (a request, a row, a document) is a list of octets in UTF-8, and the
columns of a message count octets. `octets` and `ofOctets?` are the two directions; a document may
hold octets that are no text, and then `ofOctets?` has no answer.
-/

set_option autoImplicit false

namespace SchemaRegistry

/-- A piece of a document. -/
abbrev Octets := List UInt8

namespace Text

/-- The UTF-8 form of a text. -/
def octets (s : String) : Octets :=
  s.toByteArray.data.toList

/-- The text whose UTF-8 form is given, if there is one. -/
def ofOctets? (bs : Octets) : Option String :=
  String.fromUTF8? ⟨bs.toArray⟩

/-- Whether the octets are the UTF-8 form of a text. -/
def isText (bs : Octets) : Bool :=
  (ofOctets? bs).isSome

theorem ofOctets?_octets (s : String) : ofOctets? (octets s) = some s := by
  unfold ofOctets? octets String.fromUTF8?
  rw [dif_pos (by simpa using s.isValidUTF8)]
  rfl

/-- How many octets at the start are text: the length of the longest prefix that is. -/
def validPrefixLength (bs : Octets) : Nat :=
  ((List.range (bs.length + 1)).reverse.find? fun n => isText (bs.take n)).getD 0

end Text

end SchemaRegistry
