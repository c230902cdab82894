import SchemaRegistry.Proofs.Json.Printer
import SchemaRegistry.Proofs.Text.Octets
import SchemaRegistry.Schema.Fingerprint
/-!
# What a fingerprint is taken of

A fingerprint is taken of an `Imprint`: a format, a canonical text and references. What is hashed
joins their parts by zero octets, and nothing says how long a part is. So an imprint can be read
back from the sequence exactly as far as its own texts have no zero character. The name of a format
has none, nor has a JSON document in compact form; the lines of a PROTOBUF schema and the names of
references may have one, and then two imprints can share a sequence.
-/

set_option autoImplicit false

namespace SchemaRegistry

/-! ## Hashes -/

namespace Sha256

theorem wordOctets_injective {x y : UInt32} (h : wordOctets x = wordOctets y) : x = y := by
  simp only [wordOctets, List.cons.injEq, and_true] at h
  obtain ⟨h₁, h₂, h₃, h₄⟩ := h
  have octet₁ := congrArg UInt8.toNat h₁
  have octet₂ := congrArg UInt8.toNat h₂
  have octet₃ := congrArg UInt8.toNat h₃
  have octet₄ := congrArg UInt8.toNat h₄
  have hx := x.toNat_lt
  have hy := y.toNat_lt
  simp [Nat.shiftRight_eq_div_pow] at octet₁ octet₂ octet₃ octet₄
  apply UInt32.toNat_inj.mp
  omega

theorem digitChar_injective : ∀ m < 16, ∀ n < 16, Nat.digitChar m = Nat.digitChar n → m = n := by
  decide

/-- Two digits say which octet it is, so digests are told by how they are written. -/
theorem hex_injective {xs ys : List UInt8} (h : hex xs = hex ys) : xs = ys := by
  induction xs generalizing ys with
  | nil =>
    cases ys with
    | nil => rfl
    | cons y ys => cases h
  | cons x xs ih =>
    cases ys with
    | nil => cases h
    | cons y ys =>
      simp only [hex, List.flatMap_cons, List.cons_append, List.nil_append, List.cons.injEq] at h
      obtain ⟨high, low, rest⟩ := h
      have hx := x.toNat_lt
      have hy := y.toNat_lt
      have high' := digitChar_injective _ (by omega) _ (by omega) high
      have low' := digitChar_injective _ (by omega) _ (by omega) low
      have same : x = y := UInt8.toNat_inj.mp (by omega)
      rw [same, ih rest]

end Sha256

/-! ## The sequence that is hashed -/

namespace Fingerprint

/-- Whether the zero character is in none of the reference's texts. -/
def Unmarked (r : Reference) : Prop :=
  '\x00' ∉ r.name.toList ∧ '\x00' ∉ r.subject.toList

/-- A reference can be read off the front of a sequence. -/
theorem referenceEncoding_append_inj {r s : Reference} {us vs : Octets} (hr : Unmarked r)
    (hs : Unmarked s) (h : referenceEncoding r ++ us = referenceEncoding s ++ vs) :
    r = s ∧ us = vs := by
  have parts : ∀ (q : Reference) (ws : Octets), referenceEncoding q ++ ws =
      0 :: (Text.octets q.name ++
        0 :: (Text.octets q.subject ++ 0 :: (Sha256.wordOctets q.version ++ ws))) := by
    intro q ws
    simp [referenceEncoding]
  have separator : ∀ {ws : Octets}, ∀ b ∈ (0 :: ws).head?, b = 0 :=
    fun _ => Text.eq_of_mem_head?_cons
  rw [parts, parts] at h
  obtain ⟨names, h⟩ := Text.append_inj_of_notMem (Text.zero_notMem_octets hr.1)
    (Text.zero_notMem_octets hs.1) separator separator (List.tail_eq_of_cons_eq h)
  obtain ⟨subjects, h⟩ := Text.append_inj_of_notMem (Text.zero_notMem_octets hr.2)
    (Text.zero_notMem_octets hs.2) separator separator (List.tail_eq_of_cons_eq h)
  obtain ⟨versions, rest⟩ := List.append_inj (List.tail_eq_of_cons_eq h) rfl
  refine ⟨?_, rest⟩
  obtain ⟨name, subject, version⟩ := r
  rw [Reference.mk.injEq]
  exact ⟨Text.octets_injective names, Text.octets_injective subjects,
    Sha256.wordOctets_injective versions⟩

/-- References without zeros in their texts can be told from the octets of the list, one after the
other: each field ends at its zero. -/
theorem references_inj {as bs : List Reference} (ha : ∀ r ∈ as, Unmarked r)
    (hb : ∀ r ∈ bs, Unmarked r) (h : as.flatMap referenceEncoding = bs.flatMap referenceEncoding) :
    as = bs := by
  induction as generalizing bs with
  | nil =>
    cases bs with
    | nil => rfl
    | cons b bs => cases h
  | cons a as ih =>
    cases bs with
    | nil => cases h
    | cons b bs =>
      obtain ⟨ha₁, ha⟩ := List.forall_mem_cons.mp ha
      obtain ⟨hb₁, hb⟩ := List.forall_mem_cons.mp hb
      rw [List.flatMap_cons, List.flatMap_cons] at h
      obtain ⟨same, rest⟩ := referenceEncoding_append_inj ha₁ hb₁ h
      rw [same, ih ha hb rest]

/-- What follows a text in what is hashed begins with a zero, or nothing follows. -/
theorem head?_references (references : List Reference) :
    ∀ b ∈ (references.flatMap referenceEncoding).head?, b = 0 := by
  intro b hb
  cases references with
  | nil => cases hb
  | cons r rest =>
    cases hb
    rfl

theorem zero_notMem_formatName (format : Format) : '\x00' ∉ format.name.toList := by
  cases format <;> decide

theorem formatName_injective {a b : Format} (h : a.name = b.name) : a = b := by
  revert h
  cases a <;> cases b <;> decide

end Fingerprint

/-! ## Imprints -/

/-- What a fingerprint is taken of. -/
structure Imprint where
  format : Format
  canonical : String
  references : List Reference
  deriving DecidableEq

namespace Imprint

/-- The sequence that is hashed. -/
def encoding (i : Imprint) : Octets :=
  Fingerprint.encoding i.format i.canonical i.references

def fingerprint (i : Imprint) : Fingerprint :=
  Fingerprint.compute i.format i.canonical i.references

/-- Whether the zero character is in none of the imprint's texts. -/
structure Unmarked (i : Imprint) : Prop where
  canonical : '\x00' ∉ i.canonical.toList
  references : ∀ r ∈ i.references, Fingerprint.Unmarked r

/-- Such imprints can be read back from what is hashed. -/
theorem encoding_injective {a b : Imprint} (ha : a.Unmarked) (hb : b.Unmarked)
    (h : a.encoding = b.encoding) : a = b := by
  obtain ⟨format, canonical, references⟩ := a
  obtain ⟨format', canonical', references'⟩ := b
  unfold encoding Fingerprint.encoding at h
  rw [List.append_assoc, List.append_assoc] at h
  have separator : ∀ {ws : Octets}, ∀ b ∈ (0 :: ws).head?, b = 0 :=
    fun _ => Text.eq_of_mem_head?_cons
  obtain ⟨formats, h⟩ := Text.append_inj_of_notMem
    (Text.zero_notMem_octets (Fingerprint.zero_notMem_formatName _))
    (Text.zero_notMem_octets (Fingerprint.zero_notMem_formatName _)) separator separator h
  obtain ⟨texts, h⟩ := Text.append_inj_of_notMem (Text.zero_notMem_octets ha.canonical)
    (Text.zero_notMem_octets hb.canonical) (Fingerprint.head?_references _)
    (Fingerprint.head?_references _) (List.tail_eq_of_cons_eq h)
  rw [Imprint.mk.injEq]
  exact ⟨Fingerprint.formatName_injective (Text.octets_injective formats),
    Text.octets_injective texts, Fingerprint.references_inj ha.references hb.references h⟩

/-- Fingerprints are equal exactly if the hashes are. -/
theorem fingerprint_eq_iff {a b : Imprint} :
    a.fingerprint = b.fingerprint ↔ Sha256.hash a.encoding = Sha256.hash b.encoding := by
  unfold fingerprint Fingerprint.compute encoding
  rw [Fingerprint.mk.injEq, String.ofList_inj]
  exact ⟨Sha256.hex_injective, congrArg Sha256.hex⟩

end Imprint

end SchemaRegistry
