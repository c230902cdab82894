import Mathlib.Tactic.SplitIfs
import SchemaRegistry.Json.Printer
import SchemaRegistry.Proofs.Json.Numeral
/-!
# Documents without control characters

The compact form of a document has no control character, whatever its texts hold: numerals are
digits and marks, and a text is quoted with every such character spelled out. In particular it has
no zero character.
-/

set_option autoImplicit false

namespace SchemaRegistry

/-- Whether none of the characters is below the blank. -/
def Uncontrolled (text : List Char) : Prop :=
  ∀ c ∈ text, 0x20 ≤ c.toNat

namespace Uncontrolled

@[simp] theorem nil : Uncontrolled [] :=
  fun _ h => absurd h List.not_mem_nil

@[simp] theorem cons_iff {c : Char} {text : List Char} :
    Uncontrolled (c :: text) ↔ 0x20 ≤ c.toNat ∧ Uncontrolled text :=
  List.forall_mem_cons

@[simp] theorem append_iff {text more : List Char} :
    Uncontrolled (text ++ more) ↔ Uncontrolled text ∧ Uncontrolled more :=
  List.forall_mem_append

/-- A text without control characters has no zero character, which is what separates the fields of a
fingerprint. -/
theorem zero_notMem {text : List Char} (h : Uncontrolled text) : '\x00' ∉ text := by
  intro hmem
  exact absurd (h _ hmem) (by decide)

end Uncontrolled

/-- A numeral has no control character. -/
theorem Numeric.uncontrolled {text : List Char} (h : Numeric text) : Uncontrolled text :=
  fun c hc => (h c hc).le_toNat

namespace Json

/-! ## Texts -/

theorem le_toNat_digitChar : ∀ n < 16, 0x20 ≤ (Nat.digitChar n).toNat := by
  decide

/-- Control characters are written as escapes, and no escape has one in it. -/
theorem uncontrolled_quotedChar (c : Char) : Uncontrolled (quotedChar c) := by
  unfold quotedChar
  split_ifs with hquote hslash hline hreturn htab hback hform hcontrol
  · simp
  · simp
  · simp
  · simp
  · simp
  · simp
  · simp
  · have high := le_toNat_digitChar (c.toNat / 16) (by omega)
    have low := le_toNat_digitChar (c.toNat % 16) (by omega)
    simp [controlEscape, high, low]
  · simp only [Uncontrolled.cons_iff, Uncontrolled.nil, and_true]
    omega

theorem uncontrolled_quotedChars (s : String) : Uncontrolled (quotedChars s) := by
  have content : Uncontrolled (s.toList.flatMap quotedChar) := by
    intro c hc
    obtain ⟨d, -, hc⟩ := List.mem_flatMap.mp hc
    exact uncontrolled_quotedChar d c hc
  unfold quotedChars
  simp [content]

end Json

/-! ## Documents -/

mutual

/-- The compact form of a document has no control character. -/
theorem Json.uncontrolled_chars : ∀ v : Json, Uncontrolled v.chars
  | .null => by simp [Json.chars]
  | .bool true => by simp [Json.chars]
  | .bool false => by simp [Json.chars]
  | .number n => by
    unfold Json.chars
    exact n.numeric_chars.uncontrolled
  | .text s => by
    unfold Json.chars
    exact Json.uncontrolled_quotedChars s
  | .array items => by simp [Json.chars, Json.uncontrolled_itemChars items]
  | .object members => by simp [Json.chars, Json.uncontrolled_memberChars members]

theorem Json.uncontrolled_itemChars : ∀ items : List Json, Uncontrolled (Json.itemChars items)
  | [] => by simp [Json.itemChars]
  | [item] => by simp [Json.itemChars, Json.uncontrolled_chars item]
  | item :: next :: items => by
    simp [Json.itemChars, Json.uncontrolled_chars item, Json.uncontrolled_itemChars (next :: items)]

theorem Json.uncontrolled_memberChars :
    ∀ members : List (String × Json), Uncontrolled (Json.memberChars members)
  | [] => by simp [Json.memberChars]
  | [(key, value)] => by
    simp [Json.memberChars, Json.uncontrolled_quotedChars key, Json.uncontrolled_chars value]
  | (key, value) :: next :: members => by
    simp [Json.memberChars, Json.uncontrolled_quotedChars key, Json.uncontrolled_chars value,
      Json.uncontrolled_memberChars (next :: members)]

end

end SchemaRegistry
