import SchemaRegistry.Subject.Name
/-!
# Names and subjects

A subject that a name means is `WellFormed`, and a well-formed subject is what its rendered name
means under its tenant. The two directions fit together because rendering writes whatever reading
could mistake: the tenant's prefix is written even where the local name has one of its own, and the
context wherever the local name would be taken for one. Both directions follow the parts of a name
from left to right, and each part says what it leaves to the next.
-/

set_option autoImplicit false

namespace SchemaRegistry.Subject

/-- What every subject is that a name means. -/
structure WellFormed (s : Subject) : Prop where
  dotted : s.context.toList.head? = some '.'
  undivided : ':' ∉ s.context.toList
  characters : hasContextCharacters s.context.toList = true
  named : s.localName.toList ≠ []
  printable : s.localName.toList.any Text.isControl = false

/-! ## From names to subjects -/

/-- A context is cut off at the next colon, so it has none in it. -/
theorem splitContext_eq_ok {text localName : List Char} {context : Option (List Char)}
    (h : splitContext text = .ok (context, localName)) :
    ∀ written, context = some written → ':' ∉ written := by
  unfold splitContext at h
  split at h
  · rename_i rest
    split at h
    · cases h
    · cases h
      rintro _ ⟨⟩ hmem
      have hcolon := List.all_eq_true.mp List.all_takeWhile _ hmem
      rw [decide_eq_true_eq] at hcolon
      exact hcolon rfl
  · cases h
    intro written hwritten
    cases hwritten

/-- A context that is accepted begins with a point and has the characters of contexts only. -/
theorem checkContext_eq_ok {raw context : String} {written : List Char}
    (h : checkContext raw written = .ok context) :
    context.toList = written ∧ written.head? = some '.' ∧ hasContextCharacters written = true := by
  rw [checkContext] at h
  split at h
  · cases h
  · rename_i hdot
    split at h
    · cases h
    · rename_i hchars
      cases h
      exact ⟨String.toList_ofList, Decidable.not_not.mp hdot, Decidable.not_not.mp hchars⟩

/-- A local name that is accepted is not empty and has no control character in it. Nothing else is
asked of it, so it may have colons. -/
theorem checkLocalName_eq_ok {raw localName : String} {written : List Char}
    (h : checkLocalName raw written = .ok localName) :
    localName.toList = written ∧ written ≠ [] ∧ written.any Text.isControl = false := by
  rw [checkLocalName] at h
  split at h
  · cases h
  · rename_i hempty
    split at h
    · cases h
    · rename_i hcontrol
      cases h
      refine ⟨String.toList_ofList, fun hnil => hempty ?_, Bool.eq_false_iff.mpr hcontrol⟩
      rw [hnil]
      rfl

/-- A name is resolved part by part. -/
theorem parts_of_resolve {tenant raw : String} {s : Subject} (h : resolve tenant raw = .ok s) :
    s.tenant = tenant ∧ ∃ written localWritten,
      splitContext (dropTenant tenant raw.toList) = .ok (written, localWritten) ∧
        nameContext raw written = .ok s.context ∧
          checkLocalName raw localWritten = .ok s.localName := by
  rw [resolve] at h
  cases hsplit : splitContext (dropTenant tenant raw.toList) with
  | error flaw =>
    rw [hsplit] at h
    cases h
  | ok parts =>
    obtain ⟨written, localWritten⟩ := parts
    rw [hsplit] at h
    cases hcontext : nameContext raw written with
    | error flaw =>
      simp only [bind, Except.bind, hcontext] at h
      cases h
    | ok context =>
      cases hlocal : checkLocalName raw localWritten with
      | error flaw =>
        simp only [bind, Except.bind, hcontext, hlocal] at h
        cases h
      | ok localName =>
        simp only [bind, Except.bind, hcontext, hlocal, pure, Except.pure] at h
        cases h
        exact ⟨rfl, written, localWritten, rfl, hcontext, hlocal⟩

/-- A name means a well-formed subject of the tenant that reads it. -/
theorem wellFormed_of_resolve {tenant raw : String} {s : Subject}
    (h : resolve tenant raw = .ok s) : s.tenant = tenant ∧ s.WellFormed := by
  obtain ⟨own, written, localWritten, hsplit, hcontext, hlocal⟩ := parts_of_resolve h
  refine ⟨own, ?_⟩
  obtain ⟨hname, hnil, hcontrol⟩ := checkLocalName_eq_ok hlocal
  rw [← hname] at hnil hcontrol
  cases written with
  | none =>
    have default : s.context.toList = ['.'] := by
      rw [← Except.ok.inj hcontext]
      rfl
    refine ⟨?_, ?_, ?_, hnil, hcontrol⟩ <;> rw [default] <;> decide
  | some written =>
    rw [nameContext] at hcontext
    split at hcontext
    · cases hcontext
    · obtain ⟨htext, hdot, hchars⟩ := checkContext_eq_ok hcontext
      have hcolon := splitContext_eq_ok hsplit written rfl
      rw [← htext] at hdot hchars hcolon
      exact ⟨hdot, hcolon, hchars, hnil, hcontrol⟩

/-! ## From subjects to names -/

theorem dropPrefix?_append (start rest : List Char) :
    dropPrefix? start (start ++ rest) = some rest := by
  induction start with
  | nil => rfl
  | cons p start ih => rw [List.cons_append, dropPrefix?, if_pos rfl, ih]

/-- The tenant's part is dropped again. -/
theorem dropTenant_tenantText (tenant : String) (rest : List Char) :
    dropTenant tenant ((tenantText tenant).toList ++ rest) = rest := by
  rw [dropTenant, tenantText]
  split
  · rfl
  · rw [String.toList_append, show "_".toList = ['_'] from rfl, dropPrefix?_append]
    rfl

/-- What was written between two colons is read as the context, whatever follows. -/
theorem splitContext_written {context : List Char} (h : ':' ∉ context) (rest : List Char) :
    splitContext (':' :: (context ++ ':' :: rest)) = .ok (some context, rest) := by
  have hcontext : ∀ c ∈ context, decide (c ≠ ':') = true := by
    intro c hc
    rw [decide_eq_true_eq]
    rintro rfl
    exact h hc
  rw [splitContext, List.dropWhile_append_of_pos hcontext, List.takeWhile_append_of_pos hcontext,
    List.dropWhile_cons_of_neg (by decide), List.takeWhile_cons_of_neg (by decide),
    List.append_nil]

/-- The context of a well-formed subject is read again, written or left out. -/
theorem exists_splitContext {s : Subject} (h : s.WellFormed) (raw : String) :
    ∃ written, splitContext ((contextText s.context s.localName).toList ++ s.localName.toList) =
        .ok (written, s.localName.toList) ∧ nameContext raw written = .ok s.context := by
  rw [contextText]
  split
  · refine ⟨some s.context.toList, ?_, ?_⟩
    · rw [String.toList_append, String.toList_append, show ":".toList = [':'] from rfl,
        List.append_assoc, List.append_assoc]
      exact splitContext_written h.undivided s.localName.toList
    · rw [nameContext, if_neg, checkContext, if_neg, if_neg, String.ofList_toList]
      · exact Decidable.not_not.mpr h.characters
      · exact Decidable.not_not.mpr h.dotted
      · intro hwild
        have hdot := h.dotted
        rw [hwild] at hdot
        exact absurd hdot (by decide)
  · -- Nothing is written for the default context. The local name has no colon in front, so it is
    -- not taken for a context.
    rename_i hplain
    rw [not_or, Decidable.not_not] at hplain
    refine ⟨none, ?_, congrArg _ hplain.1.symm⟩
    change splitContext s.localName.toList = _
    unfold splitContext
    split
    · rename_i rest htext
      rw [htext] at hplain
      exact absurd rfl hplain.2
    · rfl

theorem checkLocalName_self {s : Subject} (h : s.WellFormed) (raw : String) :
    checkLocalName raw s.localName.toList = .ok s.localName := by
  rw [checkLocalName, if_neg, if_neg, String.ofList_toList]
  · exact Bool.eq_false_iff.mp h.printable
  · rw [List.isEmpty_iff]
    exact h.named

/-- A well-formed subject is what its name means under its tenant. -/
theorem resolve_rendered {s : Subject} (h : s.WellFormed) :
    resolve s.tenant s.rendered = .ok s := by
  obtain ⟨written, hsplit, hcontext⟩ := exists_splitContext h s.rendered
  rw [resolve, rendered, String.toList_append, String.toList_append, List.append_assoc,
    dropTenant_tenantText, hsplit]
  simp only [bind, Except.bind]
  rw [← rendered, hcontext]
  dsimp only
  rw [checkLocalName_self h]
  rfl

end SchemaRegistry.Subject
