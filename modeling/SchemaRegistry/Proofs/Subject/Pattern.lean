import SchemaRegistry.Proofs.Subject.Rendered
import SchemaRegistry.Subject.Pattern
/-!
# What patterns are about

A pattern is written like a name, and the two are read by different functions. What they share is
said here without either: what stands behind the prefix of the tenant (`Behind`), and how that is
made of a context and what follows it (`Spelled`). A pattern is about the subjects of the tenant
that are in the contexts it means and whose local name it begins (`Pattern.covers_iff`); and read as
a pattern, a name is about the context of its subject and what its local name begins
(`Pattern.parse_of_resolve`).
-/

set_option autoImplicit false

namespace SchemaRegistry.Subject

/-! ## How names and patterns are written -/

/-- What a text says behind the prefix of the tenant that reads it. A text without the prefix says
all that it is, and so does every text to the default tenant. -/
def Behind (tenant : String) (text rest : List Char) : Prop :=
  (tenant ≠ defaultTenant ∧ text = tenant.toList ++ '_' :: rest) ∨
    (text = rest ∧ (tenant = defaultTenant ∨ ¬ tenant.toList ++ ['_'] <+: text))

/-- How a text is made of a context, if there is one, and what follows it. -/
inductive Spelled : List Char → Option (List Char) → List Char → Prop
  | bare {rest : List Char} : rest.head? ≠ some ':' → Spelled rest none rest
  | within {context rest : List Char} :
    ':' ∉ context → Spelled (':' :: (context ++ ':' :: rest)) (some context) rest

theorem dropPrefix?_eq_some_iff {start text rest : List Char} :
    dropPrefix? start text = some rest ↔ text = start ++ rest := by
  induction start generalizing text with
  | nil => exact Option.some_inj
  | cons p start ih =>
    cases text with
    | nil => simp [dropPrefix?]
    | cons c text =>
      rw [dropPrefix?, List.cons_append, List.cons.injEq]
      split
      · rename_i same
        rw [ih, and_iff_right same.symm]
      · rename_i differs
        simp [Ne.symm differs]

theorem isSome_dropPrefix?_iff {start text : List Char} :
    (dropPrefix? start text).isSome = true ↔ start <+: text := by
  rw [Option.isSome_iff_exists]
  simp only [dropPrefix?_eq_some_iff]
  exact ⟨fun ⟨rest, h⟩ => ⟨rest, h.symm⟩, fun ⟨rest, h⟩ => ⟨rest, h.symm⟩⟩

/-- What a pattern is about is what stands behind the name of the tenant, if that stands in front at
all. -/
theorem behind_dropTenant (tenant : String) (text : List Char) :
    Behind tenant text (dropTenant tenant text) := by
  rw [dropTenant]
  split
  · rename_i default
    exact Or.inr ⟨rfl, Or.inl default⟩
  · rename_i other
    cases hdrop : dropPrefix? (tenant.toList ++ ['_']) text with
    | none =>
      refine Or.inr ⟨rfl, Or.inr fun hprefix => ?_⟩
      rw [← isSome_dropPrefix?_iff, hdrop] at hprefix
      cases hprefix
    | some rest =>
      rw [dropPrefix?_eq_some_iff, List.append_assoc] at hdrop
      exact Or.inl ⟨other, hdrop⟩

/-- The context that is read and the one that is spelled are the same, in both directions. -/
theorem splitContext_eq_ok_iff {text rest : List Char} {context : Option (List Char)} :
    splitContext text = .ok (context, rest) ↔ Spelled text context rest := by
  constructor
  · intro h
    have undivided := splitContext_eq_ok h
    unfold splitContext at h
    split at h
    · rename_i text
      split at h
      · cases h
      · rename_i c behind hbehind
        cases h
        -- What the context ends at is the first colon.
        have colon : c = ':' := by
          have stops := List.head?_dropWhile_not (· ≠ ':') text
          rw [hbehind] at stops
          simpa using stops
        have whole := List.takeWhile_append_dropWhile (p := (· ≠ ':')) (l := text)
        rw [hbehind, colon] at whole
        have written := @Spelled.within _ rest (undivided _ rfl)
        rwa [whole] at written
    · rename_i bare
      cases h
      refine .bare fun first => ?_
      obtain ⟨more, rfl⟩ := List.head?_eq_some_iff.mp first
      exact bare more rfl
  · intro h
    cases h with
    | bare first =>
      unfold splitContext
      split
      · exact absurd rfl first
      · rfl
    | within undivided => exact splitContext_written undivided rest

/-! ## Patterns -/

namespace Pattern

/-- Whether a context is among those that a pattern means by the one that it is written with. -/
def Means (context : String) : Option (List Char) → Prop
  | none => context = defaultContext
  | some written => written = wildcard.toList ∨ context.toList = written

/-- A pattern is read part by part. -/
theorem parse_eq_ok_iff {tenant raw : String} {p : Pattern} :
    parse tenant raw = .ok p ↔
      p.tenant = tenant ∧ ∃ written,
        splitContext (dropTenant tenant raw.toList) = .ok (written, p.localPrefix.toList) ∧
          context? raw written = .ok p.context := by
  unfold parse
  rcases splitContext (dropTenant tenant raw.toList) with flaw | ⟨written, localPrefix⟩
  · simp [bind, Except.bind]
  · rcases hcontext : context? raw written with flaw | context
    · simp only [bind, Except.bind, hcontext]
      refine ⟨nofun, ?_⟩
      rintro ⟨-, written', same, h⟩
      obtain ⟨rfl, -⟩ := Prod.mk.inj (Except.ok.inj same)
      rw [hcontext] at h
      cases h
    · simp only [bind, Except.bind, hcontext, pure, Except.pure, Except.ok.injEq, Prod.mk.injEq]
      constructor
      · rintro rfl
        exact ⟨rfl, written, ⟨rfl, String.toList_ofList.symm⟩, hcontext⟩
      · rintro ⟨rfl, written', ⟨rfl, hlocal⟩, h⟩
        rw [hcontext] at h
        rw [Except.ok.inj h, hlocal, String.ofList_toList]

/-- The context of a name is that of the pattern that is written like it. -/
theorem context?_of_nameContext {raw context : String} {written : Option (List Char)}
    (h : nameContext raw written = .ok context) : context? raw written = .ok (.exact context) := by
  cases written with
  | none =>
    cases h
    rfl
  | some written =>
    rw [nameContext] at h
    rw [context?]
    split at h
    · cases h
    · rename_i other
      rw [if_neg other, h]
      rfl

/-- A name is a pattern of its context and of what its local name begins. -/
theorem parse_of_resolve {tenant raw : String} {s : Subject} (h : resolve tenant raw = .ok s) :
    parse tenant raw =
      .ok { tenant, context := .exact s.context, localPrefix := s.localName } := by
  obtain ⟨-, written, localWritten, hsplit, hcontext, hlocal⟩ := parts_of_resolve h
  rw [← (checkLocalName_eq_ok hlocal).1] at hsplit
  exact parse_eq_ok_iff.mpr ⟨rfl, written, hsplit, context?_of_nameContext hcontext⟩

/-- Which contexts a pattern covers is told by what is written between the colons. -/
theorem covers_context?_iff {raw context : String} {written : Option (List Char)}
    {pattern : ContextPattern} (h : context? raw written = .ok pattern) :
    pattern.covers context = true ↔ Means context written := by
  cases written with
  | none =>
    cases h
    exact beq_iff_eq
  | some written =>
    rw [context?] at h
    rw [Means]
    split at h
    · -- The wildcard covers every context; any other text covers the one that it names.
      rename_i wild
      cases h
      exact ⟨fun _ => Or.inl wild, fun _ => rfl⟩
    · rename_i named
      rw [or_iff_right named]
      cases hcheck : checkContext raw written with
      | error flaw =>
        rw [hcheck] at h
        cases h
      | ok checked =>
        rw [hcheck] at h
        cases h
        rw [ContextPattern.covers, beq_iff_eq, ← (checkContext_eq_ok hcheck).1, String.toList_inj]

/-- What a pattern is about, by how it is written. -/
theorem covers_iff {tenant raw : String} {p : Pattern} (h : parse tenant raw = .ok p) :
    ∃ rest written localPart, Behind tenant raw.toList rest ∧ Spelled rest written localPart ∧
      ∀ s : Subject, p.covers s = true ↔
        s.tenant = tenant ∧ Means s.context written ∧ localPart <+: s.localName.toList := by
  obtain ⟨own, written, hsplit, hcontext⟩ := parse_eq_ok_iff.mp h
  refine ⟨_, written, p.localPrefix.toList, behind_dropTenant tenant raw.toList,
    splitContext_eq_ok_iff.mp hsplit, fun s => ?_⟩
  rw [covers, Bool.and_eq_true, Bool.and_eq_true, beq_iff_eq, own, and_assoc,
    covers_context?_iff hcontext, isSome_dropPrefix?_iff]

theorem covers_all_iff {tenant : String} {s : Subject} :
    (all tenant).covers s = true ↔ s.tenant = tenant := by
  rw [covers, Bool.and_eq_true, Bool.and_eq_true, beq_iff_eq, all]
  exact ⟨fun h => h.1.1, fun own => ⟨⟨own, rfl⟩, rfl⟩⟩

end Pattern

end SchemaRegistry.Subject
