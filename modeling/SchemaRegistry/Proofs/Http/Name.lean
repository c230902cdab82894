import SchemaRegistry.Proofs.Http.Url
import SchemaRegistry.Proofs.Subject.Rendered
/-!
# Names of subjects as steps

A name loses its tabs and line ends as a step of an address. Only the tenant in front of a name can
have any, since contexts and local names hold no control characters. A name that has lost some does
not begin with the tenant any more, so that what is left of the tenant is taken for part of what
follows, and the name does not mean the subject again.
-/

set_option autoImplicit false

namespace SchemaRegistry.Subject

open Url (dropBreaks)

/-! ## Names without the tenant in front -/

theorem eq_append_of_dropPrefix? {start text rest : List Char}
    (h : dropPrefix? start text = some rest) : text = start ++ rest := by
  induction start generalizing text with
  | nil => exact Option.some.inj h
  | cons p start ih =>
    rcases text with _ | ⟨c, text⟩
    · cases h
    · rw [dropPrefix?] at h
      split at h
      · rename_i same
        rw [ih h, same, List.cons_append]
      · cases h

/-- A text that is split into a context and a local name ends in the local name. -/
theorem eq_of_splitContext {text localName : List Char} {context : Option (List Char)}
    (h : splitContext text = .ok (context, localName)) :
    text = localName ∨ ∃ written, ':' ∉ written ∧ text = ':' :: written ++ ':' :: localName := by
  have undivided := splitContext_eq_ok h
  unfold splitContext at h
  split at h
  · rename_i rest
    split at h
    · cases h
    · rename_i colon behind hdrop
      cases h
      refine Or.inr ⟨rest.takeWhile (· ≠ ':'), undivided _ rfl, ?_⟩
      have head : colon = ':' := by
        have stop := List.head?_dropWhile_not (· ≠ ':') rest
        rw [hdrop] at stop
        simpa using stop
      have parts := List.takeWhile_append_dropWhile (p := (· ≠ ':')) (l := rest)
      rw [hdrop, head] at parts
      rw [List.cons_append, parts]
  · cases h
    exact Or.inl rfl

/-- What a name ends in that is not read as one of the tenant's. -/
theorem eq_of_resolve_of_dropTenant {tenant raw : String} {s : Subject}
    (h : resolve tenant raw = .ok s) (foreign : dropTenant tenant raw.toList = raw.toList) :
    raw.toList = s.localName.toList ∨
      ∃ written, ':' ∉ written ∧ raw.toList = ':' :: written ++ ':' :: s.localName.toList := by
  rw [resolve, foreign] at h
  rcases hsplit : splitContext raw.toList with flaw | ⟨written, localWritten⟩
  · rw [hsplit] at h
    cases h
  · rw [hsplit] at h
    rcases hcontext : nameContext raw written with flaw | context
    · simp only [bind, Except.bind, hcontext] at h
      cases h
    · rcases hlocal : checkLocalName raw localWritten with flaw | localName
      · simp only [bind, Except.bind, hcontext, hlocal] at h
        cases h
      · simp only [bind, Except.bind, hcontext, hlocal, pure, Except.pure] at h
        cases h
        rw [(checkLocalName_eq_ok hlocal).1]
        exact eq_of_splitContext hsplit

/-! ## Tabs and line ends -/

theorem notMem_dropBreaks {c : Char} (h : c ∈ ['\t', '\n', '\r']) (cs : List Char) :
    c ∉ dropBreaks cs := by
  rw [dropBreaks, List.mem_filter]
  simp only [List.mem_cons, List.not_mem_nil, or_false] at h
  rcases h with rfl | rfl | rfl <;> simp

/-- A text is left whole if none of the characters that addresses drop is in it. -/
theorem dropBreaks_eq_self_iff {cs : List Char} :
    dropBreaks cs = cs ↔ ∀ c ∈ cs, c ∉ ['\t', '\n', '\r'] := by
  rw [dropBreaks, List.filter_eq_self]
  simp [and_assoc]

theorem dropBreaks_of_printable {cs : List Char} (h : cs.any Text.isControl = false) :
    dropBreaks cs = cs := by
  have control : ['\t', '\n', '\r'].all Text.isControl = true := by decide
  rw [dropBreaks_eq_self_iff]
  intro c hc isBreak
  exact List.any_eq_false.mp h c hc (List.all_eq_true.mp control c isBreak)

/-- The part of a name behind the tenant. -/
def ownText (s : Subject) : List Char :=
  (contextText s.context s.localName).toList ++ s.localName.toList

theorem toList_rendered (s : Subject) :
    s.rendered.toList = (tenantText s.tenant).toList ++ s.ownText := by
  rw [rendered, String.toList_append, String.toList_append, List.append_assoc, ownText]

theorem dropBreaks_ownText {s : Subject} (h : s.WellFormed) :
    dropBreaks s.ownText = s.ownText := by
  have context : s.context.toList.any Text.isControl = false := by
    rw [List.any_eq_false]
    intro c hc
    have character := List.all_eq_true.mp h.characters c hc
    simp_all
  have written : (contextText s.context s.localName).toList.any Text.isControl = false := by
    rw [contextText]
    split
    · have colon : Text.isControl ':' = false := by decide
      have single : ":".toList = [':'] := rfl
      simp only [String.toList_append, single, List.any_append, List.any_cons, List.any_nil, colon,
        context, Bool.or_false]
    · rfl
  apply dropBreaks_of_printable
  rw [ownText, List.any_append, written, h.printable]
  rfl

theorem dropBreaks_rendered {s : Subject} (h : s.WellFormed) :
    dropBreaks s.rendered.toList = dropBreaks (tenantText s.tenant).toList ++ s.ownText := by
  rw [toList_rendered, dropBreaks, List.filter_append, ← dropBreaks, ← dropBreaks,
    dropBreaks_ownText h]

/-- A name that has lost tabs or line ends has a tenant in front, and an underline behind it. -/
theorem exists_tenant_of_dropBreaks_ne {s : Subject} (h : s.WellFormed)
    (broken : dropBreaks s.rendered.toList ≠ s.rendered.toList) :
    ∃ c ∈ ['\t', '\n', '\r'], s.tenant ≠ defaultTenant ∧ c ∈ s.tenant.toList := by
  -- Breaks can be lost only in the tenant: contexts and local names have none.
  have front : dropBreaks (tenantText s.tenant).toList ≠ (tenantText s.tenant).toList := by
    intro whole
    rw [dropBreaks_rendered h, toList_rendered, whole] at broken
    exact broken rfl
  rw [ne_eq, dropBreaks_eq_self_iff, Classical.not_forall] at front
  obtain ⟨c, hc⟩ := front
  obtain ⟨hc, isBreak⟩ := Classical.not_imp.mp hc
  rw [Decidable.not_not] at isBreak
  refine ⟨c, isBreak, ?_⟩
  rw [tenantText] at hc
  split at hc
  · cases hc
  · rename_i other
    refine ⟨other, ?_⟩
    rw [String.toList_append, List.mem_append] at hc
    rcases hc with hc | hc
    · exact hc
    · have underline : "_".toList = ['_'] := rfl
      rw [underline, List.mem_singleton] at hc
      rw [hc] at isBreak
      exact absurd isBreak (by decide)

theorem dropBreaks_tenantText {tenant : String} (other : tenant ≠ defaultTenant) :
    dropBreaks (tenantText tenant).toList = dropBreaks tenant.toList ++ ['_'] := by
  have underline : dropBreaks "_".toList = ['_'] := by decide
  rw [tenantText, if_neg other, String.toList_append, dropBreaks, List.filter_append, ← dropBreaks,
    ← dropBreaks, underline]

/-- A name is a step unless it is made of points alone. -/
theorem isStep_rendered {s : Subject} (h : s.WellFormed) (stay : s.rendered ≠ ".")
    (up : s.rendered ≠ "..") : Url.IsStep s.rendered := by
  intro points
  simp only [List.mem_cons, List.not_mem_nil, or_false] at points
  by_cases whole : dropBreaks s.rendered.toList = s.rendered.toList
  · rw [whole] at points
    rcases points with empty | point | twoPoints
    · rw [toList_rendered, ownText, List.append_eq_nil_iff, List.append_eq_nil_iff] at empty
      exact h.named empty.2.2
    · exact stay (String.toList_inj.mp point)
    · exact up (String.toList_inj.mp twoPoints)
  · obtain ⟨-, -, other, -⟩ := exists_tenant_of_dropBreaks_ne h whole
    have underline : '_' ∈ dropBreaks s.rendered.toList := by
      rw [dropBreaks_rendered h, dropBreaks_tenantText other]
      simp
    rcases points with points | points | points <;> rw [points] at underline <;>
      exact absurd underline (by decide)

/-- A name that has lost tabs or line ends does not mean the subject. -/
theorem resolve_dropBreaks_ne {s : Subject} (h : s.WellFormed)
    (broken : dropBreaks s.rendered.toList ≠ s.rendered.toList) :
    resolve s.tenant (String.ofList (dropBreaks s.rendered.toList)) ≠ .ok s := by
  obtain ⟨c, isBreak, other, hc⟩ := exists_tenant_of_dropBreaks_ne h broken
  intro resolved
  -- The tenant's prefix has a character that the name has lost.
  have foreign : dropTenant s.tenant (dropBreaks s.rendered.toList) =
      dropBreaks s.rendered.toList := by
    rw [dropTenant, if_neg other]
    rcases hdrop : dropPrefix? (s.tenant.toList ++ ['_']) (dropBreaks s.rendered.toList) with
      _ | rest
    · rfl
    · have whole := eq_append_of_dropPrefix? hdrop
      refine absurd ?_ (notMem_dropBreaks isBreak s.rendered.toList)
      rw [whole]
      exact List.mem_append_left _ (List.mem_append_left _ hc)
  have ends := eq_of_resolve_of_dropTenant resolved (by rw [String.toList_ofList]; exact foreign)
  rw [String.toList_ofList, dropBreaks_rendered h, dropBreaks_tenantText other, ownText,
    ← List.append_assoc] at ends
  rcases ends with bare | ⟨written, undivided, whole⟩
  · -- Without a context the local name would be longer than itself.
    have lengths := congrArg List.length bare
    simp only [List.length_append, List.length_cons, List.length_nil] at lengths
    omega
  · have context : dropBreaks s.tenant.toList ++ ['_'] ++
        (contextText s.context s.localName).toList = ':' :: written ++ [':'] := by
      apply List.append_cancel_right
      rw [whole]
      simp
    rw [contextText] at context
    split at context
    · have single : ":".toList = [':'] := rfl
      rw [String.toList_append, String.toList_append, single, ← List.append_assoc] at context
      have front := List.append_cancel_right context
      rcases hfirst : dropBreaks s.tenant.toList with _ | ⟨d, more⟩
      · rw [hfirst] at front
        exact absurd (List.cons.inj front).1 (by decide)
      · -- The colon in front of the context would be within what is read as the context.
        rw [hfirst] at front
        refine undivided ?_
        rw [← (List.cons.inj front).2]
        simp
    · have empty : "".toList = [] := rfl
      rw [empty, List.append_nil] at context
      have last := congrArg List.getLast? context
      rw [List.getLast?_concat, List.getLast?_concat] at last
      exact absurd (Option.some.inj last) (by decide)

/-- **A name survives the address exactly if nothing is dropped from it.** What is dropped changes
the tenant in front of the name, and then the rest does not read as the same subject. -/
theorem resolve_dropBreaks_iff {s : Subject} (h : s.WellFormed) :
    resolve s.tenant (String.ofList (dropBreaks s.rendered.toList)) = .ok s ↔
      dropBreaks s.rendered.toList = s.rendered.toList := by
  constructor
  · intro resolved
    exact Decidable.not_not.mp fun broken => resolve_dropBreaks_ne h broken resolved
  · intro whole
    rw [whole, String.ofList_toList]
    exact resolve_rendered h

/-- Whether the name of a subject is kept as a step of an address: it is not made of points alone,
and it has no tabs and line ends. -/
structure IsKept (s : Subject) : Prop where
  stays : s.rendered ≠ "." ∧ s.rendered ≠ ".."
  whole : dropBreaks s.rendered.toList = s.rendered.toList

end SchemaRegistry.Subject
