import SchemaRegistry.Http.Mount
import SchemaRegistry.Proofs.Http.Percent
/-!
# Addresses with steps and parameters

Steps that are added to an address stand behind its mount, each as one segment, unless they are made
of points alone. A step is written without its tabs and line ends, and what is left of it is
encoded, so that nothing in it separates parts of an address. A parameter stands behind those that
the address has.
-/

set_option autoImplicit false

namespace SchemaRegistry.Url

open Text (encoded encoded_append encoded_cons)

/-! ## Steps -/

/-- Whether a step is one: something is left of it without tabs and line ends, and that is not made
of points alone. -/
def IsStep (step : String) : Prop :=
  dropBreaks step.toList ∉ [[], ['.'], ['.', '.']]

instance (step : String) : Decidable (IsStep step) :=
  inferInstanceAs (Decidable (_ ∉ _))

/-- The segment that a step is written as. -/
def written (special : Bool) (step : String) : List Char :=
  Percent.encode (Percent.inSegment special) (dropBreaks step.toList)

theorem written_ne_nil {special : Bool} {step : String} (h : IsStep step) :
    written special step ≠ [] := by
  refine Percent.encode_ne_nil ?_
  intro empty
  exact h (by simp [empty])

/-- What separates the parts of an address is not in a segment. -/
theorem notMem_written {c : Char} (h : c ∈ ['/', '?', '#']) (special : Bool) (step : String) :
    c ∉ written special step := by
  refine Percent.notMem_encode ?_ ?_ _
  · have held : ['/', '?', '#'].all (Percent.inSegment special) = true := by
      cases special <;> decide
    exact List.all_eq_true.mp held c h
  · have apart : ['/', '?', '#'].all (· ∉ "%0123456789ABCDEF".toList) = true := by decide
    exact of_decide_eq_true (List.all_eq_true.mp apart c h)

/-- The segments to which steps are added. -/
def trunk (segments : List (List Char)) : List (List Char) :=
  if segments = [[]] then [] else segments

/-- A step that is neither empty nor made of points goes behind what is there. -/
theorem addStep_of_isStep {special : Bool} {step : String} (h : IsStep step)
    (segments : List (List Char)) :
    addStep special segments step = trunk segments ++ [written special step] := by
  simp only [IsStep, List.mem_cons, List.not_mem_nil, or_false, not_or] at h
  obtain ⟨-, notStay, notUp⟩ := h
  have notPoints : ¬ (step = "." ∨ step = "..") := by
    rintro (rfl | rfl)
    · exact notStay (by decide)
    · exact notUp (by decide)
  rw [addStep, if_neg notPoints, if_neg notUp, if_neg notStay]
  rfl

/-- Steps go behind the path in their order. A path that is only a slash gives way to the first of
them. -/
theorem foldl_addStep {special : Bool} {steps : List String} (h : ∀ step ∈ steps, IsStep step)
    (some : steps ≠ []) (segments : List (List Char)) :
    steps.foldl (addStep special) segments = trunk segments ++ steps.map (written special) := by
  induction steps generalizing segments with
  | nil => exact absurd rfl some
  | cons step steps ih =>
    obtain ⟨first, others⟩ := List.forall_mem_cons.mp h
    rw [List.foldl_cons, addStep_of_isStep first, List.map_cons]
    -- A path that is only a slash is looked for at each step, and there is none behind the first.
    have grown : trunk (trunk segments ++ [written special step]) =
        trunk segments ++ [written special step] := by
      rw [trunk, if_neg]
      intro bare
      have last := congrArg List.getLast? bare
      rw [List.getLast?_concat] at last
      exact written_ne_nil first (Option.some.inj last)
    by_cases done : steps = []
    · rw [done]
      rfl
    · rw [ih others done, grown, List.append_assoc]
      rfl

/-- Steps stand behind the mount. -/
theorem pathChars_extend {u : Url} {steps : List String} (h : ∀ step ∈ steps, IsStep step)
    (some : steps ≠ []) :
    (u.extend steps).pathChars =
      u.mount ++ steps.flatMap fun step => '/' :: written (isSpecial u.scheme) step := by
  have stem :
      u.mount = (trunk (dropEmptyEnd u.segments)).flatMap fun segment => '/' :: segment := by
    rw [mount, trunk]
    split <;> rfl
  rw [pathChars, extend, foldl_addStep h some, List.flatMap_append, stem, List.flatMap_map]

/-! ## Parameters -/

/-- The pairs that an address has in its query. -/
def pairs (u : Url) : List (String × String) :=
  Query.pairs (encoded (u.query.getD []))

/-- An address without a query, or with an empty one, gets one of the one pair. -/
theorem addQuery_of_bare {u : Url} (h : u.query.getD [] = []) (name value : String) :
    u.addQuery name value = { u with query := some (name.toList ++ '=' :: value.toList) } := by
  rw [addQuery]
  rcases hquery : u.query with _ | _ | ⟨c, query⟩
  · rfl
  · rfl
  · rw [hquery] at h
    cases h

theorem addQuery_of_query {u : Url} (h : u.query.getD [] ≠ []) (name value : String) :
    u.addQuery name value =
      { u with
        query := some (u.query.getD [] ++ '&' :: (name.toList ++ '=' :: value.toList)) } := by
  rw [addQuery]
  rcases hquery : u.query with _ | _ | ⟨c, query⟩
  · rw [hquery] at h
    exact absurd rfl h
  · rw [hquery] at h
    exact absurd rfl h
  · rfl

/-- A parameter comes behind the pairs that are there. -/
theorem pairs_addQuery (u : Url) (name value : String) :
    (u.addQuery name value).pairs =
      u.pairs ++ Query.pairs (encoded (name.toList ++ '=' :: value.toList)) := by
  by_cases bare : u.query.getD [] = []
  · rw [addQuery_of_bare bare, pairs, pairs, bare]
    rfl
  · have ampersand : String.utf8EncodeChar '&' = [0x26] := by decide
    rw [addQuery_of_query bare, pairs, Option.getD_some, encoded_append, encoded_cons, ampersand,
      List.singleton_append, Query.pairs, Text.splitAt_append_cons (by decide), List.filter_append,
      List.map_append]
    rfl

/-- Nothing comes into a query but the pair and an ampersand. -/
theorem mem_query_addQuery {u : Url} {name value : String} {c : Char}
    (h : c ∈ (u.addQuery name value).query.getD []) :
    c ∈ u.query.getD [] ∨ c = '&' ∨ c ∈ name.toList ++ '=' :: value.toList := by
  by_cases bare : u.query.getD [] = []
  · rw [addQuery_of_bare bare] at h
    exact Or.inr (Or.inr h)
  · rw [addQuery_of_query bare] at h
    rcases List.mem_append.mp h with front | behind
    · exact Or.inl front
    · exact Or.inr (List.mem_cons.mp behind)

theorem targetChars_addQuery (u : Url) (name value : String) :
    (u.addQuery name value).targetChars =
      u.pathChars ++ '?' :: (u.addQuery name value).query.getD [] := by
  by_cases bare : u.query.getD [] = []
  · rw [addQuery_of_bare bare]
    rfl
  · rw [addQuery_of_query bare]
    rfl

/-! ## Reading -/

/-- No fragment begins within a query that has been read. -/
theorem notMem_query_readTail (scheme : List Char) (authority : Option (List Char)) (drives : Bool)
    (cs : List Char) : '#' ∉ (readTail scheme authority drives cs).query.getD [] := by
  rw [readTail]
  dsimp only
  split
  · refine Percent.notMem_encode ?_ (by decide) _
    cases isSpecial scheme <;> decide
  · simp

/-- Whichever way an address is written, its query ends where a fragment begins. -/
theorem notMem_query_readFrom {scheme cs : List Char} {u : Url} (h : readFrom scheme cs = .ok u) :
    '#' ∉ u.query.getD [] := by
  rw [readFrom] at h
  dsimp only at h
  revert h
  generalize readAuthority scheme _ _ = outcome
  intro h
  rcases outcome with flaw | ⟨authority, rest⟩
  · cases h
  · cases h
    exact notMem_query_readTail _ _ _ _

/-- Addresses of files are read by rules of their own, and their queries end there too. -/
theorem notMem_query_readFile {scheme cs : List Char} {u : Url} (h : readFile scheme cs = .ok u) :
    '#' ∉ u.query.getD [] := by
  -- Host and segments may be changed once the rest is read, but the query is not.
  have path : ∀ host drives cs, '#' ∉ (readFilePath scheme host drives cs).query.getD [] :=
    fun host drives cs => notMem_query_readTail scheme (some host) drives cs
  rw [readFile.eq_def] at h
  split at h
  · split at h
    · dsimp only at h
      split at h
      · cases h
        exact path _ _ _
      · revert h
        generalize readFileHost _ = outcome
        intro h
        rcases outcome with flaw | host
        · cases h
        · cases h
          exact path _ _ _
    · cases h
      exact path _ _ _
  · cases h
    exact path _ _ _

/-- **The query of an address that was read has no fragment in it**, so it is sent whole. -/
theorem notMem_query_of_parse {s : String} {u : Url} (h : parse s = .ok u) :
    '#' ∉ u.query.getD [] := by
  rw [parse] at h
  split at h
  · cases h
  · split at h
    · exact notMem_query_readFrom h
    · split at h
      · exact notMem_query_readFile h
      · split at h
        · exact notMem_query_readFrom h
        · cases h
          exact notMem_query_readTail _ _ _ _
        · cases h

end SchemaRegistry.Url
