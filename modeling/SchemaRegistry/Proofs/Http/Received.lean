import SchemaRegistry.Proofs.Http.Url
/-!
# Targets, endpoints and parameters

What the interface of a node makes of a target that was written segment by segment: the place that
the segments name, and the parameters that the query gives. A switch behind other parameters is what
it says, unless one of them has its name.
-/

set_option autoImplicit false

namespace SchemaRegistry

open Text (encoded)

/-! ## Targets -/

namespace Target

/-- A target that begins with a slash is no whole address. -/
theorem dropAuthority_slash (cs : List Char) : dropAuthority ('/' :: cs) = '/' :: cs := by
  rw [dropAuthority]
  split
  · rw [if_neg]
    rw [List.takeWhile_cons_of_pos (by decide), List.all_cons]
    have slash : isSchemeCharacter '/' = false := by decide
    simp [slash]
  · rfl

/-- A target is cut at its question mark. A fragment would be cut off, so there must be none. -/
theorem ofText_ofList {path query : List Char} (noQuery : '?' ∉ path) (noFragment : '#' ∉ path)
    (whole : '#' ∉ query) :
    ofText (String.ofList ('/' :: path ++ '?' :: query)) =
      { path := '/' :: path, query := some query } := by
  have unbroken : ∀ c ∈ '/' :: path ++ '?' :: query, decide (c ≠ '#') = true := by
    intro c hc
    rw [decide_eq_true_eq]
    rintro rfl
    simp [noFragment, whole] at hc
  have front : ∀ c ∈ '/' :: path, decide (c ≠ '?') = true := by
    intro c hc
    rw [decide_eq_true_eq]
    rintro rfl
    simp [noQuery] at hc
  have kept : ('/' :: path ++ '?' :: query).takeWhile (· ≠ '#') = '/' :: path ++ '?' :: query := by
    rw [← List.append_nil ('/' :: path ++ '?' :: query), List.takeWhile_append_of_pos unbroken,
      List.takeWhile_nil]
  rw [ofText]
  simp only [String.toList_ofList, List.cons_append, dropAuthority_slash]
  rw [← List.cons_append, kept, List.takeWhile_append_of_pos front,
    List.dropWhile_append_of_pos front, List.takeWhile_cons_of_neg (by decide),
    List.dropWhile_cons_of_neg (by decide), List.append_nil]

end Target

/-! ## Endpoints -/

namespace Endpoint

variable {segment : List Char}

theorem splitAt_slash (h : '/' ∉ segment) : Text.splitAt (· == '/') segment = [segment] := by
  apply Text.splitAt_of_forall
  intro c hc
  rw [beq_eq_false_iff_ne]
  rintro rfl
  exact h hc

theorem ofPath?_subjects : ofPath? "/subjects".toList = some .subjects := by
  decide

/-- A path of two segments is about one subject, whatever that is, as long as it is not empty. -/
theorem ofPath?_subject (h : '/' ∉ segment) (some : segment ≠ []) :
    ofPath? ("/subjects".toList ++ '/' :: segment) = .some (.subject segment) := by
  have front : Text.splitAt (· == '/') "/subjects".toList = [[], "subjects".toList] := by decide
  rw [ofPath?, Text.splitAt_append_cons (by decide), front, splitAt_slash h]
  simp [some]

theorem ofPath?_versions (h : '/' ∉ segment) :
    ofPath? ("/subjects".toList ++ '/' :: segment ++ "/versions".toList) =
      some (.versions segment) := by
  have front : Text.splitAt (· == '/') "/subjects".toList = [[], "subjects".toList] := by decide
  have last : Text.splitAt (· == '/') "versions".toList = ["versions".toList] := by decide
  have slash : "/versions".toList = '/' :: "versions".toList := by decide
  rw [ofPath?, slash, Text.splitAt_append_cons (by decide), last,
    Text.splitAt_append_cons (by decide), front, splitAt_slash h]
  simp

end Endpoint

/-- The segment that a step is written as is decoded to the step without its tabs and line ends. -/
theorem Order.segmentText?_written (special : Bool) (step : String) :
    segmentText? (Url.written special step) =
      some (String.ofList (Url.dropBreaks step.toList)) := by
  have percent : Percent.inSegment special '%' = true := by
    cases special <;> decide
  rw [segmentText?, Text.octets_ofList, Url.written, Percent.decode_encode percent,
    ← Text.octets_ofList, Text.ofOctets?_octets]

/-! ## Parameters -/

namespace Query

variable {name : String} {ps : List (String × String)}

/-- A parameter of another name is passed over, so what the leader's own address has in its query
does no harm. -/
theorem check_cons_of_ne {p : String × String} (h : p.1 ≠ name) (seen : List String)
    (rest : List (String × String)) :
    check [(name, .switch)] seen (p :: rest) = check [(name, .switch)] seen rest := by
  obtain ⟨other, value⟩ := p
  have different : (other == name) = false := beq_eq_false_iff_ne.mpr h
  have unknown : [(name, Kind.switch)].lookup other = none := by
    rw [List.lookup_cons, different]
    rfl
  rw [check, unknown]

/-- Pairs of other names do not matter. -/
theorem check_append_of_apart (h : ∀ p ∈ ps, p.1 ≠ name) (seen : List String)
    (rest : List (String × String)) :
    check [(name, .switch)] seen (ps ++ rest) = check [(name, .switch)] seen rest := by
  induction ps with
  | nil => rfl
  | cons p ps ih =>
    obtain ⟨first, others⟩ := List.forall_mem_cons.mp h
    rw [List.cons_append, check_cons_of_ne first, ih others]

theorem check_switch (name : String) (b : Bool) :
    check [(name, .switch)] [] [(name, switchText b)] = .ok [(name, switchText b)] := by
  have known : [(name, Kind.switch)].lookup name = some .switch := List.lookup_cons_self
  have text : switch? (switchText b) ≠ none := by
    revert b
    decide
  rw [check, known]
  simp [text, check, Except.map]

theorem isOn_switch (name : String) (b : Bool) : isOn [(name, switchText b)] name = b := by
  have found : [(name, switchText b)].lookup name = some (switchText b) := List.lookup_cons_self
  rw [isOn, found]
  rcases b with _ | _ <;> decide

/-- A switch is not given twice. -/
theorem exists_check_eq_error (seen : List String) (h : name ∈ seen ∨ ∃ p ∈ ps, p.1 = name)
    (value : String) :
    ∃ flaw, check [(name, .switch)] seen (ps ++ [(name, value)]) = .error flaw := by
  have known : [(name, Kind.switch)].lookup name = some .switch := List.lookup_cons_self
  induction ps generalizing seen with
  | nil =>
    have seenBefore : name ∈ seen := by simpa using h
    refine ⟨.repeated name, ?_⟩
    rw [List.nil_append, check, known]
    simp [seenBefore]
  | cons p ps ih =>
    -- A pair of the name is wrong at once, or makes the last one a repetition.
    by_cases other : p.1 = name
    · obtain ⟨given, text⟩ := p
      obtain rfl : name = given := other.symm
      rw [List.cons_append, check, known]
      dsimp only
      split
      · exact ⟨_, rfl⟩
      · split
        · exact ⟨_, rfl⟩
        · obtain ⟨flaw, hflaw⟩ := ih (name :: seen) (Or.inl List.mem_cons_self)
          exact ⟨flaw, by rw [hflaw]; rfl⟩
    · rw [List.cons_append, check_cons_of_ne other]
      refine ih seen (h.imp_right ?_)
      rintro ⟨q, hq, same⟩
      rcases List.mem_cons.mp hq with rfl | hq
      · exact absurd same other
      · exact ⟨q, hq, same⟩

/-- A switch behind other pairs is read, or they have its name and are refused. -/
theorem check_switch_cases (name : String) (ps : List (String × String)) (b : Bool) :
    (∀ p ∈ ps, p.1 ≠ name) ∧ check [(name, .switch)] [] (ps ++ [(name, switchText b)]) =
        .ok [(name, switchText b)] ∨
      (¬ ∀ p ∈ ps, p.1 ≠ name) ∧
        ∃ flaw, check [(name, .switch)] [] (ps ++ [(name, switchText b)]) = .error flaw := by
  by_cases apart : ∀ p ∈ ps, p.1 ≠ name
  · refine Or.inl ⟨apart, ?_⟩
    rw [check_append_of_apart apart, check_switch]
  · refine Or.inr ⟨apart, exists_check_eq_error [] (Or.inr ?_) (switchText b)⟩
    obtain ⟨p, hp⟩ := Classical.not_forall.mp apart
    obtain ⟨hp, same⟩ := Classical.not_imp.mp hp
    exact ⟨p, hp, Decidable.not_not.mp same⟩

end Query

/-! ## Orders -/

namespace Order

variable {r : Request} {path query : List Char} {endpoint : Endpoint} {text : String}

/-- A request at a place where its method does something orders that, if its parameters are right.
-/
theorem ofRequest_of_action (action : Action)
    (target : r.target = String.ofList ('/' :: path ++ '?' :: query)) (noQuery : '?' ∉ path)
    (noFragment : '#' ∉ path) (whole : '#' ∉ query)
    (place : Endpoint.ofPath? ('/' :: path) = some endpoint)
    (acts : endpoint.action? r.method = some action)
    (segment : segmentText? (endpoint.segment?.getD []) = some text) :
    ofRequest r =
      ((Query.parameters action.parameters (encoded query)).mapError
        fun flaw => refusal flaw.message).map
          fun parameters => { action, subject := text, parameters } := by
  rw [ofRequest, target, Target.ofText_ofList noQuery noFragment whole]
  simp only [place, acts, segment, Option.getD_some, Text.octets_ofList]
  rcases Query.parameters action.parameters (encoded query) with flaw | parameters <;> rfl

/-- A request at a place where its method does nothing orders nothing. -/
theorem ofRequest_of_no_action
    (target : r.target = String.ofList ('/' :: path ++ '?' :: query)) (noQuery : '?' ∉ path)
    (noFragment : '#' ∉ path) (whole : '#' ∉ query)
    (place : Endpoint.ofPath? ('/' :: path) = some endpoint)
    (idle : endpoint.action? r.method = none) :
    ofRequest r = .error { status := 405, allow := some endpoint.allowed } := by
  rw [ofRequest, target, Target.ofText_ofList noQuery noFragment whole]
  simp only [place, idle]

/-- What is ordered at a subject. -/
theorem ofRequest_subject {segment : List Char} (action : Action)
    (target : r.target = String.ofList ("/subjects".toList ++ '/' :: segment ++ '?' :: query))
    (apart : ∀ c ∈ ['/', '?', '#'], c ∉ segment) (some : segment ≠ []) (whole : '#' ∉ query)
    (acts : (Endpoint.subject segment).action? r.method = .some action)
    (read : segmentText? segment = .some text) :
    ofRequest r =
      ((Query.parameters action.parameters (encoded query)).mapError
        fun flaw => refusal flaw.message).map
          fun parameters => { action, subject := text, parameters } := by
  have plain : ['?', '#'].all (· ∉ "subjects/".toList) = true := by decide
  have clear : ∀ c ∈ ['?', '#'], c ∉ "subjects/".toList ++ segment := by
    intro c hc
    rw [List.mem_append, not_or]
    exact ⟨of_decide_eq_true (List.all_eq_true.mp plain c hc), apart c (List.mem_cons_of_mem _ hc)⟩
  have split : "/subjects".toList ++ '/' :: segment = '/' :: ("subjects/".toList ++ segment) := rfl
  rw [split] at target
  refine ofRequest_of_action action target (clear _ (by decide)) (clear _ (by decide)) whole ?_ acts
    read
  rw [← split]
  exact Endpoint.ofPath?_subject (apart _ (by decide)) some

/-- What is ordered at the versions of a subject. -/
theorem ofRequest_versions {segment : List Char} (action : Action)
    (target : r.target =
      String.ofList ("/subjects".toList ++ '/' :: segment ++ "/versions".toList ++ '?' :: query))
    (apart : ∀ c ∈ ['/', '?', '#'], c ∉ segment) (whole : '#' ∉ query)
    (acts : (Endpoint.versions segment).action? r.method = some action)
    (read : segmentText? segment = some text) :
    ofRequest r =
      ((Query.parameters action.parameters (encoded query)).mapError
        fun flaw => refusal flaw.message).map
          fun parameters => { action, subject := text, parameters } := by
  have plain :
      ['?', '#'].all (fun c => c ∉ "subjects/".toList ∧ c ∉ "/versions".toList) = true := by
    decide
  -- No part of the path ends it early, so the router sees the segment whole.
  have clear : ∀ c ∈ ['?', '#'], c ∉ "subjects/".toList ++ (segment ++ "/versions".toList) := by
    intro c hc
    obtain ⟨front, behind⟩ := of_decide_eq_true (List.all_eq_true.mp plain c hc)
    rw [List.mem_append, List.mem_append, not_or, not_or]
    exact ⟨front, apart c (List.mem_cons_of_mem _ hc), behind⟩
  have split : "/subjects".toList ++ '/' :: segment ++ "/versions".toList =
      '/' :: ("subjects/".toList ++ (segment ++ "/versions".toList)) := rfl
  rw [split] at target
  refine ofRequest_of_action action target (clear _ (by decide)) (clear _ (by decide)) whole ?_ acts
    read
  rw [← split]
  exact Endpoint.ofPath?_versions (apart _ (by decide))

end Order

end SchemaRegistry
