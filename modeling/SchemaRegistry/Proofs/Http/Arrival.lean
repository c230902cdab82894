import SchemaRegistry.Proofs.Catalog.Decision
import SchemaRegistry.Proofs.Http.Name
import SchemaRegistry.Proofs.Http.Received
import SchemaRegistry.Proofs.Json.Shape
/-!
# Forwarded calls arrive

What a follower writes for a call is read at the leader as the same call. The address of the leader,
the name of the subject, the switch and the candidate are written by one side and read by the other,
and each of them is followed here from the one to the other. Every part is kept but for names:
points alone are no step of an address, and tabs and line ends are dropped from one. And a body can
be too long to be read. `Call.Fits` says when none of this happens, and then a call arrives. A name
of points alone is left out of the address, and the steps around it name another place.
-/

set_option autoImplicit false

namespace SchemaRegistry

open Text (encoded)

/-! ## Bodies -/

/-- References have the same three fields on the wire. -/
theorem Reference.map_ofWire_toWire (rs : List Reference) :
    List.map ofWire (rs.map toWire) = rs := by
  rw [List.map_map]
  exact List.map_id rs

/-- Every format is told by its name in a request, the default one too. -/
theorem Format.ofRequest_name (format : Format) : ofRequest (some format.name) = .ok format := by
  rcases format with _ | _ | _ <;> rfl

/-- The body of a call to register says what it is. -/
theorem Request.textHeader?_cons {r : Request} {rest : List (String × Octets)}
    (h : r.headers = ("content-type", Text.octets "application/json") :: rest) :
    r.textHeader? "content-type" = some "application/json" := by
  have visible : (Text.octets "application/json").all
      (fun b => (0x20 ≤ b && b < 0x7f) || b == 0x09) = true := by
    decide
  rw [textHeader?, h, List.find?_cons_of_pos (by decide)]
  simp only [textHeaders, List.filterMap_cons, visible, if_true, Text.ofOctets?_octets]
  rfl

/-- A body that was written is read with every field in its place, and none of them is left to a
default. -/
theorem SchemaBody.ofWire_toWire (b : SchemaBody) : ofWire b.toWire = b := by
  change { b with references := List.map Reference.ofWire (b.references.map Reference.toWire) } = b
  rw [Reference.map_ofWire_toWire]

/-- A body is made of a candidate and taken apart again without loss, its format among the rest. -/
theorem SchemaBody.candidate_ofCandidate (c : Candidate) : (ofCandidate c).candidate = .ok c := by
  rw [candidate, ofCandidate, Format.ofRequest_name]
  rfl

namespace Call

variable {α : Type}

/-! ## What a call orders -/

/-- What the interface does for a call. -/
def action : Call α → Action
  | .delete _ => .delete
  | .register .. => .register

/-- The switch of a call, and whether it is on. -/
def switch : Call α → String × Bool
  | .delete permanent => ("permanent", permanent)
  | .register _ normalize => ("normalize", normalize)

/-- The candidate of a call that has one. -/
def candidate? : Call α → Option Candidate
  | .delete _ => none
  | .register candidate _ => some candidate

/-- The body of the request that carries a call. -/
def body : Call α → String
  | .delete _ => ""
  | .register candidate _ => SchemaBody.shape.write (SchemaBody.ofCandidate candidate).toWire

/-- Whether the interface reads the body of a call. -/
def IsShort (call : Call α) : Prop :=
  (Text.octets call.body).length ≤ Request.maxBodyLength

instance (call : Call α) : Decidable call.IsShort :=
  inferInstanceAs (Decidable (_ ≤ _))

/-- Whether a request orders a call about a subject from a node that serves a tenant. -/
def OrderedBy (call : Call α) (tenant : String) (subject : Subject) (r : Request) : Prop :=
  ∃ o, Order.ofRequest r = .ok o ∧ o.action = call.action ∧
    Subject.resolve tenant o.subject = .ok subject ∧ o.isOn call.switch.1 = call.switch.2 ∧
    ∀ candidate ∈ call.candidate?, r.candidate = .ok candidate

/-- What is added to the query is one pair, and no character in it has to be escaped. -/
theorem pairs_switch (call : Call α) :
    Query.pairs (encoded (call.switch.1.toList ++ '=' :: (switchText call.switch.2).toList)) =
      [(call.switch.1, switchText call.switch.2)] := by
  have read : ∀ name ∈ ["permanent", "normalize"], ∀ b : Bool,
      Query.pairs (encoded (name.toList ++ '=' :: (switchText b).toList)) =
        [(name, switchText b)] := by
    decide +kernel
  rcases call with permanent | ⟨candidate, normalize⟩
  · exact read "permanent" (by decide) permanent
  · exact read "normalize" (by decide) normalize

/-- The switch brings no mark into the query behind which nothing would be sent. -/
theorem notMem_switch (call : Call α) :
    '#' ∉ '&' :: (call.switch.1.toList ++ '=' :: (switchText call.switch.2).toList) := by
  have plain : ∀ name ∈ ["permanent", "normalize"], ∀ b : Bool,
      '#' ∉ '&' :: (name.toList ++ '=' :: (switchText b).toList) := by
    decide
  rcases call with permanent | ⟨candidate, normalize⟩
  · exact plain "permanent" (by decide) permanent
  · exact plain "normalize" (by decide) normalize

theorem outbound_url (call : Call α) (base : Url) (subject : Subject) (headers : Headers) :
    (call.outbound base subject headers).url =
      (base.extend (call.steps subject)).addQuery call.switch.1 (switchText call.switch.2) := by
  rcases call with _ | _ <;> rfl

theorem outbound_body (call : Call α) (base : Url) (subject : Subject) (headers : Headers) :
    (call.outbound base subject headers).body = call.body := by
  rcases call with _ | _ <;> rfl

/-! ## Arrival -/

/-- The request that carries a call, for an interface that sees a target of its own. -/
def arrival (call : Call α) (base : Url) (subject : Subject) (headers : Headers)
    (target : List Char) : Request :=
  { (call.outbound base subject headers).received with target := String.ofList target }

/-- The steps of a call and its switch are what an interface below the mount sees. -/
theorem exists_arrival {call : Call α} {base : Url} {subject : Subject} {steps : List String}
    (whole : '#' ∉ base.query.getD []) (h : ∀ step ∈ steps, Url.IsStep step) (some : steps ≠ [])
    (same : base.extend (call.steps subject) = base.extend steps) (headers : Headers) :
    ∃ query, '#' ∉ query ∧
      Query.pairs (encoded query) = base.pairs ++ [(call.switch.1, switchText call.switch.2)] ∧
      (call.outbound base subject headers).received.below? base.mount =
        .some (call.arrival base subject headers
          ((steps.flatMap fun step => '/' :: Url.written (Url.isSpecial base.scheme) step) ++
            '?' :: query)) := by
  have url := call.outbound_url base subject headers
  rw [same] at url
  -- The query is that of the base with the switch behind it, and neither has a fragment sign.
  refine ⟨(call.outbound base subject headers).url.query.getD [], ?_, ?_, ?_⟩
  · rw [url]
    intro hash
    rcases Url.mem_query_addQuery hash with front | behind
    · exact whole front
    · exact call.notMem_switch (List.mem_cons.mpr behind)
  · have pairs := Url.pairs_addQuery (base.extend steps) call.switch.1 (switchText call.switch.2)
    rw [pairs_switch] at pairs
    rw [url]
    exact pairs
  · have target : (call.outbound base subject headers).url.targetChars = base.mount ++
        ((steps.flatMap fun step => '/' :: Url.written (Url.isSpecial base.scheme) step) ++
          '?' :: (call.outbound base subject headers).url.query.getD []) := by
      rw [url, Url.targetChars_addQuery, ← List.append_assoc, ← Url.pathChars_extend h some]
    have received : (call.outbound base subject headers).received.target.toList =
        (call.outbound base subject headers).url.targetChars := String.toList_ofList
    rw [Request.below?, received, target, Subject.dropPrefix?_append]
    rfl

variable {call : Call α} {base : Url} {subject : Subject} {headers : Headers} {query : List Char}
  {tenant : String}

/-- This step is made of letters, so it is written as it is. -/
theorem written_subjects (special : Bool) : Url.written special "subjects" = "subjects".toList := by
  revert special
  decide

theorem written_versions (special : Bool) : Url.written special "versions" = "versions".toList := by
  revert special
  decide

/-- What arrives of a call whose subject has a name that is a step. -/
theorem exists_arrival_of_isStep (call : Call α) (whole : '#' ∉ base.query.getD [])
    (step : Url.IsStep subject.rendered) (headers : Headers) :
    ∃ query, '#' ∉ query ∧
      Query.pairs (encoded query) = base.pairs ++ [(call.switch.1, switchText call.switch.2)] ∧
      (call.outbound base subject headers).received.below? base.mount =
        some (call.arrival base subject headers
          (((call.steps subject).flatMap
            fun step => '/' :: Url.written (Url.isSpecial base.scheme) step) ++ '?' :: query)) := by
  have fixed : Url.IsStep "subjects" ∧ Url.IsStep "versions" := by decide
  have steps : ∀ name ∈ call.steps subject, Url.IsStep name := by
    rcases call with permanent | ⟨candidate, normalize⟩ <;> simp [Call.steps, step, fixed]
  have some : call.steps subject ≠ [] := by
    rcases call with permanent | ⟨candidate, normalize⟩ <;> simp [Call.steps]
  exact exists_arrival whole steps some rfl headers

/-- What a call orders whose subject has a name that is a step. -/
theorem ofRequest_arrival (call : Call α) (base : Url) (headers : Headers)
    (step : Url.IsStep subject.rendered) (whole : '#' ∉ query) :
    Order.ofRequest (call.arrival base subject headers
        ((call.steps subject).flatMap
          (fun step => '/' :: Url.written (Url.isSpecial base.scheme) step) ++ '?' :: query)) =
      ((Query.check [(call.switch.1, .switch)] [] (Query.pairs (encoded query))).mapError
        fun flaw => Order.refusal flaw.message).map fun parameters =>
          { action := call.action
            subject := String.ofList (Url.dropBreaks subject.rendered.toList)
            parameters } := by
  have some : Url.written (Url.isSpecial base.scheme) subject.rendered ≠ [] :=
    Url.written_ne_nil step
  have apart :
      ∀ c ∈ ['/', '?', '#'], c ∉ Url.written (Url.isSpecial base.scheme) subject.rendered :=
    fun c hc => Url.notMem_written hc _ _
  have text := Order.segmentText?_written (Url.isSpecial base.scheme) subject.rendered
  rcases call with permanent | ⟨candidate, normalize⟩
  · refine Order.ofRequest_subject .delete ?_ apart some whole rfl text
    simp [arrival, steps, written_subjects]
  · refine Order.ofRequest_versions .register ?_ apart whole rfl text
    simp [arrival, steps, written_subjects, written_versions]

theorem body_arrival (call : Call α) (base : Url) (subject : Subject) (headers : Headers)
    (target : List Char) :
    (call.arrival base subject headers target).body = Text.octets call.body :=
  congrArg Text.octets (call.outbound_body base subject headers)

/-- A deletion sends no body, which is as short as can be. -/
theorem isShort_delete (permanent : Bool) : (Call.delete permanent).IsShort :=
  (by decide : (Text.octets "").length ≤ 2097152)

/-- The body of a call is read as its candidate, if it is read at all. -/
theorem candidate_arrival (candidate : Candidate) (normalize : Bool) (base : Url)
    (subject : Subject) (headers : Headers) (target : List Char) :
    ((Call.register candidate normalize).arrival base subject headers target).candidate =
      if (Call.register candidate normalize).IsShort then .ok candidate
      else .error (.invalidSchema "Failed to buffer the request body: length limit exceeded") := by
  have json : MediaType.isJson "application/json" = true := by decide
  have header :
      ((Call.register candidate normalize).arrival base subject headers target).textHeader?
        "content-type" = some "application/json" := Request.textHeader?_cons rfl
  have document : SchemaBody.shape.ofDocument
      (Text.octets (Call.register candidate normalize).body) =
        .ok (SchemaBody.ofCandidate candidate).toWire :=
    Json.Shape.ofDocument_octets_write (by decide) (by decide) _
  have sent := body_arrival (.register candidate normalize) base subject headers target
  simp only [Request.candidate, Request.schemaBody, header, Option.map_some, json, sent, document]
  by_cases short : (Call.register candidate normalize).IsShort
  · have read := Nat.not_lt.mpr short
    simp only [if_neg read, if_pos short, SchemaBody.ofWire_toWire]
    exact SchemaBody.candidate_ofCandidate candidate
  · have refused := Nat.not_le.mp short
    simp only [if_pos refused, if_neg short]

/-- The only thing that can become of a candidate on the way is that its body is too long to be
taken. -/
theorem candidate_arrival_iff (call : Call α) (base : Url) (subject : Subject) (headers : Headers)
    (target : List Char) :
    (∀ candidate ∈ call.candidate?,
      (call.arrival base subject headers target).candidate = .ok candidate) ↔ call.IsShort := by
  rcases call with permanent | ⟨candidate, normalize⟩
  · simp [candidate?, isShort_delete]
  · simp [candidate?, candidate_arrival]

/-- A call whose subject has a name that is a step is ordered exactly if the address has no
parameter of its name, the name means the subject without its tabs and line ends, and the body is
read. -/
theorem orderedBy_arrival_iff (call : Call α) (tenant : String) (headers : Headers)
    (step : Url.IsStep subject.rendered) (whole : '#' ∉ query)
    (pairs : Query.pairs (encoded query) =
      base.pairs ++ [(call.switch.1, switchText call.switch.2)]) :
    call.OrderedBy tenant subject (call.arrival base subject headers
        ((call.steps subject).flatMap
          (fun step => '/' :: Url.written (Url.isSpecial base.scheme) step) ++ '?' :: query)) ↔
      (∀ p ∈ base.pairs, p.1 ≠ call.switch.1) ∧
        Subject.resolve tenant (String.ofList (Url.dropBreaks subject.rendered.toList)) =
          .ok subject ∧ call.IsShort := by
  have ordered := ofRequest_arrival call base headers step whole
  rw [pairs] at ordered
  -- The switch is understood unless the base has given it already.
  rcases Query.check_switch_cases call.switch.1 base.pairs call.switch.2 with
    ⟨apart, read⟩ | ⟨given, flaw, refused⟩
  · rw [read] at ordered
    constructor
    · rintro ⟨o, ho, -, resolved, -, read⟩
      rw [ordered] at ho
      cases ho
      exact ⟨apart, resolved, (call.candidate_arrival_iff base subject headers _).mp read⟩
    · rintro ⟨-, resolved, short⟩
      exact ⟨_, ordered, rfl, resolved, Query.isOn_switch _ _,
        (call.candidate_arrival_iff base subject headers _).mpr short⟩
  · rw [refused] at ordered
    constructor
    · rintro ⟨o, ho, -⟩
      rw [ordered] at ho
      cases ho
    · rintro ⟨apart, -⟩
      exact absurd apart given

/-- A call whose subject has a name of points alone orders something else, or nothing. -/
theorem not_orderedBy_of_points (whole : '#' ∉ base.query.getD [])
    (points : subject.rendered = "." ∨ subject.rendered = "..") {r : Request}
    (arrives : (call.outbound base subject headers).received.below? base.mount = some r) :
    ¬ call.OrderedBy tenant subject r := by
  -- The steps around the name are all that is written.
  have nothing (segments : List (List Char)) :
      Url.addStep (Url.isSpecial base.scheme) segments subject.rendered = segments := by
    rw [Url.addStep, if_pos points]
  rcases call with permanent | ⟨candidate, normalize⟩
  · have same : base.extend ((Call.delete permanent).steps subject) = base.extend ["subjects"] := by
      simp [Url.extend, steps, nothing]
    obtain ⟨query, hquery, -, hr⟩ := exists_arrival whole (by decide) (by decide) same headers
    rw [arrives] at hr
    have target : r.target = String.ofList ('/' :: "subjects".toList ++ '?' :: query) := by
      simp [Option.some.inj hr, arrival, written_subjects]
    have idle : Endpoint.subjects.action? r.method = none := by
      rw [Option.some.inj hr]
      rfl
    rintro ⟨o, ho, -⟩
    rw [Order.ofRequest_of_no_action target (by decide) (by decide) hquery
      Endpoint.ofPath?_subjects idle] at ho
    cases ho
  · have same : base.extend ((Call.register candidate normalize).steps subject) =
        base.extend ["subjects", "versions"] := by
      simp [Url.extend, steps, nothing]
    obtain ⟨query, hquery, -, hr⟩ := exists_arrival whole (by decide) (by decide) same headers
    rw [arrives] at hr
    have target : r.target =
        String.ofList ("/subjects".toList ++ '/' :: "versions".toList ++ '?' :: query) := by
      simp [Option.some.inj hr, arrival, written_subjects, written_versions]
    have acts : (Endpoint.subject "versions".toList).action? r.method = some .lookup := by
      rw [Option.some.inj hr]
      rfl
    have apart : ['/', '?', '#'].all (· ∉ "versions".toList) = true := by decide
    have read : Order.segmentText? "versions".toList = some "versions" := by decide
    rintro ⟨o, ho, isRegistration, -⟩
    rw [Order.ofRequest_subject .lookup target
      (fun c hc => of_decide_eq_true (List.all_eq_true.mp apart c hc)) (by decide) hquery acts
      read] at ho
    rcases hparameters : Query.parameters Action.lookup.parameters (encoded query) with
      flaw | parameters
    · rw [hparameters] at ho
      cases ho
    · rw [hparameters] at ho
      cases ho
      cases isRegistration

/-- Whether the leader's interface, below the path of its address, receives what a call is about. -/
def Arrives (call : Call α) (tenant : String) (base : Url) (subject : Subject) (headers : Headers) :
    Prop :=
  ∃ r, (call.outbound base subject headers).received.below? base.mount = some r ∧
    call.OrderedBy tenant subject r

/-- Whether a call about a subject can be told by an address: the subject's name is kept, the
address has no parameter of the call's own, and the body is not too long. -/
structure Fits (call : Call α) (base : Url) (subject : Subject) : Prop where
  kept : subject.IsKept
  alone : ∀ p ∈ base.pairs, p.1 ≠ call.switch.1
  short : call.IsShort

/-- **A call arrives as it was made exactly if it fits.** The method and the switch always arrive,
so what can go wrong is the address and the length of the body. -/
theorem arrives_iff_fits (named : Subject.Named tenant subject)
    (whole : '#' ∉ base.query.getD []) :
    call.Arrives tenant base subject headers ↔ call.Fits base subject := by
  obtain ⟨raw, hraw⟩ := named
  obtain ⟨rfl, wellFormed⟩ := Subject.wellFormed_of_resolve hraw
  by_cases points : subject.rendered = "." ∨ subject.rendered = ".."
  · -- Neither side holds, since the name is left out of the address.
    constructor
    · rintro ⟨r, arrives, ordered⟩
      exact absurd ordered (not_orderedBy_of_points whole points arrives)
    · rintro ⟨kept, -, -⟩
      exact absurd points (not_or.mpr kept.stays)
  · rw [not_or] at points
    have step := Subject.isStep_rendered wellFormed points.1 points.2
    -- The request always arrives somewhere, so the question is only what it orders there.
    obtain ⟨query, hquery, pairs, arrives⟩ := call.exists_arrival_of_isStep whole step headers
    have ordered := orderedBy_arrival_iff call subject.tenant headers step hquery pairs
    rw [Subject.resolve_dropBreaks_iff wellFormed] at ordered
    constructor
    · rintro ⟨r, hr, horder⟩
      rw [arrives] at hr
      obtain rfl := Option.some.inj hr
      obtain ⟨alone, unbroken, short⟩ := ordered.mp horder
      exact ⟨⟨points, unbroken⟩, alone, short⟩
    · rintro ⟨kept, alone, short⟩
      exact ⟨_, arrives, ordered.mpr ⟨alone, kept.whole, short⟩⟩

end Call

end SchemaRegistry
