import SchemaRegistry.Proofs.Http.Arrival
/-!
# Forwarded calls are made

A call that arrives is made by the leader as if it had been asked itself, and what is answered is
read back as the outcome. A call that does not arrive comes to an error, unless the name of the
subject was lost on the way; then something else may have been asked for and done
(`Call.forwarded_astray`).
-/

set_option autoImplicit false

namespace SchemaRegistry

theorem Error.not_isSuccess (e : Error) : Status.isSuccess e.status = false := by
  cases e <;> rfl

namespace Call

variable {α : Type}

/-! ## The way back -/

/-- The document that answers a call. -/
def answerTree : Call α → α → Json
  | .delete _ => (Json.Shape.list (.word .u32)).tree
  | .register .. => fun registered => Registered.shape.tree registered.toWire

variable {call : Call α} {base : Url} {subject : Subject} {headers : Headers}

/-- A call that is ordered is made. -/
theorem serve_of_orderedBy {c : Cluster} {i : Nat} {n : Node} {r : Request}
    (hn : c.node? i = some n) (shows : r.method ≠ "HEAD")
    (ordered : call.OrderedBy n.settings.tenant subject r) :
    c.serve i r =
      let (outcome, c) := c.submit i (r.carried n.settings.whitelist) subject call
      (.ofOutcome call.answerTree outcome, c) := by
  obtain ⟨o, ho, does, resolved, isOn, candidate⟩ := ordered
  have named : n.resolve o.subject = .ok subject := by
    rw [Node.resolve, resolved]
    rfl
  rw [Cluster.serve, hn]
  simp only [ho, Cluster.shown, if_neg shows, Cluster.answer, does]
  rcases call with permanent | ⟨sent, normalize⟩
  · have on : o.isOn "permanent" = permanent := isOn
    simp only [action, Cluster.answerDelete, named, on]
    rfl
  · have on : o.isOn "normalize" = normalize := isOn
    simp only [action, Cluster.answerRegister, named, candidate sent rfl, on]
    rfl

/-- An answer is read back as the outcome, an error by its number. -/
theorem answered_ofOutcome (call : Call α) (subject : Subject) (outcome : Except Error α) :
    call.answered subject (Answer.ofOutcome call.answerTree outcome).status
        (Text.octets (Answer.ofOutcome call.answerTree outcome).body) =
      outcome.mapError fun e => .ofCode e.code e.message subject.rendered := by
  rcases outcome with e | answer
  · -- The status says that the body is a report, and the report holds all that is made of it.
    have failed : Status.isSuccess (Answer.ofOutcome call.answerTree (.error e)).status = false :=
      e.not_isSuccess
    have reported : ErrorBody.shape.ofDocument
        (Text.octets (Answer.ofOutcome call.answerTree (.error e)).body) =
          .ok (ErrorBody.ofError e).toWire :=
      Json.Shape.ofDocument_octets_write (by decide) (by decide) _
    rw [answered, failed]
    simp only [Bool.false_eq_true, if_false, reported]
    rfl
  · -- Each of the two answers has a shape of its own, and what is written in a shape is read back.
    have decoded : call.decode (Text.octets (Answer.ofOutcome call.answerTree (.ok answer)).body) =
        some answer := by
      rcases call with permanent | ⟨candidate, normalize⟩
      · have read : (Json.Shape.list (.word .u32)).ofDocument
            (Text.octets ((Json.Shape.list (.word .u32)).write answer)) = .ok answer :=
          Json.Shape.ofDocument_octets_write (by decide) (by decide) _
        exact congrArg Except.toOption read
      · have read : Registered.shape.ofDocument
            (Text.octets (Registered.shape.write answer.toWire)) = .ok answer.toWire :=
          Json.Shape.ofDocument_octets_write (by decide) (by decide) _
        exact congrArg (fun outcome => outcome.toOption.map Registered.ofWire) read
    have succeeded :
        Status.isSuccess (Answer.ofOutcome call.answerTree (.ok answer)).status = true := rfl
    rw [answered, if_pos succeeded]
    simp only [decoded]
    rfl

/-- What follows from a call that was sent and came to an answer. -/
theorem outcome_eq_of_send {network : Outbound → Reply} {leaderUrl : String} {answer : α}
    (parsed : Url.parse leaderUrl = .ok base)
    (h : call.send network leaderUrl subject headers = .ok answer) :
    call.outcome subject (call.outbound base subject headers).url
      (network (call.outbound base subject headers)) = .ok answer := by
  rw [send, leaderBase, parsed] at h
  dsimp only at h
  split at h
  · cases h
  · split at h
    · cases h
    · split at h
      · cases h
      · exact h

/-- A call that arrives is made at the leader, and what is answered is what it comes to there. -/
theorem receive_of_arrives {c : Cluster} {i : Nat} {n : Node} (hn : c.node? i = some n)
    (arrives : call.Arrives n.settings.tenant base subject headers) :
    ∃ carried,
      (c.receive i base.mount (call.outbound base subject headers)).2 =
        (c.submit i carried subject call).2 ∧
      call.outcome subject (call.outbound base subject headers).url
          (c.receive i base.mount (call.outbound base subject headers)).1 =
        (c.submit i carried subject call).1.mapError
          fun e => .ofCode e.code e.message subject.rendered := by
  obtain ⟨r, hr, ordered⟩ := arrives
  have shows : r.method ≠ "HEAD" := by
    rw [Request.below?, Option.map_eq_some_iff] at hr
    obtain ⟨target, -, rfl⟩ := hr
    rcases call with permanent | ⟨candidate, normalize⟩
    · exact (by decide : "DELETE" ≠ "HEAD")
    · exact (by decide : "POST" ≠ "HEAD")
  have served := serve_of_orderedBy hn shows ordered
  refine ⟨r.carried n.settings.whitelist, ?_, ?_⟩
  · rw [Cluster.receive, hr]
    simp only [served]
  · rw [Cluster.receive, hr]
    simp only [served]
    exact answered_ofOutcome call subject _

theorem status_shown (r : Request) (a : Answer) : (Cluster.shown r a).status = a.status := by
  rw [Cluster.shown]
  split <;> rfl

section

variable {c : Cluster} {i : Nat} {n : Node} {r : Request}

/-- The status of an answer to a request that is not understood. -/
theorem status_serve_of_not_understood (hn : c.node? i = some n) {a : Answer}
    (h : Order.ofRequest r = .error a) : (c.serve i r).1.status = a.status := by
  rw [Cluster.serve, hn]
  simp only [h, status_shown]

/-- The status of an answer to a registration whose body is refused. -/
theorem status_serve_of_refused (hn : c.node? i = some n) {o : Order} {e : Error}
    (h : Order.ofRequest r = .ok o) (does : o.action = .register)
    (means : n.resolve o.subject = .ok subject) (refused : r.candidate = .error e) :
    (c.serve i r).1.status = e.status := by
  rw [Cluster.serve, hn]
  simp only [h, status_shown, Cluster.answer, does, Cluster.answerRegister, means, refused]
  rfl

end

theorem exists_error_of_failure {status : Nat} (h : Status.isSuccess status = false) (call : Call α)
    (subject : Subject) (body : Octets) : ∃ e, call.answered subject status body = .error e := by
  rw [answered, h]
  simp only [Bool.false_eq_true, if_false]
  split <;> exact ⟨_, rfl⟩

/-- A call that does not arrive though the name is kept comes to an error. -/
theorem exists_error_of_not_fits {c : Cluster} {i : Nat} {n : Node} (hn : c.node? i = some n)
    (named : Subject.Named n.settings.tenant subject) (whole : '#' ∉ base.query.getD [])
    (kept : subject.IsKept) (unfit : ¬ call.Fits base subject) :
    ∃ e, call.outcome subject (call.outbound base subject headers).url
      (c.receive i base.mount (call.outbound base subject headers)).1 = .error e := by
  obtain ⟨raw, hraw⟩ := named
  obtain ⟨tenant, wellFormed⟩ := Subject.wellFormed_of_resolve hraw
  have step := Subject.isStep_rendered wellFormed kept.stays.1 kept.stays.2
  obtain ⟨query, hquery, pairs, arrives⟩ := call.exists_arrival_of_isStep whole step headers
  have ordered := ofRequest_arrival call base headers step hquery
  rw [pairs] at ordered
  rw [Cluster.receive, arrives]
  refine exists_error_of_failure ?_ call subject _
  rcases Query.check_switch_cases call.switch.1 base.pairs call.switch.2 with
    ⟨apart, read⟩ | ⟨-, flaw, refused⟩
  · -- The name arrives and the parameters are understood, so the body must be what is too long, and
    -- only a registration has one.
    have long : ¬ call.IsShort := fun short => unfit ⟨kept, apart, short⟩
    rw [read] at ordered
    rcases call with permanent | ⟨candidate, normalize⟩
    · exact absurd (isShort_delete permanent) long
    · have means : n.resolve (String.ofList (Url.dropBreaks subject.rendered.toList)) =
          .ok subject := by
        rw [Node.resolve, ← tenant, (Subject.resolve_dropBreaks_iff wellFormed).mpr kept.whole]
        rfl
      have refused := candidate_arrival candidate normalize base subject headers
      simp only [if_neg long] at refused
      rw [status_serve_of_refused hn ordered rfl means (refused _)]
      rfl
  · -- A parameter given twice is refused by the leader before it does anything.
    rw [refused] at ordered
    rw [status_serve_of_not_understood hn ordered]
    rfl

/-- **A forwarded call is made.** Whatever the tenant, the subject and the leader's address are, the
request that carries a call is received by the leader's interface as the same operation on the same
subject with the same arguments, exactly if the call fits the address. Then the leader makes the
call, and an error comes back by its number. As long as the name of the subject is kept, the one who
forwards is answered only what the leader has answered to the call. -/
theorem forwarded (call : Call α) {tenant leaderUrl : String} {base : Url} {subject : Subject}
    (named : Subject.Named tenant subject) (parsed : Url.parse leaderUrl = .ok base)
    (headers : Headers) :
    (call.Arrives tenant base subject headers ↔ call.Fits base subject) ∧
      ∀ (c : Cluster) (i : Nat) (n : Node), c.node? i = some n → n.settings.tenant = tenant →
        (call.Fits base subject → ∃ carried,
          (c.receive i base.mount (call.outbound base subject headers)).2 =
            (c.submit i carried subject call).2 ∧
          call.outcome subject (call.outbound base subject headers).url
              (c.receive i base.mount (call.outbound base subject headers)).1 =
            (c.submit i carried subject call).1.mapError
              fun e => .ofCode e.code e.message subject.rendered) ∧
        (subject.IsKept → ∀ answer,
          call.send (fun o => (c.receive i base.mount o).1) leaderUrl subject headers = .ok answer →
            ∃ carried, c.submit i carried subject call =
              (.ok answer, (c.receive i base.mount (call.outbound base subject headers)).2)) := by
  have whole := Url.notMem_query_of_parse parsed
  refine ⟨arrives_iff_fits named whole, ?_⟩
  rintro c i n hn rfl
  have arrives : call.Fits base subject → call.Arrives n.settings.tenant base subject headers :=
    (arrives_iff_fits named whole).mpr
  have made := fun fits : call.Fits base subject => receive_of_arrives hn (arrives fits)
  refine ⟨made, ?_⟩
  intro kept answer sent
  have answered := outcome_eq_of_send parsed sent
  by_cases fits : call.Fits base subject
  · obtain ⟨carried, after, outcome⟩ := made fits
    refine ⟨carried, ?_⟩
    -- An error stays one under another number, so a success has been one all the way.
    rw [outcome] at answered
    rcases hmade : c.submit i carried subject call with ⟨e | given, c'⟩
    · rw [hmade] at answered
      cases answered
    · rw [hmade] at answered after
      cases answered
      rw [after]
  · obtain ⟨e, failed⟩ := exists_error_of_not_fits hn named whole kept fits
    rw [failed] at answered
    cases answered

/-- The address of a leader whose interface is below a path. -/
def registryUrl : Url :=
  { scheme := "http".toList, authority := some "[::1]:8081".toList, guarded := false
    segments := ["registry".toList, []], query := none, fragment := none }

/-- A subject with a slash, a percent sign and a space in its name. -/
def orders : Subject :=
  { tenant := "acme", context := ".prod", localName := "orders/v1 100%" }

/-- A registration of a schema. -/
def submission : Call Registered :=
  .register { format := .protobuf, references := [], text := "a" } false

/-- A leader with an empty log. -/
def lone : Cluster :=
  { store := .memory [], nodes := [{ settings := { tenant := "acme" } }], clock := default }

theorem forwarded_orders :
    Subject.Named "acme" orders ∧ Url.parse "http://[::1]:8081/registry/" = .ok registryUrl ∧
      submission.Arrives "acme" registryUrl orders [] ∧
      ∃ carried, (lone.submit 0 carried orders submission).1 = .ok { id := 1, number := 1 } := by
  have named : Subject.Named "acme" orders := ⟨":.prod:orders/v1 100%", rfl⟩
  have parsed : Url.parse "http://[::1]:8081/registry/" = .ok registryUrl := rfl
  have fits : submission.Fits registryUrl orders := ⟨⟨by decide, by decide⟩, by decide, by decide⟩
  obtain ⟨arrival, made⟩ := forwarded submission named parsed []
  refine ⟨named, parsed, arrival.mpr fits, ?_⟩
  have answer : (submission.send (fun o => (lone.receive 0 registryUrl.mount o).1)
      "http://[::1]:8081/registry/" orders []).toOption = some { id := 1, number := 1 } := by
    decide +kernel
  rcases sent : submission.send (fun o => (lone.receive 0 registryUrl.mount o).1)
      "http://[::1]:8081/registry/" orders [] with e | registered
  · rw [sent] at answer
    cases answer
  · rw [sent] at answer
    obtain rfl : registered = { id := 1, number := 1 } := Option.some.inj answer
    obtain ⟨carried, submitted⟩ := (made lone 0 _ rfl rfl).2 fits.kept _ sent
    exact ⟨carried, congrArg Prod.fst submitted⟩

/-- The address of a leader whose interface is not below a path. -/
def bareUrl : Url :=
  { registryUrl with segments := [[]] }

/-- The subject whose name is a point. -/
def point : Subject :=
  { tenant := "default", context := ".", localName := "." }

/-- A leader at which one version of a subject of the name `versions` is registered. -/
def misled : Cluster :=
  let v : Version :=
    { subject := { point with localName := "versions" }, number := 1, id := 1, format := .protobuf
      references := [], text := "a", isDeleted := false }
  let log : List Entry := [{ offset := 1, op := .register v, appendedAt := default }]
  { store := .memory log, nodes := [{ catalog := .ofEntries log }], clock := default }

/-- A registration for the subject whose name is a point comes to the leader as a lookup, and the
caller is told of a version of another subject. -/
theorem forwarded_astray :
    Subject.Named "default" point ∧ Url.parse "http://[::1]:8081" = .ok bareUrl ∧
      ¬ submission.Arrives "default" bareUrl point [] ∧
      (submission.send (fun o => (misled.receive 0 bareUrl.mount o).1) "http://[::1]:8081" point
        []).toOption = some { id := 1, number := 1 } ∧
      (misled.receive 0 bareUrl.mount (submission.outbound bareUrl point [])).2.store =
        misled.store := by
  refine ⟨⟨".", rfl⟩, rfl, ?_, by decide +kernel, by decide +kernel⟩
  rintro ⟨r, arrives, ordered⟩
  exact not_orderedBy_of_points (by decide) (by decide) arrives ordered

end Call

end SchemaRegistry
