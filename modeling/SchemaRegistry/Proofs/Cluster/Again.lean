import SchemaRegistry.Proofs.Catalog.Again
import SchemaRegistry.Proofs.Http.Arrival
import SchemaRegistry.Proofs.Json.Members
/-!
# What a registry hands out can be looked up again

The answer to a lookup is a document that is also a body: of its six members a body has three, the
others are passed over, and what one side leaves out the other takes for granted. So an answer can
be sent back as it is, and then a node looks for the very version that it gave out, with references
that are resolved already. By `History.exists_find` it finds that version or an equal one in front
of it, unless one of the references is refused.

To register the answer again changes nothing. Every node on the way reads the same name under the
same tenant, and the one that plans comes to no operation, so the log is what it was, whoever leads
and whatever goes wrong.
-/

set_option autoImplicit false

namespace SchemaRegistry

open Json (Fields Need Shape)

/-! ## Answers as bodies -/

def SchemaBody.fields : Fields :=
  .cons "schema" .required .text <|
  .cons "schemaType" .omissible (.optional .text) <|
  .cons "references" .omissible (.list Reference.shape) .nil

namespace SchemaAnswer

def fields : Fields :=
  .cons "subject" .required .text <|
  .cons "version" .required (.word .u32) <|
  .cons "id" .required (.word .i64) <|
  .cons "schemaType" .omissible (.optional Format.shape) <|
  .cons "references" .omissible (.list Reference.shape) <|
  .cons "schema" .required .text .nil

/-- What an answer submits when it is taken for a body. -/
def body (a : SchemaAnswer) : SchemaBody :=
  { schema := a.schema, formatName := a.format.map Format.name, references := a.references }

theorem tree_toWire_format (format : Format) :
    Format.shape.tree format.toWire = .text format.name := by
  rcases format with _ | _ | _ <;> rfl

/-- The members of an answer say everything of its body. -/
theorem told (a : SchemaAnswer) :
    SchemaBody.fields.Told a.body.toWire (fields.members a.toWire) := by
  have texts : ∀ s, Json.IsSkipped (.text s) := Json.isSkipped_text
  have numbers : ∀ n, Json.IsSkipped (.number (.integer n)) := Json.isSkipped_integer
  obtain ⟨subject, number, id, format, references, schema⟩ := a
  -- The format and the references are members or are left out, each by itself.
  rcases format with _ | format <;> rcases references with _ | ⟨r, rs⟩ <;> constructor
  all_goals
    simp [fields, toWire, body, SchemaBody.toWire, SchemaBody.fields, Fields.members,
      Need.leavesOut, Shape.tree, Fields.Admits, Fields.Covers, texts, numbers, tree_toWire_format]
  -- It remains that a format that is left out is none.
  all_goals rfl

theorem ofDocument_octets_write (a : SchemaAnswer) :
    SchemaBody.shape.ofDocument (Text.octets (shape.write a.toWire)) = .ok a.body.toWire :=
  Shape.ofDocument_object (by decide) (by decide) a.told

/-- The answer that gives back a version submits it. -/
theorem candidate_body_ofVersion (v : Version) :
    (ofVersion v).body.candidate = .ok v.candidate := by
  have format : Format.ofRequest (ofVersion v).body.formatName = .ok v.format := by
    by_cases avro : v.format = .avro
    · simp only [body, ofVersion, avro, if_true]
      rfl
    · simp only [body, ofVersion, avro, if_false, Option.map_some, Format.ofRequest_name]
  rw [SchemaBody.candidate, format]
  rfl

end SchemaAnswer

/-! ## Looking up again -/

/-- What a node makes of a version that it has given out, when the answer comes back. -/
structure Node.TakesBack (n : Node) (v : Version) : Prop where
  /-- The answer is read as a body, and submits what the version is. -/
  body : ∃ body : SchemaBody, body.candidate = .ok v.candidate ∧
    SchemaBody.shape.ofDocument
      (Text.octets (SchemaAnswer.shape.write (SchemaAnswer.ofVersion v).toWire)) = .ok body.toWire
  /-- The name in the answer means the subject. -/
  named : n.resolve v.subject.rendered = .ok v.subject
  /-- The version is found, or an equal one in front of it, if no reference is refused. -/
  found : v.unnamed? = none → ∀ normalize includeDeleted : Bool,
    (includeDeleted || v.isLive) = true → ∃ w print,
      n.lookup v.subject v.candidate normalize includeDeleted = .ok w ∧ w.subject = v.subject ∧
      w.number ≤ v.number ∧ w.fingerprint (.ofNormalize normalize) = .ok print ∧
      v.fingerprint (.ofNormalize normalize) = .ok print
  /-- A reference that is refused is refused in every lookup, and is there for no tenant but one. -/
  refused : ∀ r, v.unnamed? = some r → v.subject.tenant = Subject.defaultTenant ∧
    ∀ normalize includeDeleted : Bool, n.lookup v.subject v.candidate normalize includeDeleted =
      .error (.invalidSchema s!"Reference '{r.name}' has an empty subject")

/-- A version that the node stores was found when it was registered, by the text and the references
that it still has. -/
theorem Node.takesBack {n : Node} {log : List Entry} (past : History log)
    (follows : n.catalog.Follows log) {row : Row} (hrow : row ∈ n.catalog.rows)
    (own : row.version.subject.tenant = n.settings.tenant) : n.TakesBack row.version := by
  -- The catalog of a node is that of the entries it has read, and these are a history as well.
  rw [follows.eq_ofEntries] at hrow
  have resolved := (past.take n.catalog.applied).resolveCandidate_again hrow
  rw [← follows.eq_ofEntries, own] at resolved
  refine ⟨?_, ?_, ?_, ?_⟩
  · exact ⟨_, SchemaAnswer.candidate_body_ofVersion row.version,
      SchemaAnswer.ofDocument_octets_write _⟩
  · rw [resolve, ← own, Subject.resolve_rendered ((past.take _).wellFormed hrow)]
    rfl
  · intro named normalize includeDeleted visible
    have stored : row.version ∈ (Catalog.ofEntries (log.take n.catalog.applied)).versions
        row.version.subject includeDeleted := by
      rw [Bool.or_eq_true] at visible
      exact Catalog.mem_versions_iff.mpr ⟨⟨row, hrow, rfl⟩, rfl, visible⟩
    obtain ⟨w, print, found, hw, notAbove, hprint, hown⟩ :=
      (past.take _).exists_find (.ofNormalize normalize) stored
    rw [← follows.eq_ofEntries] at found
    rw [named] at resolved
    refine ⟨w, print, ?_, (Catalog.mem_versions_iff.mp hw).2.1, notAbove, hprint, hown⟩
    simp only [lookup, resolved, found, Lookup.result]
  · intro r unnamed
    refine ⟨(past.take _).tenant_of_unnamed hrow unnamed, ?_⟩
    intro normalize includeDeleted
    rw [unnamed] at resolved
    simp only [lookup, resolved]
    rfl

/-! ## Calls that come to nothing -/

section

variable {α : Type} {n : Node} {log : List Entry} {subject : Subject} {call : Call α}

/-- The first half of a call that comes to nothing has no operation for the second. -/
theorem Node.plan_of_comesToNothing (past : History log) (follows : n.catalog.Follows log)
    (nothing : call.ComesToNothing n.settings.tenant subject (.ofEntries log)) :
    ∃ decision n', n.plan (.memory log) subject call = (decision, n') ∧ n.Moves log n' log ∧
      ∀ op answer, decision ≠ .ok { op := some op, answer } := by
  rcases hread : n.faults.beforePlan with _ | failure
  · refine ⟨planFor n.settings.tenant subject call (.ofEntries log),
      { n with catalog := .ofEntries log, nextReadFails := false }, ?_,
      ⟨.toEnd past follows List.prefix_rfl, rfl, rfl, rfl⟩, nothing⟩
    rw [plan, follows.planWrite_eq hread]
  · refine ⟨.error failure.error, { n with nextReadFails := false }, ?_,
      ⟨.refl past follows, rfl, rfl, rfl⟩, by simp⟩
    rw [plan, planWrite_of_fault hread]

/-- A call that comes to nothing leaves the log as it is. -/
theorem Node.perform_of_comesToNothing (past : History log) (follows : n.catalog.Follows log)
    (nothing : call.ComesToNothing n.settings.tenant subject (.ofEntries log)) (now : Instant) :
    ∃ outcome n', n.perform (.memory log) now subject call = (outcome, n', .memory log) ∧
      n.Moves log n' log := by
  have written := past.written follows (planFor n.settings.tenant subject call) n.faults now
  generalize hw : writeAsLeader (planFor n.settings.tenant subject call) n.faults now n.catalog
    (.memory log) = outcome at written
  obtain ⟨answer, c', s'⟩ := outcome
  have still : s' = .memory log ∧ Advance n.catalog log c' log := by
    cases written with
    | unread fault => exact ⟨rfl, .refl past follows⟩
    | refused read planned => exact ⟨rfl, .toEnd past follows List.prefix_rfl⟩
    | idle read planned => exact ⟨rfl, .toEnd past follows List.prefix_rfl⟩
    | unwritten read planned fault => exact absurd planned (nothing _ _)
    | appended read planned written caught => exact absurd planned (nothing _ _)
  obtain ⟨rfl, advance⟩ := still
  refine ⟨answer, { n with catalog := c', nextReadFails := false }, ?_, advance, rfl, rfl, rfl⟩
  rw [perform, hw]

end

namespace Cluster

variable {α : Type} {c : Cluster} {log : List Entry} {i : Nat} {tenant : String} {subject : Subject}
  {call : Call α}

/-- Whether a node of the tenant hands calls on to nodes of the tenant only. -/
def HandsOnWithin (c : Cluster) (tenant : String) : Prop :=
  ∀ {i k : Nat} {n m : Node}, c.node? i = some n → n.settings.tenant = tenant →
    n.forwarder = .direct k → c.node? k = some m → m.settings.tenant = tenant

/-- A node that has moved on over the log as it is. -/
theorem Sound.set_still {n n' : Node} (h : c.Sound log) (hi : c.node? i = some n)
    (moved : n.Moves log n' log) : (c.setNode i n').Sound log :=
  h.set hi moved.advance (moved.errands.trans (h.errands hi)) (moved.underWay.trans (h.idle hi)) rfl
    h.store

theorem Sound.waitUntil_still (h : c.Sound log) (time : Nat) : (c.waitUntil time).Sound log := by
  rw [waitUntil_eq_of_idle h.idle_of_mem]
  exact h.of_eq rfl rfl

theorem Sound.performSlowly_still {n : Node} (h : c.Sound log) (hi : c.node? i = some n)
    (nothing : call.ComesToNothing n.settings.tenant subject (.ofEntries log))
    (limit : Option Nat) : (c.performSlowly i subject call limit).2.Sound log := by
  obtain ⟨decision, n', hplan, moved, idle⟩ :=
    Node.plan_of_comesToNothing h.history (h.follows hi) nothing
  have here := h.idle hi
  simp only [Cluster.performSlowly, await_eq_of_idle h.idle_of_mem, hi, here, Option.isSome_none,
    h.store, hplan]
  rcases decision with e | ⟨_ | op, answer⟩
  · exact h.set_still hi moved
  · exact h.set_still hi moved
  · exact absurd rfl (idle op answer)

theorem Sound.performAt_still {n : Node} (h : c.Sound log) (hi : c.node? i = some n)
    (nothing : call.ComesToNothing n.settings.tenant subject (.ofEntries log))
    (limit : Option Nat) : (c.performAt i n subject call limit).2.Sound log := by
  unfold Cluster.performAt
  by_cases slow : n.trouble = some .slow
  · rw [if_pos slow]
    exact h.performSlowly_still hi nothing limit
  · obtain ⟨outcome, n', hperform, moved⟩ :=
      Node.perform_of_comesToNothing h.history (h.follows hi) nothing c.clock
    simp only [if_neg slow, h.store, hperform]
    exact (h.set_still hi moved).of_eq rfl h.store.symm

/-! ## On the way -/

/-- The same for one step of the way: the node does the call itself, hands it on, or refuses it. -/
theorem Sound.submitVia_still {onward : Onward α} (h : c.Sound log)
    (serves : ∀ {n}, c.node? i = some n → n.settings.tenant = tenant)
    (nothing : call.ComesToNothing tenant subject (.ofEntries log))
    (onwards : ∀ {n k}, c.node? i = some n → n.forwarder = .direct k → ∀ leaderUrl sooner,
      (onward leaderUrl sooner c k subject).2.Sound log)
    (headers : Headers) (entered : Nat) (limit : Option Nat) :
    (Cluster.submitVia onward call headers entered limit c i subject).2.Sound log := by
  unfold Cluster.submitVia
  rcases hi : c.node? i with _ | n
  · exact h
  · rw [← serves hi] at nothing
    rcases haccept : n.accept subject call with e | u
    · simp only [haccept]
      exact h
    · rcases hroute : n.believes.route with e | route
      · simp only [haccept, hroute]
        exact h
      · rcases route with _ | leaderUrl
        · simp only [haccept, hroute]
          exact h.performAt_still hi nothing limit
        · simp only [haccept, hroute]
          rcases hforwarder : n.forwarder with _ | k | _ | _
          · exact h
          · have further := onwards hi hforwarder leaderUrl
              ((limit.map (min (entered + n.settings.forwardTimeout))).getD
                (entered + n.settings.forwardTimeout))
            -- Who is told the answer does not matter to the cluster.
            dsimp only
            generalize onward leaderUrl _ c k subject = heard at further ⊢
            obtain ⟨answer, c'⟩ := heard
            rcases answer with _ | answer
            · exact further
            · exact further
          · exact h.waitUntil_still _
          · exact h

/-- The node that a call is handed on to serves the same tenant, so the name means the same there.
-/
theorem Sound.handOn_still {submit : Option Nat → Cluster → Nat → Subject → Heard α × Cluster}
    (h : c.Sound log) (named : Subject.resolve tenant subject.rendered = .ok subject) {k : Nat}
    (serves : ∀ {m}, c.node? k = some m → m.settings.tenant = tenant)
    (submits : ∀ {c' : Cluster} {limit : Option Nat}, c'.Sound log → c'.nodes = c.nodes →
      (submit limit c' k subject).2.Sound log)
    (headers : Headers) (leaderUrl : String) (sooner : Nat) :
    (Cluster.handOn submit call headers leaderUrl sooner c k subject).2.Sound log := by
  rw [Cluster.handOn]
  generalize hc' : ({ c with handovers := _ } : Cluster) = c'
  have nodes : c'.nodes = c.nodes := by rw [← hc']
  have sound : c'.Sound log := h.of_eq nodes (by rw [← hc'])
  rcases hk : c'.node? k with _ | target
  · exact sound
  · have there : c.node? k = some target := by rw [← hk, node?, node?, nodes]
    have read : target.resolve subject.rendered = .ok subject := by
      rw [Node.resolve, serves there, named]
      rfl
    simp only [Option.map_some, read]
    exact submits sound nodes

/-- A call that comes to no operation leaves the log as it is, wherever it is handed on to. -/
theorem Sound.submitWithin_still (h : c.Sound log) (within : c.HandsOnWithin tenant)
    (named : Subject.resolve tenant subject.rendered = .ok subject)
    (nothing : call.ComesToNothing tenant subject (.ofEntries log))
    (serves : ∀ {n}, c.node? i = some n → n.settings.tenant = tenant)
    (headers : Headers) (entered steps : Nat) (limit : Option Nat) :
    (Cluster.submitWithin call headers entered steps limit c i subject).2.Sound log := by
  induction steps generalizing c i limit with
  | zero =>
    apply h.submitVia_still serves nothing
    intro n k _ _ leaderUrl sooner
    exact h.waitUntil_still sooner
  | succ steps ih =>
    apply h.submitVia_still serves nothing
    intro n k hi hforwarder leaderUrl sooner
    have onward : ∀ {m}, c.node? k = some m → m.settings.tenant = tenant :=
      fun hk => within hi (serves hi) hforwarder hk
    apply h.handOn_still named onward
    intro c' limit sound nodes
    -- A handover is counted at the cluster, so its nodes are the same.
    have same : ∀ j, c'.node? j = c.node? j := fun j => by rw [node?, node?, nodes]
    apply ih sound
    · intro j k n m hj own direct hk
      rw [same] at hj hk
      exact within hj own direct hk
    · intro m hk
      rw [same] at hk
      exact onward hk

/-- A write by name that comes to nothing leaves the log as it is, whether its caller waits or not.
-/
theorem Sound.write_still (h : c.Sound log) (within : c.HandsOnWithin tenant)
    (named : Subject.resolve tenant subject.rendered = .ok subject)
    (nothing : call.ComesToNothing tenant subject (.ofEntries log))
    (serves : ∀ {n}, c.node? i = some n → n.settings.tenant = tenant)
    (headers : Headers) (patience : Option Nat) :
    (c.write i headers subject.rendered call patience).Sound log := by
  have settled : ∀ {c' : Cluster}, c'.Sound log → c'.settled.Sound log := by
    intro c' sound
    rw [Cluster.settled, await_eq_of_idle sound.idle_of_mem]
    exact sound
  have submitted :=
    h.submitWithin_still within named nothing serves headers c.elapsed c.nodes.length
  unfold Cluster.write
  rcases hi : c.node? i with _ | n
  · exact h
  · have read : n.resolve subject.rendered = .ok subject := by
      rw [Node.resolve, serves hi, named]
      rfl
    rcases patience with _ | patience
    · simp only [read, snd_submit]
      exact settled (submitted none)
    · simp only [read]
      exact settled (submitted _)

/-! ## Runs -/

/-- **What a registry hands out can be looked up again.** After any run of a registry, and for any
version that a node has read of its own tenant, live or deleted, the answer that gives the version
out is read as a body, and looking that up under the name in the answer finds the version, or an
equal one of its subject with a smaller number. This is so for normalized and for raw schemas, and
whatever else has been deleted or registered since, but for one case: where a reference is to a
subject whose name has nothing but blanks, which only the default tenant has, every such lookup is
refused. Registering the body while the version is live appends nothing, in this case too, as long
as the nodes of the tenant hand their calls on to one another only. -/
theorem found_again (clock : Instant) (network : Outbound → Reply) (nodes : List Node)
    (events : List Event) :
    ∃ log, ((found clock network nodes).run events).store = .memory log ∧
      ∀ {i : Nat} {n : Node}, ((found clock network nodes).run events).node? i = some n →
        n.catalog.Follows log ∧
        (∀ row ∈ n.catalog.rows, row.version.subject.tenant = n.settings.tenant →
          n.TakesBack row.version) ∧
        (((found clock network nodes).run events).HandsOnWithin n.settings.tenant →
          ∀ row ∈ (Catalog.ofEntries log).rows, row.version.subject.tenant = n.settings.tenant →
            row.version.isLive = true → ∀ headers normalize patience,
              (((found clock network nodes).run events).step (.register i headers
                row.version.subject.rendered row.version.candidate normalize patience)).store =
                  .memory log) := by
  obtain ⟨log, sound⟩ := exists_history clock network nodes events
  refine ⟨log, sound.store, ?_⟩
  intro i n hn
  have follows := sound.follows hn
  refine ⟨follows, ?_, ?_⟩
  · intro row hrow own
    exact Node.takesBack sound.history follows hrow own
  · intro within row hrow own live headers normalize patience
    -- The rendered name of a stored subject is read as the subject itself.
    have named : Subject.resolve n.settings.tenant row.version.subject.rendered =
        .ok row.version.subject := by
      rw [← own]
      exact Subject.resolve_rendered (sound.history.wellFormed hrow)
    have nothing := sound.history.comesToNothing hrow live normalize
    rw [own] at nothing
    refine (sound.write_still within named nothing ?_ headers patience).store
    intro m hm
    rw [hn] at hm
    rw [← Option.some.inj hm]

/-- A leading node on its own, which serves the default tenant. -/
def loneLeader : Cluster :=
  found default (fun _ => .unreachable) [{}]

/-- The subject `users` is registered with a reference to `orders`, and then `orders` is deleted for
the first time. -/
def usersOfOrders : List Event :=
  [.register 0 [] "orders" { format := .avro, references := [], text := "\"string\"" } false none,
    .register 0 [] "users"
      { format := .avro, references := [{ name := "Order", subject := ":.:orders", version := 1 }]
        text := "\"long\"" } false none,
    .delete 0 [] "orders" false none]

/-- The version of `users` after that. -/
def usersVersion : Version :=
  { subject := ⟨"default", ".", "users"⟩, number := 1, id := 2, format := .avro
    references := [{ name := "Order", subject := "orders", version := 1 }], text := "\"long\""
    isDeleted := false }

theorem found_again_usersOfOrders :
    ∃ n, (loneLeader.run usersOfOrders).node? 0 = some n ∧ n.TakesBack usersVersion ∧
      (∃ w, n.lookup usersVersion.subject usersVersion.candidate true false = .ok w ∧
        w.number ≤ 1) ∧
      ((loneLeader.run usersOfOrders).step
          (.register 0 [] "users" usersVersion.candidate false none)).store =
        (loneLeader.run usersOfOrders).store := by
  have state : ((loneLeader.run usersOfOrders).node? 0).map (fun n =>
      (n.settings.tenant, (loneLeader.run usersOfOrders).store.readAfter n.catalog.applied,
        (n.catalog.rows.map Row.version).contains usersVersion)) =
      some ("default", .ok [], true) := by
    decide +kernel
  have alone : (loneLeader.run usersOfOrders).nodes.map Node.forwarder = [.none] := by
    decide +kernel
  have within : ∀ tenant, (loneLeader.run usersOfOrders).HandsOnWithin tenant := by
    intro tenant j k m l hj _ direct _
    have mem : m.forwarder ∈ (loneLeader.run usersOfOrders).nodes.map Node.forwarder :=
      List.mem_map_of_mem (List.mem_of_getElem? hj)
    rw [alone, direct] at mem
    simp at mem
  obtain ⟨n, hn, facts⟩ := Option.map_eq_some_iff.mp state
  simp only [Prod.mk.injEq, List.contains_iff_mem, List.mem_map] at facts
  obtain ⟨tenant, caughtUp, row, hrow, version⟩ := facts
  have own : row.version.subject.tenant = n.settings.tenant := by
    rw [version, tenant]
    rfl
  unfold loneLeader at hn caughtUp within ⊢
  obtain ⟨log, hstore, found⟩ := found_again default (fun _ => .unreachable) [{}] usersOfOrders
  obtain ⟨follows, lookups, registrations⟩ := found hn
  -- Nothing is behind what the node has read, so it has the rows of the whole log.
  have whole : n.catalog = .ofEntries log := follows.eq_of_readAfter (hstore ▸ caughtUp)
  have takesBack := lookups row hrow own
  rw [whole] at hrow
  have still := registrations (within n.settings.tenant) row hrow own
  rw [version] at takesBack still
  refine ⟨n, hn, takesBack, ?_, ?_⟩
  · obtain ⟨w, print, found, -, notAbove, -⟩ := takesBack.found (by decide) true false (by decide)
    exact ⟨w, found, notAbove⟩
  · rw [hstore]
    exact still (by decide) [] false none

/-- The subject `users` is registered with a reference to a subject whose name is a blank. -/
def usersOfBlank : List Event :=
  [.register 0 [] " " { format := .avro, references := [], text := "\"string\"" } false none,
    .register 0 [] "users"
      { format := .avro, references := [{ name := "n", subject := ":.: ", version := 1 }]
        text := "\"long\"" } false none]

/-- The version of `users` after that. -/
def usersOfBlankVersion : Version :=
  { usersVersion with references := [{ name := "n", subject := " ", version := 1 }] }

/-- The answer that gives the version out is read, and a lookup of what it submits is refused, at a
node that has read the whole log. -/
theorem not_found_again :
    ∃ n, (loneLeader.run usersOfBlank).node? 0 = some n ∧
      (loneLeader.run usersOfBlank).store.readAfter n.catalog.applied = .ok [] ∧
      n.catalog.get? usersOfBlankVersion.subject 1 = some usersOfBlankVersion ∧
      (∃ body : SchemaBody, body.candidate = .ok usersOfBlankVersion.candidate ∧
        SchemaBody.shape.ofDocument (Text.octets (SchemaAnswer.shape.write
          (SchemaAnswer.ofVersion usersOfBlankVersion).toWire)) = .ok body.toWire) ∧
      n.resolve usersOfBlankVersion.subject.rendered = .ok usersOfBlankVersion.subject ∧
      n.lookup usersOfBlankVersion.subject usersOfBlankVersion.candidate false true =
        .error (.invalidSchema "Reference 'n' has an empty subject") := by
  have state : ((loneLeader.run usersOfBlank).node? 0).map (fun n =>
      ((loneLeader.run usersOfBlank).store.readAfter n.catalog.applied,
        n.catalog.get? usersOfBlankVersion.subject 1,
        n.resolve usersOfBlankVersion.subject.rendered,
        n.lookup usersOfBlankVersion.subject usersOfBlankVersion.candidate false true)) =
      some (.ok [], some usersOfBlankVersion, .ok usersOfBlankVersion.subject,
        .error (.invalidSchema "Reference 'n' has an empty subject")) := by
    decide +kernel
  obtain ⟨n, hn, facts⟩ := Option.map_eq_some_iff.mp state
  simp only [Prod.mk.injEq] at facts
  obtain ⟨caughtUp, stored, named, refused⟩ := facts
  refine ⟨n, hn, caughtUp, stored, ?_, named, refused⟩
  exact ⟨_, SchemaAnswer.candidate_body_ofVersion _, SchemaAnswer.ofDocument_octets_write _⟩

end Cluster

end SchemaRegistry
