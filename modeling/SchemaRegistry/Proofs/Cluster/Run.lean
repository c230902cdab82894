import SchemaRegistry.Cluster.Run
import SchemaRegistry.Proofs.Cluster.Call
import SchemaRegistry.Proofs.Log.Ids
import SchemaRegistry.Proofs.Log.Tenants
/-!
# Runs of a registry

Every event keeps a cluster sound and takes nothing back, so after any run the log is a history that
every catalog follows. What holds of histories therefore holds of every registry, whatever it has
been asked, at whichever nodes, and whatever has gone wrong with its log.
-/

set_option autoImplicit false

namespace SchemaRegistry.Cluster

variable {α : Type} {c : Cluster} {log : List Entry}

/-! ## Events -/

/-- An event leads from one cluster to the other, in which nothing goes on. -/
structure Evolves (c c' : Cluster) : Prop where
  sound : ∃ log, c'.Sound log
  grows : c.Grows c'

theorem Sound.evolves_self (h : c.Sound log) : c.Evolves c where
  sound := ⟨log, h⟩
  grows := .refl c

theorem LeadsTo.settled {c' : Cluster} (h : c.LeadsTo c') : c.Evolves c'.settled := by
  obtain ⟨⟨log, k, hpending⟩, hgrows⟩ := h
  obtain ⟨hsound, hgrows'⟩ := hpending.finish
  exact ⟨hsound, hgrows.trans hgrows'⟩

/-- Who is told the answer does not matter to the cluster. -/
theorem snd_submit (c : Cluster) (i : Nat) (headers : Headers) (subject : Subject)
    (call : Call α) :
    (c.submit i headers subject call).2 =
      (submitWithin call headers c.elapsed c.nodes.length none c i subject).2 := by
  rw [submit, submitSince]
  generalize submitWithin call headers c.elapsed c.nodes.length none c i subject = answer
  obtain ⟨answer, c'⟩ := answer
  cases answer <;> rfl

/-- Whatever comes of a write, the cluster has gone forward by it, and nothing of the log is lost.
-/
theorem Sound.write (h : c.Sound log) (i : Nat) (headers : Headers) (name : String)
    (call : Call α) (patience : Option Nat) :
    c.Evolves (c.write i headers name call patience) := by
  rw [Cluster.write]
  cases hi : c.node? i with
  | none => exact h.evolves_self
  | some n =>
    dsimp only
    cases hresolve : n.resolve name with
    | error e => exact h.evolves_self
    | ok subject =>
      have admitted : ∀ {m}, c.node? i = some m → call.Admits m.settings.tenant subject := by
        intro m hm
        rw [hi] at hm
        cases hm
        exact call.admits_of_resolve hresolve
      cases patience with
      | none =>
        dsimp only
        rw [snd_submit]
        exact (h.submitWithin admitted headers _ _ _).settled
      | some patience => exact (h.submitWithin admitted headers _ _ _).settled

theorem Sound.sync (h : c.Sound log) (i : Nat) : c.Evolves (c.sync i).2 := by
  rw [Cluster.sync]
  cases hi : c.node? i with
  | none => exact h.evolves_self
  | some n =>
    have moved := Node.sync_moves h.history (h.follows hi)
    dsimp only
    rw [h.store]
    exact ⟨⟨log, h.set hi moved.advance (moved.errands.trans (h.errands hi))
      (moved.underWay.trans (h.idle hi)) rfl h.store⟩, .set hi moved.advance h.store rfl h.store⟩

/-- What a node is told by its operator changes neither its catalog nor its work. -/
theorem Sound.modify (h : c.Sound log) (i : Nat) {f : Node → Node}
    (catalog : ∀ n, (f n).catalog = n.catalog) (underWay : ∀ n, (f n).underWay = n.underWay)
    (errands : ∀ n, (f n).errands = n.errands) :
    c.Evolves { c with nodes := c.nodes.modify i f } := by
  -- Each node after the change comes from one that had the same catalog and the same work.
  have before : ∀ {j n}, (c.nodes.modify i f)[j]? = some n → ∃ m, c.node? j = some m ∧
      n.catalog = m.catalog ∧ n.underWay = m.underWay ∧ n.errands = m.errands := by
    intro j n hn
    rw [List.getElem?_modify, Option.map_eq_map, Option.map_eq_some_iff] at hn
    obtain ⟨m, hm, rfl⟩ := hn
    refine ⟨m, hm, ?_⟩
    split
    · exact ⟨catalog m, underWay m, errands m⟩
    · exact ⟨rfl, rfl, rfl⟩
  refine ⟨⟨log, ⟨h.store, h.history, fun hn => ?_, fun hn => ?_⟩, fun hn => ?_⟩, ?_⟩
  · obtain ⟨m, hm, hcatalog, -, -⟩ := before hn
    exact hcatalog ▸ h.follows hm
  · obtain ⟨m, hm, -, -, herrands⟩ := before hn
    exact herrands ▸ h.errands hm
  · obtain ⟨m, hm, -, hunder, -⟩ := before hn
    exact hunder ▸ h.idle hm
  · refine ⟨fun hlog => ⟨_, hlog, List.prefix_rfl⟩, fun {j m} hm => ?_⟩
    have hm' : c.nodes[j]? = some m := hm
    refine ⟨if i = j then f m else m, ?_, ?_⟩
    · rw [node?, List.getElem?_modify, hm']
      split <;> rfl
    · split
      · exact (congrArg Catalog.applied (catalog m)).ge
      · exact Nat.le_refl _

/-- One event keeps the cluster sound. -/
theorem Sound.step (h : c.Sound log) (event : Event) : c.Evolves (c.step event) := by
  cases event with
  | register i headers name candidate normalize patience =>
    exact h.write i headers name (.register candidate normalize) patience
  | delete i headers name permanent patience =>
    exact h.write i headers name (.delete permanent) patience
  | sync i => exact h.sync i
  | lead i leadership forwarder =>
    exact h.modify i (fun _ => rfl) (fun _ => rfl) (fun _ => rfl)
  | disturb i trouble nextReadFails =>
    exact h.modify i (fun _ => rfl) (fun _ => rfl) (fun _ => rfl)
  | tick now => exact ⟨⟨log, h.of_eq rfl rfl⟩, .of_eq rfl rfl⟩

/-! ## Runs -/

theorem run_append (c : Cluster) (events more : List Event) :
    c.run (events ++ more) = (c.run events).run more :=
  List.foldl_append

theorem Sound.run (h : c.Sound log) (events : List Event) : c.Evolves (c.run events) := by
  induction events generalizing c log with
  | nil => exact h.evolves_self
  | cons event rest ih =>
    obtain ⟨⟨log', hsound⟩, hgrows⟩ := h.step event
    obtain ⟨hsound', hgrows'⟩ := ih hsound
    exact ⟨hsound', hgrows.trans hgrows'⟩

/-- A new cluster has an empty log and nodes that have read none of it. -/
theorem sound_found (clock : Instant) (network : Outbound → Reply) (nodes : List Node) :
    (found clock network nodes).Sound [] := by
  have isFresh : ∀ {i n}, (found clock network nodes).node? i = some n →
      ∃ m : Node, n = m.fresh := by
    intro i n hn
    obtain ⟨m, -, hm⟩ := List.mem_map.mp (List.mem_of_getElem? hn)
    exact ⟨m, hm.symm⟩
  refine ⟨⟨rfl, .empty, fun hn => ?_, fun hn => ?_⟩, fun hn => ?_⟩
  all_goals obtain ⟨m, rfl⟩ := isFresh hn
  · exact Catalog.follows_empty []
  · rfl
  · rfl

/-- The log of a registry is a history, after any run. -/
theorem exists_history (clock : Instant) (network : Outbound → Reply) (nodes : List Node)
    (events : List Event) :
    ∃ log, ((found clock network nodes).run events).Sound log :=
  ((sound_found clock network nodes).run events).sound

/-- The history of versions. At any moment of a run of a registry and at any later moment, every
node's catalog follows the log as it then is, no catalog has gone back, and the log has only grown;
and over both logs the laws of versions hold in every catalog that follows them, those of the nodes
at both moments among them. A catalog that lags keeps a removed version until it comes to the entry
that removes it, and never has it again from there on. -/
theorem version_history (clock : Instant) (network : Outbound → Reply) (nodes : List Node)
    (events more : List Event) :
    ∃ log log', ((found clock network nodes).run events).store = .memory log ∧
      ((found clock network nodes).run (events ++ more)).store = .memory log' ∧
      log <+: log' ∧ VersionLaws log ∧ VersionLaws log' ∧
      ∀ {i n}, ((found clock network nodes).run events).node? i = some n →
        n.catalog.Follows log ∧ n.catalog.Follows log' ∧
        ∃ n', ((found clock network nodes).run (events ++ more)).node? i = some n' ∧
          n'.catalog.Follows log' ∧ n.catalog.applied ≤ n'.catalog.applied := by
  obtain ⟨log, hsound⟩ := exists_history clock network nodes events
  obtain ⟨⟨log', hsound'⟩, hgrows⟩ := hsound.run more
  rw [← run_append] at hsound' hgrows
  obtain ⟨log'', hstore, hgrown⟩ := hgrows.log hsound.store
  rw [hsound'.store] at hstore
  cases hstore
  refine ⟨log, log', hsound.store, hsound'.store, hgrown, hsound.history.versionLaws,
    hsound'.history.versionLaws, ?_⟩
  intro i n hn
  obtain ⟨n', hn', hle⟩ := hgrows.node hn
  exact ⟨hsound.follows hn, (hsound.follows hn).mono hgrown, n', hn', hsound'.follows hn', hle⟩

/-- References stay what they are. In the catalog of any prefix of the log of a registry, every
reference of every stored version, live or not, resolves under the tenant of that version to a
subject that stores the version it names; and what is stored there has the content that was stored
there when the version with the reference was registered. -/
theorem references_kept (clock : Instant) (network : Outbound → Reply) (nodes : List Node)
    (events : List Event) :
    ∃ log, ((found clock network nodes).run events).store = .memory log ∧
      ∀ {k : Nat} {row : Row} {r : Reference}, row ∈ (Catalog.ofEntries (log.take k)).rows →
        r ∈ row.version.references →
        ∃ target v, Subject.resolve row.version.subject.tenant r.subject = .ok target ∧
          (Catalog.ofEntries (log.take k)).get? target r.version = some v ∧
          ∃ p e w, p < k ∧ log[p]? = some e ∧ e.op = .register row.version.live ∧
            (Catalog.ofEntries (log.take p)).get? target r.version = some w ∧
            v.format = w.format ∧ v.text = w.text ∧ v.references = w.references ∧ v.id = w.id := by
  obtain ⟨log, hsound⟩ := exists_history clock network nodes events
  refine ⟨log, hsound.store, fun hrow hr => ?_⟩
  obtain ⟨target, v, hresolve, hv, p, e, w, hpk, hp, hop, hw, hlive⟩ :=
    hsound.history.exists_referenced hrow hr
  obtain ⟨-, -, hid, hformat, hreferences, htext⟩ := Version.content_of_live_eq hlive
  exact ⟨target, v, hresolve, hv, p, e, w, hpk, hp, hop, hw, hformat, htext, hreferences, hid⟩

/-- Ids belong to schemas. Over every prefix of the log of a registry the ids given out are those
from one to the highest, no id is ever given to two schemas of different raw fingerprints, and
versions stored together share their id exactly if they share the raw fingerprint, in whatever
subjects and tenants they are. -/
theorem global_ids (clock : Instant) (network : Outbound → Reply) (nodes : List Node)
    (events : List Event) :
    ∃ log, ((found clock network nodes).run events).store = .memory log ∧
      ∀ k, IdLaws (log.take k) := by
  obtain ⟨log, hsound⟩ := exists_history clock network nodes events
  exact ⟨log, hsound.store, fun k => (hsound.history.take k).idLaws⟩

/-- Tenants are apart, but for names that they share. Over the log of a registry a tenant reads of
its own subjects what it would read if the log held nothing but its own entries, and its deletions
come to the same, except that a permanent deletion is refused if a version of another tenant refers
to a subject of that tenant which has the same name and version. -/
theorem tenants_apart (clock : Instant) (network : Outbound → Reply) (nodes : List Node)
    (events : List Event) (tenant : String) :
    ∃ log, ((found clock network nodes).run events).store = .memory log ∧
      Apart tenant (.ofEntries (ofTenant tenant log)) (.ofEntries log) := by
  obtain ⟨log, hsound⟩ := exists_history clock network nodes events
  exact ⟨log, hsound.store, hsound.history.apart tenant⟩

/-- A registry of two leading nodes, one for the default tenant and one for `acme`. -/
def twoTenants : Cluster :=
  found default (fun _ => .unreachable) [{}, { settings := { tenant := "acme" } }]

/-- The subject `acme_orders` of the default tenant. -/
def acmeOrders : Subject :=
  { tenant := "default", context := ".", localName := "acme_orders" }

/-- Each tenant registers a subject that is written `acme_orders`. The one of `acme` is then used by
another subject of `acme`, and the one of the default tenant deleted for the first time. -/
def namesakes : List Event :=
  [.register 0 [] "acme_orders" { format := .protobuf, references := [], text := "a" } false none,
    .register 1 [] "orders" { format := .protobuf, references := [], text := "b" } false none,
    .register 1 [] "users"
      { format := .protobuf, references := [{ name := "Order", subject := "orders", version := 1 }]
        text := "c" } false none,
    .delete 0 [] "acme_orders" false none]

/-- The log of the registry after that. -/
def namesakeLog : List Entry :=
  let register (offset : Nat) (version : Version) : Entry :=
    { offset, op := .register version, appendedAt := default }
  [register 1
      { subject := acmeOrders, number := 1, id := 1, format := .protobuf, references := []
        text := "a", isDeleted := false },
    register 2
      { subject := ⟨"acme", ".", "orders"⟩, number := 1, id := 2, format := .protobuf
        references := [], text := "b", isDeleted := false },
    register 3
      { subject := ⟨"acme", ".", "users"⟩, number := 1, id := 3, format := .protobuf
        references := [{ name := "Order", subject := "acme_orders", version := 1 }]
        text := "c", isDeleted := false },
    { offset := 4, op := .softDelete acmeOrders [1], appendedAt := default }]

/-- The default tenant may not remove its subject for good, since `acme` uses one of that name. -/
theorem delete_refused_for_namesake :
    (twoTenants.run namesakes).store = .memory namesakeLog ∧
      Deletion.plan (.ofEntries namesakeLog) acmeOrders .permanent =
        .error (.referenceExists ("One or more references exist to the schema " ++
          r"{subject=acme_orders, version=1}, e.g. from " ++
          r"{subject=acme_users, version=1}")) ∧
      Deletion.plan (.ofEntries (ofTenant "default" namesakeLog)) acmeOrders .permanent =
        .ok (.permanentDelete acmeOrders [1],
          { subject := acmeOrders, mode := .permanent, versions := [1] }) :=
  ⟨by decide +kernel, by decide +kernel, by decide +kernel⟩

end SchemaRegistry.Cluster
