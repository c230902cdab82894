import SchemaRegistry.Proofs.Catalog.Refusal
import SchemaRegistry.Proofs.Cluster.Run
/-!
# What a lookup can come to

A lookup has four outcomes, and each is there for one reason only: the candidate is refused, the
subject has no versions to look through, a version is equal, or none is. The reasons exclude each
other in that order, and they are about the catalog of the node that is asked, however far it lags.
There is a fifth outcome in the code, for a stored version that cannot be read. It is never reached:
what a registry has registered could be read when it was planned, in one fidelity, and so it can be
read in both, at any time.
-/

set_option autoImplicit false

namespace SchemaRegistry

/-! ## Lookups at a node -/

/-- Whether the version is the lowest of the subject's that has the fingerprint, deleted ones
counted or not. -/
structure Catalog.Lowest (c : Catalog) (subject : Subject) (includeDeleted : Bool) (f : Fidelity)
    (wanted : Except Error Fingerprint) (v : Version) : Prop where
  mem : v ∈ c.versions subject includeDeleted
  has : v.fingerprint f = wanted
  lowest : ∀ w ∈ c.versions subject includeDeleted, w.number < v.number → w.fingerprint f ≠ wanted

theorem Catalog.Lowest.unique {c : Catalog} (sorted : c.Sorted) {subject : Subject}
    {includeDeleted : Bool} {f : Fidelity} {wanted : Except Error Fingerprint} {v w : Version}
    (hv : c.Lowest subject includeDeleted f wanted v)
    (hw : c.Lowest subject includeDeleted f wanted w) : v = w := by
  have notBelow : ¬ w.number < v.number := fun lt => hv.lowest w hw.mem lt hw.has
  have notAbove : ¬ v.number < w.number := fun lt => hw.lowest v hv.mem lt hv.has
  have number : v.number = w.number :=
    UInt32.le_antisymm (UInt32.not_lt.mp notBelow) (UInt32.not_lt.mp notAbove)
  obtain ⟨⟨a, ha, rfl⟩, hsubject, -⟩ := mem_versions_iff.mp hv.mem
  obtain ⟨⟨b, hb, rfl⟩, hsubject', -⟩ := mem_versions_iff.mp hw.mem
  have key : a.version.key = b.version.key :=
    Version.key_eq_iff.mpr ⟨hsubject.trans hsubject'.symm, number⟩
  rw [sorted.eq_of_key ha hb key]

namespace Node

/-- What a lookup comes to, and why. -/
inductive Looked (n : Node) (subject : Subject) (candidate : Candidate) (f : Fidelity)
    (includeDeleted : Bool) : Except Error Version → Prop
  | refused {message : String} (refused : n.catalog.Refuses n.settings.tenant candidate f) :
      Looked n subject candidate f includeDeleted (.error (.invalidSchema message))
  | noSubject (taken : ¬ n.catalog.Refuses n.settings.tenant candidate f)
      (none : n.catalog.versions subject includeDeleted = []) :
      Looked n subject candidate f includeDeleted (.error (.subjectNotFound subject.rendered))
  | found {v : Version} (taken : ¬ n.catalog.Refuses n.settings.tenant candidate f)
      (lowest : n.catalog.Lowest subject includeDeleted f
        ((candidate.renamed n.settings.tenant).fingerprint f) v) :
      Looked n subject candidate f includeDeleted (.ok v)
  | noMatch (taken : ¬ n.catalog.Refuses n.settings.tenant candidate f)
      (some : n.catalog.versions subject includeDeleted ≠ [])
      (differ : ∀ v ∈ n.catalog.versions subject includeDeleted,
        v.fingerprint f ≠ (candidate.renamed n.settings.tenant).fingerprint f) :
      Looked n subject candidate f includeDeleted (.error .schemaNotFound)

variable {n : Node} {log : List Entry}

theorem looked (past : History log) (follows : n.catalog.Follows log) (subject : Subject)
    (candidate : Candidate) (normalize includeDeleted : Bool) :
    n.Looked subject candidate (.ofNormalize normalize) includeDeleted
      (n.lookup subject candidate normalize includeDeleted) := by
  have readable : n.catalog.Readable := follows.eq_ofEntries ▸ (past.take _).readable
  have faithful : n.catalog.Faithful := follows.eq_ofEntries ▸ Catalog.faithful_ofEntries _
  have sorted : n.catalog.Sorted := follows.eq_ofEntries ▸ Catalog.sorted_ofEntries _
  have searches := faithful.searches sorted
  generalize hf : Fidelity.ofNormalize normalize = f
  rw [lookup, hf]
  -- What the search says is put in words of the versions; that all of them can be read leaves no
  -- further case.
  cases readable.sought searches n.settings.tenant subject candidate f includeDeleted with
  | unresolved refused failed =>
    rw [failed]
    exact .refused refused
  | unread refused resolved failed =>
    rw [resolved]
    dsimp only
    rw [failed]
    exact .refused refused
  | ended taken resolved has search =>
    rename_i found
    rw [resolved]
    dsimp only
    rw [search]
    cases found with
    | noSubject =>
      obtain ⟨-, -, none⟩ := (searches.noSubject subject _ f includeDeleted).mp search
      exact .noSubject taken none
    | noMatch =>
      obtain ⟨wanted, hwanted, some, differ⟩ :=
        (searches.noMatch subject _ f includeDeleted).mp search
      refine .noMatch taken some fun v hv => ?_
      obtain ⟨print, hprint, different⟩ := differ v hv
      rw [hprint, hwanted]
      exact fun same => different (Except.ok.inj same)
    | found v =>
      obtain ⟨hv, wanted, hwanted, same, first⟩ := Catalog.first_of_find faithful sorted search
      exact .found taken ⟨hv, same.trans hwanted.symm, hwanted ▸ first⟩

/-- When a lookup comes to each of its outcomes, of which there are no others. -/
structure LookupLaws (n : Node) (subject : Subject) (candidate : Candidate)
    (normalize includeDeleted : Bool) : Prop where
  invalidSchema :
    (∃ message, n.lookup subject candidate normalize includeDeleted =
        .error (.invalidSchema message)) ↔
      n.catalog.Refuses n.settings.tenant candidate (.ofNormalize normalize)
  subjectNotFound :
    n.lookup subject candidate normalize includeDeleted =
        .error (.subjectNotFound subject.rendered) ↔
      ¬ n.catalog.Refuses n.settings.tenant candidate (.ofNormalize normalize) ∧
        n.catalog.versions subject includeDeleted = []
  found : ∀ v, n.lookup subject candidate normalize includeDeleted = .ok v ↔
    ¬ n.catalog.Refuses n.settings.tenant candidate (.ofNormalize normalize) ∧
      n.catalog.Lowest subject includeDeleted (.ofNormalize normalize)
        ((candidate.renamed n.settings.tenant).fingerprint (.ofNormalize normalize)) v
  schemaNotFound :
    n.lookup subject candidate normalize includeDeleted = .error .schemaNotFound ↔
      ¬ n.catalog.Refuses n.settings.tenant candidate (.ofNormalize normalize) ∧
        n.catalog.versions subject includeDeleted ≠ [] ∧
        ∀ v ∈ n.catalog.versions subject includeDeleted, v.fingerprint (.ofNormalize normalize) ≠
          (candidate.renamed n.settings.tenant).fingerprint (.ofNormalize normalize)
  others : ∀ e, n.lookup subject candidate normalize includeDeleted = .error e →
    (∃ message, e = .invalidSchema message) ∨ e = .subjectNotFound subject.rendered ∨
      e = .schemaNotFound

theorem lookupLaws (past : History log) (follows : n.catalog.Follows log) (subject : Subject)
    (candidate : Candidate) (normalize includeDeleted : Bool) :
    n.LookupLaws subject candidate normalize includeDeleted := by
  have looked := looked past follows subject candidate normalize includeDeleted
  have sorted : n.catalog.Sorted := follows.eq_ofEntries ▸ Catalog.sorted_ofEntries _
  -- In each case one of the four outcomes is there, and the conditions of the others contradict it.
  generalize houtcome : n.lookup subject candidate normalize includeDeleted = outcome at looked
  cases looked with
  | refused refused =>
    constructor
    all_goals rw [houtcome]
    · exact ⟨fun _ => refused, fun _ => ⟨_, rfl⟩⟩
    · exact ⟨nofun, fun h => absurd refused h.1⟩
    · exact fun v => ⟨nofun, fun h => absurd refused h.1⟩
    · exact ⟨nofun, fun h => absurd refused h.1⟩
    · intro e h
      cases h
      exact Or.inl ⟨_, rfl⟩
  | noSubject taken none =>
    constructor
    all_goals rw [houtcome]
    · exact ⟨nofun, fun h => absurd h taken⟩
    · exact ⟨fun _ => ⟨taken, none⟩, fun _ => rfl⟩
    · exact fun v => ⟨nofun, fun h => absurd h.2.mem (none ▸ List.not_mem_nil)⟩
    · exact ⟨nofun, fun h => absurd none h.2.1⟩
    · intro e h
      cases h
      exact Or.inr (Or.inl rfl)
  | found taken lowest =>
    rename_i v
    constructor
    all_goals rw [houtcome]
    · exact ⟨nofun, fun h => absurd h taken⟩
    · exact ⟨nofun, fun h => absurd lowest.mem (h.2 ▸ List.not_mem_nil)⟩
    · intro w
      constructor
      · intro same
        exact ⟨taken, Except.ok.inj same ▸ lowest⟩
      · intro h
        -- The lowest version that is equal is unique, since no two of a subject have one number.
        rw [lowest.unique sorted h.2]
    · exact ⟨nofun, fun h => absurd lowest.has (h.2.2 v lowest.mem)⟩
    · exact fun _ h => nomatch h
  | noMatch taken some differ =>
    constructor
    all_goals rw [houtcome]
    · exact ⟨nofun, fun h => absurd h taken⟩
    · exact ⟨nofun, fun h => absurd h.2 some⟩
    · exact fun v => ⟨nofun, fun h => absurd h.2.has (differ v h.2.mem)⟩
    · exact ⟨fun _ => ⟨taken, some, differ⟩, fun _ => rfl⟩
    · intro e h
      cases h
      exact Or.inr (Or.inr rfl)

/-! ## Registrations at a node -/

/-- A registration that runs at a node fails for its candidate, or because all numbers are used up,
or with the log. -/
theorem perform_register_eq_error (past : History log) (follows : n.catalog.Follows log)
    {now : Instant} {subject : Subject} {candidate : Candidate} {normalize : Bool} {e : Error}
    (h : (n.perform (.memory log) now subject (.register candidate normalize)).1 = .error e) :
    ((Catalog.ofEntries log).Refuses n.settings.tenant candidate (.ofNormalize normalize) ∧
        ∃ message, e = .invalidSchema message) ∨
      e = Registration.exhausted ∨ ∃ failure : LogFailure, e = failure.error := by
  have searches := (Catalog.faithful_ofEntries log).searches (Catalog.sorted_ofEntries log)
  have written := past.written follows
    (planFor n.settings.tenant subject (.register candidate normalize)) n.faults now
  rw [perform] at h
  -- What a leader returns has five forms. Two are no errors, two report a fault of the log, and one
  -- is the refusal of the plan.
  generalize writeAsLeader _ _ _ _ _ = outcome at written h
  cases written with
  | unread fault =>
    cases h
    exact Or.inr (Or.inr ⟨_, rfl⟩)
  | refused read planned =>
    cases h
    rw [planFor] at planned
    cases hplan : Registration.plan (.ofEntries log) n.settings.tenant subject candidate
        (.ofNormalize normalize) with
    | error d =>
      rw [hplan] at planned
      cases planned
      rcases Registration.plan_eq_error past.readable searches hplan with refused | ⟨rfl, -⟩
      · exact Or.inl refused
      · exact Or.inr (Or.inl rfl)
    | ok plan =>
      rw [hplan] at planned
      cases planned
  | idle read planned => cases h
  | unwritten read planned fault =>
    cases h
    exact Or.inr (Or.inr ⟨_, rfl⟩)
  | appended read planned written caught => cases h

end Node

/-- What is said of a version that cannot be read is said of nothing else. -/
theorem Version.unreadable_ne (v : Version) :
    (∀ message, v.unreadable ≠ .invalidSchema message) ∧
      v.unreadable ≠ Registration.exhausted ∧
      ∀ failure : LogFailure, v.unreadable ≠ failure.error := by
  refine ⟨nofun, fun same => ?_, fun failure => ?_⟩
  · have first := congrArg (fun message => message.toList.head?) (Error.internal.inj same)
    have text : ∀ s : String, toString s = s := fun _ => rfl
    simp [text] at first
  · cases failure <;> exact nofun

namespace Cluster

/-- **A lookup never confuses its failures.** Over the log of a registry, at any node and however
far its catalog lags, a lookup comes to each of its outcomes for its own reason, and to no other
outcome. Every version that was ever registered can be read, raw and normalized, so neither a lookup
nor a registration ever says that a stored schema is unreadable. -/
theorem lookup_outcomes (clock : Instant) (network : Outbound → Reply) (nodes : List Node)
    (events : List Event) :
    ∃ log, ((found clock network nodes).run events).store = .memory log ∧
      (∀ v, Registers log v → ∀ f, ∃ print, v.fingerprint f = .ok print) ∧
      (∀ {i n}, ((found clock network nodes).run events).node? i = some n →
        n.catalog.Follows log) ∧
      ∀ n : Node, n.catalog.Follows log →
        (∀ subject candidate normalize includeDeleted,
          n.LookupLaws subject candidate normalize includeDeleted) ∧
        ∀ now subject candidate normalize e,
          (n.perform (.memory log) now subject (.register candidate normalize)).1 = .error e →
            (((Catalog.ofEntries log).Refuses n.settings.tenant candidate (.ofNormalize normalize) ∧
                ∃ message, e = .invalidSchema message) ∨
              e = Registration.exhausted ∨ ∃ failure : LogFailure, e = failure.error) ∧
            ∀ v : Version, e ≠ v.unreadable := by
  obtain ⟨log, sound⟩ := exists_history clock network nodes events
  refine ⟨log, sound.store, fun v registers f => ?_, fun hn => sound.follows hn,
    fun n follows => ⟨?_, ?_⟩⟩
  · obtain ⟨print, hprint⟩ := sound.history.idLaws.readable registers
    exact Version.exists_fingerprint hprint f
  · exact fun subject candidate normalize includeDeleted =>
      Node.lookupLaws sound.history follows subject candidate normalize includeDeleted
  · intro now subject candidate normalize e failed
    have reasons := Node.perform_register_eq_error sound.history follows failed
    refine ⟨reasons, fun v same => ?_⟩
    -- An unreadable version is reported in words of its own, which are none of the three.
    obtain ⟨notInvalid, notExhausted, notFailure⟩ := v.unreadable_ne
    rcases reasons with ⟨-, message, rfl⟩ | rfl | ⟨failure, rfl⟩
    · exact notInvalid message same.symm
    · exact notExhausted same.symm
    · exact notFailure failure same.symm

end Cluster

end SchemaRegistry
