import SchemaRegistry.Proofs.Catalog.Twins
import SchemaRegistry.Proofs.Cluster.Lookup
/-!
# A lookup and a registration agree

A lookup of live versions and the plan of a registration resolve a candidate in the same way and
make the same search. So on one catalog they agree: what a lookup refuses a plan refuses, what a
lookup finds a plan leaves as it is, and where a lookup finds nothing a plan appends, unless the
numbers are used up. What is appended is then found by the same lookup, and nothing else is.

A number or an id can be used up only in a log that is longer than there are numbers.
-/

set_option autoImplicit false

namespace SchemaRegistry

/-! ## One catalog -/

/-- What a lookup of live versions at a node comes to, and with it the plan of a registration. -/
inductive Node.Agree (n : Node) (subject : Subject) :
    Except Error Version → Except Error RegistrationPlan → Prop
  | refused (message : String) :
      Agree n subject (.error (.invalidSchema message)) (.error (.invalidSchema message))
  | existing (v : Version) :
      Agree n subject (.ok v) (.ok (.existing { id := v.id, number := v.number }))
  | append {e : Error} (missing : e = .subjectNotFound subject.rendered ∨ e = .schemaNotFound)
      (v : Version) :
      Agree n subject (.error e) (.ok (.append (.register v) { id := v.id, number := v.number }))
  | exhausted {e : Error} (missing : e = .subjectNotFound subject.rendered ∨ e = .schemaNotFound)
      (usedUp : Registration.UsedUp n.catalog subject) :
      Agree n subject (.error e) (.error Registration.exhausted)

namespace Node

variable {n : Node} {subject : Subject} {candidate : Candidate} {normalize : Bool}

theorem agree (readable : n.catalog.Readable) (searches : Searches n.catalog) (subject : Subject)
    (candidate : Candidate) (normalize : Bool) :
    n.Agree subject (n.lookup subject candidate normalize false)
      (Registration.plan n.catalog n.settings.tenant subject candidate
        (.ofNormalize normalize)) := by
  generalize hf : Fidelity.ofNormalize normalize = f
  rw [lookup, Registration.plan, hf]
  cases readable.sought searches n.settings.tenant subject candidate f false with
  | unresolved refused failed =>
    rw [failed]
    exact .refused _
  | unread refused resolved failed =>
    rw [resolved]
    dsimp only
    rw [failed]
    exact .refused _
  | ended taken resolved has search =>
    rename_i found
    -- Whatever a lookup has missed, a plan makes a new version of it.
    have planned : ∀ {e}, e = .subjectNotFound subject.rendered ∨ e = .schemaNotFound →
        n.Agree subject (.error e)
          ((Registration.newVersion n.catalog subject (candidate.renamed n.settings.tenant)).map
            fun v => .append (.register v) { id := v.id, number := v.number }) := by
      intro e missing
      cases hnew : Registration.newVersion n.catalog subject
        (candidate.renamed n.settings.tenant) with
      | error d =>
        obtain ⟨rfl, usedUp⟩ := Registration.newVersion_eq_error readable searches has hnew
        exact .exhausted missing usedUp
      | ok v => exact .append missing v
    rw [resolved]
    dsimp only
    rw [search]
    cases found with
    | noSubject => exact planned (Or.inl rfl)
    | noMatch => exact planned (Or.inr rfl)
    | found v => exact .existing v

end Node

/-! ## The version that was appended -/

theorem Catalog.RefusesReference.of_perform_register {c : Catalog} {tenant : String} {r : Reference}
    {v : Version} {offset : Nat}
    (h : RefusesReference { c.perform (.register v) with applied := offset } tenant r) :
    c.RefusesReference tenant r := by
  cases h with
  | meaningless unchecked => exact .meaningless unchecked
  | nameless unnamed => exact .nameless unnamed
  | missing named unstored => exact .missing named fun stored => unstored (stored.perform nofun)

/-- The candidate of a version that was appended was not refused, and has the version's fingerprint.
-/
theorem Registration.Appends.taken {c : Catalog} {tenant : String} {subject : Subject}
    {candidate : Candidate} {f : Fidelity} {v : Version}
    (appends : Appends c tenant subject candidate f v) {print : Fingerprint}
    (hprint : v.fingerprint f = .ok print) :
    ¬ c.Refuses tenant candidate f ∧ (candidate.renamed tenant).fingerprint f = .ok print := by
  rcases c.resolve_cases tenant candidate.references with ⟨-, message, failed⟩ | ⟨taken, resolved⟩
  · rw [appends.references] at failed
    cases failed
  · have references : v.references = candidate.references.map (·.renamed tenant) :=
      Except.ok.inj (appends.references.symm.trans resolved)
    have own : (candidate.renamed tenant).fingerprint f = .ok print := by
      rw [← hprint, Version.fingerprint, appends.format, appends.text, references]
      rfl
    refine ⟨?_, own⟩
    rintro (⟨r, hr, refused⟩ | ⟨e, unread⟩)
    · exact taken r hr refused
    · rw [Candidate.fingerprint, fingerprint, Candidate.renamed, unread] at own
      cases own

/-- What has been appended is found by the lookup that found nothing before. -/
theorem Node.lookup_appended {n : Node} {log : List Entry} (past : History log) {subject : Subject}
    {candidate : Candidate} {normalize : Bool} {v : Version} {now : Instant}
    (named : Subject.Named n.settings.tenant subject)
    {registered : Registered}
    (planned : Registration.plan (.ofEntries log) n.settings.tenant subject candidate
      (.ofNormalize normalize) = .ok (.append (.register v) registered))
    (caughtUp : n.catalog = .ofEntries (log ++ [Entry.next log (.register v) now])) :
    n.lookup subject candidate normalize false = .ok v := by
  obtain ⟨w, hw, -, appends⟩ := Registration.appends_of_plan planned
  obtain rfl : v = w := Op.register.inj hw
  have decided : (Catalog.ofEntries log).Decides (.register v) := .registration named planned
  have future : History (log ++ [Entry.next log (.register v) now]) := past.append decided now
  have searches := (Catalog.faithful_ofEntries log).searches (Catalog.sorted_ofEntries log)
  obtain ⟨print, hprint, differ⟩ := appends.differs searches
  obtain ⟨taken, own⟩ := appends.taken hprint
  have catalog := past.ofEntries_next (.register v) now
  have laws := Node.lookupLaws (n := n) future (caughtUp ▸ future.follows_ofEntries) subject
    candidate normalize false
  refine (laws.found v).mpr ⟨?_, ?_⟩
  · rw [caughtUp, catalog]
    rintro (⟨r, hr, refused⟩ | unread)
    · exact taken (Or.inl ⟨r, hr, refused.of_perform_register⟩)
    · exact taken (Or.inr unread)
  · have live : v.isDeleted = false := appends.isDeleted
    -- The new version is behind all others of its subject, so it is the last that the search meets.
    have above : ((Catalog.ofEntries log).highestVersion v.subject).toNat < v.number.toNat := by
      rw [appends.number, appends.subject]
      exact Nat.lt_succ_self _
    have grown : n.catalog.versions subject false =
        (Catalog.ofEntries log).versions subject false ++ [v] := by
      have rows := Catalog.rowsOf_register (Catalog.sorted_ofEntries log)
        (Catalog.marked_ofEntries log) live above
      rw [appends.subject] at rows
      rw [caughtUp, catalog]
      change ((Catalog.perform _ _).rowsOf subject false).map _ = _
      rw [rows, List.map_append]
      rfl
    rw [own]
    refine ⟨?_, hprint, ?_⟩
    · rw [grown]
      exact List.mem_append_right _ (List.mem_singleton_self v)
    · intro w hw below
      rw [grown] at hw
      rcases List.mem_append.mp hw with old | new
      · -- The plan has met this one already and found it to differ.
        obtain ⟨other, hother, different⟩ := differ w old
        rw [hother]
        exact fun same => different (Except.ok.inj same)
      · rw [List.mem_singleton.mp new] at below
        exact absurd below (UInt32.lt_irrefl _)

/-! ## Numbers that are used up -/

theorem length_registrations_le (log : List Entry) (subject : Subject) :
    (registrations log subject).length ≤ log.length :=
  (List.length_filter_le _ _).trans (List.length_filterMap_le _ _)

theorem History.maxId_le {log : List Entry} (h : History log) :
    (Catalog.ofEntries log).maxId.toInt ≤ log.length := by
  induction h with
  | empty => exact Int.le_refl 0
  | append past decided now ih =>
    rename_i log op
    rw [past.ofEntries_next, List.length_append, List.length_singleton]
    cases op with
    | register v =>
      have next := past.id_le_next past.idLaws decided
      have raised := Catalog.toInt_greater (Catalog.ofEntries log).maxId v.id
      change (greater (Catalog.ofEntries log).maxId v.id).toInt ≤ _
      omega
    | softDelete subject numbers =>
      change (Catalog.ofEntries log).maxId.toInt ≤ _
      omega
    | permanentDelete subject numbers =>
      change (Catalog.ofEntries log).maxId.toInt ≤ _
      omega

/-- There are as many entries as numbers that are used up. -/
theorem Registration.UsedUp.le_length {log : List Entry} (past : History log) {subject : Subject}
    (h : UsedUp (.ofEntries log) subject) : 4294967295 ≤ log.length := by
  have counted := past.toNat_highestVersion subject
  have registered := length_registrations_le log subject
  have ids := past.maxId_le
  rcases h with numbers | ids' <;> omega

end SchemaRegistry
