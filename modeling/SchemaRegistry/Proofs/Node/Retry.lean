import SchemaRegistry.Node.Relay
import SchemaRegistry.Proofs.Catalog.Settled
import SchemaRegistry.Proofs.Node.Shared
import SchemaRegistry.Proofs.Subject.Rendered
/-!
# Registrations that are asked for again

Whoever has asked for a registration and does not know what has become of it can ask again. However
often the same registration is asked for, at the leader or by way of followers, and whatever answers
are lost, it gets one entry at most, and whoever is told anything is told the same.

The leader is the only one to append, so what its tasks plan they plan on the whole log: this is
`Desk.Abreast`. As long as none of the tasks has an entry or an answer, nothing is to be shown. The
first that gets one settles the registration in the catalog of the log, and from then on the lock
does not matter any more. The registration stays settled whatever else is appended, unless it is a
deletion of the subject, and a plan for it can only come to that one answer, with no entry, or fail.
-/

set_option autoImplicit false

namespace SchemaRegistry

variable {log log' : List Entry}

/-! ## Followers -/

namespace Node

/-- Whether the node hands registrations on. -/
def Relays (n : Node) : Prop :=
  n.settings.mode = .readWrite ∧ ∃ url, n.believes.route = .ok (.forward url)

/-- A name that was rendered at one node is resolved at another, as long as both serve the same
tenant. -/
theorem resolve_named {n : Node} {subject : Subject}
    (named : Subject.Named n.settings.tenant subject) :
    n.resolve subject.rendered = .ok subject := by
  obtain ⟨raw, hraw⟩ := named
  obtain ⟨htenant, wellFormed⟩ := Subject.wellFormed_of_resolve hraw
  rw [resolve, ← htenant, Subject.resolve_rendered wellFormed]
  rfl

/-- A call is handed on as it came, and it is handed on only by a node that knows of a leader
elsewhere. -/
theorem handsOn_register {n next : Node} {subject : Subject} (candidate : Candidate)
    (normalize : Bool) (named : Subject.Named next.settings.tenant subject) {errand : Errand} :
    n.handsOn next (.register subject candidate normalize) = some errand ↔
      errand = .register subject candidate normalize ∧ n.Relays := by
  have hresolve : next.resolve (Errand.register subject candidate normalize).subject.rendered =
      .ok subject := resolve_named named
  rw [handsOn, Relays, hresolve]
  rcases hmode : n.settings.mode with _ | _
  · rcases hroute : n.believes.route with e | _ | url <;>
      simp [Errand.accept, accept, checkWritable, hmode, Except.toOption, Errand.about, eq_comm]
  · simp [Errand.accept, accept, checkWritable, hmode]

/-- A registration comes to a node of the same tenant as it was asked for, if each of the followers
on its way hands it on, and not at all otherwise. -/
theorem askedVia_register {n : Node} {subject : Subject} (candidate : Candidate) (normalize : Bool)
    {followers : List Node} (named : Subject.Named n.settings.tenant subject)
    (tenants : ∀ follower ∈ followers, follower.settings.tenant = n.settings.tenant)
    {errand : Errand} :
    n.askedVia followers (.register subject candidate normalize) = some errand ↔
      errand = .register subject candidate normalize ∧
        ∀ follower ∈ followers, follower.Relays := by
  induction followers with
  | nil => simp [askedVia, eq_comm]
  | cons follower others ih =>
    have hothers : ∀ other ∈ others, other.settings.tenant = n.settings.tenant :=
      fun other hother => tenants other (List.mem_cons_of_mem _ hother)
    have next : Subject.Named (others.headD n).settings.tenant subject := by
      rcases others with _ | ⟨other, rest⟩
      · exact named
      · have same : other.settings.tenant = n.settings.tenant := hothers other List.mem_cons_self
        rw [List.headD_cons, same]
        exact named
    rw [askedVia, Option.bind_eq_some_iff, List.forall_mem_cons]
    constructor
    · rintro ⟨handed, hhanded, hasked⟩
      obtain ⟨rfl, relays⟩ := (handsOn_register candidate normalize next).mp hhanded
      obtain ⟨herrand, relay⟩ := (ih hothers).mp hasked
      exact ⟨herrand, relays, relay⟩
    · rintro ⟨herrand, relays, relay⟩
      exact ⟨_, (handsOn_register candidate normalize next).mpr ⟨rfl, relays⟩,
        (ih hothers).mpr ⟨herrand, relay⟩⟩

end Node

/-! ## Plans of writes -/

namespace Errand

variable {tenant : String} {c : Catalog} {subject : Subject} {candidate : Candidate}
  {normalize : Bool} {op : Op} {answer : Receipt}

theorem existing_of_plan
    (h : (register subject candidate normalize).plan tenant c = .ok { op := none, answer }) :
    ∃ registered, answer = .registered registered ∧
      Registration.plan c tenant subject candidate (.ofNormalize normalize) =
        .ok (.existing registered) := by
  rw [plan, Node.planFor] at h
  rcases hp : Registration.plan c tenant subject candidate (.ofNormalize normalize) with e | planned
  · simp [hp, Except.map] at h
  · rcases planned with registered | ⟨op, registered⟩
    · simp only [hp, Except.map, Decision.map, Except.ok.injEq, Decision.mk.injEq] at h
      exact ⟨registered, h.2.symm, rfl⟩
    · simp [hp, Except.map, Decision.map] at h

/-- A registration with an operation appends its version, and is answered with the id and the number
of that version. -/
theorem append_of_plan
    (h : (register subject candidate normalize).plan tenant c = .ok { op := some op, answer }) :
    ∃ registered, answer = .registered registered ∧
      Registration.plan c tenant subject candidate (.ofNormalize normalize) =
        .ok (.append op registered) := by
  rw [plan, Node.planFor] at h
  rcases hp : Registration.plan c tenant subject candidate (.ofNormalize normalize) with e | planned
  · simp [hp, Except.map] at h
  · rcases planned with registered | ⟨op', registered⟩
    · simp [hp, Except.map, Decision.map] at h
    · simp only [hp, Except.map, Decision.map, Except.ok.injEq, Decision.mk.injEq,
        Option.some.injEq] at h
      obtain ⟨rfl, hanswer⟩ := h
      exact ⟨registered, hanswer.symm, rfl⟩

/-- Only a deletion of the subject deletes anything of it. -/
theorem spares_of_plan {errand : Errand} (h : errand.plan tenant c = .ok { op := some op, answer })
    (spared : ∀ permanent, errand ≠ .delete subject permanent) : c.Spares subject op := by
  rcases errand with ⟨other, permanent⟩ | ⟨other, candidate, normalize⟩
  · have apart : other ≠ subject := by
      rintro rfl
      exact spared permanent rfl
    rw [plan, Node.planFor] at h
    rcases hp : Deletion.plan c other (.ofPermanent permanent) with e | ⟨op', record⟩
    · simp [hp, Except.map] at h
    · simp only [hp, Except.map, Decision.map, Except.ok.injEq, Decision.mk.injEq,
        Option.some.injEq] at h
      obtain ⟨-, -, hop, -⟩ := Deletion.plan_eq_ok_iff.mp hp
      rw [← h.1, hop]
      rcases permanent with _ | _ <;> exact apart
  · obtain ⟨registered, -, planned⟩ := append_of_plan h
    obtain ⟨v, rfl, -, appends⟩ := Registration.appends_of_plan planned
    intro own
    have hsubject : v.subject = other := appends.subject
    have hnumber := appends.number
    refine ⟨appends.isDeleted, ?_⟩
    rw [← own, hsubject]
    omega

end Errand

/-- The catalog of a log with one more entry. -/
theorem Contiguous.ofEntries_next (h : Contiguous log) (op : Op) (now : Instant) :
    Catalog.ofEntries (log ++ [Entry.next log op now]) =
      { (Catalog.ofEntries log).perform op with applied := log.length + 1 } := by
  have ahead : (Catalog.ofEntries log).applied < (Entry.next log op now).offset := by
    rw [h.applied]
    exact Nat.lt_succ_self _
  rw [Catalog.ofEntries_append, Catalog.applyAll_singleton ahead]
  rfl

namespace Desk

variable {d d' : Desk} {i j : Nat} {errand : Errand} {stage : Stage}

/-! ## The only one to append -/

/-- What holds of the desk of a node that alone has appended to its log since it had `base` entries:
what it plans, it plans on the whole log. -/
structure Abreast (base : Nat) (d : Desk) (log : List Entry) : Prop extends d.Shares log where
  contiguous : Contiguous log
  knows : d.Knows log log.length
  since : base ≤ log.length
  /-- Every entry since then is that of a task. -/
  covered : ∀ n, base ≤ n → n < log.length →
    ∃ i errand stage, d.place? i = some (errand, stage) ∧ stage.offset? = some (n + 1)

variable {base : Nat}

/-- A node that has read its log, and has no task yet, is abreast of it from there on. -/
theorem abreast_new {n : Node} (contiguous : Contiguous log) (follows : n.catalog.Follows log) :
    ({ node := n } : Desk).Abreast log.length log := by
  have none : ∀ {i errand stage}, ({ node := n } : Desk).place? i ≠ some (errand, stage) := by
    intro i errand stage place
    simp [place?] at place
  have quiet : ({ node := n } : Desk).Quiet := fun i errand stage place => absurd place none
  have knows := quiet.knows log log.length
  exact ⟨⟨locked_new n, ⟨follows, trivial⟩,
    ⟨log.length, Nat.le_refl _, knows, fun _ _ _ _ place => absurd place none⟩,
    fun place => absurd place none, fun place => absurd place none⟩, contiguous, knows,
    Nat.le_refl _, fun n hle hlt => absurd hle (Nat.not_le.mpr hlt)⟩

/-- **A node that alone appends stays abreast of its log.** An append of its own leaves no plan
behind that would have to know of it, and nobody else appends. -/
theorem Abreast.turn (h : d.Abreast base log) {move : Move}
    (hturn : d.Turn (.memory log) move d' (.memory log')) : d'.Abreast base log' := by
  obtain ⟨_, hlog, grown, contiguous⟩ := hturn.exists_log h.contiguous
  obtain rfl := Store.memory.inj hlog
  refine ⟨h.toShares.turn h.contiguous hturn, contiguous, ?_, h.since.trans grown.length_le,
    fun n hbase hn => ?_⟩
  · by_cases grows : log' = log
    · subst grows
      exact h.knows.turn h.locked h.reads h.contiguous (Nat.le_refl _) hturn
    · exact (hturn.quiet_of_ne h.locked h.contiguous grows).knows _ _
  · by_cases hold : n < log.length
    · obtain ⟨i, errand, stage, place, hoffset⟩ := h.covered n hbase hold
      obtain ⟨stage', place', kept⟩ := hturn.keeps i errand stage place
      exact ⟨i, errand, stage', place', kept _ hoffset⟩
    · exact hturn.exists_appended h.contiguous hn hold

/-- All that is in the log has been read before a plan is made. -/
theorem Abreast.planning (h : d.Abreast base log) (place : d.place? i = some (errand, .planning)) :
    d.node.catalog = .ofEntries log := by
  have knows : log.length ≤ d.node.catalog.applied := h.knows.stage place
  have hle := h.reads.follows.applied_le
  rw [h.reads.follows.eq_ofEntries, List.take_of_length_le (by omega)]

/-- Between the plan and the append nothing has come into the log, so the plan is still what it
would be now. -/
theorem Abreast.pushing (h : d.Abreast base log) {op : Op} {answer : Receipt}
    (place : d.place? i = some (errand, .pushing op answer)) :
    errand.plan d.node.settings.tenant (.ofEntries log) = .ok { op := some op, answer } := by
  obtain ⟨m, hlength, hm, planned⟩ := h.knows.stage place
  rwa [List.take_of_length_le (by omega)] at planned

/-! ## Tasks that are answered -/

/-- A task with an entry has an answer. -/
theorem Shares.exists_answer (h : d.Shares log) {offset : Nat}
    (place : d.place? i = some (errand, stage)) (hoffset : stage.offset? = some offset) :
    ∃ answer, stage.Answers answer := by
  obtain ⟨n, m, -, -, ⟨entry, answer, -, answers, -⟩, -⟩ := h.entered place hoffset
  exact ⟨answer, answers⟩

/-- How a plan that is made on the log leads to an answer: all is as it should be already, or the
operation is appended. -/
inductive Meets (tenant : String) (log : List Entry) (errand : Errand) (answer : Receipt) :
    List Entry → Option Nat → Prop where
  | idle (planned : errand.plan tenant (.ofEntries log) = .ok { op := none, answer }) :
      Meets tenant log errand answer log none
  | appended {op : Op} (now : Instant)
      (planned : errand.plan tenant (.ofEntries log) = .ok { op := some op, answer }) :
      Meets tenant log errand answer (log ++ [Entry.next log op now]) (some (log.length + 1))

end Desk

theorem Stage.Answers.unique {stage : Stage} {a b : Receipt} (ha : stage.Answers a)
    (hb : stage.Answers b) : a = b := by
  rcases stage with _ | _ | _ | _ | _ | ⟨offset, answer⟩ | ⟨offset, result⟩
  · exact ha.elim
  · exact ha.elim
  · exact ha.elim
  · exact ha.elim
  · exact ha.elim
  · exact ha.symm.trans hb
  · exact Except.ok.inj (ha.symm.trans hb)

/-- Without an entry only a task that has ended has an answer. -/
theorem Stage.eq_finished_of_answers {stage : Stage} {answer : Receipt} (h : stage.Answers answer)
    (hoffset : stage.offset? = none) : stage = .finished none (.ok answer) := by
  rcases stage with _ | _ | _ | _ | _ | ⟨offset, answer⟩ | ⟨offset, result⟩
  · exact h.elim
  · exact h.elim
  · exact h.elim
  · exact h.elim
  · exact h.elim
  · simp [Stage.offset?] at hoffset
  · have hnone : offset = none := hoffset
    have hresult : result = .ok answer := h
    rw [hnone, hresult]

namespace Desk

variable {d d' : Desk} {i j : Nat} {errand : Errand} {stage : Stage} {answer : Receipt}

/-- A task that is answered after a turn was answered so before, with the same entry, or it has got
the answer by this turn, and had the lock. -/
theorem Abreast.answers_cases {base : Nat} (h : d.Abreast base log) {move : Move}
    (hturn : d.Turn (.memory log) move d' (.memory log'))
    (place : d'.place? i = some (errand, stage)) (answers : stage.Answers answer) :
    (∃ old, d.place? i = some (errand, old) ∧ old.offset? = stage.offset? ∧
        old.Answers answer) ∨
      d.lock = some i ∧
        Meets d.node.settings.tenant log errand answer log' stage.offset? := by
  rcases hoffset : stage.offset? with _ | offset
  · rw [stage.eq_finished_of_answers answers hoffset] at place
    rcases hturn.place?_of_idle place with hold | ⟨rfl, hplanning, planned⟩
    · exact Or.inl ⟨_, hold, rfl, rfl⟩
    · rw [h.planning hplanning] at planned
      refine Or.inr ⟨h.locked.lock_eq hplanning rfl, ?_⟩
      -- Whoever appends has the lock, and this task plans.
      rcases hturn.log_cases h.contiguous with rfl | ⟨j, other, op, _, _, hpushing, -⟩
      · exact .idle planned
      · have same := h.locked.eq_of_inside hplanning rfl hpushing rfl
        rw [← same, hplanning] at hpushing
        simp at hpushing
  · rcases hturn.offset_cases h.contiguous place hoffset with
      ⟨old, hold, hold', kept⟩ | ⟨rfl, op, answer', now, hpushing, answers', rfl⟩
    · obtain ⟨before, hbefore⟩ := h.exists_answer hold hold'
      obtain rfl := (kept before hbefore).unique answers
      exact Or.inl ⟨old, hold, hold', hbefore⟩
    · obtain rfl := answers'.unique answers
      exact Or.inr ⟨h.locked.lock_eq hpushing rfl, .appended now (h.pushing hpushing)⟩

/-! ## Before and after the first answer -/

section Calls

variable {subject : Subject} {candidate : Candidate} {normalize : Bool} {tenant : String}
  {registered : Registered} {offset? : Option Nat} {base : Nat}

/-- The first answer settles the registration. -/
theorem Meets.settled (contiguous : Contiguous log)
    (h : Meets tenant log (.register subject candidate normalize) answer log' offset?) :
    ∃ registered, answer = .registered registered ∧
      (Catalog.ofEntries log').Settled tenant subject candidate (.ofNormalize normalize)
        registered := by
  rcases h with planned | ⟨now, planned⟩
  · obtain ⟨registered, hanswer, existing⟩ := Errand.existing_of_plan planned
    exact ⟨registered, hanswer, Catalog.settled_of_existing existing⟩
  · obtain ⟨registered, hanswer, append⟩ := Errand.append_of_plan planned
    have settled := Catalog.settled_of_append (Catalog.sorted_ofEntries log)
      (Catalog.marked_ofEntries log) append
    rw [contiguous.ofEntries_next]
    exact ⟨registered, hanswer, settled⟩

/-- Once the registration is settled, there is no other answer and no entry. -/
theorem Meets.eq_of_settled
    (h : Meets tenant log (.register subject candidate normalize) answer log' offset?)
    (settled : (Catalog.ofEntries log).Settled tenant subject candidate (.ofNormalize normalize)
      registered) : answer = .registered registered ∧ offset? = none := by
  rcases h with planned | ⟨now, planned⟩
  · obtain ⟨registered', hanswer, existing⟩ := Errand.existing_of_plan planned
    have same := settled.plan_eq existing
    simp only [RegistrationPlan.existing.injEq] at same
    exact ⟨hanswer.trans (congrArg _ same), rfl⟩
  · obtain ⟨registered', -, append⟩ := Errand.append_of_plan planned
    have same := settled.plan_eq append
    simp at same

/-- A registration stays settled over a turn that does not append a deletion of its subject. -/
theorem Abreast.settled_turn (h : d.Abreast base log) {move : Move}
    (hturn : d.Turn (.memory log) move d' (.memory log'))
    (spared : ∀ i permanent stage, d.place? i = some (.delete subject permanent, stage) →
      ∃ offset result, stage = .finished offset result) {f : Fidelity}
    (settled : (Catalog.ofEntries log).Settled tenant subject candidate f registered) :
    (Catalog.ofEntries log').Settled tenant subject candidate f registered := by
  rcases hturn.log_cases h.contiguous with rfl | ⟨i, errand, op, answer, now, place, -, rfl⟩
  · exact settled
  · have spares : (Catalog.ofEntries log).Spares subject op := by
      refine Errand.spares_of_plan (h.pushing place) fun permanent herrand => ?_
      subst herrand
      obtain ⟨offset, result, hstage⟩ := spared i permanent _ place
      simp at hstage
    have grown := settled.perform (Catalog.sorted_ofEntries log) (Catalog.marked_ofEntries log)
      spares
    rw [h.contiguous.ofEntries_next]
    exact grown

/-- What the calls of a registration have come to, once one of them has an answer. -/
structure Answered (base : Nat) (d : Desk) (log : List Entry) (subject : Subject)
    (candidate : Candidate) (normalize : Bool) (registered : Registered) : Prop where
  settled : (Catalog.ofEntries log).Settled d.node.settings.tenant subject candidate
    (.ofNormalize normalize) registered
  answer : ∀ {i stage answer},
    d.place? i = some (.register subject candidate normalize, stage) → stage.Answers answer →
    answer = .registered registered
  /-- One of the calls at most has an entry. -/
  once : ∀ {i j stage stage' offset offset'},
    d.place? i = some (.register subject candidate normalize, stage) →
    d.place? j = some (.register subject candidate normalize, stage') →
    stage.offset? = some offset → stage'.offset? = some offset' → i = j
  entry : ∀ {i stage offset},
    d.place? i = some (.register subject candidate normalize, stage) →
    stage.offset? = some offset → ∃ n entry v, offset = n + 1 ∧ base ≤ n ∧
      log[n]? = some entry ∧ entry.op = .register v ∧ v.subject = subject ∧
      registered = { id := v.id, number := v.number }

/-- Once a registration has been answered every further one of the same schema is answered with the
same, as long as no deletion of the subject is under way. No other write touches the live versions
that are equal. -/
theorem Answered.turn (h : d.Answered base log subject candidate normalize registered)
    (abreast : d.Abreast base log) {move : Move}
    (hturn : d.Turn (.memory log) move d' (.memory log'))
    (spared : ∀ i permanent stage, d.place? i = some (.delete subject permanent, stage) →
      ∃ offset result, stage = .finished offset result) :
    d'.Answered base log' subject candidate normalize registered := by
  -- A settled subject is answered without an append, so no entry about it is new.
  have before : ∀ {i stage offset},
      d'.place? i = some (.register subject candidate normalize, stage) →
      stage.offset? = some offset →
      ∃ old, d.place? i = some (.register subject candidate normalize, old) ∧
        old.offset? = some offset := by
    intro i stage offset place hoffset
    obtain ⟨answer, answers⟩ := (abreast.turn hturn).exists_answer place hoffset
    rcases abreast.answers_cases hturn place answers with ⟨old, hold, hold', -⟩ | ⟨-, meets⟩
    · exact ⟨old, hold, hold'.trans hoffset⟩
    · have hnone := (meets.eq_of_settled h.settled).2
      simp [hoffset] at hnone
  have grown : log <+: log' := by
    obtain ⟨_, hlog, grown, -⟩ := hturn.exists_log abreast.contiguous
    rwa [Store.memory.inj hlog]
  refine ⟨?_, fun place answers => ?_, fun place place' hoffset hoffset' => ?_,
    fun place hoffset => ?_⟩
  · -- Only a deletion could unsettle the subject, and all of them have ended.
    rw [hturn.settings_eq]
    exact abreast.settled_turn hturn spared h.settled
  · rcases abreast.answers_cases hturn place answers with ⟨old, hold, -, answers'⟩ | ⟨-, meets⟩
    · exact h.answer hold answers'
    · exact (meets.eq_of_settled h.settled).1
  · obtain ⟨old, hold, hold'⟩ := before place hoffset
    obtain ⟨other, hother, hother'⟩ := before place' hoffset'
    exact h.once hold hother hold' hother'
  · obtain ⟨old, hold, hold'⟩ := before place hoffset
    obtain ⟨n, entry, v, hn, hbase, hentry, registers⟩ := h.entry hold hold'
    have hlt := (List.getElem?_eq_some_iff.mp hentry).1
    obtain ⟨more, rfl⟩ := grown
    exact ⟨n, entry, v, hn, hbase, by rw [List.getElem?_append_left hlt, hentry], registers⟩

/-- A turn by which a call gets the first answer of all. -/
theorem Abreast.answered_of_first (h : d.Abreast base log) {move : Move}
    (hturn : d.Turn (.memory log) move d' (.memory log'))
    (unanswered : ∀ i stage answer,
      d.place? i = some (.register subject candidate normalize, stage) → ¬ stage.Answers answer)
    (place : d'.place? i = some (.register subject candidate normalize, stage))
    (answers : stage.Answers answer) :
    ∃ registered, d'.Answered base log' subject candidate normalize registered := by
  -- Whoever is answered now has the lock, so there is no other.
  have now : ∀ {j stage' answer'},
      d'.place? j = some (.register subject candidate normalize, stage') →
      stage'.Answers answer' → d.lock = some j ∧
        Meets d.node.settings.tenant log (.register subject candidate normalize) answer' log'
          stage'.offset? := by
    intro j stage' answer' place' answers'
    rcases h.answers_cases hturn place' answers' with ⟨old, hold, -, hanswers⟩ | meets
    · exact absurd hanswers (unanswered j old answer' hold)
    · exact meets
  obtain ⟨hlock, meets⟩ := now place answers
  have same : ∀ {j stage' answer'},
      d'.place? j = some (.register subject candidate normalize, stage') →
      stage'.Answers answer' → i = j ∧ stage = stage' := by
    intro j stage' answer' place' answers'
    have hij : i = j := Option.some.inj (hlock.symm.trans (now place' answers').1)
    rw [← hij, place] at place'
    simp only [Option.some.injEq, Prod.mk.injEq, true_and] at place'
    exact ⟨hij, place'⟩
  obtain ⟨registered, hanswer, settled⟩ := meets.settled h.contiguous
  refine ⟨registered, ⟨?_, fun place' answers' => ?_, fun place' place'' hoffset hoffset' => ?_,
    fun place' hoffset => ?_⟩⟩
  · rw [hturn.settings_eq]
    exact settled
  · obtain ⟨-, rfl⟩ := same place' answers'
    exact (answers'.unique answers).trans hanswer
  · obtain ⟨answer', answers'⟩ := (h.turn hturn).exists_answer place' hoffset
    obtain ⟨answer'', answers''⟩ := (h.turn hturn).exists_answer place'' hoffset'
    exact (same place' answers').1.symm.trans (same place'' answers'').1
  · obtain ⟨answer', answers'⟩ := (h.turn hturn).exists_answer place' hoffset
    obtain ⟨-, rfl⟩ := same place' answers'
    rw [hoffset] at meets
    rcases meets with planned | ⟨now, planned⟩
    obtain ⟨registered', hanswer', append⟩ := Errand.append_of_plan planned
    obtain ⟨v, rfl, rfl, appends⟩ := Registration.appends_of_plan append
    have hregistered := Receipt.registered.inj (hanswer.symm.trans hanswer')
    exact ⟨log.length, _, v, rfl, h.since, List.getElem?_concat_length, rfl, appends.subject,
      hregistered⟩

/-- What the calls of a registration have come to: nothing yet, or one answer and one entry at most.
-/
def Repeats (base : Nat) (d : Desk) (log : List Entry) (subject : Subject) (candidate : Candidate)
    (normalize : Bool) : Prop :=
  (∀ i stage answer, d.place? i = some (.register subject candidate normalize, stage) →
      ¬ stage.Answers answer) ∨
    ∃ registered, d.Answered base log subject candidate normalize registered

/-- Whether or not any of the registrations has been answered yet, a turn leaves them with one
answer at most. -/
theorem Repeats.turn (h : d.Repeats base log subject candidate normalize)
    (abreast : d.Abreast base log) {move : Move}
    (hturn : d.Turn (.memory log) move d' (.memory log'))
    (spared : ∀ i permanent stage, d.place? i = some (.delete subject permanent, stage) →
      ∃ offset result, stage = .finished offset result) :
    d'.Repeats base log' subject candidate normalize := by
  rcases h with unanswered | ⟨registered, answered⟩
  · by_cases first : ∃ i stage answer,
        d'.place? i = some (.register subject candidate normalize, stage) ∧ stage.Answers answer
    · obtain ⟨i, stage, answer, place, answers⟩ := first
      exact Or.inr (abreast.answered_of_first hturn unanswered place answers)
    · exact Or.inl fun i stage answer place answers => first ⟨i, stage, answer, place, answers⟩
  · exact Or.inr ⟨registered, answered.turn abreast hturn spared⟩

/-! ## Runs -/

/-- A task that has ended stays as it is. -/
theorem Turn.place?_of_finished {s s' : Store} {move : Move} (h : d.Turn s move d' s')
    {offset : Option Nat} {result : Except Error Receipt}
    (place : d.place? i = some (errand, .finished offset result)) :
    d'.place? i = some (errand, .finished offset result) := by
  obtain ⟨stage, place', proceeds⟩ := h.exists_proceeds place
  cases proceeds
  exact place'

/-- What every turn keeps every run keeps, since the log is the one that the turns have left. -/
theorem Abreast.run (h : d.Abreast base log) (moves : List Move) :
    ∃ log', (d.run (.memory log) moves).2 = .memory log' ∧ log <+: log' ∧
      (d.run (.memory log) moves).1.Abreast base log' := by
  induction moves generalizing d log with
  | nil => exact ⟨log, rfl, List.prefix_rfl, h⟩
  | cons move moves ih =>
    have hturn := d.turn_step (.memory log) move
    obtain ⟨log₁, hstore, grown, -⟩ := hturn.exists_log h.contiguous
    rw [hstore] at hturn
    obtain ⟨log', hstore', grown', hrun⟩ := ih (h.turn hturn)
    rw [Desk.run, hstore]
    exact ⟨log', hstore', grown.trans grown', hrun⟩

/-- No run that deletes nothing of the subject answers a registration twice in different ways, or
appends it twice. -/
theorem Repeats.run (h : d.Repeats base log subject candidate normalize)
    (abreast : d.Abreast base log) {moves : List Move}
    (hlog : (d.run (.memory log) moves).2 = .memory log')
    (undeleted : ∀ i permanent stage,
      (d.run (.memory log) moves).1.place? i = some (.delete subject permanent, stage) →
      ∃ offset result, d.place? i = some (.delete subject permanent, .finished offset result)) :
    (d.run (.memory log) moves).1.Repeats base log' subject candidate normalize := by
  induction moves generalizing d log with
  | nil =>
    obtain rfl := Store.memory.inj hlog
    exact h
  | cons move moves ih =>
    have hturn := d.turn_step (.memory log) move
    obtain ⟨log₁, hstore, -, -⟩ := hturn.exists_log abreast.contiguous
    rw [Desk.run, hstore] at hlog undeleted ⊢
    rw [hstore] at hturn
    refine ih (h.turn abreast hturn fun i permanent stage place => ?_) (abreast.turn hturn) hlog
      fun i permanent stage place => ?_
    · -- A deletion that is asked for now is there at the end, and so had ended before.
      obtain ⟨stage₁, place₁, -⟩ := hturn.keeps i _ stage place
      obtain ⟨stage', place', -⟩ := keeps_run (s := .memory log₁) moves i _ stage₁ place₁
      obtain ⟨offset, result, hfinished⟩ := undeleted i permanent stage' place'
      rw [place] at hfinished
      simp only [Option.some.injEq, Prod.mk.injEq, true_and] at hfinished
      exact ⟨offset, result, hfinished⟩
    · obtain ⟨offset, result, hfinished⟩ := undeleted i permanent stage place
      exact ⟨offset, result, hturn.place?_of_finished hfinished⟩

end Calls

/-! ## Asking again -/

/-- What the calls of one registration have come to between two moments of a run, at a desk at which
the log has grown from `past` to `log` meanwhile. -/
structure RegistersOnce (n : Node) (past log : List Entry) (d : Desk) (subject : Subject)
    (candidate : Candidate) (normalize : Bool) : Prop where
  /-- Every entry that has been appended is that of one task. -/
  traced : ∀ k, past.length ≤ k → k < log.length → ∃ i errand stage,
    d.place? i = some (errand, stage) ∧ stage.offset? = some (k + 1) ∧
    ∀ j other stage', d.place? j = some (other, stage') → stage'.offset? = some (k + 1) → j = i
  /-- No two entries are entries of the calls. -/
  once : ∀ i j stage stage' offset offset',
    d.place? i = some (.register subject candidate normalize, stage) →
    d.place? j = some (.register subject candidate normalize, stage') →
    stage.offset? = some offset → stage'.offset? = some offset' → i = j ∧ offset = offset'
  /-- There is one answer, which is the number and the id of the entry if there is one. -/
  same : ∃ registered,
    (∀ i offset answer, d.place? i =
      some (.register subject candidate normalize, .finished offset (.ok answer)) →
      answer = .registered registered) ∧
    ∀ i stage offset, d.place? i = some (.register subject candidate normalize, stage) →
      stage.offset? = some offset → ∃ k entry v, offset = k + 1 ∧ past.length ≤ k ∧
        log[k]? = some entry ∧ entry.op = .register v ∧ v.subject = subject ∧
        registered = { id := v.id, number := v.number }
  /-- By way of followers of the tenant the registration comes as it was asked for. -/
  handed : Subject.Named n.settings.tenant subject → ∀ followers errand,
    (∀ follower ∈ followers, follower.settings.tenant = n.settings.tenant) →
    (n.askedVia followers (.register subject candidate normalize) = some errand ↔
      errand = .register subject candidate normalize ∧ ∀ follower ∈ followers, follower.Relays)

/-- **At the end of a run the registrations have one answer and at most one entry.** Which of two
cases it is, that no answer was given or that one was, is what the invariant says. -/
theorem Abreast.registersOnce {past : List Entry} (h : d.Abreast past.length log) {n : Node}
    {subject : Subject} {candidate : Candidate} {normalize : Bool}
    (repeats : d.Repeats past.length log subject candidate normalize) :
    RegistersOnce n past log d subject candidate normalize := by
  refine ⟨?_, ?_, ?_, ?_⟩
  · intro k hle hlt
    obtain ⟨i, errand, stage, place, hoffset⟩ := h.covered k hle hlt
    exact ⟨i, errand, stage, place, hoffset, fun j other stage' place' hoffset' =>
      h.distinct place' place hoffset' hoffset⟩
  · intro i j stage stage' offset offset' place place' hoffset hoffset'
    rcases repeats with unanswered | ⟨registered, answered⟩
    · obtain ⟨answer, answers⟩ := h.exists_answer place hoffset
      exact absurd answers (unanswered i stage answer place)
    · obtain rfl := answered.once place place' hoffset hoffset'
      rw [place] at place'
      simp only [Option.some.injEq, Prod.mk.injEq, true_and] at place'
      subst place'
      exact ⟨rfl, Option.some.inj (hoffset.symm.trans hoffset')⟩
  · rcases repeats with unanswered | ⟨registered, answered⟩
    · refine ⟨default, fun i offset answer place => ?_, fun i stage offset place hoffset => ?_⟩
      · exact absurd rfl (unanswered i _ answer place)
      · obtain ⟨answer, answers⟩ := h.exists_answer place hoffset
        exact absurd answers (unanswered i stage answer place)
    · exact ⟨registered, fun i offset answer place => answered.answer place rfl,
        fun i stage offset place hoffset => answered.entry place hoffset⟩
  · intro named followers errand tenants
    exact Node.askedVia_register candidate normalize named tenants

/-- Arrivals are moves, and those that cannot be moves at this node are left out in either order. -/
theorem receive_append (d : Desk) (s : Store) (before after : List Arrival) :
    d.receive s (before ++ after) =
      (d.receive s before).1.run (d.receive s before).2
        (after.filterMap (Arrival.move? d.node)) := by
  rw [receive, receive, List.filterMap_append, run_append]

/-- However often a registration is asked for, before and after other writes of which none deletes
its subject, it has one entry at most, and all who are answered get the same answer. -/
theorem registers_once {n : Node} {log₀ : List Entry} (contiguous : Contiguous log₀)
    (follows : n.catalog.Follows log₀) (before after : List Arrival) {subject : Subject}
    {candidate : Candidate} {normalize : Bool}
    (first : ∀ i stage, (({ node := n } : Desk).receive (.memory log₀) before).1.place? i ≠
      some (.register subject candidate normalize, stage))
    (undeleted : ∀ i permanent stage,
      (({ node := n } : Desk).receive (.memory log₀) (before ++ after)).1.place? i =
        some (.delete subject permanent, stage) →
      ∃ offset result, (({ node := n } : Desk).receive (.memory log₀) before).1.place? i =
        some (.delete subject permanent, .finished offset result)) :
    ∃ past log, (({ node := n } : Desk).receive (.memory log₀) before).2 = .memory past ∧
      (({ node := n } : Desk).receive (.memory log₀) (before ++ after)).2 = .memory log ∧
      past <+: log ∧
      RegistersOnce n past log
        (({ node := n } : Desk).receive (.memory log₀) (before ++ after)).1
        subject candidate normalize := by
  obtain ⟨past, hpast, -, hstart⟩ :=
    (abreast_new contiguous follows).run (before.filterMap (Arrival.move? n))
  change (({ node := n } : Desk).receive (.memory log₀) before).2 = _ at hpast
  change (({ node := n } : Desk).receive (.memory log₀) before).1.Abreast _ _ at hstart
  rw [receive_append, hpast] at undeleted ⊢
  generalize (({ node := n } : Desk).receive (.memory log₀) before).1 = start at *
  -- From here on only what is appended now is counted.
  have abreast : start.Abreast past.length past :=
    { hstart with since := Nat.le_refl _, covered := fun n hle hlt => by omega }
  obtain ⟨log, hlog, grown, hend⟩ := abreast.run (after.filterMap (Arrival.move? n))
  have unanswered : start.Repeats past.length past subject candidate normalize :=
    Or.inl fun i stage answer place => absurd place (first i stage)
  exact ⟨past, log, rfl, hlog, grown,
    hend.registersOnce (unanswered.run abreast hlog undeleted)⟩

/-! ### A lost answer -/

def orders : Subject := ⟨Subject.defaultTenant, Subject.defaultContext, "orders"⟩

def lettered : Candidate := { format := .protobuf, references := [], text := "a" }

/-- The first caller leaves before the answer, and the catalog is not brought up to the new entry.
The second call comes by way of a follower. -/
def askingTwice : List Arrival :=
  [.call (.register orders lettered false), .take 0, .enter (some 0), .read none, .apply, .plan 0,
    .check 0, .push 0 none default, .leave 0, .enter (some 0), .read (some .notLeader)].map .own ++
  .handed [{ leadership := .follower (some "http://leader") }] (.register orders lettered false) ::
    [.take 1, .enter (some 1), .read none, .apply, .apply, .plan 1].map .own

/-- The answer that a task has ended with. -/
def Task.answer? (task : Task) : Option Receipt :=
  match task.stage with
  | .finished _ (.ok answer) => some answer
  | _ => none

def Task.isRegistration (task : Task) : Bool :=
  match task.errand with
  | .delete .. => false
  | .register .. => true

theorem registers_once_askingTwice :
    (({ node := {} } : Desk).receive (.memory []) askingTwice).1.tasks.map Task.answer? =
        [some (.registered ⟨1, 1⟩), some (.registered ⟨1, 1⟩)] ∧
      ∃ log, (({ node := {} } : Desk).receive (.memory []) askingTwice).2 = .memory log ∧
        log.length = 1 ∧
        RegistersOnce {} [] log (({ node := {} } : Desk).receive (.memory []) askingTwice).1 orders
          lettered false := by
  have registrations : (({ node := {} } : Desk).receive (.memory []) askingTwice).1.tasks.all
      Task.isRegistration = true := by
    decide +kernel
  have size : (({ node := {} } : Desk).receive (.memory []) askingTwice).2.size = 1 := by
    decide +kernel
  have first : ∀ i stage, (({ node := {} } : Desk).receive (.memory []) []).1.place? i ≠
      some (.register orders lettered false, stage) := by
    intro i stage place
    simp [receive, run, place?] at place
  have undeleted : ∀ i permanent stage,
      (({ node := {} } : Desk).receive (.memory []) ([] ++ askingTwice)).1.place? i =
        some (.delete orders permanent, stage) →
      ∃ offset result, (({ node := {} } : Desk).receive (.memory []) []).1.place? i =
        some (.delete orders permanent, .finished offset result) := by
    intro i permanent stage place
    obtain ⟨task, htask, hplace⟩ := Option.map_eq_some_iff.mp place
    have hreg := List.all_eq_true.mp registrations task (List.mem_of_getElem? htask)
    rw [Task.isRegistration, (Prod.mk.inj hplace).1] at hreg
    simp at hreg
  have contiguous : Contiguous [] := by
    intro k e he
    simp at he
  obtain ⟨past, log, hpast, hlog, -, once⟩ :=
    registers_once contiguous (Catalog.follows_empty []) [] askingTwice first undeleted
  obtain rfl := Store.memory.inj hpast
  refine ⟨by decide +kernel, log, hlog, ?_, once⟩
  rw [List.nil_append] at hlog
  rw [hlog] at size
  exact size

end Desk

end SchemaRegistry
