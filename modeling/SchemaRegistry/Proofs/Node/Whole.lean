import SchemaRegistry.Proofs.Node.Retry
import SchemaRegistry.Proofs.Node.View
/-!
# Writes that are done as a whole

Whatever goes wrong with the log during a write, it is done as a whole or not at all. Readings may
fail before and after the plan, the append may fail, and the node may lose its leadership at any
moment: a caller who is told of an error finds the log as it was, and one who is told of success
finds in it the one operation that was planned on all of it. A node whose catalog lags plans the
same as one that is up to date, because it reads on before it plans.

`Stage.Stands` says what is known of a task at each of its stages, as long as no other write is
under way. It is what carries the induction over all that happens in the meantime: others may go on
reading, at this node and at any other, and leadership may go from one to another.
-/

set_option autoImplicit false

namespace SchemaRegistry

/-! ## Appending as a whole -/

namespace Store

variable {s s' : Store}

/-- Whether an append that fails leaves the log as it is. -/
def AppendsWhole (s : Store) : Prop :=
  ∀ now op flaw, (s.append now op).1 = .error flaw → (s.append now op).2 = s

/-- In memory an append cannot fail at all. -/
theorem appendsWhole_memory (entries : List Entry) : (memory entries).AppendsWhole := by
  intro now op flaw failed
  simp [append] at failed

/-- A write that succeeds has met no fault, so it is the append that the log itself makes. -/
theorem append_of_write {fault : Option LogFailure} {now : Instant} {op : Op} {offset : Nat}
    (h : s.write fault now op = (.ok offset, s')) : s.append now op = (.ok offset, s') := by
  rcases fault with _ | failure
  · rw [write] at h
    rcases happend : s.append now op with ⟨outcome, longer⟩
    rw [happend] at h
    rcases outcome with flaw | n
    · simp [Except.mapError] at h
    · simpa [Except.mapError] using h
  · simp [write] at h

/-- A write fails by its fault, before the log is touched, or by the log itself, which is then as it
was. -/
theorem AppendsWhole.eq_of_write (h : s.AppendsWhole) {fault : Option LogFailure} {now : Instant}
    {op : Op} {failure : LogFailure} (failed : s.write fault now op = (.error failure, s')) :
    s' = s := by
  rcases fault with _ | device
  · have whole := h now op
    rw [write] at failed
    rcases happend : s.append now op with ⟨outcome, longer⟩
    rw [happend] at failed whole
    rcases outcome with flaw | n
    · have same : longer = s := whole flaw rfl
      simp only [Prod.mk.injEq] at failed
      rw [← failed.2, same]
    · simp [Except.mapError] at failed
  · simp only [write, Prod.mk.injEq] at failed
    exact failed.2.symm

end Store

/-! ## Answers without an entry -/

namespace Catalog

/-- Whether a version is the first live one of a subject that is equal to a candidate. -/
def FirstEqual (c : Catalog) (tenant : String) (subject : Subject) (candidate : Candidate)
    (f : Fidelity) (v : Version) : Prop :=
  v ∈ c.versions subject false ∧ ∃ resolved wanted,
    c.resolveCandidate tenant candidate = .ok resolved ∧ resolved.fingerprint f = .ok wanted ∧
    v.fingerprint f = .ok wanted ∧
    ∀ w ∈ c.versions subject false, w.number < v.number → w.fingerprint f ≠ .ok wanted

/-- What a registration is answered with when nothing is appended is the first live version that is
equal. That it is the first, and not just one of them, makes the answer the same each time. -/
theorem firstEqual_of_existing {c : Catalog} {tenant : String} {subject : Subject}
    {candidate : Candidate} {f : Fidelity} {registered : Registered} (faithful : c.Faithful)
    (sorted : c.Sorted)
    (h : Registration.plan c tenant subject candidate f = .ok (.existing registered)) :
    ∃ v, c.FirstEqual tenant subject candidate f v ∧
      registered = { id := v.id, number := v.number } := by
  obtain ⟨resolved, v, hresolved, hfind, rfl⟩ := Registration.found_of_plan h
  obtain ⟨hmem, wanted, hwanted, hprint, hfirst⟩ := first_of_find faithful sorted hfind
  exact ⟨v, ⟨hmem, resolved, wanted, hresolved, hwanted, hprint, hfirst⟩, rfl⟩

end Catalog

/-- Only a registration is ever answered without an entry, by what is there already. -/
theorem Errand.existing_of_idle {tenant : String} {c : Catalog} {errand : Errand} {answer : Receipt}
    (h : errand.plan tenant c = .ok { op := none, answer }) :
    ∃ subject candidate normalize registered, errand = .register subject candidate normalize ∧
      answer = .registered registered ∧
      Registration.plan c tenant subject candidate (.ofNormalize normalize) =
        .ok (.existing registered) := by
  rcases errand with ⟨subject, permanent⟩ | ⟨subject, candidate, normalize⟩
  · rw [plan, Node.planFor] at h
    rcases hplan : Deletion.plan c subject (.ofPermanent permanent) with e | ⟨op, record⟩
    · simp [hplan, Except.map] at h
    · simp [hplan, Except.map, Decision.map] at h
  · obtain ⟨registered, hanswer, planned⟩ := existing_of_plan h
    exact ⟨subject, candidate, normalize, registered, rfl, hanswer, planned⟩

/-! ## A task by itself -/

namespace Stage

def hasEnded : Stage → Bool
  | finished .. => true
  | _ => false

end Stage

def Move.isCall : Move → Bool
  | call _ => true
  | _ => false

namespace Desk

variable {d d' : Desk} {s s' : Store} {i k : Nat} {errand other : Errand} {stage : Stage}
  {move : Move}

/-- Whether all tasks but one have ended. -/
def Alone (d : Desk) (i : Nat) : Prop :=
  ∀ k errand stage, d.place? k = some (errand, stage) → k = i ∨ stage.hasEnded = true

/-- A task that has ended stays as it is. -/
theorem Proceeds.eq_of_hasEnded {leads : Bool} {old : Stage} (h : Proceeds leads old stage)
    (ended : old.hasEnded = true) : stage = old := by
  cases h with
  | stays => rfl
  | _ => simp [Stage.hasEnded] at ended

/-- No task is new unless it was called for. -/
theorem Turn.exists_old (h : d.Turn s move d' s') (calm : move.isCall = false)
    (place' : d'.place? k = some (errand, stage)) :
    ∃ old, d.place? k = some (errand, old) ∧ Proceeds d.node.believes.isLeader old stage := by
  rcases h.proceeds place' with old | ⟨none, -⟩
  · exact old
  · exfalso
    have task_of : ∀ {d₁ : Desk}, d₁.tasks.length = d.tasks.length → d₁.place? k = Option.none := by
      intro d₁ hlength
      rw [place?, Option.map_eq_none_iff, List.getElem?_eq_none_iff] at none ⊢
      omega
    have gone : d'.place? k = Option.none := by
      cases h with
      | called => simp [Move.isCall] at calm
      | unread _ _ released | caughtUp _ released =>
        cases released <;> exact task_of (by simp [put, finish])
      | _ => exact task_of (by simp [put, finish, leave])
    simp [gone] at place'

/-- No task that has ended begins again, and none is new without a call. -/
theorem Alone.turn (h : d.Alone i) (hturn : d.Turn s move d' s') (calm : move.isCall = false) :
    d'.Alone i := by
  intro k errand stage place'
  obtain ⟨old, place, proceeds⟩ := hturn.exists_old calm place'
  refine (h k errand old place).imp_right fun ended => ?_
  rw [proceeds.eq_of_hasEnded ended]
  exact ended

/-- What a task that was called for on a log has come to, and what the log has come to meanwhile. -/
inductive Stands (tenant : String) (errand : Errand) (s : Store) (d : Desk) (i : Nat) :
    Stage → Store → Prop where
  | waiting : Stands tenant errand s d i .waiting s
  /-- What has been read for the task goes to the end of the log. -/
  | syncing (bound : ∀ rest, d.applier = .applying (some i) rest →
      s.EndsBy (Catalog.lastOffset rest d.node.catalog.applied)) :
      Stands tenant errand s d i .syncing s
  | planning (caught : s.EndsBy d.node.catalog.applied) : Stands tenant errand s d i .planning s
  | appending {op : Op} {answer : Receipt}
      (planned : errand.plan tenant (.ofEntries s.entries) = .ok { op := some op, answer }) :
      Stands tenant errand s d i (.appending op answer) s
  | pushing {op : Op} {answer : Receipt}
      (planned : errand.plan tenant (.ofEntries s.entries) = .ok { op := some op, answer }) :
      Stands tenant errand s d i (.pushing op answer) s
  | settling {op : Op} {answer : Receipt} {now : Instant} {offset : Nat} {s' : Store}
      (planned : errand.plan tenant (.ofEntries s.entries) = .ok { op := some op, answer })
      (written : s.append now op = (.ok offset, s')) :
      Stands tenant errand s d i (.settling offset answer) s'
  | failed (e : Error) : Stands tenant errand s d i (.finished none (.error e)) s
  | idle {answer : Receipt}
      (planned : errand.plan tenant (.ofEntries s.entries) = .ok { op := none, answer }) :
      Stands tenant errand s d i (.finished none (.ok answer)) s
  | done {op : Op} {answer : Receipt} {now : Instant} {offset : Nat} {s' : Store}
      (planned : errand.plan tenant (.ofEntries s.entries) = .ok { op := some op, answer })
      (written : s.append now op = (.ok offset, s')) :
      Stands tenant errand s d i (.finished (some offset) (.ok answer)) s'

variable {tenant : String} {s₀ : Store}

/-- A task stands where it did when its desk has seen no less, and has read to the end of the log
whatever it has read for the task. -/
theorem Stands.mono (h : Stands tenant errand s₀ d i stage s)
    (applied_le : d.node.catalog.applied ≤ d'.node.catalog.applied)
    (bound : stage = .syncing → s = s₀ → ∀ rest, d'.applier = .applying (some i) rest →
      s.EndsBy (Catalog.lastOffset rest d'.node.catalog.applied)) :
    Stands tenant errand s₀ d' i stage s := by
  cases h with
  | waiting => exact .waiting
  | syncing => exact .syncing (bound rfl rfl)
  | planning caught => exact .planning fun e he => (caught e he).trans applied_le
  | appending planned => exact .appending planned
  | pushing planned => exact .pushing planned
  | settling planned written => exact .settling planned written
  | failed e => exact .failed e
  | idle planned => exact .idle planned
  | done planned written => exact .done planned written

/-- Only what the catalog has and what the applier is at matter for where a task stands. Who has
left and who leads do not. -/
theorem Stands.congr (h : Stands tenant errand s₀ d i stage s)
    (hcatalog : d'.node.catalog = d.node.catalog) (happlier : d'.applier = d.applier) :
    Stands tenant errand s₀ d' i stage s := by
  refine h.mono (by rw [hcatalog]) fun hstage _ rest hrest => ?_
  subst hstage
  rw [happlier] at hrest
  rw [hcatalog]
  cases h with
  | syncing bound => exact bound rest hrest

/-! ### The task and the moves -/

/-- Of all tasks that a move could concern this is the one: a move is about a task that has not
ended, and the others have. -/
theorem Alone.eq_of_unended (h : d.Alone i) (place : d.place? i = some (errand, stage))
    {old : Stage} (place' : d.place? k = some (other, old)) (unended : old.hasEnded = false) :
    k = i ∧ other = errand ∧ old = stage := by
  rcases h k other old place' with rfl | ended
  · rw [place] at place'
    simp only [Option.some.injEq, Prod.mk.injEq] at place'
    exact ⟨rfl, place'.1.symm, place'.2.symm⟩
  · simp [unended] at ended

/-- Where some task goes to another stage it is this one, so what has to be said of the stage may
start from where the task stood. -/
theorem Stands.put (h : Stands tenant errand s₀ d i stage s) (alone : d.Alone i)
    (place : d.place? i = some (errand, stage)) {old next : Stage}
    (place' : d.place? k = some (other, old)) (unended : old.hasEnded = false) {lock : Option Nat}
    {applier : Applier}
    (moves : k = i → other = errand → Stands tenant errand s₀ d i old s →
      Stands tenant errand s₀ { d.put i next with lock, applier } i next s') :
    ∃ stage', ({ d.put k next with lock, applier } : Desk).place? i = some (errand, stage') ∧
      Stands tenant errand s₀ { d.put k next with lock, applier } i stage' s' := by
  obtain ⟨rfl, rfl, rfl⟩ := alone.eq_of_unended place place' unended
  exact ⟨next, place?_put_self place' next, moves rfl rfl h⟩

/-- Nothing has been read for a task that waits: the applier works for no task but one that has the
lock. -/
theorem Stands.taken (h : Stands tenant errand s₀ d i .waiting s)
    (place : d.place? i = some (errand, .waiting)) (locked : d.Locked)
    (happlier : d'.applier = d.applier) : Stands tenant errand s₀ d' i .syncing s := by
  cases h with
  | waiting =>
    refine .syncing fun rest applying => ?_
    have howner : d.applier.owner? = some i := by rw [← happlier, applying, Applier.owner?]
    obtain ⟨other, old, place', syncing⟩ := locked.owner_syncing howner
    rw [place] at place'
    simp only [Option.some.injEq, Prod.mk.injEq] at place'
    simp [← place'.2, Stage.isSyncing] at syncing

/-- When the applier has been at the end of what it read for the task, so has the catalog, and the
task plans on all of the log. A task for which the reading failed fails, unless it has its entry. -/
theorem Stands.released (h : Stands tenant errand s₀ d i stage s) (alone : d.Alone i)
    (place : d.place? i = some (errand, stage)) {owner : Option Nat}
    {outcome : Except LogFailure Unit} (released : d.Released owner outcome d')
    (atEnd : outcome = .ok () → d.applier = .applying owner []) :
    ∃ stage', d'.place? i = some (errand, stage') ∧ Stands tenant errand s₀ d' i stage' s := by
  cases released with
  | unowned => exact ⟨stage, place, h.mono (Nat.le_refl _) (by simp)⟩
  | ready place' =>
    refine h.put alone place place' rfl ?_
    rintro rfl - stands
    cases stands with
    | syncing bound => exact .planning (bound [] (atEnd rfl))
  | failed place' =>
    refine h.put alone place place' rfl fun _ _ stands => ?_
    cases stands with
    | syncing => exact .failed _
  | settled _ place' =>
    refine h.put alone place place' rfl fun _ _ stands => ?_
    cases stands with
    | settling planned written => exact .done planned written

/-- A reading goes to the end of the log, whatever task it is for. -/
theorem Stands.read (h : Stands tenant errand s₀ d i stage s) (watches : d.Watches s)
    (ordered : s.Ordered) {owner : Option Nat} {applied : Nat} {fault : Option LogFailure}
    {entries : List Entry} (applier : d.applier = .reading owner applied)
    (entries_eq : s.read fault applied = .ok entries) :
    Stands tenant errand s₀ { d with applier := .applying owner entries } i stage s := by
  refine h.mono (Nat.le_refl _) fun _ _ rest happlier => ?_
  have next := watches.next
  rw [applier] at next
  obtain rfl : applied = d.node.catalog.applied := next
  simp only [Applier.applying.injEq] at happlier
  rw [← happlier.2, ordered.read_eq entries_eq]
  exact (Catalog.lastOffset_behind ordered _).1

/-- One entry less is ahead, and the catalog is one entry further: they go to the same end. -/
theorem Stands.applied (h : Stands tenant errand s₀ d i stage s) (watches : d.Watches s)
    (ordered : s.Ordered) {owner : Option Nat} {entry : Entry} {rest : List Entry}
    (applier : d.applier = .applying owner (entry :: rest)) :
    Stands tenant errand s₀
      { d with
        node := { d.node with catalog := d.node.catalog.apply entry }
        applier := .applying owner rest } i stage s := by
  have next := watches.next
  rw [applier] at next
  obtain ⟨-, happlied, -⟩ := watches.views.apply_next ordered next
  refine h.mono ?_ fun hstage _ more happlier => ?_
  · change _ ≤ (d.node.catalog.apply entry).applied
    rw [Catalog.applied_apply]
    omega
  · simp only [Applier.applying.injEq] at happlier
    obtain ⟨rfl, rfl⟩ := happlier
    cases h with
    | syncing bound =>
      change s.EndsBy (Catalog.lastOffset rest (d.node.catalog.apply entry).applied)
      rw [happlied, ← Catalog.lastOffset_cons entry rest d.node.catalog.applied]
      exact bound _ applier
    | _ => simp at hstage

/-- A task that plans has the whole log in its catalog, and nobody has appended since its call. -/
theorem Stands.plan_eq (h : Stands tenant errand s₀ d i .planning s)
    (htenant : d.node.settings.tenant = tenant) (watches : d.Watches s) :
    s = s₀ ∧ errand.plan d.node.settings.tenant d.node.catalog =
      errand.plan tenant (.ofEntries s₀.entries) := by
  cases h with
  | planning caught => exact ⟨rfl, by rw [htenant, watches.views.eq_of_endsBy caught]⟩

/-- What is pushed is appended to the log of the call. -/
theorem Stands.pushed {op : Op} {answer : Receipt}
    (h : Stands tenant errand s₀ d i (.pushing op answer) s) {fault : Option LogFailure}
    {now : Instant} {offset : Nat} (written : s.write fault now op = (.ok offset, s')) :
    Stands tenant errand s₀ d' i (.settling offset answer) s' := by
  cases h with
  | pushing planned => exact .settling planned (Store.append_of_write written)

/-- An append that fails leaves the log of the call as it was. -/
theorem Stands.unwritten {op : Op} {answer : Receipt}
    (h : Stands tenant errand s₀ d i (.pushing op answer) s) (whole : s₀.AppendsWhole)
    {fault : Option LogFailure} {now : Instant} {failure : LogFailure}
    (failed : s.write fault now op = (.error failure, s')) :
    Stands tenant errand s₀ d' i (.finished none (.error failure.error)) s' := by
  cases h with
  | pushing planned =>
    rw [whole.eq_of_write failed]
    exact .failed _

/-- No turn of the desk but a call leads the task astray. -/
theorem Stands.turn (h : Stands tenant errand s₀ d i stage s)
    (place : d.place? i = some (errand, stage)) (alone : d.Alone i) (locked : d.Locked)
    (htenant : d.node.settings.tenant = tenant) (watches : d.Watches s) (ordered : s.Ordered)
    (whole : s₀.AppendsWhole) (hturn : d.Turn s move d' s') (calm : move.isCall = false) :
    ∃ stage', d'.place? i = some (errand, stage') ∧ Stands tenant errand s₀ d' i stage' s' := by
  cases hturn with
  | still => exact ⟨stage, place, h⟩
  | called => simp [Move.isCall] at calm
  | left j => exact ⟨stage, by rw [place?_leave, place], h.congr rfl rfl⟩
  -- The applier moves, and the task stands where it stood.
  | entered | dropped => exact ⟨stage, place, h.mono (Nat.le_refl _) (by simp)⟩
  | read applier entries_eq => exact ⟨stage, place, h.read watches ordered applier entries_eq⟩
  | applied applier => exact ⟨stage, place, h.applied watches ordered applier⟩
  | unread _ _ released => exact h.released alone place released (by simp)
  | caughtUp applier released => exact h.released alone place released fun _ => applier
  -- The task moves.
  | taken place' =>
    refine h.put alone place place' rfl ?_
    rintro rfl rfl stands
    exact stands.taken place' locked rfl
  | refused place' =>
    refine h.put alone place place' rfl fun _ _ stands => ?_
    obtain ⟨rfl, -⟩ := stands.plan_eq htenant watches
    exact .failed _
  | idle place' planned =>
    refine h.put alone place place' rfl ?_
    rintro - rfl stands
    obtain ⟨rfl, plan_eq⟩ := stands.plan_eq htenant watches
    exact .idle (plan_eq.symm.trans planned)
  | planned place' planned =>
    refine h.put alone place place' rfl ?_
    rintro - rfl stands
    obtain ⟨rfl, plan_eq⟩ := stands.plan_eq htenant watches
    exact .appending (plan_eq.symm.trans planned)
  | checked place' =>
    refine h.put alone place place' rfl fun _ _ stands => ?_
    cases stands with
    | appending planned => exact .pushing planned
  | deposed place' =>
    refine h.put alone place place' rfl fun _ _ stands => ?_
    cases stands with
    | appending => exact .failed _
  | pushed place' written =>
    exact h.put alone place place' rfl fun _ _ stands => stands.pushed written
  | unwritten place' failed =>
    exact h.put alone place place' rfl fun _ _ stands => stands.unwritten whole failed

/-- Whether all tasks have ended. -/
def Rests (d : Desk) : Prop :=
  ∀ i errand stage, d.place? i = some (errand, stage) → stage.hasEnded = true

/-- A desk at rest reads and applies, and writes nothing. -/
theorem Rests.turn (h : d.Rests) (hturn : d.Turn s move d' s') (calm : move.isCall = false) :
    d'.Rests ∧ s' = s := by
  constructor
  · intro i errand stage place'
    obtain ⟨old, place, proceeds⟩ := hturn.exists_old calm place'
    rw [proceeds.eq_of_hasEnded (h i errand old place)]
    exact h i errand old place
  · cases hturn with
    | pushed place | unwritten place =>
      have ended := h _ _ _ place
      simp [Stage.hasEnded] at ended
    | _ => rfl

end Desk

/-! ## What comes of a write -/

/-- What has come of a write that was called for on a log, at a node that had a catalog of it. -/
structure WriteLaws (tenant : String) (errand : Errand) (s : Store) (c : Catalog) (stage : Stage)
    (s' : Store) (c' : Catalog) : Prop where
  /-- Whoever is told of an error finds the log as it was. -/
  failed : ∀ offset e, stage = .finished offset (.error e) → s' = s
  /-- Whoever is told of success finds one more entry, with what was planned on all that was there.
  Only a registration may find the log as it was, if an equal schema was live already. -/
  answered : ∀ offset answer, stage = .finished offset (.ok answer) →
    (∃ op now n, offset = some n ∧
        errand.plan tenant (.ofEntries s.entries) = .ok { op := some op, answer } ∧
        s.append now op = (.ok n, s')) ∨
      s' = s ∧ ∃ subject candidate normalize v,
        errand = .register subject candidate normalize ∧
        (Catalog.ofEntries s.entries).FirstEqual tenant subject candidate
          (.ofNormalize normalize) v ∧
        answer = .registered { id := v.id, number := v.number }
  /-- A write that has its entry has succeeded, or it is about to. -/
  committed : s' ≠ s →
    ∃ n answer, stage = .settling n answer ∨ stage = .finished (some n) (.ok answer)
  /-- The node sees the log up to some entry, and no less of it than before. -/
  view : ∃ seen, s.upTo c.applied <+: seen ∧ seen <+: s'.entries ∧ c' = .ofEntries seen

namespace Desk

variable {d : Desk} {s s' : Store} {i : Nat} {errand : Errand} {stage : Stage} {tenant : String}

/-- At each stage the log is that of the call, or it has one more entry. -/
theorem Stands.grows (h : Stands tenant errand s d i stage s') : s.Grows s' := by
  cases h with
  | settling planned written | done planned written =>
    rename_i op answer now offset
    have grown := s.grows_append now op
    rwa [written] at grown
  | _ => exact .refl s

/-- **What has come of a write is told by where its task stands.** Its two ends with a success are
those with an entry and without, and at both the plan was made on all that the log of the call had.
-/
theorem Stands.writeLaws (h : Stands tenant errand s d i stage s') {c : Catalog}
    (watches : d.Watches s') (ordered : s'.Ordered)
    (applied_le : c.applied ≤ d.node.catalog.applied) :
    WriteLaws tenant errand s c stage s' d.node.catalog where
  failed offset e hstage := by
    cases h with
    | failed => rfl
    | _ => simp at hstage
  answered offset answer hstage := by
    cases h with
    -- Without an entry the answer names a version that is there already.
    | idle planned =>
      simp only [Stage.finished.injEq, Except.ok.injEq] at hstage
      obtain ⟨-, rfl⟩ := hstage
      obtain ⟨subject, candidate, normalize, registered, rfl, rfl, existing⟩ :=
        Errand.existing_of_idle planned
      obtain ⟨v, first, rfl⟩ := Catalog.firstEqual_of_existing (Catalog.faithful_ofEntries _)
        (Catalog.sorted_ofEntries _) existing
      exact Or.inr ⟨rfl, subject, candidate, normalize, v, rfl, first, rfl⟩
    | done planned written =>
      rename_i op given now n
      simp only [Stage.finished.injEq, Except.ok.injEq] at hstage
      obtain ⟨rfl, rfl⟩ := hstage
      exact Or.inl ⟨op, now, n, rfl, planned, written⟩
    | _ => simp at hstage
  committed grown := by
    cases h with
    | settling | done => simp
    | _ => exact absurd rfl grown
  view := by
    -- The catalog shows the entries up to its place, which are the front of an ordered log.
    have front := Store.upTo_prefix ordered h.grows.entries applied_le
    exact ⟨s'.upTo d.node.catalog.applied, front,
      ⟨_, ordered.upTo_append_behind d.node.catalog.applied⟩, watches.views⟩

end Desk

/-! ## Fleets -/

namespace Fleet

variable {f : Fleet} {j k i : Nat} {d e : Desk} {errand : Errand}

/-- What nodes come to that have joined one by one, whatever the log holds and whoever writes to it.
-/
def Reachable (f : Fleet) : Prop :=
  ∃ s events, s.Ordered ∧ f = (unread s).meetAll events

/-- Whether no write is under way. -/
def Rests (f : Fleet) : Prop :=
  ∀ j d, f.desk? j = some d → d.Rests

def Action.isCall : Action → Bool
  | act _ move => move.isCall
  | lead .. => false

def Locked (f : Fleet) : Prop :=
  ∀ j d, f.desk? j = some d → d.Locked

/-- Whatever happens to a fleet, each of its nodes keeps its own lock in order. A node that joins
has none yet. -/
theorem Locked.meet (h : f.Locked) (event : Event) : (f.meet event).Locked := by
  intro j d' hd'
  rcases desk?_meet_cases hd' with
    ⟨d, hd, ⟨move, -, hturn⟩ | ⟨leadership, rfl⟩⟩ | ⟨-, settings, leadership, rfl⟩
  · exact (h j d hd).turn hturn
  · have locked := h j d hd
    exact ⟨locked.exclusive, locked.owner_syncing⟩
  · exact Desk.locked_new _

theorem Locked.meetAll (h : f.Locked) (events : List Event) : (f.meetAll events).Locked := by
  induction events generalizing f with
  | nil => exact h
  | cons event events ih => exact ih (h.meet event)

theorem Reachable.watched_locked (h : f.Reachable) : f.Watched ∧ f.Locked := by
  obtain ⟨s, events, ordered, rfl⟩ := h
  have start : (unread s).Locked := by
    intro j d hd
    simp [unread, desk?] at hd
  exact ⟨(watched_unread ordered).meetAll events, start.meetAll events⟩

/-- What holds of a fleet while one task is the only one that has not ended. -/
structure Writing (tenant : String) (errand : Errand) (s : Store) (c : Catalog) (j i : Nat)
    (f : Fleet) (d : Desk) (stage : Stage) : Prop where
  watched : f.Watched
  locked : f.Locked
  desk : f.desk? j = some d
  place : d.place? i = some (errand, stage)
  stands : Desk.Stands tenant errand s d i stage f.store
  tenant_eq : d.node.settings.tenant = tenant
  applied_le : c.applied ≤ d.node.catalog.applied
  alone : d.Alone i
  others : ∀ k e, k ≠ j → f.desk? k = some e → e.Rests

variable {tenant : String} {s : Store} {c : Catalog} {stage : Stage}

/-- A move at the desk of the task. -/
theorem Writing.act_self (h : Writing tenant errand s c j i f d stage) (whole : s.AppendsWhole)
    {move : Move} (calm : move.isCall = false) :
    ∃ d' stage', Writing tenant errand s c j i (f.act j move) d' stage' := by
  have watched : (f.act j move).Watched := h.watched.meet (.action (.act j move))
  have locked : (f.act j move).Locked := h.locked.meet (.action (.act j move))
  have hturn := d.turn_step f.store move
  obtain ⟨stage', place', stands⟩ := h.stands.turn h.place h.alone (h.locked j d h.desk)
    h.tenant_eq (h.watched.watches h.desk) h.watched.ordered whole hturn calm
  have applied_le : d.node.catalog.applied ≤ (d.step f.store move).1.node.catalog.applied := by
    rcases hturn.catalog_cases with same | ⟨owner, entry, rest, -, happly⟩
    · rw [same]
    · rw [happly, Catalog.applied_apply]
      omega
  rw [act_eq h.desk] at watched locked ⊢
  refine ⟨_, stage', watched, locked, desk?_put_self h.desk _ _, place', stands,
    hturn.settings_eq ▸ h.tenant_eq, h.applied_le.trans applied_le, h.alone.turn hturn calm,
    fun l e hl he => ?_⟩
  rw [desk?_put_ne hl] at he
  exact h.others l e hl he

/-- A move at another desk, whose tasks have all ended. -/
theorem Writing.act_other (h : Writing tenant errand s c j i f d stage) (hk : f.desk? k = some e)
    (hkj : k ≠ j) {move : Move} (calm : move.isCall = false) :
    Writing tenant errand s c j i (f.act k move) d stage := by
  have watched : (f.act k move).Watched := h.watched.meet (.action (.act k move))
  have locked : (f.act k move).Locked := h.locked.meet (.action (.act k move))
  obtain ⟨rests, hstore⟩ := (h.others k e hkj hk).turn (e.turn_step f.store move) calm
  rw [act_eq hk, hstore] at watched locked ⊢
  refine ⟨watched, locked, ?_, h.place, h.stands, h.tenant_eq, h.applied_le, h.alone,
    fun l e' hl he' => ?_⟩
  · rw [desk?_put_ne (Ne.symm hkj)]
    exact h.desk
  · rcases desk?_put_cases hk he' with ⟨-, rfl⟩ | ⟨-, he'⟩
    · exact rests
    · exact h.others l e' hl he'

/-- Some node learns who leads. -/
theorem Writing.tell (h : Writing tenant errand s c j i f d stage) (k : Nat)
    (leadership : Leadership) (watched : (f.tell k leadership).Watched)
    (locked : (f.tell k leadership).Locked) :
    ∃ d', Writing tenant errand s c j i (f.tell k leadership) d' stage := by
  have desk' : (f.tell k leadership).desk? j = some (if k = j then d.told leadership else d) := by
    rw [desk?_tell, h.desk, Option.map_some]
  have others : ∀ l e, l ≠ j → (f.tell k leadership).desk? l = some e → e.Rests := by
    intro l e hl he
    rcases desk?_tell_cases he with ⟨e', -, he', rfl⟩ | ⟨-, he'⟩
    · exact h.others l e' hl he'
    · exact h.others l e hl he'
  by_cases hkj : k = j
  · rw [if_pos hkj] at desk'
    exact ⟨d.told leadership, watched, locked, desk', h.place, h.stands.congr rfl rfl, h.tenant_eq,
      h.applied_le, h.alone, others⟩
  · rw [if_neg hkj] at desk'
    exact ⟨d, watched, locked, desk', h.place, h.stands, h.tenant_eq, h.applied_le, h.alone, others⟩

/-- An action concerns the desk of the task, another desk, or who leads, and the task stays the only
one in all three. -/
theorem Writing.step (h : Writing tenant errand s c j i f d stage) (whole : s.AppendsWhole)
    {action : Action} (calm : action.isCall = false) :
    ∃ d' stage', Writing tenant errand s c j i (f.step action) d' stage' := by
  rcases action with ⟨k, move⟩ | ⟨k, leadership⟩
  · rw [Fleet.step]
    rcases hk : f.desk? k with _ | e
    · rw [act, hk]
      exact ⟨d, stage, h⟩
    · by_cases hkj : k = j
      · rw [hkj]
        exact h.act_self whole calm
      · exact ⟨d, stage, h.act_other hk hkj calm⟩
  · have watched : (f.lead k leadership).Watched := h.watched.meet (.action (.lead k leadership))
    have locked : (f.lead k leadership).Locked := h.locked.meet (.action (.lead k leadership))
    rw [Fleet.step]
    rcases f.lead_cases k leadership with same | ⟨-, told⟩
    · rw [same]
      exact ⟨d, stage, h⟩
    · rw [told] at watched locked ⊢
      obtain ⟨d', h'⟩ := h.tell k leadership watched locked
      exact ⟨d', stage, h'⟩

/-- What one action keeps a run keeps. How the actions are ordered plays no part. -/
theorem Writing.run (h : Writing tenant errand s c j i f d stage) (whole : s.AppendsWhole)
    {actions : List Action} (calm : ∀ action ∈ actions, action.isCall = false) :
    ∃ d' stage', Writing tenant errand s c j i (f.run actions) d' stage' := by
  induction actions generalizing f d stage with
  | nil => exact ⟨d, stage, h⟩
  | cons action actions ih =>
    obtain ⟨first, rest⟩ := List.forall_mem_cons.mp calm
    obtain ⟨d', stage', h'⟩ := h.step whole first
    exact ih h' rest

/-- A call at rest. -/
theorem writing_call (watched : f.Watched) (locked : f.Locked) (rests : f.Rests)
    (hd : f.desk? j = some d) (accepted : errand.accept d.node = .ok ())
    (route : d.node.believes.route = .ok .here) :
    ∃ d', Writing d.node.settings.tenant errand f.store d.node.catalog j d.tasks.length
      (f.step (.act j (.call errand))) d' .waiting := by
  have watched' : (f.act j (.call errand)).Watched := watched.meet (.action (.act j (.call errand)))
  have locked' : (f.act j (.call errand)).Locked := locked.meet (.action (.act j (.call errand)))
  have hcall : d.step f.store (.call errand) =
      ({ d with tasks := d.tasks ++ [{ errand }] }, f.store) := by
    simp only [Desk.step, Desk.call, accepted, route]
  rw [Fleet.step]
  rw [act_eq hd, hcall] at watched' locked' ⊢
  refine ⟨_, watched', locked', desk?_put_self hd _ _,
    Desk.place?_concat.mpr (Or.inr ⟨rfl, rfl⟩), .waiting, rfl, Nat.le_refl _,
    fun k other stage place => ?_, fun k e hk he => ?_⟩
  · rcases Desk.place?_concat.mp place with old | ⟨hnew, -⟩
    · exact Or.inr (rests j d hd k other stage old)
    · exact Or.inl hnew
  · rw [desk?_put_ne hk] at he
    exact rests k e he

/-- A write that nobody interferes with is done as a whole or not at all, whatever fails in its
course. One that the node does not accept changes nothing. -/
theorem writes_whole (reachable : f.Reachable) (rests : f.Rests) (whole : f.store.AppendsWhole)
    (hd : f.desk? j = some d) (route : d.node.believes.route = .ok .here) (errand : Errand)
    {actions : List Action} (calm : ∀ action ∈ actions, action.isCall = false) :
    (∀ e, errand.accept d.node = .error e →
      f.step (.act j (.call errand)) = f ∧
        d.node.catalog = .ofEntries (f.store.upTo d.node.catalog.applied)) ∧
    (errand.accept d.node = .ok () → ∃ d' stage,
      ((f.step (.act j (.call errand))).run actions).desk? j = some d' ∧
        d'.place? d.tasks.length = some (errand, stage) ∧
        WriteLaws d.node.settings.tenant errand f.store d.node.catalog stage
          ((f.step (.act j (.call errand))).run actions).store d'.node.catalog) := by
  obtain ⟨watched, locked⟩ := reachable.watched_locked
  refine ⟨fun e refused => ⟨?_, (watched.watches hd).views⟩, fun accepted => ?_⟩
  · have hcall : d.step f.store (.call errand) = (d, f.store) := by
      simp only [Desk.step, Desk.call, refused]
    have same : f.desks.set j d = f.desks := by
      obtain ⟨hlt, hget⟩ := List.getElem?_eq_some_iff.mp hd
      rw [← hget, List.set_getElem_self]
    rw [Fleet.step, act_eq hd, hcall, put, same]
  · obtain ⟨d₁, start⟩ := writing_call watched locked rests hd accepted route
    obtain ⟨d', stage, h⟩ := start.run whole calm
    exact ⟨d', stage, h.desk, h.place,
      h.stands.writeLaws (h.watched.watches h.desk) h.watched.ordered h.applied_le⟩

/-! ### A write with little luck -/

/-- A leader that has not read the one entry of its log. -/
def lagging : Fleet :=
  (unread (.memory [])).meetAll
    [.join {} .leader,
      .append default (.register
        { subject := ⟨Subject.defaultTenant, Subject.defaultContext, "payments"⟩, number := 1
          id := 1, format := .protobuf, references := [], text := "b", isDeleted := false })]

/-- The leader loses its leadership before it appends, and cannot read what it has appended. -/
def withLittleLuck : List Action :=
  [.take 0, .enter (some 0), .read none, .apply, .apply, .plan 0, .check 0].map (.act 0) ++
    .lead 0 (.follower none) ::
    [.push 0 none default, .enter (some 0), .read (some .notLeader)].map (.act 0)

theorem writes_whole_withLittleLuck :
    (((lagging.step (.act 0 (.call (.register Desk.orders Desk.lettered false)))).run
        withLittleLuck).desks.map fun d =>
          (d.node.catalog.applied, d.tasks.map Desk.Task.answer?)) =
      [(1, [some (.registered ⟨2, 1⟩)])] ∧
    ∃ d d' stage, lagging.desk? 0 = some d ∧
      ((lagging.step (.act 0 (.call (.register Desk.orders Desk.lettered false)))).run
        withLittleLuck).desk? 0 = some d' ∧
      WriteLaws Subject.defaultTenant (.register Desk.orders Desk.lettered false) lagging.store
        d.node.catalog stage
        ((lagging.step (.act 0 (.call (.register Desk.orders Desk.lettered false)))).run
          withLittleLuck).store d'.node.catalog := by
  have ordered : (Store.memory []).Ordered := by
    intro k e he
    simp at he
  have reachable : lagging.Reachable := ⟨.memory [], _, ordered, rfl⟩
  have rests : lagging.Rests := by
    intro j d hd i errand stage place
    obtain rfl : d = { node := { leadership := .leader } } :=
      List.mem_singleton.mp (List.mem_of_getElem? hd)
    simp [Desk.place?] at place
  have calm : ∀ action ∈ withLittleLuck, action.isCall = false := by
    simp [withLittleLuck, Action.isCall, Move.isCall]
  have leading : lagging.desk? 0 = some { node := { leadership := .leader } } := rfl
  obtain ⟨d', stage, hd', -, laws⟩ :=
    (writes_whole reachable rests (Store.appendsWhole_memory _) leading rfl
      (.register Desk.orders Desk.lettered false) calm).2 rfl
  exact ⟨by decide +kernel, _, d', stage, rfl, hd', laws⟩

end Fleet

end SchemaRegistry
