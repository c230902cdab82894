import SchemaRegistry.Node.Fleet
import SchemaRegistry.Proofs.Node.Lock
import SchemaRegistry.Proofs.Node.Write
/-!
# A desk on a shared log

A desk that shares its log with others cannot know the whole of it: while a task plans, others may
append. What the desk does know is a part of the log, and how much that is can be followed from turn
to turn. `Desk.Knows log b` says that every plan of the desk has been made, or will be made, on the
first `m` entries of the log for some `m` that is at least `b`. A desk loses no such knowledge by a
turn of its own, and none by an append of somebody else.

An append of its own leaves the desk with no plan at all, since the lock was with the task that
appended. So a desk always knows its own entries: this is `Desk.Shares`.
-/

set_option autoImplicit false

namespace SchemaRegistry

variable {log log' : List Entry}

/-! ## Turns and the log -/

/-- What a write to a log in memory comes to. -/
theorem Contiguous.write_cases (h : Contiguous log) {fault : Option LogFailure} {now : Instant}
    {op : Op} {outcome : Except LogFailure Nat}
    (written : (Store.memory log).write fault now op = (outcome, .memory log')) :
    (∃ failure, outcome = .error failure ∧ log' = log) ∨
      outcome = .ok (log.length + 1) ∧ log' = log ++ [Entry.next log op now] := by
  cases fault with
  | some failure =>
    cases written
    exact Or.inl ⟨failure, rfl, rfl⟩
  | none =>
    rw [h.write_none] at written
    cases written
    exact Or.inr ⟨rfl, rfl⟩

/-- Whatever comes of a move, the log stays in memory and loses nothing. -/
theorem Desk.Turn.exists_log (contiguous : Contiguous log) {d d' : Desk} {move : Move} {s' : Store}
    (h : d.Turn (.memory log) move d' s') :
    ∃ log', s' = .memory log' ∧ log <+: log' ∧ Contiguous log' := by
  have written : ∀ {fault : Option LogFailure} {now : Instant} {op : Op}
      {outcome : Except LogFailure Nat}, (Store.memory log).write fault now op = (outcome, s') →
      ∃ log', s' = .memory log' ∧ log <+: log' ∧ Contiguous log' := by
    intro fault now op outcome hwrite
    cases fault with
    | some failure =>
      cases hwrite
      exact ⟨log, rfl, List.prefix_rfl, contiguous⟩
    | none =>
      rw [contiguous.write_none] at hwrite
      cases hwrite
      exact ⟨_, rfl, List.prefix_append _ _, contiguous.append op now⟩
  cases h with
  | pushed _ hwrite => exact written hwrite
  | unwritten _ hwrite => exact written hwrite
  | _ => exact ⟨log, rfl, List.prefix_rfl, contiguous⟩

/-! ## What a desk has read -/

/-- Entries that the applier has still to apply are the next ones. -/
def Applier.Ahead (log : List Entry) (c : Catalog) : Applier → Prop
  | .free => True
  | .reading _ applied => applied = c.applied
  | .applying _ rest => rest <+: log.drop c.applied

namespace Desk

variable {d d' : Desk} {i : Nat} {errand : Errand} {old stage : Stage} {b : Nat}

/-- Whether what a desk has read of the log is what the log says. -/
structure Reads (d : Desk) (log : List Entry) : Prop where
  follows : d.node.catalog.Follows log
  ahead : d.applier.Ahead log d.node.catalog

/-- What has been read stays right when others append, since the log goes on where it ended. -/
theorem Reads.mono (h : d.Reads log) (grown : log <+: log') : d.Reads log' := by
  refine ⟨h.follows.mono grown, ?_⟩
  have hahead := h.ahead
  have hle := h.follows.applied_le
  cases happlier : d.applier with
  | free => trivial
  | reading owner applied =>
    rw [happlier] at hahead
    exact hahead
  | applying owner rest =>
    rw [happlier] at hahead
    obtain ⟨more, rfl⟩ := grown
    change rest <+: (log ++ more).drop d.node.catalog.applied
    rw [List.drop_append_of_le_length hle]
    exact hahead.trans (List.prefix_append _ _)

/-- An applier that becomes free has nothing left ahead of the catalog. -/
theorem Reads.released (h : d.Reads log) {owner : Option Nat} {outcome : Except LogFailure Unit}
    (hreleased : d.Released owner outcome d') : d'.Reads log := by
  cases hreleased with
  | unowned | ready | failed | settled => exact ⟨h.follows, trivial⟩

/-- **A desk goes on reading the log as it is**, whatever it does and whatever it appends itself. -/
theorem Reads.turn (h : d.Reads log) (contiguous : Contiguous log) {move : Move}
    (hturn : d.Turn (.memory log) move d' (.memory log')) : d'.Reads log' := by
  cases hturn with
  | still | called | taken | refused | idle | planned | checked | deposed | left =>
    exact ⟨h.follows, h.ahead⟩
  | entered => exact ⟨h.follows, rfl⟩
  | dropped => exact ⟨h.follows, trivial⟩
  | unread applier failed released => exact h.released released
  | caughtUp applier released => exact h.released released
  -- The entries that were read are all that the catalog does not show.
  | read applier entries_eq =>
    rename_i owner applied fault entries
    have hahead := h.ahead
    rw [applier] at hahead
    obtain rfl : applied = d.node.catalog.applied := hahead
    rw [Store.eq_drop_of_read entries_eq]
    exact ⟨h.follows, List.prefix_rfl⟩
  | applied applier =>
    rename_i owner entry rest
    have hahead := h.ahead
    rw [applier] at hahead
    obtain ⟨follows, happlied⟩ := h.follows.apply_next contiguous hahead
    refine ⟨follows, ?_⟩
    change rest <+: log.drop (d.node.catalog.apply entry).applied
    rw [happlied, ← List.tail_drop]
    obtain ⟨more, hmore⟩ := hahead
    exact ⟨more, by rw [← hmore]; rfl⟩
  -- The log grows at its end, so what was read of it is still its front.
  | pushed place written | unwritten place written =>
    have grown : log <+: log' := by
      rcases contiguous.write_cases written with ⟨-, -, rfl⟩ | ⟨-, rfl⟩
      · exact List.prefix_rfl
      · exact List.prefix_append _ _
    refine Reads.mono ?_ grown
    exact ⟨h.follows, h.ahead⟩

end Desk

/-! ## What a desk knows -/

/-- Whether the task has the lock, and its entry is not in the log yet. -/
def Stage.isDeciding : Stage → Bool
  | syncing | planning | appending .. | pushing .. => true
  | _ => false

/-- Whether what the write plans, or has planned, takes account of the first `b` entries. -/
def Stage.Knows (tenant : String) (log : List Entry) (b : Nat) (c : Catalog) (errand : Errand) :
    Stage → Prop
  | .planning => b ≤ c.applied
  | .appending op answer | .pushing op answer =>
    ∃ m, b ≤ m ∧ m ≤ log.length ∧
      errand.plan tenant (.ofEntries (log.take m)) = .ok { op := some op, answer }
  | _ => True

/-- A plan was made on the first entries of the log, and these stay the same when others append. -/
theorem Stage.Knows.mono {tenant : String} {b : Nat} {c : Catalog} {errand : Errand} {stage : Stage}
    (h : stage.Knows tenant log b c errand) (grown : log <+: log') :
    stage.Knows tenant log' b c errand := by
  have planned : ∀ {op answer}, (∃ m, b ≤ m ∧ m ≤ log.length ∧
      errand.plan tenant (.ofEntries (log.take m)) = .ok { op := some op, answer }) →
      ∃ m, b ≤ m ∧ m ≤ log'.length ∧
        errand.plan tenant (.ofEntries (log'.take m)) = .ok { op := some op, answer } := by
    rintro op answer ⟨m, hb, hm, hplan⟩
    refine ⟨m, hb, hm.trans grown.length_le, ?_⟩
    obtain ⟨more, rfl⟩ := grown
    rw [List.take_append_of_le_length hm]
    exact hplan
  cases stage with
  | planning => exact h
  | appending op answer => exact planned h
  | pushing op answer => exact planned h
  | waiting | syncing | settling | finished => trivial

namespace Desk

variable {d d' : Desk} {i : Nat} {errand : Errand} {old stage : Stage} {b : Nat}

/-- Whether every plan of the desk takes account of the first `b` entries. -/
structure Knows (d : Desk) (log : List Entry) (b : Nat) : Prop where
  stage : ∀ {i errand stage}, d.place? i = some (errand, stage) →
    stage.Knows d.node.settings.tenant log b d.node.catalog errand
  /-- What the applier applies for a task that will plan reaches as far. -/
  reading : ∀ {i errand rest}, d.applier = .applying (some i) rest →
    d.place? i = some (errand, .syncing) → b ≤ d.node.catalog.applied + rest.length

/-- An append of somebody else takes away no knowledge. It may leave the desk knowing less than all.
-/
theorem Knows.mono (h : d.Knows log b) (grown : log <+: log') : d.Knows log' b :=
  ⟨fun place => (h.stage place).mono grown, h.reading⟩

/-- Whether no task of the desk is about to write. -/
def Quiet (d : Desk) : Prop :=
  ∀ i errand stage, d.place? i = some (errand, stage) → stage.isDeciding = false

/-- A desk without plans knows everything. -/
theorem Quiet.knows (h : d.Quiet) (log : List Entry) (b : Nat) : d.Knows log b := by
  constructor
  · intro i errand stage place
    have quiet := h i errand stage place
    cases stage with
    | planning | appending | pushing | syncing => cases quiet
    | waiting | settling | finished => trivial
  · intro i errand rest applier place
    exact absurd (h i errand _ place) (by decide)

/-- Once the entry of a task is in the log, no task of the desk is about to write. -/
theorem Locked.quiet (h : d.Locked) {offset : Nat} {answer : Receipt}
    (place : d.place? i = some (errand, .settling offset answer)) : d.Quiet := by
  intro j other stage place'
  rw [Bool.eq_false_iff]
  intro deciding
  have inside : stage.isInside := by
    cases stage with
    | syncing | planning | appending | pushing => rfl
    | waiting | settling | finished => cases deciding
  have same := h.eq_of_inside place rfl place' inside
  rw [← same, place] at place'
  cases place'
  cases deciding

/-! ### Knowledge along turns -/

/-- A task goes to a stage that takes account of as much. -/
theorem Knows.put (h : d.Knows log b) (locked : d.Locked)
    (place : d.place? i = some (errand, old)) {lock : Option Nat} {applier : Applier}
    (knows : stage.Knows d.node.settings.tenant log b d.node.catalog errand)
    (happlier : applier = .free ∨ applier = d.applier ∧ old.isSyncing = false) :
    ({ d.put i stage with lock, applier } : Desk).Knows log b := by
  constructor
  · intro j other stage' place'
    rcases place?_put place place' with ⟨-, hplace⟩ | ⟨-, place'⟩
    · cases hplace
      exact knows
    · exact h.stage place'
  · intro j other rest hreading place'
    rcases happlier with rfl | ⟨rfl, notSyncing⟩
    · cases hreading
    · have howner : d.applier.owner? = some j := by
        rw [show d.applier = .applying (some j) rest from hreading]
        rfl
      have hji := locked.owner_ne place notSyncing howner
      exact h.reading hreading ((place?_put_ne hji stage).symm.trans place')

/-- A task goes on to its plan when what was read for it has been applied, and then the catalog has
as much as was known to be ahead. -/
theorem Knows.released (h : d.Knows log b) (locked : d.Locked) {owner : Option Nat}
    {outcome : Except LogFailure Unit} (hreleased : d.Released owner outcome d')
    (caughtUp : ∀ {i errand}, owner = some i → outcome = .ok () →
      d.place? i = some (errand, .syncing) → b ≤ d.node.catalog.applied) : d'.Knows log b := by
  cases hreleased with
  | unowned => exact ⟨h.stage, nofun⟩
  | ready place => exact h.put locked place (caughtUp rfl rfl place) (Or.inl rfl)
  | failed place => exact h.put locked place trivial (Or.inl rfl)
  | settled _ place => exact h.put locked place trivial (Or.inl rfl)

/-- A task that was only just called for has no plan. -/
theorem Knows.called (h : d.Knows log b) (errand : Errand) :
    ({ d with tasks := d.tasks ++ [{ errand }] } : Desk).Knows log b := by
  constructor
  · intro i other stage place
    rcases place?_concat.mp place with place | ⟨-, hplace⟩
    · exact h.stage place
    · cases hplace
      trivial
  · intro i other rest applier place
    rcases place?_concat.mp place with place | ⟨-, hplace⟩
    · exact h.reading applier place
    · cases hplace

/-- What has been read reaches to the end of the log, and so behind the first `b` entries. -/
theorem Knows.read (h : d.Knows log b) (reads : d.Reads log) (hb : b ≤ log.length)
    {owner : Option Nat} {applied : Nat} {fault : Option LogFailure} {entries : List Entry}
    (applier : d.applier = .reading owner applied)
    (entries_eq : (Store.memory log).read fault applied = .ok entries) :
    ({ d with applier := .applying owner entries } : Desk).Knows log b := by
  have hahead := reads.ahead
  rw [applier] at hahead
  obtain rfl : applied = d.node.catalog.applied := hahead
  have hle := reads.follows.applied_le
  refine ⟨h.stage, fun {i other rest} happlying _ => ?_⟩
  cases happlying
  change b ≤ d.node.catalog.applied + entries.length
  rw [Store.eq_drop_of_read entries_eq, List.length_drop]
  omega

/-- The entry that is applied goes from what is ahead to what the catalog has. -/
theorem Knows.applied (h : d.Knows log b) (reads : d.Reads log) (contiguous : Contiguous log)
    {owner : Option Nat} {entry : Entry} {rest : List Entry}
    (applier : d.applier = .applying owner (entry :: rest)) :
    ({ d with
        node := { d.node with catalog := d.node.catalog.apply entry }
        applier := .applying owner rest } : Desk).Knows log b := by
  have hahead := reads.ahead
  rw [applier] at hahead
  obtain ⟨-, happlied⟩ := reads.follows.apply_next contiguous hahead
  -- A plan that is made already does not move with the catalog. One still to be made gains the
  -- entry.
  constructor
  · intro i other stage place
    have knows := h.stage place
    cases stage with
    | planning =>
      change b ≤ (d.node.catalog.apply entry).applied
      rw [happlied]
      exact Nat.le_succ_of_le knows
    | waiting | syncing | appending | pushing | settling | finished => exact knows
  · intro i other rest' happlying place
    cases happlying
    have knows := h.reading applier place
    -- One entry more is shown and one fewer is to come, so the sum is as before.
    change b ≤ (d.node.catalog.apply entry).applied + rest.length
    rw [happlied]
    rw [List.length_cons] at knows
    omega

/-- A task whose caller leaves goes on with its plan. -/
theorem Knows.left (h : d.Knows log b) (i : Nat) : (d.leave i).Knows log b := by
  constructor
  all_goals rw [place?_leave]
  · exact h.stage
  · exact h.reading

/-- What a task plans on the catalog it has planned on as many entries as the catalog has read. -/
theorem Reads.knows_planned (h : d.Reads log) (hle : b ≤ d.node.catalog.applied) {op : Op}
    {answer : Receipt} (planned : errand.plan d.node.settings.tenant d.node.catalog =
      .ok { op := some op, answer }) :
    (Stage.appending op answer).Knows d.node.settings.tenant log b d.node.catalog errand := by
  refine ⟨d.node.catalog.applied, hle, h.follows.applied_le, ?_⟩
  rw [← h.follows.eq_ofEntries]
  exact planned

/-- No turn of a desk takes knowledge from it. A turn that appends leaves no plan that could know
too little, since the lock is still with the task that has appended. -/
theorem Knows.turn (h : d.Knows log b) (locked : d.Locked) (reads : d.Reads log)
    (contiguous : Contiguous log) (hb : b ≤ log.length) {move : Move}
    (hturn : d.Turn (.memory log) move d' (.memory log')) : d'.Knows log' b := by
  have locked' := locked.turn hturn
  cases hturn with
  | still => exact h
  | called => exact h.called _
  | left i => exact h.left i
  | entered | dropped => exact ⟨h.stage, nofun⟩
  | read applier entries_eq => exact h.read reads hb applier entries_eq
  | applied applier => exact h.applied reads contiguous applier
  | unread applier failed released => exact h.released locked released fun _ hok => nomatch hok
  | caughtUp applier released =>
    refine h.released locked released fun {i other} howner _ place => ?_
    rw [howner] at applier
    exact h.reading applier place
  | taken place | refused place | idle place | deposed place =>
    exact h.put locked place trivial (Or.inr ⟨rfl, rfl⟩)
  -- The plan is made of the catalog as it is, which shows what the task has waited for.
  | planned place planned =>
    exact h.put locked place (reads.knows_planned (h.stage place) planned) (Or.inr ⟨rfl, rfl⟩)
  | checked place =>
    have knows := h.stage place
    exact h.put locked place knows (Or.inr ⟨rfl, rfl⟩)
  -- The task pushes under the lock, so no other one is at work on a plan.
  | pushed place written =>
    have quiet := locked'.quiet (place?_put_self place _)
    exact quiet.knows log' b
  | unwritten place failed =>
    rcases contiguous.write_cases failed with ⟨-, -, rfl⟩ | ⟨hok, -⟩
    · exact h.put locked place trivial (Or.inr ⟨rfl, rfl⟩)
    · cases hok

end Desk

/-! ## Entries of a desk -/

/-- Whether this is what the caller is told, of a task that has an entry. -/
def Stage.Answers (answer : Receipt) : Stage → Prop
  | .settling _ answer' => answer' = answer
  | .finished _ result => result = .ok answer
  | _ => False

namespace Desk

variable {d d' : Desk} {i : Nat} {errand : Errand} {old stage : Stage} {offset : Nat}

/-- Whether the entry at a place is what the write plans on the first `m` entries, and its caller is
told what that plan says. -/
def Lands (d : Desk) (log : List Entry) (errand : Errand) (stage : Stage) (m n : Nat) : Prop :=
  ∃ entry answer, log[n]? = some entry ∧ stage.Answers answer ∧
    errand.plan d.node.settings.tenant (.ofEntries (log.take m)) =
      .ok { op := some entry.op, answer }

/-- The entry of a task stays what it is, whatever becomes of the task and of the log. -/
theorem Lands.moved {m n : Nat} (h : d.Lands log errand old m n) (hm : m ≤ n)
    (grown : log <+: log') (settings_eq : d'.node.settings = d.node.settings)
    (answers : ∀ answer, old.Answers answer → stage.Answers answer) :
    d'.Lands log' errand stage m n := by
  obtain ⟨entry, answer, hentry, hanswer, planned⟩ := h
  have hlt := (List.getElem?_eq_some_iff.mp hentry).1
  obtain ⟨more, rfl⟩ := grown
  refine ⟨entry, answer, ?_, answers answer hanswer, ?_⟩
  · rw [List.getElem?_append_left hlt]
    exact hentry
  · rw [List.take_append_of_le_length (by omega), settings_eq]
    exact planned

/-- What a task pushes lands as it was planned. -/
theorem lands_of_pushing {op : Op} {answer : Receipt} {b : Nat}
    (knows : (Stage.pushing op answer).Knows d.node.settings.tenant log b d.node.catalog errand)
    (settings_eq : d'.node.settings = d.node.settings) (answers : stage.Answers answer)
    (now : Instant) :
    ∃ m, b ≤ m ∧ m ≤ log.length ∧
      d'.Lands (log ++ [Entry.next log op now]) errand stage m log.length := by
  obtain ⟨m, hb, hm, planned⟩ := knows
  refine ⟨m, hb, hm, _, answer, List.getElem?_concat_length, answers, ?_⟩
  rw [List.take_append_of_le_length hm, settings_eq]
  exact planned

/-- Whether the offset is that of an entry which the write has planned on the entries in front of it
up to some place, behind which none of them is the desk's own. -/
def Entered (d : Desk) (log : List Entry) (errand : Errand) (stage : Stage) (offset : Nat) : Prop :=
  ∃ n m, offset = n + 1 ∧ m ≤ n ∧ d.Lands log errand stage m n ∧
    ∀ i other stage' offset', d.place? i = some (other, stage') → stage'.offset? = some offset' →
      offset' ≤ n → offset' ≤ m

theorem Entered.le_length (h : d.Entered log errand stage offset) : offset ≤ log.length := by
  obtain ⟨n, m, rfl, -, ⟨entry, answer, hentry, -⟩, -⟩ := h
  exact (List.getElem?_eq_some_iff.mp hentry).1

/-- What holds of a desk and the log that it shares. -/
structure Shares (d : Desk) (log : List Entry) : Prop where
  locked : d.Locked
  reads : d.Reads log
  /-- The desk knows its own entries. -/
  known : ∃ b, b ≤ log.length ∧ d.Knows log b ∧ ∀ i errand stage offset,
    d.place? i = some (errand, stage) → stage.offset? = some offset → offset ≤ b
  entered : ∀ {i errand stage offset}, d.place? i = some (errand, stage) →
    stage.offset? = some offset → d.Entered log errand stage offset
  distinct : ∀ {i k errand other stage stage' offset}, d.place? i = some (errand, stage) →
    d.place? k = some (other, stage') → stage.offset? = some offset →
    stage'.offset? = some offset → i = k

/-- A new desk shares an empty log. -/
theorem shares_new (settings : NodeSettings) (leadership : Leadership) :
    ({ node := { settings, leadership } } : Desk).Shares [] := by
  have none : ∀ {i errand stage}, ({ node := { settings, leadership } } : Desk).place? i ≠
      some (errand, stage) := by
    intro i errand stage place
    cases place
  refine ⟨locked_new _, ⟨Catalog.follows_empty [], trivial⟩,
    ⟨0, Nat.le_refl 0, ⟨fun place => absurd place none, fun happlier => ?_⟩,
      fun _ _ _ _ place => absurd place none⟩,
    fun place => absurd place none, fun place => absurd place none⟩
  cases happlier

/-- Somebody else appends. -/
theorem Shares.mono (h : d.Shares log) (grown : log <+: log') : d.Shares log' := by
  obtain ⟨b, hb, knows, own⟩ := h.known
  refine ⟨h.locked, h.reads.mono grown, ⟨b, hb.trans grown.length_le, knows.mono grown, own⟩,
    fun place hoffset => ?_, h.distinct⟩
  obtain ⟨n, m, hn, hm, lands, others⟩ := h.entered place hoffset
  exact ⟨n, m, hn, hm, lands.moved hm grown rfl fun _ => id, others⟩

/-- Who leads has no part in it. -/
theorem Shares.told (h : d.Shares log) (leadership : Leadership) : (d.told leadership).Shares log :=
  ⟨⟨h.locked.exclusive, h.locked.owner_syncing⟩, ⟨h.reads.follows, h.reads.ahead⟩,
    h.known.imp fun _ known => ⟨known.1, ⟨known.2.1.stage, known.2.1.reading⟩, known.2.2⟩,
    h.entered, h.distinct⟩

/-! ### Entries along turns -/

/-- A task that has moved has its entry from before, if its new stage has none of its own. -/
theorem offset_put {k : Nat} {other : Errand} {stage' : Stage}
    (place' : d'.place? k = some (other, stage')) (place : d.place? i = some (errand, old))
    (tasks_eq : d'.tasks = (d.put i stage).tasks) (hoffset : stage'.offset? = some offset)
    (kept : ∀ offset, stage.offset? = some offset →
      old.offset? = some offset ∧ ∀ answer, old.Answers answer → stage.Answers answer) :
    ∃ old', d.place? k = some (other, old') ∧ old'.offset? = some offset ∧
      ∀ answer, old'.Answers answer → stage'.Answers answer := by
  rw [place?, tasks_eq] at place'
  rcases place?_put place place' with ⟨rfl, hplace⟩ | ⟨-, place'⟩
  · cases hplace
    obtain ⟨hold, answers⟩ := kept offset hoffset
    exact ⟨old, place, hold, answers⟩
  · exact ⟨stage', place', hoffset, fun _ answers => answers⟩

/-- No task gets an entry by the applier becoming free. One that ends with an entry had it. -/
theorem Released.offset_before {owner : Option Nat} {outcome : Except LogFailure Unit}
    (h : d.Released owner outcome d') {k : Nat} {other : Errand} {stage : Stage}
    (place' : d'.place? k = some (other, stage)) (hoffset : stage.offset? = some offset) :
    ∃ old, d.place? k = some (other, old) ∧ old.offset? = some offset ∧
      ∀ answer, old.Answers answer → stage.Answers answer := by
  cases h with
  | unowned => exact ⟨stage, place', hoffset, fun _ answers => answers⟩
  | ready place | failed place => exact offset_put place' place rfl hoffset nofun
  | settled _ place =>
    refine offset_put place' place rfl hoffset fun offset' h => ⟨h, fun answer answers => ?_⟩
    exact congrArg Except.ok answers

/-- Whatever entry a task has after a turn, it had before, or it is the one that the turn has
appended. -/
theorem Turn.offset_cases (contiguous : Contiguous log) {move : Move}
    (h : d.Turn (.memory log) move d' (.memory log')) {k : Nat} {other : Errand} {stage : Stage}
    (place' : d'.place? k = some (other, stage)) (hoffset : stage.offset? = some offset) :
    (∃ old, d.place? k = some (other, old) ∧ old.offset? = some offset ∧
        ∀ answer, old.Answers answer → stage.Answers answer) ∨
      offset = log.length + 1 ∧ ∃ op answer now,
        d.place? k = some (other, .pushing op answer) ∧ stage.Answers answer ∧
          log' = log ++ [Entry.next log op now] := by
  cases h with
  | still | entered | read | applied | dropped =>
    exact Or.inl ⟨stage, place', hoffset, fun _ answers => answers⟩
  | called =>
    rcases place?_concat.mp place' with place | ⟨-, hplace⟩
    · exact Or.inl ⟨stage, place, hoffset, fun _ answers => answers⟩
    · cases hplace
      cases hoffset
  | unread _ _ released | caughtUp _ released =>
    exact Or.inl (released.offset_before place' hoffset)
  | taken place | refused place | idle place | planned place | checked place | deposed place
  | unwritten place => exact Or.inl (offset_put place' place rfl hoffset nofun)
  | pushed place written =>
    -- Only a push answers with a new offset, and it is that of the entry it has appended.
    rcases contiguous.write_cases written with ⟨_, hfailed, -⟩ | ⟨hok, hlog⟩
    · cases hfailed
    · cases hok
      rcases place?_put place place' with ⟨rfl, hplace⟩ | ⟨-, place⟩
      · cases hplace
        cases hoffset
        exact Or.inr ⟨rfl, _, _, _, place, rfl, hlog⟩
      · exact Or.inl ⟨stage, place, hoffset, fun _ answers => answers⟩
  | left i =>
    rw [place?_leave] at place'
    exact Or.inl ⟨stage, place', hoffset, fun _ answers => answers⟩

/-- A turn leaves the log as it is, or it appends what a task pushes. -/
theorem Turn.log_cases (contiguous : Contiguous log) {move : Move}
    (h : d.Turn (.memory log) move d' (.memory log')) :
    log' = log ∨ ∃ i errand op answer now, d.place? i = some (errand, .pushing op answer) ∧
      d'.place? i = some (errand, .settling (log.length + 1) answer) ∧
      log' = log ++ [Entry.next log op now] := by
  cases h with
  | pushed place written =>
    rcases contiguous.write_cases written with ⟨_, hfailed, -⟩ | ⟨hok, hlog⟩
    · cases hfailed
    · cases hok
      exact Or.inr ⟨_, _, _, _, _, place, place?_put_self place _, hlog⟩
  | unwritten place failed =>
    rcases contiguous.write_cases failed with ⟨-, -, same⟩ | ⟨hok, -⟩
    · exact Or.inl same
    · cases hok
  | _ => exact Or.inl rfl

/-- What a turn has appended is the entry of a task. -/
theorem Turn.exists_appended (contiguous : Contiguous log) {move : Move}
    (h : d.Turn (.memory log) move d' (.memory log')) {n : Nat} (hn : n < log'.length)
    (hnew : ¬ n < log.length) :
    ∃ i errand stage, d'.place? i = some (errand, stage) ∧ stage.offset? = some (n + 1) := by
  rcases h.log_cases contiguous with rfl | ⟨i, errand, op, answer, now, -, place', rfl⟩
  · exact absurd hn hnew
  · rw [List.length_append, List.length_singleton] at hn
    obtain rfl : n = log.length := by omega
    exact ⟨i, errand, _, place', rfl⟩

/-- A turn that appends leaves the desk without plans. -/
theorem Turn.quiet_of_ne (locked : d.Locked) (contiguous : Contiguous log) {move : Move}
    (h : d.Turn (.memory log) move d' (.memory log')) (grows : log' ≠ log) : d'.Quiet := by
  rcases h.log_cases contiguous with same | ⟨i, errand, op, answer, now, -, place', -⟩
  · exact absurd same grows
  · exact (locked.turn h).quiet place'

/-- A turn changes nothing of the node but its catalog. -/
theorem Turn.node_eq {s s' : Store} {move : Move} (h : d.Turn s move d' s') :
    d'.node = { d.node with catalog := d'.node.catalog } := by
  have released : ∀ {owner outcome}, d.Released owner outcome d' →
      d'.node = { d.node with catalog := d'.node.catalog } := by
    intro owner outcome hreleased
    cases hreleased <;> rfl
  cases h with
  | unread _ _ hreleased | caughtUp _ hreleased => exact released hreleased
  | _ => rfl

/-- Which tenant a node serves does not change while it runs, so a plan once made can be made again.
-/
theorem Turn.settings_eq {s s' : Store} {move : Move} (h : d.Turn s move d' s') :
    d'.node.settings = d.node.settings := by
  rw [h.node_eq]

/-- What an answer says of an entry stands after a turn. It was said before, or the entry is the one
that the turn has appended. The plan of that one took account of all entries of the desk, since the
lock has kept every other task from appending. -/
theorem Shares.entered_turn (h : d.Shares log) (contiguous : Contiguous log) {move : Move}
    (hturn : d.Turn (.memory log) move d' (.memory log'))
    (place : d'.place? i = some (errand, stage)) (hoffset : stage.offset? = some offset) :
    d'.Entered log' errand stage offset := by
  obtain ⟨_, hlog, grown, -⟩ := hturn.exists_log contiguous
  cases hlog
  obtain ⟨b, -, knows, own⟩ := h.known
  rcases hturn.offset_cases contiguous place hoffset with
    ⟨old, hold, hold', answers⟩ | ⟨rfl, op, answer, now, hpushing, answers, rfl⟩
  · obtain ⟨n, m, rfl, hm, lands, others⟩ := h.entered hold hold'
    have hlt := (h.entered hold hold').le_length
    refine ⟨n, m, rfl, hm, lands.moved hm grown hturn.settings_eq answers, ?_⟩
    intro k other stage' offset' place' hoffset' hle
    rcases hturn.offset_cases contiguous place' hoffset' with
      ⟨old', hplace', hold'', -⟩ | ⟨hnew, -⟩
    · -- The other entry was there before, so the bound of before holds for it.
      exact others k other old' offset' hplace' hold'' hle
    · omega
  · obtain ⟨m, hbm, hm, lands⟩ :=
      lands_of_pushing (knows.stage hpushing) hturn.settings_eq answers now
    refine ⟨log.length, m, rfl, hm, lands, ?_⟩
    intro k other stage' offset' place' hoffset' hle
    rcases hturn.offset_cases contiguous place' hoffset' with
      ⟨old', hplace', hold'', -⟩ | ⟨hnew, -⟩
    · exact (own k other old' offset' hplace' hold'').trans hbm
    · omega

/-- A desk knows its own entries after a turn: the bound stays while the log does, and moves to the
end of the log with an append of the desk. -/
theorem Shares.known_turn (h : d.Shares log) (contiguous : Contiguous log) {move : Move}
    (hturn : d.Turn (.memory log) move d' (.memory log')) :
    ∃ b, b ≤ log'.length ∧ d'.Knows log' b ∧ ∀ i errand stage offset,
      d'.place? i = some (errand, stage) → stage.offset? = some offset → offset ≤ b := by
  by_cases grows : log' = log
  · subst grows
    obtain ⟨b, hb, knows, own⟩ := h.known
    refine ⟨b, hb, knows.turn h.locked h.reads contiguous hb hturn, ?_⟩
    intro i errand stage offset place hoffset
    rcases hturn.offset_cases contiguous place hoffset with
      ⟨old, hold, hold', -⟩ | ⟨-, op, answer, now, -, -, hlog⟩
    · exact own i errand old offset hold hold'
    · exact absurd (congrArg List.length hlog) (by simp)
  · -- After an append of its own the desk has no plan left, and so knows all of the log.
    have quiet := hturn.quiet_of_ne h.locked contiguous grows
    refine ⟨log'.length, Nat.le_refl _, quiet.knows _ _, ?_⟩
    intro i errand stage offset place hoffset
    exact (h.entered_turn contiguous hturn place hoffset).le_length

/-- No two tasks have one entry after a turn. An entry that is new is behind all others, and two
tasks that push at once would both have the lock. -/
theorem Shares.distinct_turn (h : d.Shares log) (contiguous : Contiguous log) {move : Move}
    (hturn : d.Turn (.memory log) move d' (.memory log')) {k : Nat} {other : Errand}
    {stage' : Stage} (place : d'.place? i = some (errand, stage))
    (place' : d'.place? k = some (other, stage')) (hoffset : stage.offset? = some offset)
    (hoffset' : stage'.offset? = some offset) : i = k := by
  rcases hturn.offset_cases contiguous place hoffset with
    ⟨old, hold, hold', -⟩ | ⟨rfl, op, answer, now, hpushing, -, -⟩
  · rcases hturn.offset_cases contiguous place' hoffset' with
      ⟨old', hother, hother', -⟩ | ⟨rfl, -⟩
    · exact h.distinct hold hother hold' hother'
    · exact absurd (h.entered hold hold').le_length (by omega)
  · rcases hturn.offset_cases contiguous place' hoffset' with
      ⟨old', hother, hother', -⟩ | ⟨-, op', answer', now', hpushing', -, -⟩
    · exact absurd (h.entered hother hother').le_length (by omega)
    · exact h.locked.eq_of_inside hpushing rfl hpushing' rfl

/-- **A turn of its own keeps what holds of a desk and its log.** -/
theorem Shares.turn (h : d.Shares log) (contiguous : Contiguous log) {move : Move}
    (hturn : d.Turn (.memory log) move d' (.memory log')) : d'.Shares log' where
  locked := h.locked.turn hturn
  reads := h.reads.turn contiguous hturn
  known := h.known_turn contiguous hturn
  entered := h.entered_turn contiguous hturn
  distinct := h.distinct_turn contiguous hturn

end Desk

end SchemaRegistry
