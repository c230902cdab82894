import SchemaRegistry.Proofs.Node.Lock
import SchemaRegistry.Proofs.Node.Write
/-!
# Writes that overlap are serial

The tasks of a desk overlap, and still its log is what it would be if they had been done one after
the other, in the order of their entries. Between the plan of a task and its append nothing may get
into the log, and the lock alone sees to that, although many more than its holder are at work: the
background applies entries in between, and other tasks come, end and are left.

`Orderly` says what holds between any two moves. Its heart is `Stage.Fits`, which ties each stage to
the log. A task that plans stands before the catalog of the whole log: nobody has appended since it
caught up, and the background can only apply what is in the log, of which nothing is left. A task
that appends has planned on the catalog of the log as it still is. And a task whose entry is in the
log has planned it on the entries in front of it, which is never lost again.
-/

set_option autoImplicit false

namespace SchemaRegistry

variable {log log' : List Entry} {tenant : String} {c : Catalog}

/-! ## What is known at each stage -/

/-- Whether an offset is that of an entry which a write has planned on the entries in front of it,
with the answer. -/
def Errand.Entered (tenant : String) (log : List Entry) (errand : Errand) (offset : Nat)
    (answer : Receipt) : Prop :=
  ∃ n entry, offset = n + 1 ∧ log[n]? = some entry ∧
    errand.plan tenant (.ofEntries (log.take n)) = .ok { op := some entry.op, answer }

theorem Errand.Entered.mono {errand : Errand} {offset : Nat} {answer : Receipt}
    (h : errand.Entered tenant log offset answer) (grown : log <+: log') :
    errand.Entered tenant log' offset answer := by
  obtain ⟨n, entry, hoffset, hentry, planned⟩ := h
  obtain ⟨more, rfl⟩ := grown
  have hn : n < log.length := (List.getElem?_eq_some_iff.mp hentry).1
  refine ⟨n, entry, hoffset, ?_, ?_⟩
  · rw [List.getElem?_append_left hn, hentry]
  · rw [List.take_append_of_le_length hn.le, planned]

/-- What is known of a write at a stage. -/
def Stage.Fits (tenant : String) (log : List Entry) (c : Catalog) (errand : Errand) :
    Stage → Prop
  | .waiting | .syncing => True
  | .planning => c = .ofEntries log
  | .appending op answer | .pushing op answer =>
    errand.plan tenant (.ofEntries log) = .ok { op := some op, answer }
  | .settling offset answer => errand.Entered tenant log offset answer
  | .finished (some offset) result =>
    ∃ answer, result = .ok answer ∧ errand.Entered tenant log offset answer
  | .finished none _ => True

/-- What is known of the applier. Entries that it has still to apply are the next ones, and nothing
has been appended behind them if it works for a task. -/
def Applier.Fits (log : List Entry) (c : Catalog) : Applier → Prop
  | .free => True
  | .reading _ applied => applied = c.applied
  | .applying owner rest =>
    rest <+: log.drop c.applied ∧ (owner ≠ none → rest = log.drop c.applied)

namespace Stage

variable {errand : Errand} {stage : Stage}

/-- An offset is that of an entry. -/
theorem Fits.entered (h : stage.Fits tenant log c errand) {offset : Nat}
    (hoffset : stage.offset? = some offset) :
    ∃ answer, errand.Entered tenant log offset answer := by
  cases stage with
  | settling n answer =>
    cases hoffset
    exact ⟨answer, h⟩
  | finished n result =>
    cases hoffset
    obtain ⟨answer, -, entered⟩ := h
    exact ⟨answer, entered⟩
  | waiting | syncing | planning | appending | pushing => cases hoffset

/-- A task without the lock knows nothing that an append could change. -/
theorem Fits.mono (h : stage.Fits tenant log c errand) (outside : stage.isInside = false)
    (grown : log <+: log') {c' : Catalog} : stage.Fits tenant log' c' errand := by
  cases stage with
  | waiting => trivial
  | finished offset result =>
    cases offset with
    | none => trivial
    | some offset =>
      obtain ⟨answer, hresult, entered⟩ := h
      exact ⟨answer, hresult, entered.mono grown⟩
  | syncing | planning | appending | pushing | settling => cases outside

/-- Only a task that plans looks at the catalog. -/
theorem Fits.of_not_planning (h : stage.Fits tenant log c errand) (notPlanning : c ≠ .ofEntries log)
    (c' : Catalog) : stage.Fits tenant log c' errand := by
  cases stage with
  | planning => exact absurd h notPlanning
  | finished offset result =>
    cases offset <;> exact h
  | waiting | syncing | appending | pushing | settling => exact h

end Stage

/-- Where the applier works for the background, an append does not disturb it. -/
theorem Applier.Fits.mono {applier : Applier} (h : applier.Fits log c)
    (background : applier.owner? = none) (follows : c.Follows log) (grown : log <+: log') :
    applier.Fits log' c := by
  cases applier with
  | free => trivial
  | reading owner applied => exact h
  | applying owner rest =>
    obtain ⟨more, rfl⟩ := grown
    refine ⟨?_, fun hne => absurd background hne⟩
    rw [List.drop_append_of_le_length follows.applied_le]
    exact h.1.trans (List.prefix_append _ _)

/-! ## Order -/

namespace Desk

variable {d : Desk} {i : Nat} {errand : Errand}

/-- What holds of a desk and the log between two moves. -/
structure Orderly (tenant : String) (d : Desk) (log : List Entry) : Prop where
  tenant_eq : d.node.settings.tenant = tenant
  contiguous : Contiguous log
  follows : d.node.catalog.Follows log
  /-- The lock is with the one task that is at a stage that needs it. -/
  exclusive : ∀ i, d.lock = some i ↔
    ∃ errand stage, d.place? i = some (errand, stage) ∧ stage.isInside
  fits : ∀ {i errand stage}, d.place? i = some (errand, stage) →
    stage.Fits tenant log d.node.catalog errand
  applier_fits : d.applier.Fits log d.node.catalog
  owner_syncing : ∀ {i}, d.applier.owner? = some i →
    ∃ errand stage, d.place? i = some (errand, stage) ∧ stage.isSyncing
  /-- No two tasks have an entry in common. -/
  distinct : ∀ {i j errand other stage stage' offset}, d.place? i = some (errand, stage) →
    d.place? j = some (other, stage') → stage.offset? = some offset →
    stage'.offset? = some offset → i = j
  /-- Every entry is that of a task. -/
  covered : ∀ n, n < log.length →
    ∃ i errand stage, d.place? i = some (errand, stage) ∧ stage.offset? = some (n + 1)

/-- A new desk has no task and an empty log, and a catalog that is the catalog of it. -/
theorem orderly_opened (settings : NodeSettings) :
    (opened settings).Orderly settings.tenant [] where
  tenant_eq := rfl
  contiguous := nofun
  follows := Catalog.follows_empty []
  exclusive i := by
    constructor
    · intro h
      cases h
    · rintro ⟨errand, stage, place, -⟩
      cases place
  fits place := by cases place
  applier_fits := trivial
  owner_syncing h := by cases h
  distinct place := by cases place
  covered n hn := absurd hn (Nat.not_lt_zero n)

namespace Orderly

variable {old stage : Stage}

theorem locked (h : d.Orderly tenant log) : d.Locked :=
  ⟨h.exclusive, h.owner_syncing⟩

/-! ### One task moves -/

/-- One task goes to another stage, with the same entry if it has one, and takes or leaves the lock
as that stage needs it. -/
theorem put (h : d.Orderly tenant log) (place : d.place? i = some (errand, old))
    {lock : Option Nat} {applier : Applier} (offset : stage.offset? = old.offset?)
    (fits : stage.Fits tenant log d.node.catalog errand)
    (self : lock = some i ↔ stage.isInside)
    (others : ∀ j, j ≠ i → (lock = some j ↔ d.lock = some j))
    (happlier : applier = .free ∨ applier = d.applier ∧ old.isSyncing = false) :
    ({ d.put i stage with lock, applier } : Desk).Orderly tenant log := by
  -- Whatever entry a task has now, the same task had it before.
  have before : ∀ {j other stage'}, (d.put i stage).place? j = some (other, stage') →
      ∃ stage'', d.place? j = some (other, stage'') ∧ stage''.offset? = stage'.offset? := by
    intro j other stage' place'
    rcases place?_put place place' with ⟨rfl, hplace⟩ | ⟨-, place'⟩
    · cases hplace
      exact ⟨old, place, offset.symm⟩
    · exact ⟨stage', place', rfl⟩
  refine ⟨h.tenant_eq, h.contiguous, h.follows, h.locked.exclusive_put place self others,
    ?_, ?_, h.locked.owner_syncing_put place happlier, ?_, ?_⟩
  · intro j other stage' place'
    rcases place?_put place place' with ⟨-, hplace⟩ | ⟨-, place'⟩
    · cases hplace
      exact fits
    · exact h.fits place'
  · rcases happlier with rfl | ⟨rfl, -⟩
    · trivial
    · exact h.applier_fits
  · intro j k other other' stage' stage'' n hj hk hoffset hoffset'
    obtain ⟨u, hu, husame⟩ := before hj
    obtain ⟨v, hv, hvsame⟩ := before hk
    exact h.distinct hu hv (husame.trans hoffset) (hvsame.trans hoffset')
  · intro n hn
    obtain ⟨j, other, stage', place', hoffset⟩ := h.covered n hn
    by_cases hji : j = i
    · rw [hji, place] at place'
      cases place'
      exact ⟨i, errand, stage, place?_put_self place stage, offset.trans hoffset⟩
    · exact ⟨j, other, stage', (place?_put_ne hji stage).trans place', hoffset⟩

/-- A task with the lock goes to another stage at which it needs the lock. -/
theorem advance (h : d.Orderly tenant log) (place : d.place? i = some (errand, old))
    {applier : Applier} (inside : old.isInside) (inside' : stage.isInside)
    (offset : stage.offset? = old.offset?)
    (fits : stage.Fits tenant log d.node.catalog errand)
    (happlier : applier = .free ∨ applier = d.applier ∧ old.isSyncing = false) :
    ({ d.put i stage with applier } : Desk).Orderly tenant log := by
  refine h.put place offset fits ?_ (fun _ _ => Iff.rfl) happlier
  exact ⟨fun _ => inside', fun _ => h.locked.lock_eq place inside⟩

/-- A task with the lock ends. -/
theorem finish (h : d.Orderly tenant log) (place : d.place? i = some (errand, old))
    {offset : Option Nat} {result : Except Error Receipt} {applier : Applier}
    (inside : old.isInside) (hoffset : offset = old.offset?)
    (fits : (Stage.finished offset result).Fits tenant log d.node.catalog errand)
    (happlier : applier = .free ∨ applier = d.applier ∧ old.isSyncing = false) :
    ({ d.finish i offset result with applier } : Desk).Orderly tenant log := by
  refine h.put place hoffset fits ⟨nofun, nofun⟩ (fun j hji => ?_) happlier
  rw [h.locked.lock_eq place inside, Option.some.injEq]
  exact ⟨nofun, fun heq => absurd heq.symm hji⟩

/-! ### No task moves -/

/-- The applier turns to something else. -/
theorem withApplier (h : d.Orderly tenant log) {applier : Applier}
    (fits : applier.Fits log d.node.catalog)
    (syncing : ∀ {i : Nat}, applier.owner? = some i →
      ∃ errand stage, d.place? i = some (errand, stage) ∧ stage.isSyncing) :
    ({ d with applier } : Desk).Orderly tenant log where
  __ := h
  applier_fits := fits
  owner_syncing := syncing

theorem released (h : d.Orderly tenant log) {owner : Option Nat}
    {outcome : Except LogFailure Unit} {d' : Desk}
    (hreleased : d.Released owner outcome d')
    (atEnd : owner ≠ none → outcome = .ok () → d.node.catalog = .ofEntries log) :
    d'.Orderly tenant log := by
  cases hreleased with
  | unowned => exact h.withApplier trivial nofun
  | ready place => exact h.advance place rfl rfl rfl (atEnd nofun rfl) (Or.inl rfl)
  | failed place => exact h.finish place rfl rfl trivial (Or.inl rfl)
  | settled _ place => exact h.finish place rfl rfl ⟨_, rfl, h.fits place⟩ (Or.inl rfl)

/-- A reading that succeeds takes in all that is behind the entries applied already, whatever task
it is for. -/
theorem read (h : d.Orderly tenant log) {owner : Option Nat} {applied : Nat}
    {fault : Option LogFailure} {entries : List Entry}
    (applier : d.applier = .reading owner applied)
    (entries_eq : (Store.memory log).read fault applied = .ok entries) :
    ({ d with applier := .applying owner entries } : Desk).Orderly tenant log := by
  have happlier := h.applier_fits
  rw [applier] at happlier
  obtain rfl : applied = d.node.catalog.applied := happlier
  have hentries := Store.eq_drop_of_read entries_eq
  refine h.withApplier ⟨hentries ▸ List.prefix_rfl, fun _ => hentries⟩ fun howner => ?_
  refine h.owner_syncing ?_
  rw [applier]
  exact howner

/-- For a task the applier has read to the end of the log, and the log still ends there: nobody but
the task with the lock could have appended. -/
theorem eq_of_caughtUp (h : d.Orderly tenant log) {owner : Option Nat}
    (applier : d.applier = .applying owner []) (owned : owner ≠ none) :
    d.node.catalog = .ofEntries log := by
  have happlier := h.applier_fits
  rw [applier] at happlier
  have hend := h.follows.applyAll_drop
  rw [← happlier.2 owned] at hend
  exact hend

/-- The applier applies an entry. A task that plans is not disturbed, since there is no entry left
to apply when it does. -/
theorem applied (h : d.Orderly tenant log) {owner : Option Nat} {entry : Entry} {rest : List Entry}
    (applier : d.applier = .applying owner (entry :: rest)) :
    ({ d with
      node := { d.node with catalog := d.node.catalog.apply entry }
      applier := .applying owner rest } : Desk).Orderly tenant log := by
  have happlier := h.applier_fits
  rw [applier] at happlier
  obtain ⟨next, all⟩ := happlier
  obtain ⟨follows, happlied⟩ := h.follows.apply_next h.contiguous next
  have hdrop : log.drop (d.node.catalog.applied + 1) = (log.drop d.node.catalog.applied).tail :=
    List.tail_drop.symm
  -- A catalog that has come to the end of the log would have no entry ahead.
  have notPlanning : d.node.catalog ≠ .ofEntries log := by
    intro hend
    rw [hend, h.contiguous.applied, List.drop_length] at next
    exact absurd (List.prefix_nil.mp next) (List.cons_ne_nil _ _)
  refine { h with follows, fits := fun place => ?_, applier_fits := ?_, owner_syncing := ?_ }
  · exact (h.fits place).of_not_planning notPlanning _
  · change rest <+: log.drop (d.node.catalog.apply entry).applied ∧ (owner ≠ none → _)
    rw [happlied, hdrop]
    obtain ⟨more, hmore⟩ := next
    refine ⟨⟨more, ?_⟩, fun hne => ?_⟩
    · rw [← hmore]
      rfl
    · rw [← all hne]
      rfl
  · intro i hi
    refine h.owner_syncing ?_
    rw [applier]
    exact hi

/-- A caller leaves. -/
theorem left (h : d.Orderly tenant log) (i : Nat) : (d.leave i).Orderly tenant log := by
  have hplace := place?_leave (d := d) i
  refine ⟨h.tenant_eq, h.contiguous, h.follows, ?_, ?_, h.applier_fits, ?_, ?_, ?_⟩
  all_goals rw [hplace]
  · exact h.exclusive
  · exact h.fits
  · exact h.owner_syncing
  · exact h.distinct
  · exact h.covered

/-! ### A task is added -/

theorem called (h : d.Orderly tenant log) (errand : Errand) :
    ({ d with tasks := d.tasks ++ [{ errand }] } : Desk).Orderly tenant log := by
  have old : ∀ {i place}, d.place? i = some place →
      ({ d with tasks := d.tasks ++ [{ errand }] } : Desk).place? i = some place :=
    fun hplace => place?_concat.mpr (Or.inl hplace)
  have locked := h.locked.called errand
  refine ⟨h.tenant_eq, h.contiguous, h.follows, locked.exclusive, ?_, h.applier_fits,
    locked.owner_syncing, ?_, fun n hn => ?_⟩
  · intro i other stage place
    rcases place?_concat.mp place with place | ⟨-, hplace⟩
    · exact h.fits place
    · cases hplace
      trivial
  · intro i j other other' stage stage' offset place place' hoffset hoffset'
    rcases place?_concat.mp place with place | ⟨-, hplace⟩
    · rcases place?_concat.mp place' with place' | ⟨-, hplace'⟩
      · exact h.distinct place place' hoffset hoffset'
      · cases hplace'
        cases hoffset'
    · cases hplace
      cases hoffset
  · obtain ⟨i, other, stage, place, hoffset⟩ := h.covered n hn
    exact ⟨i, other, stage, old place, hoffset⟩

/-! ### The log grows -/

/-- The offsets that have been given out are those of entries. -/
theorem offset_le (h : d.Orderly tenant log) (place : d.place? i = some (errand, stage))
    {offset : Nat} (hoffset : stage.offset? = some offset) : offset ≤ log.length := by
  obtain ⟨_, n, entry, rfl, hentry, -⟩ := (h.fits place).entered hoffset
  exact (List.getElem?_eq_some_iff.mp hentry).1

/-- A task appends what it has planned. No other task has planned anything, and the background may
go on with what it has read. -/
theorem pushed (h : d.Orderly tenant log) {op : Op} {answer : Receipt}
    (place : d.place? i = some (errand, .pushing op answer)) (now : Instant) :
    (d.put i (.settling (log.length + 1) answer)).Orderly tenant
      (log ++ [Entry.next log op now]) := by
  have hlock := h.locked.lock_eq place rfl
  have howner := h.locked.owner_none place rfl rfl
  have planned := h.fits place
  have grown := List.prefix_append log [Entry.next log op now]
  have hself := place?_put_self place (.settling (log.length + 1) answer)
  refine ⟨h.tenant_eq, h.contiguous.append op now, h.follows.mono grown,
    h.locked.exclusive_put place ⟨fun _ => rfl, fun _ => hlock⟩ fun _ _ => Iff.rfl,
    ?_, ?_, ?_, ?_, ?_⟩
  · intro j other stage place'
    rcases place?_put place place' with ⟨-, hplace⟩ | ⟨hji, place'⟩
    · cases hplace
      refine ⟨log.length, _, rfl, List.getElem?_concat_length, ?_⟩
      rw [List.take_left]
      exact planned
    · -- Whoever else knew how the log ends would have the lock, too.
      refine (h.fits place').mono (Bool.eq_false_iff.mpr fun inside => hji ?_) grown
      exact h.locked.eq_of_inside place' inside place rfl
  · exact h.applier_fits.mono howner h.follows grown
  · -- The applier works for the background, since the task with the lock has no use for it.
    intro j hj
    rw [show (d.put i _).applier.owner? = none from howner] at hj
    cases hj
  · intro j k other other' stage stage' offset hj hk hoffset hoffset'
    rcases place?_put place hj with ⟨rfl, hplace⟩ | ⟨-, hj'⟩
    · rcases place?_put place hk with ⟨rfl, -⟩ | ⟨-, hk'⟩
      · rfl
      · cases hplace
        cases hoffset
        exact absurd (h.offset_le hk' hoffset') (by omega)
    · rcases place?_put place hk with ⟨rfl, hplace⟩ | ⟨-, hk'⟩
      · cases hplace
        cases hoffset'
        exact absurd (h.offset_le hj' hoffset) (by omega)
      · exact h.distinct hj' hk' hoffset hoffset'
  · -- An entry that was there is still that of its task, which cannot be the one that has just
    -- appended.
    intro n hn
    rw [List.length_append, List.length_singleton] at hn
    rcases Nat.lt_succ_iff_lt_or_eq.mp hn with hn | rfl
    · obtain ⟨j, other, stage, place', hoffset⟩ := h.covered n hn
      have hji : j ≠ i := by
        rintro rfl
        rw [place] at place'
        cases place'
        cases hoffset
      exact ⟨j, other, stage, (place?_put_ne hji _).trans place', hoffset⟩
    · exact ⟨i, errand, _, hself, rfl⟩

/-! ### Moves -/

/-- A move keeps the order, and the log loses nothing. -/
theorem turn (h : d.Orderly tenant log) {move : Move} {d' : Desk} {s' : Store}
    (hturn : d.Turn (.memory log) move d' s') :
    ∃ log', s' = .memory log' ∧ log <+: log' ∧ d'.Orderly tenant log' := by
  have unchanged : d'.Orderly tenant log → s' = .memory log →
      ∃ log', s' = .memory log' ∧ log <+: log' ∧ d'.Orderly tenant log' :=
    fun hd' hs' => ⟨log, hs', List.prefix_rfl, hd'⟩
  cases hturn with
  | still => exact unchanged h rfl
  | called => exact unchanged (h.called _) rfl
  | taken place free =>
    -- The lock was free, so no other task is inside.
    refine unchanged (h.put place rfl trivial ⟨fun _ => rfl, fun _ => rfl⟩ ?_
      (Or.inr ⟨rfl, rfl⟩)) rfl
    intro j hji
    rw [free, Option.some.injEq]
    exact ⟨fun heq => absurd heq.symm hji, nofun⟩
  | entered free syncing =>
    exact unchanged (h.withApplier rfl fun howner => syncing _ howner) rfl
  | unread applier failed released =>
    exact unchanged (h.released released fun _ hok => nomatch hok) rfl
  | read applier entries_eq => exact unchanged (h.read applier entries_eq) rfl
  | applied applier => exact unchanged (h.applied applier) rfl
  | caughtUp applier released =>
    exact unchanged (h.released released fun hne _ => h.eq_of_caughtUp applier hne) rfl
  | dropped => exact unchanged (h.withApplier trivial nofun) rfl
  | refused place | idle place | deposed place =>
    exact unchanged (h.finish place rfl rfl trivial (Or.inr ⟨rfl, rfl⟩)) rfl
  | planned place planned =>
    -- A task plans from a catalog that shows the whole log.
    have hcatalog : d.node.catalog = .ofEntries log := h.fits place
    rw [h.tenant_eq, hcatalog] at planned
    exact unchanged (h.advance place rfl rfl rfl planned (Or.inr ⟨rfl, rfl⟩)) rfl
  | checked place =>
    have planned := h.fits place
    exact unchanged (h.advance place rfl rfl rfl planned (Or.inr ⟨rfl, rfl⟩)) rfl
  | pushed place written =>
    rename_i i errand op answer fault now offset
    cases fault with
    | some failure => cases written
    | none =>
      rw [h.contiguous.write_none] at written
      cases written
      exact ⟨_, rfl, List.prefix_append _ _, h.pushed place now⟩
  | unwritten place failed =>
    rename_i i errand op answer fault now failure
    cases fault with
    | some failure =>
      cases failed
      exact unchanged (h.finish place rfl rfl trivial (Or.inr ⟨rfl, rfl⟩)) rfl
    | none =>
      -- Without a fault an append to the log in memory succeeds.
      rw [h.contiguous.write_none] at failed
      cases failed
  | left i => exact unchanged (h.left i) rfl

/-- Runs keep the order, and the log loses nothing. -/
theorem run (h : d.Orderly tenant log) (moves : List Move) :
    ∃ log', (d.run (.memory log) moves).2 = .memory log' ∧ log <+: log' ∧
      (d.run (.memory log) moves).1.Orderly tenant log' := by
  induction moves generalizing d log with
  | nil => exact ⟨log, rfl, List.prefix_rfl, h⟩
  | cons move moves ih =>
    obtain ⟨log₁, hstore, grown, horderly⟩ := h.turn (d.turn_step (.memory log) move)
    obtain ⟨log', hstore', grown', horderly'⟩ := ih horderly
    rw [Desk.run, hstore]
    exact ⟨log', hstore', grown.trans grown', horderly'⟩

end Orderly

/-! ## Every run is serial -/

theorem outcome_append (settings : NodeSettings) (before after : List Move) :
    outcome settings (before ++ after) =
      (outcome settings before).1.run (outcome settings before).2 after :=
  run_append before after

/-- Every run of one node comes to a log in memory with an orderly desk before it. -/
theorem exists_orderly (settings : NodeSettings) (moves : List Move) :
    ∃ log, (outcome settings moves).2 = .memory log ∧
      (outcome settings moves).1.Orderly settings.tenant log := by
  obtain ⟨log, hstore, -, horderly⟩ := (orderly_opened settings).run moves
  exact ⟨log, hstore, horderly⟩

/-- The log after some of the moves is at the front of the log after all of them. -/
theorem outcome_mono {settings : NodeSettings} {before after : List Move} {past : List Entry}
    (hpast : (outcome settings before).2 = .memory past)
    (hlog : (outcome settings (before ++ after)).2 = .memory log) : past <+: log := by
  obtain ⟨past', hpast', horderly⟩ := exists_orderly settings before
  rw [hpast] at hpast'
  cases hpast'
  obtain ⟨log', hlog', grown, -⟩ := horderly.run after
  rw [outcome_append, hpast, hlog'] at hlog
  cases hlog
  exact grown

/-- What it means for the log of a run that the writes in it are serial. -/
structure Serial (settings : NodeSettings) (moves : List Move) (d : Desk) (log : List Entry) :
    Prop where
  /-- Every entry is the operation that a task plans on the catalog of the entries in front of it,
  and it is the entry of no other task. -/
  entries : ∀ n entry, log[n]? = some entry → entry.offset = n + 1 ∧ ∃ i errand stage answer,
    d.place? i = some (errand, stage) ∧ stage.offset? = some (n + 1) ∧
    errand.plan settings.tenant (.ofEntries (log.take n)) =
      .ok { op := some entry.op, answer } ∧
    ∀ j other stage', d.place? j = some (other, stage') → stage'.offset? = some (n + 1) → j = i
  /-- An append that has not failed has put its operation into the log, as the entry of its task. -/
  appended : ∀ before after i now errand op answer, moves = before ++ .push i none now :: after →
    (outcome settings before).1.place? i = some (errand, .pushing op answer) →
    ∃ n entry stage, log[n]? = some entry ∧ entry.op = op ∧
      d.place? i = some (errand, stage) ∧ stage.offset? = some (n + 1)
  /-- A task that has an entry ends well, and answers what it has planned on the entries in front of
  it. -/
  entered : ∀ i errand offset result, d.place? i = some (errand, .finished (some offset) result) →
    ∃ n entry answer, offset = n + 1 ∧ log[n]? = some entry ∧ result = .ok answer ∧
      errand.plan settings.tenant (.ofEntries (log.take n)) = .ok { op := some entry.op, answer }
  /-- A task that ends well without an entry answers what it has planned on the log as it was at
  that moment. -/
  idle : ∀ i errand answer, d.place? i = some (errand, .finished none (.ok answer)) →
    ∃ before after past, moves = before ++ .plan i :: after ∧
      (outcome settings before).2 = .memory past ∧ past <+: log ∧
      errand.plan settings.tenant (.ofEntries past) = .ok { op := none, answer }

/-- A task that has ended well with nothing to append had a plan that said so. -/
theorem planned_of_idle (settings : NodeSettings) (moves : List Move) {answer : Receipt}
    (h : (outcome settings moves).1.place? i = some (errand, .finished none (.ok answer))) :
    ∃ before after past, moves = before ++ .plan i :: after ∧
      (outcome settings before).2 = .memory past ∧
      errand.plan settings.tenant (.ofEntries past) = .ok { op := none, answer } := by
  induction moves using List.reverseRecOn with
  | nil => cases h
  | append_singleton moves move ih =>
    rw [outcome_append] at h
    obtain ⟨past, hpast, horderly⟩ := exists_orderly settings moves
    rcases (turn_step _ _ move).place?_of_idle h with hbefore | ⟨rfl, place, planned⟩
    · obtain ⟨before, after, past, rfl, hplanned⟩ := ih hbefore
      refine ⟨before, after ++ [move], past, ?_, hplanned⟩
      rw [List.append_assoc, List.cons_append]
    · have hcatalog : (outcome settings moves).1.node.catalog = .ofEntries past :=
        horderly.fits place
      rw [horderly.tenant_eq, hcatalog] at planned
      exact ⟨moves, [], past, rfl, hpast, planned⟩

/-- An append that has not failed gives its task the next entry. -/
theorem Orderly.push_none (h : d.Orderly tenant log) {op : Op} {answer : Receipt}
    (place : d.place? i = some (errand, .pushing op answer)) (now : Instant) :
    d.step (.memory log) (.push i none now) =
      (d.put i (.settling (log.length + 1) answer), .memory (log ++ [Entry.next log op now])) := by
  rw [step, push, place]
  dsimp only
  rw [h.contiguous.write_none]

/-- A task that has appended keeps its entry to the end of the run. -/
theorem exists_entry_of_push {settings : NodeSettings} {before after : List Move} {now : Instant}
    {op : Op} {answer : Receipt}
    (place : (outcome settings before).1.place? i = some (errand, .pushing op answer))
    (hlog : (outcome settings (before ++ .push i none now :: after)).2 = .memory log) :
    ∃ n entry stage, log[n]? = some entry ∧ entry.op = op ∧
      (outcome settings (before ++ .push i none now :: after)).1.place? i =
        some (errand, stage) ∧ stage.offset? = some (n + 1) := by
  obtain ⟨past, hpast, horderly⟩ := exists_orderly settings before
  have hpush : outcome settings (before ++ [.push i none now]) =
      ((outcome settings before).1.put i (.settling (past.length + 1) answer),
        .memory (past ++ [Entry.next past op now])) := by
    rw [outcome_append, hpast]
    exact horderly.push_none place now
  rw [List.append_cons] at hlog ⊢
  -- The entry stays where it is in whatever log the rest of the moves leads to.
  obtain ⟨more, rfl⟩ := outcome_mono (congrArg Prod.snd hpush) hlog
  have hself : (outcome settings (before ++ [.push i none now])).1.place? i =
      some (errand, .settling (past.length + 1) answer) := by
    rw [hpush]
    exact place?_put_self place _
  obtain ⟨stage, place', hoffset⟩ := keeps_run after i errand _ hself
  rw [← outcome_append] at place'
  refine ⟨past.length, Entry.next past op now, stage, ?_, rfl, place', hoffset _ rfl⟩
  rw [List.append_assoc, List.getElem?_append_right (Nat.le_refl _), Nat.sub_self]
  rfl

/-- However the moves of a leader are interleaved, whatever fails, and whoever leaves, its writes
are serial. -/
theorem serial_run (settings : NodeSettings) (moves : List Move) :
    ∃ log, (outcome settings moves).2 = .memory log ∧
      Serial settings moves (outcome settings moves).1 log := by
  obtain ⟨log, hlog, horderly⟩ := exists_orderly settings moves
  refine ⟨log, hlog, ?_, ?_, ?_, ?_⟩
  · intro n entry hentry
    obtain ⟨i, errand, stage, place, hoffset⟩ :=
      horderly.covered n (List.getElem?_eq_some_iff.mp hentry).1
    obtain ⟨answer, m, other, hm, hother, planned⟩ := (horderly.fits place).entered hoffset
    obtain rfl : n = m := Nat.succ.inj hm
    rw [hentry] at hother
    cases hother
    exact ⟨horderly.contiguous n entry hentry, i, errand, stage, answer, place, hoffset, planned,
      fun j other stage' place' hsame => horderly.distinct place' place hsame hoffset⟩
  · rintro before after i now errand op answer rfl place
    exact exists_entry_of_push place hlog
  · intro i errand offset result place
    obtain ⟨answer, hresult, n, entry, hoffset, hentry, planned⟩ := horderly.fits place
    exact ⟨n, entry, answer, hoffset, hentry, hresult, planned⟩
  · intro i errand answer place
    obtain ⟨before, after, past, rfl, hpast, planned⟩ := planned_of_idle settings moves place
    exact ⟨before, after, past, rfl, hpast, outcome_mono hpast hlog, planned⟩

end Desk

end SchemaRegistry
