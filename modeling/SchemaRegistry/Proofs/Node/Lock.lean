import SchemaRegistry.Proofs.Node.Desk
/-!
# The lock of a desk

Of the tasks of a desk one at a time has the write lock, and the applier works for no task but one
that waits for it. Every turn keeps both, whatever the log holds and whoever else appends to it.
From this follows that while a task plans or appends, the applier works for the background, and no
other task of the desk is at a stage at which it knows anything of the log.
-/

set_option autoImplicit false

namespace SchemaRegistry

theorem Stage.isInside_of_isSyncing {stage : Stage} (h : stage.isSyncing) : stage.isInside := by
  cases stage with
  | syncing | settling => rfl
  | waiting | planning | appending | pushing | finished => cases h

namespace Desk

variable {d : Desk} {s : Store} {i : Nat} {errand : Errand} {old stage : Stage}

/-- Who has the lock and for whom the applier works. -/
structure Locked (d : Desk) : Prop where
  /-- The lock is with the one task that is at a stage that needs it. -/
  exclusive : ∀ i, d.lock = some i ↔
    ∃ errand stage, d.place? i = some (errand, stage) ∧ stage.isInside
  owner_syncing : ∀ {i}, d.applier.owner? = some i →
    ∃ errand stage, d.place? i = some (errand, stage) ∧ stage.isSyncing

theorem locked_new (n : Node) : ({ node := n } : Desk).Locked := by
  constructor
  · simp [place?]
  · simp [Applier.owner?]

namespace Locked

theorem lock_eq (h : d.Locked) (place : d.place? i = some (errand, old)) (inside : old.isInside) :
    d.lock = some i :=
  (h.exclusive i).mpr ⟨errand, old, place, inside⟩

/-- Two tasks at stages that need the lock are one task. -/
theorem eq_of_inside (h : d.Locked) {j : Nat} {other : Errand}
    (place : d.place? i = some (errand, old)) (inside : old.isInside)
    (place' : d.place? j = some (other, stage)) (inside' : stage.isInside) : i = j := by
  have hlock := h.lock_eq place inside
  rw [h.lock_eq place' inside'] at hlock
  exact (Option.some.inj hlock).symm

/-- The applier does not work for a task that does not need it. -/
theorem owner_ne (h : d.Locked) (place : d.place? i = some (errand, old))
    (notSyncing : old.isSyncing = false) {j : Nat} (howner : d.applier.owner? = some j) :
    j ≠ i := by
  rintro rfl
  obtain ⟨other, stage, place', syncing⟩ := h.owner_syncing howner
  rw [place] at place'
  cases place'
  rw [notSyncing] at syncing
  cases syncing

/-- Where a task with the lock does not need the applier, the applier works for the background. -/
theorem owner_none (h : d.Locked) (place : d.place? i = some (errand, old))
    (inside : old.isInside) (notSyncing : old.isSyncing = false) :
    d.applier.owner? = none := by
  rw [Option.eq_none_iff_forall_ne_some]
  intro j howner
  obtain ⟨other, stage, place', syncing⟩ := h.owner_syncing howner
  have hij := h.eq_of_inside place inside place' (Stage.isInside_of_isSyncing syncing)
  exact h.owner_ne place notSyncing howner hij.symm

/-! ### One task moves -/

/-- For the task that moves its new stage says whether it has the lock, and for the others nothing
has changed. -/
theorem exclusive_put (h : d.Locked) (place : d.place? i = some (errand, old))
    {lock : Option Nat} (self : lock = some i ↔ stage.isInside)
    (others : ∀ j, j ≠ i → (lock = some j ↔ d.lock = some j)) (j : Nat) :
    lock = some j ↔
      ∃ other stage', (d.put i stage).place? j = some (other, stage') ∧ stage'.isInside := by
  have hself := place?_put_self place stage
  by_cases hji : j = i
  · rw [hji]
    refine self.trans ⟨fun inside => ⟨errand, stage, hself, inside⟩, ?_⟩
    rintro ⟨other, stage', place', inside⟩
    rw [hself] at place'
    cases place'
    exact inside
  · rw [place?_put_ne hji]
    exact (others j hji).trans (h.exclusive j)

/-- The applier goes on to work for another task, or becomes free. It does not go on for a task that
has stopped waiting for it. -/
theorem owner_syncing_put (h : d.Locked) (place : d.place? i = some (errand, old))
    {applier : Applier} (happlier : applier = .free ∨ applier = d.applier ∧ old.isSyncing = false)
    {j : Nat} (hj : applier.owner? = some j) :
    ∃ other stage', (d.put i stage).place? j = some (other, stage') ∧ stage'.isSyncing := by
  rcases happlier with rfl | ⟨rfl, notSyncing⟩
  · cases hj
  · obtain ⟨other, stage', place', syncing⟩ := h.owner_syncing hj
    have hji := h.owner_ne place notSyncing hj
    exact ⟨other, stage', (place?_put_ne hji stage).trans place', syncing⟩

/-- One task goes to another stage, and takes or leaves the lock as that stage needs it. -/
theorem put (h : d.Locked) (place : d.place? i = some (errand, old)) {lock : Option Nat}
    {applier : Applier} (self : lock = some i ↔ stage.isInside)
    (others : ∀ j, j ≠ i → (lock = some j ↔ d.lock = some j))
    (happlier : applier = .free ∨ applier = d.applier ∧ old.isSyncing = false) :
    ({ d.put i stage with lock, applier } : Desk).Locked where
  exclusive := h.exclusive_put place self others
  owner_syncing := h.owner_syncing_put place happlier

/-- A task with the lock goes to another stage at which it needs the lock. -/
theorem advance (h : d.Locked) (place : d.place? i = some (errand, old)) {applier : Applier}
    (inside : old.isInside) (inside' : stage.isInside)
    (happlier : applier = .free ∨ applier = d.applier ∧ old.isSyncing = false) :
    ({ d.put i stage with applier } : Desk).Locked := by
  refine h.put place ?_ (fun _ _ => Iff.rfl) happlier
  exact ⟨fun _ => inside', fun _ => h.lock_eq place inside⟩

/-- A task with the lock ends. -/
theorem finish (h : d.Locked) (place : d.place? i = some (errand, old)) (offset : Option Nat)
    (result : Except Error Receipt) {applier : Applier} (inside : old.isInside)
    (happlier : applier = .free ∨ applier = d.applier ∧ old.isSyncing = false) :
    ({ d.finish i offset result with applier } : Desk).Locked := by
  refine h.put place ⟨nofun, nofun⟩ (fun j hji => ?_) happlier
  rw [h.lock_eq place inside, Option.some.injEq]
  exact ⟨nofun, fun heq => absurd heq.symm hji⟩

/-- A task that goes on to its plan keeps the lock, and one that ends leaves it. -/
theorem released (h : d.Locked) {owner : Option Nat} {outcome : Except LogFailure Unit}
    {d' : Desk} (hreleased : d.Released owner outcome d') : d'.Locked := by
  cases hreleased with
  | unowned => exact ⟨h.exclusive, nofun⟩
  | ready place => exact h.advance place rfl rfl (Or.inl rfl)
  | failed place => exact h.finish place _ _ rfl (Or.inl rfl)
  | settled _ place => exact h.finish place _ _ rfl (Or.inl rfl)

/-! ### Turns -/

/-- A new task is at a stage that needs no lock, so it cannot be a second one to have it. -/
theorem called (h : d.Locked) (errand : Errand) :
    ({ d with tasks := d.tasks ++ [{ errand }] } : Desk).Locked := by
  have before : ∀ {i place}, d.place? i = some place →
      ({ d with tasks := d.tasks ++ [{ errand }] } : Desk).place? i = some place :=
    fun hplace => place?_concat.mpr (Or.inl hplace)
  refine ⟨fun i => (h.exclusive i).trans ⟨?_, ?_⟩, fun hi => ?_⟩
  · rintro ⟨other, stage, place, inside⟩
    exact ⟨other, stage, before place, inside⟩
  · rintro ⟨other, stage, place, inside⟩
    rcases place?_concat.mp place with place | ⟨-, hplace⟩
    · exact ⟨other, stage, place, inside⟩
    · cases hplace
      cases inside
  · obtain ⟨other, stage, place, syncing⟩ := h.owner_syncing hi
    exact ⟨other, stage, before place, syncing⟩

/-- **No turn gives the lock away to two tasks.** -/
theorem turn (h : d.Locked) {move : Move} {d' : Desk} {s' : Store}
    (hturn : d.Turn s move d' s') : d'.Locked := by
  cases hturn with
  | still => exact h
  | called => exact h.called _
  | taken place free =>
    refine h.put place ⟨fun _ => rfl, fun _ => rfl⟩ (fun j hji => ?_) (Or.inr ⟨rfl, rfl⟩)
    rw [free, Option.some.injEq]
    exact ⟨fun heq => absurd heq.symm hji, nofun⟩
  | entered free syncing => exact ⟨h.exclusive, fun howner => syncing _ howner⟩
  | unread applier failed released => exact h.released released
  | read applier =>
    refine ⟨h.exclusive, fun howner => h.owner_syncing ?_⟩
    rw [applier]
    exact howner
  | applied applier =>
    refine ⟨h.exclusive, fun howner => h.owner_syncing ?_⟩
    rw [applier]
    exact howner
  | caughtUp applier released => exact h.released released
  | dropped => exact ⟨h.exclusive, nofun⟩
  | refused place | idle place | deposed place | unwritten place =>
    exact h.finish place _ _ rfl (Or.inr ⟨rfl, rfl⟩)
  | planned place | checked place | pushed place =>
    exact h.advance place rfl rfl (Or.inr ⟨rfl, rfl⟩)
  | left i =>
    constructor
    all_goals rw [place?_leave]
    · exact h.exclusive
    · exact h.owner_syncing

end Locked

end Desk

end SchemaRegistry
