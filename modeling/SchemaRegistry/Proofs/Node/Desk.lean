import SchemaRegistry.Node.Desk
/-!
# The turns of a desk

A move reads a part of the desk, and depending on what stands there it does one thing or another, or
nothing. `Turn` lists what can come of each move, with what is known in each case, and `turn_step`
says that the list is complete. Whatever holds along all runs is proved by going through this list,
and none of the functions that make the moves is opened again.

Of the tasks only `place?` matters: what each is about, and where it has come to.
-/

set_option autoImplicit false

namespace SchemaRegistry.Desk

variable {d : Desk} {s : Store} {i j : Nat} {errand : Errand} {stage : Stage}

/-! ## Places -/

theorem place?_put_self {old : Stage} (h : d.place? i = some (errand, old)) (stage : Stage) :
    (d.put i stage).place? i = some (errand, stage) := by
  rw [place?] at h
  obtain ⟨task, htask, hplace⟩ := Option.map_eq_some_iff.mp h
  rw [place?, put, List.getElem?_modify_eq, htask]
  cases hplace
  rfl

/-- The other tasks stay where they are. From here on a desk is looked at by its places only. -/
theorem place?_put_ne (h : j ≠ i) (stage : Stage) : (d.put i stage).place? j = d.place? j := by
  rw [place?, put, List.getElem?_modify_ne _ _ h.symm, place?]

/-- A place on a desk on which one task has moved is that of the task, or it is as it was before. -/
theorem place?_put {old : Stage} {place : Errand × Stage} (h : d.place? i = some (errand, old))
    (hj : (d.put i stage).place? j = some place) :
    j = i ∧ place = (errand, stage) ∨ j ≠ i ∧ d.place? j = some place := by
  by_cases hji : j = i
  · rw [hji, place?_put_self h] at hj
    exact Or.inl ⟨hji, (Option.some.inj hj).symm⟩
  · rw [place?_put_ne hji] at hj
    exact Or.inr ⟨hji, hj⟩

/-- A task whose caller leaves stays where it is. -/
theorem place?_leave (i : Nat) : (d.leave i).place? = d.place? := by
  funext j
  rw [place?, place?, leave, List.getElem?_modify]
  cases d.tasks[j]? with
  | none => rfl
  | some task =>
    rw [Option.map_eq_map, Option.map_some, Option.map_some, Option.map_some]
    split <;> rfl

/-- A new task stands behind all others. -/
theorem place?_concat {place : Errand × Stage} :
    ({ d with tasks := d.tasks ++ [{ errand }] } : Desk).place? i = some place ↔
      d.place? i = some place ∨ i = d.tasks.length ∧ place = (errand, .waiting) := by
  rw [place?, place?, List.getElem?_append]
  split
  · rename_i hlt
    have hne : i ≠ d.tasks.length := Nat.ne_of_lt hlt
    exact ⟨Or.inl, fun h => h.resolve_right fun hnew => hne hnew.1⟩
  · rename_i hge
    have hnone : d.tasks[i]? = none := List.getElem?_eq_none (Nat.not_lt.mp hge)
    rw [hnone, Option.map_none, List.getElem?_singleton]
    split
    · rename_i hzero
      have hi : i = d.tasks.length := by omega
      refine ⟨fun h => Or.inr ⟨hi, (Option.some.inj h).symm⟩, ?_⟩
      rintro (h | ⟨-, rfl⟩)
      · cases h
      · rfl
    · rename_i hnonzero
      rw [Option.map_none]
      refine ⟨Or.inl, ?_⟩
      rintro (h | ⟨hi, -⟩)
      · exact h
      · omega

/-! ## Turns -/

/-- What becomes of a desk when its applier becomes free. -/
inductive Released (d : Desk) : Option Nat → Except LogFailure Unit → Desk → Prop where
  /-- Nobody has waited for it. -/
  | unowned (owner : Option Nat) (outcome : Except LogFailure Unit) :
      Released d owner outcome { d with applier := .free }
  | ready {i : Nat} {errand : Errand} (place : d.place? i = some (errand, .syncing)) :
      Released d (some i) (.ok ()) { d.put i .planning with applier := .free }
  | failed {i : Nat} {errand : Errand} {failure : LogFailure}
      (place : d.place? i = some (errand, .syncing)) :
      Released d (some i) (.error failure)
        { d.finish i none (.error failure.error) with applier := .free }
  | settled {i : Nat} {errand : Errand} {offset : Nat} {answer : Receipt}
      (outcome : Except LogFailure Unit)
      (place : d.place? i = some (errand, .settling offset answer)) :
      Released d (some i) outcome
        { d.finish i (some offset) (.ok answer) with applier := .free }

/-- The four cases of `Released` are all that can become of a desk whose applier is free again. A
task that has not waited for it is not disturbed. -/
theorem released (d : Desk) (owner : Option Nat) (outcome : Except LogFailure Unit) :
    d.Released owner outcome (d.release owner outcome) := by
  cases owner with
  | none => exact .unowned none outcome
  | some i =>
    unfold release
    dsimp only
    split
    · rename_i place
      exact .ready place
    · rename_i place
      exact .failed place
    · rename_i place
      exact .settled _ place
    · exact .unowned (some i) _

/-- What can come of a move. -/
inductive Turn (d : Desk) (s : Store) : Move → Desk → Store → Prop where
  /-- The move is not possible. -/
  | still (move : Move) : Turn d s move d s
  | called {errand : Errand} (accepted : errand.accept d.node = .ok ())
      (route : d.node.believes.route = .ok .here) :
      Turn d s (.call errand) { d with tasks := d.tasks ++ [{ errand }] } s
  | taken {i : Nat} {errand : Errand} (place : d.place? i = some (errand, .waiting))
      (free : d.lock = none) :
      Turn d s (.take i) { d.put i .syncing with lock := some i } s
  | entered {owner : Option Nat} (free : d.applier = .free)
      (syncing : ∀ i, owner = some i →
        ∃ errand stage, d.place? i = some (errand, stage) ∧ stage.isSyncing) :
      Turn d s (.enter owner) { d with applier := .reading owner d.node.catalog.applied } s
  | unread {owner : Option Nat} {applied : Nat} {fault : Option LogFailure} {failure : LogFailure}
      {d' : Desk} (applier : d.applier = .reading owner applied)
      (failed : s.read fault applied = .error failure)
      (released : d.Released owner (.error failure) d') :
      Turn d s (.read fault) d' s
  | read {owner : Option Nat} {applied : Nat} {fault : Option LogFailure} {entries : List Entry}
      (applier : d.applier = .reading owner applied)
      (entries_eq : s.read fault applied = .ok entries) :
      Turn d s (.read fault) { d with applier := .applying owner entries } s
  | applied {owner : Option Nat} {entry : Entry} {rest : List Entry}
      (applier : d.applier = .applying owner (entry :: rest)) :
      Turn d s .apply
        { d with
          node := { d.node with catalog := d.node.catalog.apply entry }
          applier := .applying owner rest } s
  | caughtUp {owner : Option Nat} {d' : Desk} (applier : d.applier = .applying owner [])
      (released : d.Released owner (.ok ()) d') :
      Turn d s .apply d' s
  | dropped (background : d.applier.owner? = none) :
      Turn d s .drop { d with applier := .free } s
  | refused {i : Nat} {errand : Errand} {e : Error}
      (place : d.place? i = some (errand, .planning))
      (planned : errand.plan d.node.settings.tenant d.node.catalog = .error e) :
      Turn d s (.plan i) (d.finish i none (.error e)) s
  /-- All is as it should be already. -/
  | idle {i : Nat} {errand : Errand} {answer : Receipt}
      (place : d.place? i = some (errand, .planning))
      (planned : errand.plan d.node.settings.tenant d.node.catalog =
        .ok { op := none, answer }) :
      Turn d s (.plan i) (d.finish i none (.ok answer)) s
  | planned {i : Nat} {errand : Errand} {op : Op} {answer : Receipt}
      (place : d.place? i = some (errand, .planning))
      (planned : errand.plan d.node.settings.tenant d.node.catalog =
        .ok { op := some op, answer }) :
      Turn d s (.plan i) (d.put i (.appending op answer)) s
  | checked {i : Nat} {errand : Errand} {op : Op} {answer : Receipt}
      (place : d.place? i = some (errand, .appending op answer))
      (leads : d.node.believes.isLeader) :
      Turn d s (.check i) (d.put i (.pushing op answer)) s
  | deposed {i : Nat} {errand : Errand} {op : Op} {answer : Receipt}
      (place : d.place? i = some (errand, .appending op answer))
      (leads : d.node.believes.isLeader = false) :
      Turn d s (.check i) (d.finish i none (.error LogFailure.notLeader.error)) s
  | pushed {i : Nat} {errand : Errand} {op : Op} {answer : Receipt} {fault : Option LogFailure}
      {now : Instant} {offset : Nat} {s' : Store}
      (place : d.place? i = some (errand, .pushing op answer))
      (written : s.write fault now op = (.ok offset, s')) :
      Turn d s (.push i fault now) (d.put i (.settling offset answer)) s'
  | unwritten {i : Nat} {errand : Errand} {op : Op} {answer : Receipt}
      {fault : Option LogFailure} {now : Instant} {failure : LogFailure} {s' : Store}
      (place : d.place? i = some (errand, .pushing op answer))
      (failed : s.write fault now op = (.error failure, s')) :
      Turn d s (.push i fault now) (d.finish i none (.error failure.error)) s'
  | left (i : Nat) : Turn d s (.leave i) (d.leave i) s

/-! ## Moves are turns -/

/-- A call becomes a task only if the node accepts it and believes that it leads. -/
theorem turn_call (errand : Errand) : d.Turn s (.call errand) (d.call errand) s := by
  rw [call]
  split
  · rename_i accepted route
    exact .called accepted route
  · exact .still _

theorem turn_take (i : Nat) : d.Turn s (.take i) (d.take i) s := by
  rw [take]
  split
  · rename_i place free
    exact .taken place free
  · exact .still _

/-- The applier begins to read for a task that waits for it, or for the background, and only when it
is free. -/
theorem turn_enter (owner : Option Nat) : d.Turn s (.enter owner) (d.enter owner) s := by
  rw [enter]
  split
  · rename_i free
    split
    · rename_i hsyncing
      refine .entered free fun i hi => ?_
      rw [hi, Option.all_some, Option.any_eq_true] at hsyncing
      obtain ⟨⟨errand, stage⟩, place, syncing⟩ := hsyncing
      exact ⟨errand, stage, place, syncing⟩
    · exact .still _
  · exact .still _

/-- A reading that fails frees the applier at once, and whoever waited for it is told. -/
theorem turn_read (fault : Option LogFailure) : d.Turn s (.read fault) (d.read s fault) s := by
  rw [Desk.read]
  split
  · rename_i owner applied applier
    cases hread : s.read fault applied with
    | error failure => exact .unread applier hread (d.released owner _)
    | ok entries => exact .read applier hread
  · exact .still _

/-- One entry is applied, or there is none left and the applier becomes free. -/
theorem turn_apply : d.Turn s .apply d.apply s := by
  rw [apply]
  split
  · rename_i owner applier
    exact .caughtUp applier (d.released owner _)
  · rename_i applier
    exact .applied applier
  · exact .still _

/-- Only what is read for the background can be given up, since a task waits for its reading to end.
-/
theorem turn_drop : d.Turn s .drop d.drop s := by
  rw [drop]
  split
  · rename_i background
    exact .dropped background
  · exact .still _

/-- A plan is refused, finds that all is as it should be, or has an operation to append. -/
theorem turn_plan (i : Nat) : d.Turn s (.plan i) (d.plan i) s := by
  rw [plan]
  split
  · rename_i errand place
    split
    · rename_i planned
      exact .refused place planned
    · rename_i planned
      exact .idle place planned
    · rename_i planned
      exact .planned place planned
  · exact .still _

/-- Leadership is looked at once more before the append, and a node that has lost it tells the
caller so. -/
theorem turn_check (i : Nat) : d.Turn s (.check i) (d.check i) s := by
  rw [check]
  split
  · rename_i place
    by_cases leads : d.node.believes.isLeader
    · rw [if_pos leads]
      exact .checked place leads
    · rw [if_neg leads]
      exact .deposed place (Bool.eq_false_iff.mpr leads)
  · exact .still _

/-- The append succeeds with an offset or fails, and a failure ends the task without an entry. -/
theorem turn_push (i : Nat) (fault : Option LogFailure) (now : Instant) :
    d.Turn s (.push i fault now) (d.push s i fault now).1 (d.push s i fault now).2 := by
  rw [push]
  split
  · rename_i place
    split
    · rename_i failed
      exact .unwritten place failed
    · rename_i written
      exact .pushed place written
  · exact .still _

/-- Nothing else comes of a move. -/
theorem turn_step (d : Desk) (s : Store) (move : Move) :
    d.Turn s move (d.step s move).1 (d.step s move).2 := by
  cases move with
  | call errand => exact turn_call errand
  | take i => exact turn_take i
  | enter owner => exact turn_enter owner
  | read fault => exact turn_read fault
  | apply => exact turn_apply
  | drop => exact turn_drop
  | plan i => exact turn_plan i
  | check i => exact turn_check i
  | push i fault now => exact turn_push i fault now
  | leave i => exact .left i

/-! ## What turns make of a task -/

/-- A task keeps what it is about, and it keeps its entry once it has one. -/
def Keeps (d d' : Desk) : Prop :=
  ∀ i errand stage, d.place? i = some (errand, stage) →
    ∃ stage', d'.place? i = some (errand, stage') ∧
      ∀ offset, stage.offset? = some offset → stage'.offset? = some offset

theorem Keeps.refl (d : Desk) : d.Keeps d :=
  fun _ _ stage place => ⟨stage, place, fun _ h => h⟩

/-- What is kept by each of two turns is kept by both, so whole runs keep it as well. -/
theorem Keeps.trans {d' d'' : Desk} (h : d.Keeps d') (h' : d'.Keeps d'') : d.Keeps d'' := by
  intro i errand stage place
  obtain ⟨stage', place', hoffset⟩ := h i errand stage place
  obtain ⟨stage'', place'', hoffset'⟩ := h' i errand stage' place'
  exact ⟨stage'', place'', fun offset h => hoffset' offset (hoffset offset h)⟩

/-- A task that moves keeps its offset, if its new stage has the one of its old. -/
theorem keeps_put {old : Stage} (place : d.place? i = some (errand, old))
    (hoffset : ∀ offset, old.offset? = some offset → stage.offset? = some offset) :
    d.Keeps (d.put i stage) := by
  intro j other stage' place'
  by_cases hji : j = i
  · subst hji
    rw [place] at place'
    cases place'
    exact ⟨stage, place?_put_self place stage, hoffset⟩
  · exact ⟨stage', (place?_put_ne hji stage).trans place', fun _ h => h⟩

/-- When the applier becomes free only a task with an entry ends with one, and it is the entry that
it had. -/
theorem Released.keeps {owner : Option Nat} {outcome : Except LogFailure Unit} {d' : Desk}
    (h : d.Released owner outcome d') : d.Keeps d' := by
  cases h with
  | unowned => exact .refl d
  | ready place | failed place => exact keeps_put place nofun
  | settled _ place => exact keeps_put place fun _ h => h

/-- **No turn takes a task away, or an entry from a task.** By it an answer that was given once
stands at the end of every run. -/
theorem Turn.keeps {move : Move} {d' : Desk} {s' : Store} (h : d.Turn s move d' s') :
    d.Keeps d' := by
  cases h with
  | still | entered | read | applied | dropped => exact .refl d
  | called => exact fun i errand stage place =>
      ⟨stage, place?_concat.mpr (Or.inl place), fun _ h => h⟩
  | unread _ _ released | caughtUp _ released => exact released.keeps
  | taken place | refused place | idle place | planned place | checked place | deposed place
  | pushed place | unwritten place => exact keeps_put place nofun
  | left i =>
    intro j errand stage place
    exact ⟨stage, by rw [place?_leave, place], fun _ h => h⟩

/-- A place on a desk on which one task has moved to some other stage. -/
theorem place?_of_put {old stage' : Stage} {other : Errand} {d' : Desk}
    (h : d'.place? j = some (other, stage')) (place : d.place? i = some (errand, old))
    (tasks_eq : d'.tasks = (d.put i stage).tasks) (hne : stage ≠ stage') :
    d.place? j = some (other, stage') := by
  rw [place?, tasks_eq] at h
  rcases place?_put place h with ⟨-, hplace⟩ | ⟨-, h⟩
  · cases hplace
    exact absurd rfl hne
  · exact h

/-- A task ends without an entry by its plan alone, not by the applier becoming free. -/
theorem Released.place?_of_idle {owner : Option Nat} {outcome : Except LogFailure Unit} {d' : Desk}
    (h : d.Released owner outcome d') {answer : Receipt}
    (idle : d'.place? i = some (errand, .finished none (.ok answer))) :
    d.place? i = some (errand, .finished none (.ok answer)) := by
  cases h with
  | unowned => exact idle
  | ready place | failed place | settled _ place => exact place?_of_put idle place rfl nofun

/-- A task that has ended well with nothing to append had done so before, or this was its plan. -/
theorem Turn.place?_of_idle {move : Move} {d' : Desk} {s' : Store} (h : d.Turn s move d' s')
    {answer : Receipt} (idle : d'.place? i = some (errand, .finished none (.ok answer))) :
    d.place? i = some (errand, .finished none (.ok answer)) ∨
      move = .plan i ∧ d.place? i = some (errand, .planning) ∧
        errand.plan d.node.settings.tenant d.node.catalog = .ok { op := none, answer } := by
  cases h with
  | still | entered | read | applied | dropped => exact Or.inl idle
  | called =>
    rcases place?_concat.mp idle with h | ⟨-, h⟩
    · exact Or.inl h
    · cases h
  | unread _ _ released | caughtUp _ released => exact Or.inl (released.place?_of_idle idle)
  | taken place | refused place | planned place | checked place | deposed place | pushed place
  | unwritten place => exact Or.inl (place?_of_put idle place rfl nofun)
  | idle place planned =>
    rcases place?_put place idle with ⟨rfl, h⟩ | ⟨-, h⟩
    · cases h
      exact Or.inr ⟨rfl, place, planned⟩
    · exact Or.inl h
  | left j =>
    rw [place?_leave] at idle
    exact Or.inl idle

/-! ## From stage to stage -/

/-- What a turn can make of a stage, at a node that takes itself for the leader or does not. -/
inductive Proceeds (leads : Bool) : Stage → Stage → Prop where
  | stays (stage : Stage) : Proceeds leads stage stage
  | taken : Proceeds leads .waiting .syncing
  | ready : Proceeds leads .syncing .planning
  | unread (failure : LogFailure) :
      Proceeds leads .syncing (.finished none (.error failure.error))
  | decided (result : Except Error Receipt) : Proceeds leads .planning (.finished none result)
  | planned (op : Op) (answer : Receipt) : Proceeds leads .planning (.appending op answer)
  | checked (op : Op) (answer : Receipt) (h : leads) :
      Proceeds leads (.appending op answer) (.pushing op answer)
  | deposed (op : Op) (answer : Receipt) (h : leads = false) :
      Proceeds leads (.appending op answer)
        (.finished none (.error LogFailure.notLeader.error))
  | unwritten (op : Op) (answer : Receipt) (failure : LogFailure) :
      Proceeds leads (.pushing op answer) (.finished none (.error failure.error))
  | pushed (op : Op) (answer : Receipt) (offset : Nat) :
      Proceeds leads (.pushing op answer) (.settling offset answer)
  | settled (offset : Nat) (answer : Receipt) :
      Proceeds leads (.settling offset answer) (.finished (some offset) (.ok answer))

/-- Where one task proceeds, every task does. -/
theorem proceeds_put {old stage' : Stage} {other : Errand} {leads : Bool} {d' : Desk}
    (place : d.place? i = some (errand, old)) (proceeds : Proceeds leads old stage)
    (tasks_eq : d'.tasks = (d.put i stage).tasks) (place' : d'.place? j = some (other, stage')) :
    ∃ old', d.place? j = some (other, old') ∧ Proceeds leads old' stage' := by
  rw [place?, tasks_eq] at place'
  rcases place?_put place place' with ⟨rfl, hplace⟩ | ⟨-, place'⟩
  · cases hplace
    exact ⟨old, place, proceeds⟩
  · exact ⟨stage', place', .stays stage'⟩

/-- Whoever has waited for the applier goes on to plan or ends, and both are steps that `Proceeds`
lists. -/
theorem Released.proceeds {owner : Option Nat} {outcome : Except LogFailure Unit} {d' : Desk}
    (h : d.Released owner outcome d') {leads : Bool} (place' : d'.place? i = some (errand, stage)) :
    ∃ old, d.place? i = some (errand, old) ∧ Proceeds leads old stage := by
  cases h with
  | unowned => exact ⟨stage, place', .stays stage⟩
  | ready place => exact proceeds_put place .ready rfl place'
  | failed place => exact proceeds_put place (.unread _) rfl place'
  | settled _ place => exact proceeds_put place (.settled _ _) rfl place'

/-- Every task proceeds, or it is new. -/
theorem Turn.proceeds {move : Move} {d' : Desk} {s' : Store} (h : d.Turn s move d' s')
    (place' : d'.place? i = some (errand, stage)) :
    (∃ old, d.place? i = some (errand, old) ∧ Proceeds d.node.believes.isLeader old stage) ∨
      d.place? i = none ∧ stage = .waiting := by
  cases h with
  | still | entered | read | applied | dropped => exact Or.inl ⟨stage, place', .stays stage⟩
  | called =>
    -- The new task is at the end and waits.
    rcases place?_concat.mp place' with place | ⟨rfl, hplace⟩
    · exact Or.inl ⟨stage, place, .stays stage⟩
    · cases hplace
      refine Or.inr ⟨?_, rfl⟩
      rw [place?, List.getElem?_eq_none (Nat.le_refl _)]
      rfl
  | unread _ _ released | caughtUp _ released => exact Or.inl (released.proceeds place')
  | taken place => exact Or.inl (proceeds_put place .taken rfl place')
  | refused place | idle place => exact Or.inl (proceeds_put place (.decided _) rfl place')
  | planned place => exact Or.inl (proceeds_put place (.planned _ _) rfl place')
  | checked place leads => exact Or.inl (proceeds_put place (.checked _ _ leads) rfl place')
  | deposed place leads => exact Or.inl (proceeds_put place (.deposed _ _ leads) rfl place')
  | pushed place => exact Or.inl (proceeds_put place (.pushed _ _ _) rfl place')
  | unwritten place => exact Or.inl (proceeds_put place (.unwritten _ _ _) rfl place')
  | left k =>
    rw [place?_leave] at place'
    exact Or.inl ⟨stage, place', .stays stage⟩

/-- A task goes on with what it is about. -/
theorem Turn.exists_proceeds {old : Stage} {move : Move} {d' : Desk} {s' : Store}
    (h : d.Turn s move d' s') (place : d.place? i = some (errand, old)) :
    ∃ stage, d'.place? i = some (errand, stage) ∧
      Proceeds d.node.believes.isLeader old stage := by
  obtain ⟨stage, place', -⟩ := h.keeps i errand old place
  rcases h.proceeds place' with ⟨old', hold, proceeds⟩ | ⟨hnone, -⟩
  · rw [place] at hold
    cases hold
    exact ⟨stage, place', proceeds⟩
  · rw [place] at hnone
    cases hnone

/-! ## Runs -/

/-- A run goes on where the first part of it has ended, with the desk and the store of that moment.
-/
theorem run_append (before after : List Move) :
    d.run s (before ++ after) = (d.run s before).1.run (d.run s before).2 after := by
  induction before generalizing d s with
  | nil => rfl
  | cons move moves ih => exact ih

theorem keeps_run (moves : List Move) : d.Keeps (d.run s moves).1 := by
  induction moves generalizing d s with
  | nil => exact .refl d
  | cons move moves ih => exact (d.turn_step s move).keeps.trans ih

end SchemaRegistry.Desk
