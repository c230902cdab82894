import SchemaRegistry.Proofs.Log.Registrations
import SchemaRegistry.Proofs.Node.Fleet
/-!
# Leadership that is handed over with care

A task asks once whether its node leads, between its plan and its append. That is enough if
leadership only ever leaves a node at which no task has asked already, and only ever comes to a node
at which no task has read the log already for what it is about to append. In a run that keeps to
this, `Fleet.careful`, the node that leads knows the whole log at any moment, all entries are what
their tasks plan on everything in front of them, and a plan that has been overtaken is never
appended.

Nothing in a node sees to it. A node that has lost leadership and got it back appends what it has
planned before, whatever others have appended in between: `planned_twice`.
-/

set_option autoImplicit false

namespace SchemaRegistry

variable {log log' : List Entry}

/-- What a task plans is what the write planned, with its answer made a receipt. -/
theorem Decision.exists_of_map {α β : Type} {f : α → β} {x : Except Error (Decision α)}
    {op : Option Op} {b : β} (h : x.map (Decision.map f) = .ok { op, answer := b }) :
    ∃ a, x = .ok { op, answer := a } := by
  cases x with
  | error e => cases h
  | ok decision =>
    cases h
    exact ⟨decision.answer, rfl⟩

/-- A registration is planned with the number behind the mark. -/
theorem Errand.number_of_plan {errand : Errand} {tenant : String} {c : Catalog} {v : Version}
    {answer : Receipt} (h : errand.plan tenant c = .ok { op := some (.register v), answer }) :
    v.number.toNat = (c.highestVersion v.subject).toNat + 1 := by
  cases errand with
  | delete subject permanent =>
    obtain ⟨versions, hplan⟩ := Decision.exists_of_map h
    obtain ⟨record, planned⟩ := Node.exists_of_planFor_delete hplan
    obtain ⟨-, -, hop, -⟩ := Deletion.plan_eq_ok_iff.mp planned
    cases permanent <;> cases hop
  | register subject candidate normalize =>
    obtain ⟨registered, hplan⟩ := Decision.exists_of_map h
    have planned := Node.plan_of_planFor_register hplan
    obtain ⟨w, hop, -, appends⟩ := Registration.appends_of_plan planned
    cases hop
    rw [appends.number, appends.subject]

/-! ## Care -/

namespace Stage

/-- Whether what the task appends rests on what has been read of the log already. -/
def isBound : Stage → Bool
  | planning | appending .. | pushing .. => true
  | _ => false

def isPushing : Stage → Bool
  | pushing .. => true
  | _ => false

end Stage

namespace Desk

variable {d d' : Desk} {i : Nat} {errand : Errand} {stage : Stage} {op : Op} {answer : Receipt}

/-- Whether no task is going to append what rests on an earlier reading of the log. -/
def isFresh (d : Desk) : Bool :=
  (d.tasks.all fun task => !task.stage.isBound) &&
    match d.applier with
    | .applying (some i) _ => (d.place? i).all fun place => !place.2.isDeciding
    | _ => true

/-- Whether a task has asked already whether the node leads. -/
def isPushing (d : Desk) : Bool :=
  d.tasks.any fun task => task.stage.isPushing

theorem exists_task (place : d.place? i = some (errand, stage)) :
    ∃ task ∈ d.tasks, task.stage = stage := by
  obtain ⟨task, htask, hplace⟩ := Option.map_eq_some_iff.mp place
  exact ⟨task, List.mem_of_getElem? htask, congrArg Prod.snd hplace⟩

/-- A desk counts as fresh if none of its tasks has a plan that others could overtake. -/
theorem isBound_of_isFresh (h : d.isFresh) (place : d.place? i = some (errand, stage)) :
    stage.isBound = false := by
  rw [isFresh, Bool.and_eq_true, List.all_eq_true] at h
  obtain ⟨task, htask, rfl⟩ := exists_task place
  exact Bool.not_eq_true' _ |>.mp (h.1 task htask)

/-- A desk that has nothing to append from earlier readings knows everything. -/
theorem knows_of_isFresh (h : d.isFresh) (log : List Entry) (b : Nat) : d.Knows log b := by
  constructor
  · intro i errand stage place
    have free := isBound_of_isFresh h place
    cases stage with
    | planning | appending | pushing => cases free
    | waiting | syncing | settling | finished => trivial
  · intro i errand rest applier place
    rw [isFresh, applier] at h
    dsimp only at h
    rw [place] at h
    cases (Bool.and_eq_true_iff.mp h).2

theorem isPushing_of_place (place : d.place? i = some (errand, .pushing op answer)) :
    d.isPushing := by
  obtain ⟨task, htask, hstage⟩ := exists_task place
  refine List.any_eq_true.mpr ⟨task, htask, ?_⟩
  rw [hstage]
  rfl

end Desk

namespace Fleet

variable {f : Fleet}

/-- Whether leadership does not leave a node at which a task has asked for it already, nor come to
a node at which a task is going to append what rests on an earlier reading. -/
def Action.isCareful (f : Fleet) : Action → Bool
  | .act .. => true
  | .lead j leadership =>
    match f.desk? j with
    | none => true
    | some d =>
      if leadership.isLeader then f.othersLead j || d.leads || d.isFresh else !d.isPushing

/-- Whether leadership is always handed over with care. -/
def careful (f : Fleet) : List Action → Bool
  | [] => true
  | action :: actions => action.isCareful f && (f.step action).careful actions

/-! ## The leader knows the log -/

/-- What holds of a fleet and its log between two actions of a run with care. -/
structure Guarded (f : Fleet) (log : List Entry) : Prop where
  sound : f.Sound log
  knows : ∀ {j d}, f.desk? j = some d → d.leads → d.Knows log log.length
  /-- Who has asked whether the node leads is still right. -/
  pushing : ∀ {j d i errand op answer}, f.desk? j = some d →
    d.place? i = some (errand, .pushing op answer) → d.leads
  lands : ∀ {j d i errand stage offset}, f.desk? j = some d → d.place? i = some (errand, stage) →
    stage.offset? = some offset → ∃ n, offset = n + 1 ∧ d.Lands log errand stage n n

/-- In a new fleet nobody leads, and there is no plan that would have to be kept from being
overtaken. -/
theorem guarded_opened (settings : List NodeSettings) : (opened settings).Guarded [] := by
  refine ⟨sound_opened settings, fun hd leads => ?_, fun hd place => ?_, fun hd place => ?_⟩
  all_goals obtain ⟨m, rfl⟩ := desk?_opened hd
  · cases leads
  · cases place
  · cases place

section Turns

variable {j i : Nat} {d d' : Desk} {move : Move} {errand : Errand} {stage : Stage} {offset : Nat}
  {op : Op} {answer : Receipt}

/-- A turn of a desk leaves the log as it is while another desk leads. -/
theorem Guarded.log_eq (h : f.Guarded log) (hd : f.desk? j = some d)
    (hturn : d.Turn (.memory log) move d' (.memory log')) {k : Nat} {e : Desk} (hkj : k ≠ j)
    (he : f.desk? k = some e) (leads : e.leads) : log' = log := by
  rcases hturn.log_cases h.sound.contiguous with same | ⟨i, errand, op, answer, now, place, -⟩
  · exact same
  · exact absurd (h.sound.single he hd leads (h.pushing hd place)) hkj

/-- A desk that leads knows the log after its turn. -/
theorem Guarded.knows_turn (h : f.Guarded log) (hd : f.desk? j = some d)
    (hturn : d.Turn (.memory log) move d' (.memory log')) (leads : d'.leads) :
    d'.Knows log' log'.length := by
  have contiguous := h.sound.contiguous
  have shares := h.sound.shares hd
  by_cases grows : log' = log
  · subst grows
    have knows := h.knows hd (hturn.leads_eq ▸ leads)
    exact knows.turn shares.locked shares.reads contiguous (Nat.le_refl _) hturn
  · -- The desk has appended, so no plan of its own is left that could be behind.
    exact (hturn.quiet_of_ne shares.locked contiguous grows).knows _ _

/-- Who has asked whether the node leads is still right after a turn. A task comes to push only by
that question, and no turn of the desk changes what it believes. -/
theorem Guarded.leads_turn (h : f.Guarded log) (hd : f.desk? j = some d)
    (hturn : d.Turn (.memory log) move d' (.memory log'))
    (place : d'.place? i = some (errand, .pushing op answer)) : d'.leads := by
  rw [hturn.leads_eq]
  rcases hturn.proceeds place with ⟨old, hold, proceeds⟩ | ⟨-, hwaiting⟩
  · cases proceeds with
    | stays => exact h.pushing hd hold
    | checked _ _ leads => exact leads
  · cases hwaiting

/-- An entry of the desk is what was planned on all of the log in front of it, after a turn as
before. What the turn has appended comes of a desk that leads, whose plans take account of the whole
log. -/
theorem Guarded.lands_turn (h : f.Guarded log) (hd : f.desk? j = some d)
    (hturn : d.Turn (.memory log) move d' (.memory log'))
    (place : d'.place? i = some (errand, stage)) (hoffset : stage.offset? = some offset) :
    ∃ n, offset = n + 1 ∧ d'.Lands log' errand stage n n := by
  obtain ⟨_, hlog, grown, -⟩ := hturn.exists_log h.sound.contiguous
  cases hlog
  rcases hturn.offset_cases h.sound.contiguous place hoffset with
    ⟨old, hold, hold', answers⟩ | ⟨rfl, op, answer, now, hpushing, answers, rfl⟩
  · obtain ⟨n, hn, lands⟩ := h.lands hd hold hold'
    exact ⟨n, hn, lands.moved (Nat.le_refl n) grown hturn.settings_eq answers⟩
  · have knows := h.knows hd (h.pushing hd hpushing)
    obtain ⟨m, hle, hm, lands⟩ :=
      Desk.lands_of_pushing (knows.stage hpushing) hturn.settings_eq answers now
    obtain rfl : m = log.length := Nat.le_antisymm hm hle
    exact ⟨log.length, rfl, lands⟩

/-- A turn of one desk keeps the fleet guarded. -/
theorem Guarded.turn (h : f.Guarded log) (hd : f.desk? j = some d)
    (hturn : d.Turn (.memory log) move d' (.memory log')) :
    (f.put j d' (.memory log')).Guarded log' := by
  obtain ⟨_, hlog, grown, -⟩ := hturn.exists_log h.sound.contiguous
  cases hlog
  refine ⟨h.sound.turn hd hturn, fun he leads => ?_, fun he place => ?_,
    fun he place hoffset => ?_⟩
  · rcases desk?_put_cases hd he with ⟨-, rfl⟩ | ⟨hkj, he⟩
    · exact h.knows_turn hd hturn leads
    · -- Another desk that leads is the only one to append, so this turn has left the log as it was.
      rw [h.log_eq hd hturn hkj he leads]
      exact h.knows he leads
  · rcases desk?_put_cases hd he with ⟨-, rfl⟩ | ⟨-, he⟩
    · exact h.leads_turn hd hturn place
    · exact h.pushing he place
  · rcases desk?_put_cases hd he with ⟨-, rfl⟩ | ⟨-, he⟩
    · exact h.lands_turn hd hturn place hoffset
    · obtain ⟨n, hn, lands⟩ := h.lands he place hoffset
      exact ⟨n, hn, lands.moved (Nat.le_refl n) grown rfl fun _ => id⟩

end Turns

/-- Leadership is moved with care. -/
theorem Guarded.tell (h : f.Guarded log) {j : Nat} {leadership : Leadership}
    (alone : leadership.isLeader → f.othersLead j = false)
    (ready : ∀ d, f.desk? j = some d → leadership.isLeader → d.leads ∨ d.isFresh)
    (idle : ∀ d, f.desk? j = some d → leadership.isLeader = false → d.isPushing = false) :
    (f.tell j leadership).Guarded log := by
  refine ⟨h.sound.tell alone, fun he leads => ?_, fun he place => ?_,
    fun he place hoffset => ?_⟩
  · rcases desk?_tell_cases he with ⟨d, rfl, hd, rfl⟩ | ⟨-, he⟩
    · rw [Desk.leads_told (h.sound.untroubled hd)] at leads
      -- A desk that leads already knows the log. One that takes over has no plan yet, and has to
      -- read before it makes one.
      have knows : d.Knows log log.length := by
        rcases ready d hd leads with led | fresh
        · exact h.knows hd led
        · exact Desk.knows_of_isFresh fresh _ _
      exact ⟨knows.stage, knows.reading⟩
    · exact h.knows he leads
  · rcases desk?_tell_cases he with ⟨d, rfl, hd, rfl⟩ | ⟨-, he⟩
    · rw [Desk.leads_told (h.sound.untroubled hd), ← Bool.not_eq_false]
      -- Leadership is not taken from a desk while it pushes.
      intro follower
      have asked : d.isPushing := Desk.isPushing_of_place place
      rw [idle d hd follower] at asked
      cases asked
    · exact h.pushing he place
  · rcases desk?_tell_cases he with ⟨d, -, hd, rfl⟩ | ⟨-, he⟩
    · have lands := h.lands hd place hoffset
      exact lands
    · exact h.lands he place hoffset

/-- What care asks of leadership that moves. -/
theorem care_of_isCareful {j : Nat} {leadership : Leadership}
    (h : (Action.lead j leadership).isCareful f) {d : Desk} (hd : f.desk? j = some d) :
    (leadership.isLeader → f.othersLead j ∨ d.leads ∨ d.isFresh) ∧
      (leadership.isLeader = false → d.isPushing = false) := by
  rw [Action.isCareful, hd] at h
  dsimp only at h
  cases leads : leadership.isLeader with
  | true =>
    rw [leads, if_pos rfl, Bool.or_eq_true, Bool.or_eq_true, or_assoc] at h
    exact ⟨fun _ => h, nofun⟩
  | false =>
    rw [leads, if_neg Bool.false_ne_true, Bool.not_eq_true'] at h
    exact ⟨nofun, fun _ => h⟩

/-! ## Runs with care -/

/-- An action with care. -/
theorem Guarded.step (h : f.Guarded log) {action : Action} (care : action.isCareful f) :
    ∃ log', log <+: log' ∧ (f.step action).Guarded log' := by
  cases action with
  | act j move =>
    rw [Fleet.step]
    rcases h.sound.act_cases j move with same | ⟨d, d', log', hd, grown, hturn, hact⟩
    · rw [same]
      exact ⟨log, List.prefix_rfl, h⟩
    · rw [hact]
      exact ⟨log', grown, h.turn hd hturn⟩
  | lead j leadership =>
    rw [Fleet.step]
    refine ⟨log, List.prefix_rfl, ?_⟩
    rcases f.lead_cases j leadership with same | ⟨alone, moved⟩
    · rw [same]
      exact h
    · rw [moved]
      refine h.tell alone (fun d hd leads => ?_) fun d hd => (care_of_isCareful care hd).2
      rcases (care_of_isCareful care hd).1 leads with others | ready
      · rw [alone leads] at others
        cases others
      · exact ready

/-- Care is asked of each action where it is taken, so of the others it is asked from the next state
on. -/
theorem careful_cons {action : Action} {actions : List Action}
    (h : f.careful (action :: actions)) :
    action.isCareful f ∧ (f.step action).careful actions :=
  Bool.and_eq_true_iff.mp h

/-- A careful run is careful to any point, and from there on. -/
theorem careful_append {before after : List Action} (h : f.careful (before ++ after)) :
    f.careful before ∧ (f.run before).careful after := by
  induction before generalizing f with
  | nil => exact ⟨rfl, h⟩
  | cons action before ih =>
    obtain ⟨care, rest⟩ := careful_cons h
    obtain ⟨hbefore, hafter⟩ := ih rest
    exact ⟨Bool.and_eq_true_iff.mpr ⟨care, hbefore⟩, hafter⟩

/-- **A careful run keeps every plan up with the log.** The induction goes along the actions, and
the care for each is what its own step needs. -/
theorem Guarded.run (h : f.Guarded log) {actions : List Action} (care : f.careful actions) :
    ∃ log', (f.run actions).Guarded log' := by
  induction actions generalizing f log with
  | nil => exact ⟨log, h⟩
  | cons action actions ih =>
    obtain ⟨hfirst, hrest⟩ := careful_cons care
    obtain ⟨past, -, hstep⟩ := h.step hfirst
    exact ih hstep hrest

/-! ## Plans that have been overtaken -/

/-- Whether a task waits with what it has planned at a node that does not lead. -/
def Deposed (f : Fleet) (j i : Nat) (errand : Errand) (op : Op) (answer : Receipt) : Prop :=
  ∃ d, f.desk? j = some d ∧ d.place? i = some (errand, .appending op answer) ∧ d.leads = false

/-- Whether a task has ended with nothing in the log, since its node did not lead. -/
def Failed (f : Fleet) (j i : Nat) (errand : Errand) : Prop :=
  ∃ d, f.desk? j = some d ∧
    d.place? i = some (errand, .finished none (.error LogFailure.notLeader.error))

section Overtaken

variable {j i : Nat} {d : Desk} {errand : Errand} {stage : Stage} {op : Op} {answer : Receipt}

/-- A task that has planned something else than it would plan now is at a node that does not
lead. -/
theorem Guarded.deposed (h : f.Guarded log) (hd : f.desk? j = some d)
    (place : d.place? i = some (errand, stage))
    (plans : stage = .appending op answer ∨ stage = .pushing op answer)
    (overtaken : errand.plan d.node.settings.tenant (.ofEntries log) ≠
      .ok { op := some op, answer }) : f.Deposed j i errand op answer := by
  have idle : d.leads = false := by
    rw [Bool.eq_false_iff]
    intro leads
    have knows := (h.knows hd leads).stage place
    have current : ∃ m, log.length ≤ m ∧ m ≤ log.length ∧
        errand.plan d.node.settings.tenant (.ofEntries (log.take m)) =
          .ok { op := some op, answer } := by
      rcases plans with rfl | rfl
      · exact knows
      · exact knows
    obtain ⟨m, hle, -, planned⟩ := current
    rw [List.take_of_length_le hle] at planned
    exact overtaken planned
  rcases plans with rfl | rfl
  · exact ⟨d, hd, place, idle⟩
  · rw [h.pushing hd place] at idle
    cases idle

/-- What becomes of a desk when something happens to the fleet. -/
theorem exists_desk?_step (hd : f.desk? j = some d) (action : Action) :
    ∃ d', (f.step action).desk? j = some d' ∧
      (d' = d ∨ (∃ move s', d.Turn f.store move d' s') ∨
        ∃ leadership, action = .lead j leadership ∧
          (leadership.isLeader → f.othersLead j = false) ∧ d' = d.told leadership) := by
  cases action with
  | act k move =>
    rw [Fleet.step]
    by_cases hkj : k = j
    · subst hkj
      rw [act_eq hd]
      exact ⟨_, desk?_put_self hd _ _, Or.inr (Or.inl ⟨move, _, d.turn_step f.store move⟩)⟩
    · -- A move of another desk leaves this one as it was.
      refine ⟨d, ?_, Or.inl rfl⟩
      cases he : f.desk? k with
      | none =>
        rw [Fleet.act, he]
        exact hd
      | some e =>
        rw [act_eq he, desk?_put_ne (Ne.symm hkj)]
        exact hd
  | lead k leadership =>
    rw [Fleet.step]
    rcases f.lead_cases k leadership with same | ⟨alone, moved⟩
    · rw [same]
      exact ⟨d, hd, Or.inl rfl⟩
    · rw [moved, desk?_tell, hd, Option.map_some]
      by_cases hkj : k = j
      · subst hkj
        rw [if_pos rfl]
        exact ⟨_, rfl, Or.inr (Or.inr ⟨leadership, rfl, alone, rfl⟩)⟩
      · rw [if_neg hkj]
        exact ⟨d, rfl, Or.inl rfl⟩

/-- What has ended has ended. -/
theorem Failed.step (h : f.Failed j i errand) (action : Action) :
    (f.step action).Failed j i errand := by
  obtain ⟨d, hd, place⟩ := h
  obtain ⟨d', hd', rfl | ⟨move, s', hturn⟩ | ⟨leadership, -, -, rfl⟩⟩ :=
    exists_desk?_step hd action
  · exact ⟨d', hd', place⟩
  · obtain ⟨stage, place', proceeds⟩ := hturn.exists_proceeds place
    cases proceeds
    exact ⟨d', hd', place'⟩
  · exact ⟨_, hd', place⟩

/-- A task that has ended with an error stays ended, so what was refused is never appended later. -/
theorem Failed.run (h : f.Failed j i errand) (actions : List Action) :
    (f.run actions).Failed j i errand := by
  induction actions generalizing f with
  | nil => exact h
  | cons action actions ih => exact ih (h.step action)

/-- A task that asks at a node that does not lead fails. -/
theorem Deposed.check (h : f.Deposed j i errand op answer) :
    (f.step (.act j (.check i))).Failed j i errand := by
  obtain ⟨d, hd, place, idle⟩ := h
  have leads : ¬ d.node.believes.isLeader := Bool.eq_false_iff.mp idle
  have checked : d.step f.store (.check i) =
      (d.finish i none (.error LogFailure.notLeader.error), f.store) := by
    rw [Desk.step, Desk.check, place]
    dsimp only
    rw [if_neg leads]
  rw [Fleet.step, act_eq hd, checked]
  exact ⟨_, desk?_put_self hd _ _, Desk.place?_put_self place _⟩

/-- With care a task that waits at a node that does not lead goes on to wait, or fails. -/
theorem Deposed.step (h : f.Deposed j i errand op answer) (untroubled : ∀ {d}, f.desk? j = some d →
    d.node.trouble = none) {action : Action} (care : action.isCareful f) :
    (f.step action).Deposed j i errand op answer ∧ action ≠ .act j (.check i) ∨
      (f.step action).Failed j i errand := by
  by_cases asks : action = .act j (.check i)
  · rw [asks]
    exact Or.inr h.check
  obtain ⟨d, hd, place, idle⟩ := h
  obtain ⟨d', hd', rfl | ⟨move, s', hturn⟩ | ⟨leadership, rfl, alone, rfl⟩⟩ :=
    exists_desk?_step hd action
  · exact Or.inl ⟨⟨d', hd', place, idle⟩, asks⟩
  · obtain ⟨stage, place', proceeds⟩ := hturn.exists_proceeds place
    cases proceeds with
    | stays => exact Or.inl ⟨⟨d', hd', place', hturn.leads_eq.trans idle⟩, asks⟩
    | checked _ _ leads =>
      rw [Desk.leads, leads] at idle
      cases idle
    | deposed => exact Or.inr ⟨d', hd', place'⟩
  · refine Or.inl ⟨⟨_, hd', place, ?_⟩, asks⟩
    rw [Desk.leads_told (untroubled hd), Bool.eq_false_iff]
    intro leads
    -- Leadership does not come to the node with care, for the plan rests on an earlier reading.
    rcases (care_of_isCareful care hd).1 leads with others | led | fresh
    · rw [alone leads] at others
      cases others
    · rw [idle] at led
      cases led
    · cases Desk.isBound_of_isFresh fresh place

/-- With care a plan that has been overtaken stays out of the log. -/
theorem Deposed.run (h : f.Deposed j i errand op answer) (hf : f.Guarded log)
    {actions : List Action} (care : f.careful actions) :
    (f.run actions).Deposed j i errand op answer ∧ .act j (.check i) ∉ actions ∨
      (f.run actions).Failed j i errand := by
  induction actions generalizing f log with
  | nil => exact Or.inl ⟨h, List.not_mem_nil⟩
  | cons action actions ih =>
    obtain ⟨hfirst, hrest⟩ := careful_cons care
    obtain ⟨past, -, hstep⟩ := hf.step hfirst
    rcases h.step hf.sound.untroubled hfirst with ⟨waits, asks⟩ | failed
    · refine (ih waits hstep hrest).imp_left fun ⟨waits, unasked⟩ => ⟨waits, ?_⟩
      rw [List.mem_cons, not_or]
      exact ⟨Ne.symm asks, unasked⟩
    · exact Or.inr (failed.run actions)

end Overtaken

/-! ## Every run -/

/-- What it means for the log of a run that leadership fences it. -/
structure Fenced (settings : List NodeSettings) (actions : List Action) (log : List Entry) :
    Prop where
  /-- Every entry is what its task plans on all entries in front of it. -/
  entries : ∀ n, n < log.length → ∃ j d i errand stage,
    (outcome settings actions).desk? j = some d ∧ d.place? i = some (errand, stage) ∧
    stage.offset? = some (n + 1) ∧ d.Lands log errand stage n n
  /-- A plan that has been overtaken is not appended: its task waits until it asks, and fails. -/
  overtaken : ∀ before after past j d i errand stage op answer, actions = before ++ after →
    (outcome settings before).store = .memory past →
    (outcome settings before).desk? j = some d → d.place? i = some (errand, stage) →
    (stage = .appending op answer ∨ stage = .pushing op answer) →
    errand.plan d.node.settings.tenant (.ofEntries past) ≠ .ok { op := some op, answer } →
    (outcome settings actions).Deposed j i errand op answer ∧ .act j (.check i) ∉ after ∨
      (outcome settings actions).Failed j i errand
  /-- No number of a subject is registered twice. -/
  once : ∀ (p q : Nat) (d e : Entry) (v w : Version), log[p]? = some d → log[q]? = some e →
    d.op = .register v → e.op = .register w → v.key = w.key → p = q

theorem run_append (f : Fleet) (before after : List Action) :
    f.run (before ++ after) = (f.run before).run after :=
  List.foldl_append

/-- What a fleet appends can be traced in every run, and it is fenced in every run with care. -/
theorem fenced_run (settings : List NodeSettings) (actions : List Action) :
    ∃ log, (outcome settings actions).store = .memory log ∧
      (outcome settings actions).Traced log ∧
      ((opened settings).careful actions → Fenced settings actions log) := by
  obtain ⟨log, -, hsound⟩ := (sound_opened settings).run actions
  refine ⟨log, hsound.store, hsound.traced, fun care => ?_⟩
  obtain ⟨log', hguarded⟩ := (guarded_opened settings).run care
  obtain rfl : log = log' := Store.memory.inj (hsound.store.symm.trans hguarded.sound.store)
  -- Every entry has a task that has appended it, and a guarded fleet knows what the plan of that
  -- task was made from.
  have entries : ∀ n, n < log.length → ∃ j d i errand stage,
      (outcome settings actions).desk? j = some d ∧ d.place? i = some (errand, stage) ∧
      stage.offset? = some (n + 1) ∧ d.Lands log errand stage n n := by
    intro n hn
    obtain ⟨j, i, d, errand, stage, hd, place, hoffset⟩ := hsound.covered n hn
    obtain ⟨m, hm, lands⟩ := hguarded.lands hd place hoffset
    obtain rfl : n = m := Nat.succ.inj hm
    exact ⟨j, d, i, errand, stage, hd, place, hoffset, lands⟩
  refine ⟨entries, ?_, fun p q d e v w => ?_⟩
  · rintro before after past j d i errand stage op answer rfl hpast hd place plans overtaken
    -- The actions are cut where the desk was deposed: what came before says that the plan is old,
    -- and what comes after does not push it.
    obtain ⟨hbefore, hafter⟩ := careful_append care
    obtain ⟨past', hguarded'⟩ := (guarded_opened settings).run hbefore
    obtain rfl : past = past' := Store.memory.inj (hpast.symm.trans hguarded'.sound.store)
    rw [outcome, run_append]
    exact (hguarded'.deposed hd place plans overtaken).run hguarded' hafter
  · -- Each registration was planned on all of the log before it, so its number is above all that
    -- came earlier.
    refine hsound.contiguous.place_unique fun n entry v hentry hop => ?_
    obtain ⟨j, d, i, errand, stage, -, -, -, entry', answer, hentry', -, planned⟩ :=
      entries n (List.getElem?_eq_some_iff.mp hentry).1
    rw [hentry] at hentry'
    cases hentry'
    rw [hop] at planned
    exact Errand.number_of_plan planned

/-! ## Two nodes -/

/-- A registration of a text under `orders`. -/
def order (text : String) : Errand :=
  .register ⟨Subject.defaultTenant, Subject.defaultContext, "orders"⟩
    { format := .protobuf, references := [], text } false

/-- What an order becomes in an empty log. -/
def ordered (offset : Nat) (text : String) : Entry where
  offset := offset
  op := .register
    { subject := ⟨Subject.defaultTenant, Subject.defaultContext, "orders"⟩, number := 1, id := 1
      format := .protobuf, references := [], text, isDeleted := false }
  appendedAt := default

/-- The first task of a node goes as far as its plan, while the log is empty. -/
def planning (j : Nat) (errand : Errand) : List Action :=
  [.call errand, .take 0, .enter (some 0), .read none, .apply, .plan 0].map (.act j)

def appending (j : Nat) : List Action :=
  [.check 0, .push 0 none default].map (.act j)

def handingOver (j k : Nat) : List Action :=
  [.lead j (.follower none), .lead k .leader]

/-- The first node plans an order and loses leadership to the second, which appends its own. -/
def overtaking : List Action :=
  .lead 0 .leader :: (planning 0 (order "a") ++ handingOver 0 1 ++ planning 1 (order "b") ++
    appending 1)

/-- The first node does not append what it has planned. -/
theorem fenced_overtaking :
    (opened [{}, {}]).careful (overtaking ++ appending 0) = true ∧
      (outcome [{}, {}] (overtaking ++ appending 0)).store = .memory [ordered 1 "b"] ∧
      Fenced [{}, {}] (overtaking ++ appending 0) [ordered 1 "b"] := by
  have care : (opened [{}, {}]).careful (overtaking ++ appending 0) := by decide +kernel
  have stored : (outcome [{}, {}] (overtaking ++ appending 0)).store =
      .memory [ordered 1 "b"] := by
    decide +kernel
  obtain ⟨log, hlog, -, fenced⟩ := fenced_run [{}, {}] (overtaking ++ appending 0)
  obtain rfl : log = [ordered 1 "b"] := Store.memory.inj (hlog.symm.trans stored)
  exact ⟨care, stored, fenced care⟩

/-- Once leadership has come back to it, the first node appends what it has planned, with the number
and the id that the second node has given to another text. -/
theorem planned_twice :
    (outcome [{}, {}] (overtaking ++ handingOver 1 0 ++ appending 0)).store =
        .memory [ordered 1 "b", ordered 2 "a"] ∧
      ((order "a").plan Subject.defaultTenant (.ofEntries [ordered 1 "b"])).map Decision.op ≠
        .ok (some (ordered 2 "a").op) :=
  ⟨by decide +kernel, by decide +kernel⟩

end Fleet

end SchemaRegistry
