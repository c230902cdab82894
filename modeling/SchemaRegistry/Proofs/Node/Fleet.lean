import SchemaRegistry.Proofs.Node.Shared
/-!
# Nodes that share a log

However the nodes of a fleet take turns at their log, and whoever of them leads at what time, every
entry is what its task has planned on the first so many entries, and what stands between those and
the entry itself has been appended by other nodes. That is all that can be said of every run: the
lock of a node keeps its own tasks apart, and there is no lock between nodes.
-/

set_option autoImplicit false

namespace SchemaRegistry

namespace Desk

variable {d d' : Desk}

/-- A node learns who leads from outside: none of its own moves changes it. -/
theorem Turn.leads_eq {s s' : Store} {move : Move} (h : d.Turn s move d' s') :
    d'.leads = d.leads := by
  rw [leads, h.node_eq]
  rfl

theorem leads_told (untroubled : d.node.trouble = none) (leadership : Leadership) :
    (d.told leadership).leads = leadership.isLeader := by
  have honest : ¬ (d.told leadership).node.trouble = some .deposed := by
    change ¬ d.node.trouble = some .deposed
    rw [untroubled]
    exact nofun
  rw [leads, Node.believes, if_neg honest]
  rfl

end Desk

namespace Fleet

variable {f : Fleet} {log : List Entry}

/-- Whether a task of a desk has the entry of an offset. -/
def Owns (f : Fleet) (j i offset : Nat) : Prop :=
  ∃ d errand stage, f.desk? j = some d ∧ d.place? i = some (errand, stage) ∧
    stage.offset? = some offset

/-- What holds of a fleet and its log between two actions. -/
structure Sound (f : Fleet) (log : List Entry) : Prop where
  store : f.store = .memory log
  contiguous : Contiguous log
  untroubled : ∀ {j d}, f.desk? j = some d → d.node.trouble = none
  /-- At most one node leads. -/
  single : ∀ {j k d e}, f.desk? j = some d → f.desk? k = some e → d.leads → e.leads → j = k
  shares : ∀ {j d}, f.desk? j = some d → d.Shares log
  /-- No two nodes have an entry in common. -/
  apart : ∀ {j k i i' offset}, f.Owns j i offset → f.Owns k i' offset → j = k
  /-- Every entry is that of a task. -/
  covered : ∀ n, n < log.length → ∃ j i, f.Owns j i (n + 1)

/-- Every node of a new fleet follows nobody and has an empty catalog. -/
theorem desk?_opened {settings : List NodeSettings} {j : Nat} {d : Desk}
    (hd : (opened settings).desk? j = some d) :
    ∃ settings, d = { node := { settings, leadership := .follower none } } := by
  obtain ⟨m, -, rfl⟩ := List.mem_map.mp (List.mem_of_getElem? hd)
  exact ⟨m, rfl⟩

/-- In a new fleet nobody leads and nothing is in the log, so nothing is shared wrongly. -/
theorem sound_opened (settings : List NodeSettings) : (opened settings).Sound [] := by
  refine ⟨rfl, nofun, fun hd => ?_, fun hd _ leads => ?_, fun hd => ?_, ?_,
    fun n hn => absurd hn (Nat.not_lt_zero n)⟩
  · obtain ⟨m, rfl⟩ := desk?_opened hd
    rfl
  · obtain ⟨m, rfl⟩ := desk?_opened hd
    cases leads
  · obtain ⟨m, rfl⟩ := desk?_opened hd
    exact Desk.shares_new m _
  · rintro j k i i' offset ⟨d, errand, stage, hd, place, -⟩
    obtain ⟨m, rfl⟩ := desk?_opened hd
    cases place

/-! ## Turns -/

/-- The fleet with another log and another desk in the place of one. -/
def put (f : Fleet) (j : Nat) (d : Desk) (s : Store) : Fleet :=
  { store := s, desks := f.desks.set j d }

theorem desk?_put_self {j : Nat} {d : Desk} (hd : f.desk? j = some d) (d' : Desk) (s : Store) :
    (f.put j d' s).desk? j = some d' :=
  List.getElem?_set_self (List.getElem?_eq_some_iff.mp hd).1

theorem desk?_put_ne {j k : Nat} (hkj : k ≠ j) (d' : Desk) (s : Store) :
    (f.put j d' s).desk? k = f.desk? k :=
  List.getElem?_set_ne (Ne.symm hkj)

theorem desk?_put_cases {j k : Nat} {d d' e : Desk} {s : Store} (hd : f.desk? j = some d)
    (hk : (f.put j d' s).desk? k = some e) : k = j ∧ e = d' ∨ k ≠ j ∧ f.desk? k = some e := by
  by_cases hkj : k = j
  · rw [hkj, desk?_put_self hd] at hk
    exact Or.inl ⟨hkj, (Option.some.inj hk).symm⟩
  · rw [desk?_put_ne hkj] at hk
    exact Or.inr ⟨hkj, hk⟩

theorem act_eq {j : Nat} {d : Desk} (hd : f.desk? j = some d) (move : Move) :
    f.act j move = f.put j (d.step f.store move).1 (d.step f.store move).2 := by
  rw [act, hd]
  rfl

section Turns

variable {j : Nat} {d d' : Desk} {move : Move} {log' : List Entry}

/-- Whoever has an entry after a turn of a desk had it before, or it is a task of that desk and the
entry is the one that the turn has appended. -/
theorem Sound.owns_cases (h : f.Sound log) (hd : f.desk? j = some d)
    (hturn : d.Turn (.memory log) move d' (.memory log')) {k i offset : Nat}
    (owns : (f.put j d' (.memory log')).Owns k i offset) :
    f.Owns k i offset ∨ k = j ∧ offset = log.length + 1 := by
  obtain ⟨e, errand, stage, he, place, hoffset⟩ := owns
  rcases desk?_put_cases hd he with ⟨rfl, rfl⟩ | ⟨-, he⟩
  · rcases hturn.offset_cases h.contiguous place hoffset with
      ⟨old, hold, hold', -⟩ | ⟨hnew, -⟩
    · exact Or.inl ⟨d, errand, old, hd, hold, hold'⟩
    · exact Or.inr ⟨rfl, hnew⟩
  · exact Or.inl ⟨e, errand, stage, he, place, hoffset⟩

/-- No turn takes an entry from a task, so whatever a task owns it owns to the end of the run. -/
theorem owns_of_turn (hd : f.desk? j = some d) {s s' : Store} (hturn : d.Turn s move d' s')
    {k i offset : Nat} (owns : f.Owns k i offset) : (f.put j d' s').Owns k i offset := by
  obtain ⟨e, errand, stage, he, place, hoffset⟩ := owns
  by_cases hkj : k = j
  · subst hkj
    rw [hd] at he
    cases he
    obtain ⟨stage', place', hkept⟩ := hturn.keeps i errand stage place
    exact ⟨d', errand, stage', desk?_put_self hd d' s', place', hkept offset hoffset⟩
  · exact ⟨e, errand, stage, (desk?_put_ne hkj d' s').trans he, place, hoffset⟩

theorem Sound.le_length (h : f.Sound log) {k i offset : Nat} (owns : f.Owns k i offset) :
    offset ≤ log.length := by
  obtain ⟨e, errand, stage, he, place, hoffset⟩ := owns
  exact ((h.shares he).entered place hoffset).le_length

/-- A turn of one desk. -/
theorem Sound.turn (h : f.Sound log) (hd : f.desk? j = some d)
    (hturn : d.Turn (.memory log) move d' (.memory log')) :
    (f.put j d' (.memory log')).Sound log' := by
  obtain ⟨_, hlog, grown, contiguous⟩ := hturn.exists_log h.contiguous
  cases hlog
  -- A turn leaves what every desk believes, so the one leader of before is the one leader after it.
  have led : ∀ {k e}, (f.put j d' (.memory log')).desk? k = some e → e.leads →
      ∃ e', f.desk? k = some e' ∧ e'.leads := by
    intro k e he leads
    rcases desk?_put_cases hd he with ⟨rfl, rfl⟩ | ⟨-, he⟩
    · exact ⟨d, hd, hturn.leads_eq ▸ leads⟩
    · exact ⟨e, he, leads⟩
  refine ⟨rfl, contiguous, fun he => ?_, fun he he' leads leads' => ?_, fun {k e} he => ?_,
    fun owns owns' => ?_, fun n hn => ?_⟩
  · rcases desk?_put_cases hd he with ⟨-, rfl⟩ | ⟨-, he⟩
    · rw [hturn.node_eq]
      exact h.untroubled hd
    · exact h.untroubled he
  · obtain ⟨e, he, leads⟩ := led he leads
    obtain ⟨e', he', leads'⟩ := led he' leads'
    exact h.single he he' leads leads'
  · rcases desk?_put_cases hd he with ⟨rfl, rfl⟩ | ⟨-, he⟩
    · exact (h.shares hd).turn h.contiguous hturn
    · exact (h.shares he).mono grown
  · -- An entry that two tasks own was there before for both, or has just been appended and belongs
    -- to the task that did it.
    rcases h.owns_cases hd hturn owns with old | ⟨rfl, rfl⟩
    · rcases h.owns_cases hd hturn owns' with old' | ⟨rfl, rfl⟩
      · exact h.apart old old'
      · exact absurd (h.le_length old) (by omega)
    · rcases h.owns_cases hd hturn owns' with old' | ⟨rfl, -⟩
      · exact absurd (h.le_length old') (by omega)
      · rfl
  · by_cases hold : n < log.length
    · obtain ⟨k, i, owns⟩ := h.covered n hold
      exact ⟨k, i, owns_of_turn hd hturn owns⟩
    · obtain ⟨i, errand, stage, place, hoffset⟩ := hturn.exists_appended h.contiguous hn hold
      exact ⟨j, i, d', errand, stage, desk?_put_self hd d' _, place, hoffset⟩

end Turns

/-- What comes of a move at a desk. -/
theorem Sound.act_cases (h : f.Sound log) (j : Nat) (move : Move) :
    f.act j move = f ∨ ∃ d d' log', f.desk? j = some d ∧ log <+: log' ∧
      d.Turn (.memory log) move d' (.memory log') ∧ f.act j move = f.put j d' (.memory log') := by
  cases hd : f.desk? j with
  | none =>
    rw [Fleet.act, hd]
    exact Or.inl rfl
  | some d =>
    have hturn := d.turn_step (.memory log) move
    obtain ⟨log', hstore, grown, -⟩ := hturn.exists_log h.contiguous
    rw [act_eq hd, h.store, hstore]
    rw [hstore] at hturn
    exact Or.inr ⟨d, _, log', rfl, grown, hturn, rfl⟩

/-- **A move of one node keeps all that holds between nodes.** If the node appends, its entry is a
new one, which no task of another node can own. The others see the log grow, and a longer log is all
that they notice. -/
theorem Sound.act (h : f.Sound log) (j : Nat) (move : Move) :
    ∃ log', log <+: log' ∧ (f.act j move).Sound log' := by
  rcases h.act_cases j move with same | ⟨d, d', log', hd, grown, hturn, hact⟩
  · rw [same]
    exact ⟨log, List.prefix_rfl, h⟩
  · rw [hact]
    exact ⟨log', grown, h.turn hd hturn⟩

/-! ## Leadership -/

/-- Telling one node who leads changes nothing at the others. -/
theorem desk?_tell (f : Fleet) (j k : Nat) (leadership : Leadership) :
    (f.tell j leadership).desk? k =
      (f.desk? k).map fun d => if j = k then d.told leadership else d :=
  List.getElem?_modify _ _ _ _

theorem desk?_tell_cases {j k : Nat} {leadership : Leadership} {e : Desk}
    (he : (f.tell j leadership).desk? k = some e) :
    (∃ d, k = j ∧ f.desk? k = some d ∧ e = d.told leadership) ∨
      k ≠ j ∧ f.desk? k = some e := by
  rw [desk?_tell, Option.map_eq_some_iff] at he
  obtain ⟨d, hd, he⟩ := he
  by_cases hjk : j = k
  · rw [if_pos hjk] at he
    exact Or.inl ⟨d, hjk.symm, hd, he.symm⟩
  · rw [if_neg hjk] at he
    exact Or.inr ⟨Ne.symm hjk, he ▸ hd⟩

/-- A desk has the same tasks whoever leads. -/
theorem owns_tell_iff {j k i offset : Nat} {leadership : Leadership} :
    (f.tell j leadership).Owns k i offset ↔ f.Owns k i offset := by
  rw [Owns, Owns, desk?_tell]
  cases f.desk? k with
  | none =>
    constructor
    all_goals
      rintro ⟨d, errand, stage, hd, -⟩
      cases hd
  | some e =>
    have same : (if j = k then e.told leadership else e).place? = e.place? := by
      split <;> rfl
    rw [Option.map_some]
    constructor
    · rintro ⟨d, errand, stage, hd, place, hoffset⟩
      cases hd
      exact ⟨e, errand, stage, rfl, same ▸ place, hoffset⟩
    · rintro ⟨d, errand, stage, hd, place, hoffset⟩
      cases hd
      exact ⟨_, errand, stage, rfl, same.symm ▸ place, hoffset⟩

/-- The guard on leading is about all other nodes, so each of them is known not to lead. -/
theorem not_leads_of_othersLead {j k : Nat} {e : Desk} (h : f.othersLead j = false)
    (he : f.desk? k = some e) (hkj : k ≠ j) : ¬ e.leads := by
  intro leads
  have others : f.othersLead j :=
    List.any_eq_true.mpr ⟨e, List.mem_eraseIdx_iff_getElem?.mpr ⟨k, hkj, he⟩, leads⟩
  rw [h] at others
  cases others

/-- A node may be told that it leads when no other does. That it does not lead it may be told at any
time. -/
theorem Sound.tell (h : f.Sound log) {j : Nat} {leadership : Leadership}
    (alone : leadership.isLeader → f.othersLead j = false) :
    (f.tell j leadership).Sound log := by
  -- Who leads now has led before, or is the one that has come to lead.
  have led : ∀ {k e}, (f.tell j leadership).desk? k = some e → e.leads →
      k = j ∧ leadership.isLeader ∨ k ≠ j ∧ f.desk? k = some e := by
    intro k e he leads
    rcases desk?_tell_cases he with ⟨d, rfl, hd, rfl⟩ | ⟨hkj, he⟩
    · rw [Desk.leads_told (h.untroubled hd)] at leads
      exact Or.inl ⟨rfl, leads⟩
    · exact Or.inr ⟨hkj, he⟩
  refine ⟨h.store, h.contiguous, fun he => ?_, fun he he' leads leads' => ?_, fun he => ?_,
    fun owns owns' => ?_, fun n hn => ?_⟩
  · rcases desk?_tell_cases he with ⟨d, -, hd, rfl⟩ | ⟨-, he⟩
    · have untroubled := h.untroubled hd
      exact untroubled
    · exact h.untroubled he
  · rcases led he leads with ⟨hk, leader⟩ | ⟨hkj, hled⟩
    · rcases led he' leads' with ⟨hk', -⟩ | ⟨hkj, hled'⟩
      · rw [hk, hk']
      · exact absurd leads' (not_leads_of_othersLead (alone leader) hled' hkj)
    · rcases led he' leads' with ⟨-, leader⟩ | ⟨-, hled'⟩
      · exact absurd leads (not_leads_of_othersLead (alone leader) hled hkj)
      · exact h.single hled hled' leads leads'
  · rcases desk?_tell_cases he with ⟨d, -, hd, rfl⟩ | ⟨-, hd⟩
    · exact (h.shares hd).told leadership
    · exact h.shares hd
  · exact h.apart (owns_tell_iff.mp owns) (owns_tell_iff.mp owns')
  · obtain ⟨k, i, owns⟩ := h.covered n hn
    exact ⟨k, i, owns_tell_iff.mpr owns⟩

/-- What comes of a move of leadership. -/
theorem lead_cases (f : Fleet) (j : Nat) (leadership : Leadership) :
    f.lead j leadership = f ∨
      (leadership.isLeader → f.othersLead j = false) ∧
        f.lead j leadership = f.tell j leadership := by
  rw [lead]
  split
  · exact Or.inl rfl
  · rename_i moves
    refine Or.inr ⟨fun leads => ?_, rfl⟩
    rw [leads, Bool.true_and] at moves
    exact Bool.eq_false_iff.mpr moves

/-- A change of leadership that would make a second leader is not carried out, so every one may be
asked for. -/
theorem Sound.lead (h : f.Sound log) (j : Nat) (leadership : Leadership) :
    (f.lead j leadership).Sound log := by
  rcases f.lead_cases j leadership with same | ⟨alone, moved⟩
  · rw [same]
    exact h
  · rw [moved]
    exact h.tell alone

/-! ## Runs -/

/-- **Every action keeps what holds of a fleet**, and the log loses nothing by it. -/
theorem Sound.step (h : f.Sound log) (action : Action) :
    ∃ log', log <+: log' ∧ (f.step action).Sound log' := by
  cases action with
  | act j move => exact h.act j move
  | lead j leadership => exact ⟨log, List.prefix_rfl, h.lead j leadership⟩

/-- Every run keeps the fleet sound, and the log loses nothing. -/
theorem Sound.run (h : f.Sound log) (actions : List Action) :
    ∃ log', log <+: log' ∧ (f.run actions).Sound log' := by
  induction actions generalizing f log with
  | nil => exact ⟨log, List.prefix_rfl, h⟩
  | cons action actions ih =>
    obtain ⟨past, grown, hstep⟩ := h.step action
    obtain ⟨log', grown', hrun⟩ := ih hstep
    exact ⟨log', grown.trans grown', hrun⟩

/-- What can be said of the log of every fleet. An entry has been planned on the first `m` entries,
for some `m`, and those between them and the entry itself are from other nodes. -/
def Traced (f : Fleet) (log : List Entry) : Prop :=
  ∀ n entry, log[n]? = some entry → entry.offset = n + 1 ∧ ∃ j d i errand stage m,
    f.desk? j = some d ∧ d.place? i = some (errand, stage) ∧ stage.offset? = some (n + 1) ∧
    m ≤ n ∧ d.Lands log errand stage m n ∧
    (∀ k i', m ≤ k → k < n → ¬ f.Owns j i' (k + 1)) ∧
    ∀ j' i', f.Owns j' i' (n + 1) → j' = j ∧ i' = i

/-- Read as a history the invariant says which task each entry is from and what the task had planned
it on. -/
theorem Sound.traced (h : f.Sound log) : f.Traced log := by
  intro n entry hentry
  obtain ⟨j, i, d, errand, stage, hd, place, hoffset⟩ :=
    h.covered n (List.getElem?_eq_some_iff.mp hentry).1
  obtain ⟨n', m, hn, hm, lands, others⟩ := (h.shares hd).entered place hoffset
  obtain rfl : n = n' := Nat.succ.inj hn
  refine ⟨h.contiguous n entry hentry, j, d, i, errand, stage, m, hd, place, hoffset, hm, lands,
    ?_, ?_⟩
  · rintro k i' hmk hkn ⟨d', other, stage', hd', place', hoffset'⟩
    rw [hd] at hd'
    cases hd'
    have := others i' other stage' (k + 1) place' hoffset' hkn
    omega
  · intro j' i' owns
    obtain rfl := h.apart owns ⟨d, errand, stage, hd, place, hoffset⟩
    obtain ⟨d', other, stage', hd', place', hoffset'⟩ := owns
    rw [hd] at hd'
    cases hd'
    exact ⟨rfl, (h.shares hd).distinct place' place hoffset' hoffset⟩

end Fleet

end SchemaRegistry
