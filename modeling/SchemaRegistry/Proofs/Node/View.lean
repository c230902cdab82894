import SchemaRegistry.Proofs.Log.View
import SchemaRegistry.Proofs.Node.Fleet
/-!
# What nodes see of a log

However many nodes read a log, whenever they do it and however far each of them gets before it is
given up, a node sees the log up to some entry and nothing else: its catalog is a view, between any
two moves, and also between two entries of one reading. So two nodes that have got equally far see
the same, and nobody sees a part of what one entry does.

`Desk.Watches` is the invariant. Beside the view it says what is left to be applied of a reading,
the next entries of the log, and that the node will not get past a row that is no entry by applying
them. An applier does not share its desk's lock, and tasks have no part in all this but that they
append.
-/

set_option autoImplicit false

namespace SchemaRegistry

/-! ## Turns and views -/

namespace Applier

/-- The offset that a catalog will have reached when nothing is left to be applied. -/
def goal (c : Catalog) : Applier → Nat
  | .free | .reading .. => c.applied
  | .applying _ rest => Catalog.lastOffset rest c.applied

/-- Whether what is left to be applied are the next entries. -/
def Next (s : Store) (c : Catalog) : Applier → Prop
  | .free => True
  | .reading _ applied => applied = c.applied
  | .applying _ rest => rest <+: s.behind c.applied

end Applier

namespace Desk

variable {d d' : Desk} {s s' : Store} {move : Move}

/-- Whatever a desk does, the log keeps its rows, and what it gains stands behind them. -/
theorem Turn.grows (h : d.Turn s move d' s') : s.Grows s' := by
  cases h with
  | pushed place written =>
    rename_i i errand op answer fault now offset
    have grown := s.grows_write fault now op
    rwa [written] at grown
  | unwritten place failed =>
    rename_i i errand op answer fault now failure
    have grown := s.grows_write fault now op
    rwa [failed] at grown
  | _ => exact .refl s

/-- What holds of a desk that reads a log. -/
structure Watches (d : Desk) (s : Store) : Prop where
  views : d.node.catalog.Views s
  next : d.applier.Next s d.node.catalog
  /-- Up to where the node gets there is no row that is no entry. -/
  clear : ∀ row ∈ s.rows, 0 < row.offset → row.offset ≤ d.applier.goal d.node.catalog →
    ∃ e, row.entry? = .ok e

/-- A node that has just begun has seen nothing, so there is nothing that it could have seen
wrongly. -/
theorem watches_new (s : Store) {n : Node} (fresh : n.catalog = .empty) :
    ({ node := n } : Desk).Watches s := by
  refine ⟨?_, trivial, fun row _ positive hle => ?_⟩
  · rw [fresh]
    exact Catalog.views_empty s
  · have zero : (Applier.free.goal n.catalog : Int) = 0 := by
      rw [Applier.goal, fresh]
      rfl
    change row.offset ≤ (Applier.free.goal n.catalog : Int) at hle
    omega

/-- A node gets to an entry that is ahead, or it stays where it is. -/
theorem Watches.goal_cases (h : d.Watches s) :
    d.applier.goal d.node.catalog = d.node.catalog.applied ∨
      ∃ e ∈ s.behind d.node.catalog.applied, d.applier.goal d.node.catalog = e.offset := by
  have next := h.next
  rcases happlier : d.applier with _ | ⟨owner, applied⟩ | ⟨owner, rest⟩
  · exact Or.inl rfl
  · exact Or.inl rfl
  · rw [happlier] at next
    rcases List.eq_nil_or_concat rest with rfl | ⟨front, last, rfl⟩
    · exact Or.inl rfl
    · refine Or.inr ⟨last, next.subset (by simp [List.concat_eq_append]), ?_⟩
      simp [Applier.goal, Catalog.lastOffset, List.concat_eq_append]

/-- A node is never ahead of where its reading takes it. -/
theorem Watches.applied_le_goal (h : d.Watches s) :
    d.node.catalog.applied ≤ d.applier.goal d.node.catalog := by
  rcases h.goal_cases with stays | ⟨e, he, hgoal⟩
  · exact stays.ge
  · have ahead : d.node.catalog.applied < e.offset := by simpa using (List.mem_filter.mp he).2
    omega

/-- Where a node gets, there is an entry, unless it has not got anywhere. -/
theorem Watches.goal_eq_zero_or (h : d.Watches s) :
    d.applier.goal d.node.catalog = 0 ∨
      ∃ e ∈ s.entries, d.applier.goal d.node.catalog = e.offset := by
  rcases h.goal_cases with stays | ⟨e, he, hgoal⟩
  · rw [stays]
    exact h.views.applied_eq_zero_or
  · exact Or.inr ⟨e, (List.mem_filter.mp he).1, hgoal⟩

/-- A node goes on watching a log that grows. -/
theorem Watches.mono (h : d.Watches s) (ordered : s.Ordered) (grown : s.Grows s') :
    d.Watches s' := by
  refine ⟨h.views.mono grown, ?_, fun row hrow positive hle => ?_⟩
  · have next := h.next
    rcases happlier : d.applier with _ | ⟨owner, applied⟩ | ⟨owner, rest⟩
    · trivial
    · rw [happlier] at next
      exact next
    · rw [happlier] at next
      obtain ⟨more, hmore⟩ := grown.entries
      change rest <+: s'.behind d.node.catalog.applied
      rw [Store.behind, ← hmore, List.filter_append]
      exact next.trans (List.prefix_append _ _)
  · rcases grown.ahead ordered row hrow with old | ahead
    · exact h.clear row old positive hle
    · rcases h.goal_eq_zero_or with zero | ⟨e, he, hgoal⟩
      · omega
      · have hlt := ahead e he
        omega

/-- An applier that becomes free leaves the node where it is. -/
theorem Watches.free (h : d.Watches s) (node_eq : d'.node = d.node) (free : d'.applier = .free) :
    d'.Watches s := by
  refine ⟨node_eq ▸ h.views, ?_, fun row hrow positive hle => h.clear row hrow positive ?_⟩
  · rw [free]
    trivial
  · rw [free, node_eq] at hle
    change row.offset ≤ (d.node.catalog.applied : Int) at hle
    have hgoal := h.applied_le_goal
    omega

theorem Released.node_eq {owner : Option Nat} {outcome : Except LogFailure Unit}
    (h : d.Released owner outcome d') : d'.node = d.node ∧ d'.applier = .free := by
  cases h <;> exact ⟨rfl, rfl⟩

/-- No turn of a desk keeps it from watching the log. -/
theorem Watches.turn (h : d.Watches s) (ordered : s.Ordered) (hturn : d.Turn s move d' s') :
    d'.Watches s' := by
  -- Most turns touch neither the catalog nor the applier.
  have same : ∀ {d₁ : Desk}, d₁.node = d.node → d₁.applier = d.applier → d₁.Watches s := by
    intro d₁ hnode happlier
    refine ⟨hnode ▸ h.views, ?_, fun row hrow positive hle => h.clear row hrow positive ?_⟩
    · rw [happlier, hnode]
      exact h.next
    · rwa [happlier, hnode] at hle
  have grown := hturn.grows
  cases hturn with
  | still | called | taken | refused | idle | planned | checked | deposed | left =>
    exact same rfl rfl
  | pushed place written =>
    rename_i i errand op answer fault now offset
    have watches : (d.put i (.settling offset answer)).Watches s := same rfl rfl
    exact watches.mono ordered grown
  | unwritten place failed =>
    rename_i i errand op answer fault now failure
    have watches : (d.finish i none (.error failure.error)).Watches s := same rfl rfl
    exact watches.mono ordered grown
  | entered free =>
    refine ⟨h.views, rfl, fun row hrow positive hle => h.clear row hrow positive ?_⟩
    rw [free]
    exact hle
  | unread applier failed released => exact h.free released.node_eq.1 released.node_eq.2
  | caughtUp applier released => exact h.free released.node_eq.1 released.node_eq.2
  | dropped => exact h.free rfl rfl
  | read applier entries_eq =>
    rename_i owner applied fault entries
    have next := h.next
    rw [applier] at next
    obtain rfl : applied = d.node.catalog.applied := next
    refine ⟨h.views, ?_, fun row hrow positive hle => ?_⟩
    · rw [ordered.read_eq entries_eq]
      exact List.prefix_rfl
    · by_cases ahead : (d.node.catalog.applied : Int) < row.offset
      · -- A row that is ahead was among those read, and the reading did not fail.
        exact Store.entry?_of_read entries_eq hrow ahead
      · refine h.clear row hrow positive ?_
        rw [applier]
        change row.offset ≤ (d.node.catalog.applied : Int)
        omega
  | applied applier =>
    rename_i owner e rest
    have next := h.next
    rw [applier] at next
    obtain ⟨views, happlied, hrest⟩ := h.views.apply_next ordered next
    refine ⟨views, ?_, fun row hrow positive hle => h.clear row hrow positive ?_⟩
    · change rest <+: s.behind (d.node.catalog.apply e).applied
      rw [happlied]
      exact hrest
    · rw [applier]
      change row.offset ≤ (Catalog.lastOffset rest (d.node.catalog.apply e).applied : Int) at hle
      rw [happlied] at hle
      change row.offset ≤ (Catalog.lastOffset (e :: rest) d.node.catalog.applied : Int)
      rwa [Catalog.lastOffset_cons]

/-- A turn changes what a node sees by one entry at most. -/
theorem Turn.catalog_cases (h : d.Turn s move d' s') :
    d'.node.catalog = d.node.catalog ∨ ∃ owner e rest,
      d.applier = .applying owner (e :: rest) ∧ d'.node.catalog = d.node.catalog.apply e := by
  cases h with
  | applied applier => exact Or.inr ⟨_, _, _, applier, rfl⟩
  | unread _ _ released | caughtUp _ released => exact Or.inl (released.node_eq.1 ▸ rfl)
  | _ => exact Or.inl rfl

/-- A reading that is being applied goes on to its last entry, unless it is given up. -/
theorem Watches.applying_turn (h : d.Watches s) (ordered : s.Ordered)
    (hturn : d.Turn s move d' s') {owner : Option Nat} {rest : List Entry}
    (applier : d.applier = .applying owner rest) :
    (∃ rest', d'.applier = .applying owner rest' ∧
        Catalog.lastOffset rest' d'.node.catalog.applied =
          Catalog.lastOffset rest d.node.catalog.applied) ∨
      d'.applier = .free ∧
        (d'.node.catalog.applied = Catalog.lastOffset rest d.node.catalog.applied ∨
          move = .drop) := by
  have next := h.next
  cases hturn with
  | still | called | taken | refused | idle | planned | checked | deposed | left | pushed
  | unwritten => exact Or.inl ⟨rest, applier, rfl⟩
  | entered free => simp [applier] at free
  | unread reading => simp [applier] at reading
  | read reading => simp [applier] at reading
  | dropped => exact Or.inr ⟨rfl, Or.inr rfl⟩
  | caughtUp atEnd released =>
    simp only [applier, Applier.applying.injEq] at atEnd
    obtain ⟨rfl, rfl⟩ := atEnd
    exact Or.inr ⟨released.node_eq.2, Or.inl (by rw [released.node_eq.1]; rfl)⟩
  | applied applying =>
    rename_i owner' e rest'
    rw [applying] at next
    simp only [applier, Applier.applying.injEq] at applying
    obtain ⟨rfl, rfl⟩ := applying
    -- The entry applied moves the catalog to its offset, from where the rest leads to the same end.
    obtain ⟨-, happlied, -⟩ := h.views.apply_next ordered next
    refine Or.inl ⟨rest', rfl, ?_⟩
    change Catalog.lastOffset rest' (d.node.catalog.apply e).applied = _
    rw [happlied, Catalog.lastOffset_cons]

end Desk

/-! ## Fleets -/

namespace Fleet

variable {f : Fleet} {j k : Nat} {d d' e : Desk}

/-- Where the desks of a fleet come from when something happens to it. -/
theorem desk?_meet_cases {event : Event} (hd : (f.meet event).desk? j = some d') :
    (∃ d, f.desk? j = some d ∧
        ((∃ move, event = .action (.act j move) ∧ d.Turn f.store move d' (f.meet event).store) ∨
          ∃ leadership, d' = d.told leadership)) ∨
      f.desk? j = none ∧ ∃ settings leadership, d' = { node := { settings, leadership } } := by
  rcases event with (⟨i, move⟩ | ⟨i, leadership⟩) | ⟨now, op⟩ | row | ⟨settings, leadership⟩
  · rw [meet, step] at hd ⊢
    rcases hi : f.desk? i with _ | d
    · rw [act, hi] at hd
      exact Or.inl ⟨d', hd, Or.inr ⟨_, rfl⟩⟩
    · rw [act_eq hi] at hd ⊢
      rcases desk?_put_cases hi hd with ⟨rfl, rfl⟩ | ⟨-, hold⟩
      · exact Or.inl ⟨d, hi, Or.inl ⟨move, rfl, d.turn_step f.store move⟩⟩
      · exact Or.inl ⟨d', hold, Or.inr ⟨_, rfl⟩⟩
  · rw [meet, step] at hd
    rcases f.lead_cases i leadership with same | ⟨-, told⟩
    · rw [same] at hd
      exact Or.inl ⟨d', hd, Or.inr ⟨_, rfl⟩⟩
    · rw [told] at hd
      rcases desk?_tell_cases hd with ⟨d, rfl, hold, rfl⟩ | ⟨-, hold⟩
      · exact Or.inl ⟨d, hold, Or.inr ⟨_, rfl⟩⟩
      · exact Or.inl ⟨d', hold, Or.inr ⟨_, rfl⟩⟩
  · exact Or.inl ⟨d', hd, Or.inr ⟨_, rfl⟩⟩
  · exact Or.inl ⟨d', hd, Or.inr ⟨_, rfl⟩⟩
  · -- A node that joins stands behind all others, so a place that was taken has its old desk.
    have hmem : (f.desks ++ [{ node := { settings, leadership } }])[j]? = some d' := hd
    rw [List.getElem?_append] at hmem
    split at hmem
    · exact Or.inl ⟨d', hmem, Or.inr ⟨_, rfl⟩⟩
    · rename_i hnew
      exact Or.inr ⟨List.getElem?_eq_none (by omega), settings, leadership,
        List.mem_singleton.mp (List.mem_of_getElem? hmem)⟩

/-- No desk goes away. -/
theorem exists_desk?_meet (hd : f.desk? j = some d) (event : Event) :
    ∃ d', (f.meet event).desk? j = some d' := by
  have hlt : j < f.desks.length := (List.getElem?_eq_some_iff.mp hd).1
  have hlt' : j < (f.meet event).desks.length := by
    rcases event with (⟨i, move⟩ | ⟨i, leadership⟩) | ⟨now, op⟩ | row | ⟨settings, leadership⟩
    · rw [meet, step]
      rcases hi : f.desk? i with _ | d
      · rw [act, hi]
        exact hlt
      · rw [act_eq hi, put, List.length_set]
        exact hlt
    · rw [meet, step]
      rcases f.lead_cases i leadership with same | ⟨-, told⟩
      · rw [same]
        exact hlt
      · rw [told, tell, List.length_modify]
        exact hlt
    · exact hlt
    · exact hlt
    · rw [meet, List.length_append]
      omega
  exact ⟨_, List.getElem?_eq_getElem hlt'⟩

/-- No event takes anything from the log, not even one that fails. -/
theorem grows_meet (f : Fleet) (event : Event) : f.store.Grows (f.meet event).store := by
  rcases event with (⟨i, move⟩ | ⟨i, leadership⟩) | ⟨now, op⟩ | row | ⟨settings, leadership⟩
  · rw [meet, step]
    rcases hi : f.desk? i with _ | d
    · rw [act, hi]
      exact .refl _
    · rw [act_eq hi]
      exact (d.turn_step f.store move).grows
  · rw [meet, step]
    rcases f.lead_cases i leadership with same | ⟨-, told⟩
    · rw [same]
      exact .refl _
    · rw [told]
      exact .refl _
  · exact f.store.grows_append now op
  · exact f.store.grows_insertRow row
  · exact f.store.grows_opened

/-- What holds of a log and of those that read it. -/
structure Watched (f : Fleet) : Prop where
  ordered : f.store.Ordered
  watches : ∀ {j d}, f.desk? j = some d → d.Watches f.store

theorem watched_unread {s : Store} (ordered : s.Ordered) : (unread s).Watched where
  ordered := ordered
  watches hd := by simp [unread, desk?] at hd

/-- An event concerns one desk. The others notice of it no more than a log that has grown. -/
theorem Watched.meet (h : f.Watched) (event : Event) : (f.meet event).Watched := by
  have grown := f.grows_meet event
  refine ⟨grown.ordered h.ordered, fun hd => ?_⟩
  rcases desk?_meet_cases hd with
    ⟨d, hold, ⟨move, -, hturn⟩ | ⟨leadership, rfl⟩⟩ | ⟨-, settings, leadership, rfl⟩
  · exact (h.watches hold).turn h.ordered hturn
  · have watches := (h.watches hold).mono h.ordered grown
    exact ⟨watches.views, watches.next, watches.clear⟩
  · exact Desk.watches_new _ rfl

theorem Watched.meetAll (h : f.Watched) (events : List Event) : (f.meetAll events).Watched := by
  induction events generalizing f with
  | nil => exact h
  | cons event events ih => exact ih (h.meet event)

theorem meetAll_append (f : Fleet) (before after : List Event) :
    f.meetAll (before ++ after) = (f.meetAll before).meetAll after :=
  List.foldl_append

/-! ## What a node sees -/

/-- What an event makes of a desk. -/
theorem Watched.exists_desk?_meet (h : f.Watched) (hd : f.desk? j = some d) (event : Event) :
    ∃ d', (f.meet event).desk? j = some d' ∧
      (d'.node.catalog = d.node.catalog ∨ ∃ e rest, e :: rest <+: f.store.behind
        d.node.catalog.applied ∧ d'.node.catalog = d.node.catalog.apply e) := by
  obtain ⟨d', hd'⟩ := Fleet.exists_desk?_meet hd event
  refine ⟨d', hd', ?_⟩
  rcases desk?_meet_cases hd' with
    ⟨d₁, hold, ⟨move, -, hturn⟩ | ⟨leadership, rfl⟩⟩ | ⟨hnew, -⟩
  · obtain rfl := Option.some.inj (hd.symm.trans hold)
    rcases hturn.catalog_cases with same | ⟨owner, e, rest, applier, happly⟩
    · exact Or.inl same
    · have next := (h.watches hd).next
      rw [applier] at next
      exact Or.inr ⟨e, rest, next, happly⟩
  · obtain rfl := Option.some.inj (hd.symm.trans hold)
    exact Or.inl rfl
  · simp [hd] at hnew

/-- No node loses anything that it has seen. -/
theorem Watched.exists_applied_le (h : f.Watched) (hd : f.desk? j = some d) (events : List Event) :
    ∃ d', (f.meetAll events).desk? j = some d' ∧
      d.node.catalog.applied ≤ d'.node.catalog.applied := by
  induction events generalizing f d with
  | nil => exact ⟨d, hd, Nat.le_refl _⟩
  | cons event events ih =>
    obtain ⟨d₁, hd₁, changed⟩ := h.exists_desk?_meet hd event
    obtain ⟨d', hd', hle⟩ := ih (h.meet event) hd₁
    refine ⟨d', hd', le_trans ?_ hle⟩
    rcases changed with same | ⟨e, rest, -, happly⟩
    · rw [same]
    · rw [happly, Catalog.applied_apply]
      omega

/-! ### Readings -/

/-- Whether a reading is being applied at a node and reaches to an offset. -/
def Bound (f : Fleet) (j target : Nat) : Prop :=
  ∃ d owner rest, f.desk? j = some d ∧ d.applier = .applying owner rest ∧
    Catalog.lastOffset rest d.node.catalog.applied = target

/-- Whether a reading has been applied to its end at a node, or an event has given it up. -/
def Ended (f : Fleet) (j target : Nat) (event : Event) : Prop :=
  ∃ d, f.desk? j = some d ∧ d.applier = .free ∧
    (d.node.catalog.applied = target ∨ event = .action (.act j .drop))

/-- **A reading once begun gets where it is bound, or ends.** It is bound for the last entry that it
found, and no event but its end takes that goal from it. The end is at that entry, unless the
reading is given up before. -/
theorem Watched.bound_meet (h : f.Watched) {target : Nat} (bound : f.Bound j target)
    (event : Event) : (f.meet event).Bound j target ∨ (f.meet event).Ended j target event := by
  obtain ⟨d, owner, rest, hd, applier, htarget⟩ := bound
  obtain ⟨d', hd'⟩ := Fleet.exists_desk?_meet hd event
  rcases desk?_meet_cases hd' with
    ⟨d₁, hold, ⟨move, rfl, hturn⟩ | ⟨leadership, rfl⟩⟩ | ⟨hnew, -⟩
  · obtain rfl := Option.some.inj (hd.symm.trans hold)
    rcases (h.watches hd).applying_turn h.ordered hturn applier with
      ⟨rest', applier', hlast⟩ | ⟨free, ended⟩
    · exact Or.inl ⟨d', owner, rest', hd', applier', hlast.trans htarget⟩
    · refine Or.inr ⟨d', hd', free, ended.imp (·.trans htarget) fun hmove => ?_⟩
      rw [hmove]
  · obtain rfl := Option.some.inj (hd.symm.trans hold)
    exact Or.inl ⟨_, owner, rest, hd', applier, htarget⟩
  · simp [hd] at hnew

/-- A reading is still being applied, or it has been applied to its end at some time, unless it was
given up. -/
theorem Watched.bound_meetAll (h : f.Watched) {target : Nat} (bound : f.Bound j target)
    (events : List Event) :
    (f.meetAll events).Bound j target ∨ ∃ before event after,
      events = before ++ event :: after ∧ (f.meetAll before).Bound j target ∧
      (f.meetAll (before ++ [event])).Ended j target event := by
  induction events generalizing f with
  | nil => exact Or.inl bound
  | cons event events ih =>
    rcases h.bound_meet bound event with bound' | ended
    · rcases ih (h.meet event) bound' with last | ⟨before, next, after, rfl, hbefore, hended⟩
      · exact Or.inl last
      · exact Or.inr ⟨event :: before, next, after, rfl, hbefore, hended⟩
    · exact Or.inr ⟨[], event, events, rfl, bound, ended⟩

end Fleet

/-! ## The laws of views -/

/-- Whether a catalog shows all of what an entry does. -/
def Entry.IsWhole (e : Entry) (c : Catalog) : Prop :=
  match e.op with
  | .register v => Row.ofVersion v ∈ c.rows
  | .softDelete subject numbers =>
    ∀ row ∈ c.rows, row.isAmong subject numbers = true → row.version.isDeleted = true
  | .permanentDelete subject numbers => ∀ row ∈ c.rows, row.isAmong subject numbers = false

/-- To apply an entry that is ahead is to have applied all of it: the place and the effect go
together. -/
theorem Entry.isWhole_apply {c : Catalog} {e : Entry} (ahead : c.applied < e.offset) :
    e.IsWhole (c.apply e) := by
  have happly : c.apply e = { c.perform e.op with applied := e.offset } := by
    rw [Catalog.apply, Catalog.applyAt, if_neg (by omega)]
  rw [happly, IsWhole]
  rcases e.op with v | ⟨subject, numbers⟩ | ⟨subject, numbers⟩
  · exact Row.mem_insert_self _ _
  · intro row hrow among
    obtain ⟨old, -, rfl⟩ := List.mem_map.mp hrow
    by_cases hold : old.isAmong subject numbers = true
    · rw [if_pos hold]
      rfl
    · rw [if_neg hold] at among
      exact absurd among hold
  · intro row hrow
    simpa using (List.mem_filter.mp hrow).2

/-- What the nodes of a fleet see of their log at a moment. -/
structure ViewLaws (f : Fleet) : Prop where
  /-- A catalog is that of the entries up to the offset that it has applied. -/
  view : ∀ j d, f.desk? j = some d →
    d.node.catalog = .ofEntries (f.store.upTo d.node.catalog.applied)
  /-- There is no row among them that is no entry. -/
  clear : ∀ j d row, f.desk? j = some d → row ∈ f.store.rows → 0 < row.offset →
    row.offset ≤ d.node.catalog.applied → ∃ e, row.entry? = .ok e
  /-- Whatever has been applied may be applied again. -/
  again : ∀ j d entries, f.desk? j = some d →
    (∀ e ∈ entries, e.offset ≤ d.node.catalog.applied) →
    d.node.catalog.applyAll entries = d.node.catalog
  /-- Nodes that have got equally far see the same, and answer the same if they serve one tenant. -/
  alike : ∀ j k d e, f.desk? j = some d → f.desk? k = some e →
    d.node.catalog.applied = e.node.catalog.applied → d.node.catalog = e.node.catalog ∧
      (d.node.settings.tenant = e.node.settings.tenant →
        d.node.list = e.node.list ∧ d.node.hasSubject = e.node.hasSubject ∧
        d.node.lookup = e.node.lookup)
  /-- What a node sees changes by nothing or by all of the next entry. -/
  step : ∀ j d event, f.desk? j = some d → ∃ d', (f.meet event).desk? j = some d' ∧
    (d'.node.catalog = d.node.catalog ∨ ∃ e rest,
      f.store.behind d.node.catalog.applied = e :: rest ∧
      d'.node.catalog = d.node.catalog.apply e ∧ d'.node.catalog.applied = e.offset ∧
      e.IsWhole d'.node.catalog)
  /-- A reading that fails changes nothing that is seen. -/
  unread : ∀ j d owner applied fault failure, f.desk? j = some d →
    d.applier = .reading owner applied → f.store.read fault applied = .error failure →
    ∃ d', (f.meet (.action (.act j (.read fault)))).desk? j = some d' ∧
      d'.node.catalog = d.node.catalog ∧ d'.applier = .free
  /-- A reading that does not fail ends at the greatest offset of the log that was read, or where
  the node was if nothing was new, unless it is given up. -/
  read : ∀ j d owner applied fault entries, f.desk? j = some d →
    d.applier = .reading owner applied → f.store.read fault applied = .ok entries →
    ∃ target, (∀ e ∈ f.store.entries, e.offset ≤ target) ∧
      (target = d.node.catalog.applied ∨ ∃ e ∈ f.store.entries, e.offset = target) ∧
      ∀ events, ((f.meet (.action (.act j (.read fault)))).meetAll events).Bound j target ∨
        ∃ before event after, events = before ++ event :: after ∧
          ((f.meet (.action (.act j (.read fault)))).meetAll before).Bound j target ∧
          ((f.meet (.action (.act j (.read fault)))).meetAll (before ++ [event])).Ended j target
            event
  /-- The same, of a reading that is applied at one go. -/
  sync : ∀ j d fault, f.desk? j = some d →
    match d.node.catalog.sync f.store fault with
    | (.error _, c) => c = d.node.catalog
    | (.ok offset, c) => c = .ofEntries (f.store.upTo offset) ∧ c.applied = offset ∧
      (∀ e ∈ f.store.entries, e.offset ≤ offset) ∧
      (offset = d.node.catalog.applied ∨ ∃ e ∈ f.store.entries, e.offset = offset)

namespace Fleet

variable {f : Fleet} {j : Nat} {d : Desk}

theorem desk?_act (hd : f.desk? j = some d) (move : Move) :
    (f.meet (.action (.act j move))).desk? j = some (d.step f.store move).1 := by
  rw [meet, step, act_eq hd]
  exact desk?_put_self hd _ _

/-- A reading that fails, at a desk that is about to read. -/
theorem exists_unread (hd : f.desk? j = some d) {owner : Option Nat} {applied : Nat}
    (applier : d.applier = .reading owner applied) {fault : Option LogFailure}
    {failure : LogFailure} (failed : f.store.read fault applied = .error failure) :
    ∃ d', (f.meet (.action (.act j (.read fault)))).desk? j = some d' ∧
      d'.node.catalog = d.node.catalog ∧ d'.applier = .free := by
  have released := d.released owner (.error failure)
  have hread : (d.step f.store (.read fault)).1 = d.release owner (.error failure) := by
    simp only [Desk.step, Desk.read, applier, failed]
  refine ⟨_, desk?_act hd _, ?_⟩
  rw [hread]
  exact ⟨released.node_eq.1 ▸ rfl, released.node_eq.2⟩

/-- A reading that does not fail is applied from then on. -/
theorem bound_of_read (hd : f.desk? j = some d) {owner : Option Nat} {applied : Nat}
    (applier : d.applier = .reading owner applied) {fault : Option LogFailure}
    {entries : List Entry} (hread : f.store.read fault applied = .ok entries) :
    (f.meet (.action (.act j (.read fault)))).Bound j
      (Catalog.lastOffset entries d.node.catalog.applied) := by
  have hstep :
      (d.step f.store (.read fault)).1 = { d with applier := .applying owner entries } := by
    simp only [Desk.step, Desk.read, applier, hread]
  refine ⟨_, owner, entries, desk?_act hd _, ?_⟩
  rw [hstep]
  exact ⟨rfl, rfl⟩

/-- **All that a catalog shows is told by the log up to one entry.** Where two nodes have got to the
same entry they show the same, and a node that reads on shows more of one and the same log. -/
theorem Watched.viewLaws (h : f.Watched) : ViewLaws f where
  view j d hd := (h.watches hd).views
  clear j d row hd hrow positive hle := by
    have watches := h.watches hd
    have hgoal := watches.applied_le_goal
    exact watches.clear row hrow positive (by omega)
  again j d entries hd hentries := Catalog.applyAll_of_le hentries
  alike j k d e hd he hsame := by
    have views : d.node.catalog = .ofEntries (f.store.upTo d.node.catalog.applied) :=
      (h.watches hd).views
    have views' : e.node.catalog = .ofEntries (f.store.upTo e.node.catalog.applied) :=
      (h.watches he).views
    -- A catalog is a function of the entries it shows, so the same place means the same catalog.
    have hcatalog : d.node.catalog = e.node.catalog := by rw [views, views', hsame]
    refine ⟨hcatalog, fun htenant => ⟨?_, ?_, ?_⟩⟩
    · funext pattern includeDeleted
      rw [Node.list, Node.list, hcatalog, htenant]
    · funext subject includeDeleted
      rw [Node.hasSubject, Node.hasSubject, hcatalog]
    · funext subject candidate normalize includeDeleted
      rw [Node.lookup, Node.lookup, hcatalog, htenant]
  step j d event hd := by
    obtain ⟨d', hd', same | ⟨e, rest, ⟨more, hmore⟩, happly⟩⟩ := h.exists_desk?_meet hd event
    · exact ⟨d', hd', Or.inl same⟩
    · have hmem : e ∈ f.store.behind d.node.catalog.applied := by simp [← hmore]
      -- An entry that is applied was ahead: it is among those behind the place of the catalog.
      have ahead : d.node.catalog.applied < e.offset := by
        simpa using (List.mem_filter.mp hmem).2
      refine ⟨d', hd', Or.inr ⟨e, rest ++ more, hmore.symm, happly, ?_, ?_⟩⟩
      · rw [happly, Catalog.applied_apply]
        omega
      · rw [happly]
        exact Entry.isWhole_apply ahead
  unread j d owner applied fault failure hd applier failed := exists_unread hd applier failed
  read j d owner applied fault entries hd applier hread := by
    have next := (h.watches hd).next
    rw [applier] at next
    obtain rfl : applied = d.node.catalog.applied := next
    have bound := bound_of_read hd applier hread
    rw [h.ordered.read_eq hread] at bound
    obtain ⟨greatest, -, reached⟩ := Catalog.lastOffset_behind h.ordered d.node.catalog.applied
    exact ⟨_, greatest, reached, fun events => (h.meet _).bound_meetAll bound events⟩
  sync j d fault hd := by
    have views := (h.watches hd).views
    rw [Catalog.sync]
    rcases hread : f.store.read fault d.node.catalog.applied with failure | entries
    · rfl
    · rw [h.ordered.read_eq hread]
      obtain ⟨hviews, hlast⟩ := views.applyAll_prefix h.ordered List.prefix_rfl
      obtain ⟨greatest, -, reached⟩ := Catalog.lastOffset_behind h.ordered d.node.catalog.applied
      rw [← hlast] at greatest reached
      exact ⟨hviews, rfl, greatest, reached⟩

/-- At every moment all nodes see their log up to some entry, and none of them goes back. -/
theorem views_advance {s : Store} (ordered : s.Ordered) (before after : List Event) :
    ViewLaws ((unread s).meetAll before) ∧
      ∀ j d, ((unread s).meetAll before).desk? j = some d →
        ∃ d', ((unread s).meetAll (before ++ after)).desk? j = some d' ∧
          d.node.catalog.applied ≤ d'.node.catalog.applied := by
  have watched := (watched_unread ordered).meetAll before
  refine ⟨watched.viewLaws, fun j d hd => ?_⟩
  rw [meetAll_append]
  exact watched.exists_applied_le hd after

/-! ### A row that is no entry -/

/-- The row of a deletion of versions that nobody has registered. -/
def gapRow (offset : Int) : LogRow :=
  .ofOp offset default (.softDelete ⟨Subject.defaultTenant, Subject.defaultContext, "orders"⟩ [1])

/-- A node reads a table with gaps, and then again when a row has got in that is no entry. -/
def readingOn : List Event :=
  [.join {} (.follower none)] ++
    [.enter none, .read none, .apply, .apply, .apply].map (fun move => .action (.act 0 move)) ++
    [.insert { gapRow 9 with document := "" }] ++
    [.enter none, .read none].map fun move => .action (.act 0 move)

theorem views_advance_readingOn :
    (Store.table (some [gapRow 2, gapRow 5])).Ordered ∧
      (((unread (.table (some [gapRow 2, gapRow 5]))).meetAll readingOn).desks.map
        fun d => d.node.catalog.applied) = [5] ∧
      ViewLaws ((unread (.table (some [gapRow 2, gapRow 5]))).meetAll readingOn) := by
  have ordered : (Store.table (some [gapRow 2, gapRow 5])).Ordered := by
    simp [Store.Ordered, gapRow, LogRow.ofOp]
  refine ⟨ordered, by decide +kernel, (views_advance ordered readingOn []).1⟩

end Fleet

end SchemaRegistry
