import SchemaRegistry.Cluster.Delay
import SchemaRegistry.Proofs.Node.Write
/-!
# What a cluster keeps while time passes

Between two writes a cluster is `Sound`: its log is a history, every catalog follows it, and nothing
goes on without a caller. While a write runs, its caller may leave before the append has ended. Then
the cluster is `Pending`: one node, and no other, has an operation under way, which was decided on
the log as it still is. When the append ends the cluster is sound again, over a log that may have
grown by one entry.
-/

set_option autoImplicit false

namespace SchemaRegistry.Cluster

variable {c c' : Cluster} {log log' : List Entry} {i k : Nat} {m n : Node}

/-- One cluster is a later state of the other: its log goes on where the other's ends, and no node
has gone back. -/
structure Grows (c c' : Cluster) : Prop where
  log : ∀ {log}, c.store = .memory log → ∃ log', c'.store = .memory log' ∧ log <+: log'
  node : ∀ {i n}, c.node? i = some n →
    ∃ n', c'.node? i = some n' ∧ n.catalog.applied ≤ n'.catalog.applied

namespace Grows

/-- What belongs neither to the log nor to a node does not matter. -/
theorem of_eq (hnodes : c'.nodes = c.nodes) (hstore : c'.store = c.store) : c.Grows c' where
  log h := ⟨_, hstore.trans h, List.prefix_rfl⟩
  node {i n} h := ⟨n, by rw [node?, hnodes]; exact h, Nat.le_refl _⟩

theorem refl (c : Cluster) : c.Grows c :=
  of_eq rfl rfl

/-- The log of the last state goes on where that of the middle one ends, and no node has gone back
on the way. -/
theorem trans {c'' : Cluster} (h : c.Grows c') (h' : c'.Grows c'') : c.Grows c'' where
  log hlog := by
    obtain ⟨log', hlog', hgrown⟩ := h.log hlog
    obtain ⟨log'', hlog'', hgrown'⟩ := h'.log hlog'
    exact ⟨log'', hlog'', hgrown.trans hgrown'⟩
  node hn := by
    obtain ⟨n', hn', hle⟩ := h.node hn
    obtain ⟨n'', hn'', hle'⟩ := h'.node hn'
    exact ⟨n'', hn'', hle.trans hle'⟩

end Grows

/-! ## States -/

/-- What holds of a cluster at any time. -/
structure Over (c : Cluster) (log : List Entry) : Prop where
  store : c.store = .memory log
  history : History log
  follows : ∀ {i n}, c.node? i = some n → n.catalog.Follows log
  /-- No write waits for its turn, since one write ends before the next begins. -/
  errands : ∀ {i n}, c.node? i = some n → n.errands = []

/-- A cluster in which nothing goes on. -/
structure Sound (c : Cluster) (log : List Entry) : Prop extends Over c log where
  idle : ∀ {i n}, c.node? i = some n → n.underWay = none

/-- A cluster in which at most node `k` has an append under way. -/
structure Pending (c : Cluster) (log : List Entry) (k : Nat) : Prop extends Over c log where
  idle : ∀ {i n}, c.node? i = some n → i ≠ k → n.underWay = none
  decided : ∀ {n time op}, c.node? k = some n → n.underWay = some (time, op) →
    (Catalog.ofEntries log).Decides op

/-- Where nothing goes on any node may be the one with an operation under way, since it has none. -/
theorem Sound.pending (h : c.Sound log) (k : Nat) : c.Pending log k where
  toOver := h.toOver
  idle hn _ := h.idle hn
  decided hn hunder := by
    rw [h.idle hn] at hunder
    cases hunder

theorem Pending.sound (h : c.Pending log k)
    (hk : ∀ {n}, c.node? k = some n → n.underWay = none) : c.Sound log where
  toOver := h.toOver
  idle {i n} hn := by
    by_cases hik : i = k
    · subst hik
      exact hk hn
    · exact h.idle hn hik

/-! ## Changing one node -/

/-- A step of the cluster touches one node, and this is how all others are seen to stay what they
are. -/
theorem node?_of_set (hi : c.node? i = some m) (hnodes : c'.nodes = c.nodes.set i n) (j : Nat) :
    c'.node? j = if i = j then some n else c.node? j := by
  have hlt : i < c.nodes.length := (List.getElem?_eq_some_iff.mp hi).1
  rw [node?, hnodes, List.getElem?_set, if_pos hlt]
  rfl

/-- A step of one node lets the cluster grow, if the node and the log go forward in it. -/
theorem Grows.set (hi : c.node? i = some m) (moved : Advance m.catalog log n.catalog log')
    (hlog : c.store = .memory log) (hnodes : c'.nodes = c.nodes.set i n)
    (hstore : c'.store = .memory log') : c.Grows c' where
  log h := by
    rw [hlog] at h
    cases h
    exact ⟨log', hstore, moved.grown⟩
  node {j o} ho := by
    rw [node?_of_set hi hnodes]
    by_cases hij : i = j
    · subst hij
      rw [hi] at ho
      cases ho
      exact ⟨n, if_pos rfl, moved.applied_le⟩
    · exact ⟨o, by rw [if_neg hij, ho], Nat.le_refl _⟩

/-- Only the nodes and the store matter for what holds at any time. Time itself does not, nor what
callers were told. -/
theorem Over.of_eq (h : c.Over log) (hnodes : c'.nodes = c.nodes) (hstore : c'.store = c.store) :
    c'.Over log where
  store := hstore.trans h.store
  history := h.history
  follows {i n} hn := h.follows (i := i) (by rw [← hn, node?, node?, hnodes])
  errands {i n} hn := h.errands (i := i) (by rw [← hn, node?, node?, hnodes])

/-- A step of one node keeps what holds at any time, if the node goes forward with the log. The
other nodes follow the longer log because they followed the shorter one. -/
theorem Over.set (h : c.Over log) (hi : c.node? i = some m)
    (moved : Advance m.catalog log n.catalog log') (errands : n.errands = [])
    (hnodes : c'.nodes = c.nodes.set i n) (hstore : c'.store = .memory log') : c'.Over log' where
  store := hstore
  history := moved.history
  follows {j o} ho := by
    rw [node?_of_set hi hnodes] at ho
    split at ho
    · cases ho
      exact moved.follows
    · exact (h.follows ho).mono moved.grown
  errands {j o} ho := by
    rw [node?_of_set hi hnodes] at ho
    split at ho
    · cases ho
      exact errands
    · exact h.errands ho

/-- A cluster in which nothing goes on stays one while only time passes. -/
theorem Sound.of_eq (h : c.Sound log) (hnodes : c'.nodes = c.nodes) (hstore : c'.store = c.store) :
    c'.Sound log where
  toOver := h.toOver.of_eq hnodes hstore
  idle {i n} hn := h.idle (i := i) (by rw [← hn, node?, node?, hnodes])

theorem Pending.of_eq (h : c.Pending log k) (hnodes : c'.nodes = c.nodes)
    (hstore : c'.store = c.store) : c'.Pending log k where
  toOver := h.toOver.of_eq hnodes hstore
  idle {i n} hn := h.idle (i := i) (by rw [← hn, node?, node?, hnodes])
  decided hn := h.decided (by rw [← hn, node?, node?, hnodes])

/-- A node that has moved on and has nothing under way keeps the cluster sound. -/
theorem Sound.set (h : c.Sound log) (hi : c.node? i = some m)
    (moved : Advance m.catalog log n.catalog log') (errands : n.errands = [])
    (idle : n.underWay = none) (hnodes : c'.nodes = c.nodes.set i n)
    (hstore : c'.store = .memory log') : c'.Sound log' where
  toOver := h.toOver.set hi moved errands hnodes hstore
  idle {j o} ho := by
    rw [node?_of_set hi hnodes] at ho
    split at ho
    · cases ho
      exact idle
    · exact h.idle ho

/-- A node of a sound cluster begins an append. -/
theorem Sound.begin (h : c.Sound log) (hi : c.node? i = some m)
    (moved : Advance m.catalog log n.catalog log) (errands : n.errands = [])
    (decided : ∀ {time op}, n.underWay = some (time, op) → (Catalog.ofEntries log).Decides op)
    (hnodes : c'.nodes = c.nodes.set i n) (hstore : c'.store = .memory log) :
    c'.Pending log i where
  toOver := h.toOver.set hi moved errands hnodes hstore
  idle {j o} ho hj := by
    rw [node?_of_set hi hnodes, if_neg (Ne.symm hj)] at ho
    exact h.idle ho
  decided {o time op} ho hunder := by
    rw [node?_of_set hi hnodes, if_pos rfl] at ho
    cases ho
    exact decided hunder

/-! ## The end of an append -/

theorem turnTo_of_no_errands (h : n.errands = []) (s : Store) (now : Nat) :
    n.turnTo s now n.errands = n := by
  rw [h, Node.turnTo, ← h]

/-- The end of an append leaves the cluster sound; where none is under way, nothing happens. -/
theorem Pending.endAt (h : c.Pending log k) (i : Nat) :
    (c.endAt i = c ∧ ∀ {n}, c.node? i = some n → n.underWay = none) ∨
      (∃ log', (c.endAt i).Sound log') ∧ c.Grows (c.endAt i) := by
  rw [Cluster.endAt]
  cases hi : c.node? i with
  | none => exact Or.inl ⟨rfl, nofun⟩
  | some n =>
    dsimp only
    cases hunder : n.underWay with
    | none => exact Or.inl ⟨rfl, fun ho => by cases ho; exact hunder⟩
    | some append =>
      obtain ⟨time, op⟩ := append
      -- One append at most is under way, and it is the one of this node.
      have hik : i = k := by
        by_contra hik
        rw [h.idle hi hik] at hunder
        cases hunder
      subst hik
      have hc : n.catalog.Follows log := h.follows hi
      obtain ⟨outcome, n', log', hcommit, moved⟩ :=
        Node.commit_eq (n := { n with underWay := none }) h.history hc (h.decided hi hunder) c.clock
      dsimp only
      rw [h.store, hcommit]
      dsimp only
      have hn : n.errands = [] := h.errands hi
      have hn' : n'.errands = [] := moved.errands.trans hn
      rw [turnTo_of_no_errands hn']
      refine Or.inr ⟨⟨log', h.toOver.set hi moved.advance hn' rfl rfl, fun {j o} ho => ?_⟩,
        Grows.set hi moved.advance h.store rfl rfl⟩
      rw [node?_of_set hi rfl] at ho
      split at ho
      · cases ho
        exact moved.underWay
      · rename_i hij
        exact h.idle ho (Ne.symm hij)

/-- No end is to come exactly if no append is under way. -/
theorem nextEndFrom_eq_none_iff {nodes : List Node} {j : Nat} :
    nextEndFrom j nodes = none ↔ ∀ n ∈ nodes, n.underWay = none := by
  induction nodes generalizing j with
  | nil => exact ⟨fun _ n hn => absurd hn List.not_mem_nil, fun _ => rfl⟩
  | cons first rest ih =>
    rw [nextEndFrom, List.forall_mem_cons, ← @ih (j + 1)]
    cases first.underWay with
    | none => exact ⟨fun h => ⟨rfl, h⟩, fun h => h.2⟩
    | some append =>
      refine ⟨fun h => ?_, fun h => nomatch h.1⟩
      cases hnext : nextEndFrom (j + 1) rest with
      | none =>
        rw [hnext] at h
        cases h
      | some next =>
        rw [hnext, Option.map_some, sooner] at h
        by_cases hlt : next.1 < append.1
        · rw [if_pos hlt] at h
          cases h
        · rw [if_neg hlt] at h
          cases h

/-- The next end is that of an append that is under way. -/
theorem underWay_of_nextEndFrom {nodes : List Node} {j : Nat} {time : Nat}
    (h : nextEndFrom j nodes = some (time, i)) :
    ∃ n, (∃ k, i = j + k ∧ nodes[k]? = some n) ∧ n.underWay ≠ none := by
  induction nodes generalizing j with
  | nil => cases h
  | cons first rest ih =>
    rw [nextEndFrom] at h
    have hrest : nextEndFrom (j + 1) rest = some (time, i) →
        ∃ n, (∃ k, i = j + k ∧ (first :: rest)[k]? = some n) ∧ n.underWay ≠ none := by
      intro hnext
      obtain ⟨n, ⟨k, hk, hn⟩, hunder⟩ := ih hnext
      exact ⟨n, ⟨k + 1, by omega, hn⟩, hunder⟩
    cases hfirst : first.underWay with
    | none =>
      rw [hfirst] at h
      exact hrest h
    | some append =>
      have here : j = i → ∃ n, (∃ k, i = j + k ∧ (first :: rest)[k]? = some n) ∧
          n.underWay ≠ none := by
        rintro rfl
        exact ⟨first, ⟨0, rfl, rfl⟩, by rw [hfirst]; exact Option.some_ne_none _⟩
      rw [hfirst, Option.map_some] at h
      cases hnext : nextEndFrom (j + 1) rest with
      | none =>
        rw [hnext] at h
        exact here (congrArg Prod.snd (Option.some.inj h))
      | some next =>
        rw [hnext, sooner] at h
        -- The sooner of the two ends is at this node or at one behind it.
        by_cases hlt : next.1 < append.1
        · rw [if_pos hlt] at h
          exact hrest (hnext.trans h)
        · rw [if_neg hlt] at h
          exact here (congrArg Prod.snd (Option.some.inj h))

/-! ## Leaps -/

/-- Nothing is to come where no append is under way. -/
theorem leap_eq_of_idle (idle : ∀ n ∈ c.nodes, n.underWay = none) (limit : Option Nat)
    (wanted : Cluster → Bool) (steps : Nat) : leap limit wanted steps c = c := by
  cases steps with
  | zero => rfl
  | succ steps =>
    rw [leap, nextEnd?, nextEndFrom_eq_none_iff.mpr idle]
    split <;> rfl

/-- Where nothing is under way there is nothing to wait for, so not even time passes. -/
theorem await_eq_of_idle (idle : ∀ n ∈ c.nodes, n.underWay = none) (limit : Option Nat)
    (wanted : Cluster → Bool) : c.await limit wanted = c :=
  leap_eq_of_idle idle limit wanted _

theorem waitUntil_eq_of_idle (idle : ∀ n ∈ c.nodes, n.underWay = none) (time : Nat) :
    c.waitUntil time = { c with elapsed := max c.elapsed time } := by
  rw [waitUntil, await_eq_of_idle idle]

/-- The same for the nodes of the list as for those found by their place, which is how waiting looks
at them. -/
theorem Sound.idle_of_mem (h : c.Sound log) : ∀ n ∈ c.nodes, n.underWay = none := by
  intro n hn
  obtain ⟨j, hj⟩ := List.mem_iff_getElem?.mp hn
  exact h.idle hj

/-- However far the clock leaps from one event to the next, what was under way stays so or has
ended, and nothing else has begun. The steps are those of the loop that leaps, and nothing is
claimed of how many there are. -/
theorem Pending.leap (h : c.Pending log k) (limit : Option Nat) (wanted : Cluster → Bool)
    (steps : Nat) :
    (∃ log', (leap limit wanted steps c).Pending log' k) ∧ c.Grows (leap limit wanted steps c) := by
  induction steps with
  | zero => exact ⟨⟨log, h⟩, .refl c⟩
  | succ steps ih =>
    have stays : (∃ log', c.Pending log' k) ∧ c.Grows c := ⟨⟨log, h⟩, .refl c⟩
    rw [Cluster.leap]
    split
    · exact stays
    · split
      · exact stays
      · rename_i time j hnext
        split
        · exact stays
        · rcases h.endAt j with ⟨hsame, -⟩ | ⟨⟨log', hsound⟩, hgrows⟩
          · rw [hsame]
            exact ih
          · rw [leap_eq_of_idle hsound.idle_of_mem]
            exact ⟨⟨log', hsound.pending k⟩, hgrows⟩

/-- Waiting for something to come true is a leap of as many steps as there are things that can
happen. -/
theorem Pending.await (h : c.Pending log k) (limit : Option Nat) (wanted : Cluster → Bool) :
    (∃ log', (c.await limit wanted).Pending log' k) ∧ c.Grows (c.await limit wanted) :=
  h.leap limit wanted _

/-- Waiting for a moment is waiting, and then the clock is set to the moment. -/
theorem Pending.waitUntil (h : c.Pending log k) (time : Nat) :
    (∃ log', (c.waitUntil time).Pending log' k) ∧ c.Grows (c.waitUntil time) := by
  obtain ⟨⟨log', hpending⟩, hgrows⟩ := h.await (some time) fun _ => false
  exact ⟨⟨log', hpending.of_eq rfl rfl⟩, hgrows.trans (.of_eq rfl rfl)⟩

/-- A caller who leaves is waited for until it does, and for one who stays no time passes. -/
theorem Pending.waitFor (h : c.Pending log k) (limit : Option Nat) :
    (∃ log', (c.waitFor limit).Pending log' k) ∧ c.Grows (c.waitFor limit) := by
  cases limit with
  | none => exact ⟨⟨log, h⟩, .refl c⟩
  | some time => exact h.waitUntil time

/-! ## Coming to an end -/

/-- The count of what is unfinished is at least what one of the nodes adds to it. By it a node that
has an operation under way is waited for. -/
theorem le_unfinished {nodes : List Node} (hn : n ∈ nodes) (count : Nat) :
    count + n.underWay.toList.length ≤
      nodes.foldl (fun count n => count + n.errands.length + n.underWay.toList.length) count := by
  have grows : ∀ (nodes : List Node) (count : Nat), count ≤
      nodes.foldl (fun count n => count + n.errands.length + n.underWay.toList.length) count := by
    intro nodes
    induction nodes with
    | nil => exact fun count => Nat.le_refl _
    | cons first rest ih =>
      intro count
      refine Nat.le_trans ?_ (ih _)
      dsimp only
      omega
  induction nodes generalizing count with
  | nil => cases hn
  | cons first rest ih =>
    rw [List.foldl_cons]
    rcases List.mem_cons.mp hn with rfl | hn
    · exact Nat.le_trans (by omega) (grows rest _)
    · exact Nat.le_trans (by omega) (ih hn _)

/-- When all that goes on has come to an end, the cluster is sound. -/
theorem Pending.finish (h : c.Pending log k) :
    (∃ log', (c.await none fun _ => false).Sound log') ∧
      c.Grows (c.await none fun _ => false) := by
  by_cases hbusy : ∃ n, c.node? k = some n ∧ n.underWay ≠ none
  · obtain ⟨n, hn, hunder⟩ := hbusy
    -- One step is enough, and there is one for the append that is under way.
    have hsteps : 1 ≤ c.unfinished := by
      have hle := le_unfinished (List.mem_of_getElem? hn) 0
      obtain ⟨append, happend⟩ := Option.ne_none_iff_exists'.mp hunder
      rw [happend] at hle
      exact hle
    obtain ⟨steps, hsteps⟩ := Nat.exists_eq_succ_of_ne_zero (Nat.one_le_iff_ne_zero.mp hsteps)
    rw [Cluster.await, hsteps, Cluster.leap, if_neg Bool.false_ne_true]
    cases hnext : c.nextEnd? with
    | none => exact absurd (nextEndFrom_eq_none_iff.mp hnext n (List.mem_of_getElem? hn)) hunder
    | some next =>
      obtain ⟨time, j⟩ := next
      obtain ⟨o, ⟨k, hk, ho⟩, hounder⟩ := underWay_of_nextEndFrom hnext
      rw [Nat.zero_add] at hk
      subst hk
      rcases h.endAt j with ⟨-, hidle⟩ | ⟨⟨log', hsound⟩, hgrows⟩
      · exact absurd (hidle ho) hounder
      · dsimp only
        rw [Option.any_none, if_neg Bool.false_ne_true, leap_eq_of_idle hsound.idle_of_mem]
        exact ⟨⟨log', hsound⟩, hgrows⟩
  · have hsound : c.Sound log := h.sound fun {n} hn => by
      by_contra hunder
      exact hbusy ⟨n, hn, hunder⟩
    rw [await_eq_of_idle hsound.idle_of_mem]
    exact ⟨⟨log, hsound⟩, .refl c⟩

end SchemaRegistry.Cluster
