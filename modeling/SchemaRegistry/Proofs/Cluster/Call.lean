import SchemaRegistry.Cluster.Call
import SchemaRegistry.Proofs.Cluster.Delay
/-!
# What a cluster keeps while a call goes through it

A call changes nothing on its way but the record of handovers, and at its end one node writes. So it
leads a sound cluster to one in which at most its own append is under way. The induction is on the
handovers; its invariant is that the call is one that the node it has come to may run, which holds
anew at every node, because the next node reads the name itself.
-/

set_option autoImplicit false

namespace SchemaRegistry

/-- What a node takes a name for is a subject of its own tenant. -/
theorem Node.named_of_resolve {n : Node} {name : String} {subject : Subject}
    (h : n.resolve name = .ok subject) : Subject.Named n.settings.tenant subject := by
  rw [resolve] at h
  cases hr : Subject.resolve n.settings.tenant name with
  | error flaw =>
    rw [hr] at h
    cases h
  | ok s =>
    rw [hr] at h
    cases h
    exact ⟨name, hr⟩

/-- A call may be made for a subject that the node itself has read. -/
theorem Call.admits_of_resolve {α : Type} {n : Node} {name : String} {subject : Subject}
    (call : Call α) (h : n.resolve name = .ok subject) :
    call.Admits n.settings.tenant subject := by
  cases call with
  | delete permanent => exact trivial
  | register candidate normalize => exact Node.named_of_resolve h

namespace Cluster

variable {α : Type} {c : Cluster} {log : List Entry} {i : Nat} {n : Node} {subject : Subject}
  {call : Call α}

/-- A write leads from one cluster to the other, in which it may go on without its caller. -/
structure LeadsTo (c c' : Cluster) : Prop where
  pending : ∃ log k, c'.Pending log k
  grows : c.Grows c'

theorem Sound.leadsTo_of_eq {c' : Cluster} (h : c.Sound log) (hnodes : c'.nodes = c.nodes)
    (hstore : c'.store = c.store) : c.LeadsTo c' where
  pending := ⟨log, 0, (h.of_eq hnodes hstore).pending 0⟩
  grows := .of_eq hnodes hstore

theorem Sound.leadsTo_self (h : c.Sound log) : c.LeadsTo c :=
  h.leadsTo_of_eq rfl rfl

/-- Time passes, and with it appends that were under way come to their ends. -/
theorem Sound.leadsTo_waitUntil (h : c.Sound log) (time : Nat) : c.LeadsTo (c.waitUntil time) := by
  rw [waitUntil_eq_of_idle h.idle_of_mem]
  exact h.leadsTo_of_eq rfl rfl

/-- A node has moved on, and that is all. -/
theorem Sound.leadsTo_set {c' : Cluster} {n' : Node} {log' : List Entry} (h : c.Sound log)
    (hi : c.node? i = some n) (moved : n.Moves log n' log')
    (hnodes : c'.nodes = c.nodes.set i n') (hstore : c'.store = .memory log') : c.LeadsTo c' where
  pending := ⟨log', i, (h.set hi moved.advance (moved.errands.trans (h.errands hi))
    (moved.underWay.trans (h.idle hi)) hnodes hstore).pending i⟩
  grows := .set hi moved.advance h.store hnodes hstore

/-! ## Where a call runs -/

/-- A write that takes its time is decided on the log as it is when its turn comes. Its caller may
leave before the append ends, and then the cluster is one in which it is still under way. -/
theorem Sound.performSlowly (h : c.Sound log) (hi : c.node? i = some n)
    (admitted : call.Admits n.settings.tenant subject) (limit : Option Nat) :
    c.LeadsTo (c.performSlowly i subject call limit).2 := by
  obtain ⟨decision, n', hplan, moved, decided⟩ :=
    Node.plan_eq h.history (h.follows hi) admitted
  have hn' : n'.errands = [] := moved.errands.trans (h.errands hi)
  rw [Cluster.performSlowly, await_eq_of_idle h.idle_of_mem]
  dsimp only
  rw [hi]
  dsimp only
  rw [h.idle hi, Option.isSome_none, if_neg Bool.false_ne_true, h.store, hplan]
  cases decision with
  -- Without an operation the node has only read on.
  | error e => exact h.leadsTo_set hi moved rfl h.store
  | ok decision =>
    obtain ⟨op?, answer⟩ := decision
    cases op? with
    | none => exact h.leadsTo_set hi moved rfl h.store
    | some op =>
      have hdecided := decided op answer rfl
      dsimp only
      split
      · -- The caller leaves, and the append goes on.
        generalize hb : ({ n' with underWay := some (c.elapsed + slowAppend, op) } : Node) = b
        have moved' : Advance n.catalog log b.catalog log := hb ▸ moved.advance
        have hbegun : (c.setNode i b).Pending log i :=
          h.begin hi moved' (hb ▸ hn') (fun hunder => by subst hb; cases hunder; exact hdecided)
            rfl h.store
        have hgrown : c.Grows (c.setNode i b) := .set hi moved' h.store rfl h.store
        obtain ⟨⟨log', hpending⟩, hgrows⟩ := hbegun.waitFor limit
        exact ⟨⟨log', i, hpending⟩, hgrown.trans hgrows⟩
      · -- The caller stays until the append has ended.
        have hset : (c.setNode i n').Sound log :=
          h.set hi moved.advance hn' (moved.underWay.trans (h.idle hi)) rfl h.store
        obtain ⟨outcome, n'', log', hcommit, moved'⟩ :=
          Node.commit_eq h.history moved.advance.follows hdecided c.clock
        rw [waitUntil_eq_of_idle hset.idle_of_mem]
        dsimp only [setNode]
        rw [h.store, hcommit]
        exact h.leadsTo_set hi (moved.trans moved') (List.set_set _) rfl

/-- A node that is free does the write at once or in its own time. Either way the cluster goes on
from a sound state. -/
theorem Sound.performAt (h : c.Sound log) (hi : c.node? i = some n)
    (admitted : call.Admits n.settings.tenant subject) (limit : Option Nat) :
    c.LeadsTo (c.performAt i n subject call limit).2 := by
  rw [Cluster.performAt]
  split
  · exact h.performSlowly hi admitted limit
  · obtain ⟨outcome, n', log', hperform, moved⟩ :=
      Node.perform_eq h.history (h.follows hi) admitted c.clock
    rw [h.store, hperform]
    exact h.leadsTo_set hi moved rfl rfl

/-! ## On the way -/

/-- A node runs a call, or leaves it to what lies onward. -/
theorem Sound.submitVia {onward : Onward α} (h : c.Sound log)
    (admitted : ∀ {n}, c.node? i = some n → call.Admits n.settings.tenant subject)
    (onwards : ∀ leaderUrl sooner k, c.LeadsTo (onward leaderUrl sooner c k subject).2)
    (headers : Headers) (entered : Nat) (limit : Option Nat) :
    c.LeadsTo (submitVia onward call headers entered limit c i subject).2 := by
  rw [Cluster.submitVia]
  cases hi : c.node? i with
  | none => exact h.leadsTo_self
  | some n =>
    dsimp only
    cases n.accept subject call with
    | error e => exact h.leadsTo_self
    | ok u =>
      dsimp only
      cases n.believes.route with
      | error e => exact h.leadsTo_self
      | ok route =>
        cases route with
        | here => exact h.performAt hi (admitted hi) limit
        | forward leaderUrl =>
          dsimp only
          cases n.forwarder with
          | none => exact h.leadsTo_self
          | silent => exact h.leadsTo_waitUntil _
          | http => exact h.leadsTo_self
          | direct k =>
            have hleads := onwards leaderUrl ((limit.map (min
              (entered + n.settings.forwardTimeout))).getD (entered + n.settings.forwardTimeout)) k
            dsimp only
            generalize onward leaderUrl _ c k subject = heard at hleads ⊢
            obtain ⟨answer, c'⟩ := heard
            -- Whoever tells the caller in the end, the cluster is left as it was on the way.
            cases answer <;> exact hleads

/-- The node that a call is handed on to reads the name itself, so it may run the call. -/
theorem Sound.handOn {submit : Option Nat → Cluster → Nat → Subject → Heard α × Cluster}
    (h : c.Sound log)
    (submits : ∀ {c : Cluster} {k : Nat} {limit : Option Nat} {subject : Subject}, c.Sound log →
      (∀ {n}, c.node? k = some n → call.Admits n.settings.tenant subject) →
      c.LeadsTo (submit limit c k subject).2)
    (headers : Headers) (leaderUrl : String) (sooner k : Nat) :
    c.LeadsTo (handOn submit call headers leaderUrl sooner c k subject).2 := by
  rw [Cluster.handOn]
  -- The record of handovers is all that changes before the other node is asked.
  generalize hc' : ({ c with handovers := _ } : Cluster) = c'
  have hnodes : c'.nodes = c.nodes := by rw [← hc']
  have hstore : c'.store = c.store := by rw [← hc']
  have hc := h.leadsTo_of_eq hnodes hstore
  cases hk : c'.node? k with
  | none => exact hc
  | some target =>
    rw [Option.map_some]
    cases hresolve : target.resolve subject.rendered with
    | error e => exact hc
    | ok subject' =>
      have hsubmit : c'.LeadsTo (submit (some sooner) c' k subject').2 :=
        submits (h.of_eq hnodes hstore) fun hn => by
          rw [hk] at hn
          cases hn
          exact call.admits_of_resolve hresolve
      exact ⟨hsubmit.pending, hc.grows.trans hsubmit.grows⟩

/-- **Wherever a call goes, it leaves a sound cluster behind**, by induction on how often it is
handed on. -/
theorem Sound.submitWithin (h : c.Sound log)
    (admitted : ∀ {n}, c.node? i = some n → call.Admits n.settings.tenant subject)
    (headers : Headers) (entered steps : Nat) (limit : Option Nat) :
    c.LeadsTo (submitWithin call headers entered steps limit c i subject).2 := by
  induction steps generalizing c i subject limit with
  | zero =>
    rw [Cluster.submitWithin]
    exact h.submitVia admitted (fun _ sooner _ => h.leadsTo_waitUntil sooner) headers entered limit
  | succ steps ih =>
    rw [Cluster.submitWithin]
    exact h.submitVia admitted
      (fun leaderUrl sooner k => h.handOn (fun h' admitted' => ih h' admitted' _) headers leaderUrl
        sooner k) headers entered limit

end Cluster

end SchemaRegistry
