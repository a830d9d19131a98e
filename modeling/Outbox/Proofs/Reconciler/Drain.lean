import Mathlib.Algebra.Order.Floor.Div
import Outbox.Proofs.Reconciler.Outcome

/-!
# Draining the queue

Ticks one after another empty a queue in which every task is due, as many tasks at a time as the
limit allows.  However it is cut into ticks, the whole comes to what one tick over all tasks would
do: `emptied` says so for a run, by induction over its ticks, and what a tick leaves to the next one
is in `todo_append`.

* `todo_append` — what is indexed for some tasks, and then for others, is what is indexed for both;
* `emptied` — what a run of ticks comes to;
* `limits_agree` — two runs with different limits end alike.
-/

namespace Outbox.Reconciler

open Outbox.Memory Outbox.Simulation Outbox.Time

/-- Ticks one after another, with some nanoseconds after each. -/
def ticks {ι : Type} (s : Setup ι) : List Nat → Action (World ι) (List Report)
  | [] => pure []
  | wait :: waits => do
    let report ← s.reconciler.tick
    Action.change fun w => ((), { w with queue := w.queue.advance wait })
    let reports ← ticks s waits
    pure (report :: reports)

/-- Nothing stands in the way of a tick, and it could claim every task. -/
structure Ready (w : World Index) : Prop extends Healthy w where
  /-- No two tasks have one identifier. -/
  nodup : (w.queue.tasks.map Task.id).Nodup
  due : ∀ t ∈ w.queue.tasks, t.scheduledAt < w.queue.now ∧ t.id ∉ w.queue.locked

variable {enrich : Transform} {registry : Registry} {limit : Int} {w : World Index}
  {tasks ordered : List Task}

/-! ### Queues in which every task is due -/

/-- Every task could be claimed. -/
structure AllDue (q : Queue) : Prop where
  nodup : (q.tasks.map Task.id).Nodup
  due : ∀ t ∈ q.tasks, t.scheduledAt < q.now ∧ t.id ∉ q.locked

theorem Ready.allDue (h : Ready w) : AllDue w.queue := ⟨h.nodup, h.due⟩

namespace AllDue

variable {q : Queue}

/-- A claim takes the oldest tasks. -/
theorem claimDue (h : AllDue q) (hage : ByAge q.tasks ordered) (limit : Int) :
    (q.claimDue limit).1.tasks = ordered.take limit.toNat := by
  have hall : q.tasks.filter q.isDue = q.tasks := by
    refine List.filter_eq_self.mpr fun t ht => ?_
    rw [Queue.isDue, Bool.and_eq_true]
    exact ⟨decide_eq_true (h.due t ht).1, decide_eq_true (h.due t ht).2⟩
  have hdue : ByAge q.tasks q.due := by
    have hdue := q.byAge_due
    rwa [hall] at hdue
  show q.due.take limit.toNat = _
  rw [hdue.unique hage]

/-- **What is left to the next tick** are the tasks after those that were claimed. -/
theorem byAge_settled (h : AllDue q) (hage : ByAge q.tasks ordered) (registry : Registry)
    (limit : Int) : ByAge (settled registry limit q).tasks (ordered.drop limit.toNat) := by
  have hnodup : (ordered.map Task.id).Nodup := (hage.perm.map Task.id).nodup_iff.mpr h.nodup
  rw [settled_eq, h.claimDue hage, ← filter_notMem_take hnodup]
  exact hage.filter _

theorem settled (h : AllDue q) (registry : Registry) (limit : Int) :
    AllDue (settled registry limit q) := by
  rw [settled_eq]
  exact ⟨(List.filter_sublist.map _).nodup h.nodup,
    fun t ht => h.due t (List.mem_filter.mp ht).1⟩

theorem advance (h : AllDue q) (wait : Nat) : AllDue (q.advance wait) where
  nodup := h.nodup
  due t ht := ⟨Timestamp.lt_of_lt_of_le (h.due t ht).1 (Timestamp.le_addNanos _ wait),
    (h.due t ht).2⟩

end AllDue

/-! ### One tick -/

/-- The world after a tick and some nanoseconds. -/
def ticked (enrich : Transform) (registry : Registry) (limit : Int) (wait : Nat)
    (w : World Index) : World Index :=
  { w with
    queue := (settled registry limit w.queue).advance wait
    index := reindexed enrich registry (claim limit w).tasks w }

theorem exec_ticks_cons (enrich : Transform) (registry : Registry) (limit : Int) (h : Healthy w)
    (wait : Nat) (waits : List Nat) :
    (ticks (Setup.inMemory enrich registry limit) (wait :: waits)).exec w
      = let rest := (ticks (Setup.inMemory enrich registry limit) waits).exec
          (ticked enrich registry limit wait w)
        (rest.1.map (report registry (claim limit w).tasks
          (verdict registry (claim limit w).tasks w) :: ·), rest.2) := by
  rw [ticks, Action.exec_bind_ok (exec_tick_of_healthy' enrich registry limit h)]
  exact Action.exec_bind_pure _ _ _

theorem Ready.ticked (h : Ready w) (wait : Nat) : Ready (ticked enrich registry limit wait w) where
  store := h.store
  index := available_reindexed.trans h.index
  accepting := rejected_reindexed.trans h.accepting
  nodup := ((h.allDue.settled registry limit).advance wait).nodup
  due := ((h.allDue.settled registry limit).advance wait).due

/-! ### What a tick leaves to be indexed -/

/-- The index after a tick, looked up. -/
theorem stored?_reindexed_eq (h : Healthy w) (enrich : Transform) (registry : Registry)
    (tasks : List Task) (i : EntityId) :
    (reindexed enrich registry tasks w).stored? i
      = if i ∈ todo registry tasks w then
          (w.store.live? i).map fun e => .live (Indexer.document enrich e)
        else w.index.stored? i := by
  split
  · rename_i hi
    obtain ⟨e, hlive, hstored⟩ := stored?_reindexed enrich hi (h.notMem_rejected i)
    rw [hstored, hlive]
    rfl
  · rename_i hi
    exact stored?_reindexed_of_notMem (.inr hi)

/-- **An entity that was indexed needs it no more**, and nothing else is changed for any. -/
theorem standing_reindexed (h : Healthy w) {w' : World Index} (hstore : w'.store = w.store)
    (hindex : w'.index = reindexed enrich registry tasks w) (i : EntityId) :
    standing w' i = .needsIndex ↔ standing w i = .needsIndex ∧ i ∉ todo registry tasks w := by
  rw [standing_eq_needsIndex, standing_eq_needsIndex, hstore, hindex]
  by_cases hi : i ∈ todo registry tasks w
  · obtain ⟨e, hlive, hstored⟩ := stored?_reindexed enrich hi (h.notMem_rejected i)
    have hversion : (reindexed enrich registry tasks w).HasVersion i e.updated :=
      ⟨_, hstored, rfl⟩
    simp [hlive, hversion, hi]
  · have hsame : ∀ v, (reindexed enrich registry tasks w).HasVersion i v ↔ w.index.HasVersion i v :=
      fun v => Index.HasVersion.congr (stored?_reindexed_of_notMem (.inr hi))
    simp [hsame, hi]

/-- **Some tasks and then others.**  What the second tick indexes is what the first did not, of all
that one tick over both would index. -/
theorem todo_append (h : Healthy w) {w' : World Index} (hstore : w'.store = w.store)
    (hindex : w'.index = reindexed enrich registry tasks w) (others : List Task) :
    todo registry (tasks ++ others) w = todo registry tasks w ++ todo registry others w' := by
  have hrest : (distinct ((others.filterMap (named? registry)).filter
        fun i => standing w i = .needsIndex)).filter
          (fun i => i ∉ (tasks.filterMap (named? registry)).filter
            fun i => standing w i = .needsIndex)
      = todo registry others w' := by
    rw [todo_eq, ← distinct_filter, List.filter_filter]
    refine congrArg distinct (List.filter_congr fun i _ => ?_)
    have hiff := standing_reindexed h hstore hindex i
    rw [todo_eq, mem_distinct] at hiff
    simp only [hiff, Bool.decide_and, Bool.and_comm]
  rw [todo_eq, List.filterMap_append, List.filter_append, distinct_append, hrest, ← todo_eq]

theorem stored?_reindexed_append (h : Healthy w) {w' : World Index} (h' : Healthy w')
    (hstore : w'.store = w.store) (hindex : w'.index = reindexed enrich registry tasks w)
    (others : List Task) (i : EntityId) :
    (reindexed enrich registry (tasks ++ others) w).stored? i
      = (reindexed enrich registry others w').stored? i := by
  rw [stored?_reindexed_eq h, stored?_reindexed_eq h', todo_append h hstore hindex others, hstore,
    hindex, stored?_reindexed_eq h]
  by_cases hi : i ∈ todo registry tasks w
  · simp [hi]
  · simp [hi]

/-! ### A run of ticks -/

/-- What a run of ticks comes to that emptied a queue of tasks in a given order. -/
structure Emptied (enrich : Transform) (registry : Registry) (ordered : List Task)
    (w : World Index) (reports : List Report) (w' : World Index) : Prop where
  tasks : w'.queue.tasks = []
  deadLetters : w'.queue.deadLetters = w.queue.deadLetters ++ setAsideOf registry ordered
  stored : ∀ i, w'.index.stored? i = (reindexed enrich registry ordered w).stored? i
  calls : ∃ calls, w'.index.upserts = w.index.upserts ++ calls ∧
    calls.flatten = todo registry ordered w
  obsolete : (reports.map Report.obsolete).sum
    = ordered.countP fun t => (named? registry t).any fun i => (w.store.live? i).isNone
  quarantined : (reports.map Report.quarantined).sum
    = ordered.countP fun t => (fault? registry t).isSome

theorem count_obsolete (tasks : List Task) :
    count (references registry tasks) (verdict registry tasks w) .obsolete
      = tasks.countP fun t => (named? registry t).any fun i => (w.store.live? i).isNone := by
  rw [count_verdict]
  refine List.countP_congr fun t _ => ?_
  cases named? registry t with
  | none => simp
  | some i => simp [standing_eq_obsolete]

/-- Nothing is left to do in an empty queue. -/
theorem Emptied.nil (enrich : Transform) (registry : Registry) (h : w.queue.tasks = []) :
    Emptied enrich registry [] w [] w where
  tasks := h
  deadLetters := (List.append_nil _).symm
  stored _ := rfl
  calls := ⟨[], (List.append_nil _).symm, rfl⟩
  obsolete := rfl
  quarantined := rfl

/-- **A tick before a run.**  The tick and the run after it come to what one tick over the tasks of
both would do. -/
theorem Emptied.cons (h : Ready w) {wait : Nat} {others : List Task} {reports : List Report}
    {w' : World Index}
    (hrest : Emptied enrich registry others (ticked enrich registry limit wait w) reports w') :
    Emptied enrich registry ((claim limit w).tasks ++ others) w
      (report registry (claim limit w).tasks (verdict registry (claim limit w).tasks w) :: reports)
      w' := by
  have hstore : (ticked enrich registry limit wait w).store = w.store := rfl
  have hindex : (ticked enrich registry limit wait w).index
      = reindexed enrich registry (claim limit w).tasks w := rfl
  constructor
  case tasks => exact hrest.tasks
  case deadLetters =>
    have hfirst : (ticked enrich registry limit wait w).queue.deadLetters
        = w.queue.deadLetters ++ setAsideOf registry (claim limit w).tasks := by
      show (settled registry limit w.queue).deadLetters = _
      rw [settled_eq]
      rfl
    rw [hrest.deadLetters, hfirst, List.append_assoc, setAsideOf, setAsideOf, setAsideOf,
      List.filterMap_append]
  case stored =>
    intro i
    rw [hrest.stored,
      stored?_reindexed_append h.toHealthy (h.ticked wait).toHealthy hstore hindex]
  case calls =>
    obtain ⟨calls, hcalls, hflat⟩ := hrest.calls
    refine ⟨_, by rw [hcalls, hindex, upserts_reindexed_eq, List.append_assoc], ?_⟩
    rw [List.flatten_append, hflat, todo_append h.toHealthy hstore hindex]
    congr 1
    split
    · rename_i hnone
      rw [hnone]
      rfl
    · exact List.flatten_singleton
  case obsolete =>
    rw [List.map_cons, List.sum_cons, hrest.obsolete, List.countP_append]
    congr 1
    exact count_obsolete _
  case quarantined =>
    rw [List.map_cons, List.sum_cons, hrest.quarantined, List.countP_append]
    congr 1
    exact length_malformed registry _

/-- The first of some steps takes its part. -/
theorem ceilDiv_step (n : Nat) {l : Nat} (hl : 0 < l) :
    n ⌈/⌉ l = (if 0 < min l n then 1 else 0) + (n - l) ⌈/⌉ l := by
  rw [Nat.ceilDiv_eq_add_pred_div, Nat.ceilDiv_eq_add_pred_div]
  by_cases hn : n = 0
  · simp [hn]
  · have hpos : 0 < min l n := by omega
    rw [if_pos hpos]
    by_cases hle : n ≤ l
    · have hone : (n + l - 1) / l = 1 := Nat.div_eq_of_lt_le (by omega) (by omega)
      have hrest : (n - l + l - 1) / l = 0 := Nat.div_eq_of_lt (by omega)
      rw [hone, hrest]
    · have hshift : n + l - 1 = n - l + l - 1 + l := by omega
      rw [hshift, Nat.add_div_right _ hl, Nat.add_comm]

/-- The steps after the first are as many as are left. -/
theorem ceilDiv_le_of_le_succ {n l k : Nat} (hl : 0 < l) (h : n ⌈/⌉ l ≤ k + 1) :
    (n - l) ⌈/⌉ l ≤ k := by
  have hstep := ceilDiv_step n hl
  split at hstep
  · omega
  · rename_i hnone
    have hzero : n - l = 0 := by omega
    simp [hzero]

/-- **A run of ticks.**  Enough of them empty the queue, as many as it takes claim something, and
all together they do what one tick over all tasks would do. -/
theorem emptied (enrich : Transform) (registry : Registry) {limit : Int} (hlimit : 0 < limit)
    (waits : List Nat) (h : Ready w) (hage : ByAge w.queue.tasks ordered)
    (henough : ordered.length ⌈/⌉ limit.toNat ≤ waits.length) :
    ∃ reports w', (ticks (Setup.inMemory enrich registry limit) waits).exec w = (.ok reports, w') ∧
      reports.countP (fun r => 0 < r.claimed) = ordered.length ⌈/⌉ limit.toNat ∧
      Emptied enrich registry ordered w reports w' := by
  have hl : 0 < limit.toNat := by omega
  induction waits generalizing w ordered with
  | nil =>
      have hnone : ordered = [] := by
        have hstep := ceilDiv_step ordered.length hl
        have hzero : ordered.length ⌈/⌉ limit.toNat = 0 := Nat.le_zero.mp henough
        refine List.eq_nil_of_length_eq_zero ?_
        split at hstep
        · omega
        · omega
      subst hnone
      exact ⟨[], w, rfl, by simp, .nil enrich registry hage.perm.symm.eq_nil⟩
  | cons wait waits ih =>
      have hclaim : (claim limit w).tasks = ordered.take limit.toNat := h.allDue.claimDue hage limit
      have hsplit : (claim limit w).tasks ++ ordered.drop limit.toNat = ordered := by
        rw [hclaim, List.take_append_drop]
      have hfewer : (ordered.drop limit.toNat).length ⌈/⌉ limit.toNat ≤ waits.length := by
        rw [List.length_drop]
        exact ceilDiv_le_of_le_succ hl henough
      obtain ⟨reports, w', hexec, hcount, hrest⟩ :=
        ih (h.ticked wait) (h.allDue.byAge_settled hage registry limit) hfewer
      refine ⟨_, w', by rw [exec_ticks_cons enrich registry limit h.toHealthy, hexec]; rfl, ?_, ?_⟩
      · have hclaimed : (report registry (claim limit w).tasks
            (verdict registry (claim limit w).tasks w)).claimed
              = min limit.toNat ordered.length := by
          show (claim limit w).tasks.length = _
          rw [hclaim, List.length_take]
        rw [List.countP_cons, hcount, hclaimed, List.length_drop, ceilDiv_step ordered.length hl,
          Nat.add_comm]
        simp only [decide_eq_true_eq]
      · have hall := hrest.cons h
        rwa [hsplit] at hall

/-! ### Two limits -/

/-- How two runs that began in one world end alike. -/
structure SameEnd (w : World Index) (reports₁ : List Report) (w₁ : World Index)
    (reports₂ : List Report) (w₂ : World Index) : Prop where
  tasks : w₁.queue.tasks = [] ∧ w₂.queue.tasks = []
  documents : ∀ i, w₁.index.stored? i = w₂.index.stored? i
  deadLetters : w₁.queue.deadLetters = w₂.queue.deadLetters
  obsolete : (reports₁.map Report.obsolete).sum = (reports₂.map Report.obsolete).sum
  quarantined : (reports₁.map Report.quarantined).sum = (reports₂.map Report.quarantined).sum
  /-- The calls that wrote documents name the same entities, and none of them twice. -/
  upserted : ∃ calls₁ calls₂, w₁.index.upserts = w.index.upserts ++ calls₁ ∧
    w₂.index.upserts = w.index.upserts ++ calls₂ ∧ calls₁.flatten.Nodup ∧
      calls₁.flatten = calls₂.flatten

/-- **The limit does not matter.**  Whatever the limits of two runs and the time between their
ticks, each empties the queue in as many ticks as its limit makes of the tasks, and both end alike. -/
theorem limits_agree (enrich : Transform) (registry : Registry) {limit₁ limit₂ : Int}
    (hlimit₁ : 0 < limit₁) (hlimit₂ : 0 < limit₂) (h : Ready w) (waits₁ waits₂ : List Nat)
    (henough₁ : w.queue.tasks.length ⌈/⌉ limit₁.toNat ≤ waits₁.length)
    (henough₂ : w.queue.tasks.length ⌈/⌉ limit₂.toNat ≤ waits₂.length) :
    ∃ reports₁ w₁ reports₂ w₂,
      (ticks (Setup.inMemory enrich registry limit₁) waits₁).exec w = (.ok reports₁, w₁) ∧
      (ticks (Setup.inMemory enrich registry limit₂) waits₂).exec w = (.ok reports₂, w₂) ∧
      reports₁.countP (fun r => 0 < r.claimed) = w.queue.tasks.length ⌈/⌉ limit₁.toNat ∧
      reports₂.countP (fun r => 0 < r.claimed) = w.queue.tasks.length ⌈/⌉ limit₂.toNat ∧
      SameEnd w reports₁ w₁ reports₂ w₂ := by
  have hage := byAge_mergeSort w.queue.tasks
  rw [← hage.perm.length_eq] at henough₁ henough₂ ⊢
  obtain ⟨reports₁, w₁, hexec₁, hcount₁, hend₁⟩ :=
    emptied enrich registry hlimit₁ waits₁ h hage henough₁
  obtain ⟨reports₂, w₂, hexec₂, hcount₂, hend₂⟩ :=
    emptied enrich registry hlimit₂ waits₂ h hage henough₂
  refine ⟨reports₁, w₁, reports₂, w₂, hexec₁, hexec₂, hcount₁, hcount₂, ?_⟩
  constructor
  case tasks => exact ⟨hend₁.tasks, hend₂.tasks⟩
  case documents => exact fun i => (hend₁.stored i).trans (hend₂.stored i).symm
  case deadLetters => exact hend₁.deadLetters.trans hend₂.deadLetters.symm
  case obsolete => exact hend₁.obsolete.trans hend₂.obsolete.symm
  case quarantined => exact hend₁.quarantined.trans hend₂.quarantined.symm
  case upserted =>
    obtain ⟨calls₁, hcalls₁, hflat₁⟩ := hend₁.calls
    obtain ⟨calls₂, hcalls₂, hflat₂⟩ := hend₂.calls
    refine ⟨calls₁, calls₂, hcalls₁, hcalls₂, ?_, hflat₁.trans hflat₂.symm⟩
    rw [hflat₁, todo_eq]
    exact nodup_distinct _

theorem limits_agree_mixed :
    Ready mixed ∧ mixed.queue.tasks.length ⌈/⌉ Int.toNat 1 ≤ [0, 0, 7, 0, 0, 0].length ∧
      mixed.queue.tasks.length ⌈/⌉ Int.toNat 4 ≤ [1000, 0, 0].length ∧
      let setup := Setup.inMemory Enrichment.textLength Registry.standard
      ∃ reports₁ w₁ reports₂ w₂,
        (ticks (setup 1) [0, 0, 7, 0, 0, 0]).exec mixed = (.ok reports₁, w₁) ∧
        (ticks (setup 4) [1000, 0, 0]).exec mixed = (.ok reports₂, w₂) ∧
        reports₁.countP (fun r => 0 < r.claimed) = mixed.queue.tasks.length ⌈/⌉ Int.toNat 1 ∧
        reports₂.countP (fun r => 0 < r.claimed) = mixed.queue.tasks.length ⌈/⌉ Int.toNat 4 ∧
        SameEnd mixed reports₁ w₁ reports₂ w₂ := by
  have hready : Ready mixed :=
    ⟨⟨rfl, rfl, rfl⟩, by decide +kernel, by decide +kernel⟩
  have henough₁ : mixed.queue.tasks.length ⌈/⌉ Int.toNat 1 ≤ [0, 0, 7, 0, 0, 0].length := by
    decide +kernel
  have henough₂ : mixed.queue.tasks.length ⌈/⌉ Int.toNat 4 ≤ [1000, 0, 0].length := by
    decide +kernel
  exact ⟨hready, henough₁, henough₂, limits_agree Enrichment.textLength Registry.standard
    (by decide) (by decide) hready _ _ henough₁ henough₂⟩

end Outbox.Reconciler
