import Outbox.Enrichment
import Outbox.Proofs.Reconciler.Outcome

/-!
# Tasks that cannot be read

A tick sets aside the due tasks that cannot be read, and apart from that it does what it would have
done without them: wherever they stand in the batch, and also where the tick fails after they were set
aside.

* `references_filter`, `todo_filter` — what is judged and written for a claim goes by the tasks of it
  that can be read;
* `due_without` — those stand in their order when the others are not there;
* `undisturbed_of_rejected`, `undisturbed_of_accepted` — the two ticks side by side, by what the index
  answers;
* `malformed_without_influence` — both together.
-/

namespace Outbox.Reconciler

open Outbox.Memory Outbox.Simulation

variable {registry : Registry} {tasks : List Task} {t : Task}

/-! ### What can be read -/

/-- Whether a task can be read. -/
def isReadable (registry : Registry) (t : Task) : Bool := (fault? registry t).isNone

/-- The reason is the one that decoding gives. -/
theorem fault?_eq_some_iff {reason : String} : fault? registry t = some reason ↔
    registry.decode t = .error (.malformedPayload t.id reason) := by
  rw [fault?, Registry.decode]
  cases registry.read t.tag t.payload with
  | ok p => simp
  | error reason' => simp

theorem named?_eq_none_iff : named? registry t = none ↔ isReadable registry t = false := by
  rw [named?, isReadable, fault?]
  cases registry.read t.tag t.payload with
  | ok p => simp [Except.toOption]
  | error reason => simp [Except.toOption]

/-! ### What goes by the tasks that can be read -/

theorem references_filter (registry : Registry) (tasks : List Task) :
    references registry (tasks.filter (isReadable registry)) = references registry tasks := by
  rw [references_eq, references_eq, List.filterMap_filter]
  refine List.filterMap_congr fun t _ => ?_
  split
  · rfl
  · rename_i hbad
    rw [Bool.not_eq_true] at hbad
    rw [named?_eq_none_iff.mpr hbad, Option.map_none]

theorem verdict_filter (registry : Registry) (tasks : List Task) (w : World Index) :
    verdict registry (tasks.filter (isReadable registry)) w = verdict registry tasks w := by
  rw [verdict, verdict, references_filter]

theorem todo_filter (registry : Registry) (tasks : List Task) (w : World Index) :
    todo registry (tasks.filter (isReadable registry)) w = todo registry tasks w := by
  rw [todo, todo, references_filter, verdict_filter]

theorem documents_filter (enrich : Transform) (registry : Registry) (tasks : List Task)
    (w : World Index) :
    documents enrich registry (tasks.filter (isReadable registry)) w
      = documents enrich registry tasks w := by
  rw [documents, documents, todo_filter]

theorem indexed_filter (enrich : Transform) (registry : Registry) (tasks : List Task)
    (w : World Index) :
    indexed enrich registry (tasks.filter (isReadable registry)) w
      = indexed enrich registry tasks w := by
  rw [indexed, indexed, documents_filter]

theorem reindexed_filter (enrich : Transform) (registry : Registry) (tasks : List Task)
    (w : World Index) :
    reindexed enrich registry (tasks.filter (isReadable registry)) w
      = reindexed enrich registry tasks w := by
  rw [reindexed, reindexed, todo_filter, indexed_filter]

theorem setAsideOf_filter (registry : Registry) (tasks : List Task) :
    setAsideOf registry (tasks.filter (isReadable registry)) = [] := by
  rw [setAsideOf, List.filterMap_eq_nil_iff]
  intro t ht
  rw [Option.isNone_iff_eq_none.mp (List.mem_filter.mp ht).2, Option.map_none]

/-- Each task that cannot be read has its dead letter, in their order. -/
theorem forall₂_setAsideOf (registry : Registry) (tasks : List Task) :
    List.Forall₂ (fun t (d : DeadLetter) =>
        d.task = t ∧ registry.decode t = .error (.malformedPayload t.id d.reason))
      (tasks.filter fun t => !isReadable registry t) (setAsideOf registry tasks) := by
  induction tasks with
  | nil => exact .nil
  | cons t tasks ih =>
      rw [setAsideOf, List.filterMap_cons]
      cases hfault : fault? registry t with
      | none =>
          rw [List.filter_cons_of_neg (by simp [isReadable, hfault])]
          exact ih
      | some reason =>
          rw [List.filter_cons_of_pos (by simp [isReadable, hfault])]
          exact .cons ⟨rfl, fault?_eq_some_iff.mp hfault⟩ ih

/-! ### The queue without them -/

/-- The due tasks of a queue that cannot be read, in the order in which they are claimed. -/
def unreadable (registry : Registry) (q : Queue) : List Task :=
  q.due.filter fun t => !isReadable registry t

/-- The world without the due tasks that cannot be read. -/
def without (registry : Registry) (w : World Index) : World Index :=
  { w with queue := { w.queue with
      tasks := w.queue.tasks.filter fun t => !w.queue.isDue t || isReadable registry t } }

variable {enrich : Transform} {limit : Int} {w : World Index}

theorem due_without (registry : Registry) (w : World Index) :
    (without registry w).queue.due = w.queue.due.filter (isReadable registry) := by
  have hage := w.queue.byAge_due.filter (isReadable registry)
  have hage' := (without registry w).queue.byAge_due
  have hsame : (without registry w).queue.tasks.filter (without registry w).queue.isDue
      = (w.queue.tasks.filter w.queue.isDue).filter (isReadable registry) := by
    show (w.queue.tasks.filter _).filter w.queue.isDue = _
    rw [List.filter_filter, List.filter_filter]
    refine List.filter_congr fun t _ => ?_
    cases w.queue.isDue t with
    | true => simp
    | false => simp
  rw [hsame] at hage'
  exact hage'.unique hage

theorem length_due_le (q : Queue) : q.due.length ≤ q.tasks.length := by
  rw [q.byAge_due.perm.length_eq]
  exact List.length_filter_le _ _

/-- All due tasks are claimed if the limit allows for them. -/
theorem tasks_claim (h : (w.queue.due.length : Int) ≤ limit) :
    (claim limit w).tasks = w.queue.due := by
  refine List.take_of_length_le ?_
  omega

theorem tasks_claim_without (h : (w.queue.due.length : Int) ≤ limit) :
    (claim limit (without registry w)).tasks = w.queue.due.filter (isReadable registry) := by
  have hle := List.length_filter_le (isReadable registry) w.queue.due
  rw [← due_without registry w] at hle ⊢
  exact tasks_claim (by omega)

/-- **The tasks that stay.**  Those that cannot be read go with the others of their identifiers. -/
theorem tasks_settled_without (h : (w.queue.due.length : Int) ≤ limit) :
    (settled registry limit w.queue).tasks
      = (settled registry limit (without registry w).queue).tasks.filter
          fun t => t.id ∉ (unreadable registry w.queue).map Task.id := by
  have hfull : (w.queue.claimDue limit).1.tasks = w.queue.due := tasks_claim h
  have hreduced : ((without registry w).queue.claimDue limit).1.tasks
      = w.queue.due.filter (isReadable registry) := tasks_claim_without h
  rw [settled_eq, settled_eq, hfull, hreduced]
  show _ = ((w.queue.tasks.filter _).filter _).filter _
  rw [List.filter_filter, List.filter_filter]
  refine List.filter_congr fun t ht => ?_
  have hids : t.id ∈ w.queue.due.map Task.id ↔
      t.id ∈ (w.queue.due.filter (isReadable registry)).map Task.id ∨
        t.id ∈ (unreadable registry w.queue).map Task.id := by
    have hperm := (List.filter_append_perm (isReadable registry) w.queue.due).map Task.id
    rw [← hperm.mem_iff, List.map_append, List.mem_append]
    rfl
  have hdue : w.queue.isDue t = true → t.id ∈ w.queue.due.map Task.id :=
    fun hdue => List.mem_map_of_mem (Queue.mem_due.mpr ⟨ht, hdue⟩)
  rw [Bool.eq_iff_iff]
  simp only [Bool.and_eq_true, Bool.or_eq_true, Bool.not_eq_true', decide_eq_true_eq]
  constructor
  · intro hnot
    refine ⟨⟨fun hbad => hnot (hids.mpr (.inr hbad)), fun hgood => hnot (hids.mpr (.inl hgood))⟩, ?_⟩
    exact .inl (Bool.eq_false_iff.mpr fun h => hnot (hdue h))
  · rintro ⟨⟨hbad, hgood⟩, -⟩ hmem
    exact (hids.mp hmem).elim hgood hbad

/-- Where identifiers tell tasks apart, none of the others goes with them. -/
theorem tasks_settled_of_nodup (h : (w.queue.due.length : Int) ≤ limit)
    (hnodup : (w.queue.tasks.map Task.id).Nodup) :
    (settled registry limit w.queue).tasks
      = (settled registry limit (without registry w).queue).tasks := by
  rw [tasks_settled_without h, List.filter_eq_self]
  intro t ht
  rw [settled_eq] at ht
  obtain ⟨ht, hdue⟩ := List.mem_filter.mp (List.mem_filter.mp ht).1
  refine decide_eq_true fun hmem => ?_
  obtain ⟨bad, hbad, hid⟩ := List.mem_map.mp hmem
  obtain ⟨hbad, hunread⟩ := List.mem_filter.mp hbad
  obtain ⟨hbad, hbaddue⟩ := Queue.mem_due.mp hbad
  obtain rfl : bad = t := List.inj_on_of_nodup_map hnodup hbad ht hid
  rw [hbaddue, Bool.not_true, Bool.false_or] at hdue
  rw [hdue] at hunread
  cases hunread

/-! ### The two ticks -/

/-- Two reports that differ in the tasks that were set aside, and in nothing else. -/
structure Report.Beside (bad : Nat) (full reduced : Report) : Prop where
  claimed : full.claimed = reduced.claimed + bad
  obsolete : full.obsolete = reduced.obsolete
  alreadyConsistent : full.alreadyConsistent = reduced.alreadyConsistent
  needsIndex : full.needsIndex = reduced.needsIndex
  indexedEntities : full.indexedEntities = reduced.indexedEntities
  quarantined : full.quarantined = bad
  none : reduced.quarantined = 0

theorem beside_report (registry : Registry) (tasks : List Task) (w : World Index) :
    Report.Beside (tasks.filter fun t => !isReadable registry t).length
      (report registry tasks (verdict registry tasks w))
      (report registry (tasks.filter (isReadable registry))
        (verdict registry (tasks.filter (isReadable registry)) w)) := by
  have hfault : ∀ t, (fault? registry t).isSome = !isReadable registry t :=
    fun t => (Option.not_isNone _).symm
  constructor
  case claimed => exact List.length_eq_length_filter_add (isReadable registry)
  case quarantined =>
    show (malformed registry tasks).length = _
    rw [length_malformed, List.countP_eq_length_filter, funext hfault]
  case none =>
    show (malformed registry _).length = 0
    rw [length_malformed, List.countP_eq_zero]
    intro t ht
    rw [hfault, (List.mem_filter.mp ht).2]
    exact Bool.false_ne_true
  all_goals simp only [report, references_filter, verdict_filter]

/-- What a tick does (`full`), and what it does on the world without the due tasks that cannot be read
(`reduced`). -/
structure Undisturbed (registry : Registry) (w : World Index)
    (full reduced : Except Error Report × World Index) : Prop where
  /-- Both fail for the same identifiers, or both succeed. -/
  outcome : (∃ failed, full.1 = .error (.partialBatchFailure failed) ∧
      reduced.1 = .error (.partialBatchFailure failed)) ∨
    ∃ report report', full.1 = .ok report ∧ reduced.1 = .ok report' ∧
      report.Beside (unreadable registry w.queue).length report'
  /-- Nothing but the queue differs: the index holds the same, and got the same calls. -/
  frame : full.2 = { reduced.2 with queue := full.2.queue }
  rolledBack : ∀ e, full.1 = .error e →
    full.2.queue = w.queue ∧ reduced.2.queue = (without registry w).queue
  /-- The same tasks stay, but for those that share an identifier with one that cannot be read. -/
  tasks : ∀ report, full.1 = .ok report → full.2.queue.tasks = reduced.2.queue.tasks.filter
    fun t => t.id ∉ (unreadable registry w.queue).map Task.id
  /-- Where identifiers tell tasks apart, the same. -/
  others : ∀ report, full.1 = .ok report → (w.queue.tasks.map Task.id).Nodup →
    full.2.queue.tasks = reduced.2.queue.tasks
  /-- The tasks that cannot be read go to the dead letters, in their order and each with the reason that
  decoding it gives. -/
  deadLetters : ∀ report, full.1 = .ok report → reduced.2.queue.deadLetters = w.queue.deadLetters ∧
    ∃ letters, full.2.queue.deadLetters = w.queue.deadLetters ++ letters ∧
      List.Forall₂ (fun t (d : DeadLetter) =>
          d.task = t ∧ registry.decode t = .error (.malformedPayload t.id d.reason))
        (unreadable registry w.queue) letters

/-- What is written is the same. -/
theorem documents_without (enrich : Transform) (registry : Registry)
    (h : (w.queue.due.length : Int) ≤ limit) :
    documents enrich registry (claim limit (without registry w)).tasks (without registry w)
      = documents enrich registry (claim limit w).tasks w := by
  rw [tasks_claim h, tasks_claim_without h]
  exact documents_filter enrich registry w.queue.due w

/-- **Where something is rejected**, both ticks fail, and nothing is left of what was set aside. -/
theorem undisturbed_of_rejected {e : Error} (hstore : w.store.available = true)
    (hindex : w.index.available = true) (hlimit : (w.queue.due.length : Int) ≤ limit)
    (hanswer : w.index.verdict
      ((documents enrich registry (claim limit w).tasks w).map Document.id) = .error e) :
    let tick := (Setup.inMemory enrich registry limit).reconciler.tick
    Undisturbed registry w (tick.exec w) (tick.exec (without registry w)) := by
  intro tick
  have hdocs := documents_without enrich registry hlimit
  have hfull : tick.exec w = (.error e, indexed enrich registry (claim limit w).tasks w) :=
    exec_tick_of_refused hstore hindex hanswer
  have hreduced : tick.exec (without registry w) = (.error e,
      indexed enrich registry (claim limit (without registry w)).tasks (without registry w)) :=
    exec_tick_of_refused (w := without registry w) hstore hindex (hdocs ▸ hanswer)
  obtain ⟨failed, rfl⟩ : ∃ failed, e = .partialBatchFailure failed := by
    rw [Index.verdict] at hanswer
    split at hanswer
    · cases hanswer
    · exact ⟨_, (Except.error.inj hanswer).symm⟩
  rw [hfull, hreduced]
  constructor
  case outcome => exact .inl ⟨failed, rfl, rfl⟩
  case frame =>
    rw [indexed, indexed, hdocs]
    rfl
  case rolledBack => exact fun e he => ⟨rfl, rfl⟩
  case tasks =>
    intro report h
    cases h
  case others =>
    intro report h
    cases h
  case deadLetters =>
    intro report h
    cases h

/-- **Where nothing is rejected**, both ticks succeed. -/
theorem undisturbed_of_accepted (enrich : Transform) (h : Accepted registry limit w)
    (hlimit : (w.queue.due.length : Int) ≤ limit) :
    let tick := (Setup.inMemory enrich registry limit).reconciler.tick
    Undisturbed registry w (tick.exec w) (tick.exec (without registry w)) := by
  intro tick
  have hdue : (w.queue.claimDue limit).1.tasks = w.queue.due := tasks_claim hlimit
  have hdue' : ((without registry w).queue.claimDue limit).1.tasks
      = w.queue.due.filter (isReadable registry) := tasks_claim_without hlimit
  have htodo : todo registry (claim limit (without registry w)).tasks (without registry w)
      = todo registry (claim limit w).tasks w := by
    rw [tasks_claim hlimit, tasks_claim_without hlimit]
    exact todo_filter registry w.queue.due w
  have hreduced' : Accepted registry limit (without registry w) :=
    ⟨h.store, h.index, fun i hi => h.accepted i (htodo ▸ hi)⟩
  have hfull := exec_tick_of_accepted' enrich h
  have hreduced := exec_tick_of_accepted' enrich hreduced'
  have hindexed : reindexed enrich registry (w.queue.due.filter (isReadable registry))
      (without registry w) = reindexed enrich registry w.queue.due w :=
    reindexed_filter enrich registry w.queue.due w
  rw [tasks_claim hlimit] at hfull
  rw [tasks_claim_without hlimit, hindexed] at hreduced
  rw [hfull, hreduced]
  constructor
  case outcome => exact .inr ⟨_, _, rfl, rfl, beside_report registry w.queue.due w⟩
  case frame => rfl
  case rolledBack =>
    intro e he
    cases he
  case tasks => exact fun report h => tasks_settled_without hlimit
  case others => exact fun report h hnodup => tasks_settled_of_nodup hlimit hnodup
  case deadLetters =>
    intro report h
    refine ⟨?_, setAsideOf registry w.queue.due, ?_, forall₂_setAsideOf registry w.queue.due⟩
    · show (settled registry limit (without registry w).queue).deadLetters = _
      rw [settled_eq, hdue', setAsideOf_filter, List.append_nil]
      rfl
    · show (settled registry limit w.queue).deadLetters = _
      rw [settled_eq, hdue]

/-- **Tasks that cannot be read do not affect the others.** -/
theorem malformed_without_influence (enrich : Transform) (registry : Registry)
    (hstore : w.store.available = true) (hindex : w.index.available = true)
    (hlimit : (w.queue.due.length : Int) ≤ limit) :
    let tick := (Setup.inMemory enrich registry limit).reconciler.tick
    Undisturbed registry w (tick.exec w) (tick.exec (without registry w)) := by
  cases hanswer : w.index.verdict
      ((documents enrich registry (claim limit w).tasks w).map Document.id) with
  | error e => exact undisturbed_of_rejected hstore hindex hlimit hanswer
  | ok u =>
      have haccepted : Accepted registry limit w :=
        ⟨hstore, hindex, fun i hi => Index.verdict_eq_ok_iff.mp hanswer i (mem_documents_ids.mpr hi)⟩
      exact undisturbed_of_accepted enrich haccepted hlimit

/-- Once with a commit and once with a rejection, each time with a task among the others that cannot be
read. -/
theorem malformed_without_influence_interleaved :
    let tick := (Setup.inMemory Enrichment.textLength Registry.standard 10).reconciler.tick
    (mixed.queue.tasks.map (isReadable Registry.standard) = [true, true, false, true, true, true] ∧
      Undisturbed Registry.standard mixed (tick.exec mixed)
        (tick.exec (without Registry.standard mixed))) ∧
    (rejecting.queue.tasks.map (isReadable Registry.standard) = [true, true, false] ∧
      Undisturbed Registry.standard rejecting (tick.exec rejecting)
        (tick.exec (without Registry.standard rejecting))) := by
  have hmixed : (mixed.queue.due.length : Int) ≤ 10 := by
    have hle : mixed.queue.tasks.length ≤ 10 := by decide +kernel
    exact Int.ofNat_le.mpr (Nat.le_trans (length_due_le _) hle)
  have hrejecting : (rejecting.queue.due.length : Int) ≤ 10 := by
    have hle : rejecting.queue.tasks.length ≤ 10 := by decide +kernel
    exact Int.ofNat_le.mpr (Nat.le_trans (length_due_le _) hle)
  refine ⟨⟨by decide +kernel, ?_⟩, ⟨by decide +kernel, ?_⟩⟩
  · exact malformed_without_influence Enrichment.textLength Registry.standard rfl rfl hmixed
  · exact malformed_without_influence Enrichment.textLength Registry.standard rfl rfl hrejecting

end Outbox.Reconciler
