import Outbox.Proofs.Indexer
import Outbox.Reconciler

/-!
# What claimed tasks ask for

Every task of a claim either names an entity or cannot be read.

* `mem_references`, `mem_referenced` — the tasks that name entities, and the entities they name;
* `mem_stale` — the entities among them that were judged to need indexing;
* `names_or_malformed` — what cannot be read names nothing, and the rest names something;
* `references_eq`, `malformed_eq`, `count_references` — the same task by task, with what each comes
  to.
-/

namespace Outbox.Reconciler

/-- A task that can be read names an entity. -/
def Names (registry : Registry) (t : Task) (e : EntityId) : Prop :=
  ∃ p, registry.read t.tag t.payload = .ok p ∧ p.entity = e

/-- The entity that a task names, if it can be read. -/
def named? (registry : Registry) (t : Task) : Option EntityId :=
  (registry.read t.tag t.payload).toOption.map Payload.entity

theorem named?_eq_some {registry : Registry} {t : Task} {i : EntityId} :
    named? registry t = some i ↔ Names registry t i := by
  rw [named?, Names]
  cases registry.read t.tag t.payload with
  | ok p => simp [Except.toOption]
  | error reason => simp [Except.toOption]

instance (registry : Registry) (t : Task) (e : EntityId) : Decidable (Names registry t e) :=
  decidable_of_iff (named? registry t = some e) named?_eq_some

variable {registry : Registry} {tasks : List Task}

theorem mem_references {r : TaskId × EntityId} :
    r ∈ references registry tasks ↔ ∃ t ∈ tasks, t.id = r.1 ∧ Names registry t r.2 := by
  rw [references, List.mem_filterMap]
  constructor
  · rintro ⟨t, ht, hread⟩
    split at hread
    · rename_i p hp
      cases hread
      exact ⟨t, ht, rfl, p, hp, rfl⟩
    · cases hread
  · obtain ⟨i, e⟩ := r
    rintro ⟨t, ht, rfl, p, hp, rfl⟩
    exact ⟨t, ht, by rw [hp]⟩

theorem mem_references_entity {e : EntityId} :
    e ∈ (references registry tasks).map Prod.snd ↔ ∃ t ∈ tasks, Names registry t e := by
  rw [List.mem_map]
  constructor
  · rintro ⟨r, hr, rfl⟩
    obtain ⟨t, ht, -, hnames⟩ := mem_references.mp hr
    exact ⟨t, ht, hnames⟩
  · rintro ⟨t, ht, hnames⟩
    exact ⟨(t.id, e), mem_references.mpr ⟨t, ht, rfl, hnames⟩, rfl⟩

theorem mem_referenced {e : EntityId} :
    e ∈ referenced (references registry tasks) ↔ ∃ t ∈ tasks, Names registry t e := by
  rw [referenced, mem_distinct, mem_references_entity]

theorem mem_stale {verdict : EntityId → Disposition} {e : EntityId} :
    e ∈ stale (references registry tasks) verdict ↔
      (∃ t ∈ tasks, Names registry t e) ∧ verdict e = .needsIndex := by
  rw [stale, mem_distinct, List.mem_filter, mem_references_entity, decide_eq_true_eq]

theorem mem_malformed {t : Task} {reason : String} :
    (t, reason) ∈ malformed registry tasks ↔
      t ∈ tasks ∧ registry.read t.tag t.payload = .error reason := by
  rw [malformed, List.mem_filterMap]
  constructor
  · rintro ⟨t', ht', hread⟩
    split at hread
    · cases hread
    · rename_i hbad
      cases hread
      exact ⟨ht', hbad⟩
  · rintro ⟨ht, hbad⟩
    exact ⟨t, ht, by rw [hbad]⟩

/-- **Each task is one or the other.**  It names an entity, or there is a reason why not. -/
theorem names_or_malformed {t : Task} (ht : t ∈ tasks) :
    (∃ e, Names registry t e) ∨ ∃ reason, (t, reason) ∈ malformed registry tasks := by
  cases h : registry.read t.tag t.payload with
  | ok p => exact .inl ⟨p.entity, p, h, rfl⟩
  | error reason => exact .inr ⟨reason, mem_malformed.mpr ⟨ht, h⟩⟩

/-! ### Task by task -/

/-- Why a task cannot be read, if it cannot. -/
def fault? (registry : Registry) (t : Task) : Option String :=
  match registry.read t.tag t.payload with
  | .ok _ => none
  | .error reason => some reason

theorem references_eq (registry : Registry) (tasks : List Task) : references registry tasks
    = tasks.filterMap fun t => (named? registry t).map fun i => (t.id, i) := by
  rw [references]
  refine List.filterMap_congr fun t _ => ?_
  rw [named?]
  cases registry.read t.tag t.payload with
  | ok p => rfl
  | error reason => rfl

theorem malformed_eq (registry : Registry) (tasks : List Task) : malformed registry tasks
    = tasks.filterMap fun t => (fault? registry t).map fun reason => (t, reason) := by
  rw [malformed]
  refine List.filterMap_congr fun t _ => ?_
  rw [fault?]
  cases registry.read t.tag t.payload with
  | ok p => rfl
  | error reason => rfl

theorem references_entities (registry : Registry) (tasks : List Task) :
    (references registry tasks).map Prod.snd = tasks.filterMap (named? registry) := by
  rw [references_eq, List.map_filterMap]
  simp only [Option.map_map, Function.comp_def, Option.map_id']

/-- The tasks that name an entity of a given disposition. -/
theorem count_references (registry : Registry) (tasks : List Task)
    (verdict : EntityId → Disposition) (d : Disposition) :
    count (references registry tasks) verdict d
      = tasks.countP fun t => (named? registry t).map verdict = some d := by
  rw [count, references_eq, List.countP_filterMap]
  refine List.countP_congr fun t _ => ?_
  cases named? registry t with
  | none => simp
  | some i => simp

theorem length_malformed (registry : Registry) (tasks : List Task) :
    (malformed registry tasks).length = tasks.countP fun t => (fault? registry t).isSome := by
  rw [malformed_eq, List.length_filterMap_eq_countP]
  simp only [Option.isSome_map]

/-- **Each task counts once.**  It names an entity of some disposition, or it cannot be read. -/
theorem length_references_add (registry : Registry) (tasks : List Task) :
    (references registry tasks).length + (malformed registry tasks).length = tasks.length := by
  induction tasks with
  | nil => rfl
  | cons t tasks ih =>
      rw [references, malformed, List.filterMap_cons, List.filterMap_cons]
      rw [references, malformed] at ih
      cases registry.read t.tag t.payload with
      | ok p =>
          simp only [List.length_cons]
          omega
      | error reason =>
          simp only [List.length_cons]
          omega

end Outbox.Reconciler
