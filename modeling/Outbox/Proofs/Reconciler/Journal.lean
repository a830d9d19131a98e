import Outbox.Proofs.Action
import Outbox.Reconciler

/-!
# The journal of a tick

Every call that a tick makes to its services, in order, with the state before and after it and with
its failure.  The journal is kept by the services: `logged` is the same reconciler over services that
write down each call they serve, and its tick is the tick, but for the journal (`journal_spec`).

* `Chain` — the entries of a journal follow one upon another, from state to state;
* `Course` — the courses that a tick can take, as the calls it makes;
* `keeps_tick` — there are no others, whatever the services answer.
-/

namespace Outbox.Reconciler

open Outbox.Indexer Outbox.Time

/-- A call to one of the services. -/
inductive Call (κ : Type)
  | claimDue (limit : Int)
  | quarantine (claim : κ) (task : Task) (reason : String)
  | storeStatuses (ids : List EntityId)
  | indexStatuses (ids : List EntityId)
  | entities (ids : List EntityId)
  | updatedBetween (start stop : Timestamp)
  | upsert (docs : List Document)
  | tombstone (ids : List EntityId)
  | delete (claim : κ) (tasks : List TaskId)
  | commit (claim : κ)
  | rollback (claim : κ)
  | abandon (claim : κ)

namespace Call

variable {κ : Type}

/-- Calls by which entities are brought up to date in the index. -/
def isIndexing : Call κ → Bool
  | .entities _ | .upsert _ | .tombstone _ => true
  | _ => false

/-- Calls by which a tick does what its tasks ask for, up to deleting them. -/
def isWork : Call κ → Bool
  | .quarantine .. | .storeStatuses _ | .indexStatuses _ => true
  | c => c.isIndexing

theorem isWork_of_isIndexing {c : Call κ} (h : c.isIndexing = true) : c.isWork = true := by
  cases c with
  | entities | upsert | tombstone => rfl
  | _ => cases h

end Call

/-- A call that was served. -/
structure Entry (σ κ : Type) where
  call : Call κ
  before : σ
  failure : Option Error
  after : σ

/-- The error of an outcome. -/
def failure? {α : Type} : Except Error α → Option Error
  | .ok _ => none
  | .error e => some e

variable {σ κ α β : Type}

/-- The entry for a call that is served by an action. -/
def Entry.of (call : Call κ) (a : Action σ α) (s : σ) : Entry σ κ :=
  ⟨call, s, failure? (a.exec s).1, (a.exec s).2⟩

/-! ### Keeping a journal -/

/-- A state, and the journal so far. -/
structure Logged (σ κ : Type) where
  state : σ
  entries : List (Entry σ κ)

/-- An action that writes down what call it serves. -/
def logging (call : Call κ) (a : Action σ α) : Action (Logged σ κ) α :=
  Action.ofFun fun l =>
    ((a.exec l.state).1, ⟨(a.exec l.state).2, l.entries ++ [.of call a l.state]⟩)

/-- A claim that nobody holds any more, as an action. -/
def abandoning (queue : TaskQueue σ κ) (claim : κ) : Action σ Unit :=
  Action.change fun s => ((), queue.abandon claim s)

/-- The same reconciler, over services that keep a journal. -/
def logged (r : Reconciler σ κ) : Reconciler (Logged σ κ) κ where
  queue :=
    { claimDue := fun limit => logging (.claimDue limit) (r.queue.claimDue limit)
      tasks := r.queue.tasks
      delete := fun c ids => logging (.delete c ids) (r.queue.delete c ids)
      quarantine := fun c t reason =>
        logging (.quarantine c t reason) (r.queue.quarantine c t reason)
      commit := fun c => logging (.commit c) (r.queue.commit c)
      rollback := fun c => logging (.rollback c) (r.queue.rollback c)
      abandon := fun c l => ((logging (.abandon c) (abandoning r.queue c)).exec l).2 }
  store :=
    { statuses := fun ids => logging (.storeStatuses ids) (r.store.statuses ids)
      entities := fun ids => logging (.entities ids) (r.store.entities ids)
      updatedBetween := fun start stop =>
        logging (.updatedBetween start stop) (r.store.updatedBetween start stop) }
  index :=
    { statuses := fun ids => logging (.indexStatuses ids) (r.index.statuses ids)
      upsert := fun docs => logging (.upsert docs) (r.index.upsert docs)
      tombstone := fun ids => logging (.tombstone ids) (r.index.tombstone ids) }
  enrich := r.enrich
  registry := r.registry
  limit := r.limit

/-- What the services do for a call: the entry that is made. -/
def entry (r : Reconciler σ κ) : Call κ → σ → Entry σ κ
  | .claimDue limit => .of (.claimDue limit) (r.queue.claimDue limit)
  | .quarantine c t reason => .of (.quarantine c t reason) (r.queue.quarantine c t reason)
  | .storeStatuses ids => .of (.storeStatuses ids) (r.store.statuses ids)
  | .indexStatuses ids => .of (.indexStatuses ids) (r.index.statuses ids)
  | .entities ids => .of (.entities ids) (r.store.entities ids)
  | .updatedBetween start stop =>
    .of (.updatedBetween start stop) (r.store.updatedBetween start stop)
  | .upsert docs => .of (.upsert docs) (r.index.upsert docs)
  | .tombstone ids => .of (.tombstone ids) (r.index.tombstone ids)
  | .delete c ids => .of (.delete c ids) (r.queue.delete c ids)
  | .commit c => .of (.commit c) (r.queue.commit c)
  | .rollback c => .of (.rollback c) (r.queue.rollback c)
  | .abandon c => .of (.abandon c) (abandoning r.queue c)

@[simp] theorem entry_call (r : Reconciler σ κ) (c : Call κ) (s : σ) : (r.entry c s).call = c := by
  cases c with
  | _ => rfl

@[simp] theorem entry_before (r : Reconciler σ κ) (c : Call κ) (s : σ) :
    (r.entry c s).before = s := by
  cases c with
  | _ => rfl

/-- Entries that follow one upon another, from a state to a state. -/
inductive Chain (r : Reconciler σ κ) : σ → List (Entry σ κ) → σ → Prop
  | nil (s : σ) : Chain r s [] s
  | cons {s s' : σ} {c : Call κ} {es : List (Entry σ κ)} (h : Chain r (r.entry c s).after es s') :
      Chain r s (r.entry c s :: es) s'

namespace Chain

variable {r : Reconciler σ κ} {s s' s'' : σ} {es es' : List (Entry σ κ)}

theorem one (c : Call κ) (s : σ) : Chain r s [r.entry c s] (r.entry c s).after := .cons (.nil _)

theorem append (h : Chain r s es s') (h' : Chain r s' es' s'') : Chain r s (es ++ es') s'' := by
  induction h with
  | nil s => exact h'
  | cons _ ih => exact .cons (ih h')

/-- Every entry is that of its call. -/
theorem eq_entry (h : Chain r s es s') {e : Entry σ κ} (he : e ∈ es) :
    e = r.entry e.call e.before := by
  induction h with
  | nil s => cases he
  | cons _ ih =>
      rcases List.mem_cons.mp he with rfl | he
      · rw [entry_call, entry_before]
      · exact ih he

end Chain

/-- An action over services that keep a journal does the same as one over the services, and writes
down the given entries. -/
structure Logs (r : Reconciler σ κ) (a' : Action (Logged σ κ) α) (a : Action σ α) (s : σ)
    (es : List (Entry σ κ)) : Prop where
  exec : ∀ past, a'.exec ⟨s, past⟩ = ((a.exec s).1, ⟨(a.exec s).2, past ++ es⟩)
  chain : Chain r s es (a.exec s).2

/-- The same, where what is written down fits the outcome. -/
def Keeps (r : Reconciler σ κ) (post : Except Error α → List (Entry σ κ) → Prop)
    (a' : Action (Logged σ κ) α) (a : Action σ α) (s : σ) : Prop :=
  ∃ es, Logs r a' a s es ∧ post (a.exec s).1 es

namespace Keeps

variable {r : Reconciler σ κ} {s : σ} {post : Except Error α → List (Entry σ κ) → Prop}
  {a' : Action (Logged σ κ) α} {a : Action σ α}

theorem mono {post' : Except Error α → List (Entry σ κ) → Prop} (h : Keeps r post a' a s)
    (himp : ∀ x es, post x es → post' x es) : Keeps r post' a' a s := by
  obtain ⟨es, hlogs, hpost⟩ := h
  exact ⟨es, hlogs, himp _ _ hpost⟩

theorem value {a : α} (h : post (.ok a) []) (s : σ) : Keeps r post (pure a) (pure a) s := by
  refine ⟨[], ⟨fun past => ?_, .nil s⟩, h⟩
  rw [List.append_nil]
  rfl

theorem thrown {e : Error} (h : post (.error e) []) (s : σ) : Keeps r post (throw e) (throw e) s := by
  refine ⟨[], ⟨fun past => ?_, .nil s⟩, h⟩
  rw [List.append_nil]
  rfl

/-- One call is one entry. -/
theorem call {c : Call κ} (hentry : ∀ s, r.entry c s = .of c a s) (s : σ) :
    Keeps r (fun x es => x = (a.exec s).1 ∧ ∃ e, es = [e] ∧ e.call = c ∧ e.failure = failure? x)
      (logging c a) a s := by
  have hchain : Chain r s [r.entry c s] (r.entry c s).after := .one c s
  rw [hentry] at hchain
  exact ⟨[.of c a s], ⟨fun past => rfl, hchain⟩, rfl, .of c a s, rfl, rfl, rfl⟩

/-- **Sequencing.**  What the second action writes down comes after what the first did. -/
theorem bind {f' : α → Action (Logged σ κ) β} {f : α → Action σ β}
    {post' : Except Error β → List (Entry σ κ) → Prop} (h : Keeps r post a' a s)
    (herror : ∀ e es, post (.error e) es → post' (.error e) es)
    (hok : ∀ x s' es, a.exec s = (.ok x, s') → post (.ok x) es →
      Keeps r (fun y es' => post' y (es ++ es')) (f' x) (f x) s') :
    Keeps r post' (a' >>= f') (a >>= f) s := by
  obtain ⟨es, hlogs, hpost⟩ := h
  rcases ha : a.exec s with ⟨e | x, s'⟩
  · rw [ha] at hpost
    refine ⟨es, ⟨fun past => ?_, ?_⟩, ?_⟩
    · have hexec := hlogs.exec past
      rw [ha] at hexec
      rw [Action.exec_bind_error hexec, Action.exec_bind_error ha]
    · have hchain := hlogs.chain
      rw [ha] at hchain
      rwa [Action.exec_bind_error ha]
    · rw [Action.exec_bind_error ha]
      exact herror e es hpost
  · rw [ha] at hpost
    obtain ⟨es', hlogs', hpost'⟩ := hok x s' es ha hpost
    refine ⟨es ++ es', ⟨fun past => ?_, ?_⟩, ?_⟩
    · have hexec := hlogs.exec past
      rw [ha] at hexec
      rw [Action.exec_bind_ok hexec, Action.exec_bind_ok ha, hlogs'.exec, List.append_assoc]
    · have hchain := hlogs.chain
      rw [ha] at hchain
      rw [Action.exec_bind_ok ha]
      exact hchain.append hlogs'.chain
    · rw [Action.exec_bind_ok ha]
      exact hpost'

/-- An error that is given as a value was written down all the same. -/
theorem attempt (h : Keeps r post a' a s) :
    Keeps r (fun x es => ∃ o, x = .ok o ∧ post o es) a'.attempt a.attempt s := by
  obtain ⟨es, hlogs, hpost⟩ := h
  refine ⟨es, ⟨fun past => ?_, hlogs.chain⟩, _, rfl, hpost⟩
  rw [Action.exec_attempt, hlogs.exec]
  rfl

theorem attempt_bind {f' : Except Error α → Action (Logged σ κ) β} {f : Except Error α → Action σ β}
    {post' : Except Error β → List (Entry σ κ) → Prop} (h : Keeps r post a' a s)
    (hnext : ∀ o s' es, post o es →
      Keeps r (fun y es' => post' y (es ++ es')) (f' o) (f o) s') :
    Keeps r post' (a'.attempt >>= f') (a.attempt >>= f) s := by
  refine h.attempt.bind ?_ ?_
  · rintro e es ⟨o, ho, -⟩
    cases ho
  · rintro o s' es - ⟨o', ho', ho⟩
    obtain rfl := Except.ok.inj ho'
    exact hnext o s' es ho

end Keeps

/-! ### The work of a tick -/

/-- The entries are of one kind, and there are failures only if there is no value. -/
def Only (kind : Call κ → Bool) (x : Except Error α) (es : List (Entry σ κ)) : Prop :=
  ∀ e ∈ es, kind e.call = true ∧ (failure? x = none → e.failure = none)

theorem Only.nil {kind : Call κ → Bool} (x : Except Error α) : Only (σ := σ) kind x [] :=
  fun _ he => absurd he List.not_mem_nil

theorem Only.append {kind : Call κ → Bool} {x : α} {y : Except Error β} {es es' : List (Entry σ κ)}
    (h : Only kind (.ok x) es) (h' : Only kind y es') : Only kind y (es ++ es') := by
  intro e he
  rcases List.mem_append.mp he with he | he
  · exact ⟨(h e he).1, fun _ => (h e he).2 rfl⟩
  · exact h' e he

section Work

variable (r : Reconciler σ κ)

theorem keeps_indexing {a : Action σ α} {c : Call κ} (hentry : ∀ s, r.entry c s = .of c a s)
    (hkind : c.isIndexing = true) (s : σ) : Keeps r (Only Call.isIndexing) (logging c a) a s := by
  refine (Keeps.call hentry s).mono ?_
  rintro x es ⟨-, e, rfl, rfl, hfailure⟩ e' he'
  rw [List.mem_singleton.mp he']
  exact ⟨hkind, hfailure.trans⟩

/-- Bringing entities up to date makes calls for just that. -/
theorem keeps_write (p : Plan) (s : σ) :
    Keeps r (Only Call.isIndexing) (write r.logged.index p) (write r.index p) s := by
  have hdocs : Keeps r (Only Call.isIndexing)
      (if !p.documents.isEmpty then r.logged.index.upsert p.documents else pure ())
      (if !p.documents.isEmpty then r.index.upsert p.documents else pure ()) s := by
    split
    · exact keeps_indexing r (c := .upsert p.documents) (fun _ => rfl) rfl s
    · exact .value (.nil _) s
  have htombs : ∀ s, Keeps r (Only Call.isIndexing)
      (if !p.tombstoned.isEmpty then r.logged.index.tombstone p.tombstoned else pure ())
      (if !p.tombstoned.isEmpty then r.index.tombstone p.tombstoned else pure ()) s := by
    intro s
    split
    · exact keeps_indexing r (c := .tombstone p.tombstoned) (fun _ => rfl) rfl s
    · exact .value (.nil _) s
  have hall := hdocs.bind (fun _ _ => id) fun _ s' es _ hes =>
    (htombs s').mono fun _ _ => hes.append
  rw [write, write]
  convert hall using 1
  · split
    · rfl
    · rfl
  · split
    · rfl
    · rfl

theorem keeps_run (todo : List EntityId) (s : σ) :
    Keeps r (Only Call.isIndexing) (run r.logged.store r.logged.index r.enrich todo)
      (run r.store r.index r.enrich todo) s := by
  rw [run, run]
  split
  · exact .value (.nil _) s
  · refine (keeps_indexing r (c := .entities _) (fun _ => rfl) rfl s).bind (fun _ _ => id)
      fun entities s' es _ hes => ?_
    refine (keeps_write r _ s').bind (fun _ _ => hes.append) fun _ s'' es' _ hes' => ?_
    exact .value (hes.append (hes'.append (.nil _))) s''

/-- A task was set aside. -/
def SetsAside (p : Task × String) (e : Entry σ κ) : Prop :=
  (∃ c, e.call = .quarantine c p.1 p.2) ∧ e.failure = none

theorem done_of_setsAside {bad : List (Task × String)} {es : List (Entry σ κ)}
    (h : List.Forall₂ SetsAside bad es) : ∀ e ∈ es, e.call.isWork = true ∧ e.failure = none := by
  induction h with
  | nil => exact fun _ he => absurd he List.not_mem_nil
  | cons haside _ ih =>
      obtain ⟨⟨c, hcall⟩, hfailure⟩ := haside
      refine List.forall_mem_cons.mpr ⟨⟨?_, hfailure⟩, ih⟩
      rw [hcall]
      rfl

/-- Setting tasks aside is one call for each of them, up to the first that fails. -/
theorem keeps_setAside (c : κ) (bad : List (Task × String)) (s : σ) :
    Keeps r (fun x es => (∀ e ∈ es, e.call.isWork = true) ∧
        (failure? x = none → List.Forall₂ SetsAside bad es))
      (setAside r.logged.queue c bad) (setAside r.queue c bad) s := by
  induction bad generalizing c s with
  | nil => exact .value ⟨List.forall_mem_nil _, fun _ => .nil⟩ s
  | cons p bad ih =>
      obtain ⟨t, reason⟩ := p
      refine (Keeps.call (c := .quarantine c t reason) (fun _ => rfl) s).bind ?_ ?_
      · rintro error es ⟨-, e, rfl, hcall, -⟩
        refine ⟨fun e' he' => ?_, nofun⟩
        rw [List.mem_singleton.mp he', hcall]
        rfl
      · rintro c' s' es - ⟨-, e, rfl, hcall, hfailure⟩
        refine (ih c' s').mono fun x es' ⟨hkind, haside⟩ => ⟨fun e' he' => ?_, fun hx => ?_⟩
        · rcases List.mem_cons.mp he' with rfl | he'
          · rw [hcall]
            rfl
          · exact hkind e' he'
        · exact .cons ⟨⟨c, hcall⟩, hfailure⟩ (haside hx)

variable {r}

/-- The work on a claim, done to the end: what cannot be read is set aside, the versions are read, and
then entities are brought up to date. -/
structure Work (registry : Registry) (tasks : List Task)
    (asides : List (Entry σ κ)) (store index : Entry σ κ) (writes : List (Entry σ κ)) : Prop where
  asides : List.Forall₂ SetsAside (malformed registry tasks) asides
  store : store.call = .storeStatuses (referenced (references registry tasks)) ∧
    store.failure = none
  index : index.call = .indexStatuses (referenced (references registry tasks)) ∧
    index.failure = none
  writes : ∀ e ∈ writes, e.call.isIndexing = true ∧ e.failure = none

/-- Every call of it succeeded. -/
theorem Work.done {registry : Registry} {tasks : List Task} {asides writes : List (Entry σ κ)}
    {store index : Entry σ κ} (h : Work registry tasks asides store index writes) :
    ∀ e ∈ asides ++ store :: index :: writes, e.call.isWork = true ∧ e.failure = none := by
  refine List.forall_mem_append.mpr ⟨done_of_setsAside h.asides, ?_⟩
  rw [List.forall_mem_cons, List.forall_mem_cons, h.store.1, h.index.1]
  exact ⟨⟨rfl, h.store.2⟩, ⟨rfl, h.index.2⟩,
    fun e he => ⟨Call.isWork_of_isIndexing (h.writes e he).1, (h.writes e he).2⟩⟩

/-- What is written down for the work on a claim. -/
def Resolved (registry : Registry) (tasks : List Task) (x : Except Error (κ × Report))
    (es : List (Entry σ κ)) : Prop :=
  match x with
  | .error _ => ∀ e ∈ es, e.call.isWork = true
  | .ok (_, report) =>
    report.claimed = tasks.length ∧ ∃ asides store index writes,
      es = asides ++ store :: index :: writes ∧ Work registry tasks asides store index writes

/-- The work on a claim makes these calls and no others. -/
theorem keeps_resolve (r : Reconciler σ κ) (c : κ) (tasks : List Task) (s : σ) :
    Keeps r (Resolved r.registry tasks) (r.logged.resolve c tasks) (r.resolve c tasks) s := by
  rw [resolve, resolve]
  refine (keeps_setAside r c _ s).bind (fun e es h => h.1) ?_
  rintro c' s₁ asides - ⟨haside, hall⟩
  refine (Keeps.call (c := .storeStatuses _) (fun _ => rfl) s₁).bind ?_ ?_
  · rintro error _ ⟨-, store, rfl, hstore, -⟩
    exact List.forall_mem_append.mpr ⟨haside, by simp [hstore, Call.isWork]⟩
  rintro primary s₂ _ - ⟨-, store, rfl, hstore⟩
  refine (Keeps.call (c := .indexStatuses _) (fun _ => rfl) s₂).bind ?_ ?_
  · rintro error _ ⟨-, index, rfl, hindex, -⟩
    exact List.forall_mem_append.mpr ⟨haside, by simp [hstore.1, hindex, Call.isWork]⟩
  rintro held s₃ _ - ⟨-, index, rfl, hindex⟩
  -- what is left is to bring entities up to date
  have hdone : ∀ (report : Report) (writes : List (Entry σ κ)), report.claimed = tasks.length →
      Only Call.isIndexing (.ok ()) writes →
      Resolved r.registry tasks (.ok (c', report)) (asides ++ ([store] ++ ([index] ++ writes))) :=
    fun report writes hclaimed hwrites => ⟨hclaimed, asides, store, index, writes, rfl, hall rfl,
      hstore, hindex, fun e he => ⟨(hwrites e he).1, (hwrites e he).2 rfl⟩⟩
  let todo := stale (references r.registry tasks) (classify primary held)
  show Keeps r _ (if !todo.isEmpty then _ else _) (if !todo.isEmpty then _ else _) s₃
  split
  · refine (keeps_run r todo s₃).bind ?_ ?_
    · intro error writes hwrites
      refine List.forall_mem_append.mpr ⟨haside, ?_⟩
      have hwork : ∀ e ∈ writes, e.call.isWork = true :=
        fun e he => Call.isWork_of_isIndexing (hwrites e he).1
      simpa [hstore.1, hindex.1, Call.isWork] using hwork
    · intro outcome s₄ writes _ hwrites
      refine .value ?_ s₄
      rw [List.append_nil]
      exact hdone _ writes rfl hwrites
  · exact .value (hdone _ [] rfl (.nil _)) s₃

end Work

/-! ### The courses of a tick -/

/-- Tasks were claimed. -/
structure Claims (r : Reconciler σ κ) (s : σ) (first : Entry σ κ) (c : κ) : Prop where
  call : first.call = .claimDue r.limit
  claimed : ((r.queue.claimDue r.limit).exec s).1 = .ok c

/-- What a tick comes to that got as far as its commit. -/
def committed (report : Report) : Option Error → Except Error Report
  | none => .ok report
  | some e => .error e

/-- The courses that a tick can take: its outcome, and the calls it makes. -/
inductive Course (r : Reconciler σ κ) (s : σ) : Except Error Report → List (Entry σ κ) → Prop
  /-- Nothing could be claimed. -/
  | unclaimed {first : Entry σ κ} {e : Error} (hcall : first.call = .claimDue r.limit)
      (hclaim : ((r.queue.claimDue r.limit).exec s).1 = .error e) :
      Course r s (.error e) [first]
  /-- There was nothing to claim. -/
  | idle {first last : Entry σ κ} {c : κ} (hclaim : Claims r s first c)
      (hnone : r.queue.tasks c = []) (hlast : last.call = .abandon c) :
      Course r s (.ok .idle) [first, last]
  /-- The work on the claim failed. -/
  | failed {first last : Entry σ κ} {work : List (Entry σ κ)} {c : κ} {e : Error}
      (hclaim : Claims r s first c) (hsome : r.queue.tasks c ≠ [])
      (hwork : ∀ e ∈ work, e.call.isWork = true) (hlast : last.call = .rollback c) :
      Course r s (.error e) (first :: (work ++ [last]))
  /-- The tasks could not be deleted. -/
  | undeleted {first store index deletion last : Entry σ κ} {asides writes : List (Entry σ κ)}
      {c asked : κ} {e : Error} (hclaim : Claims r s first c) (hsome : r.queue.tasks c ≠ [])
      (hwork : Work r.registry (r.queue.tasks c) asides store index writes)
      (hdeletion : deletion.call
        = .delete asked ((references r.registry (r.queue.tasks c)).map Prod.fst))
      (hfailure : deletion.failure = some e) (hlast : last.call = .abandon asked) :
      Course r s (.error e) (first :: (asides ++ store :: index :: writes ++ [deletion, last]))
  /-- All was done, and the claim committed or not. -/
  | ended {first store index deletion last : Entry σ κ} {asides writes : List (Entry σ κ)}
      {c asked ready : κ} {report : Report} (hclaim : Claims r s first c)
      (hsome : r.queue.tasks c ≠ [])
      (hwork : Work r.registry (r.queue.tasks c) asides store index writes)
      (hdeletion : deletion.call
        = .delete asked ((references r.registry (r.queue.tasks c)).map Prod.fst))
      (hdeleted : deletion.failure = none) (hlast : last.call = .commit ready)
      (hclaimed : report.claimed = (r.queue.tasks c).length) :
      Course r s (committed report last.failure)
        (first :: (asides ++ store :: index :: writes ++ [deletion, last]))

/-- Ending a claim that nobody holds any more is a call that does not fail. -/
theorem keeps_abandon (r : Reconciler σ κ) (c : κ) (s : σ) :
    Keeps r (fun x es => x = .ok () ∧ ∃ e, es = [e] ∧ e.call = .abandon c)
      (abandoning r.logged.queue c) (abandoning r.queue c) s := by
  refine (Keeps.call (c := .abandon c) (a := abandoning r.queue c) (fun _ => rfl) s).mono ?_
  rintro x es ⟨hx, e, hes, hcall, -⟩
  exact ⟨hx, e, hes, hcall⟩

/-- Deleting the tasks ends the claim if it fails. -/
theorem keeps_delete (r : Reconciler σ κ) (asked : κ) (ids : List TaskId) (s : σ) :
    Keeps r (fun x es => ∃ deletion rest, es = deletion :: rest ∧
        deletion.call = .delete asked ids ∧ deletion.failure = failure? x ∧
        match x with
        | .ok _ => rest = []
        | .error _ => ∃ last, rest = [last] ∧ last.call = .abandon asked)
      (orAbandon r.logged.queue asked (r.logged.queue.delete asked ids))
      (orAbandon r.queue asked (r.queue.delete asked ids)) s := by
  rw [orAbandon, orAbandon]
  refine (Keeps.call (c := .delete asked ids) (fun _ => rfl) s).attempt_bind ?_
  rintro o s₁ _ ⟨-, deletion, rfl, hcall, hfailure⟩
  cases o with
  | ok ready => exact .value ⟨deletion, [], rfl, hcall, hfailure, rfl⟩ s₁
  | error e =>
      refine (keeps_abandon r asked s₁).bind ?_ ?_
      · rintro e' es ⟨h, -⟩
        cases h
      · rintro _ s₂ _ - ⟨-, last, rfl, hlast⟩
        exact .thrown ⟨deletion, [last], rfl, hcall, hfailure, last, rfl, hlast⟩ s₂

/-- **The courses of a tick.**  Whatever the services answer, a tick takes one of them. -/
theorem keeps_tick (r : Reconciler σ κ) (s : σ) : Keeps r (Course r s) r.logged.tick r.tick s := by
  rw [tick, tick]
  refine (Keeps.call (c := .claimDue r.limit) (fun _ => rfl) s).bind ?_ ?_
  · rintro e _ ⟨herror, first, rfl, hcall, -⟩
    exact .unclaimed hcall herror.symm
  rintro c s₁ _ hc ⟨-, first, rfl, hcall, -⟩
  have hclaim : Claims r s first c := ⟨hcall, congrArg Prod.fst hc⟩
  show Keeps r _ (if (r.queue.tasks c).isEmpty then _ else _)
    (if (r.queue.tasks c).isEmpty then _ else _) s₁
  split
  · rename_i hempty
    refine (keeps_abandon r c s₁).bind ?_ ?_
    · rintro e es ⟨h, -⟩
      cases h
    · rintro _ s₂ _ - ⟨-, last, rfl, hlast⟩
      exact .value (.idle hclaim (List.isEmpty_iff.mp hempty) hlast) s₂
  · rename_i hempty
    have hsome : r.queue.tasks c ≠ [] := fun hnil => hempty (List.isEmpty_iff.mpr hnil)
    refine (keeps_resolve r c (r.queue.tasks c) s₁).attempt_bind ?_
    intro o s₂ es hes
    cases o with
    | error e =>
        refine (Keeps.call (c := .rollback c) (fun _ => rfl) s₂).attempt_bind ?_
        rintro o' s₃ _ ⟨-, last, rfl, hlast, -⟩
        exact .thrown (.failed hclaim hsome hes hlast) s₃
    | ok done =>
        obtain ⟨asked, report⟩ := done
        obtain ⟨hclaimed, asides, store, index, writes, rfl, hwork⟩ := hes
        refine (keeps_delete r asked _ s₂).bind ?_ ?_
        · rintro e _ ⟨deletion, _, rfl, hdeletion, hfailure, last, rfl, hlast⟩
          exact .undeleted hclaim hsome hwork hdeletion hfailure hlast
        · rintro ready s₃ _ - ⟨deletion, _, rfl, hdeletion, hdeleted, rfl⟩
          have hended : ∀ {last : Entry σ κ} {x : Except Error Report}, last.call = .commit ready →
              committed report last.failure = x → Course r s x
                (first :: (asides ++ store :: index :: writes ++ [deletion, last])) := by
            rintro last _ hlast rfl
            exact .ended hclaim hsome hwork hdeletion hdeleted hlast hclaimed
          refine (Keeps.call (c := .commit ready) (fun _ => rfl) s₃).bind ?_ ?_
          · rintro e _ ⟨-, last, rfl, hlast, hfailure⟩
            exact hended hlast (congrArg (committed report) hfailure)
          · rintro _ s₄ _ - ⟨-, last, rfl, hlast, hfailure⟩
            exact .value (hended hlast (congrArg (committed report) hfailure)) s₄

/-- **A failure of the work is the failure of the tick.**  Nothing is committed then. -/
theorem Course.uncommitted {r : Reconciler σ κ} {s : σ} {x : Except Error Report}
    {es : List (Entry σ κ)} (h : Course r s x es) {e : Entry σ κ} (he : e ∈ es)
    (hwork : e.call.isWork = true) (hfailure : e.failure ≠ none) :
    (∀ e' ∈ es, ∀ c, e'.call ≠ .commit c) ∧ ∃ error, x = .error error := by
  cases h with
  | unclaimed hcall hclaim =>
      rw [List.mem_singleton.mp he, hcall] at hwork
      cases hwork
  | idle hclaim hnone hlast =>
      rcases List.mem_cons.mp he with rfl | he
      · rw [hclaim.call] at hwork
        cases hwork
      · rw [List.mem_singleton.mp he, hlast] at hwork
        cases hwork
  | failed hclaim hsome hall hlast =>
      refine ⟨?_, _, rfl⟩
      rw [List.forall_mem_cons, List.forall_mem_append, List.forall_mem_singleton, hclaim.call, hlast]
      refine ⟨fun c h => (by cases h), fun e' he' c hcommit => ?_, fun c h => (by cases h)⟩
      have hwork' := hall e' he'
      rw [hcommit] at hwork'
      cases hwork'
  | undeleted hclaim hsome hdone hdeletion hdeleted hlast =>
      refine ⟨?_, _, rfl⟩
      rw [List.forall_mem_cons, List.forall_mem_append, List.forall_mem_cons,
        List.forall_mem_singleton, hclaim.call, hdeletion, hlast]
      refine ⟨fun c h => (by cases h), fun e' he' c hcommit => ?_, fun c h => (by cases h),
        fun c h => (by cases h)⟩
      have hwork' := (hdone.done e' he').1
      rw [hcommit] at hwork'
      cases hwork'
  | ended hclaim hsome hdone hdeletion hdeleted hlast hclaimed =>
      -- then everything has succeeded
      rcases List.mem_cons.mp he with rfl | he
      · rw [hclaim.call] at hwork
        cases hwork
      rcases List.mem_append.mp he with he | he
      · exact absurd (hdone.done e he).2 hfailure
      rcases List.mem_cons.mp he with rfl | he
      · exact absurd hdeleted hfailure
      · rw [List.mem_singleton.mp he, hlast] at hwork
        cases hwork

/-- The journal of a tick. -/
def journal (r : Reconciler σ κ) (s : σ) : List (Entry σ κ) :=
  (r.logged.tick.exec ⟨s, []⟩).2.entries

/-- **Keeping a journal changes nothing.**  The tick has the same outcome, and leaves the services in
the same state; and the journal is one of the courses of a tick, from state to state. -/
theorem journal_spec (r : Reconciler σ κ) (s : σ) :
    r.logged.tick.exec ⟨s, []⟩ = ((r.tick.exec s).1, ⟨(r.tick.exec s).2, r.journal s⟩) ∧
      Chain r s (r.journal s) (r.tick.exec s).2 ∧ Course r s (r.tick.exec s).1 (r.journal s) := by
  obtain ⟨es, hlogs, hcourse⟩ := keeps_tick r s
  have hjournal : r.journal s = es := by
    rw [journal, hlogs.exec]
    rfl
  rw [hjournal, hlogs.exec]
  exact ⟨rfl, hlogs.chain, hcourse⟩

end Outbox.Reconciler
