import Mathlib.Data.List.Forall2
import Outbox.Proofs.Database.Column
import Outbox.Proofs.Reconciler.Journal
import Outbox.Search.Client
import Outbox.Session.World

/-!
# The discipline of a commit

A tick over the queue and the store of a database, and over an index that is reached by requests.
Whatever any of them answers, and wherever one of them fails, the transaction of the claim is
committed only after everything that the tick was to do has succeeded, and it does not stay open.

* `spoken` — what was exchanged with the database during one call;
* `served` — what that is for each kind of call;
* `commit_discipline` — what holds of the journal of every tick.
-/

namespace Outbox.Session

open Outbox.Database Outbox.Reconciler

variable {ι : Type}

/-- The exchanges with the database during a call. -/
def spoken (e : Entry (World ι) Claim) : List Exchange :=
  (World.scriptPart.get e.before).since (World.scriptPart.get e.after)

/-- All of them during a tick. -/
def heard (journal : List (Entry (World ι) Claim)) : List Exchange := journal.flatMap spoken

/-! ### What a commit is preceded by -/

/-- What precedes the commit of a claim on some tasks. -/
structure Earned (registry : Registry) (limit : Int) (tasks : List Task)
    (first : Entry (World ι) Claim) (asides : List (Entry (World ι) Claim))
    (store index : Entry (World ι) Claim) (writes : List (Entry (World ι) Claim))
    (deletion : Entry (World ι) Claim) : Prop where
  /-- There were rows to claim. -/
  claimed : ∃ rows, rows ≠ [] ∧ rows.mapM Queue.taskOfRow = .ok tasks ∧
    spoken first = [⟨.begin, .ok []⟩, ⟨.claimDue (max limit 0), .ok rows⟩]
  /-- Each task that cannot be read was inserted among the dead letters and deleted, in order. -/
  setAside : List.Forall₂ (fun p e => ∃ inserted deleted,
      spoken e = [⟨.insertDeadLetter p.1 p.2, .ok inserted⟩, ⟨.deleteTask p.1.id, .ok deleted⟩])
    (malformed registry tasks) asides
  /-- Versions were read, and everything was written. -/
  work : Work registry tasks asides store index writes
  /-- The tasks that can be read were deleted; where there are none, nothing was sent. -/
  deleted : let ids := (references registry tasks).map Prod.fst
    if ids = [] then spoken deletion = []
    else ∃ rows, spoken deletion = [⟨.deleteTasks ids, .ok rows⟩]

/-- What holds of the exchanges of a tick from one world to another. -/
structure Disciplined (registry : Registry) (limit : Int) (w w' : World ι)
    (outcome : Except Error Report) (journal : List (Entry (World ι) Claim)) : Prop where
  /-- They are all the exchanges that took place. -/
  all : heard journal = (World.scriptPart.get w).since (World.scriptPart.get w')
  once : (heard journal).countP (fun x => x.statement = .commit) ≤ 1
  /-- A commit comes last, and after everything that it takes. -/
  earned : ∀ last ∈ journal, (∃ x ∈ spoken last, x.statement = .commit) →
    ∃ tasks first asides store index writes deletion,
      journal = first :: (asides ++ store :: index :: writes ++ [deletion, last]) ∧
        Earned registry limit tasks first asides store index writes deletion
  /-- A transaction that was opened is committed or rolled back in the end. -/
  closed : (∃ x ∈ heard journal, x.statement = .begin ∧ x.Succeeded) →
    ∃ xs x, heard journal = xs ++ [x] ∧
      (x.statement = .rollback ∨ x.statement = .commit ∧ x.Succeeded)
  done : (∃ report, outcome = .ok report ∧ 0 < report.claimed) ↔
    ∃ x ∈ heard journal, x.statement = .commit ∧ x.Succeeded
  idle : (∃ report, outcome = .ok report ∧ report.claimed = 0) ↔
    ⟨.claimDue (max limit 0), .ok []⟩ ∈ heard journal

/-! ### What is said during a call -/

/-- What is said to the database for a call that has an outcome. -/
def Served : Call Claim → Option Error → List Exchange → Prop
  | .claimDue limit, failure, xs => ∃ x, Queue.Opening limit x xs ∧ failure = failure? x
  | .quarantine _ t reason, none, xs => ∃ inserted deleted,
      xs = [⟨.insertDeadLetter t reason, .ok inserted⟩, ⟨.deleteTask t.id, .ok deleted⟩]
  | .delete _ ids, failure, xs =>
      if ids = [] then xs = []
      else ∃ answer, xs = [⟨.deleteTasks ids, answer⟩] ∧ failure = failure? answer
  | .commit _, none, xs => xs = [⟨.commit, .ok []⟩]
  | .commit _, some e, xs => ∃ answer, xs = [⟨.commit, .error e⟩, ⟨.rollback, answer⟩]
  | .rollback _, _, xs => ∃ xs' answer, xs = xs' ++ [⟨.rollback, answer⟩] ∧
      ∀ x ∈ xs', x.statement = .rollback
  | .abandon _, _, xs => ∃ answer, xs = [⟨.rollback, answer⟩]
  | _, _, xs => ∀ x ∈ xs, x.statement.isWork = true

/-- What an action says is what is spoken while it serves a call. -/
theorem spoken_of {α : Type} {post : Except Error α → List Exchange → Prop}
    {a : Action (World ι) α} {w : World ι} (h : Says World.scriptPart.get post a w)
    (c : Call Claim) :
    let e : Entry (World ι) Claim := .of c a w
    Talks (World.scriptPart.get e.before) (spoken e) (World.scriptPart.get e.after) ∧
      post (a.exec w).1 (spoken e) := by
  obtain ⟨xs, htalks, hpost⟩ := h
  have hspoken : spoken (.of c a w : Entry (World ι) Claim) = xs := htalks.since_eq
  intro e
  rw [hspoken]
  exact ⟨htalks, hpost⟩

/-- What the queue says over a script, it says over the script of a session. -/
theorem says_onScript {α : Type} {post : Except Error α → List Exchange → Prop} {a : Action Script α}
    (h : ∀ s, Says id post a s) (w : World ι) :
    Says World.scriptPart.get post (a.within World.scriptPart) w :=
  (h (World.scriptPart.get w)).within w rfl fun _ => rfl

variable (s : Setup ι)

/-- **What is said during a call.** -/
theorem served (c : Call Claim) (w : World ι) :
    Talks (World.scriptPart.get w) (spoken (s.reconciler.entry c w))
        (World.scriptPart.get (s.reconciler.entry c w).after) ∧
      Served c (s.reconciler.entry c w).failure (spoken (s.reconciler.entry c w)) := by
  cases c with
  | claimDue limit =>
      obtain ⟨htalks, hsaid⟩ :=
        spoken_of (says_onScript (Queue.says_claimDue limit) w) (.claimDue limit)
      exact ⟨htalks, _, hsaid, rfl⟩
  | quarantine c t reason =>
      have hsays : ∀ s, Says id (fun x xs => Served (.quarantine c t reason) (failure? x) xs)
          (Queue.backend.quarantine c t reason) s := fun s =>
        (Queue.says_quarantine t reason s).map fun x xs h => by
          cases x with
          | ok u => exact h
          | error e => exact h
      exact spoken_of (says_onScript hsays w) (.quarantine c t reason)
  | storeStatuses ids =>
      have hsays : Says World.scriptPart.get Store.Reads (s.reconciler.store.statuses ids) w :=
        (Store.reads_statuses s.table ids w.connection).within w rfl fun _ => rfl
      exact spoken_of hsays (.storeStatuses ids)
  | indexStatuses ids =>
      have hsays : Says World.scriptPart.get Store.Reads (s.reconciler.index.statuses ids) w :=
        .silent rfl (.nil _)
      exact spoken_of hsays (.indexStatuses ids)
  | entities ids =>
      have hsays : Says World.scriptPart.get Store.Reads (s.reconciler.store.entities ids) w :=
        (Store.reads_entities s.table ids w.connection).within w rfl fun _ => rfl
      exact spoken_of hsays (.entities ids)
  | updatedBetween start stop =>
      have hsays : Says World.scriptPart.get Store.Reads
          (s.reconciler.store.updatedBetween start stop) w :=
        (Store.reads_updatedBetween s.table start stop w.connection).within w rfl fun _ => rfl
      exact spoken_of hsays (.updatedBetween start stop)
  | upsert docs =>
      have hsays : Says World.scriptPart.get Store.Reads (s.reconciler.index.upsert docs) w :=
        .silent rfl (.nil _)
      exact spoken_of hsays (.upsert docs)
  | tombstone ids =>
      have hsays : Says World.scriptPart.get Store.Reads (s.reconciler.index.tombstone ids) w :=
        .silent rfl (.nil _)
      exact spoken_of hsays (.tombstone ids)
  | delete c ids =>
      have hsays : ∀ s, Says id (fun x xs => Served (.delete c ids) (failure? x) xs)
          (Queue.backend.delete c ids) s := by
        refine fun s => (Queue.says_delete ids s).map fun x xs h => ?_
        rw [Served]
        by_cases hnone : ids = []
        · rw [if_pos hnone] at h ⊢
          exact h
        · rw [if_neg hnone] at h ⊢
          obtain ⟨answer, rfl, rfl⟩ := h
          cases answer with
          | ok rows => exact ⟨_, rfl, rfl⟩
          | error e => exact ⟨_, rfl, rfl⟩
      exact spoken_of (says_onScript hsays w) (.delete c ids)
  | commit c =>
      have hsays : ∀ s, Says id (fun x xs => Served (.commit c) (failure? x) xs) Script.commit s := by
        refine fun s => (says_finish .commit rfl s).mono fun x xs h => ?_
        cases x with
        | ok u => exact h
        | error e => exact h
      exact spoken_of (says_onScript hsays w) (.commit c)
  | rollback c =>
      have hsays : ∀ s, Says id (fun x xs => Served (.rollback c) (failure? x) xs)
          Script.rollback s := by
        refine fun s => (says_finish .rollback rfl s).mono fun x xs h => ?_
        cases x with
        | ok u =>
            subst h
            exact ⟨[], .ok [], rfl, List.forall_mem_nil _⟩
        | error e =>
            obtain ⟨answer, rfl⟩ := h
            exact ⟨[⟨.rollback, .error e⟩], answer, rfl, List.forall_mem_singleton.mpr rfl⟩
      exact spoken_of (says_onScript hsays w) (.rollback c)
  | abandon c =>
      obtain ⟨answer, htalks⟩ := talks_abandon (World.scriptPart.get w)
      have hsays : Says World.scriptPart.get
          (fun x xs => Served (.abandon c) (failure? x) xs) (abandoning s.reconciler.queue c) w :=
        ⟨_, htalks, answer, rfl⟩
      exact spoken_of hsays (.abandon c)

/-! ### What is said during a tick -/

variable {s : Setup ι} {w w' : World ι} {es : List (Entry (World ι) Claim)}

theorem served_of_chain (h : Chain s.reconciler w es w') {e : Entry (World ι) Claim} (he : e ∈ es) :
    Served e.call e.failure (spoken e) := by
  have hserved := (served s e.call e.before).2
  rwa [← h.eq_entry he] at hserved

/-- What is said during the last call of several. -/
theorem served_last {first last : Entry (World ι) Claim} {middle : List (Entry (World ι) Claim)}
    (h : Chain s.reconciler w (first :: (middle ++ [last])) w') :
    Served last.call last.failure (spoken last) :=
  served_of_chain h (List.mem_cons_of_mem first (List.mem_append_right middle
    (List.mem_singleton_self last)))

/-- What is heard during a tick is all that was exchanged. -/
theorem talks_of_chain (h : Chain s.reconciler w es w') :
    Talks (World.scriptPart.get w) (heard es) (World.scriptPart.get w') := by
  induction h with
  | nil w => exact .nil _
  | cons _ ih => exact (served s _ _).1.append ih

/-- The work on a claim neither opens nor ends a transaction. -/
theorem Served.isWork {c : Call Claim} {failure : Option Error} {xs : List Exchange}
    (h : Served c failure xs) (hcall : c.isWork = true ∨ ∃ c' ids, c = .delete c' ids) :
    ∀ x ∈ xs, x.statement.isWork = true := by
  cases c with
  | quarantine c t reason =>
      cases failure with
      | none =>
          obtain ⟨inserted, deleted, rfl⟩ := h
          exact List.forall_mem_cons.mpr ⟨rfl, List.forall_mem_singleton.mpr rfl⟩
      | some e => exact h
  | delete c ids =>
      rw [Served] at h
      split at h
      · rw [h]
        exact fun x hx => absurd hx List.not_mem_nil
      · obtain ⟨answer, rfl, -⟩ := h
        exact List.forall_mem_singleton.mpr rfl
  | storeStatuses ids | indexStatuses ids | entities ids | upsert docs | tombstone ids
  | updatedBetween start stop => exact h
  | claimDue limit | commit c | rollback c | abandon c =>
      rcases hcall with hcall | ⟨_, _, hcall⟩
      · cases hcall
      · cases hcall

/-- Rows are read one by one. -/
theorem tasks_eq_nil_iff {rows : List Row} {tasks : List Task}
    (h : rows.mapM Queue.taskOfRow = .ok tasks) : tasks = [] ↔ rows = [] := by
  cases rows with
  | nil =>
      cases h
      exact ⟨fun _ => rfl, fun _ => rfl⟩
  | cons row rows =>
      refine ⟨fun hnil => ?_, nofun⟩
      rw [List.mapM_cons, hnil] at h
      cases hrow : Queue.taskOfRow row with
      | error e =>
          rw [hrow] at h
          cases h
      | ok t =>
          rw [hrow] at h
          cases hrows : rows.mapM Queue.taskOfRow with
          | error e =>
              rw [hrows] at h
              cases h
          | ok ts =>
              rw [hrows] at h
              cases h

/-- A claim begins a tick with a transaction and a query. -/
theorem opening_of_chain {first : Entry (World ι) Claim} (h : Chain s.reconciler w (first :: es) w')
    (hcall : first.call = .claimDue s.limit) :
    Queue.Opening s.limit ((s.reconciler.queue.claimDue s.limit).exec w).1 (spoken first) := by
  have hfirst : first = s.reconciler.entry (.claimDue s.limit) w := by
    cases h
    rw [entry_call] at hcall
    rw [hcall]
  rw [hfirst]
  exact (spoken_of (says_onScript (Queue.says_claimDue s.limit) w) (.claimDue s.limit)).2

theorem spoken_of_claims {first : Entry (World ι) Claim} {c : Claim}
    (h : Chain s.reconciler w (first :: es) w') (hclaim : Claims s.reconciler w first c) :
    ∃ rows, rows.mapM Queue.taskOfRow = .ok c.tasks ∧
      spoken first = [⟨.begin, .ok []⟩, ⟨.claimDue (max s.limit 0), .ok rows⟩] := by
  have hopening := opening_of_chain h hclaim.call
  have hclaimed : ((s.reconciler.queue.claimDue s.limit).exec w).1 = .ok c := hclaim.claimed
  rw [hclaimed] at hopening
  generalize spoken first = xs at hopening
  cases hopening with
  | opened hread => exact ⟨_, hread, rfl⟩

/-! ### The courses of a tick -/

/-- A tick that claimed something: its first call opens the claim, its last one ends it, and between
them it neither opens nor ends anything. -/
structure Busy (limit : Int) (journal : List (Entry (World ι) Claim)) (rows : List Row)
    (last : Entry (World ι) Claim) : Prop where
  shape : ∃ quiet, heard journal
      = ⟨.begin, .ok []⟩ :: ⟨.claimDue (max limit 0), .ok rows⟩ :: (quiet ++ spoken last) ∧
    ∀ x ∈ quiet, x.statement.isWork = true
  some : rows ≠ []

namespace Busy

variable {limit : Int} {journal : List (Entry (World ι) Claim)} {rows : List Row}
  {last : Entry (World ι) Claim}

theorem mem_last (h : Busy limit journal rows last) {x : Exchange} (hx : x ∈ heard journal)
    (hcommit : x.statement = .commit) : x ∈ spoken last := by
  obtain ⟨quiet, hheard, hquiet⟩ := h.shape
  rw [hheard] at hx
  rcases List.mem_cons.mp hx with rfl | hx
  · cases hcommit
  rcases List.mem_cons.mp hx with rfl | hx
  · cases hcommit
  rcases List.mem_append.mp hx with hx | hx
  · have hwork := hquiet x hx
    rw [hcommit] at hwork
    cases hwork
  · exact hx

theorem last_mem (h : Busy limit journal rows last) {x : Exchange} (hx : x ∈ spoken last) :
    x ∈ heard journal := by
  obtain ⟨quiet, hheard, -⟩ := h.shape
  rw [hheard]
  exact List.mem_cons_of_mem _ (List.mem_cons_of_mem _ (List.mem_append_right _ hx))

theorem countP_eq (h : Busy limit journal rows last) :
    (heard journal).countP (fun x => x.statement = .commit)
      = (spoken last).countP fun x => x.statement = .commit := by
  obtain ⟨quiet, hheard, hquiet⟩ := h.shape
  have hnone : quiet.countP (fun x => x.statement = .commit) = 0 := by
    rw [List.countP_eq_zero]
    intro x hx hcommit
    have hwork := hquiet x hx
    rw [of_decide_eq_true hcommit] at hwork
    cases hwork
  rw [hheard, List.countP_cons_of_neg (by simp),
    List.countP_cons_of_neg (by simp), List.countP_append,
    hnone, Nat.zero_add]

/-- The query for tasks does not come back empty. -/
theorem not_idle (h : Busy limit journal rows last)
    (hlast : ∀ x ∈ spoken last, x.statement ≠ .claimDue (max limit 0)) :
    (⟨.claimDue (max limit 0), .ok []⟩ : Exchange) ∉ heard journal := by
  obtain ⟨quiet, hheard, hquiet⟩ := h.shape
  rw [hheard]
  intro hx
  rcases List.mem_cons.mp hx with hx | hx
  · cases hx
  rcases List.mem_cons.mp hx with hx | hx
  · exact h.some (Except.ok.inj (Exchange.mk.inj hx).2).symm
  rcases List.mem_append.mp hx with hx | hx
  · cases hquiet _ hx
  · exact hlast _ hx rfl

theorem closed (h : Busy limit journal rows last) {xs : List Exchange} {x : Exchange}
    (hlast : spoken last = xs ++ [x]) : ∃ ys, heard journal = ys ++ [x] := by
  obtain ⟨quiet, hheard, -⟩ := h.shape
  refine ⟨⟨.begin, .ok []⟩ :: ⟨.claimDue (max limit 0), .ok rows⟩ :: (quiet ++ xs), ?_⟩
  rw [hheard, hlast]
  simp only [List.cons_append, List.append_assoc]

end Busy

/-- What comes between the first call of a tick and its last. -/
theorem quiet_of_work {registry : Registry} {tasks : List Task} {c : Claim} {ids : List TaskId}
    {store index deletion : Entry (World ι) Claim} {asides writes : List (Entry (World ι) Claim)}
    (hwork : Work registry tasks asides store index writes)
    (hdeletion : deletion.call = .delete c ids) :
    ∀ e ∈ asides ++ store :: index :: writes ++ [deletion],
      e.call.isWork = true ∨ ∃ c' ids, e.call = .delete c' ids :=
  List.forall_mem_append.mpr ⟨fun e he => .inl (hwork.done e he).1,
    List.forall_mem_singleton.mpr (.inr ⟨c, ids, hdeletion⟩)⟩

theorem append_deletion_last (asides : List (Entry (World ι) Claim))
    (store index : Entry (World ι) Claim) (writes : List (Entry (World ι) Claim))
    (deletion last : Entry (World ι) Claim) :
    asides ++ store :: index :: writes ++ [deletion, last]
      = asides ++ store :: index :: writes ++ [deletion] ++ [last] := by
  simp only [List.append_assoc, List.cons_append, List.nil_append]

/-- The shape of a tick that claimed something. -/
theorem busy {first last : Entry (World ι) Claim} {middle : List (Entry (World ι) Claim)} {c : Claim}
    (h : Chain s.reconciler w (first :: (middle ++ [last])) w')
    (hclaim : Claims s.reconciler w first c) (hsome : c.tasks ≠ [])
    (hmiddle : ∀ e ∈ middle, e.call.isWork = true ∨ ∃ c' ids, e.call = .delete c' ids) :
    ∃ rows, rows.mapM Queue.taskOfRow = .ok c.tasks ∧
      spoken first = [⟨.begin, .ok []⟩, ⟨.claimDue (max s.limit 0), .ok rows⟩] ∧
        Busy s.limit (first :: (middle ++ [last])) rows last := by
  obtain ⟨rows, hread, hfirst⟩ := spoken_of_claims h hclaim
  refine ⟨rows, hread, hfirst, ⟨heard middle, ?_, ?_⟩, (tasks_eq_nil_iff hread).not.mp hsome⟩
  · rw [heard, List.flatMap_cons, List.flatMap_append, List.flatMap_singleton, hfirst]
    rfl
  · intro x hx
    obtain ⟨e, he, hx⟩ := List.mem_flatMap.mp hx
    have hmem : e ∈ first :: (middle ++ [last]) :=
      List.mem_cons_of_mem _ (List.mem_append_left _ he)
    exact (served_of_chain h hmem).isWork (hmiddle e he) x hx

/-- A tick that sends no commit does not claim that it did anything. -/
theorem Disciplined.uncommitted {outcome : Except Error Report}
    (hall : heard es = (World.scriptPart.get w).since (World.scriptPart.get w'))
    (hnone : ∀ x ∈ heard es, x.statement ≠ .commit)
    (hclosed : (∃ x ∈ heard es, x.statement = .begin ∧ x.Succeeded) →
      ∃ xs x, heard es = xs ++ [x] ∧ x.statement = .rollback)
    (houtcome : ∀ report, outcome = .ok report → report.claimed = 0)
    (hidle : (∃ report, outcome = .ok report) ↔ ⟨.claimDue (max s.limit 0), .ok []⟩ ∈ heard es) :
    Disciplined s.registry s.limit w w' outcome es where
  all := hall
  once := by
    have hzero : (heard es).countP (fun x => x.statement = .commit) = 0 :=
      List.countP_eq_zero.mpr fun x hx => by simpa using hnone x hx
    omega
  earned last hlast := by
    rintro ⟨x, hx, hcommit⟩
    exact absurd hcommit (hnone x (List.mem_flatMap.mpr ⟨last, hlast, hx⟩))
  closed hbegin := by
    obtain ⟨xs, x, hxs, hx⟩ := hclosed hbegin
    exact ⟨xs, x, hxs, .inl hx⟩
  done := by
    constructor
    · rintro ⟨report, hreport, hpos⟩
      have hzero := houtcome report hreport
      omega
    · rintro ⟨x, hx, hcommit, -⟩
      exact absurd hcommit (hnone x hx)
  idle := by
    rw [← hidle]
    exact ⟨fun ⟨report, hreport, _⟩ => ⟨report, hreport⟩,
      fun ⟨report, hreport⟩ => ⟨report, hreport, houtcome report hreport⟩⟩

/-- A tick that claimed something and sends no commit in the end. -/
theorem Busy.uncommitted {rows : List Row} {last : Entry (World ι) Claim} {e : Error}
    (h : Busy s.limit es rows last)
    (hall : heard es = (World.scriptPart.get w).since (World.scriptPart.get w'))
    (hlast : ∃ xs answer, spoken last = xs ++ [⟨.rollback, answer⟩] ∧
      ∀ x ∈ xs, x.statement = .rollback) :
    Disciplined s.registry s.limit w w' (.error e) es := by
  obtain ⟨xs, answer, hspoken, hxs⟩ := hlast
  have hback : ∀ x ∈ spoken last, x.statement = .rollback := by
    rw [hspoken]
    exact List.forall_mem_append.mpr ⟨hxs, List.forall_mem_singleton.mpr rfl⟩
  refine .uncommitted hall ?_ ?_ nofun ⟨nofun, fun hidle => ?_⟩
  · intro x hx hcommit
    have hroll := hback x (h.mem_last hx hcommit)
    rw [hcommit] at hroll
    cases hroll
  · intro _
    obtain ⟨ys, hys⟩ := h.closed hspoken
    exact ⟨ys, _, hys, rfl⟩
  · refine absurd hidle (h.not_idle fun x hx hclaim => ?_)
    have hroll := hback x hx
    rw [hclaim] at hroll
    cases hroll

/-- What a tick has done when it gets as far as its commit. -/
theorem earned_of_work {first store index deletion last : Entry (World ι) Claim}
    {asides writes : List (Entry (World ι) Claim)} {rows : List Row} {c asked : Claim}
    (hchain : Chain s.reconciler w
      (first :: (asides ++ store :: index :: writes ++ [deletion, last])) w')
    (hsome : rows ≠ []) (hread : rows.mapM Queue.taskOfRow = .ok c.tasks)
    (hfirst : spoken first = [⟨.begin, .ok []⟩, ⟨.claimDue (max s.limit 0), .ok rows⟩])
    (hwork : Work s.registry c.tasks asides store index writes)
    (hdeletion : deletion.call = .delete asked ((references s.registry c.tasks).map Prod.fst))
    (hdeleted : deletion.failure = none) :
    Earned s.registry s.limit c.tasks first asides store index writes deletion where
  claimed := ⟨rows, hsome, hread, hfirst⟩
  setAside := by
    have hserved : ∀ e ∈ asides, Served e.call e.failure (spoken e) := fun e he =>
      served_of_chain hchain (List.mem_cons_of_mem _ (List.mem_append_left _
        (List.mem_append_left _ he)))
    refine (List.forall₂_iff_zip.mp hwork.asides).elim fun hlength hpairs =>
      List.forall₂_iff_zip.mpr ⟨hlength, fun {p e} hmem => ?_⟩
    obtain ⟨⟨c', hcall⟩, hfailure⟩ := hpairs hmem
    have hsaid := hserved e (List.of_mem_zip hmem).2
    rwa [hcall, hfailure] at hsaid
  work := hwork
  deleted := by
    have hsaid : Served deletion.call deletion.failure (spoken deletion) :=
      served_of_chain hchain (List.mem_cons_of_mem _ (List.mem_append_right _ List.mem_cons_self))
    rw [hdeletion, hdeleted, Served] at hsaid
    dsimp only
    split
    · rename_i hnone
      rwa [if_pos hnone] at hsaid
    · rename_i hids
      rw [if_neg hids] at hsaid
      obtain ⟨answer, hspoken, hanswer⟩ := hsaid
      cases answer with
      | ok rows => exact ⟨rows, hspoken⟩
      | error e => cases hanswer

/-- A commit is one statement, with a rollback after it if it is refused. -/
structure Committing (failure : Option Error) (xs : List Exchange) : Prop where
  once : xs.countP (fun x => x.statement = .commit) = 1
  closed : ∃ ys x, xs = ys ++ [x] ∧ (x.statement = .rollback ∨ x.statement = .commit ∧ x.Succeeded)
  done : (∃ x ∈ xs, x.statement = .commit ∧ x.Succeeded) ↔ failure = none
  ending : ∀ x ∈ xs, x.statement = .commit ∨ x.statement = .rollback

theorem Served.committing {c : Claim} {failure : Option Error} {xs : List Exchange}
    (h : Served (.commit c) failure xs) : Committing failure xs := by
  cases failure with
  | none =>
      have hxs : xs = [⟨.commit, .ok []⟩] := h
      subst hxs
      refine ⟨by simp, ⟨[], _, rfl, .inr ⟨rfl, [], rfl⟩⟩, ⟨fun _ => rfl, fun _ => ?_⟩, ?_⟩
      · exact ⟨_, List.mem_singleton_self _, rfl, [], rfl⟩
      · exact List.forall_mem_singleton.mpr (.inl rfl)
  | some e =>
      obtain ⟨answer, rfl⟩ := h
      refine ⟨by simp, ⟨[_], _, rfl, .inl rfl⟩, ⟨?_, nofun⟩, ?_⟩
      · rintro ⟨x, hx, hcommit, rows, hrows⟩
        rcases List.mem_cons.mp hx with rfl | hx
        · cases hrows
        · rw [List.mem_singleton.mp hx] at hcommit
          cases hcommit
      · exact List.forall_mem_cons.mpr ⟨.inl rfl, List.forall_mem_singleton.mpr (.inr rfl)⟩

/-- A tick that gets as far as its commit. -/
theorem Busy.committed {last : Entry (World ι) Claim} {rows : List Row} {report : Report}
    (h : Busy s.limit es rows last)
    (hall : heard es = (World.scriptPart.get w).since (World.scriptPart.get w'))
    (hlast : Committing last.failure (spoken last)) (hpos : 0 < report.claimed)
    (hearned : ∀ e ∈ es, (∃ x ∈ spoken e, x.statement = .commit) →
      ∃ tasks first asides store index writes deletion,
        es = first :: (asides ++ store :: index :: writes ++ [deletion, e]) ∧
          Earned s.registry s.limit tasks first asides store index writes deletion) :
    Disciplined s.registry s.limit w w' (committed report last.failure) es where
  all := hall
  earned := hearned
  once := Nat.le_of_eq (h.countP_eq.trans hlast.once)
  closed := by
    obtain ⟨xs, x, hspoken, hx⟩ := hlast.closed
    obtain ⟨ys, hys⟩ := h.closed hspoken
    exact fun _ => ⟨ys, x, hys, hx⟩
  done := by
    have hmem : (∃ x ∈ heard es, x.statement = .commit ∧ x.Succeeded) ↔
        ∃ x ∈ spoken last, x.statement = .commit ∧ x.Succeeded :=
      ⟨fun ⟨x, hx, hcommit⟩ => ⟨x, h.mem_last hx hcommit.1, hcommit⟩,
        fun ⟨x, hx, hcommit⟩ => ⟨x, h.last_mem hx, hcommit⟩⟩
    rw [hmem, hlast.done]
    cases last.failure with
    | none => exact ⟨fun _ => rfl, fun _ => ⟨report, rfl, hpos⟩⟩
    | some e =>
        refine ⟨?_, nofun⟩
        rintro ⟨report', herror, -⟩
        cases herror
  idle := by
    refine ⟨?_, fun hidle => absurd hidle (h.not_idle fun x hx hclaim => ?_)⟩
    · rintro ⟨report', hreport, hzero⟩
      cases hfailure : last.failure with
      | none =>
          rw [hfailure] at hreport
          cases hreport
          omega
      | some e =>
          rw [hfailure] at hreport
          cases hreport
    · rcases hlast.ending x hx with hend | hend
      · rw [hclaim] at hend
        cases hend
      · rw [hclaim] at hend
        cases hend

/-- A tick that could not open its claim. -/
theorem disciplined_of_unopened {first : Entry (World ι) Claim} {e : Error}
    (hopening : Queue.Opening s.limit (.error e) (spoken first))
    (hall : heard [first] = (World.scriptPart.get w).since (World.scriptPart.get w')) :
    Disciplined s.registry s.limit w w' (.error e) [first] := by
  have hheard : heard [first] = spoken first := List.append_nil _
  rw [← hheard] at hopening
  have hidle : ∀ rows, rows.mapM Queue.taskOfRow = .error e → rows ≠ [] := by
    rintro _ herror rfl
    cases herror
  refine .uncommitted hall ?_ ?_ nofun ⟨nofun, ?_⟩
  · generalize heard [first] = xs at hopening
    cases hopening with
    | refused | unanswered | unreadable => simp
  · generalize heard [first] = xs at hopening
    cases hopening with
    | refused =>
        rintro ⟨x, hx, -, rows, hrows⟩
        rw [List.mem_singleton.mp hx] at hrows
        cases hrows
    | unanswered | unreadable => exact fun _ => ⟨[_, _], _, rfl, rfl⟩
  · generalize heard [first] = xs at hopening
    cases hopening with
    | refused | unanswered => simp
    | unreadable hread back =>
        simp [(hidle _ hread).symm]

/-! ### Every tick -/

/-- **Every tick is disciplined.**  Over an index of any kind. -/
theorem disciplined (s : Setup ι) (w : World ι) :
    Disciplined s.registry s.limit w (s.reconciler.tick.exec w).2 (s.reconciler.tick.exec w).1
      (s.reconciler.journal w) := by
  obtain ⟨-, hchain, hcourse⟩ := journal_spec s.reconciler w
  have hall := (talks_of_chain hchain).since_eq.symm
  generalize s.reconciler.journal w = es at hchain hcourse hall ⊢
  generalize (s.reconciler.tick.exec w).2 = w' at hchain hall ⊢
  generalize (s.reconciler.tick.exec w).1 = outcome at hcourse ⊢
  cases hcourse with
  | @unclaimed first e hcall hclaim =>
      have hopening := opening_of_chain hchain hcall
      have herror : ((s.reconciler.queue.claimDue s.limit).exec w).1 = .error e := hclaim
      rw [herror] at hopening
      exact disciplined_of_unopened hopening hall
  | @idle first last c hclaim hnone hlast =>
      obtain ⟨rows, hread, hfirst⟩ := spoken_of_claims hchain hclaim
      have hlast' := served_of_chain hchain (List.mem_cons_of_mem _ (List.mem_singleton_self last))
      rw [hlast] at hlast'
      obtain ⟨answer, hback⟩ := hlast'
      have hheard : heard [first, last] = [⟨.begin, .ok []⟩,
          ⟨.claimDue (max s.limit 0), .ok rows⟩, ⟨.rollback, answer⟩] := by
        rw [heard, List.flatMap_cons, List.flatMap_singleton, hfirst, hback]
        rfl
      have hrows : rows = [] := (tasks_eq_nil_iff hread).mp hnone
      refine .uncommitted hall ?_ ?_ ?_ ⟨fun _ => ?_, fun _ => ⟨_, rfl⟩⟩
      · rw [hheard]
        simp
      · rw [hheard]
        exact fun _ => ⟨[_, _], _, rfl, rfl⟩
      · rintro report hreport
        cases hreport
        rfl
      · rw [hheard, hrows]
        simp
  | @failed first last work c e hclaim hsome hwork hlast =>
      obtain ⟨rows, -, -, hbusy⟩ := busy hchain hclaim hsome fun e he => .inl (hwork e he)
      have hlast' := served_last hchain
      rw [hlast] at hlast'
      exact hbusy.uncommitted hall hlast'
  | @undeleted first store index deletion last asides writes c asked e hclaim hsome hwork hdeletion
      hfailure hlast =>
      have hshape := append_deletion_last asides store index writes deletion last
      rw [hshape] at hchain hall ⊢
      obtain ⟨rows, -, -, hbusy⟩ := busy hchain hclaim hsome (quiet_of_work hwork hdeletion)
      have hlast' := served_last hchain
      rw [hlast] at hlast'
      obtain ⟨answer, hback⟩ := hlast'
      exact hbusy.uncommitted hall ⟨[], answer, hback, List.forall_mem_nil _⟩
  | @ended first store index deletion last asides writes c asked ready report hclaim hsome hwork
      hdeletion hdeleted hlast hclaimed =>
      have hshape := append_deletion_last asides store index writes deletion last
      have hchain' := hchain
      rw [hshape] at hchain'
      obtain ⟨rows, hread, hfirst, hbusy⟩ := busy hchain' hclaim hsome (quiet_of_work hwork hdeletion)
      have hlast' := served_last hchain'
      rw [hlast] at hlast'
      rw [← hshape] at hbusy
      refine hbusy.committed hall hlast'.committing ?_ fun e he hcommit => ?_
      · rw [hclaimed]
        exact List.length_pos_iff.mpr hsome
      · -- only the last call commits
        obtain ⟨x, hx, hxcommit⟩ := hcommit
        rw [hshape] at he
        rcases List.mem_cons.mp he with rfl | he
        · rw [hfirst] at hx
          simp only [List.mem_cons, List.not_mem_nil, or_false] at hx
          rcases hx with rfl | rfl
          · cases hxcommit
          · cases hxcommit
        rcases List.mem_append.mp he with he | he
        · have hserved := served_of_chain hchain' (List.mem_cons_of_mem _ (List.mem_append_left _ he))
          have hquiet := hserved.isWork (quiet_of_work hwork hdeletion e he) x hx
          rw [hxcommit] at hquiet
          cases hquiet
        · obtain rfl := List.mem_singleton.mp he
          exact ⟨c.tasks, first, asides, store, index, writes, deletion, rfl,
            earned_of_work hchain hbusy.some hread hfirst hwork hdeletion hdeleted⟩

/-- **The discipline of a commit.**  A tick over a database and over a search index that is reached by
requests commits its claim at most once, and only when it has done everything; in every other case
the transaction is rolled back.  The journal by which this is said is that of the tick itself. -/
theorem commit_discipline (setup : Setup ι) (settings : Search.Settings)
    (transport : Search.Transport ι) (w : World ι) :
    let s := { setup with index := Search.Client.backend settings transport }
    let r := s.reconciler
    Disciplined s.registry s.limit w (r.tick.exec w).2 (r.tick.exec w).1 (r.journal w) ∧
      Chain r w (r.journal w) (r.tick.exec w).2 ∧
      r.logged.tick.exec ⟨w, []⟩ = ((r.tick.exec w).1, ⟨(r.tick.exec w).2, r.journal w⟩) := by
  intro s r
  obtain ⟨hlogged, hchain, -⟩ := journal_spec r w
  exact ⟨disciplined s w, hchain, hlogged⟩

end Outbox.Session
