import Outbox.Proofs.Fleet.Steps

/-!
# A tick that is cut short

A tick takes its steps one at a time (`Reconciler.next`), and between any two of them the store or
the index may go down or come back, and the index may begin to reject documents.  At any moment the
consumer may crash, which drops its claim.  `Attempt` is a tick under way among all that.

* `Sound` — what holds of an attempt, whatever has happened to it: what it knows is what store and
  index held when it began, and the index differs from then by documents of entities to be indexed;
* `Sound.turn`, `Sound.run` — nothing that happens breaks that;
* `Sound.abandoned` — so all that is left of an attempt which did not commit is some of the documents
  that it was for.
-/

namespace Outbox.Redelivery

open Outbox.Fleet Outbox.Indexer Outbox.Memory Outbox.Reconciler Outbox.Simulation

/-- What happens to a tick under way. -/
inductive Turn
  /-- The tick makes its next call. -/
  | step
  | setStoreAvailable (available : Bool)
  | setIndexAvailable (available : Bool)
  /-- From now on these are rejected. -/
  | reject (ids : List EntityId)

/-- A tick under way. -/
structure Attempt where
  world : World Index
  stage : Stage Claim
  /-- What the index took from this tick. -/
  written : List EntityId

/-- What of a batch an index takes. -/
def accepted (x : Index) (ids : List EntityId) : List EntityId :=
  if x.available then ids.filter fun i => i ∉ x.rejected else []

/-- What an index takes in a step from a stage. -/
def taken (x : Index) : Stage Claim → List EntityId
  | .loaded _ _ _ p => accepted x (p.documents.map Document.id)
  | .upserted _ _ _ p => accepted x p.tombstoned
  | _ => []

theorem mem_accepted {x : Index} {ids : List EntityId} {i : EntityId} :
    i ∈ accepted x ids ↔ i ∈ ids ∧ x.available = true ∧ i ∉ x.rejected := by
  rw [accepted]
  split
  · rename_i hup
    rw [List.mem_filter, decide_eq_true_eq]
    exact ⟨fun h => ⟨h.1, hup, h.2⟩, fun h => ⟨h.1, h.2.2⟩⟩
  · rename_i hdown
    exact ⟨nofun, fun h => absurd h.2.1 hdown⟩

namespace Attempt

/-- A tick that has not begun. -/
def start (w : World Index) : Attempt := ⟨w, .resting none, []⟩

/-- Takes a step; a tick that is over takes none. -/
def step (r : Reconciler (World Index) Claim) (a : Attempt) : Attempt :=
  match a.stage with
  | .resting (some _) => a
  | stage =>
    match (next r stage).exec a.world with
    | (.ok stage', world) => ⟨world, stage', taken a.world.index stage ++ a.written⟩
    | (.error _, _) => a

theorem step_eq {r : Reconciler (World Index) Claim} {a : Attempt} {stage : Stage Claim}
    {world : World Index} (hbusy : ∀ last, a.stage ≠ .resting (some last))
    (hnext : (next r a.stage).exec a.world = (.ok stage, world)) :
    a.step r = ⟨world, stage, taken a.world.index a.stage ++ a.written⟩ := by
  rw [step]
  split
  · rename_i last hrest
    exact absurd hrest (hbusy last)
  · rw [hnext]

/-- Carries out one turn. -/
def turn (r : Reconciler (World Index) Claim) (a : Attempt) : Turn → Attempt
  | .step => a.step r
  | .setStoreAvailable available =>
    { a with world := { a.world with store := a.world.store.setAvailable available } }
  | .setIndexAvailable available =>
    { a with world := { a.world with index := a.world.index.setAvailable available } }
  | .reject ids =>
    { a with world := { a.world with index := { a.world.index with rejected := ids } } }

/-- Carries out turns, one after the other. -/
def run (r : Reconciler (World Index) Claim) (a : Attempt) (ts : List Turn) : Attempt :=
  ts.foldl (turn r) a

/-- The steps that are left of a tick are taken one by one. -/
theorem run_of_drive {r : Reconciler (World Index) Claim} {n : Nat} {a : Attempt}
    {last : Except Error Report} {world : World Index} (hbusy : a.stage ≠ .resting none)
    (h : (drive r n a.stage).exec a.world = (.ok (.resting (some last)), world)) :
    (a.run r (List.replicate n .step)).stage = .resting (some last) ∧
      (a.run r (List.replicate n .step)).world = world := by
  induction n generalizing a with
  | zero =>
      obtain ⟨hstage, rfl⟩ := Prod.ext_iff.mp h
      exact ⟨Except.ok.inj hstage, rfl⟩
  | succ n ih =>
      have hrun : a.run r (List.replicate (n + 1) .step)
          = (a.step r).run r (List.replicate n .step) := rfl
      rw [hrun]
      by_cases hover : ∃ l, a.stage = .resting (some l)
      · obtain ⟨l, hl⟩ := hover
        have hstay : a.step r = a := by
          rw [step, hl]
        rw [hl, exec_drive_resting] at h
        rw [hstay]
        refine ih hbusy ?_
        rw [hl, exec_drive_resting, h]
      · rw [drive] at h
        · cases hnext : (next r a.stage).exec a.world with
          | mk answer w' =>
              cases answer with
              | error e =>
                  rw [Action.exec_bind_error hnext] at h
                  cases h
              | ok stage =>
                  rw [Action.exec_bind_ok hnext] at h
                  rw [step_eq (fun l hl => hover ⟨l, hl⟩) hnext]
                  refine ih (fun hidle => ?_) h
                  -- a tick does not end in its beginning
                  have hidle' : stage = .resting none := hidle
                  rw [hidle', exec_drive_resting] at h
                  cases h
        · intro l hl
          cases l with
          | none => exact hbusy hl
          | some l => exact hover ⟨l, hl⟩

/-- The world that an attempt leaves when the consumer gives up or crashes now.  An attempt that
committed is none that was abandoned. -/
def abandoned? (a : Attempt) : Option (World Index) :=
  match a.stage with
  | .resting (some (.ok _)) => none
  | stage =>
    match stage.claim? with
    | some c => some { a.world with queue := a.world.queue.release c }
    | none => some a.world

end Attempt

/-! ### What holds of an attempt -/

/-- A consumer that is alone with its services. -/
abbrev alone (enrich : Transform) (registry : Registry) (limit : Int) : Settings Unit :=
  ⟨fun _ => enrich, registry, fun _ => limit⟩

variable (enrich : Transform) (registry : Registry) (limit : Int) (w : World Index)

/-- What a tick knows at a stage: what store and index held when it began. -/
def Informed : Stage Claim → Prop
  | .sawStore _ _ primary =>
    primary = w.store.statuses (referenced (references registry (claim limit w).tasks))
  | .judged _ _ _ ids => ids = todo registry (claim limit w).tasks w
  | .loaded _ _ _ p =>
    let ids := distinct (todo registry (claim limit w).tasks w)
    p = plan enrich ids (w.store.fetch ids)
  | .upserted _ _ _ p => p.tombstoned = []
  | _ => True

/-- Before its write a tick has written nothing. -/
def Unwritten (written : List EntityId) : Stage Claim → Prop
  | .upserted .. | .written .. | .failed .. | .resting (some _) => True
  | _ => written = []

/-- How the queue stands at a stage: as it was, or with the tasks of the tick locked. -/
def Queued (q : Queue) : Stage Claim → Prop
  | .resting (some (.ok _)) => True
  | .resting _ => q = w.queue
  | _ => q = (w.queue.claimDue limit).2

/-- The claims that a tick goes by hold the tasks that it claimed. -/
def Opened : Stage Claim → Prop
  | .resting _ => True
  | .claimed c | .failed c _ => c.tasks = (claim limit w).tasks
  | .sawStore c asked _ | .judged c asked _ _ | .loaded c asked _ _ | .upserted c asked _ _
  | .written c asked _ => c.tasks = (claim limit w).tasks ∧ asked.tasks = (claim limit w).tasks

/-- An index that differs from what it was by documents that were to be written. -/
structure Ahead (x : Index) (written : List EntityId) : Prop where
  wanted : ∀ i ∈ written, i ∈ todo registry (claim limit w).tasks w
  current : ∀ i ∈ written, ∃ entity, w.store.live? i = some entity ∧
    x.stored? i = some (.live (document enrich entity))
  frame : ∀ i, i ∉ written → x.stored? i = w.index.stored? i

/-- What holds of an attempt that began in a world. -/
structure Sound (a : Attempt) : Prop where
  entities : a.world.store.entities = w.store.entities
  informed : Informed enrich registry limit w a.stage
  unwritten : Unwritten a.written a.stage
  queued : Queued limit w a.world.queue a.stage
  opened : Opened limit w a.stage
  ahead : Ahead enrich registry limit w a.world.index a.written

variable {enrich registry limit w} {a : Attempt}

/-- A claim on the tasks of the tick leaves the queue as it was when it is given back. -/
theorem released {q : Queue} {c : Claim} (hq : q = (w.queue.claimDue limit).2)
    (hc : c.tasks = (claim limit w).tasks) : q.release c = w.queue := by
  rw [hq, Queue.release_congr _ hc]
  exact Queue.release_claimDue w.queue limit

/-- **Writing.**  What the index takes of the documents of the tick is what it is ahead by. -/
theorem Ahead.upserted {x : Index} {written : List EntityId}
    (h : Ahead enrich registry limit w x written) {docs : List Document}
    (hdocs : docs = documents enrich registry (claim limit w).tasks w)
    (hwritten : ∀ i, i ∉ written) :
    Ahead enrich registry limit w (writing x (docs.map Document.id) (x.afterUpsert docs)).2
      (accepted x (docs.map Document.id)) where
  wanted i hi := by
    have hmem := (mem_accepted.mp hi).1
    rwa [hdocs, Reconciler.mem_documents_ids] at hmem
  current i hi := by
    have hreached := mem_accepted.mp hi
    obtain ⟨d, hd, hid, hstored⟩ := Index.stored?_afterUpsert_of_mem hreached.2.2 hreached.1
    rw [hdocs, Reconciler.mem_documents] at hd
    obtain ⟨j, -, entity, hlive, rfl⟩ := hd
    have hj : j = i := (Store.id_of_live? hlive).symm.trans hid
    refine ⟨entity, hj ▸ hlive, ?_⟩
    rw [stored?_writing_of_reached hreached, hstored]
  frame i hi := by
    rw [stored?_writing_of_not_reached (fun e he => Index.stored?_afterUpsert_of_notMem he)
      (mem_accepted.not.mp hi), h.frame i (hwritten i)]

namespace Sound

theorem start (enrich : Transform) (registry : Registry) (limit : Int) (w : World Index) :
    Sound enrich registry limit w (.start w) where
  entities := rfl
  informed := trivial
  unwritten := rfl
  queued := rfl
  opened := trivial
  ahead := ⟨nofun, nofun, fun _ _ => rfl⟩

/-! ### One turn -/

/-- A step that changes nothing but the stage. -/
theorem goOn (h : Sound enrich registry limit w a) {stage : Stage Claim}
    (hinformed : Informed enrich registry limit w stage) (hunwritten : Unwritten a.written stage)
    (hqueued : Queued limit w a.world.queue stage) (hopened : Opened limit w stage) :
    Sound enrich registry limit w ⟨a.world, stage, a.written⟩ :=
  ⟨h.entities, hinformed, hunwritten, hqueued, hopened, h.ahead⟩

/-- A call fails. -/
theorem fail (h : Sound enrich registry limit w a) {c : Claim} (e : Error)
    (hqueue : a.world.queue = (w.queue.claimDue limit).2)
    (hc : c.tasks = (claim limit w).tasks) :
    Sound enrich registry limit w ⟨a.world, .failed c e, a.written⟩ :=
  h.goOn trivial trivial hqueue hc

/-- Reads answer as they would have when the tick began. -/
theorem statuses_eq (h : Sound enrich registry limit w a) (ids : List EntityId) :
    a.world.store.statuses ids = w.store.statuses ids :=
  Store.statuses_congr h.entities ids

theorem fetch_eq (h : Sound enrich registry limit w a) (ids : List EntityId) :
    a.world.store.fetch ids = w.store.fetch ids :=
  Store.fetch_congr h.entities ids

theorem indexStatuses_eq (h : Sound enrich registry limit w a) (hwritten : a.written = [])
    (ids : List EntityId) : a.world.index.statuses ids = w.index.statuses ids := by
  refine Index.statuses_congr (fun i => h.ahead.frame i ?_) ids
  rw [hwritten]
  exact List.not_mem_nil

/-- A tick begins with its claim. -/
theorem step_resting {world : World Index} {written : List EntityId}
    (h : Sound enrich registry limit w ⟨world, .resting none, written⟩) :
    Sound enrich registry limit w ⟨claiming limit world, .claimed (claim limit world), written⟩ := by
  have hqueue : world.queue = w.queue := h.queued
  refine ⟨h.entities, trivial, h.unwritten, ?_, ?_, h.ahead⟩
  · show (world.queue.claimDue limit).2 = _
    rw [hqueue]
  · show (world.queue.claimDue limit).1.tasks = _
    rw [hqueue]
    rfl

/-- The versions of the named entities are read, or the store is down. -/
theorem step_claimed {world : World Index} {written : List EntityId} {c : Claim}
    (h : Sound enrich registry limit w ⟨world, .claimed c, written⟩) :
    Sound enrich registry limit w ⟨world, onward c
      ((world.read (world.store.statuses (referenced (references registry c.tasks)))).map
        (.sawStore c (c.setAside (malformed registry c.tasks)))), written⟩ := by
  have hc : c.tasks = (claim limit w).tasks := h.opened
  rw [World.read, h.statuses_eq]
  split
  · refine h.goOn (congrArg (fun tasks => w.store.statuses (referenced (references registry tasks)))
      hc) h.unwritten h.queued ⟨hc, ?_⟩
    rw [Claim.tasks_setAside, hc]
  · exact h.fail _ h.queued hc

/-- The named entities are judged, or the index is down. -/
theorem step_sawStore {world : World Index} {written : List EntityId} {c asked : Claim}
    {primary : Table EntityId PrimaryStatus}
    (h : Sound enrich registry limit w ⟨world, .sawStore c asked primary, written⟩) :
    Sound enrich registry limit w ⟨world, (if world.index.available then
        judge registry c asked primary
          (world.index.statuses (referenced (references registry c.tasks)))
      else .failed c Index.down), written⟩ := by
  have hc : c.tasks = (claim limit w).tasks := h.opened.1
  have hprimary : primary
      = w.store.statuses (referenced (references registry (claim limit w).tasks)) := h.informed
  split
  · rw [h.indexStatuses_eq h.unwritten, hprimary, judge, hc]
    split
    · exact h.goOn trivial trivial h.queued h.opened
    · exact h.goOn rfl h.unwritten h.queued h.opened
  · exact h.fail _ h.queued hc

/-- The entities to index are read, or the store is down. -/
theorem step_judged {world : World Index} {written : List EntityId} {c asked : Claim}
    {report : Report} {ids : List EntityId}
    (h : Sound enrich registry limit w ⟨world, .judged c asked report ids, written⟩) :
    Sound enrich registry limit w ⟨world, onward c
      ((world.read (world.store.fetch (distinct ids))).map fun entities =>
        .loaded c asked report (plan enrich (distinct ids) entities)), written⟩ := by
  have hids : ids = todo registry (claim limit w).tasks w := h.informed
  rw [World.read, h.fetch_eq, hids]
  split
  · exact h.goOn rfl h.unwritten h.queued h.opened
  · exact h.fail _ h.queued h.opened.1

/-- The documents are written, as far as the index takes them. -/
theorem step_loaded {world : World Index} {written : List EntityId} {c asked : Claim}
    {report : Report} {p : Plan}
    (h : Sound enrich registry limit w ⟨world, .loaded c asked report p, written⟩) :
    let call := writing world.index (p.documents.map Document.id)
      (world.index.afterUpsert p.documents)
    Sound enrich registry limit w ⟨{ world with index := call.2 },
      onward c (call.1.map fun _ => .upserted c asked report p),
      accepted world.index (p.documents.map Document.id) ++ written⟩ := by
  intro call
  have hplan : p = plan enrich (distinct (todo registry (claim limit w).tasks w))
      (w.store.fetch (distinct (todo registry (claim limit w).tasks w))) := h.informed
  have hwritten : written = [] := h.unwritten
  have hnone : p.tombstoned = [] := by
    rw [hplan]
    exact tombstoned_eq_nil enrich
  have hahead : Ahead enrich registry limit w call.2
      (accepted world.index (p.documents.map Document.id) ++ written) := by
    rw [hwritten, List.append_nil]
    refine h.ahead.upserted ?_ (fun i hi => absurd (hwritten ▸ hi) List.not_mem_nil)
    rw [hplan]
    rfl
  cases hcall : call.1 with
  | ok _ => exact ⟨h.entities, hnone, trivial, h.queued, h.opened, hahead⟩
  | error e => exact ⟨h.entities, trivial, trivial, h.queued, h.opened.1, hahead⟩

/-- There are no tombstones to write. -/
theorem step_upserted {world : World Index} {written : List EntityId} {c asked : Claim}
    {report : Report} {p : Plan}
    (h : Sound enrich registry limit w ⟨world, .upserted c asked report p, written⟩) :
    let call := writing world.index p.tombstoned (world.index.afterTombstone p.tombstoned)
    Sound enrich registry limit w ⟨{ world with index := call.2 },
      onward c (call.1.map fun _ => .written c asked report),
      accepted world.index p.tombstoned ++ written⟩ := by
  have hnone : p.tombstoned = [] := h.informed
  have haccepted : accepted world.index [] = [] := by
    rw [accepted]
    split
    · rfl
    · rfl
  rw [hnone, haccepted]
  exact h.goOn trivial trivial h.queued h.opened

/-- A tick that failed gives its claim back. -/
theorem step_failed {world : World Index} {written : List EntityId} {c : Claim} {e : Error}
    (h : Sound enrich registry limit w ⟨world, .failed c e, written⟩) :
    Sound enrich registry limit w ⟨{ world with queue := world.queue.release c },
      .resting (some (.error e)), written⟩ :=
  ⟨h.entities, trivial, trivial, released h.queued h.opened, trivial, h.ahead⟩

/-- **A step.**  Whichever call it makes, and whatever the answer. -/
theorem step (h : Sound enrich registry limit w a) :
    Sound enrich registry limit w (a.step (Setup.inMemory enrich registry limit).reconciler) := by
  let c := alone enrich registry limit
  obtain ⟨world, stage, written⟩ := a
  cases stage with
  | resting last =>
      cases last with
      | none =>
          rw [Attempt.step_eq (fun _ h => by cases h) (exec_resting c () world none)]
          exact h.step_resting
      | some last => exact h
  | claimed cl =>
      by_cases hnil : cl.tasks = []
      · rw [Attempt.step_eq (fun _ h => by cases h) (exec_claimed_nil c () world hnil)]
        exact ⟨h.entities, trivial, trivial, trivial, trivial, h.ahead⟩
      · rw [Attempt.step_eq (fun _ h => by cases h) (exec_claimed c () world hnil)]
        exact h.step_claimed
  | sawStore cl asked primary =>
      rw [Attempt.step_eq (fun _ h => by cases h) (exec_sawStore c () world cl asked primary)]
      exact h.step_sawStore
  | judged cl asked report ids =>
      rw [Attempt.step_eq (fun _ h => by cases h) (exec_judged c () world cl asked report ids)]
      exact h.step_judged
  | loaded cl asked report p =>
      rw [Attempt.step_eq (fun _ h => by cases h) (exec_loaded c () world cl asked report p)]
      exact h.step_loaded
  | upserted cl asked report p =>
      rw [Attempt.step_eq (fun _ h => by cases h) (exec_upserted c () world cl asked report p)]
      exact h.step_upserted
  | written cl asked report =>
      rw [Attempt.step_eq (fun _ h => by cases h) (exec_written c () world cl asked report)]
      exact ⟨h.entities, trivial, trivial, trivial, trivial, h.ahead⟩
  | failed cl e =>
      rw [Attempt.step_eq (fun _ h => by cases h) (exec_failed c () world cl e)]
      exact h.step_failed

/-- **A turn.**  What happens to the services changes nothing that the tick goes by. -/
theorem turn (h : Sound enrich registry limit w a) (t : Turn) :
    Sound enrich registry limit w (a.turn (Setup.inMemory enrich registry limit).reconciler t) := by
  cases t with
  | step => exact h.step
  | setStoreAvailable available =>
      exact ⟨h.entities, h.informed, h.unwritten, h.queued, h.opened, h.ahead⟩
  | setIndexAvailable available =>
      exact ⟨h.entities, h.informed, h.unwritten, h.queued, h.opened,
        h.ahead.wanted, h.ahead.current, h.ahead.frame⟩
  | reject ids =>
      exact ⟨h.entities, h.informed, h.unwritten, h.queued, h.opened,
        h.ahead.wanted, h.ahead.current, h.ahead.frame⟩

/-! ### A whole attempt -/

theorem run (h : Sound enrich registry limit w a) (ts : List Turn) :
    Sound enrich registry limit w
      (a.run (Setup.inMemory enrich registry limit).reconciler ts) := by
  induction ts generalizing a with
  | nil => exact h
  | cons t ts ih => exact ih (h.turn t)

/-- **What is left of an attempt.**  The queue is as it was and so are the entities, and the index is
ahead by what it took. -/
theorem abandoned (h : Sound enrich registry limit w a) {w' : World Index}
    (hleft : a.abandoned? = some w') :
    w'.queue = w.queue ∧ w'.store.entities = w.store.entities ∧
      Ahead enrich registry limit w w'.index a.written := by
  obtain ⟨world, stage, written⟩ := a
  cases stage with
  | resting last =>
      cases last with
      | none =>
          cases hleft
          exact ⟨h.queued, h.entities, h.ahead⟩
      | some last =>
          cases last with
          | ok report => cases hleft
          | error e =>
              cases hleft
              exact ⟨h.queued, h.entities, h.ahead⟩
  | claimed c =>
      cases hleft
      exact ⟨released h.queued h.opened, h.entities, h.ahead⟩
  | failed c e =>
      cases hleft
      exact ⟨released h.queued h.opened, h.entities, h.ahead⟩
  | sawStore c asked primary =>
      cases hleft
      exact ⟨released h.queued h.opened.2, h.entities, h.ahead⟩
  | judged c asked report ids =>
      cases hleft
      exact ⟨released h.queued h.opened.2, h.entities, h.ahead⟩
  | loaded c asked report p =>
      cases hleft
      exact ⟨released h.queued h.opened.2, h.entities, h.ahead⟩
  | upserted c asked report p =>
      cases hleft
      exact ⟨released h.queued h.opened.2, h.entities, h.ahead⟩
  | written c asked report =>
      cases hleft
      exact ⟨released h.queued h.opened.2, h.entities, h.ahead⟩

end Sound

/-! ### Ticks as attempts -/

/-- **A tick is an attempt.**  Seven steps with nothing in between come to a tick. -/
theorem Attempt.run_steps (enrich : Transform) (registry : Registry) (limit : Int)
    (w : World Index) :
    let r := (Setup.inMemory enrich registry limit).reconciler
    let a := (Attempt.start w).run r (List.replicate 7 .step)
    a.stage = .resting (some (r.tick.exec w).1) ∧ a.world = (r.tick.exec w).2 := by
  intro r a
  have hclaim : (next r (.resting none)).exec w = (.ok (.claimed (claim limit w)), claiming limit w) :=
    exec_resting (alone enrich registry limit) () w none
  have hfirst : (Attempt.start w).step r = ⟨claiming limit w, .claimed (claim limit w), []⟩ :=
    Attempt.step_eq (fun _ h => by cases h) hclaim
  have hrest := drive_resting r none w
  rw [Action.exec_bind_ok hclaim] at hrest
  have hrun : a = ((Attempt.start w).step r).run r (List.replicate 6 .step) := rfl
  rw [hrun, hfirst]
  exact Attempt.run_of_drive (fun h => by cases h) hrest

end Outbox.Redelivery
