import Outbox.Session.Command
import Outbox.Simulation.World

/-!
# The world of a database session

A connection, an index of any kind, and the transactions and claims that are open.  `step` carries
out one command, and `run` a list of them.
-/

namespace Outbox.Session

open Outbox.Database Outbox.Time

/-- Everything that commands act on. -/
structure World (ι : Type) where
  connection : Connection
  index : ι
  /-- Names of open transactions. -/
  transactions : List String
  claims : Table String Database.Claim

/-- What stays the same during a session. -/
structure Setup (ι : Type) where
  table : TableName
  index : SearchIndex ι
  /-- Carries out what only some indices offer. -/
  inspect : Simulation.IndexCommand → ι → Simulation.Answer × ι
  enrich : Transform
  registry : Registry
  limit : Int

namespace World

variable {ι : Type}

/-- The connection as a part of the world. -/
def connectionPart : Part (World ι) Connection :=
  ⟨World.connection, fun w c => { w with connection := c }⟩

/-- The script as a part of the world. -/
def scriptPart : Part (World ι) Script := connectionPart.comp Connection.scriptPart

/-- The index as a part of the world. -/
def indexPart : Part (World ι) ι := ⟨World.index, fun w x => { w with index := x }⟩

/-- The number of tasks inserted so far. -/
def created (w : World ι) : Nat :=
  (w.connection.script.sent.flatMap Statement.inserted).length

/-- Ends a transaction or a claim that nobody holds any more. -/
def abandon (w : World ι) : World ι := scriptPart.set w (scriptPart.get w).abandon

end World

variable {ι : Type}

/-- The reconciler of a session. -/
def Setup.reconciler (s : Setup ι) : Reconciler (World ι) Database.Claim where
  queue := Database.Queue.backend.within World.scriptPart
  store := (Database.Store.backend s.table).within World.connectionPart
  index := s.index.within World.indexPart
  enrich := s.enrich
  registry := s.registry
  limit := s.limit

/-- An action whose value is shown. -/
def shown {α : Type} (show_ : α → Answer) (a : Action (World ι) α) (w : World ι) :
    Except Error Answer × World ι :=
  ((a.exec w).1.map show_, (a.exec w).2)

/-- An action on the script that shows nothing. -/
def onScript (a : Action Script Unit) (w : World ι) : Except Error Answer × World ι :=
  shown (fun _ => .done) (a.within World.scriptPart) w

/-- Ends the open claim of a name, if there is one, in a given way. -/
def endClaim (w : World ι) (name : String) (a : Action Script Unit) :
    Except Error Answer × World ι :=
  if Table.has w.claims name then onScript a { w with claims := Table.erase w.claims name }
  else (.ok .done, w)

/-- Leaves a transaction or claim for good. -/
def leave : Action Script Unit := Action.change fun s => ((), s.abandon)

/-- Opens a transaction under a name; one that went by the same name is left. -/
def openTransaction (w : World ι) (tx : String) : Except Error Answer × World ι :=
  match onScript Script.begin w with
  | (.error e, w) => (.error e, w)
  | (.ok _, w) =>
    if tx ∈ w.transactions then (.ok .done, w.abandon)
    else (.ok .done, { w with transactions := tx :: w.transactions })

/-- Ends an open transaction in a given way. -/
def endTransaction (w : World ι) (tx : String) (a : Action Script Unit) :
    Except Error Answer × World ι :=
  if tx ∈ w.transactions then
    onScript a { w with transactions := w.transactions.erase tx }
  else (.ok .done, w)

/-- Opens a claim under a name; one that went by the same name is left first. -/
def openClaim (w : World ι) (name : String) (limit : Int) : Except Error Answer × World ι :=
  let w := (endClaim w name leave).2
  match ((Database.Queue.claimDue limit).within World.scriptPart).exec w with
  | (.error e, w) => (.error e, w)
  | (.ok c, w) => (.ok (.claimed c.tasks), { w with claims := Table.insert w.claims name c })

/-- Carries out one command. -/
def step (s : Setup ι) (c : Command) (w : World ι) : Except Error Answer × World ι :=
  let r := s.reconciler
  let fresh (i : Nat) : TaskId := Simulation.taskNumber (w.created + i)
  let common {α : Type} (show_ : α → Simulation.Answer) (a : Action (World ι) α) :=
    shown (fun x => .common (show_ x)) a w
  match c with
  | .health => onScript health w
  | .migrate => onScript migrate w
  | .stats => shown .stats (Database.Queue.stats.within World.scriptPart) w
  | .begin tx => openTransaction w tx
  | .insert _ entity tag scheduledAt =>
    let a := Database.Queue.enqueue (fresh 0) entity tag scheduledAt
    common (fun _ => .task (fresh 0)) (a.within World.scriptPart)
  | .insertRaw _ tag payload scheduledAt =>
    let a := Database.Queue.enqueueRaw (fresh 0) tag payload scheduledAt
    common (fun _ => .task (fresh 0)) (a.within World.scriptPart)
  | .insertBatch _ entities tag scheduledAt =>
    let a := Database.Queue.enqueueBatch fresh entities tag scheduledAt
    common .taskIds (a.within World.scriptPart)
  | .commitTransaction tx => endTransaction w tx Script.commit
  | .dropTransaction tx => endTransaction w tx leave
  | .claim name limit => openClaim w name limit
  | .delete _ ids => onScript (Database.Queue.delete ids) w
  | .quarantine name position reason =>
    match (Table.find? w.claims name).bind fun c => c.tasks[position]? with
    | some t => onScript (Database.Queue.quarantine t reason) w
    | none => (.ok .done, w)
  | .commitClaim name => endClaim w name Script.commit
  | .rollback name => endClaim w name Script.rollback
  | .dropClaim name => endClaim w name leave
  | .table => (.ok (.name s.table.text), w)
  | .openStore name => ((TableName.ofText name).map fun t => .name t.text, w)
  | .updatedColumn =>
    shown .column ((Database.Store.updatedColumn s.table).within World.connectionPart) w
  | .primaryStatuses ids => common .primaryStatuses (r.store.statuses ids)
  | .entities ids => common .entities (r.store.entities ids)
  | .updatedBetween start stop => common .ids (r.store.updatedBetween start stop)
  | .onIndex c =>
    let (answer, index) := s.inspect c w.index
    (.ok (.common answer), { w with index := index })
  | .indexStatuses ids => common .indexStatuses (r.index.statuses ids)
  | .reconcile => common .report r.tick
  | .index ids => common .outcome (Indexer.run r.store r.index r.enrich ids)
  | .reindexDate start stop =>
    shown .count ((reindexDate s.table fresh start stop).within World.connectionPart) w

/-- Carries out commands in turn, and gives each answer with the world at that time. -/
def run (s : Setup ι) : List Command → World ι → List (Except Error Answer × World ι)
  | [], _ => []
  | c :: cs, w =>
    let shown := step s c w
    shown :: run s cs shown.2

/-- Connects to an endpoint over a network and opens a store over a table. -/
def start (network : Network) (endpoint : Endpoint) (table : String) (script : Script) (index : ι) :
    Except Error (TableName × World ι) := do
  let connection ← connect network endpoint script
  let table ← TableName.ofText table
  .ok (table, ⟨connection, index, [], []⟩)

end Outbox.Session
