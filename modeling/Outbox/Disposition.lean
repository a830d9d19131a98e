import Outbox.Entity

/-!
# Comparing store and index

A task is obsolete when its entity is gone, already consistent when the index holds exactly the
version of the primary store, and needs indexing otherwise: also when the index is somehow ahead.
-/

namespace Outbox

/-- What comparing an entity with its document comes to. -/
inductive Disposition
  | obsolete
  | needsIndex
  | alreadyConsistent
  deriving DecidableEq

namespace Disposition

/-- The written form. -/
def text : Disposition → String
  | .obsolete => "obsolete"
  | .needsIndex => "needs_index"
  | .alreadyConsistent => "already_consistent"

end Disposition

/-- Compares the projections of one entity. -/
def compareStatus (primary : Option PrimaryStatus) (index : Option IndexStatus) : Disposition :=
  match primary with
  | none => .obsolete
  | some p =>
    if p.deleted then .obsolete
    else
      match index with
      | some i => if i.updated = some p.updated then .alreadyConsistent else .needsIndex
      | none => .needsIndex

/-- Compares an entity in the store with its document in the index. -/
def classify (primary : Table EntityId PrimaryStatus) (index : Table EntityId IndexStatus)
    (e : EntityId) : Disposition :=
  compareStatus (Table.find? primary e) (Table.find? index e)

end Outbox
