import Outbox.Entity

/-!
# Some enrichments

Enrichments of documents that a simulation can choose from.  All but the first try something that
must not matter: only the body of an enriched document counts.
-/

namespace Outbox.Enrichment

/-- Adds the number of bytes of the body's text. -/
def textLength : Transform := fun e d =>
  let length :=
    match Table.find? e.body "text" with
    | some (.string s) => s.utf8ByteSize
    | _ => 0
  { d with body := Table.insert d.body "text_length" (.int length) }

/-- Gives the document another identifier and a later version. -/
def relabel : Transform := fun _ d =>
  { id := ⟨.zero⟩
    updated := d.updated.addSeconds 86400
    body := Table.insert d.body "touched" (.bool true) }

/-- Puts members into the body that a source has of its own. -/
def shadow : Transform := fun _ d =>
  let body := Table.insert d.body "id" (Json.string "shadow")
  let body := Table.insert body "updated" (Json.string "shadow")
  { d with body := Table.insert body "deleted" (Json.string "shadow") }

/-- Empties the body. -/
def clear : Transform := fun _ d => { d with body := [] }

end Outbox.Enrichment
