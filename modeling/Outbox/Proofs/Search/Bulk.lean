import Outbox.Proofs.Json.Roundtrip
import Outbox.Search.Reply
import Outbox.Search.Request
import Outbox.Text.Pieces

/-!
# Requests as the other side reads them

A server cuts the body of a bulk request at its line feeds and reads every line as one value: by turns
where an item goes, and what is written there.  From a search it reads the identifiers that are asked
for.  Neither knows how the client writes.

* `writes?_bulkBody` — a bulk body is read as the items that it was made of, target by target;
* `queried?_statusQuery` — a search is read as the identifiers that it asks for.
-/

namespace Outbox

open Outbox.Json

/-! ### Members -/

/-- The member of a name; an object that is written has no two of one name. -/
def Json.Tree.member? (t : Tree) (name : String) : Option Tree :=
  match t with
  | .object ms => Table.find? ms (some name)
  | _ => none

theorem Json.member?_tree_object (ms : List (String × Json)) (name : String) :
    (tree (.object ms)).member? name = (Table.find? ms name).map tree := by
  show Table.find? (memberTrees ms) (some name) = _
  induction ms with
  | nil => rfl
  | cons m ms ih =>
      obtain ⟨k, v⟩ := m
      rw [memberTrees, Table.find?_cons, Table.find?_cons, ih]
      by_cases hk : k = name
      · rw [if_pos hk, if_pos (congrArg some hk), Option.map_some]
      · rw [if_neg hk, if_neg (mt Option.some.inj hk)]

namespace Search

/-! ### Bulk requests -/

/-- An action of a bulk request: where an item goes, and its source. -/
structure Write where
  index : String
  id : String
  source : Tree

/-- Reads the two lines of an item. -/
def Write.ofTrees? (action source : Tree) : Option Write := do
  let target ← action.member? "index"
  let index ← target.member? "_index"
  let id ← target.member? "_id"
  some ⟨← text? index, ← text? id, source⟩

/-- Reads lines by twos. -/
def writesOfTrees? : List Tree → Option (List Write)
  | [] => some []
  | [_] => none
  | action :: source :: rest => do
    let w ← Write.ofTrees? action source
    let ws ← writesOfTrees? rest
    some (w :: ws)

/-- The lines of a text in which each ends in a line feed. -/
def lines? (cs : List Char) : Option (List (List Char)) :=
  let ps := Text.pieces (· == '\n') cs
  if ps.getLast? = some [] then some ps.dropLast else none

/-- Reads the body of a bulk request. -/
def writes? (body : String) : Option (List Write) := do
  let lines ← lines? body.toList
  let trees ← lines.mapM fun line => readScalars (line.map some)
  writesOfTrees? trees

/-- The items for each target in turn. -/
def addressed (targets : List String) (items : List Item) : List (String × Item) :=
  targets.flatMap fun target => items.map fun item => (target, item)

/-- What an item for a target is read as. -/
def Write.ofItem (p : String × Item) : Write := ⟨p.1, p.2.1.text, tree p.2.2⟩

/-- The values of a bulk body, line by line. -/
def lineValues (targets : List String) (items : List Item) : List Json :=
  (addressed targets items).flatMap fun p => [Request.action p.1 p.2.1, p.2.2]

theorem bulkBody_eq (targets : List String) (items : List Item) :
    Request.bulkBody targets items
      = ((lineValues targets items).map render).flatMap fun line => line ++ ['\n'] := by
  have hitems : ∀ target (items : List Item), items.flatMap (Request.itemLines target)
      = ((items.flatMap fun item => [Request.action target item.1, item.2]).map render).flatMap
          fun line => line ++ ['\n'] := by
    intro target items
    induction items with
    | nil => rfl
    | cons item items ih =>
        rw [List.flatMap_cons, ih, Request.itemLines]
        simp
  rw [Request.bulkBody, lineValues, addressed]
  induction targets with
  | nil => rfl
  | cons target targets ih =>
      rw [List.flatMap_cons, ih, hitems]
      simp [List.flatMap_map]

/-- **Framing.**  No line of a bulk body has a line feed inside. -/
theorem pieces_bulkBody (targets : List String) (items : List Item) :
    Text.pieces (· == '\n') (Request.bulkBody targets items)
      = (lineValues targets items).map render ++ [[]] := by
  have hlines : ∀ line ∈ (lineValues targets items).map render, ∀ d ∈ line, (d == '\n') = false := by
    rintro line hline d hd
    obtain ⟨j, -, rfl⟩ := List.mem_map.mp hline
    have hshown := isShown_render j d hd
    rw [beq_eq_false_iff_ne]
    rintro rfl
    exact absurd hshown (by decide)
  rw [bulkBody_eq, Text.pieces_flatMap hlines rfl]

theorem lines?_bulkBody (targets : List String) (items : List Item) :
    lines? (Request.bulkBody targets items) = some ((lineValues targets items).map render) := by
  rw [lines?, pieces_bulkBody]
  simp

theorem mapM_readScalars (js : List Json) :
    (js.map render).mapM (fun line => readScalars (line.map some)) = some (js.map tree) := by
  rw [List.mapM_map,
    show ((fun line => readScalars (line.map some)) ∘ render) = fun j => pure (tree j) from
      funext readScalars_render]
  exact List.mapM_pure

theorem ofTrees?_action (target : String) (item : Item) :
    Write.ofTrees? (tree (Request.action target item.1)) (tree item.2)
      = some (Write.ofItem (target, item)) := by
  simp only [Write.ofTrees?, Request.action, Json.member?_tree_object, Table.find?_cons, if_true,
    Option.map_some, Option.bind_eq_bind, Option.bind_some, String.reduceEq, if_false]
  rfl

theorem writesOfTrees?_lineValues (targets : List String) (items : List Item) :
    writesOfTrees? ((lineValues targets items).map tree)
      = some ((addressed targets items).map Write.ofItem) := by
  rw [lineValues]
  induction addressed targets items with
  | nil => rfl
  | cons p ps ih =>
      rw [List.flatMap_cons, List.map_append]
      show (do
        let w ← Write.ofTrees? (tree (Request.action p.1 p.2.1)) (tree p.2.2)
        let ws ← writesOfTrees? (List.map tree _)
        some (w :: ws)) = _
      rw [ofTrees?_action, ih]
      rfl

/-- **A bulk body is read as what it was made of.** -/
theorem writes?_bulkBody (targets : List String) (items : List Item) :
    writes? (String.ofList (Request.bulkBody targets items))
      = some ((addressed targets items).map Write.ofItem) := by
  rw [writes?, String.toList_ofList, lines?_bulkBody]
  show (do
    let trees ← List.mapM _ _
    writesOfTrees? trees) = _
  rw [mapM_readScalars]
  exact writesOfTrees?_lineValues targets items

/-! ### Searches -/

/-- Reads which identifiers a search asks for. -/
def queried? (body : String) : Option (List String) := do
  let t ← readScalars (body.toList.map some)
  let query ← t.member? "query"
  let ids ← query.member? "ids"
  let values ← ids.member? "values"
  list? text? values

/-- **A search is read as what it asks for.** -/
theorem queried?_statusQuery (ids : List EntityId) :
    queried? (Request.statusQuery ids).text = some (ids.map EntityId.text) := by
  rw [queried?, Json.text, String.toList_ofList, readScalars_render]
  show list? text? (.array (trees (ids.map fun i => .string i.text))) = _
  rw [list?, trees_eq_map, List.map_map, List.mapM_map]
  exact List.mapM_pure

end Search

end Outbox
