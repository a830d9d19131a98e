import Mathlib.Tactic.Ring
import Outbox.Proofs.Search.Bulk

/-!
# The lines of a bulk body

Only line feeds tell where an action ends and its source begins, so a body is read as it was written
only if no line has one inside.  No character of a rendered value is a control, whatever its texts hold;
so cutting at the line feeds gives back the values, two for each item, target by target.

* `getElem?_flatMap_of_length` — what stands where in blocks of one length;
* `Framed` — a body whose lines are those of items, and that is read as these;
* `bulk_framed` — the bodies of bulk requests.
-/

namespace Outbox

namespace Text

/-- The pieces of a text are those that the library cuts a list into. -/
theorem pieces_eq_splitOnP (sep : Char → Bool) (cs : List Char) : pieces sep cs = cs.splitOnP sep := by
  induction cs with
  | nil => rfl
  | cons c cs ih =>
      rw [pieces, List.splitOnP_cons_eq_if_modifyHead, ih]
      split
      · rfl
      · cases hcs : cs.splitOnP sep with
        | nil => exact absurd hcs (List.splitOnP_ne_nil sep cs)
        | cons p ps => rfl

end Text

namespace Search

open Outbox.Json

/-! ### Places -/

/-- Blocks of one length, one after the other. -/
theorem getElem?_flatMap_of_length {α β : Type} {f : α → List β} {size : Nat}
    (hsize : ∀ x, (f x).length = size) (xs : List α) (j : Nat) {i : Nat} (hi : i < size) :
    (xs.flatMap f)[j * size + i]? = xs[j]?.bind fun x => (f x)[i]? := by
  induction xs generalizing j with
  | nil => rfl
  | cons x xs ih =>
      have hx := hsize x
      rw [List.flatMap_cons]
      cases j with
      | zero =>
          rw [List.getElem?_append_left (by omega), Nat.zero_mul, Nat.zero_add]
          rfl
      | succ j =>
          have hplace : (j + 1) * size + i = (f x).length + (j * size + i) := by
            rw [Nat.succ_mul]
            omega
          rw [hplace, List.getElem?_append_right (Nat.le_add_right _ _), Nat.add_sub_cancel_left, ih]
          rfl

variable {targets : List String} {items : List Item}

theorem length_lineValues :
    (lineValues targets items).length = 2 * items.length * targets.length := by
  simp only [lineValues, addressed, List.length_flatMap, List.length_map, List.length_cons,
    List.length_nil, List.map_const', List.sum_replicate_nat]
  ring

/-- Two values stand for an item, after those of all items for the targets before. -/
theorem getElem?_lineValues {j i : Nat} (hj : j < targets.length) (hi : i < items.length) :
    (lineValues targets items)[2 * (j * items.length + i)]? = some (Request.action targets[j] items[i].1) ∧
      (lineValues targets items)[2 * (j * items.length + i) + 1]? = some items[i].2 := by
  have haddressed : (addressed targets items)[j * items.length + i]? = some (targets[j], items[i]) := by
    rw [addressed, getElem?_flatMap_of_length (fun _ => List.length_map _) targets j hi]
    simp [hj, hi]
  have htwo : ∀ p : String × Item, [Request.action p.1 p.2.1, p.2.2].length = 2 := fun _ => rfl
  have hline : ∀ side < 2, (lineValues targets items)[(j * items.length + i) * 2 + side]?
      = [Request.action targets[j] items[i].1, items[i].2][side]? := by
    intro side hside
    rw [lineValues, getElem?_flatMap_of_length htwo _ _ hside, haddressed]
    rfl
  rw [Nat.mul_comm 2]
  exact ⟨hline 0 (by decide), hline 1 (by decide)⟩

/-! ### Bodies -/

/-- A body is framed as items for targets.  Cut at its line feeds it has two lines for every item and
target, none of which is empty, and nothing after the last; and it is read as these items. -/
structure Framed (body : String) (targets : List String) (items : List Item) : Prop where
  ends : body.toList.getLast? = some '\n'
  lines : ∃ lines, body.toList.splitOn '\n' = lines ++ [[]] ∧
    lines.length = 2 * items.length * targets.length ∧ (∀ line ∈ lines, line ≠ []) ∧
    ∀ j i, ∀ hj : j < targets.length, ∀ hi : i < items.length,
      lines[2 * (j * items.length + i)]? = some (Request.action targets[j] items[i].1).render ∧
        lines[2 * (j * items.length + i) + 1]? = some items[i].2.render
  reads : writes? body = some (targets.flatMap fun target => items.map fun item =>
    ⟨target, item.1.text, tree item.2⟩)

theorem framed_bulkBody (htargets : targets ≠ []) (hitems : items ≠ []) :
    Framed (String.ofList (Request.bulkBody targets items)) targets items where
  ends := by
    have hlines : (lineValues targets items).map render ≠ [] := by
      rw [← List.length_pos_iff, List.length_map, length_lineValues]
      exact Nat.mul_pos (Nat.mul_pos (by decide) (List.length_pos_iff.mpr hitems))
        (List.length_pos_iff.mpr htargets)
    rw [String.toList_ofList, bulkBody_eq, ← List.dropLast_append_getLast hlines, List.flatMap_append,
      List.flatMap_singleton, ← List.append_assoc, List.getLast?_concat]
  lines := by
    refine ⟨(lineValues targets items).map render, ?_, ?_, ?_, ?_⟩
    · rw [String.toList_ofList]
      exact (Text.pieces_eq_splitOnP _ _).symm.trans (pieces_bulkBody targets items)
    · rw [List.length_map, length_lineValues]
    · rintro line hline
      obtain ⟨value, -, rfl⟩ := List.mem_map.mp hline
      obtain ⟨c, cs, hrender, -⟩ := exists_render_eq_cons value
      rw [hrender]
      exact List.cons_ne_nil c cs
    · intro j i hj hi
      obtain ⟨haction, hsource⟩ := getElem?_lineValues hj hi
      rw [List.getElem?_map, List.getElem?_map, haction, hsource]
      exact ⟨rfl, rfl⟩
  reads := by
    rw [writes?_bulkBody, addressed, List.map_flatMap]
    simp only [List.map_map]
    rfl

/-- **A bulk body is read as it was written**: by the live index alone, or by it and then by the target
of a reindex, if that is another index. -/
theorem bulk_framed {items : List Item} (hitems : items ≠ []) (s : Settings) (url : Url) :
    (∀ target, s.reindexTarget = some target → target ≠ s.index →
      Framed (Request.bulk s items url).body [s.index, target] items) ∧
    ((∀ target, s.reindexTarget = some target → target = s.index) →
      Framed (Request.bulk s items url).body [s.index] items) := by
  constructor
  · intro target htarget hother
    have htargets : s.writeTargets = [s.index, target] := by
      rw [Settings.writeTargets, htarget]
      exact if_neg hother
    rw [Request.bulk, htargets]
    exact framed_bulkBody (List.cons_ne_nil _ _) hitems
  · intro hsame
    have htargets : s.writeTargets = [s.index] := by
      rw [Settings.writeTargets]
      cases htarget : s.reindexTarget with
      | none => rfl
      | some target => exact if_pos (hsame target htarget)
    rw [Request.bulk, htargets]
    exact framed_bulkBody (List.cons_ne_nil _ _) hitems

/-- An index on this machine that is being indexed anew. -/
def renewed : Settings :=
  ⟨"http://localhost:9200", "annotation", none, some "annotation_new", .never⟩

/-- Where its writes go. -/
def renewedUrl : Url :=
  ⟨"http".toList, [], [], some (.name "localhost".toList), some 9200, "/_bulk".toList, none, none⟩

/-- A source with line feeds and quotes at every depth, in names and in texts, and a tombstone. -/
def multiline : List Item :=
  [(⟨.ofNat 1⟩, .object [("a\nb", .array [.string "\n", .object [("\"", .string "\u0001\n\r\n")]]),
      ("é", .string "\u2028\\n")]),
    (⟨.ofNat 2⟩, tombstoneSource)]

theorem bulk_framed_multiline :
    multiline ≠ [] ∧ renewed.reindexTarget = some "annotation_new" ∧
      Framed (Request.bulk renewed multiline renewedUrl).body ["annotation", "annotation_new"]
        multiline :=
  ⟨List.cons_ne_nil _ _, rfl,
    (bulk_framed (List.cons_ne_nil _ _) renewed renewedUrl).1 "annotation_new" rfl (by decide)⟩

end Search

end Outbox
