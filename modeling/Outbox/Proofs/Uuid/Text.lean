import Outbox.Entity
import Outbox.Proofs.Text.Utf8

/-!
# Identifiers read back

The written form of an identifier is one of the spellings that are read, and is read as that
identifier.

* `Uuid.ofText?_text`, `EntityId.ofText?_text` — reading what was written;
* `EntityId.text_injective` — so identifiers with the same text are the same.
-/

namespace Outbox

open Outbox.Text

namespace Uuid

/-! ### Groups -/

theorem grouped_append {a b c d e : List Char} (ha : a.length = 8) (hb : b.length = 4)
    (hc : c.length = 4) (hd : d.length = 4) :
    grouped (a ++ (b ++ (c ++ (d ++ e))))
      = a ++ '-' :: (b ++ '-' :: (c ++ '-' :: (d ++ '-' :: e))) := by
  simp [grouped, List.drop_append, ha, hb, hc, hd, List.drop_of_length_le]

/-- Thirty-two digits are five groups. -/
theorem exists_groups {ds : List Char} (h : ds.length = 32) :
    ∃ a b c d e, ds = a ++ (b ++ (c ++ (d ++ e))) ∧ a.length = 8 ∧ b.length = 4 ∧ c.length = 4 ∧
      d.length = 4 ∧ e.length = 12 := by
  refine ⟨ds.take 8, (ds.drop 8).take 4, (ds.drop 12).take 4, (ds.drop 16).take 4, ds.drop 20, ?_,
    by simp [h], by simp [h], by simp [h], by simp [h], by simp [h]⟩
  conv_lhs => rw [← List.take_append_drop 8 ds, ← List.take_append_drop 4 (ds.drop 8),
    List.drop_drop, ← List.take_append_drop 4 (ds.drop 12), List.drop_drop,
    ← List.take_append_drop 4 (ds.drop 16), List.drop_drop]

/-- Groups read as their digits do. -/
theorem ofGroups?_grouped {ds : List Char} (h : ds.length = 32) :
    ofGroups? (grouped ds) = ofBare? ds := by
  obtain ⟨a, b, c, d, e, rfl, ha, hb, hc, hd, he⟩ := exists_groups h
  have hungrouped : (grouped (a ++ (b ++ (c ++ (d ++ e))))).take 8
      ++ ((grouped (a ++ (b ++ (c ++ (d ++ e))))).drop 9).take 4
      ++ ((grouped (a ++ (b ++ (c ++ (d ++ e))))).drop 14).take 4
      ++ ((grouped (a ++ (b ++ (c ++ (d ++ e))))).drop 19).take 4
      ++ (grouped (a ++ (b ++ (c ++ (d ++ e))))).drop 24 = a ++ (b ++ (c ++ (d ++ e))) := by
    rw [grouped_append ha hb hc hd]
    simp [List.drop_append, ha, hb, hc, hd, List.drop_of_length_le]
  rw [ofGroups?, hungrouped, if_pos rfl]

theorem length_grouped {ds : List Char} (h : ds.length = 32) : (grouped ds).length = 36 := by
  obtain ⟨a, b, c, d, e, rfl, ha, hb, hc, hd, he⟩ := exists_groups h
  rw [grouped_append ha hb hc hd]
  simp [ha, hb, hc, hd, he]

theorem mem_grouped {ds : List Char} {x : Char} (h : x ∈ grouped ds) : x = '-' ∨ x ∈ ds := by
  simp only [grouped, List.mem_append, List.mem_cons] at h
  rcases h with ((((h | rfl | h) | rfl | h) | rfl | h) | rfl | h) <;>
    first
    | exact .inl rfl
    | exact .inr (List.mem_of_mem_take h)
    | exact .inr (List.mem_of_mem_drop (List.mem_of_mem_take h))
    | exact .inr (List.mem_of_mem_drop h)

/-! ### Reading what was written -/

theorem ofBare?_digits (u : Uuid) : ofBare? (Hex.digits 32 u.value) = some u := by
  rw [ofBare?, if_pos (Hex.length_digits 32 u.value), Hex.ofDigits?_digits u.value_lt,
    Option.map_some, ofNat_value]

theorem length_chars (u : Uuid) : u.chars.length = 36 :=
  length_grouped (Hex.length_digits 32 u.value)

theorem utf8Size_of_mem_chars (u : Uuid) : ∀ c ∈ u.chars, c.utf8Size = 1 := by
  intro c hc
  cases mem_grouped hc with
  | inl h => rw [h]; rfl
  | inr h =>
      obtain ⟨k, hk, rfl⟩ := Hex.exists_digit_of_mem h
      exact (Hex.digit_ascii k hk).1

theorem byteLength_chars (u : Uuid) : Utf8.byteLength u.chars = 36 := by
  rw [Utf8.byteLength_of_ascii (utf8Size_of_mem_chars u), length_chars]

/-- **Identifiers read back.** -/
theorem ofText?_text (u : Uuid) : ofText? u.text = some u := by
  have hgroups : ofGroups? u.chars = some u := by
    rw [chars, ofGroups?_grouped (Hex.length_digits 32 u.value), ofBare?_digits]
  rw [ofText?, ofText, text, String.toList_ofList, parse]
  dsimp only
  rw [if_pos (byteLength_chars u), hgroups]
  rfl

end Uuid

namespace EntityId

theorem ofText?_text (e : EntityId) : ofText? e.text = some e := by
  rw [ofText?, text, Uuid.ofText?_text]
  rfl

/-- Identifiers with the same text are the same. -/
theorem text_injective {e e' : EntityId} (h : e.text = e'.text) : e = e' := by
  have hread := ofText?_text e
  rw [h, ofText?_text] at hread
  exact (Option.some.inj hread).symm

end EntityId

end Outbox
