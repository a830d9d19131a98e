/-!
# Cutting a text

At every character of a kind (`pieces`), or at the first one (`cut`).

* `pieces_flatMap` — pieces that each end in a separator.
-/

namespace Outbox.Text

/-- What stands between the separators of a text. -/
def pieces (sep : Char → Bool) : List Char → List (List Char)
  | [] => [[]]
  | c :: cs =>
    if sep c then [] :: pieces sep cs
    else
      match pieces sep cs with
      | [] => [[c]]
      | p :: ps => (c :: p) :: ps

/-- What precedes the first separator, and what follows it if there is one. -/
def cut (sep : Char) : List Char → List Char × Option (List Char)
  | [] => ([], none)
  | c :: cs =>
    if c = sep then ([], some cs)
    else (c :: (cut sep cs).1, (cut sep cs).2)

theorem pieces_append {sep : Char → Bool} {line : List Char} (hline : ∀ d ∈ line, sep d = false)
    {c : Char} (hc : sep c = true) (rest : List Char) :
    pieces sep (line ++ c :: rest) = line :: pieces sep rest := by
  induction line with
  | nil => rw [List.nil_append, pieces, if_pos hc]
  | cons d line ih =>
    have hd : sep d = false := hline d List.mem_cons_self
    rw [List.cons_append, pieces, ih fun e he => hline e (List.mem_cons_of_mem d he), hd]
    rfl

/-- Pieces that each end in a separator, and nothing after the last of them. -/
theorem pieces_flatMap {sep : Char → Bool} {lines : List (List Char)}
    (hlines : ∀ line ∈ lines, ∀ d ∈ line, sep d = false) {c : Char} (hc : sep c = true) :
    pieces sep (lines.flatMap fun line => line ++ [c]) = lines ++ [[]] := by
  induction lines with
  | nil => rfl
  | cons line lines ih =>
    rw [List.flatMap_cons, List.append_assoc, List.singleton_append,
      pieces_append (hlines line List.mem_cons_self) hc,
      ih fun l hl => hlines l (List.mem_cons_of_mem line hl), List.cons_append]

end Outbox.Text
