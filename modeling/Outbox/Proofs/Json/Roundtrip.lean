import Outbox.Proofs.Json.Numeral
import Outbox.Proofs.Text.Utf8

/-!
# Written values read back

The compact text of a value is read as the tree of that value, whatever follows it, and holds no
control character, so that it is one line.

* `takeString_renderString` — strings, one character after the other;
* `takeValue_render` — values, by recursion on the value, with fuel for every character;
* `readScalars_render` — a text that is one value;
* `isShown_render` — no control characters.
-/

namespace Outbox.Json

open Outbox.Text

/-! ### Strings -/

/-- What the reader makes of a character as it is written: controls without a letter of their own
are units. -/
def pieceOf (c : Char) : Piece :=
  if c ∈ ['\x08', '\x0c', '\n', '\r', '\t'] then .scalar (some c)
  else if c.toNat < 0x20 then .unit c.toNat
  else .scalar (some c)

theorem joinUnits_unit {n : Nat} (h : n < 0x20) (ps : List Piece) :
    joinUnits (.unit n :: ps) = some (Char.ofNat n) :: joinUnits ps := by
  have hhigh : isHighUnit n = false := by
    rw [isHighUnit, Bool.and_eq_false_iff]
    exact .inl (by simp; omega)
  have hlow : isLowUnit n = false := by
    rw [isLowUnit, Bool.and_eq_false_iff]
    exact .inl (by simp; omega)
  match ps with
  | [] => simp [joinUnits, hhigh, hlow]
  | .scalar c :: ps => simp [joinUnits, hhigh, hlow]
  | .unit l :: ps => simp [joinUnits, hhigh, hlow]

theorem joinUnits_pieceOf (c : Char) (ps : List Piece) :
    joinUnits (pieceOf c :: ps) = some c :: joinUnits ps := by
  rw [pieceOf]
  split
  · rw [joinUnits]
  · split
    · rename_i h
      rw [joinUnits_unit h, Char.ofNat_toNat]
    · rw [joinUnits]

section

variable (rest : Scalars)

/-- A letter after a backslash. -/
theorem takePieces_letter {c e : Char} (hc : c ≠ 'u') (he : shortEscape? c = some e) :
    takePieces (some '\\' :: some c :: rest)
      = (takePieces rest).map fun taken => (.scalar (some e) :: taken.1, taken.2) := by
  rw [takePieces, he]
  · cases takePieces rest <;> rfl
  · exact fun _ _ _ _ _ _ h => hc h

/-- Four digits after a backslash and a `u`. -/
theorem takePieces_unit {n : Nat} (h : n < Nat.pow 16 4) :
    takePieces (('\\' :: 'u' :: Hex.digits 4 n).map some ++ rest)
      = (takePieces rest).map fun taken => (.unit n :: taken.1, taken.2) := by
  have hunit : hexUnit? (some (Hex.digit (n / 16 / 16 / 16 % 16)))
      (some (Hex.digit (n / 16 / 16 % 16))) (some (Hex.digit (n / 16 % 16)))
      (some (Hex.digit (n % 16))) = some n :=
    Hex.ofDigits?_digits h
  show takePieces (some '\\' :: some 'u' :: some _ :: some _ :: some _ :: some _ :: rest) = _
  rw [takePieces, hunit]
  cases takePieces rest <;> rfl

/-- A character that stands for itself. -/
theorem takePieces_plain {c : Char} (hquote : c ≠ '"') (hslash : c ≠ '\\')
    (hshown : 0x20 ≤ c.toNat) :
    takePieces (some c :: rest)
      = (takePieces rest).map fun taken => (.scalar (some c) :: taken.1, taken.2) := by
  have hcontrol : ((some c).map fun c => decide (c.toNat < 0x20)) = some false := by
    rw [Option.map_some, decide_eq_false (by omega)]
  rw [takePieces, hcontrol]
  · cases takePieces rest <;> rfl
  all_goals simp [*]

theorem takePieces_escapeChar (c : Char) :
    takePieces ((escapeChar c).map some ++ rest)
      = (takePieces rest).map fun taken => (pieceOf c :: taken.1, taken.2) := by
  by_cases hletter : c ∈ ['"', '\\', '\x08', '\x0c', '\n', '\r', '\t']
  · simp only [List.mem_cons, List.not_mem_nil, or_false] at hletter
    rcases hletter with rfl | rfl | rfl | rfl | rfl | rfl | rfl <;>
      exact takePieces_letter rest (by decide) rfl
  · simp only [List.mem_cons, List.not_mem_nil, or_false, not_or] at hletter
    by_cases hcontrol : c.toNat < 0x20
    · rw [show escapeChar c = '\\' :: 'u' :: Hex.digits 4 c.toNat by simp [escapeChar, *],
        show pieceOf c = .unit c.toNat by simp [pieceOf, *]]
      exact takePieces_unit rest (hcontrol.trans (by decide))
    · rw [show escapeChar c = [c] by simp [escapeChar, *],
        show pieceOf c = .scalar (some c) by simp [pieceOf, *]]
      exact takePieces_plain rest hletter.1 hletter.2.1 (by omega)

end

/-- The pieces of a string up to its closing quote. -/
theorem takePieces_flatMap (cs : List Char) (rest : Scalars) :
    takePieces ((cs.flatMap escapeChar).map some ++ some '"' :: rest)
      = some (cs.map pieceOf, rest) := by
  induction cs with
  | nil => rfl
  | cons c cs ih =>
      rw [List.flatMap_cons, List.map_append, List.append_assoc, takePieces_escapeChar, ih]
      rfl

theorem joinUnits_map (cs : List Char) : joinUnits (cs.map pieceOf) = cs.map some := by
  induction cs with
  | nil => rfl
  | cons c cs ih => rw [List.map_cons, joinUnits_pieceOf, ih, List.map_cons]

/-- **Strings read back.** -/
theorem takeString_renderString (s : String) (rest : Scalars) :
    takeString ((s.toList.flatMap escapeChar).map some ++ some '"' :: rest)
      = some (some s, rest) := by
  rw [takeString, takePieces_flatMap]
  have hunits : (joinUnits (s.toList.map pieceOf)).mapM id = some s.toList := by
    rw [joinUnits_map, List.mapM_map]
    exact (List.mapM_pure (f := id)).trans (by rw [List.map_id]; rfl)
  show some (((joinUnits (s.toList.map pieceOf)).mapM id).map String.ofList, rest) = _
  rw [hunits, Option.map_some, String.ofList_toList]

/-! ### Trees -/

mutual

/-- The tree that a value is written as. -/
def tree : Json → Tree
  | .null => .null
  | .bool b => .bool b
  | .number n => .numeral (numeralOf n)
  | .string s => .string (some s)
  | .array xs => .array (trees xs)
  | .object ms => .object (memberTrees ms)

/-- The trees of elements. -/
def trees : List Json → List Tree
  | [] => []
  | x :: xs => tree x :: trees xs

/-- The trees of members. -/
def memberTrees : List (String × Json) → List (Option String × Tree)
  | [] => []
  | (k, v) :: ms => (some k, tree v) :: memberTrees ms

end

theorem trees_eq_map (xs : List Json) : trees xs = xs.map tree := by
  induction xs with
  | nil => rfl
  | cons x xs ih => rw [trees, ih, List.map_cons]

theorem memberTrees_eq_map (ms : List (String × Json)) :
    memberTrees ms = ms.map fun m => (some m.1, tree m.2) := by
  induction ms with
  | nil => rfl
  | cons m ms ih => rw [memberTrees, ih, List.map_cons]

/-! ### Values -/

theorem skipGaps_cons {c : Char} (h : isGap (some c) = false) (s : Scalars) :
    skipGaps (some c :: s) = some c :: s := by
  rw [skipGaps, List.dropWhile_cons, h]
  rfl

theorem not_gap_of_digit {c : Char} (h : c = '-' ∨ c.isDigit = true) :
    isGap (some c) = false ∧ c ≠ ']' := by
  rcases h with rfl | hdigit
  · exact ⟨rfl, by decide⟩
  · constructor
    · simp only [isGap, Bool.or_eq_false_iff, beq_eq_false_iff_ne, ne_eq, Option.some.injEq]
      refine ⟨⟨⟨?_, ?_⟩, ?_⟩, ?_⟩ <;> (rintro rfl; cases hdigit)
    · rintro rfl
      cases hdigit

/-- A value begins with a character that is no blank and closes nothing. -/
theorem exists_render_eq_cons (j : Json) :
    ∃ c cs, render j = c :: cs ∧ isGap (some c) = false ∧ c ≠ ']' := by
  match j with
  | .null | .bool true | .bool false | .string _ | .array [] | .array (_ :: _) | .object []
  | .object (_ :: _) => exact ⟨_, _, rfl, rfl, by decide⟩
  | .number n =>
      obtain ⟨c, cs, htext, hc⟩ := head?_renderNumber n
      exact ⟨c, cs, htext, not_gap_of_digit hc⟩

/-- A string has two quotes. -/
theorem length_renderString (s : String) : 2 ≤ (renderString s).length := by
  simp [renderString]

section

variable (fuel : Nat)

/-- What begins with a digit or a sign is a numeral. -/
theorem takeValue_numeral {c : Char} {s : Scalars} (h : c = '-' ∨ c.isDigit = true) :
    takeValue (fuel + 1) (some c :: s)
      = (takeNumeral (some c :: s)).map fun taken => (.numeral taken.1, taken.2) := by
  rw [takeValue, skipGaps_cons (not_gap_of_digit h).1]
  split
  case h_7 => cases takeNumeral (some c :: s) <;> rfl
  all_goals
    rename_i heq
    cases heq
    rcases h with h | h <;> cases h

/-- What does not close an array is its first element. -/
theorem takeValue_array {c : Char} {s : Scalars} (hgap : isGap (some c) = false) (hc : c ≠ ']') :
    takeValue (fuel + 1) (some '[' :: some c :: s) = (do
      let (x, s) ← takeValue fuel (some c :: s)
      let (xs, s) ← takeElements fuel s
      some (.array (x :: xs), s)) := by
  have hopen : skipGaps (some '[' :: some c :: s) = some '[' :: some c :: s :=
    skipGaps_cons (by decide) _
  simp only [takeValue, hopen, skipGaps_cons hgap]
  split
  · rename_i heq
    cases heq
    exact absurd rfl hc
  · rfl

/-- A name, a colon and a value. -/
theorem takeMember_render {k : String} {j : Json} {rest : Scalars}
    (h : takeValue fuel ((render j).map some ++ rest) = some (tree j, rest)) :
    takeMember (fuel + 1) ((renderString k ++ ':' :: render j).map some ++ rest)
      = some ((some k, tree j), rest) := by
  have htext : (renderString k ++ ':' :: render j).map some ++ rest
      = some '"' :: ((k.toList.flatMap escapeChar).map some ++ some '"' ::
        (some ':' :: ((render j).map some ++ rest))) := by
    simp [renderString]
  rw [htext]
  show (takeString _).bind _ = _
  rw [takeString_renderString]
  show (takeValue fuel ((render j).map some ++ rest)).bind _ = _
  rw [h]
  rfl

end

theorem ends_renderElements (xs : List Json) (rest : Scalars) :
    Ends ((renderElements xs).map some ++ rest) := by
  cases xs <;> exact ends_cons (by decide)

theorem ends_renderMembers (ms : List (String × Json)) (rest : Scalars) :
    Ends ((renderMembers ms).map some ++ rest) := by
  match ms with
  | [] | _ :: _ => exact ends_cons (by decide)

mutual

/-- **Values read back**, with fuel for every character. -/
theorem takeValue_render (j : Json) (fuel : Nat) (rest : Scalars) (hrest : Ends rest)
    (hfuel : (render j).length ≤ fuel) :
    takeValue fuel ((render j).map some ++ rest) = some (tree j, rest) := by
  match fuel, j with
  | 0, j =>
      obtain ⟨c, cs, htext, -⟩ := exists_render_eq_cons j
      rw [htext] at hfuel
      exact absurd hfuel (by simp)
  | _ + 1, .null | _ + 1, .bool true | _ + 1, .bool false | _ + 1, .array []
  | _ + 1, .object [] => rfl
  | fuel + 1, .number n =>
      obtain ⟨c, cs, htext, hc⟩ := head?_renderNumber n
      have htake := takeNumeral_renderNumber n hrest
      rw [htext] at htake
      rw [render, htext, List.map_cons, List.cons_append, takeValue_numeral fuel hc]
      rw [List.map_cons, List.cons_append] at htake
      rw [htake]
      rfl
  | fuel + 1, .string s =>
      have htext : (render (.string s)).map some ++ rest
          = some '"' :: ((s.toList.flatMap escapeChar).map some ++ some '"' :: rest) := by
        simp [render, renderString]
      rw [htext]
      show (do
        let (t, s) ← takeString _
        some (Tree.string t, s)) = _
      rw [takeString_renderString]
      rfl
  | fuel + 1, .array (x :: xs) =>
      obtain ⟨c, cs, hx, hgap, hc⟩ := exists_render_eq_cons x
      have htext : (render (.array (x :: xs))).map some ++ rest
          = some '[' :: ((render x).map some ++ ((renderElements xs).map some ++ rest)) := by
        simp [render]
      have hlength : (render (.array (x :: xs))).length
          = 1 + (render x).length + (renderElements xs).length := by
        simp [render]
        omega
      have hread := takeValue_render x fuel _ (ends_renderElements xs rest) (by omega)
      rw [htext]
      rw [hx] at hread ⊢
      rw [List.map_cons, List.cons_append] at hread ⊢
      rw [takeValue_array fuel hgap hc, hread]
      show (do
        let (xs, s) ← takeElements fuel _
        some (Tree.array (tree x :: xs), s)) = _
      rw [takeElements_render xs fuel rest (by omega)]
      rfl
  | fuel + 1, .object ((k, v) :: ms) =>
      have htext : (render (.object ((k, v) :: ms))).map some ++ rest
          = some '{' :: ((renderString k ++ ':' :: render v).map some ++
            ((renderMembers ms).map some ++ rest)) := by
        simp [render]
      have hlength : (render (.object ((k, v) :: ms))).length
          = 1 + (renderString k).length + 1 + (render v).length + (renderMembers ms).length := by
        simp [render]
        omega
      have hquotes : 2 ≤ (renderString k).length := length_renderString k
      obtain ⟨fuel, rfl⟩ := Nat.exists_eq_succ_of_ne_zero (show fuel ≠ 0 by omega)
      have hread := takeValue_render v fuel _ (ends_renderMembers ms rest) (by omega)
      rw [htext]
      show (do
        let (m, s) ← takeMember (fuel + 1) ((renderString k ++ ':' :: render v).map some ++
          ((renderMembers ms).map some ++ rest))
        let (ms, s) ← takeMembers (fuel + 1) s
        some (Tree.object (m :: ms), s)) = _
      rw [takeMember_render fuel hread]
      show (do
        let (ms, s) ← takeMembers (fuel + 1) _
        some (Tree.object ((some k, tree v) :: ms), s)) = _
      rw [takeMembers_render ms (fuel + 1) rest (by omega)]
      rfl

/-- The elements after the first. -/
theorem takeElements_render (xs : List Json) (fuel : Nat) (rest : Scalars)
    (hfuel : (renderElements xs).length ≤ fuel) :
    takeElements fuel ((renderElements xs).map some ++ rest) = some (trees xs, rest) := by
  match fuel, xs with
  | 0, [] | 0, _ :: _ => exact absurd hfuel (by simp [renderElements])
  | fuel + 1, [] => rfl
  | fuel + 1, x :: xs =>
      have htext : (renderElements (x :: xs)).map some ++ rest
          = some ',' :: ((render x).map some ++ ((renderElements xs).map some ++ rest)) := by
        simp [renderElements]
      have hlength : (renderElements (x :: xs)).length
          = 1 + (render x).length + (renderElements xs).length := by
        simp [renderElements]
        omega
      have hread := takeValue_render x fuel _ (ends_renderElements xs rest) (by omega)
      rw [htext]
      show (do
        let (x, s) ← takeValue fuel _
        let (xs, s) ← takeElements fuel s
        some (x :: xs, s)) = _
      rw [hread]
      show (do
        let (xs, s) ← takeElements fuel _
        some (tree x :: xs, s)) = _
      rw [takeElements_render xs fuel rest (by omega)]
      rfl

/-- The members after the first. -/
theorem takeMembers_render (ms : List (String × Json)) (fuel : Nat) (rest : Scalars)
    (hfuel : (renderMembers ms).length ≤ fuel) :
    takeMembers fuel ((renderMembers ms).map some ++ rest) = some (memberTrees ms, rest) := by
  match fuel, ms with
  | 0, [] | 0, _ :: _ => exact absurd hfuel (by simp [renderMembers])
  | fuel + 1, [] => rfl
  | fuel + 1, (k, v) :: ms =>
      have htext : (renderMembers ((k, v) :: ms)).map some ++ rest
          = some ',' :: ((renderString k ++ ':' :: render v).map some ++
            ((renderMembers ms).map some ++ rest)) := by
        simp [renderMembers]
      have hlength : (renderMembers ((k, v) :: ms)).length
          = 1 + (renderString k).length + 1 + (render v).length + (renderMembers ms).length := by
        simp [renderMembers]
        omega
      have hquotes : 2 ≤ (renderString k).length := length_renderString k
      obtain ⟨fuel, rfl⟩ := Nat.exists_eq_succ_of_ne_zero (show fuel ≠ 0 by omega)
      have hread := takeValue_render v fuel _ (ends_renderMembers ms rest) (by omega)
      rw [htext]
      show (do
        let (m, s) ← takeMember (fuel + 1) _
        let (ms, s) ← takeMembers (fuel + 1) s
        some (m :: ms, s)) = _
      rw [takeMember_render fuel hread]
      show (do
        let (ms, s) ← takeMembers (fuel + 1) _
        some ((some k, tree v) :: ms, s)) = _
      rw [takeMembers_render ms (fuel + 1) rest (by omega)]
      rfl

end

/-- **A text that is one value** is read as its tree. -/
theorem readScalars_render (j : Json) : readScalars ((render j).map some) = some (tree j) := by
  have hread := takeValue_render j (2 * ((render j).map some).length + 2) [] ends_nil
    (by rw [List.length_map]; omega)
  rw [List.append_nil] at hread
  rw [readScalars, hread]
  rfl

/-- **Bytes of a text** that is one value. -/
theorem readBytes_encode (j : Json) : readBytes (Utf8.encode j.text) = some (tree j) := by
  rw [readBytes, Utf8.scalars_encode, Json.text, String.toList_ofList, readScalars_render]

/-! ### Characters -/

/-- No character of a text is a control. -/
def IsShown (cs : List Char) : Prop := ∀ c ∈ cs, 0x20 ≤ c.toNat

theorem IsShown.append {cs ds : List Char} (hcs : IsShown cs) (hds : IsShown ds) :
    IsShown (cs ++ ds) := by
  intro c hc
  rw [List.mem_append] at hc
  exact hc.elim (hcs c) (hds c)

theorem IsShown.cons {c : Char} {cs : List Char} (hc : 0x20 ≤ c.toNat) (hcs : IsShown cs) :
    IsShown (c :: cs) :=
  List.forall_mem_cons.mpr ⟨hc, hcs⟩

theorem isShown_nil : IsShown [] := nofun

theorem isShown_of_all {cs : List Char} (h : cs.all (0x20 ≤ ·.toNat) = true) : IsShown cs :=
  fun c hc => of_decide_eq_true (List.all_eq_true.mp h c hc)

theorem isShown_of_isDigit {ds : List Char} (h : ∀ d ∈ ds, d.isDigit = true) : IsShown ds := by
  intro d hd
  have hdigit := h d hd
  simp only [Char.isDigit, Bool.and_eq_true, decide_eq_true_eq] at hdigit
  have hle : (48 : Nat) ≤ d.toNat := hdigit.1
  omega

theorem isShown_parts {p : Decimal.Parts} (hp : p.WellFormed) : IsShown p.text := by
  refine (isShown_of_isDigit fun c => hp.isDigit_of_mem).append (IsShown.append ?_ ?_)
  · rw [Decimal.Parts.fractionText]
    split
    · exact isShown_nil
    · exact .cons (by decide) (isShown_of_isDigit hp.fraction)
  · rw [Decimal.Parts.exponentText]
    split
    · exact isShown_nil
    · rename_i negative ds he
      refine .cons (by decide) (.cons ?_ (isShown_of_isDigit (hp.exponent _ he).2))
      split <;> decide

theorem isShown_renderNumber (x : Number) : IsShown (renderNumber x) := by
  obtain ⟨negative, p, hp, htext⟩ := exists_parts_renderNumber x
  rw [htext]
  refine IsShown.append ?_ (isShown_parts hp)
  split
  · exact .cons (by decide) isShown_nil
  · exact isShown_nil

theorem isShown_escapeChar (c : Char) : IsShown (escapeChar c) := by
  by_cases hletter : c ∈ ['"', '\\', '\x08', '\x0c', '\n', '\r', '\t']
  · simp only [List.mem_cons, List.not_mem_nil, or_false] at hletter
    rcases hletter with rfl | rfl | rfl | rfl | rfl | rfl | rfl <;>
      exact .cons (by decide) (.cons (by decide) isShown_nil)
  · simp only [List.mem_cons, List.not_mem_nil, or_false, not_or] at hletter
    by_cases hcontrol : c.toNat < 0x20
    · rw [show escapeChar c = '\\' :: 'u' :: Hex.digits 4 c.toNat by simp [escapeChar, *]]
      refine .cons (by decide) (.cons (by decide) fun d hd => ?_)
      obtain ⟨k, hk, rfl⟩ := Hex.exists_digit_of_mem hd
      exact (Hex.digit_ascii k hk).2
    · rw [show escapeChar c = [c] by simp [escapeChar, *]]
      exact .cons (by omega) isShown_nil

theorem isShown_renderString (s : String) : IsShown (renderString s) := by
  refine .cons (by decide) (IsShown.append (fun c hc => ?_) (.cons (by decide) isShown_nil))
  obtain ⟨d, -, hd⟩ := List.mem_flatMap.mp hc
  exact isShown_escapeChar d c hd

mutual

/-- **No control characters** stand in the text of a value. -/
theorem isShown_render (j : Json) : IsShown (render j) := by
  match j with
  | .null | .bool true | .bool false | .array [] | .object [] =>
      rw [render]
      exact isShown_of_all rfl
  | .number n => exact isShown_renderNumber n
  | .string s => exact isShown_renderString s
  | .array (x :: xs) =>
      rw [render]
      exact .cons (by decide) ((isShown_render x).append (isShown_renderElements xs))
  | .object ((k, v) :: ms) =>
      rw [render]
      exact .cons (by decide) (((isShown_renderString k).append
        (.cons (by decide) (isShown_render v))).append (isShown_renderMembers ms))

theorem isShown_renderElements (xs : List Json) : IsShown (renderElements xs) := by
  match xs with
  | [] => exact .cons (by decide) isShown_nil
  | x :: xs =>
      rw [renderElements]
      exact .cons (by decide) ((isShown_render x).append (isShown_renderElements xs))

theorem isShown_renderMembers (ms : List (String × Json)) : IsShown (renderMembers ms) := by
  match ms with
  | [] => exact .cons (by decide) isShown_nil
  | (k, v) :: ms =>
      rw [renderMembers]
      exact .cons (by decide) (((isShown_renderString k).append
        (.cons (by decide) (isShown_render v))).append (isShown_renderMembers ms))

end

end Outbox.Json
