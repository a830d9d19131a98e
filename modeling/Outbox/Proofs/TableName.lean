import Outbox.TableName
import Outbox.Text.Blank

/-!
# What a table may be called

A name is checked part by part, after it was cut at its dots.  What gets through is one part, or two with
a dot between them; so no character of it can end a word of a statement, or begin a text or a comment.

* `isIdentifier_iff` — the names that get through;
* `exists_ofText_iff` — the check that a name becomes a table by;
* `not_isSpecial` — the characters of a name.
-/

namespace Outbox.TableName

/-- A letter of ASCII, or an underscore. -/
def Opening (c : Char) : Prop := ('A' ≤ c ∧ c ≤ 'Z') ∨ ('a' ≤ c ∧ c ≤ 'z') ∨ c = '_'

/-- Such a character, or a digit of ASCII. -/
def Inner (c : Char) : Prop := Opening c ∨ ('0' ≤ c ∧ c ≤ '9')

/-- One part of a name. -/
inductive Part : List Char → Prop
  | mk {c : Char} {cs : List Char} (h : Opening c) (hs : ∀ d ∈ cs, Inner d) : Part (c :: cs)

/-- A name: one part, or two with a dot between them. -/
inductive Plain : List Char → Prop
  | one {p : List Char} (h : Part p) : Plain p
  | two {p q : List Char} (hp : Part p) (hq : Part q) : Plain (p ++ '.' :: q)

/-! ### The check -/

theorem isOpening_iff {c : Char} : isOpening c = true ↔ Opening c := by
  have hupper : c.isUpper = decide ('A' ≤ c ∧ c ≤ 'Z') := rfl
  have hlower : c.isLower = (decide ('a' ≤ c) && decide (c ≤ 'z')) := rfl
  have halpha : c.isAlpha = (c.isUpper || c.isLower) := rfl
  rw [isOpening, halpha, hupper, hlower, Opening]
  simp only [Bool.or_eq_true, Bool.and_eq_true, decide_eq_true_iff, beq_iff_eq, or_assoc]

theorem isInner_iff {c : Char} : isInner c = true ↔ Inner c := by
  have hdigit : c.isDigit = (decide ('0' ≤ c) && decide (c ≤ '9')) := rfl
  have halphanum : c.isAlphanum = (c.isAlpha || c.isDigit) := rfl
  rw [isInner, halphanum, Bool.or_right_comm, Inner, ← isOpening_iff, isOpening, hdigit]
  simp only [Bool.or_eq_true, Bool.and_eq_true, decide_eq_true_iff]

theorem isPart_iff {cs : List Char} : isPart cs = true ↔ Part cs := by
  cases cs with
  | nil => exact iff_of_false nofun nofun
  | cons c cs =>
      simp only [isPart, Bool.and_eq_true, List.all_eq_true, isOpening_iff, isInner_iff]
      exact ⟨fun ⟨h, hs⟩ => .mk h hs, fun (.mk h hs) => ⟨h, hs⟩⟩

/-- The parts of a text are those that the library cuts a list into. -/
theorem parts_eq_splitOn (cs : List Char) : parts cs = cs.splitOn '.' := by
  rw [List.splitOn_eq_splitOnP]
  induction cs with
  | nil => rfl
  | cons c cs ih =>
      rw [parts, List.splitOnP_cons_eq_if_modifyHead, ih]
      cases hcs : cs.splitOnP (· == '.') with
      | nil => exact absurd hcs (List.splitOnP_ne_nil _ cs)
      | cons p ps =>
          simp only [beq_iff_eq]
          rfl

/-- What a part is made of. -/
theorem Part.inner {p : List Char} (h : Part p) : ∀ c ∈ p, Inner c := by
  cases h with
  | mk h hs => exact List.forall_mem_cons.mpr ⟨.inl h, hs⟩

theorem Part.dot_notMem {p : List Char} (h : Part p) : '.' ∉ p := by
  intro hdot
  have hinner := h.inner '.' hdot
  revert hinner
  unfold Inner Opening
  decide

/-- **The names that get through** are the plain ones, of all texts. -/
theorem isIdentifier_iff {s : String} : isIdentifier s = true ↔ Plain s.toList := by
  simp only [isIdentifier, Bool.and_eq_true, decide_eq_true_iff, List.all_eq_true, isPart_iff,
    parts_eq_splitOn]
  constructor
  · rintro ⟨hlength, hparts⟩
    have hjoined : ['.'].intercalate (s.toList.splitOn '.') = s.toList := List.intercalate_splitOn '.'
    rcases hpieces : s.toList.splitOn '.' with _ | ⟨p, _ | ⟨q, _ | ⟨r, ps⟩⟩⟩
    · exact absurd hpieces (List.splitOn_ne_nil '.' _)
    · rw [hpieces] at hparts hjoined
      rw [← hjoined, List.intercalate_singleton]
      exact .one (hparts p List.mem_cons_self)
    · rw [hpieces] at hparts hjoined
      rw [← hjoined, List.intercalate_cons_cons, List.intercalate_singleton, List.append_assoc]
      exact .two (hparts p List.mem_cons_self) (hparts q (List.mem_cons_of_mem p List.mem_cons_self))
    · rw [hpieces] at hlength
      simp at hlength
  · generalize s.toList = cs
    rintro (@⟨p, h⟩ | @⟨p, q, hp, hq⟩)
    · rw [List.splitOn_eq_singleton h.dot_notMem]
      exact ⟨Nat.le_succ 1, List.forall_mem_singleton.mpr h⟩
    · have hpieces : (p ++ '.' :: q).splitOn '.' = [p, q] := by
        rw [List.splitOn_eq_splitOnP, List.splitOnP_append_cons p q rfl, ← List.splitOn_eq_splitOnP,
          ← List.splitOn_eq_splitOnP, List.splitOn_eq_singleton hp.dot_notMem,
          List.splitOn_eq_singleton hq.dot_notMem]
        rfl
      rw [hpieces]
      exact ⟨Nat.le_refl 2, List.forall_mem_cons.mpr ⟨hp, List.forall_mem_singleton.mpr hq⟩⟩

/-- Empty parts, a third part, and letters and digits that are not of ASCII do not get through. -/
example : ["schema.name", "", "a.", ".a", "a.b.c", "1a", "ä", "a٣"].map isIdentifier
    = [true, false, false, false, false, false, false, false] := by
  decide

/-- A table is called what it was asked to be called. -/
theorem ofText_eq_ok_iff {s : String} {table : TableName} : ofText s = .ok table ↔ table.text = s := by
  rw [ofText]
  constructor
  · intro h
    split at h
    · rw [← Except.ok.inj h]
    · cases h
  · rintro rfl
    exact dif_pos table.plain

/-- **What becomes a table**: the plain names, of all texts. -/
theorem exists_ofText_iff {s : String} :
    (∃ table, ofText s = .ok table ∧ table.text = s) ↔ Plain s.toList := by
  rw [← isIdentifier_iff]
  constructor
  · rintro ⟨table, -, rfl⟩
    exact table.plain
  · exact fun h => ⟨⟨s, h⟩, ofText_eq_ok_iff.mpr rfl, rfl⟩

/-! ### The characters of a name -/

/-- What ends a word of a statement, or begins or ends a text, a list or a comment: blanks, quotes,
semicolons, parentheses and the signs of comments. -/
def IsSpecial (c : Char) : Prop :=
  Text.isBlank c = true ∨ c ∈ "'\"`$;()-/*".toList

theorem Plain.inner_or_dot {cs : List Char} (h : Plain cs) : ∀ c ∈ cs, Inner c ∨ c = '.' := by
  cases h with
  | one h => exact fun c hc => .inl (h.inner c hc)
  | @two p q hp hq =>
      intro c hc
      rcases List.mem_append.mp hc with hc | hc
      · exact .inl (hp.inner c hc)
      · rcases List.mem_cons.mp hc with rfl | hc
        · exact .inr rfl
        · exact .inl (hq.inner c hc)

/-- The code points of the characters of names. -/
def IsPlace (n : Nat) : Prop :=
  n = 46 ∨ (48 ≤ n ∧ n ≤ 57) ∨ (65 ≤ n ∧ n ≤ 90) ∨ n = 95 ∨ (97 ≤ n ∧ n ≤ 122)

theorem isPlace_of_inner_or_dot {c : Char} (h : Inner c ∨ c = '.') : IsPlace c.toNat := by
  rcases h with ((h | h | rfl) | h) | rfl
  · exact .inr (.inr (.inl h))
  · exact .inr (.inr (.inr (.inr h)))
  · exact .inr (.inr (.inr (.inl rfl)))
  · exact .inr (.inl h)
  · exact .inl rfl

/-- **No character of a name** is special. -/
theorem Plain.not_isSpecial {cs : List Char} (h : Plain cs) : ∀ c ∈ cs, ¬IsSpecial c := by
  intro c hc hspecial
  have hplace := isPlace_of_inner_or_dot (h.inner_or_dot c hc)
  unfold IsPlace at hplace
  rcases hspecial with hblank | hsign
  · simp only [Text.isBlank, Bool.or_eq_true, Bool.and_eq_true, decide_eq_true_iff, beq_iff_eq]
      at hblank
    omega
  · have hsigns : ∀ d ∈ "'\"`$;()-/*".toList, ¬IsPlace d.toNat := by simp [IsPlace]
    exact hsigns c hsign hplace

end Outbox.TableName
