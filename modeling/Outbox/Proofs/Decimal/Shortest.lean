import Mathlib.Data.List.DropRight
import Outbox.Decimal.Shortest
import Outbox.Proofs.Decimal.Digits

/-!
# The decimal of a binary number is a numeral

The shortest decimal lies between midpoints that are above zero, so it has a digit that is not zero in
front, and its text is a sign, digits, a point or an exponent in this order.

* `coefficient_shortest` — the decimal of a number that is not zero is not zero, unless no grid had
  one;
* `Binary.exists_parts` — the parts of the text of a number.
-/

namespace Outbox.Decimal

/-! ### Candidates -/

/-- What lies above zero has digits. -/
theorem Scientific.coefficient_pos_of_within {s : Scientific} {low high : Nat} {closed : Bool}
    (hlow : 0 < low) (h : s.within low high closed = true) : 0 < s.coefficient := by
  have hscaled : 0 < low * Nat.pow 10 (-s.exponent).toNat :=
    Nat.mul_pos hlow (Nat.pow_pos (by decide))
  rcases Nat.eq_zero_or_pos s.coefficient with hzero | hpos
  · rw [Scientific.within, hzero] at h
    generalize Nat.pow 2 1075 = unit at h
    rw [Nat.zero_mul, Nat.zero_mul] at h
    split at h
    · simp only [Bool.and_eq_true, decide_eq_true_eq] at h
      omega
    · simp only [Bool.and_eq_true, decide_eq_true_eq] at h
      omega
  · exact hpos

theorem nearer_cases (twice : Nat) (below above : Scientific) :
    nearer twice below above = below ∨ nearer twice below above = above := by
  rw [nearer]
  split
  · exact .inl rfl
  · exact .inr rfl

theorem coefficient_shortestFrom {twice low high : Nat} {closed : Bool} {lead : Int} (hlow : 0 < low)
    (grids : List Nat) :
    shortestFrom twice low high closed lead grids = ⟨0, 0⟩ ∨
      0 < (shortestFrom twice low high closed lead grids).coefficient := by
  induction grids with
  | nil => exact .inl rfl
  | cons n finer ih =>
      rw [shortestFrom]
      generalize Nat.pow 2 1075 = unit
      obtain ⟨below, above⟩ := gridNeighbours twice unit (lead + 1 - (n : Int))
      dsimp only
      split
      · rename_i hbelow habove
        rcases nearer_cases twice below above with h | h
        · rw [h]
          exact .inr (Scientific.coefficient_pos_of_within hlow hbelow)
        · rw [h]
          exact .inr (Scientific.coefficient_pos_of_within hlow habove)
      · rename_i hbelow _
        exact .inr (Scientific.coefficient_pos_of_within hlow hbelow)
      · rename_i _ habove
        exact .inr (Scientific.coefficient_pos_of_within hlow habove)
      · exact ih

/-- **Not zero.**  The midpoint below a number that is not zero is above zero. -/
theorem coefficient_shortest {x : Binary} (h : x.significand ≠ 0) :
    shortest x = ⟨0, 0⟩ ∨ 0 < (shortest x).coefficient := by
  have hunit : 0 < Nat.pow 2 x.scale := Nat.pow_pos (by decide)
  have hmagnitude : Nat.pow 2 x.scale ≤ x.scaledMagnitude :=
    Nat.le_mul_of_pos_left _ (Nat.pos_of_ne_zero h)
  have hhalf : Nat.pow 2 (x.scale - 1) ≤ Nat.pow 2 x.scale :=
    Nat.pow_le_pow_right (by decide) (by omega)
  rw [shortest]
  generalize leadingExponent _ _ = lead
  refine coefficient_shortestFrom ?_ _
  split
  · omega
  · omega

/-! ### Digits in front -/

/-- Digits of which the first is not zero. -/
def Leading (ds : List Char) : Prop :=
  (∃ c cs, ds = c :: cs ∧ c ≠ '0') ∧ ∀ d ∈ ds, d.isDigit = true

theorem leading_digits {n : Nat} (h : 0 < n) : Leading (digits n) :=
  ⟨digits_cons h, fun _ => isDigit_of_mem_digits⟩

/-- Zeros at the end are dropped, and the first digit stays. -/
theorem Leading.dropTrailingZeros {ds : List Char} (h : Leading ds) :
    Leading (dropTrailingZeros ds) := by
  obtain ⟨⟨c, cs, rfl, hc⟩, hdigit⟩ := h
  have hfront : Decimal.dropTrailingZeros (c :: cs) <+: c :: cs :=
    List.rdropWhile_prefix (· == '0') (c :: cs)
  refine ⟨?_, fun d hd => hdigit d (hfront.subset hd)⟩
  cases hds : Decimal.dropTrailingZeros (c :: cs) with
  | nil =>
      have hzeros := List.rdropWhile_eq_nil_iff.mp hds c List.mem_cons_self
      exact absurd (eq_of_beq hzeros) hc
  | cons d ds =>
      rw [hds, List.cons_prefix_cons] at hfront
      exact ⟨d, ds, rfl, hfront.1 ▸ hc⟩

theorem Leading.append {ds es : List Char} (h : Leading ds) (hes : ∀ d ∈ es, d.isDigit = true) :
    Leading (ds ++ es) := by
  obtain ⟨⟨c, cs, rfl, hc⟩, hdigit⟩ := h
  refine ⟨⟨c, cs ++ es, rfl, hc⟩, fun d hd => ?_⟩
  rw [List.mem_append] at hd
  exact hd.elim (hdigit d) (hes d)

theorem Leading.take {ds : List Char} {k : Nat} (h : Leading ds) (hk : 0 < k) :
    Leading (ds.take k) := by
  obtain ⟨⟨c, cs, rfl, hc⟩, hdigit⟩ := h
  obtain ⟨k, rfl⟩ := Nat.exists_eq_succ_of_ne_zero hk.ne'
  exact ⟨⟨c, cs.take k, rfl, hc⟩, fun d hd => hdigit d (List.mem_of_mem_take hd)⟩

theorem isDigit_of_mem_zeros {n : Nat} {c : Char} (h : c ∈ List.replicate n '0') :
    c.isDigit = true := by
  rw [List.eq_of_mem_replicate h]
  rfl

/-! ### The parts of a text -/

/-- A numeral by its parts: digits, and after a point or a mark further digits. -/
structure Parts where
  whole : List Char
  fraction : List Char
  exponent : Option (Bool × List Char)

namespace Parts

/-- A fraction after a point, if there is one. -/
def fractionText (p : Parts) : List Char := if p.fraction.isEmpty then [] else '.' :: p.fraction

/-- An exponent with its sign after a mark, if there is one. -/
def exponentText (p : Parts) : List Char :=
  match p.exponent with
  | none => []
  | some (negative, ds) => 'e' :: (if negative then '-' else '+') :: ds

/-- The characters of the parts. -/
def text (p : Parts) : List Char := p.whole ++ (p.fractionText ++ p.exponentText)

/-- The parts are digits, there is a first one, and it is a zero only if it is alone. -/
structure WellFormed (p : Parts) : Prop where
  whole : p.whole = ['0'] ∨ Leading p.whole
  fraction : ∀ d ∈ p.fraction, d.isDigit = true
  exponent : ∀ e, p.exponent = some e → e.2 ≠ [] ∧ ∀ d ∈ e.2, d.isDigit = true

theorem WellFormed.isDigit_of_mem {p : Parts} (h : p.WellFormed) {c : Char} (hc : c ∈ p.whole) :
    c.isDigit = true := by
  rcases h.whole with hzero | hleading
  · rw [hzero, List.mem_singleton] at hc
    rw [hc]
    rfl
  · exact hleading.2 c hc

/-- There is a digit in front. -/
theorem WellFormed.exists_digit {p : Parts} (h : p.WellFormed) :
    ∃ d ds, p.whole = d :: ds ∧ d.isDigit = true := by
  rcases h.whole with hzero | ⟨⟨d, ds, hwhole, -⟩, hdigit⟩
  · exact ⟨'0', [], hzero, rfl⟩
  · exact ⟨d, ds, hwhole, hdigit d (hwhole ▸ List.mem_cons_self)⟩

/-- A whole number is its digits. -/
theorem wellFormed_digits (n : Nat) : (⟨digits n, [], none⟩ : Parts).WellFormed := by
  refine ⟨?_, nofun, nofun⟩
  rcases Nat.eq_zero_or_pos n with rfl | hpos
  · exact .inl rfl
  · exact .inr (leading_digits hpos)

end Parts

/-- A point in place. -/
theorem exists_parts_placePoint {ds : List Char} (h : Leading ds) (point : Int) :
    ∃ p : Parts, p.WellFormed ∧ placePoint ds point = p.text := by
  have hne : ds ≠ [] := by
    obtain ⟨⟨c, cs, rfl, -⟩, -⟩ := h
    exact List.cons_ne_nil c cs
  rw [placePoint]
  split
  case isTrue =>
    have hempty : (List.replicate (-point).toNat '0' ++ ds).isEmpty = false := by
      rw [List.isEmpty_eq_false_iff]
      exact List.append_ne_nil_of_right_ne_nil _ hne
    refine ⟨⟨['0'], List.replicate (-point).toNat '0' ++ ds, none⟩, ⟨.inl rfl, ?_, nofun⟩, ?_⟩
    · intro d hd
      rw [List.mem_append] at hd
      exact hd.elim isDigit_of_mem_zeros (h.2 d)
    · rw [Parts.text, Parts.fractionText, Parts.exponentText]
      dsimp only
      rw [hempty]
      simp
  case isFalse hpoint =>
    dsimp only
    split
    case isTrue =>
      refine ⟨⟨ds ++ List.replicate (point.toNat - ds.length) '0', ['0'], none⟩,
        ⟨.inr (h.append fun _ => isDigit_of_mem_zeros), ?_, nofun⟩, ?_⟩
      · intro d hd
        rw [List.mem_singleton.mp hd]
        rfl
      · simp [Parts.text, Parts.fractionText, Parts.exponentText]
    case isFalse hlength =>
      have hempty : (ds.drop point.toNat).isEmpty = false := by
        rw [List.isEmpty_eq_false_iff, ne_eq, List.drop_eq_nil_iff]
        exact hlength
      refine ⟨⟨ds.take point.toNat, ds.drop point.toNat, none⟩,
        ⟨.inr (h.take (by omega)), fun d hd => h.2 d (List.mem_of_mem_drop hd), nofun⟩, ?_⟩
      rw [Parts.text, Parts.fractionText, Parts.exponentText]
      dsimp only
      rw [hempty]
      simp

/-- An exponent. -/
theorem exists_parts_placeExponent {ds : List Char} (h : Leading ds) (point : Int) :
    ∃ p : Parts, p.WellFormed ∧ placeExponent ds point = p.text := by
  obtain ⟨⟨c, cs, rfl, hc⟩, hdigit⟩ := h
  refine ⟨⟨[c], cs, some (decide (point - 1 < 0), digits (point - 1).natAbs)⟩, ⟨?_, ?_, ?_⟩, ?_⟩
  · exact .inr ⟨⟨c, [], rfl, hc⟩, fun d hd => hdigit d (by
      rw [List.mem_singleton.mp hd]
      exact List.mem_cons_self)⟩
  · exact fun d hd => hdigit d (List.mem_cons_of_mem c hd)
  · rintro e he
    cases he
    exact ⟨digits_ne_nil _, fun _ => isDigit_of_mem_digits⟩
  · cases cs with
    | nil => simp [placeExponent, Parts.text, Parts.fractionText, Parts.exponentText]
    | cons d cs => simp [placeExponent, Parts.text, Parts.fractionText, Parts.exponentText]

/-- **The text of a number** is a sign and a numeral, if the layout keeps the point after the first
digit in place. -/
theorem Binary.exists_parts (x : Binary) (layout : Layout) (hlayout : layout.positional 1 = true) :
    ∃ p : Parts, p.WellFormed ∧
      x.text layout = (if x.negative then ['-'] else []) ++ p.text := by
  have hzero : (⟨['0'], ['0'], none⟩ : Parts).WellFormed :=
    ⟨.inl rfl, List.forall_mem_singleton.mpr rfl, nofun⟩
  rw [Binary.text]
  by_cases h : x.significand = 0
  · rw [if_pos (by simpa using h)]
    exact ⟨_, hzero, rfl⟩
  · rw [if_neg (by simpa using h)]
    rcases coefficient_shortest h with hnone | hpos
    · -- the decimal zero has no digits that count, and is written as zero is
      rw [hnone]
      refine ⟨_, hzero, ?_⟩
      show _ ++ (if layout.positional 1 then _ else _) = _
      rw [if_pos hlayout]
      rfl
    · have hleading := (leading_digits hpos).dropTrailingZeros
      dsimp only
      by_cases hpoint : layout.positional
          ((digits (shortest x).coefficient).length + (shortest x).exponent) = true
      · obtain ⟨p, hp, htext⟩ := exists_parts_placePoint hleading
          ((digits (shortest x).coefficient).length + (shortest x).exponent)
        exact ⟨p, hp, by rw [← htext, if_pos hpoint]⟩
      · obtain ⟨p, hp, htext⟩ := exists_parts_placeExponent hleading
          ((digits (shortest x).coefficient).length + (shortest x).exponent)
        exact ⟨p, hp, by rw [← htext, if_neg hpoint]⟩

end Outbox.Decimal
