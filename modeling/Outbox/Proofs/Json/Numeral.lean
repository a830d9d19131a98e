import Outbox.Json.Printer
import Outbox.Json.Reader
import Outbox.Proofs.Decimal.Shortest

/-!
# Numbers are written as numerals

Every number of a value is written in the grammar of numerals, so that the reader takes all of it, and
stops there.

* `takeNumeral_text` — reading the parts of a numeral;
* `takeNumeral_renderNumber` — reading a number that was written (`numeralOf`).
-/

namespace Outbox.Json

open Outbox.Decimal

/-- No numeral goes on here. -/
def Ends (rest : Scalars) : Prop :=
  ∀ c, rest.head? = some (some c) → c.isDigit = false ∧ c ≠ '.' ∧ c ≠ 'e' ∧ c ≠ 'E'

theorem ends_nil : Ends [] := nofun

theorem ends_cons {c : Char} {rest : Scalars}
    (h : c.isDigit = false ∧ c ≠ '.' ∧ c ≠ 'e' ∧ c ≠ 'E') : Ends (some c :: rest) := by
  intro d hd
  cases hd
  exact h

/-! ### The parts of a numeral -/

theorem takeDigits_append {ds : List Char} {rest : Scalars} (hds : ∀ c ∈ ds, c.isDigit = true)
    (hrest : ∀ c, rest.head? = some (some c) → c.isDigit = false) :
    takeDigits (ds.map some ++ rest) = (ds, rest) := by
  induction ds with
  | nil =>
      match rest, hrest with
      | [], _ => rfl
      | none :: rest, _ => rfl
      | some c :: rest, hrest =>
          show (if c.isDigit then _ else ([], some c :: rest)) = _
          rw [hrest c rfl]
          rfl
  | cons d ds ih =>
      rw [List.map_cons, List.cons_append, takeDigits, if_pos (hds d List.mem_cons_self),
        ih fun c hc => hds c (List.mem_cons_of_mem d hc)]

/-- Where no point stands there is no fraction. -/
theorem takeFraction_of_ne {s : Scalars} (h : ∀ c, s.head? = some (some c) → c ≠ '.') :
    takeFraction s = some ([], s) := by
  unfold takeFraction
  split
  · exact absurd rfl (h '.' rfl)
  · rfl

theorem takeFraction_point {ds : List Char} {rest : Scalars} (hne : ds ≠ [])
    (hds : ∀ c ∈ ds, c.isDigit = true)
    (hrest : ∀ c, rest.head? = some (some c) → c.isDigit = false) :
    takeFraction (some '.' :: (ds.map some ++ rest)) = some (ds, rest) := by
  rw [takeFraction, takeDigits_append hds hrest]
  cases ds with
  | nil => exact absurd rfl hne
  | cons d ds => rfl

/-- Where no mark stands there is no exponent. -/
theorem takeExponent_of_ne {s : Scalars}
    (h : ∀ c, s.head? = some (some c) → c ≠ 'e' ∧ c ≠ 'E') : takeExponent s = some (none, s) := by
  unfold takeExponent
  dsimp only
  split
  · exact absurd rfl (h 'e' rfl).1
  · exact absurd rfl (h 'E' rfl).2
  · rfl

theorem takeExponent_mark {negative : Bool} {ds : List Char} {rest : Scalars} (hne : ds ≠ [])
    (hds : ∀ c ∈ ds, c.isDigit = true)
    (hrest : ∀ c, rest.head? = some (some c) → c.isDigit = false) :
    takeExponent (some 'e' :: some (if negative then '-' else '+') :: (ds.map some ++ rest))
      = some (some (negative, ds), rest) := by
  have htake := takeDigits_append hds hrest
  cases ds with
  | nil => exact absurd rfl hne
  | cons d ds =>
      rw [List.map_cons, List.cons_append] at htake ⊢
      cases negative with
      | false => simp [takeExponent, htake]
      | true => simp [takeExponent, htake]

/-- The numeral of some parts. -/
def numeralOfParts (negative : Bool) (p : Parts) : Numeral :=
  ⟨negative, p.whole, p.fraction, p.exponent⟩

section

variable {p : Parts} {rest : Scalars}

theorem takeExponent_text (hp : p.WellFormed) (hrest : Ends rest) :
    takeExponent (p.exponentText.map some ++ rest) = some (p.exponent, rest) := by
  rw [Parts.exponentText]
  cases he : p.exponent with
  | none => exact takeExponent_of_ne fun c hc => (hrest c hc).2.2
  | some e =>
      obtain ⟨hne, hds⟩ := hp.exponent e he
      exact takeExponent_mark hne hds fun c hc => (hrest c hc).1

/-- Neither a digit nor a point stands where an exponent or the end is. -/
theorem isDigit_exponentText (hrest : Ends rest) (c : Char)
    (h : (p.exponentText.map some ++ rest).head? = some (some c)) : c.isDigit = false ∧ c ≠ '.' := by
  rw [Parts.exponentText] at h
  cases he : p.exponent with
  | none =>
      rw [he] at h
      exact ⟨(hrest c h).1, (hrest c h).2.1⟩
  | some e =>
      rw [he] at h
      cases h
      decide

theorem takeFraction_text (hp : p.WellFormed) (hrest : Ends rest) :
    takeFraction (p.fractionText.map some ++ (p.exponentText.map some ++ rest))
      = some (p.fraction, p.exponentText.map some ++ rest) := by
  have hend := isDigit_exponentText (p := p) hrest
  rw [Parts.fractionText]
  cases hf : p.fraction with
  | nil => exact takeFraction_of_ne fun c hc => (hend c hc).2
  | cons d ds =>
      refine takeFraction_point (List.cons_ne_nil d ds) ?_ fun c hc => (hend c hc).1
      exact hf ▸ hp.fraction

theorem takeDigits_text (hp : p.WellFormed) (hrest : Ends rest) :
    takeDigits (p.text.map some ++ rest)
      = (p.whole, p.fractionText.map some ++ (p.exponentText.map some ++ rest)) := by
  rw [Parts.text, List.map_append, List.map_append, List.append_assoc, List.append_assoc]
  refine takeDigits_append (fun c => hp.isDigit_of_mem) fun c hc => ?_
  rw [Parts.fractionText] at hc
  cases hf : p.fraction with
  | nil =>
      rw [hf] at hc
      exact (isDigit_exponentText hrest c hc).1
  | cons d ds =>
      rw [hf] at hc
      cases hc
      rfl

/-- A sign is taken where one stands. -/
theorem takeNumeral_eq (negative : Bool) {s : Scalars} {d : Char} (hd : d ≠ '-')
    (hs : s.head? = some (some d)) :
    takeNumeral ((if negative then [some '-'] else []) ++ s) = (do
      let (whole, s) := takeDigits s
      if whole.isEmpty || (whole.head? == some '0' && 1 < whole.length) then none
      else
        let (fraction, s) ← takeFraction s
        let (exponent, s) ← takeExponent s
        some (⟨negative, whole, fraction, exponent⟩, s)) := by
  cases negative with
  | true => rfl
  | false =>
      obtain ⟨s, rfl⟩ : ∃ s', s = some d :: s' := List.head?_eq_some_iff.mp hs
      show takeNumeral (some d :: s) = _
      rw [takeNumeral]
      intro s' h
      cases h
      exact hd rfl

/-- **Reading the parts of a numeral.** -/
theorem takeNumeral_text (hp : p.WellFormed) (negative : Bool) (hrest : Ends rest) :
    takeNumeral (((if negative then ['-'] else []) ++ p.text).map some ++ rest)
      = some (numeralOfParts negative p, rest) := by
  obtain ⟨d, ds, hwhole, hdigit⟩ := hp.exists_digit
  have hsign : d ≠ '-' := by
    rintro rfl
    cases hdigit
  have hfirst : (p.text.map some ++ rest).head? = some (some d) := by
    rw [Parts.text, hwhole]
    rfl
  have hlead : (p.whole.isEmpty || (p.whole.head? == some '0' && decide (1 < p.whole.length)))
      = false := by
    rcases hp.whole with h | ⟨⟨c, cs, h, hc⟩, -⟩
    · rw [h]
      rfl
    · rw [h]
      simp [hc]
  have htext : ((if negative then ['-'] else []) ++ p.text).map some ++ rest
      = (if negative then [some '-'] else []) ++ (p.text.map some ++ rest) := by
    cases negative <;> simp
  rw [htext, takeNumeral_eq negative hsign hfirst, takeDigits_text hp hrest]
  dsimp only
  rw [hlead, takeFraction_text hp hrest]
  show (do let (exponent, s) ← takeExponent _; some (_, s)) = _
  rw [takeExponent_text hp hrest]
  rfl

end

/-! ### Numbers -/

theorem exists_parts_renderNumber (x : Number) :
    ∃ negative : Bool, ∃ p : Parts, p.WellFormed ∧
      renderNumber x = (if negative then ['-'] else []) ++ p.text := by
  cases x with
  | integer n =>
      refine ⟨decide (n < 0), _, Parts.wellFormed_digits n.natAbs, ?_⟩
      rw [renderNumber]
      split <;> simp [Parts.text, Parts.fractionText, Parts.exponentText, *]
  | binary x =>
      obtain ⟨p, hp, htext⟩ := x.exists_parts numberLayout (by decide)
      exact ⟨x.negative, p, hp, htext⟩

/-- The numeral that a number is written as. -/
def numeralOf (x : Number) : Numeral :=
  ((takeNumeral ((renderNumber x).map some)).map Prod.fst).getD ⟨false, ['0'], [], none⟩

/-- **Numbers read back** as the numerals that they are written as. -/
theorem takeNumeral_renderNumber (x : Number) {rest : Scalars} (hrest : Ends rest) :
    takeNumeral ((renderNumber x).map some ++ rest) = some (numeralOf x, rest) := by
  obtain ⟨negative, p, hp, htext⟩ := exists_parts_renderNumber x
  have halone := takeNumeral_text hp negative ends_nil
  rw [List.append_nil] at halone
  rw [numeralOf, htext, takeNumeral_text hp negative hrest, halone]
  rfl

/-- The numeral of an integer is its sign and its digits. -/
theorem numeralOf_integer (n : Int) :
    numeralOf (.integer n) = ⟨decide (n < 0), digits n.natAbs, [], none⟩ := by
  have hread := takeNumeral_text (Parts.wellFormed_digits n.natAbs) (decide (n < 0)) ends_nil
  have htext : renderNumber (.integer n)
      = (if decide (n < 0) then ['-'] else []) ++ (⟨digits n.natAbs, [], none⟩ : Parts).text := by
    rw [renderNumber]
    split <;> simp [Parts.text, Parts.fractionText, Parts.exponentText, *]
  rw [← htext, List.append_nil] at hread
  rw [numeralOf, hread]
  rfl

/-- The first character of a number is a digit or a sign. -/
theorem head?_renderNumber (x : Number) :
    ∃ c cs, renderNumber x = c :: cs ∧ (c = '-' ∨ c.isDigit = true) := by
  obtain ⟨negative, p, hp, htext⟩ := exists_parts_renderNumber x
  cases negative with
  | true => exact ⟨'-', p.text, htext, .inl rfl⟩
  | false =>
      obtain ⟨d, ds, hwhole, hdigit⟩ := hp.exists_digit
      refine ⟨d, ds ++ (p.fractionText ++ p.exponentText), ?_, .inr hdigit⟩
      rw [htext, Parts.text, hwhole]
      rfl

end Outbox.Json
