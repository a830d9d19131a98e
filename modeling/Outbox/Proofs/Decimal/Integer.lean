import Mathlib.Tactic.Common
import Outbox.Proofs.Decimal.Digits

/-!
# Numbers of a range

A number is read from its digits, with zeros in front or without, after a plus sign, or after a minus
sign where the range goes below zero; and from no other text.  Reading stops at the first character
that is no digit and at the first digit by which the number leaves the range, but as a number never
becomes smaller by another digit, it does not matter which of them comes first.

* `ReadsAs` — the numbers that texts stand for;
* `readInteger_eq_ok_iff` — reading gives these numbers.
-/

namespace Outbox.Decimal

/-- The number of a range that a text stands for. -/
inductive ReadsAs (range : IntegerRange) : List Char → Int → Prop
  | plain {ds : List Char} (hne : ds ≠ []) (hdigits : ∀ c ∈ ds, c.isDigit = true)
      (hrange : (ofDigits ds : Int) ≤ range.greatest) : ReadsAs range ds (ofDigits ds)
  | plus {ds : List Char} (hne : ds ≠ []) (hdigits : ∀ c ∈ ds, c.isDigit = true)
      (hrange : (ofDigits ds : Int) ≤ range.greatest) : ReadsAs range ('+' :: ds) (ofDigits ds)
  | minus {ds : List Char} (hne : ds ≠ []) (hdigits : ∀ c ∈ ds, c.isDigit = true)
      (hsign : range.least < 0) (hrange : range.least ≤ -(ofDigits ds : Int)) :
      ReadsAs range ('-' :: ds) (-(ofDigits ds : Int))

/-- A number that is read lies in the range. -/
theorem ReadsAs.mem {range : IntegerRange} {cs : List Char} {n : Int} (h : ReadsAs range cs n)
    (hrange : range.least ≤ 0 ∧ 0 ≤ range.greatest) : range.least ≤ n ∧ n ≤ range.greatest := by
  cases h with
  | plain => omega
  | plus => omega
  | minus => omega

theorem le_ofDigitsFrom (n : Nat) (ds : List Char) : n ≤ ofDigitsFrom n ds := by
  induction ds generalizing n with
  | nil => exact Nat.le_refl n
  | cons c ds ih =>
      have hnext := ih (n * 10 + digitValue c)
      rw [ofDigitsFrom, List.foldl_cons, ← ofDigitsFrom]
      omega

/-- **Digits with a limit.**  The number so far is within it, so the limit is passed at some digit
exactly if it is passed in the end. -/
theorem readMagnitude_eq_ok_iff {limit : Nat} {overflow : IntegerError} {n m : Nat} {cs : List Char}
    (hn : n ≤ limit) :
    readMagnitude limit overflow n cs = .ok m ↔
      (∀ c ∈ cs, c.isDigit = true) ∧ ofDigitsFrom n cs = m ∧ m ≤ limit := by
  induction cs generalizing n with
  | nil =>
      rw [readMagnitude, Except.ok.injEq]
      exact ⟨fun h => ⟨nofun, h, h ▸ hn⟩, fun h => h.2.1⟩
  | cons c cs ih =>
      have hstep : ofDigitsFrom n (c :: cs) = ofDigitsFrom (n * 10 + digitValue c) cs := rfl
      rw [readMagnitude, hstep, List.forall_mem_cons]
      cases hc : c.isDigit with
      | false => exact iff_of_false nofun nofun
      | true =>
          dsimp only
          by_cases hnext : n * 10 + digitValue c ≤ limit
          · rw [if_neg (by decide), if_pos hnext, ih hnext, and_iff_right rfl]
          · have hle := le_ofDigitsFrom (n * 10 + digitValue c) cs
            rw [if_neg (by decide), if_neg hnext]
            exact iff_of_false nofun fun h => by omega

/-- Digits, and what they are turned into. -/
theorem map_readMagnitude_eq_ok_iff {limit : Nat} {overflow : IntegerError} {cs : List Char}
    {f : Nat → Int} {n : Int} :
    (readMagnitude limit overflow 0 cs).map f = .ok n ↔
      (∀ c ∈ cs, c.isDigit = true) ∧ ofDigits cs ≤ limit ∧ f (ofDigits cs) = n := by
  have hread (m : Nat) : readMagnitude limit overflow 0 cs = .ok m ↔ _ :=
    readMagnitude_eq_ok_iff (Nat.zero_le limit)
  cases h : readMagnitude limit overflow 0 cs with
  | error e =>
      refine iff_of_false nofun fun hcs => ?_
      have hok := (hread (ofDigits cs)).mpr ⟨hcs.1, rfl, hcs.2.1⟩
      rw [h] at hok
      cases hok
  | ok m =>
      obtain ⟨hdigits, rfl, hle⟩ := (hread m).mp h
      show Except.ok (f _) = _ ↔ _
      rw [Except.ok.injEq]
      exact ⟨fun heq => ⟨hdigits, hle, heq⟩, fun hcs => hcs.2.2⟩

/-- A sign is no digit. -/
theorem not_digits_cons {c : Char} {ds : List Char} (hc : c.isDigit = false) :
    ¬∀ d ∈ c :: ds, d.isDigit = true := fun h => by
  rw [h c List.mem_cons_self] at hc
  cases hc

/-- **Reading a number of a range.** -/
theorem readInteger_eq_ok_iff {range : IntegerRange} (hrange : range.least ≤ 0 ∧ 0 ≤ range.greatest)
    {cs : List Char} {n : Int} : readInteger range cs = .ok n ↔ ReadsAs range cs n := by
  unfold readInteger
  split
  · refine iff_of_false nofun fun h => ?_
    cases h with
    | plain hne => exact hne rfl
  · rename_i ds
    cases ds with
    | nil =>
        refine iff_of_false nofun fun h => ?_
        cases h with
        | plain _ hdigits => exact not_digits_cons rfl hdigits
        | plus hne => exact hne rfl
    | cons d ds =>
        rw [List.isEmpty_cons, if_neg (by decide), map_readMagnitude_eq_ok_iff]
        constructor
        · rintro ⟨hdigits, hle, rfl⟩
          exact .plus (List.cons_ne_nil d ds) hdigits (by omega)
        · intro h
          cases h with
          | plain _ hdigits => exact absurd hdigits (not_digits_cons rfl)
          | plus _ hdigits hle => exact ⟨hdigits, by omega, rfl⟩
  · rename_i ds
    by_cases hnone : ds = [] ∨ 0 ≤ range.least
    · have hrefused : (ds.isEmpty || decide (0 ≤ range.least)) = true := by
        simpa using hnone
      rw [if_pos hrefused]
      refine iff_of_false nofun fun h => ?_
      cases h with
      | plain _ hdigits => exact not_digits_cons rfl hdigits
      | minus hne _ hsign => exact hnone.elim hne (by omega)
    · have hread : ¬(ds.isEmpty || decide (0 ≤ range.least)) = true := by
        simpa using hnone
      have hnegated (r : Except IntegerError Nat) :
          Except.map (fun n : Int => -n) (do let m ← r; pure (m : Int))
            = Except.map (fun m : Nat => -(m : Int)) r := by
        cases r with
        | ok m => rfl
        | error e => rfl
      rw [if_neg hread, hnegated, map_readMagnitude_eq_ok_iff]
      constructor
      · rintro ⟨hdigits, hle, rfl⟩
        exact .minus (fun h => hnone (.inl h)) hdigits (by omega) (by omega)
      · intro h
        cases h with
        | plain _ hdigits => exact absurd hdigits (not_digits_cons rfl)
        | minus _ hdigits _ hle => exact ⟨hdigits, by omega, rfl⟩
  · rename_i hnil hplus hminus
    rw [map_readMagnitude_eq_ok_iff]
    constructor
    · rintro ⟨hdigits, hle, rfl⟩
      exact .plain hnil hdigits (by omega)
    · intro h
      cases h with
      | plain _ hdigits hle => exact ⟨hdigits, by omega, rfl⟩
      | plus => exact absurd rfl (hplus _)
      | minus => exact absurd rfl (hminus _)

end Outbox.Decimal
