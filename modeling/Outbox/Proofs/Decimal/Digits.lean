import Mathlib.Tactic.Common
import Mathlib.Tactic.IntervalCases
import Outbox.Decimal.Integer

/-!
# The digits of a number

What is written as decimal digits reads back as the same number, with or without zeros in front.

* `ofDigits_digits`, `ofDigits_padded` — the value of the digits of a number is the number;
* `length_padded` — a number that fits a width is written in that width;
* `ofDigits_lt` — so many digits make no greater number;
* `digits_cons` — only zero is written with a zero in front.
-/

namespace Outbox.Decimal

theorem ofDigitsFrom_eq (n : Nat) (ds : List Char) : ofDigitsFrom n ds = Nat.ofDigitChars 10 ds n := by
  rw [ofDigitsFrom, Nat.ofDigitChars_eq_foldl]
  simp only [digitValue, Nat.mul_comm]

theorem ofDigitsFrom_append (n : Nat) (ds es : List Char) :
    ofDigitsFrom n (ds ++ es) = ofDigitsFrom (ofDigitsFrom n ds) es := by
  rw [ofDigitsFrom, ofDigitsFrom, ofDigitsFrom, List.foldl_append]

/-! ### Digits -/

theorem digits_ne_nil (n : Nat) : digits n ≠ [] := Nat.toDigits_ne_nil

theorem isDigit_of_mem_digits {n : Nat} {c : Char} (h : c ∈ digits n) : c.isDigit = true :=
  Nat.isDigit_of_mem_toDigits (by decide) (by decide) h

/-- **Reading digits back.** -/
theorem ofDigits_digits (n : Nat) : ofDigits (digits n) = n := by
  rw [ofDigits, ofDigitsFrom_eq, digits, Nat.ofDigitChars_ten_toDigits]

theorem digitValue_lt {c : Char} (h : c.isDigit = true) : digitValue c < 10 := by
  rw [Char.isDigit, Bool.and_eq_true, decide_eq_true_iff, decide_eq_true_iff] at h
  have hhigh : c.toNat ≤ 57 := h.2
  show c.toNat - 48 < 10
  omega

/-- So many digits make no greater number. -/
theorem ofDigitsFrom_lt {n : Nat} {ds : List Char} (h : ∀ c ∈ ds, c.isDigit = true) :
    ofDigitsFrom n ds < (n + 1) * 10 ^ ds.length := by
  induction ds generalizing n with
  | nil =>
      show n < (n + 1) * 1
      omega
  | cons d ds ih =>
      have hd := digitValue_lt (h d List.mem_cons_self)
      have hrest := ih (n := n * 10 + digitValue d) fun c hc => h c (List.mem_cons_of_mem d hc)
      have hstep : (n * 10 + digitValue d + 1) * 10 ^ ds.length ≤ (n * 10 + 10) * 10 ^ ds.length :=
        Nat.mul_le_mul_right _ (by omega)
      calc ofDigitsFrom n (d :: ds) = ofDigitsFrom (n * 10 + digitValue d) ds := rfl
        _ < (n * 10 + 10) * 10 ^ ds.length := Nat.lt_of_lt_of_le hrest hstep
        _ = (n + 1) * 10 ^ (d :: ds).length := by
          rw [List.length_cons, Nat.pow_succ', ← Nat.mul_assoc, Nat.add_one_mul n 10]

theorem ofDigits_lt {ds : List Char} (h : ∀ c ∈ ds, c.isDigit = true) :
    ofDigits ds < 10 ^ ds.length := by
  have hlt := ofDigitsFrom_lt (n := 0) h
  rwa [Nat.zero_add, Nat.one_mul] at hlt

theorem length_digits_le {n width : Nat} (hwidth : 0 < width) (h : n < 10 ^ width) :
    (digits n).length ≤ width :=
  (Nat.length_toDigits_le_iff (by decide) hwidth).mpr h

theorem digits_of_lt_ten {n : Nat} (h : n < 10) : digits n = [n.digitChar] :=
  Nat.toDigits_of_lt_base h

/-- Only zero has a zero in front. -/
theorem digits_cons {n : Nat} (h : 0 < n) : ∃ c cs, digits n = c :: cs ∧ c ≠ '0' := by
  induction n using Nat.strongRecOn with
  | ind n ih =>
      by_cases hlt : n < 10
      · refine ⟨_, _, digits_of_lt_ten hlt, ?_⟩
        interval_cases n <;> decide
      · obtain ⟨c, cs, hcs, hc⟩ := ih (n / 10) (by omega) (by omega)
        have hstep : digits n = digits (n / 10) ++ [(n % 10).digitChar] :=
          Nat.toDigits_of_base_le (by decide) (by omega)
        exact ⟨c, cs ++ [(n % 10).digitChar], by rw [hstep, hcs]; rfl, hc⟩

/-! ### Digits in a width -/

theorem isDigit_of_mem_padded {width n : Nat} {c : Char} (h : c ∈ padded width n) :
    c.isDigit = true := by
  rw [padded, List.mem_append] at h
  cases h with
  | inl h =>
      rw [List.eq_of_mem_replicate h]
      rfl
  | inr h => exact isDigit_of_mem_digits h

/-- A number begins with a digit. -/
theorem exists_padded (width n : Nat) : ∃ c cs, padded width n = c :: cs ∧ c.isDigit = true := by
  cases hpadded : padded width n with
  | nil =>
      have hdigits : digits n = [] := (List.append_eq_nil_iff.mp hpadded).2
      exact absurd hdigits (digits_ne_nil n)
  | cons c cs => exact ⟨c, cs, rfl, isDigit_of_mem_padded (hpadded ▸ List.mem_cons_self)⟩

theorem length_padded {width n : Nat} (hwidth : 0 < width) (h : n < 10 ^ width) :
    (padded width n).length = width := by
  have hle := length_digits_le hwidth h
  rw [padded, List.length_append, List.length_replicate]
  omega

/-- **Zeros in front** do not count. -/
theorem ofDigits_padded (width n : Nat) : ofDigits (padded width n) = n := by
  have hzeros : ofDigitsFrom 0 (List.replicate (width - (digits n).length) '0') = 0 := by
    rw [ofDigitsFrom_eq, Nat.ofDigitChars_replicate_zero, Nat.mul_zero]
  rw [padded, ofDigits, ofDigitsFrom_append, hzeros]
  exact ofDigits_digits n

end Outbox.Decimal
