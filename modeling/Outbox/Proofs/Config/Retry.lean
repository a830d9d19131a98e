import Mathlib.Order.MinMax
import Mathlib.Order.Lattice
import Outbox.Config.Retry

/-!
# Linear backoff is exact

Multiples and sums of durations stop at the longest one, and so do the delays that are made of them.
But the cap of a policy is a duration too, and no duration passes the longest: what is cut off when a
multiple or a sum saturates is beyond every cap.  So the delays are those of unbounded arithmetic.

* `toNanos_saturatingMul`, `toNanos_saturatingAdd` — an operation saturates exactly where its value
  passes the longest duration;
* `words_saturatingMul`, `words_saturatingAdd` — the same operations in machine words, where only the
  sums and products of seconds are checked: the others do not overflow;
* `delay_exact` — the delays of a policy.
-/

namespace Outbox

open Outbox.Time

namespace Time.Duration

/-! ### Saturation -/

theorem toNanos_longest :
    longest.toNanos = 0xffffffffffffffff * nanosPerSecond + (nanosPerSecond - 1) := rfl

theorem toNanos_le_longest (a : Duration) : a.toNanos ≤ longest.toNanos := by
  have hseconds := a.seconds_lt
  have hnanos := a.nanos_lt
  rw [toNanos_longest, toNanos]
  unfold nanosPerSecond at *
  omega

/-- **Saturation** shows exactly in what passes the longest duration. -/
theorem toNanos_saturate (seconds nanos : Nat) (h : nanos < nanosPerSecond) :
    (saturate seconds nanos h).toNanos
      = min (seconds * nanosPerSecond + nanos) longest.toNanos := by
  rw [saturate]
  split
  · rename_i hseconds
    exact (min_eq_left (toNanos_le_longest ⟨seconds, nanos, hseconds, h⟩)).symm
  · refine (min_eq_right ?_).symm
    rw [toNanos_longest]
    unfold nanosPerSecond at *
    omega

theorem toNanos_saturatingAdd (a b : Duration) :
    (a.saturatingAdd b).toNanos = min (a.toNanos + b.toNanos) longest.toNanos := by
  rw [saturatingAdd, toNanos_saturate]
  refine congrArg (min · longest.toNanos) ?_
  have hcarry := Nat.div_add_mod' (a.nanos + b.nanos) nanosPerSecond
  rw [toNanos, toNanos, Nat.add_mul, Nat.add_mul]
  omega

theorem toNanos_saturatingMul (a : Duration) (factor : Nat) :
    (a.saturatingMul factor).toNanos = min (factor * a.toNanos) longest.toNanos := by
  rw [saturatingMul, toNanos_saturate]
  refine congrArg (min · longest.toNanos) ?_
  have hcarry := Nat.div_add_mod' (a.nanos * factor) nanosPerSecond
  have hseconds := Nat.mul_right_comm a.seconds factor nanosPerSecond
  rw [toNanos, Nat.add_mul, Nat.mul_comm factor, Nat.add_mul]
  omega

/-! ### Machine words -/

/-- Seconds in 64 bits and nanoseconds in 32. -/
structure Words where
  seconds : UInt64
  nanos : UInt32
  deriving DecidableEq

/-- A duration in machine words. -/
def words (a : Duration) : Words := ⟨.ofNat a.seconds, .ofNat a.nanos⟩

namespace Words

/-- What a checked operation gives: a word, unless the number takes more bits. -/
def checked? (n : Nat) : Option UInt64 := if n < UInt64.size then some (.ofNat n) else none

/-- The sum, by words.  A second is carried if the nanoseconds make one. -/
def add (a b : Words) : Words :=
  let nanos := a.nanos + b.nanos
  let sum : Option Words := do
    let seconds ← checked? (a.seconds.toNat + b.seconds.toNat)
    if nanos < 1000000000 then some ⟨seconds, nanos⟩
    else some ⟨← checked? (seconds.toNat + 1), nanos - 1000000000⟩
  sum.getD longest.words

/-- The multiple, by words.  Nanoseconds are multiplied in 64 bits, and whole seconds carried. -/
def mul (a : Words) (factor : UInt32) : Words :=
  let nanos := a.nanos.toUInt64 * factor.toUInt64
  let product : Option Words := do
    let seconds ← checked? (a.seconds.toNat * factor.toUInt64.toNat)
    let carried ← checked? (seconds.toNat + (nanos / 1000000000).toNat)
    some ⟨carried, (nanos % 1000000000).toUInt32⟩
  product.getD longest.words

/-- The shorter of two, by words. -/
def shorter (a b : Words) : Words :=
  if a.seconds < b.seconds ∨ (a.seconds = b.seconds ∧ a.nanos ≤ b.nanos) then a else b

theorem checked?_of_lt {n : Nat} (h : n < UInt64.size) : checked? n = some (.ofNat n) := if_pos h

/-- Two checked additions come to one. -/
theorem checked?_bind_add {α : Type} (n k : Nat) (f : UInt64 → Option α) :
    ((checked? n).bind fun s => (checked? (s.toNat + k)).bind f) = (checked? (n + k)).bind f := by
  by_cases hn : n < UInt64.size
  · rw [checked?_of_lt hn, Option.bind_some, UInt64.toNat_ofNat_of_lt' hn]
  · have hsum : ¬n + k < UInt64.size := by omega
    rw [checked?, checked?, if_neg hn, if_neg hsum]
    rfl

end Words

open Words

theorem toNat_seconds (a : Duration) : a.words.seconds.toNat = a.seconds :=
  UInt64.toNat_ofNat_of_lt' a.seconds_lt

theorem toNat_nanos (a : Duration) : a.words.nanos.toNat = a.nanos :=
  UInt32.toNat_ofNat_of_lt' (Nat.lt_trans a.nanos_lt (by decide))

/-- Saturation by words is a failed check. -/
theorem words_saturate (seconds nanos : Nat) (h : nanos < nanosPerSecond) :
    (saturate seconds nanos h).words
      = ((checked? seconds).bind fun s => some ⟨s, .ofNat nanos⟩).getD longest.words := by
  by_cases hseconds : seconds < UInt64.size
  · rw [checked?_of_lt hseconds, saturate, dif_pos hseconds]
    rfl
  · rw [checked?, if_neg hseconds, saturate, dif_neg hseconds]
    rfl

/-- The nanoseconds of a sum do not overflow, and neither does what is left of them. -/
theorem words_saturatingAdd (a b : Duration) : (a.saturatingAdd b).words = a.words.add b.words := by
  have ha := a.nanos_lt
  have hb := b.nanos_lt
  have hbillion : (1000000000 : UInt32).toNat = nanosPerSecond := rfl
  have hsum : (a.words.nanos + b.words.nanos).toNat = a.nanos + b.nanos := by
    rw [UInt32.toNat_add, toNat_nanos, toNat_nanos]
    unfold nanosPerSecond at ha hb
    omega
  rw [saturatingAdd, words_saturate, add, toNat_seconds, toNat_seconds]
  by_cases hless : a.nanos + b.nanos < nanosPerSecond
  · have hwords : a.words.nanos + b.words.nanos < 1000000000 := by
      rw [UInt32.lt_iff_toNat_lt, hsum, hbillion]
      exact hless
    have hnanos : UInt32.ofNat (a.nanos + b.nanos) = a.words.nanos + b.words.nanos := by
      rw [← hsum, UInt32.ofNat_toNat]
    simp only [hwords, if_true]
    rw [Nat.div_eq_of_lt hless, Nat.mod_eq_of_lt hless, Nat.add_zero, hnanos]
    rfl
  · have hwords : ¬a.words.nanos + b.words.nanos < 1000000000 := by
      rw [UInt32.lt_iff_toNat_lt, hsum, hbillion]
      exact hless
    have hquotient : (a.nanos + b.nanos) / nanosPerSecond = 1 := by
      unfold nanosPerSecond at *
      omega
    have hnanos : UInt32.ofNat ((a.nanos + b.nanos) % nanosPerSecond)
        = a.words.nanos + b.words.nanos - 1000000000 := by
      rw [UInt32.not_lt, UInt32.le_iff_toNat_le, hsum, hbillion] at hwords
      rw [← UInt32.toNat_inj, UInt32.toNat_sub_of_le _ _ (UInt32.le_iff_toNat_le.mpr (by omega)),
        hsum, hbillion, UInt32.toNat_ofNat_of_lt']
      · unfold nanosPerSecond at *
        omega
      · unfold nanosPerSecond at *
        show _ < 4294967296
        omega
    simp only [hwords, if_false]
    rw [hquotient, hnanos]
    exact congrArg (Option.getD · longest.words) (checked?_bind_add _ 1 _).symm

/-- The nanoseconds of a multiple do not overflow 64 bits. -/
theorem words_saturatingMul (a : Duration) (factor : UInt32) :
    (a.saturatingMul factor.toNat).words = a.words.mul factor := by
  have ha := a.nanos_lt
  have hfactor := factor.toNat_lt
  have hbillion : (1000000000 : UInt64).toNat = nanosPerSecond := rfl
  have hproduct : (a.words.nanos.toUInt64 * factor.toUInt64).toNat = a.nanos * factor.toNat := by
    rw [UInt64.toNat_mul, UInt32.toNat_toUInt64, UInt32.toNat_toUInt64, toNat_nanos]
    refine Nat.mod_eq_of_lt (Nat.mul_lt_mul'' ha hfactor |>.trans (by decide))
  have hquotient : (a.words.nanos.toUInt64 * factor.toUInt64 / 1000000000).toNat
      = a.nanos * factor.toNat / nanosPerSecond := by
    rw [UInt64.toNat_div, hproduct, hbillion]
  have hnanos : UInt32.ofNat (a.nanos * factor.toNat % nanosPerSecond)
      = (a.words.nanos.toUInt64 * factor.toUInt64 % 1000000000).toUInt32 := by
    rw [← UInt32.toNat_inj, UInt64.toNat_toUInt32, UInt64.toNat_mod, hproduct, hbillion]
    rfl
  rw [saturatingMul, words_saturate, mul, toNat_seconds, UInt32.toNat_toUInt64]
  rw [hquotient, hnanos]
  exact congrArg (Option.getD · longest.words) (checked?_bind_add _ _ _).symm

theorem words_shorter (a b : Duration) : (a.shorter b).words = a.words.shorter b.words := by
  have hle : a ≤ b ↔ a.words.seconds < b.words.seconds ∨
      (a.words.seconds = b.words.seconds ∧ a.words.nanos ≤ b.words.nanos) := by
    rw [UInt64.lt_iff_toNat_lt, ← UInt64.toNat_inj, UInt32.le_iff_toNat_le, toNat_seconds,
      toNat_seconds, toNat_nanos, toNat_nanos]
    exact Iff.rfl
  rw [Duration.shorter, Words.shorter, apply_ite words]
  exact if_congr hle rfl rfl

end Time.Duration

namespace RetryPolicy

open Time.Duration

/-- Whatever saturation cuts off lies beyond the cap. -/
theorem toNanos_delay (p : RetryPolicy) (n : UInt32) :
    (p.delay n).toNanos = min (p.start.toNanos + n.toNat * p.step.toNanos) p.cap.toNanos := by
  have hcap := toNanos_le_longest p.cap
  rw [delay, toNanos_shorter, toNanos_saturatingAdd, toNanos_saturatingMul]
  generalize n.toNat * p.step.toNanos = steps
  omega

/-- **The delays of a policy** are those of unbounded arithmetic: however large its intervals and the
number of the retry are, nothing is lost before the cap is applied.  So the delays do not decrease, and
never pass the cap. -/
theorem delay_exact (p : RetryPolicy) :
    (∀ n : UInt32, (p.delay n).toNanos
      = min (p.start.toNanos + n.toNat * p.step.toNanos) p.cap.toNanos) ∧
    (∀ n : UInt32, (p.delay n).words
      = (p.start.words.add (p.step.words.mul n)).shorter p.cap.words) ∧
    (∀ m n : UInt32, m ≤ n → p.delay m ≤ p.delay n) ∧
    ∀ n : UInt32, p.delay n ≤ p.cap := by
  refine ⟨toNanos_delay p, fun n => ?_, fun m n hle => ?_, fun n => ?_⟩
  · rw [delay, words_shorter, words_saturatingAdd, words_saturatingMul]
  · rw [le_iff_toNanos_le, toNanos_delay, toNanos_delay]
    have hsteps := Nat.mul_le_mul_right p.step.toNanos (UInt32.le_iff_toNat_le.mp hle)
    exact min_le_min_right _ (Nat.add_le_add_left hsteps _)
  · rw [le_iff_toNanos_le, toNanos_delay]
    exact min_le_right _ _

example :
    let p : RetryPolicy := ⟨0xffffffff, .ofMillis 0xffffffffffffffff, .longest, .longest⟩
    p.delay 0 = .ofMillis 0xffffffffffffffff ∧ p.delay 1 = .longest := by decide

end RetryPolicy

end Outbox
