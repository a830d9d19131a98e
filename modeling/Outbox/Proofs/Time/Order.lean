import Mathlib.Tactic.Common
import Outbox.Time.Timestamp

/-!
# The order of moments

Moments are ordered as pairs of seconds and nanoseconds, and a clock that is moved forward does not
go back: a leap second is left for a later one.
-/

namespace Outbox.Time.Timestamp

theorem le_iff {a b : Timestamp} :
    a ≤ b ↔ a.seconds < b.seconds ∨ (a.seconds = b.seconds ∧ a.nanos ≤ b.nanos) := Iff.rfl

theorem lt_iff {a b : Timestamp} :
    a < b ↔ a.seconds < b.seconds ∨ (a.seconds = b.seconds ∧ a.nanos < b.nanos) := Iff.rfl

theorem le_trans {a b c : Timestamp} (h : a ≤ b) (h' : b ≤ c) : a ≤ c := by
  rw [le_iff] at *
  omega

theorem le_total (a b : Timestamp) : a ≤ b ∨ b ≤ a := by
  rw [le_iff, le_iff]
  omega

theorem le_antisymm {a b : Timestamp} (h : a ≤ b) (h' : b ≤ a) : a = b := by
  rw [le_iff] at h h'
  obtain ⟨s, n⟩ := a
  obtain ⟨s', n'⟩ := b
  have hseconds : s = s' := by
    dsimp only at h h'
    omega
  have hnanos : n = n' := by
    dsimp only at h h'
    omega
  rw [hseconds, hnanos]

theorem lt_irrefl (a : Timestamp) : ¬a < a := by
  rw [lt_iff]
  omega

theorem lt_asymm {a b : Timestamp} (h : a < b) : ¬b < a := by
  rw [lt_iff] at *
  omega

theorem lt_or_eq_of_le {a b : Timestamp} (h : a ≤ b) : a < b ∨ a = b := by
  by_cases hlt : a < b
  · exact .inl hlt
  · refine .inr (le_antisymm h ?_)
    rw [lt_iff] at hlt
    rw [le_iff] at h ⊢
    omega

theorem lt_of_lt_of_le {a b c : Timestamp} (h : a < b) (h' : b ≤ c) : a < c := by
  rw [lt_iff] at *
  rw [le_iff] at h'
  omega

/-- **A clock that is moved forward does not go back.** -/
theorem le_addNanos (t : Timestamp) (n : Nat) : t ≤ t.addNanos n := by
  rw [le_iff]
  simp only [addNanos, nanosPerSecond]
  omega

end Outbox.Time.Timestamp
