/-!
# Identifiers of 128 bits

Entities and tasks are known by a number below `2 ^ 128`, ordered as numbers, which is the order of
their written forms as well.
-/

namespace Outbox

/-- A universally unique identifier. -/
structure Uuid where
  value : Nat
  value_lt : value < 0x100000000000000000000000000000000
  deriving DecidableEq

namespace Uuid

instance : LT Uuid := ⟨fun a b => a.value < b.value⟩

instance : LE Uuid := ⟨fun a b => a.value ≤ b.value⟩

instance (a b : Uuid) : Decidable (a < b) := inferInstanceAs (Decidable (a.value < b.value))

instance (a b : Uuid) : Decidable (a ≤ b) := inferInstanceAs (Decidable (a.value ≤ b.value))

/-- The identifier with the given number, modulo `2 ^ 128`. -/
def ofNat (n : Nat) : Uuid := ⟨n % 0x100000000000000000000000000000000, Nat.mod_lt _ (by decide)⟩

/-- All bits zero. -/
def zero : Uuid := ofNat 0

instance : Inhabited Uuid := ⟨zero⟩

theorem ext_value {a b : Uuid} (h : a.value = b.value) : a = b := by
  cases a; cases b; simp_all

theorem value_ofNat (n : Nat) :
    (ofNat n).value = n % 0x100000000000000000000000000000000 := rfl

theorem ofNat_value (a : Uuid) : ofNat a.value = a :=
  ext_value (Nat.mod_eq_of_lt a.value_lt)

end Uuid

end Outbox
