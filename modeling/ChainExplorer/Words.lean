/-!
# Machine words

Ids, heights and base units are words of sixty-four bits, output numbers half words, the numbers
of services on a host half of those. A bound is one past the largest value. Where a sum or a product
of words may leave them, it is checked.
-/

namespace ChainExplorer

/-- One past the largest word. -/
def wordBound : Nat := 18446744073709551616

/-- One past the largest signed word, and the magnitude of the smallest. -/
def signedBound : Nat := 9223372036854775808

/-- One past the largest half word. -/
def halfWordBound : Nat := 4294967296

/-- One past the largest number of a service. -/
def serviceBound : Nat := 65536

/-- The sum of two words, unless it is too great for one. -/
def checkedAdd (a b : UInt64) : Option UInt64 :=
  if a.toNat + b.toNat < wordBound then some (a + b) else none

/-- The product of two words, unless it is too great for one. -/
def checkedMul (a b : UInt64) : Option UInt64 :=
  if a.toNat * b.toNat < wordBound then some (a * b) else none

theorem checkedAdd_eq_some {a b c : UInt64} :
    checkedAdd a b = some c ↔ a.toNat + b.toNat = c.toNat := by
  have hexact : a.toNat + b.toNat < wordBound → (a + b).toNat = a.toNat + b.toNat := by
    intro hlt
    rw [UInt64.toNat_add]
    exact Nat.mod_eq_of_lt hlt
  rw [checkedAdd]
  constructor
  · intro h
    split at h
    · rename_i hlt
      rw [← Option.some.inj h, hexact hlt]
    · cases h
  · intro h
    have hlt : a.toNat + b.toNat < wordBound := h ▸ c.toNat_lt
    rw [if_pos hlt, Option.some.injEq, ← UInt64.toNat_inj, hexact hlt, h]

theorem checkedMul_eq_some {a b c : UInt64} :
    checkedMul a b = some c ↔ a.toNat * b.toNat = c.toNat := by
  have hexact : a.toNat * b.toNat < wordBound → (a * b).toNat = a.toNat * b.toNat := by
    intro hlt
    rw [UInt64.toNat_mul]
    exact Nat.mod_eq_of_lt hlt
  rw [checkedMul]
  constructor
  · intro h
    split at h
    · rename_i hlt
      rw [← Option.some.inj h, hexact hlt]
    · cases h
  · intro h
    have hlt : a.toNat * b.toNat < wordBound := h ▸ c.toNat_lt
    rw [if_pos hlt, Option.some.injEq, ← UInt64.toNat_inj, hexact hlt, h]

end ChainExplorer
