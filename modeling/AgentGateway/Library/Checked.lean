import Mathlib

/-! Unsigned machine arithmetic of width `w` on naturals, as a build with overflow checks
computes it: exact or `none`, wrapping, saturating. -/

namespace Library.Checked

def checkedAdd (w a b : Nat) : Option Nat := if a + b < 2 ^ w then some (a + b) else none

def checkedSub (a b : Nat) : Option Nat := if b ≤ a then some (a - b) else none

def checkedMul (w a b : Nat) : Option Nat := if a * b < 2 ^ w then some (a * b) else none

def checkedDiv (a b : Nat) : Option Nat := if b = 0 then none else some (a / b)

def wrappingAdd (w a b : Nat) : Nat := (a + b) % 2 ^ w

def saturatingAdd (w a b : Nat) : Nat := min (a + b) (2 ^ w - 1)

-- signed width-`w` integers: `as` from the unsigned type reinterprets the bits, and a result
-- outside `[-2 ^ (w - 1), 2 ^ (w - 1))` panics
def wrapSigned (w x : Nat) : Int := if x < 2 ^ (w - 1) then x else x - 2 ^ w

def checkedSigned (w : Nat) (x : Int) : Option Int :=
  if -2 ^ (w - 1) ≤ x ∧ x < 2 ^ (w - 1) then some x else none

variable {w a b c : Nat}

@[simp] lemma checkedAdd_eq_some : checkedAdd w a b = some c ↔ a + b < 2 ^ w ∧ a + b = c := by
  unfold checkedAdd
  split <;> simp_all

@[simp] lemma checkedSub_eq_some : checkedSub a b = some c ↔ b ≤ a ∧ a - b = c := by
  unfold checkedSub
  split <;> simp_all

@[simp] lemma checkedMul_eq_some : checkedMul w a b = some c ↔ a * b < 2 ^ w ∧ a * b = c := by
  unfold checkedMul
  split <;> simp_all

@[simp] lemma checkedDiv_eq_some : checkedDiv a b = some c ↔ 0 < b ∧ a / b = c := by
  unfold checkedDiv
  split <;> simp_all [Nat.pos_iff_ne_zero]

lemma checkedAdd_of_lt (h : a + b < 2 ^ w) : checkedAdd w a b = some (a + b) := if_pos h

lemma checkedSub_of_le (h : b ≤ a) : checkedSub a b = some (a - b) := if_pos h

lemma checkedMul_of_lt (h : a * b < 2 ^ w) : checkedMul w a b = some (a * b) := if_pos h

lemma checkedDiv_of_pos (h : 0 < b) : checkedDiv a b = some (a / b) := if_neg (Nat.pos_iff_ne_zero.1 h)

lemma wrappingAdd_of_lt (h : a + b < 2 ^ w) : wrappingAdd w a b = a + b := Nat.mod_eq_of_lt h

lemma saturatingAdd_le : saturatingAdd w a b ≤ a + b := min_le_left _ _

end Library.Checked
