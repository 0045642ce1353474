/-!
# Decimal numbers and the range of floating point

A number of floating point has 64 bits. A decimal number that lies at `overflowBound` or beyond rounds to
infinity; `overflows_iff` says that `overflows` finds these numbers, although it avoids powers of ten that
are much longer than the number is written.
-/

namespace RecordQuery.Toml

/-- A decimal number: `coefficient` times the power of ten with the given exponent, less than zero if
`negative`. -/
structure Decimal where
  negative : Bool
  coefficient : Nat
  exponent : Int
  deriving DecidableEq, Repr

/-- The least magnitude that rounds to infinity: halfway from the greatest finite number to the power of
two behind it. -/
def overflowBound : Nat :=
  Nat.pow 2 1024 - Nat.pow 2 970

namespace Decimal

/-- Whether the magnitude of a number rounds to infinity. -/
def overflows (number : Decimal) : Bool :=
  match number.exponent with
  | .ofNat places =>
      number.coefficient != 0 &&
        (310 ≤ places || overflowBound ≤ number.coefficient * Nat.pow 10 places)
  | .negSucc places =>
      places < number.coefficient.log2 &&
        overflowBound * Nat.pow 10 (places + 1) ≤ number.coefficient

theorem overflows_iff (number : Decimal) :
    number.overflows = true ↔
      overflowBound * Nat.pow 10 (-number.exponent).toNat ≤
        number.coefficient * Nat.pow 10 number.exponent.toNat := by
  obtain ⟨negative, coefficient, exponent⟩ := number
  have boundPositive : 0 < overflowBound := by decide +kernel
  have noPower : Nat.pow 10 0 = 1 := rfl
  have beyond (few many : Nat) (reached : overflowBound ≤ Nat.pow 10 few)
      (ordered : few ≤ many) : overflowBound ≤ Nat.pow 10 many :=
    Nat.le_trans reached (Nat.pow_le_pow_right (by decide) ordered)
  cases exponent with
  | ofNat places =>
      have noPlaces : (-Int.ofNat places).toNat = 0 := by simp
      have allPlaces : (Int.ofNat places).toNat = places := rfl
      simp only [overflows, noPlaces, allPlaces, noPower, Nat.mul_one, Bool.and_eq_true,
        bne_iff_ne, Bool.or_eq_true, decide_eq_true_eq]
      constructor
      · rintro ⟨notZero, long | reached⟩
        · calc
            overflowBound ≤ Nat.pow 10 places :=
              beyond 310 places (by decide +kernel) long
            _ ≤ coefficient * Nat.pow 10 places :=
              Nat.le_mul_of_pos_left _ (Nat.pos_of_ne_zero notZero)
        · exact reached
      · intro reached
        refine ⟨?_, Or.inr reached⟩
        rintro rfl
        omega
  | negSucc places =>
      have allPlaces : (-Int.negSucc places).toNat = places + 1 := rfl
      have noPlaces : (Int.negSucc places).toNat = 0 := rfl
      simp only [overflows, noPlaces, allPlaces, noPower, Nat.mul_one, Bool.and_eq_true,
        decide_eq_true_eq, and_iff_right_iff_imp]
      intro reached
      have powerReached : Nat.pow 2 (places + 1) ≤ coefficient := calc
        Nat.pow 2 (places + 1) ≤ Nat.pow 10 (places + 1) := Nat.pow_le_pow_left (by decide) _
        _ ≤ overflowBound * Nat.pow 10 (places + 1) := Nat.le_mul_of_pos_left _ boundPositive
        _ ≤ coefficient := reached
      have notZero : coefficient ≠ 0 := by
        have powerPositive : 0 < Nat.pow 2 (places + 1) := Nat.two_pow_pos _
        exact Nat.ne_of_gt (Nat.lt_of_lt_of_le powerPositive powerReached)
      exact (Nat.le_log2 notZero).2 powerReached

end Decimal

inductive Floating where
  | finite (number : Decimal)
  | infinity (negative : Bool)
  | notNumber (negative : Bool)
  deriving DecidableEq, Repr

/-- The number of floating point that a decimal number stands for. A positive one has to be finite, a
negative one may be infinite. -/
def Floating.ofDecimal? (number : Decimal) : Option Floating :=
  if number.overflows then
    if number.negative then some (.infinity true) else none
  else some (.finite number)

end RecordQuery.Toml
