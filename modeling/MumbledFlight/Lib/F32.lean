/-
Single-precision floats as bit patterns, so that equality is equality of bits and everything here can be evaluated.

The value of a pattern is a sign and a magnitude counted in units of 2⁻¹⁴⁹, the smallest positive float; comparison,
rounding to an integer and conversion from an integer are read off that.

Results:
- `neg_neg`: changing the sign changes one bit, for every pattern.
- `readLe_toLeBytes`: the little-endian codec returns the pattern it wrote.
- `readLe_cases`, `readLe_take`: reading takes four bytes, looks at no others, and fails without them.
-/
import Mathlib.Algebra.Ring.Int.Defs
import Mathlib.Algebra.Ring.Nat

/-- an IEEE 754 binary32 -/
structure F32 where
  bits : UInt32
deriving DecidableEq

namespace F32

instance : Zero F32 := ⟨⟨0⟩⟩

instance : One F32 := ⟨⟨0x3F800000⟩⟩

/-- changes the sign bit, of a NaN as well -/
def neg (x : F32) : F32 := ⟨x.bits ^^^ 0x80000000⟩

@[simp] theorem neg_neg (x : F32) : x.neg.neg = x := by
  simp only [neg, UInt32.xor_assoc, UInt32.xor_self, UInt32.xor_zero]

/-! ## Little-endian bytes -/

def toLeBytes (x : F32) : List UInt8 :=
  [x.bits.toUInt8, (x.bits >>> 8).toUInt8, (x.bits >>> 16).toUInt8, (x.bits >>> 24).toUInt8]

def ofLeBytes (b0 b1 b2 b3 : UInt8) : F32 :=
  ⟨b0.toUInt32 ||| b1.toUInt32 <<< 8 ||| b2.toUInt32 <<< 16 ||| b3.toUInt32 <<< 24⟩

/-- reads one float off the front -/
def readLe : List UInt8 → Option (F32 × List UInt8)
  | b0 :: b1 :: b2 :: b3 :: rest => some (ofLeBytes b0 b1 b2 b3, rest)
  | _ => none

theorem ofLeBytes_bits (x : F32) : ofLeBytes x.bits.toUInt8 (x.bits >>> 8).toUInt8 (x.bits >>> 16).toUInt8
    (x.bits >>> 24).toUInt8 = x := by
  have hbits : (ofLeBytes x.bits.toUInt8 (x.bits >>> 8).toUInt8 (x.bits >>> 16).toUInt8 (x.bits >>> 24).toUInt8).bits =
      x.bits := by
    apply UInt32.toBitVec_inj.1
    apply BitVec.eq_of_getLsbD_eq
    intro i hi
    -- bit i comes from byte i / 8
    have hbyte : i < 8 ∨ (8 ≤ i ∧ i < 16) ∨ (16 ≤ i ∧ i < 24) ∨ 24 ≤ i := by omega
    simp only [ofLeBytes, UInt32.toBitVec_or, UInt32.toBitVec_shiftLeft, UInt8.toBitVec_toUInt32,
      UInt32.toBitVec_toUInt8, UInt32.toBitVec_shiftRight, BitVec.getLsbD_or]
    rcases hbyte with h | h | h | h <;> simp [BitVec.getLsbD_setWidth] <;> grind
  exact congrArg F32.mk hbits

theorem readLe_toLeBytes (x : F32) (rest : List UInt8) : readLe (x.toLeBytes ++ rest) = some (x, rest) := by
  simp only [toLeBytes, List.cons_append, List.nil_append, readLe, ofLeBytes_bits]

/-- reading fails on fewer than four bytes, and takes four off otherwise -/
theorem readLe_cases : (bytes : List UInt8) → bytes.length < 4 ∧ readLe bytes = none ∨
    ∃ x rest, readLe bytes = some (x, rest) ∧ bytes.length = rest.length + 4
  | [] | [_] | [_, _] | [_, _, _] => Or.inl ⟨by simp, rfl⟩
  | b0 :: b1 :: b2 :: b3 :: rest => Or.inr ⟨ofLeBytes b0 b1 b2 b3, rest, rfl, by simp⟩

/-- what follows the four bytes is not looked at -/
theorem readLe_take (n : ℕ) : (bytes : List UInt8) →
    readLe (bytes.take (n + 4)) = (readLe bytes).map fun r => (r.1, r.2.take n)
  | [] | [_] | [_, _] | [_, _, _] => by simp [readLe]
  | b0 :: b1 :: b2 :: b3 :: rest => by simp [readLe]

/-! ## Values -/

inductive Value where
  /-- a sign and a magnitude in units of 2⁻¹⁴⁹ -/
  | finite (negative : Bool) (units : ℕ)
  | infinite (negative : Bool)
  | nan
deriving DecidableEq

def value (x : F32) : Value :=
  let negative := decide (2 ^ 31 ≤ x.bits.toNat)
  let exponent := x.bits.toNat / 2 ^ 23 % 2 ^ 8
  let fraction := x.bits.toNat % 2 ^ 23
  if exponent = 255 then if fraction = 0 then .infinite negative else .nan
  else if exponent = 0 then .finite negative fraction
  else .finite negative ((2 ^ 23 + fraction) * 2 ^ (exponent - 1))

def signed (negative : Bool) (n : ℕ) : ℤ := if negative then -n else n

/-- the IEEE comparison: false as soon as one side is a NaN -/
def Value.gt : Value → Value → Bool
  | .finite a m, .finite b n => decide (signed a m > signed b n)
  | .finite _ _, .infinite b => b
  | .infinite a, .finite _ _ => !a
  | .infinite a, .infinite b => !a && b
  | .nan, _ => false
  | _, .nan => false

def gt (x y : F32) : Bool := x.value.gt y.value

/-- the nearest 32-bit integer: ties go away from zero, out of range saturates, a NaN is 0 -/
def roundToInt32 (x : F32) : ℤ :=
  match x.value with
  | .finite negative units => max (-2 ^ 31) (min (signed negative ((units + 2 ^ 148) / 2 ^ 149)) (2 ^ 31 - 1))
  | .infinite negative => if negative then -2 ^ 31 else 2 ^ 31 - 1
  | .nan => 0

/-- the float nearest to an integer, ties to even -/
def ofInt32 (n : ℤ) : F32 :=
  let m := n.natAbs
  if m = 0 then 0
  else
    let e := m.log2
    let significand :=
      if e ≤ 23 then m * 2 ^ (23 - e)
      else
        let ulp := 2 ^ (e - 23)
        let q := m / ulp
        if 2 * (m % ulp) > ulp ∨ 2 * (m % ulp) = ulp ∧ q % 2 = 1 then q + 1 else q
    ⟨UInt32.ofNat ((if n < 0 then 2 ^ 31 else 0) + (e + 126) * 2 ^ 23 + significand)⟩

end F32
