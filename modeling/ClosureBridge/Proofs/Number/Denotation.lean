import ClosureBridge.Number.Exact
import Mathlib

/-!
# The number that a float denotes

A float is unpacked into a sign, a significand and an exponent, and then denotes a rational number,
unless it is an infinity or no number. Comparisons of floats are comparisons of these numbers.

## Main definitions

* `Binary64.value?`: the number that a float denotes.
* `Binary64.Canonical`: the significands and exponents of the format.

## Main statements

* `Binary64.value?_ofFloat`: the parts taken from the bits denote the same number.
* `Binary64.lt_iff`, `Binary64.le_iff`: finite floats are ordered as numbers.
-/

namespace ClosureBridge

open Float.Model

namespace Exact

/-- The number that the parts denote. -/
def value? : Exact → Option ℚ
  | finite negative m e => some (signed negative m * 2 ^ e)
  | _ => none

end Exact

namespace Binary64

/-- The number that an unpacked float denotes. -/
def valueOf : UnpackedFloat → Option ℚ
  | .zero _ => some 0
  | .finite s m e _ => some (s.apply m * 2 ^ e)
  | _ => none

/-- The number that a float denotes. -/
def value? (v : Float) : Option ℚ :=
  valueOf v.toModel.unpack

/-- The finite floats are those that denote a number. -/
theorem isFinite_iff (v : Float) : v.isFinite = true ↔ ∃ x, value? v = some x := by
  change v.toModel.unpack.isFinite = true ↔ _
  unfold value?
  cases v.toModel.unpack <;> simp [valueOf, UnpackedFloat.isFinite]

section Fields

variable (b : BitVec Format.binary64.numBits)

theorem toNat_unpackMantissa : (UnpackedFloat.unpackMantissa b).toNat = b.toNat % 2 ^ 52 := by
  simp [UnpackedFloat.unpackMantissa_def]

theorem toNat_unpackExponent :
    (UnpackedFloat.unpackExponent b).toNat = b.toNat / 2 ^ 52 % 2 ^ 11 := by
  simp [UnpackedFloat.unpackExponent_def, Nat.shiftRight_eq_div_pow]

theorem toNat_unpackSign : (UnpackedFloat.unpackSign b).toNat = b.toNat / 2 ^ 63 % 2 := by
  simp [UnpackedFloat.unpackSign_def, Nat.shiftRight_eq_div_pow]

end Fields

/-- The fields of a float as naturals. -/
theorem unpack_eq (b : BitVec Format.binary64.numBits) :
    UnpackedFloat.unpack Format.binary64 b =
      let sign := if b.toNat / 2 ^ 63 % 2 = 1 then .negative else .positive
      let biased : ℕ := b.toNat / 2 ^ 52 % 2 ^ 11
      let fraction := b.toNat % 2 ^ 52
      if biased = 2047 then if fraction = 0 then .infinity sign else .notANumber
      else if biased = 0 then
        if h : fraction = 0 then .zero sign
        else .finite sign fraction (-1074) (Nat.pos_of_ne_zero h)
      else .finite sign (2 ^ 52 + fraction) ((biased : ℤ) - 1075)
        (Nat.add_pos_left (Nat.two_pow_pos 52) fraction) := by
  have hs : UnpackedFloat.Sign.ofBitVec (UnpackedFloat.unpackSign b) =
      if b.toNat / 2 ^ 63 % 2 = 1 then .negative else .positive := by
    have := BitVec.toNat_eq (x := UnpackedFloat.unpackSign b) (y := 0#1)
    rw [toNat_unpackSign, BitVec.toNat_zero] at this
    unfold UnpackedFloat.Sign.ofBitVec
    grind
  have hm := BitVec.toNat_eq (x := UnpackedFloat.unpackMantissa b) (y := 0#_)
  have he := BitVec.toNat_eq (x := UnpackedFloat.unpackExponent b) (y := 0#_)
  have hx := BitVec.toNat_eq (x := UnpackedFloat.unpackExponent b) (y := -1#_)
  have hones : (-1#_ : BitVec Format.binary64.exponentBits).toNat = 2047 := rfl
  rw [toNat_unpackMantissa, BitVec.toNat_zero] at hm
  rw [toNat_unpackExponent, BitVec.toNat_zero] at he
  rw [toNat_unpackExponent, hones] at hx
  unfold UnpackedFloat.unpack
  dsimp only
  rw [hs]
  by_cases h1 : b.toNat / 2 ^ 52 % 2 ^ 11 = 2047
  · by_cases h2 : b.toNat % 2 ^ 52 = 0
    · rw [if_pos (hx.2 h1), if_pos (hm.2 h2), if_pos h1, if_pos h2]
    · rw [if_pos (hx.2 h1), if_neg (mt hm.1 h2), if_pos h1, if_neg h2]
  rw [if_neg (mt hx.1 h1), if_neg h1]
  by_cases h3 : b.toNat / 2 ^ 52 % 2 ^ 11 = 0
  · rw [if_pos (he.2 h3), if_pos h3]
    by_cases h2 : b.toNat % 2 ^ 52 = 0
    · rw [dif_pos (hm.2 h2), dif_pos h2]
    · rw [dif_neg (mt hm.1 h2), dif_neg h2]
      congr 1
      rw [toNat_unpackExponent, h3]
      rfl
  · rw [if_neg (mt he.1 h3), if_neg h3]
    congr 1
    · rw [BitVec.toNat_append, toNat_unpackMantissa]
      have := Nat.mod_lt b.toNat (Nat.two_pow_pos 52)
      rw [← Nat.shiftLeft_add_eq_or_of_lt this]
      rfl
    · rw [toNat_unpackExponent]
      rfl

theorem apply_ite (negative : Prop) [Decidable negative] (m : ℕ) :
    UnpackedFloat.Sign.apply (if negative then .negative else .positive) m =
      Exact.signed negative m := by
  by_cases h : negative <;> simp [UnpackedFloat.Sign.apply, Exact.signed, h]

/-- The parts that are taken from the bits denote the number that the float denotes. -/
theorem value?_ofFloat (v : Float) : (Exact.ofFloat v).value? = value? v := by
  rw [value?, Float.Model.unpack, unpack_eq]
  change Exact.value? (
    let b := v.toModel.toBits.toBitVec.toNat
    if b / 2 ^ 52 % 2 ^ 11 = 2047 then
      if b % 2 ^ 52 = 0 then .infinite (b / 2 ^ 63 % 2 = 1) else .nan
    else if b / 2 ^ 52 % 2 ^ 11 = 0 then .finite (b / 2 ^ 63 % 2 = 1) (b % 2 ^ 52) (-1074)
    else .finite (b / 2 ^ 63 % 2 = 1) (2 ^ 52 + b % 2 ^ 52)
      (((b / 2 ^ 52 % 2 ^ 11 : ℕ) : ℤ) - 1075)) = _
  generalize v.toModel.toBits.toBitVec.toNat = b
  by_cases h1 : b / 2 ^ 52 % 2 ^ 11 = 2047
  · by_cases h2 : b % 2 ^ 52 = 0
    · simp only [if_pos h1, if_pos h2]
      rfl
    · simp only [if_pos h1, if_neg h2]
      rfl
  simp only [if_neg h1]
  by_cases h3 : b / 2 ^ 52 % 2 ^ 11 = 0
  · by_cases h2 : b % 2 ^ 52 = 0
    · simp only [if_pos h3, h2, dif_pos, Exact.value?, valueOf, Exact.signed]
      simp
    · simp only [if_pos h3, dif_neg h2, Exact.value?, valueOf, apply_ite]
  · simp only [if_neg h3, Exact.value?, valueOf, apply_ite]

/-- The significand and the exponent of a number other than zero, as the format has them: all digits
are used unless the exponent is the least one. -/
structure Canonical (m : ℕ) (e : ℤ) : Prop where
  lt : m < 2 ^ 53
  le : -1074 ≤ e
  le_max : e ≤ 971
  full : e = -1074 ∨ 2 ^ 52 ≤ m

theorem canonical_of_unpack {v : Float} {s : UnpackedFloat.Sign} {m : ℕ} {e : ℤ} {h : 0 < m}
    (heq : v.toModel.unpack = .finite s m e h) : Canonical m e := by
  rw [Float.Model.unpack, unpack_eq] at heq
  have hf := Nat.mod_lt v.toModel.toBits.toBitVec.toNat (Nat.two_pow_pos 52)
  dsimp only at heq
  split at heq
  · split at heq <;> cases heq
  · split at heq
    · split at heq
      · cases heq
      · cases heq
        exact ⟨by omega, le_rfl, by omega, .inl rfl⟩
    · cases heq
      exact ⟨by omega, by omega, by omega, .inr (by omega)⟩

theorem even_toBits_iff {v : Float} {s : UnpackedFloat.Sign} {m : ℕ} {e : ℤ} {h : 0 < m}
    (heq : v.toModel.unpack = .finite s m e h) : v.toBits.toNat % 2 = 0 ↔ m % 2 = 0 := by
  change v.toModel.toBits.toBitVec.toNat % 2 = 0 ↔ _
  rw [Float.Model.unpack, unpack_eq] at heq
  dsimp only at heq
  split at heq
  · split at heq <;> cases heq
  · split at heq
    · split at heq
      · cases heq
      · cases heq
        omega
    · cases heq
      omega

theorem mul_zpow_lt {m m' : ℕ} {e e' : ℤ} (hc : Canonical m e) (hc' : Canonical m' e')
    (h : e < e') : (m : ℚ) * 2 ^ e < m' * 2 ^ e' := by
  have hm : (m : ℚ) < 2 ^ (53 : ℤ) := by exact_mod_cast hc.lt
  have hm' : (2 : ℚ) ^ (52 : ℤ) ≤ m' := by
    have := hc'.full.resolve_left (by have := hc.le; omega)
    exact_mod_cast this
  calc (m : ℚ) * 2 ^ e < 2 ^ (53 : ℤ) * 2 ^ e := by gcongr
    _ = 2 ^ (53 + e) := (zpow_add₀ two_ne_zero _ _).symm
    _ ≤ 2 ^ (52 + e') := zpow_le_zpow_right₀ one_le_two (by omega)
    _ = 2 ^ (52 : ℤ) * 2 ^ e' := zpow_add₀ two_ne_zero _ _
    _ ≤ m' * 2 ^ e' := by gcongr

/-- A number has one significand and one exponent. -/
theorem Canonical.ext_of_value {m m' : ℕ} {e e' : ℤ} (hc : Canonical m e) (hc' : Canonical m' e')
    (h : (m : ℚ) * 2 ^ e = m' * 2 ^ e') : m = m' ∧ e = e' := by
  rcases lt_trichotomy e e' with hlt | rfl | hlt
  · exact absurd h (mul_zpow_lt hc hc' hlt).ne
  · exact ⟨by exact_mod_cast mul_right_cancel₀ (by positivity) h, rfl⟩
  · exact absurd h (mul_zpow_lt hc' hc hlt).ne'

/-- Numbers of one sign are in the order of their exponents, then in that of their significands. -/
theorem compare_mul_zpow {m m' : ℕ} {e e' : ℤ} (hc : Canonical m e) (hc' : Canonical m' e') :
    (compare e e').then (compare m m') = compare ((m : ℚ) * 2 ^ e) (m' * 2 ^ e') := by
  rcases lt_trichotomy e e' with h | rfl | h
  · rw [compare_lt_iff_lt.2 h, compare_lt_iff_lt.2 (mul_zpow_lt hc hc' h)]
    rfl
  · have hpos : (0 : ℚ) < 2 ^ e := by positivity
    rw [compare_eq_iff_eq.2 rfl]
    rcases lt_trichotomy m m' with h | rfl | h
    · rw [compare_lt_iff_lt.2 h, compare_lt_iff_lt.2 (by gcongr)]
      rfl
    · simp
    · rw [compare_gt_iff_gt.2 h, compare_gt_iff_gt.2 (by gcongr)]
      rfl
  · rw [compare_gt_iff_gt.2 h, compare_gt_iff_gt.2 (mul_zpow_lt hc' hc h)]
    rfl

theorem mul_zpow_pos {m : ℕ} (h : 0 < m) (e : ℤ) : (0 : ℚ) < m * 2 ^ e := by
  have : (0 : ℚ) < m := by exact_mod_cast h
  positivity

theorem compare_neg_neg (x y : ℚ) : compare (-x) (-y) = (compare x y).swap := by
  rcases lt_trichotomy x y with h | rfl | h
  · rw [compare_lt_iff_lt.2 h, compare_gt_iff_gt.2 (neg_lt_neg h)]
    rfl
  · simp
  · rw [compare_gt_iff_gt.2 h, compare_lt_iff_lt.2 (neg_lt_neg h)]
    rfl

/-- Finite floats are in the order of the numbers that they denote. -/
theorem compare_eq {a b : Float} {x y : ℚ} (ha : value? a = some x) (hb : value? b = some y) :
    a.toModel.compare b.toModel = some (compare x y) := by
  have ca := @canonical_of_unpack a
  have cb := @canonical_of_unpack b
  unfold value? at ha hb
  unfold Float.Model.compare
  generalize a.toModel.unpack = f at *
  generalize b.toModel.unpack = g at *
  rcases f with _ | _ | _ | ⟨_ | _, m, e, h⟩ <;> rcases g with _ | _ | _ | ⟨_ | _, m', e', h'⟩ <;>
    simp only [valueOf, Option.some.injEq, reduceCtorEq, UnpackedFloat.Sign.apply, Int.cast_neg,
      Int.cast_natCast, neg_mul] at ha hb <;> subst ha hb
  · simp [UnpackedFloat.compare]
  · have := mul_zpow_pos h' e'
    rw [compare_gt_iff_gt.2 (by linarith)]
    rfl
  · have := mul_zpow_pos h' e'
    rw [compare_lt_iff_lt.2 this]
    rfl
  · have := mul_zpow_pos h e
    rw [compare_lt_iff_lt.2 (by linarith)]
    rfl
  · rw [compare_neg_neg, ← compare_mul_zpow (ca rfl) (cb rfl)]
    rfl
  · have := mul_zpow_pos h e
    have := mul_zpow_pos h' e'
    rw [compare_lt_iff_lt.2 (by linarith)]
    rfl
  · have := mul_zpow_pos h e
    rw [compare_gt_iff_gt.2 this]
    rfl
  · have := mul_zpow_pos h e
    have := mul_zpow_pos h' e'
    rw [compare_gt_iff_gt.2 (by linarith)]
    rfl
  · rw [← compare_mul_zpow (ca rfl) (cb rfl)]
    rfl

theorem lt_iff {a b : Float} {x y : ℚ} (ha : value? a = some x) (hb : value? b = some y) :
    a < b ↔ x < y := by
  change decide ((a.toModel.compare b.toModel == some .lt) = true) = true ↔ _
  rw [compare_eq ha hb]
  simp [compare_lt_iff_lt]

theorem le_iff {a b : Float} {x y : ℚ} (ha : value? a = some x) (hb : value? b = some y) :
    a ≤ b ↔ x ≤ y := by
  change decide ((a.toModel.compare b.toModel).any (·.isLE) = true) = true ↔ _
  rw [compare_eq ha hb]
  simp [← compare_le_iff_le, Ordering.isLE_iff_ne_gt]

end Binary64

end ClosureBridge
