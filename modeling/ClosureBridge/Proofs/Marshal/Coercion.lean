import ClosureBridge.Proofs.Number.Nearest
import ClosureBridge.Value
import Mathlib.Data.Rat.Floor

/-!
# Exact conversions of numbers

A float becomes an integer only when it denotes a word: nothing stands behind its point and it lies
in the range of the words. The range is compared among floats, where the greatest word has become
the first number above all words, so the upper bound is excluded. An integer always becomes a float,
and that float is another number when the integer has too many digits.

## Main statements

* `Word.ofFloat?_eq_some_iff`: a float becomes the word that it denotes.
* `HostValue.coerce_float_integer`: exactly the floats that denote a word become integers.
* `HostValue.coerce_integer_float`: an integer becomes the nearest float, and is kept exactly when
  it has few digits.
-/

namespace ClosureBridge

namespace Exact

theorem signed_mul (negative : Bool) (m p : ℕ) :
    signed negative (m * p) = signed negative m * p := by
  cases negative <;> simp [signed]

theorem dvd_signed_iff (negative : Bool) (p m : ℕ) : (p : ℤ) ∣ signed negative m ↔ p ∣ m := by
  cases negative <;> simp [signed, Int.natCast_dvd_natCast]

theorem value?_negSucc_eq_iff {negative : Bool} {m e : ℕ} {i : ℤ} :
    (finite negative m (.negSucc e)).value? = some (i : ℚ) ↔
      signed negative m = i * power (e + 1) := by
  have hpos : (2 ^ (e + 1) : ℚ) ≠ 0 := by positivity
  rw [value?, Option.some.injEq, zpow_negSucc, mul_inv_eq_iff_eq_mul₀ hpos]
  exact ⟨fun h => by exact_mod_cast h, fun h => by exact_mod_cast h⟩

/-- A number is an integer exactly when nothing stands behind its point. -/
theorem isWhole_iff (v : Exact) : v.IsWhole ↔ ∃ i : ℤ, v.value? = some (i : ℚ) := by
  match v with
  | nan => simp [IsWhole, value?]
  | infinite _ => simp [IsWhole, value?]
  | finite negative m (.ofNat e) =>
    exact iff_of_true trivial ⟨signed negative m * 2 ^ e, by simp [value?]⟩
  | finite negative m (.negSucc e) =>
    simp only [value?_negSucc_eq_iff]
    calc m % power (e + 1) = 0 ↔ power (e + 1) ∣ m := (Nat.dvd_iff_mod_eq_zero).symm
      _ ↔ (power (e + 1) : ℤ) ∣ signed negative m := (dvd_signed_iff ..).symm
      _ ↔ _ := dvd_iff_exists_eq_mul_left

/-- An integer is all that stands before its point. -/
theorem truncate?_of_value? {v : Exact} {i : ℤ} (h : v.value? = some (i : ℚ)) :
    v.truncate? = some i := by
  match v with
  | nan => cases h
  | infinite _ => cases h
  | finite negative m (.ofNat e) =>
    simp only [value?, Option.some.injEq, Int.ofNat_eq_natCast, zpow_natCast] at h
    rw [truncate?, signed_mul, Option.some.injEq]
    exact_mod_cast h
  | finite negative m (.negSucc e) =>
    rw [value?_negSucc_eq_iff] at h
    obtain ⟨c, rfl⟩ : power (e + 1) ∣ m :=
      (dvd_signed_iff negative _ _).1 (Dvd.intro_left i h.symm)
    have hpos : 0 < power (e + 1) := Nat.two_pow_pos _
    rw [Nat.mul_comm, signed_mul] at h
    rw [truncate?, Nat.mul_div_cancel_left c hpos, Option.some.injEq]
    exact mul_right_cancel₀ (by exact_mod_cast hpos.ne') h

end Exact

namespace Word

open Binary64

theorem truncateSaturating_of_value? {v : Float} {i : ℤ} (h : value? v = some (i : ℚ))
    (hlow : -bound ≤ i) (hhigh : i < bound) : truncateSaturating v = Int64.ofInt i := by
  rw [← value?_ofFloat] at h
  have htrunc := Exact.truncate?_of_value? h
  unfold truncateSaturating saturating
  generalize Exact.ofFloat v = x at *
  match x with
  | .nan => cases h
  | .infinite _ => cases h
  | .finite .. =>
    dsimp only
    rw [htrunc, Option.getD_some, if_neg hlow.not_gt, if_neg hhigh.not_ge]

theorem value?_toFloat_minValue : value? (toFloat Int64.minValue) = some ((-bound : ℤ) : ℚ) := by
  rw [value?_toFloat]
  rfl

/-- The greatest word has more digits than a float, and becomes the first number above all words. -/
theorem value?_toFloat_maxValue : value? (toFloat Int64.maxValue) = some ((bound : ℤ) : ℚ) := by
  rw [value?_toFloat]
  rfl

/-- The range that floats are compared with is that of the words. -/
theorem inRange_iff {v : Float} {x : ℚ} (h : value? v = some x) :
    toFloat Int64.minValue ≤ v ∧ v < toFloat Int64.maxValue ↔
      ((-bound : ℤ) : ℚ) ≤ x ∧ x < ((bound : ℤ) : ℚ) := by
  rw [le_iff value?_toFloat_minValue h, lt_iff h value?_toFloat_maxValue]

/-- A float becomes a word exactly when it denotes that word. -/
theorem ofFloat?_eq_some_iff (v : Float) (w : Int64) :
    ofFloat? v = some w ↔ value? v = some (w.toInt : ℚ) := by
  unfold ofFloat?
  rw [Option.ite_none_right_eq_some, Exact.isWhole_iff, value?_ofFloat]
  constructor
  · rintro ⟨⟨⟨i, hi⟩, hrange⟩, heq⟩
    rw [inRange_iff hi] at hrange
    have hlow : -bound ≤ i := by exact_mod_cast hrange.1
    have hhigh : i < bound := by exact_mod_cast hrange.2
    rw [truncateSaturating_of_value? hi hlow hhigh, Option.some.injEq] at heq
    rw [hi, ← heq, Int64.toInt_ofInt_of_le hlow hhigh]
  · intro h
    have hlow : -bound ≤ w.toInt := Int64.le_toInt w
    have hhigh : w.toInt < bound := Int64.toInt_lt w
    refine ⟨⟨⟨_, h⟩, (inRange_iff h).2 ⟨by exact_mod_cast hlow, by exact_mod_cast hhigh⟩⟩, ?_⟩
    rw [truncateSaturating_of_value? h hlow hhigh, Int64.ofInt_toInt]

/-- The words are the whole numbers in their range. -/
theorem exists_toInt_eq_iff {x : ℚ} :
    (∃ w : Int64, (w.toInt : ℚ) = x) ↔ Int.fract x = 0 ∧ -2 ^ 63 ≤ x ∧ x < 2 ^ 63 := by
  constructor
  · rintro ⟨w, rfl⟩
    refine ⟨Int.fract_intCast _, ?_, ?_⟩
    · exact_mod_cast Int64.le_toInt w
    · exact_mod_cast Int64.toInt_lt w
  · rintro ⟨hfract, hlow, hhigh⟩
    obtain ⟨i, rfl⟩ := Int.fract_eq_zero_iff.1 hfract
    have hlow : -2 ^ 63 ≤ i := by exact_mod_cast hlow
    have hhigh : i < 2 ^ 63 := by exact_mod_cast hhigh
    exact ⟨Int64.ofInt i, by rw [Int64.toInt_ofInt_of_le hlow hhigh]⟩

end Word

namespace HostValue

open Binary64

theorem coerce_integer_eq_some_iff (v : Float) (n : Int64) :
    (float v).coerce .integer = some (integer n) ↔ value? v = some (n.toInt : ℚ) := by
  rw [← Word.ofFloat?_eq_some_iff]
  change (Word.ofFloat? v).map integer = _ ↔ _
  simp

theorem coerce_integer_eq_none_iff (v : Float) :
    (float v).coerce .integer = none ↔ ∀ n : Int64, value? v ≠ some (n.toInt : ℚ) := by
  simp only [ne_eq, ← Word.ofFloat?_eq_some_iff, ← Option.eq_none_iff_forall_ne_some]
  exact Option.map_eq_none_iff

/-- **Exactly the floats that denote a word become integers, and each becomes the word that it
denotes.** No number, an infinity, a number with a part behind the point and a number out of range
become nothing; the negative zero denotes zero. -/
theorem coerce_float_integer (v : Float) :
    (∀ n : Int64, (float v).coerce .integer = some (integer n) ↔
      v.isFinite = true ∧ ∃ x, value? v = some x ∧ Int.fract x = 0 ∧ -2 ^ 63 ≤ x ∧ x < 2 ^ 63 ∧
        (n.toInt : ℚ) = x) ∧
    ((float v).coerce .integer = none ↔
      ¬(v.isFinite = true ∧
        ∃ x, value? v = some x ∧ Int.fract x = 0 ∧ -2 ^ 63 ≤ x ∧ x < 2 ^ 63)) := by
  refine ⟨fun n => ?_, ?_⟩
  · rw [coerce_integer_eq_some_iff]
    constructor
    · intro h
      obtain ⟨hfract, hlow, hhigh⟩ := Word.exists_toInt_eq_iff.1 ⟨n, rfl⟩
      exact ⟨(isFinite_iff v).2 ⟨_, h⟩, _, h, hfract, hlow, hhigh, rfl⟩
    · rintro ⟨-, x, hx, -, -, -, rfl⟩
      exact hx
  · rw [coerce_integer_eq_none_iff]
    constructor
    · rintro h ⟨-, x, hx, hwhole⟩
      obtain ⟨n, rfl⟩ := Word.exists_toInt_eq_iff.2 hwhole
      exact h n hx
    · intro h n hx
      exact h ⟨(isFinite_iff v).2 ⟨_, hx⟩, _, hx, Word.exists_toInt_eq_iff.1 ⟨n, rfl⟩⟩

/-- **An integer becomes the nearest float, a tie going to the even one.** The float denotes the
integer, and converts back to it, exactly when the integer is fifty-three digits and a power of
two. -/
theorem coerce_integer_float (n : Int64) :
    ∃ v, (integer n).coerce .float = some (float v) ∧ IsNearest v n.toInt ∧
      (value? v = some (n.toInt : ℚ) ↔ Representable n.toInt) ∧
      ((float v).coerce .integer = some (integer n) ↔ Representable n.toInt) := by
  have hexact := value?_toFloat_eq_iff n
  refine ⟨Word.toFloat n, rfl, isNearest_toFloat n, hexact, ?_⟩
  rw [coerce_integer_eq_some_iff, hexact]

/-- The first integer with too many digits becomes the float of another one, and does not come
back. -/
theorem not_coerce_integer_float_exact :
    ¬∀ (n : Int64) (v : Float), (integer n).coerce .float = some (float v) →
      value? v = some (n.toInt : ℚ) ∧ (float v).coerce .integer = some (integer n) := by
  intro h
  have := (h 9007199254740993 _ rfl).1
  rw [value?_toFloat] at this
  revert this
  decide

end HostValue

end ClosureBridge
