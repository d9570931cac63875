import ClosureBridge.Proofs.Number.Rounding

/-!
# The nearest float

Every float denotes a multiple of the last digit that a word is rounded at, or a number too short to
be closer to the word than the power of two between them. So the float of a word is the nearest one,
and it is the word itself exactly when the word has few digits.

## Main definitions

* `Binary64.IsNearest`: no float denotes a number closer to the one given.
* `Binary64.Representable`: an integer is fifty-three digits and a power of two.

## Main statements

* `Binary64.isNearest_toFloat`: the float of a word is nearest to it.
* `Binary64.value?_toFloat_eq_iff`: when the float of a word denotes the word.
-/

namespace ClosureBridge

open Float.Model UnpackedFloat

namespace Binary64

/-- A rounded quotient is off by at most a half, and is even when it is off by a half. -/
theorem abs_halfEven_mul_sub (n : ℕ) {d : ℕ} (hd : 0 < d) :
    2 * |(halfEven n d : ℤ) * d - n| ≤ d ∧
      (2 * |(halfEven n d : ℤ) * d - n| = d → halfEven n d % 2 = 0) := by
  have hlt := Nat.mod_lt n hd
  have hn : (n : ℤ) = (n / d : ℕ) * d + (n % d : ℕ) := by
    exact_mod_cast (Nat.div_add_mod' n d).symm
  have hbelow : |((n / d : ℕ) : ℤ) * d - n| = (n % d : ℕ) := by
    rw [hn, sub_add_cancel_left, abs_neg, Nat.abs_cast]
  have habove : |((n / d + 1 : ℕ) : ℤ) * d - n| = d - (n % d : ℕ) := by
    rw [abs_of_nonneg (by push_cast at hn ⊢; linarith [(Nat.cast_le (α := ℤ)).2 hlt.le])]
    push_cast at hn ⊢
    linarith
  unfold halfEven
  split
  · omega
  · split
    · omega
    · rcases Nat.mod_two_eq_zero_or_one (n / d) with h | h <;> rw [h]
      · rw [Nat.add_zero]
        omega
      · omega

/-- Of the multiples of the last digit, no other is closer to a number than the one that it is
rounded to. -/
theorem abs_halfEven_lt (n : ℕ) {d : ℕ} (hd : 0 < d) {k : ℤ} (hk : k ≠ halfEven n d) :
    |(halfEven n d : ℤ) * d - n| < |k * d - n| ∨
      |(halfEven n d : ℤ) * d - n| = |k * d - n| ∧ halfEven n d % 2 = 0 := by
  obtain ⟨hhalf, heven⟩ := abs_halfEven_mul_sub n hd
  generalize halfEven n d = q at *
  have hstep : (d : ℤ) ≤ |k * d - q * d| := by
    rw [← sub_mul, abs_mul, Nat.abs_cast]
    have : 1 ≤ |k - q| := Int.one_le_abs (sub_ne_zero.2 hk)
    nlinarith
  have htri := abs_sub_le (k * d : ℤ) n (q * d)
  rw [abs_sub_comm (n : ℤ)] at htri
  rcases lt_or_ge |(q : ℤ) * d - n| |k * d - n| with h | h
  · exact .inl h
  · exact .inr ⟨by omega, heven (by omega)⟩

/-- Every float denotes a multiple of a power of two, or a number with fewer than fifty-three digits
before that power's one. -/
theorem multiple_or_abs_lt {u : Float} {z : ℚ} (hz : value? u = some z) (j : ℕ) :
    (∃ k : ℤ, z = k * 2 ^ j) ∨ |z| < 2 ^ (52 + j) := by
  have hc := @canonical_of_unpack u
  unfold value? at hz
  generalize u.toModel.unpack = f at *
  rcases f with _ | _ | _ | ⟨s, m, e, h⟩
  · cases hz
  · cases hz
  · cases hz
    exact .inl ⟨0, by simp⟩
  · cases hz
    rcases le_or_gt (j : ℤ) e with hle | hgt
    · obtain ⟨i, rfl⟩ : ∃ i : ℕ, e = i + j := ⟨(e - j).toNat, by omega⟩
      refine .inl ⟨s.apply m * 2 ^ i, ?_⟩
      rw [zpow_add₀ two_ne_zero, zpow_natCast, zpow_natCast]
      push_cast
      ring
    · right
      have hm : (m : ℚ) < 2 ^ (53 : ℤ) := by exact_mod_cast (hc rfl).lt
      have habs : |((s.apply m : ℤ) : ℚ) * 2 ^ e| = m * 2 ^ e := by
        have hpos : (0 : ℚ) < 2 ^ e := by positivity
        cases s <;> simp [Sign.apply, abs_mul]
      calc |((s.apply m : ℤ) : ℚ) * 2 ^ e| = m * 2 ^ e := habs
        _ < 2 ^ (53 : ℤ) * 2 ^ e := by gcongr
        _ = 2 ^ (53 + e) := (zpow_add₀ two_ne_zero _ _).symm
        _ ≤ 2 ^ ((52 + j : ℕ) : ℤ) := zpow_le_zpow_right₀ one_le_two (by push_cast; omega)
        _ = 2 ^ (52 + j) := zpow_natCast _ _

/-- No number of the format is closer to a long natural number than the one that it is rounded to,
and of two that are equally close the even one is taken. -/
theorem abs_halfEven_lt_of_shape {n j : ℕ} (hle : 2 ^ (52 + j) ≤ n) {z : ℚ}
    (hz : (∃ k : ℤ, z = k * 2 ^ j) ∨ |z| < 2 ^ (52 + j)) (hne : z ≠ halfEven n (2 ^ j) * 2 ^ j) :
    |(halfEven n (2 ^ j) * 2 ^ j : ℚ) - n| < |z - n| ∨
      |(halfEven n (2 ^ j) * 2 ^ j : ℚ) - n| = |z - n| ∧ halfEven n (2 ^ j) % 2 = 0 := by
  have hmultiple (k : ℤ) (hk : k ≠ halfEven n (2 ^ j)) := abs_halfEven_lt n (Nat.two_pow_pos j) hk
  generalize halfEven n (2 ^ j) = q at *
  rcases hz with ⟨k, rfl⟩ | hlt
  · rcases hmultiple k (by rintro rfl; simp at hne) with h | ⟨h, heven⟩
    · exact .inl (by exact_mod_cast h)
    · exact .inr ⟨by exact_mod_cast h, heven⟩
  · -- the power of two between a shorter number and `n` is closer to `n`
    have hpower : |(q * 2 ^ j : ℚ) - n| ≤ |(2 ^ (52 + j) : ℚ) - n| := by
      rw [pow_add]
      by_cases hk : (2 ^ 52 : ℤ) = q
      · rw [show (q : ℚ) = 2 ^ 52 by exact_mod_cast hk.symm]
      · rcases hmultiple (2 ^ 52) hk with h | ⟨h, -⟩
        · exact_mod_cast h.le
        · exact_mod_cast h.le
    have hle' : (2 ^ (52 + j) : ℚ) ≤ n := by exact_mod_cast hle
    have hz := (abs_lt.1 hlt).2
    rw [abs_of_nonpos (sub_nonpos.2 hle')] at hpower
    rw [abs_of_neg (sub_neg.2 (hz.trans_le hle'))]
    exact .inl (by linarith)

theorem abs_nearest_sub {n : ℕ} (hn : 0 < n) {z : ℚ}
    (hz : (∃ k : ℤ, z = k * 2 ^ (n.log2 - 52)) ∨ |z| < 2 ^ (52 + (n.log2 - 52)))
    (hne : z ≠ nearest n) :
    |(nearest n : ℚ) - n| < |z - n| ∨
      |(nearest n : ℚ) - n| = |z - n| ∧ 52 ≤ n.log2 ∧ halfEven n (2 ^ (n.log2 - 52)) % 2 = 0 := by
  rcases le_or_gt 52 n.log2 with hlog | hlog
  · have hle : 2 ^ (52 + (n.log2 - 52)) ≤ n := by
      rw [Nat.add_sub_cancel' hlog]
      exact ((Nat.log2_eq_iff hn.ne').1 rfl).1
    rw [nearest, Nat.cast_mul, Nat.cast_pow, Nat.cast_ofNat] at hne ⊢
    exact (abs_halfEven_lt_of_shape hle hz hne).imp_right (fun h => ⟨h.1, hlog, h.2⟩)
  · rw [nearest_of_log2_le hlog.le] at hne ⊢
    rw [sub_self, abs_zero]
    exact .inl (abs_pos.2 (sub_ne_zero.2 hne))

/-- `v` is the float of the number `x`: floats of other numbers are further from `x`, or are as far
when the last digit of `v` is even. -/
def IsNearest (v : Float) (x : ℚ) : Prop :=
  ∃ y, value? v = some y ∧ ∀ u z, value? u = some z → z ≠ y →
    |y - x| < |z - x| ∨ |y - x| = |z - x| ∧ v.toBits.toNat % 2 = 0

/-- The float of a word is nearest to the word. -/
theorem isNearest_toFloat (w : Int64) : IsNearest (Word.toFloat w) w.toInt := by
  refine ⟨_, value?_toFloat w, fun u z hz hne => ?_⟩
  by_cases hw : w.toInt = 0
  · rw [hw] at hne ⊢
    simp only [Int.sign_zero, zero_mul, Int.cast_zero, sub_zero, abs_zero] at hne ⊢
    exact .inl (abs_pos.2 hne)
  obtain ⟨m, e, h, heq⟩ := unpack_wordToFloat hw
  rw [even_toBits_iff heq]
  have hshape := multiple_or_abs_lt hz (w.toInt.natAbs.log2 - 52)
  have hpos : 0 < w.toInt.natAbs := Int.natAbs_pos.2 hw
  have heven := h.even
  rw [show (w.toInt : ℚ) = ((w.toInt.sign * w.toInt.natAbs : ℤ) : ℚ) by rw [Int.sign_mul_natAbs]]
  obtain hσ | hσ : w.toInt.sign = 1 ∨ w.toInt.sign = -1 := by
    rcases lt_or_gt_of_ne hw with hneg | hpos
    · exact .inr (Int.sign_eq_neg_one_of_neg hneg)
    · exact .inl (Int.sign_eq_one_of_pos hpos)
  · rw [hσ] at hne ⊢
    simp only [one_mul, Int.cast_natCast] at hne ⊢
    exact (abs_nearest_sub hpos hshape hne).imp_right fun h => ⟨h.1, heven h.2.1 h.2.2⟩
  · -- a negative word: everything is reflected at zero
    rw [hσ] at hne ⊢
    simp only [neg_mul, one_mul, Int.cast_neg, Int.cast_natCast, neg_sub_neg] at hne ⊢
    have hshape' : (∃ k : ℤ, -z = k * 2 ^ _) ∨ |-z| < _ := hshape.imp
      (fun ⟨k, hk⟩ => ⟨-k, by rw [hk]; push_cast; ring⟩)
      (fun hlt => (abs_neg z).trans_lt hlt)
    have key := abs_nearest_sub hpos hshape' (fun heq => hne (neg_eq_iff_eq_neg.1 heq))
    rw [abs_sub_comm, sub_neg_eq_add, ← abs_neg (z + _), neg_add']
    exact key.imp_right fun h => ⟨h.1, heven h.2.1 h.2.2⟩

/-- The words that a float denotes: fifty-three digits and a power of two. -/
def Representable (n : ℤ) : Prop :=
  ∃ (m : ℤ) (k : ℕ), n = m * 2 ^ k ∧ |m| < 2 ^ 53

theorem representable_of_value? {u : Float} {n : ℤ} (h : value? u = some (n : ℚ)) :
    Representable n := by
  have hc := @canonical_of_unpack u
  unfold value? at h
  generalize u.toModel.unpack = f at *
  rcases f with _ | _ | _ | ⟨s, m, e, hm⟩
  · cases h
  · cases h
  · exact ⟨0, 0, by simpa [valueOf, eq_comm] using h, by simp⟩
  · have hlt := (hc rfl).lt
    simp only [valueOf, Option.some.injEq] at h
    have habs : |s.apply (m : ℤ)| < 2 ^ 53 := by
      cases s <;> simpa [Sign.apply] using (by exact_mod_cast hlt : (m : ℤ) < 2 ^ 53)
    rcases le_or_gt 0 e with hle | hgt
    · obtain ⟨k, rfl⟩ := Int.eq_ofNat_of_zero_le hle
      exact ⟨s.apply m, k, by rw [zpow_natCast] at h; exact_mod_cast h.symm, habs⟩
    · refine ⟨n, 0, by simp, ?_⟩
      have hle : |(n : ℚ)| ≤ |((s.apply m : ℤ) : ℚ)| := by
        rw [← h, abs_mul]
        refine mul_le_of_le_one_right (abs_nonneg _) ?_
        rw [abs_of_pos (by positivity)]
        exact zpow_le_one_of_nonpos₀ one_le_two hgt.le
      have : |n| ≤ |s.apply (m : ℤ)| := by exact_mod_cast hle
      omega

/-- A number with few digits is its own rounding. -/
theorem nearest_of_representable {i : ℤ} (h : Representable i) :
    nearest i.natAbs = i.natAbs := by
  obtain ⟨m, k, rfl, hm⟩ := h
  rw [Int.natAbs_mul, Int.natAbs_pow, show (2 : ℤ).natAbs = 2 from rfl]
  replace hm : m.natAbs < 2 ^ 53 := by
    rw [Int.abs_eq_natAbs] at hm
    exact_mod_cast hm
  generalize m.natAbs = c at *
  rcases le_or_gt (c * 2 ^ k).log2 52 with hlog | hlog
  · exact nearest_of_log2_le hlog
  have hlt : (c * 2 ^ k).log2 < 53 + k := by
    refine (Nat.log2_lt fun h => by simp [h] at hlog).2 ?_
    rw [Nat.pow_add]
    exact Nat.mul_lt_mul_of_pos_right hm (Nat.two_pow_pos k)
  obtain ⟨j, hj⟩ : ∃ j, k = j + ((c * 2 ^ k).log2 - 52) :=
    ⟨k - ((c * 2 ^ k).log2 - 52), by omega⟩
  unfold nearest
  generalize (c * 2 ^ k).log2 - 52 = d at *
  rw [hj, Nat.pow_add, ← Nat.mul_assoc, halfEven_mul_self (Nat.two_pow_pos d)]

/-- The float of a word denotes the word exactly when the word has few digits. -/
theorem value?_toFloat_eq_iff (w : Int64) :
    value? (Word.toFloat w) = some (w.toInt : ℚ) ↔ Representable w.toInt := by
  refine ⟨representable_of_value?, fun h => ?_⟩
  rw [value?_toFloat, nearest_of_representable h, Int.sign_mul_natAbs]

end Binary64

end ClosureBridge
