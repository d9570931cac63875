import ClosureBridge.Proofs.Number.Denotation

/-!
# Rounding a word to a float

The float of a word is computed by shifting the word to the length of a significand. What is shifted
out is kept as two bits, from which the last digit is rounded, a half to the even digit. A carry
past the first digit costs one more shift, which loses nothing.

## Main definitions

* `Binary64.halfEven`: the rounded quotient of two natural numbers.
* `Binary64.nearest`: a natural number rounded to fifty-three digits.
* `Binary64.Rounded`: a significand and an exponent that a natural number is rounded to.

## Main statements

* `Binary64.unpack_pack`: a number of the format is kept by packing.
* `Binary64.roundWithAccuracy_eq`: what rounding gives, for numbers of full length.
* `Binary64.value?_toFloat`: the number that the float of a word denotes.
-/

namespace ClosureBridge

open Float.Model UnpackedFloat

namespace Binary64

/-- The quotient rounded to the nearest natural number, a half to the even one. -/
def halfEven (n d : ℕ) : ℕ :=
  if 2 * (n % d) < d then n / d
  else if d < 2 * (n % d) then n / d + 1
  else n / d + n / d % 2

theorem halfEven_mul_right {c : ℕ} (hc : 0 < c) (n d : ℕ) :
    halfEven (n * c) (d * c) = halfEven n d := by
  unfold halfEven
  rw [Nat.mul_mod_mul_right, Nat.mul_div_mul_right _ _ hc]
  simp only [← Nat.mul_assoc, Nat.mul_lt_mul_right hc]

theorem halfEven_mul_self {d : ℕ} (hd : 0 < d) (n : ℕ) : halfEven (n * d) d = n := by
  simp [halfEven, hd]

/-- A mantissa shifted to the right keeps the digit before the last one that is lost, and whether
any digit after it was set. -/
theorem shiftRight_succ (n k : ℕ) :
    ((⟨n, false, false⟩ : ExtendedMantissa) >>> (k + 1)) =
      ⟨n / 2 ^ (k + 1), n / 2 ^ k % 2 != 0, n % 2 ^ k != 0⟩ := by
  change Nat.repeat ExtendedMantissa.shiftRightOne (k + 1) _ = _
  induction k with
  | zero => simp [Nat.repeat, ExtendedMantissa.shiftRightOne, Nat.mod_one]
  | succ k ih =>
    rw [Nat.repeat, ih]
    have hlost : (n / 2 ^ k % 2 != 0 || n % 2 ^ k != 0) = (n % 2 ^ (k + 1) != 0) := by
      rw [Nat.pow_succ, Nat.mod_mul]
      have := Nat.two_pow_pos k
      rcases Nat.mod_two_eq_zero_or_one (n / 2 ^ k) with h | h <;> simp [h]
    simp only [ExtendedMantissa.shiftRightOne, hlost, Nat.div_div_eq_div_mul, ← Nat.pow_succ]

/-- Shifting and rounding what is lost is rounding the quotient. -/
theorem roundedMantissa_shiftRight (n k : ℕ) :
    ((⟨n, false, false⟩ : ExtendedMantissa) >>> k).roundedMantissa = halfEven n (2 ^ k) := by
  cases k with
  | zero => exact (by simp [halfEven, Nat.mod_one] : n = halfEven n 1)
  | succ k =>
    rw [shiftRight_succ]
    have hlow := Nat.mod_lt n (Nat.two_pow_pos k)
    have hmod : n % 2 ^ (k + 1) = n % 2 ^ k + 2 ^ k * (n / 2 ^ k % 2) := by
      rw [Nat.pow_succ, Nat.mod_mul]
    unfold halfEven
    rw [hmod, Nat.pow_succ]
    generalize n / (2 ^ k * 2) = q
    generalize n % 2 ^ k = low at hlow ⊢
    rcases Nat.eq_zero_or_pos low with hz | hz
    · rw [hz]
      rcases Nat.mod_two_eq_zero_or_one (n / 2 ^ k) with h | h <;> rw [h]
      · rw [if_pos (by omega)]
        rfl
      · rw [if_neg (by omega), if_neg (by omega)]
        rfl
    · rw [show (low != 0) = true from bne_iff_ne.2 hz.ne']
      rcases Nat.mod_two_eq_zero_or_one (n / 2 ^ k) with h | h <;> rw [h]
      · rw [if_pos (by omega)]
        rfl
      · rw [if_neg (by omega), if_pos (by omega)]
        rfl

theorem halfEven_le (n d : ℕ) : n / d ≤ halfEven n d ∧ halfEven n d ≤ n / d + 1 := by
  unfold halfEven
  split
  · omega
  · split <;> omega

/-- A number rounded to full length has full length, or is the first power of two above it. -/
theorem halfEven_bounds {n : ℕ} (hn : 52 ≤ n.log2) :
    2 ^ 52 ≤ halfEven n (2 ^ (n.log2 - 52)) ∧ halfEven n (2 ^ (n.log2 - 52)) ≤ 2 ^ 53 := by
  have h0 : n ≠ 0 := by
    rintro rfl
    simp at hn
  obtain ⟨hle, hlt⟩ := (Nat.log2_eq_iff h0).1 rfl
  have hsplit : 2 ^ n.log2 = 2 ^ (n.log2 - 52) * 2 ^ 52 := by
    rw [← Nat.pow_add, Nat.sub_add_cancel hn]
  have hpos := Nat.two_pow_pos (n.log2 - 52)
  rw [hsplit] at hle
  rw [Nat.pow_succ, hsplit] at hlt
  have hlow : 2 ^ 52 ≤ n / 2 ^ (n.log2 - 52) := by
    rwa [Nat.le_div_iff_mul_le hpos, Nat.mul_comm]
  have hhigh : n / 2 ^ (n.log2 - 52) < 2 ^ 53 := by
    rw [Nat.div_lt_iff_lt_mul hpos]
    omega
  have := halfEven_le n (2 ^ (n.log2 - 52))
  omega

/-- The bits of a sign. -/
def signBit : Sign → ℕ
  | .positive => 0
  | .negative => 1

theorem toNat_packComponents (s : Sign) {biased : ℕ} (hb : biased < 2 ^ 11) (m : ℕ) :
    (packComponents Format.binary64 s (BitVec.ofNat _ biased) (BitVec.ofNat _ m)).toNat =
      (signBit s * 2 ^ 11 + biased) * 2 ^ 52 + m % 2 ^ 52 := by
  unfold packComponents
  rw [BitVec.toNat_append, BitVec.toNat_append,
    ← Nat.shiftLeft_add_eq_or_of_lt (BitVec.ofNat Format.binary64.exponentBits biased).isLt,
    ← Nat.shiftLeft_add_eq_or_of_lt
      (BitVec.ofNat Format.binary64.mantissaBitsWithoutImplicit m).isLt,
    BitVec.toNat_ofNat, BitVec.toNat_ofNat, Nat.mod_eq_of_lt hb, Nat.shiftLeft_eq, Nat.shiftLeft_eq]
  cases s <;> rfl

theorem unpack_packComponents (s : Sign) {biased : ℕ} (hb : biased < 2047) (m : ℕ) :
    unpack Format.binary64
        (packComponents Format.binary64 s (BitVec.ofNat _ biased) (BitVec.ofNat _ m)) =
      if biased = 0 then
        if h : m % 2 ^ 52 = 0 then .zero s
        else .finite s (m % 2 ^ 52) (-1074) (Nat.pos_of_ne_zero h)
      else .finite s (2 ^ 52 + m % 2 ^ 52) ((biased : ℤ) - 1075)
        (Nat.add_pos_left (Nat.two_pow_pos 52) _) := by
  have hs : signBit s < 2 := by cases s <;> decide
  have hsign : (if signBit s = 1 then Sign.negative else .positive) = s := by cases s <;> rfl
  have htoNat := toNat_packComponents s (by omega : biased < 2 ^ 11) m
  generalize packComponents Format.binary64 s (BitVec.ofNat _ biased) (BitVec.ofNat _ m) = b at *
  have h1 : b.toNat / 2 ^ 63 % 2 = signBit s := by omega
  have h2 : b.toNat / 2 ^ 52 % 2 ^ 11 = biased := by omega
  have h3 : b.toNat % 2 ^ 52 = m % 2 ^ 52 := by omega
  rw [unpack_eq]
  simp only [h1, h2, h3, hsign, if_neg hb.ne]

/-- A number of the format is kept by packing. -/
theorem unpack_pack {s : Sign} {m : ℕ} {e : ℤ} (h : 0 < m) (hc : Canonical m e) :
    (Float.Model.pack (.finite s m e h)).unpack = .finite s m e h := by
  obtain ⟨hm, he, hmax, hfull⟩ := hc
  have hbias : e + Format.binary64.exponentBias + Format.binary64.mantissaBitsWithoutImplicit
      = e + 1075 := by
    change e + (1023 : ℕ) + (52 : ℕ) = _
    push_cast
    ring
  have hlog : m.log2 + 1 = Format.binary64.mantissaBits ↔ 2 ^ 52 ≤ m := by
    change m.log2 + 1 = 53 ↔ _
    rw [Nat.add_right_cancel_iff, Nat.log2_eq_iff h.ne']
    exact and_iff_left hm
  unfold Float.Model.unpack Float.Model.pack UnpackedFloat.pack
  dsimp only
  rw [hbias, if_neg (by omega)]
  split
  · rename_i hlen
    have hlow := hlog.1 hlen
    rw [unpack_packComponents _ (by omega), if_neg (by omega)]
    congr 1 <;> omega
  · rename_i hlen
    have hlow := mt hlog.2 hlen
    rw [unpack_packComponents _ (by decide), if_pos rfl, dif_neg (by omega)]
    congr 1 <;> omega

theorem targetExponent_eq (n : ℕ) (e : ℤ) :
    Format.binary64.targetExponent (totalExponent n e) = max (n.log2 + 1 + e - (53 : ℕ)) (-1074) :=
  rfl

theorem shiftToTargetExponent_eq (n : ℕ) (e : ℤ) (he : -1074 ≤ e + (n.log2 - 52 : ℕ)) :
    shiftToTargetExponent Format.binary64 n e .exact =
      ((⟨n, false, false⟩ : ExtendedMantissa) >>> (n.log2 - 52), e + (n.log2 - 52 : ℕ)) := by
  have hshift : (Format.binary64.targetExponent (totalExponent n e) - e).toNat = n.log2 - 52 := by
    rw [targetExponent_eq]
    omega
  rw [← hshift]
  rfl

/-- A rounded number has full length, or is the first power of two above it and loses a zero. -/
theorem shiftToTargetExponent_of_le {n : ℕ} {e : ℤ} (hlow : 2 ^ 52 ≤ n) (hhigh : n ≤ 2 ^ 53)
    (he : -1074 ≤ e) (hmax : e < 971) :
    ∃ m e', Canonical m e' ∧ 2 ^ 52 ≤ m ∧ e' ≤ e + 1 ∧ (m : ℚ) * 2 ^ e' = n * 2 ^ e ∧
      (n % 2 = 0 → m % 2 = 0) ∧
      (shiftToTargetExponent Format.binary64 n e .exact).1.mantissa = m ∧
      (shiftToTargetExponent Format.binary64 n e .exact).2 = e' := by
  rw [shiftToTargetExponent_eq n e (by omega)]
  rcases hhigh.lt_or_eq with hlt | rfl
  · have hlog : n.log2 = 52 := (Nat.log2_eq_iff (by omega)).2 ⟨hlow, hlt⟩
    rw [hlog]
    exact ⟨n, e, ⟨hlt, he, by omega, .inr hlow⟩, hlow, by omega, rfl, id, rfl, by simp⟩
  · rw [Nat.log2_two_pow]
    refine ⟨2 ^ 52, e + 1, ⟨by omega, by omega, by omega, .inr le_rfl⟩, le_rfl, le_rfl, ?_,
      by omega, rfl, rfl⟩
    rw [zpow_add_one₀ two_ne_zero]
    push_cast
    ring

/-- A number that has at least the full length is rounded to full length. -/
theorem roundWithAccuracy_eq {s : Sign} {n : ℕ} {e : ℤ} (hn : 52 ≤ n.log2)
    (he : -1074 ≤ e + (n.log2 - 52 : ℕ)) (hmax : e + (n.log2 - 52 : ℕ) < 971) :
    ∃ m e' h, Canonical m e' ∧ 2 ^ 52 ≤ m ∧ e' ≤ e + (n.log2 - 52 : ℕ) + 1 ∧
      (m : ℚ) * 2 ^ e' = halfEven n (2 ^ (n.log2 - 52)) * 2 ^ (e + (n.log2 - 52 : ℕ)) ∧
      (halfEven n (2 ^ (n.log2 - 52)) % 2 = 0 → m % 2 = 0) ∧
      roundWithAccuracy Format.binary64 s n e .exact = .finite s m e' h := by
  obtain ⟨hlow, hhigh⟩ := halfEven_bounds hn
  obtain ⟨m, e', hc, hm, he', hvalue, heven, rfl, rfl⟩ :=
    shiftToTargetExponent_of_le hlow hhigh he hmax
  refine ⟨_, _, by omega, hc, hm, he', hvalue, heven, ?_⟩
  unfold roundWithAccuracy
  simp only [shiftToTargetExponent_eq n e he, roundedMantissa_shiftRight]
  exact dif_neg (by omega)

/-- The multiple of the last digit that a number is rounded to. -/
def nearest (n : ℕ) : ℕ :=
  halfEven n (2 ^ (n.log2 - 52)) * 2 ^ (n.log2 - 52)

theorem nearest_of_log2_le {n : ℕ} (h : n.log2 ≤ 52) : nearest n = n := by
  rw [nearest, Nat.sub_eq_zero_of_le h]
  simpa using halfEven_mul_self Nat.one_pos n

theorem log2_mul_two_pow {n : ℕ} (hn : 0 < n) (t : ℕ) : (n * 2 ^ t).log2 = n.log2 + t := by
  obtain ⟨hle, hlt⟩ := (Nat.log2_eq_iff hn.ne').1 rfl
  refine (Nat.log2_eq_iff (by positivity)).2 ⟨?_, ?_⟩
  · rw [Nat.pow_add]
    exact Nat.mul_le_mul_right _ hle
  · rw [Nat.add_right_comm, Nat.pow_add]
    exact Nat.mul_lt_mul_of_pos_right hlt (Nat.two_pow_pos t)

/-- Zeros behind the point do not change what a number is rounded to. -/
theorem halfEven_mul_two_pow {n t : ℕ} (hfull : 52 ≤ n.log2 + t) :
    (halfEven (n * 2 ^ t) (2 ^ (n.log2 + t - 52)) : ℚ) * 2 ^ (-t + (n.log2 + t - 52 : ℕ) : ℤ) =
      nearest n := by
  unfold nearest
  rcases Nat.le_total 52 n.log2 with hle | hle
  · rw [show n.log2 + t - 52 = n.log2 - 52 + t by omega, Nat.pow_add,
      halfEven_mul_right (Nat.two_pow_pos t)]
    push_cast
    rw [neg_add_cancel_comm_assoc, zpow_natCast]
  · obtain ⟨k, rfl⟩ : ∃ k, t = 52 - n.log2 + k := ⟨n.log2 + t - 52, by omega⟩
    rw [show n.log2 + (52 - n.log2 + k) - 52 = k by omega, Nat.pow_add, ← Nat.mul_assoc,
      halfEven_mul_self (Nat.two_pow_pos k), Nat.sub_eq_zero_of_le hle, Nat.pow_zero, Nat.mul_one,
      show halfEven n 1 = n from by simpa using halfEven_mul_self Nat.one_pos n]
    push_cast
    rw [neg_add, neg_add_cancel_right, zpow_neg, zpow_natCast, mul_assoc,
      mul_inv_cancel₀ (by positivity), mul_one]

/-- A significand and an exponent that a natural number other than zero is rounded to. -/
structure Rounded (n m : ℕ) (e : ℤ) : Prop where
  canonical : Canonical m e
  full : 2 ^ 52 ≤ m
  lt_max : e < 971
  value : (m : ℚ) * 2 ^ e = nearest n
  even : 52 ≤ n.log2 → halfEven n (2 ^ (n.log2 - 52)) % 2 = 0 → m % 2 = 0

theorem Rounded.pos {n m : ℕ} {e : ℤ} (h : Rounded n m e) : 0 < m := by
  have := h.full
  omega

theorem rounded_of_pos {s : Sign} {n t : ℕ} (hn : 0 < n) (hlog : n.log2 < 64)
    (hfull : 52 ≤ n.log2 + t) (ht : t < 64) :
    ∃ m e, ∃ h : Rounded n m e,
      roundWithAccuracy Format.binary64 s (n * 2 ^ t) (-t) .exact = .finite s m e h.pos := by
  have hlog2 := log2_mul_two_pow hn t
  obtain ⟨m, e, hm, hc, hfull', he, hvalue, heven, heq⟩ :=
    roundWithAccuracy_eq (s := s) (n := n * 2 ^ t) (e := -t) (by omega) (by omega) (by omega)
  rw [hlog2] at hvalue heven
  refine ⟨m, e, ⟨hc, hfull', by omega, hvalue.trans (halfEven_mul_two_pow hfull),
    fun hlt h => heven ?_⟩, heq⟩
  rwa [show n.log2 + t - 52 = n.log2 - 52 + t by omega, Nat.pow_add,
    halfEven_mul_right (Nat.two_pow_pos t)]

theorem unpack_toFloat {n : ℕ} (hn : 0 < n) (hlt : n < 2 ^ 53) :
    ∃ m e, ∃ h : Rounded n m e,
      n.toUInt64.toFloat.toModel.unpack = .finite .positive m e h.pos := by
  have hlog : n.log2 < 53 := (Nat.log2_lt hn.ne').2 hlt
  obtain ⟨m, e, h, heq⟩ :=
    rounded_of_pos (s := .positive) (t := 52 - n.log2) hn (by omega) (by omega) (by omega)
  refine ⟨m, e, h, ?_⟩
  rw [← unpack_pack h.pos h.canonical, ← heq]
  change (Float.Model.pack
    (UnpackedFloat.normalize Format.binary64 (n.toUInt64.toNat : ℕ) 0 .positive)).unpack = _
  rw [show n.toUInt64.toNat = n from Nat.mod_eq_of_lt (by omega)]
  have hshift : ((0 : ℤ) - Format.binary64.targetExponent (totalExponent n 0)).toNat
      = 52 - n.log2 := by
    rw [targetExponent_eq]
    omega
  unfold UnpackedFloat.normalize
  rw [compare_gt_iff_gt.2 (by omega)]
  simp only [UnpackedFloat.round, decreaseExponent, Int.toNat_natCast, hshift, Nat.shiftLeft_eq]
  rw [zero_sub]

/-- A float of full length is kept by multiplication with one. -/
theorem unpack_mul_one {v : Float} {n m : ℕ} {e : ℤ} (h : Rounded n m e)
    (heq : v.toModel.unpack = .finite .positive m e h.pos) :
    (v * Float.ofBits 0x3FF0000000000000).toModel.unpack = .finite .positive m e h.pos := by
  have hone : (Float.ofBits 0x3FF0000000000000).toModel.unpack =
    .finite .positive (2 ^ 52) (-52) (Nat.two_pow_pos 52) := rfl
  have hlog : (m * 2 ^ 52).log2 = 104 := by
    rw [log2_mul_two_pow h.pos, (Nat.log2_eq_iff h.pos.ne').2 ⟨h.full, h.canonical.lt⟩]
  have := h.canonical.le
  have := h.lt_max
  obtain ⟨m', e', hm, hc, -, -, hvalue, -, hround⟩ :=
    roundWithAccuracy_eq (s := .positive) (n := m * 2 ^ 52) (e := e + -52) (by omega) (by omega)
      (by omega)
  rw [hlog, halfEven_mul_self (Nat.two_pow_pos 52)] at hvalue
  obtain ⟨rfl, rfl⟩ := hc.ext_of_value h.canonical (by rw [hvalue]; norm_num)
  rw [← unpack_pack hm hc, ← hround]
  change (Float.Model.pack (UnpackedFloat.mul Format.binary64 v.toModel.unpack
    (Float.ofBits 0x3FF0000000000000).toModel.unpack)).unpack = _
  rw [heq, hone]
  rfl

/-- The float of a natural number has the significand and the exponent that it is rounded to. -/
theorem unpack_ofNat {n : ℕ} (hn : 0 < n) (hlog : n.log2 < 64) :
    ∃ m e, ∃ h : Rounded n m e, (Float.ofNat n).toModel.unpack = .finite .positive m e h.pos := by
  change ∃ m e, ∃ h : Rounded n m e,
    (Float.ofScientific n false 0).toModel.unpack = .finite .positive m e h.pos
  unfold Float.ofScientific
  split
  · rename_i hlt
    obtain ⟨m, e, h, heq⟩ := unpack_toFloat hn hlt.1
    exact ⟨m, e, h, unpack_mul_one h heq⟩
  · obtain ⟨m, e, h, heq⟩ := rounded_of_pos (s := .positive) (t := 53) hn hlog (by omega) (by omega)
    refine ⟨m, e, h, ?_⟩
    rw [← unpack_pack h.pos h.canonical, ← heq]
    change (Float.Model.pack (UnpackedFloat.ofScientific Format.binary64 n 0)).unpack = _
    unfold UnpackedFloat.ofScientific
    have hbits : Format.binary64.mantissaBits = 53 := rfl
    rw [dif_neg hn.ne', if_neg (by decide), if_neg (by norm_num), if_pos le_rfl]
    simp only [hbits, Nat.shiftLeft_eq]
    change (Float.Model.pack (roundWithAccuracy Format.binary64 .positive (n * 2 ^ 53 * 1)
      (-(53 : ℕ) + 0) .exact)).unpack = _
    rw [Nat.mul_one, add_zero]

/-- The float of a word other than zero. -/
theorem unpack_wordToFloat {w : Int64} (hw : w.toInt ≠ 0) :
    ∃ m e, ∃ h : Rounded w.toInt.natAbs m e, (Word.toFloat w).toModel.unpack =
      .finite (if w.toInt < 0 then .negative else .positive) m e h.pos := by
  have hle := Int64.le_toInt w
  have hlt := Int64.toInt_lt w
  have hlog : w.toInt.natAbs.log2 < 64 := (Nat.log2_lt (by omega)).2 (by omega)
  unfold Word.toFloat
  generalize w.toInt = i at *
  rcases i with n | n
  · obtain ⟨m, e, h, heq⟩ := unpack_ofNat (by simpa [Nat.pos_iff_ne_zero] using hw) hlog
    exact ⟨m, e, h, heq⟩
  · obtain ⟨m, e, h, heq⟩ := unpack_ofNat (Nat.succ_pos n) hlog
    refine ⟨m, e, h, ?_⟩
    rw [if_pos (Int.negSucc_lt_zero n), ← unpack_pack h.pos h.canonical]
    change (Float.Model.pack (Float.ofNat (n + 1)).toModel.unpack.neg).unpack = _
    rw [heq]
    rfl

/-- The float of a word denotes the number that the word is rounded to. -/
theorem value?_toFloat (w : Int64) :
    value? (Word.toFloat w) = some ((w.toInt.sign * nearest w.toInt.natAbs : ℤ) : ℚ) := by
  by_cases hw : w.toInt = 0
  · have : w = 0 := Int64.toInt_inj.1 (by simpa using hw)
    subst this
    rfl
  · obtain ⟨m, e, h, heq⟩ := unpack_wordToFloat hw
    rw [value?, heq, valueOf, Int.cast_mul, Int.cast_natCast, ← h.value]
    rcases lt_or_gt_of_ne hw with hneg | hpos
    · simp [if_pos hneg, Int.sign_eq_neg_one_of_neg hneg, Sign.apply]
    · simp [if_neg hpos.not_gt, Int.sign_eq_one_of_pos hpos, Sign.apply]

end Binary64

end ClosureBridge
