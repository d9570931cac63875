import ClosureBridge.Bench.Trial
import ClosureBridge.Proofs.Capture.Drain
import Mathlib.Data.Rat.Floor
import Mathlib.Tactic.LinearCombination
import Mathlib.Tactic.Linarith

/-!
# The modulus of integers

The modulus has the sign of the divisor. It is computed from the remainder, which has that of the
dividend: as remainder, sum and remainder again, each step checked. So the steps can leave the range
where the modulus itself would not: the first remainder fails at the one quotient that is no word,
and the sum fails where remainder and divisor have the same sign and are too far from zero. The
second remainder never fails.

## Main definitions

* `Word.InRange`: an integer that is a word.

## Main statements

* `Word.mod?_eq`: the modulus, and the inputs at which it fails.
* `Word.isFloored_tmod_add_tmod`: remainder, sum and remainder again give the floored modulus.
* `Script.eval_modulo`: the modulus of two integers in a script.
-/

namespace ClosureBridge

namespace Word

/-! ### Integers -/

/-- An integer leaves the same remainder as a dividend, and lies from zero to the divisor. -/
structure IsFloored (x y z : ℤ) : Prop where
  dvd : y ∣ x - z
  between : 0 ≤ z ∧ z < y ∨ y < z ∧ z ≤ 0

namespace IsFloored

variable {x y z : ℤ}

/-- The quotient that belongs to it is the greatest integer not above the exact one. -/
theorem eq_sub_mul_floor (h : IsFloored x y z) (hy : y ≠ 0) :
    z = x - y * ⌊(x : ℚ) / y⌋ := by
  obtain ⟨q, hq⟩ := h.dvd
  have hy' : (y : ℚ) ≠ 0 := by exact_mod_cast hy
  have hx : (x : ℚ) = y * q + z := by exact_mod_cast eq_add_of_sub_eq hq
  have hquotient : (x : ℚ) / y = q + z / y := by rw [hx, add_div, mul_div_cancel_left₀ _ hy']
  have hrest : 0 ≤ (z : ℚ) / y ∧ (z : ℚ) / y < 1 := by
    rcases h.between with ⟨h0, hlt⟩ | ⟨hlt, h0⟩
    · have hpos : (0 : ℚ) < y := by exact_mod_cast h0.trans_lt hlt
      exact ⟨div_nonneg (by exact_mod_cast h0) hpos.le,
        (div_lt_one hpos).mpr (by exact_mod_cast hlt)⟩
    · have hneg : (y : ℚ) < 0 := by exact_mod_cast hlt.trans_le h0
      exact ⟨div_nonneg_of_nonpos (by exact_mod_cast h0) hneg.le,
        (div_lt_one_of_neg hneg).mpr (by exact_mod_cast hlt)⟩
  have hfloor : ⌊(x : ℚ) / y⌋ = q := by
    rw [Int.floor_eq_iff, hquotient]
    constructor <;> linarith [hrest.1, hrest.2]
  rw [hfloor, ← hq, sub_sub_cancel]

/-- It is zero or has the sign of the divisor. -/
theorem eq_zero_or_sign_eq (h : IsFloored x y z) : z = 0 ∨ z.sign = y.sign := by
  rcases h.between with ⟨h0, hlt⟩ | ⟨hlt, h0⟩
  · rcases h0.eq_or_lt with h0 | h0
    · exact .inl h0.symm
    · exact .inr (by rw [Int.sign_eq_one_of_pos h0, Int.sign_eq_one_of_pos (h0.trans hlt)])
  · rcases h0.eq_or_lt with h0 | h0
    · exact .inl h0
    · exact .inr (by rw [Int.sign_eq_neg_one_of_neg h0, Int.sign_eq_neg_one_of_neg (hlt.trans h0)])

theorem natAbs_lt (h : IsFloored x y z) : z.natAbs < y.natAbs := by
  have := h.between
  omega

end IsFloored

theorem natAbs_tmod_lt (x : ℤ) {y : ℤ} (hy : y ≠ 0) : (x.tmod y).natAbs < y.natAbs := by
  rw [Int.natAbs_tmod]
  exact Nat.mod_lt _ (Int.natAbs_pos.mpr hy)

/-- Remainder, sum and remainder again give the floored modulus: the sum has the sign of the
divisor. -/
theorem isFloored_tmod_add_tmod (x : ℤ) {y : ℤ} (hy : y ≠ 0) :
    IsFloored x y ((x.tmod y + y).tmod y) where
  dvd := by
    have hr := Int.mul_tdiv_add_tmod x y
    have hs := Int.mul_tdiv_add_tmod (x.tmod y + y) y
    exact ⟨x.tdiv y + (x.tmod y + y).tdiv y - 1, by linear_combination -hr - hs⟩
  between := by
    have hlt := natAbs_tmod_lt x hy
    rcases lt_or_gt_of_ne hy with hneg | hpos
    · have hsum : 0 ≤ -(x.tmod y + y) := by omega
      have hnonneg := Int.tmod_nonneg (-y) hsum
      have hbelow := Int.tmod_lt_of_pos (-(x.tmod y + y)) (b := -y) (by omega)
      rw [Int.neg_tmod, Int.tmod_neg] at hnonneg hbelow
      exact .inr ⟨by omega, by omega⟩
    · have hsum : 0 ≤ x.tmod y + y := by omega
      exact .inl ⟨Int.tmod_nonneg y hsum, Int.tmod_lt_of_pos _ hpos⟩

/-! ### Words -/

/-- An integer is a word. -/
def InRange (n : ℤ) : Prop :=
  -bound ≤ n ∧ n < bound

instance (n : ℤ) : Decidable (InRange n) :=
  inferInstanceAs (Decidable (_ ∧ _))

theorem ofInt?_eq_ite (n : ℤ) :
    ofInt? n = if InRange n then some (Int64.ofInt n) else none := rfl

theorem toInt_ofInt_of_inRange {n : ℤ} (h : InRange n) : (Int64.ofInt n).toInt = n :=
  ofInt?_eq_some_iff.mp (if_pos h)

theorem checked_eq (failure : Overflow) (n : ℤ) :
    checked failure n = if InRange n then .ok (Int64.ofInt n) else .error failure := by
  rw [checked, ofInt?_eq_ite]
  by_cases h : InRange n
  · rw [if_pos h, if_pos h]
  · rw [if_neg h, if_neg h]

variable {x y : Int64}

theorem toInt_ne_zero (hy : y ≠ 0) : y.toInt ≠ 0 :=
  fun h => hy (Int64.toInt_inj.mp h)

/-- The only quotient that is no word is that of the least word by minus one. -/
theorem inRange_tdiv_iff (hy : y ≠ 0) :
    InRange (x.toInt.tdiv y.toInt) ↔ ¬(x = Int64.minValue ∧ y = -1) := by
  have hx := x.le_toInt
  have hx' := x.toInt_lt
  have hmin : x = Int64.minValue ↔ x.toInt = -bound := Int64.toInt_inj.symm
  have hone : y = -1 ↔ y.toInt = -1 := Int64.toInt_inj.symm
  have hzero := toInt_ne_zero hy
  have habs : (x.toInt.tdiv y.toInt).natAbs = x.toInt.natAbs / y.toInt.natAbs := Int.natAbs_tdiv ..
  rw [hmin, hone, InRange, bound]
  rcases eq_or_ne y.toInt (-1) with h | h
  · rw [h, Int.tdiv_neg, Int.tdiv_one]
    omega
  · rcases eq_or_ne y.toInt 1 with h' | h'
    · rw [h', Int.tdiv_one]
      omega
    · have hhalf : x.toInt.natAbs / y.toInt.natAbs ≤ x.toInt.natAbs / 2 :=
        Nat.div_le_div_left (by omega) (by decide)
      omega

theorem inRange_tmod (hy : y ≠ 0) : InRange (x.toInt.tmod y.toInt) := by
  have hlt := natAbs_tmod_lt x.toInt (toInt_ne_zero hy)
  have hy := y.le_toInt
  have hy' := y.toInt_lt
  rw [InRange, bound]
  omega

/-- The remainder, and the inputs at which it fails. -/
theorem rem?_eq (hy : y ≠ 0) :
    rem? x y = if x = Int64.minValue ∧ y = -1 then .error .remainder
      else .ok (Int64.ofInt (x.toInt.tmod y.toInt)) := by
  rw [rem?, ofInt?_eq_ite]
  by_cases h : x = Int64.minValue ∧ y = -1
  · rw [if_pos h, if_neg fun hr => (inRange_tdiv_iff hy).mp hr h]
  · rw [if_neg h, if_pos ((inRange_tdiv_iff hy).mpr h)]

/-- The modulus, and the inputs at which it fails. -/
theorem mod?_eq (hy : y ≠ 0) :
    mod? x y =
      if x = Int64.minValue ∧ y = -1 then .error .remainder
      else if InRange (x.toInt.tmod y.toInt + y.toInt) then
        .ok (Int64.ofInt ((x.toInt.tmod y.toInt + y.toInt).tmod y.toInt))
      else .error .add := by
  rw [mod?, rem?_eq hy]
  split
  · rfl
  · change (add? (Int64.ofInt (x.toInt.tmod y.toInt)) y >>= fun s => rem? s y) = _
    rw [add?, toInt_ofInt_of_inRange (inRange_tmod hy), checked_eq]
    split
    · next hsum =>
      -- By minus one every remainder is zero, so the sum is not the least word.
      have hlast : ¬(Int64.ofInt (x.toInt.tmod y.toInt + y.toInt) = Int64.minValue ∧ y = -1) := by
        rintro ⟨hs, rfl⟩
        have hs' := congrArg Int64.toInt hs
        rw [toInt_ofInt_of_inRange hsum] at hs'
        have hone : (-1 : Int64).toInt = -1 := rfl
        rw [hone, Int.tmod_neg, Int.tmod_one] at hs'
        exact absurd hs' (by decide)
      change rem? (Int64.ofInt (x.toInt.tmod y.toInt + y.toInt)) y = _
      rw [rem?_eq hy, if_neg hlast, toInt_ofInt_of_inRange hsum]
    · rfl

end Word

/-! ### Scripts -/

namespace Script

variable {call : Caller Bench} {k : Nat} {scope : Scope} {a b : Expr} {w w₁ w₂ : Session}
  {r r' : Ref} {x y : Int64}

/-- An operator evaluates its sides in turn and is applied to the objects that they have given. -/
theorem run_eval_binary (ha : (eval call k scope a).run.run w = (.ok (.ok (some r)), w₁))
    (hb : (eval call k scope b).run.run w₁ = (.ok (.ok (some r')), w₂)) (op : BinaryOp) :
    (eval call k scope (.binary op a b)).run.run w =
      (Eval.ofOutcome (Operator.binary op (w₂.outside.store.heap.get (some r))
        (w₂.outside.store.heap.get (some r')))).run.run w₂ := by
  unfold eval
  rw [Eval.run_bind_of_ok ha, Eval.run_bind_of_ok hb]
  rfl

theorem binary_modulo (hy : y ≠ 0) :
    Operator.binary .modulo (.integer x) (.integer y) = Operator.ofWord (Word.mod? x y) :=
  if_neg hy

/-- **The modulus of two integers.** Its sides are evaluated in turn, whatever they are. When they
have given integers by then and the divisor is not zero, computing the modulus panics exactly when
the first remainder or the sum is out of range. Otherwise it succeeds, makes an integer and nothing
else, and the integer is the floored modulus: it is zero or has the sign of the divisor, and it is
smaller than the divisor. -/
theorem eval_modulo (ha : (eval call k scope a).run.run w = (.ok (.ok (some r)), w₁))
    (hb : (eval call k scope b).run.run w₁ = (.ok (.ok (some r')), w₂))
    (hx : w₂.outside.store.heap.get (some r) = .integer x)
    (hy : w₂.outside.store.heap.get (some r') = .integer y) (hzero : y ≠ 0) :
    let out := (eval call k scope (.binary .modulo a b)).run.run w
    let leaves := x = Int64.minValue ∧ y = -1 ∨
      ¬Word.InRange (x.toInt.tmod y.toInt + y.toInt)
    ((∃ payload v, out = (.error (.panic payload), v)) ↔ leaves) ∧
      (¬leaves → ∃ z : Int64,
        out = (.ok (.ok (some w₂.outside.store.heap.objects.size)),
          w₂.happening [.made (.integer z) rfl]) ∧
        z.toInt = x.toInt - y.toInt * ⌊(x.toInt : ℚ) / y.toInt⌋ ∧
        (z = 0 ∨ z.toInt.sign = y.toInt.sign) ∧ z.toInt.natAbs < y.toInt.natAbs) := by
  intro out leaves
  have hout : out = (Eval.ofOutcome (Operator.ofWord (Word.mod? x y))).run.run w₂ := by
    rw [← binary_modulo hzero, ← hx, ← hy]
    exact run_eval_binary ha hb .modulo
  by_cases hl : leaves
  · -- The two ways to leave the range are the two failures of the modulus.
    obtain ⟨e, he⟩ : ∃ e, Word.mod? x y = .error e := by
      rw [Word.mod?_eq hzero]
      by_cases hquotient : x = Int64.minValue ∧ y = -1
      · exact ⟨.remainder, if_pos hquotient⟩
      · rw [if_neg hquotient]
        exact ⟨.add, if_neg (hl.resolve_left hquotient)⟩
    rw [he] at hout
    exact ⟨iff_of_true ⟨_, _, hout⟩ hl, fun hnot => absurd hl hnot⟩
  · obtain ⟨hquotient, hsum⟩ := not_or.mp hl
    have hsum : Word.InRange (x.toInt.tmod y.toInt + y.toInt) := not_not.mp hsum
    have hfloored := Word.isFloored_tmod_add_tmod x.toInt (Word.toInt_ne_zero hzero)
    obtain ⟨z, hz, hzint⟩ : ∃ z, Word.mod? x y = .ok z ∧
        z.toInt = (x.toInt.tmod y.toInt + y.toInt).tmod y.toInt := by
      refine ⟨_, by rw [Word.mod?_eq hzero, if_neg hquotient, if_pos hsum], ?_⟩
      refine Word.toInt_ofInt_of_inRange ?_
      have hlt := hfloored.natAbs_lt
      have hy := y.le_toInt
      have hy' := y.toInt_lt
      rw [Word.InRange, Word.bound]
      omega
    rw [← hzint] at hfloored
    rw [hz] at hout
    refine ⟨iff_of_false ?_ hl, fun _ => ⟨z, hout, ?_, ?_, hfloored.natAbs_lt⟩⟩
    · rintro ⟨payload, v, h⟩
      cases hout.symm.trans h
    · exact hfloored.eq_sub_mul_floor (Word.toInt_ne_zero hzero)
    · exact hfloored.eq_zero_or_sign_eq.imp_left fun h => Int64.toInt_inj.mp h

/-- Seven modulo minus three is minus two, and the least word modulo minus one is no result. -/
theorem eval_modulo_signs :
    (-3 : Int64) ≠ 0 ∧ (-1 : Int64) ≠ 0 ∧
      (∃ w, (eval (Recursion.level 0).call 0 ⟨none, ∅⟩
          (.binary .modulo (.integer 7) (.integer (-3)))).run.run Trial.fresh =
            (.ok (.ok (some 2)), w) ∧ w.outside.store.heap.get (some 2) = .integer (-2)) ∧
      ∃ payload w, (eval (Recursion.level 0).call 0 ⟨none, ∅⟩
          (.binary .modulo (.integer Int64.minValue) (.integer (-1)))).run.run Trial.fresh =
            (.error (.panic payload), w) := by
  have hthree : (-3 : Int64) ≠ 0 := by decide
  have hone : (-1 : Int64) ≠ 0 := by decide
  have run (x y : Int64) (hy : y ≠ 0) := @eval_modulo (Recursion.level 0).call 0 ⟨none, ∅⟩
    (.integer x) (.integer y) Trial.fresh _ _ 0 1 x y rfl rfl rfl rfl hy
  refine ⟨hthree, hone, ?_, (run Int64.minValue (-1) hone).1.mpr (by decide)⟩
  obtain ⟨z, hz, hvalue, -⟩ := (run 7 (-3) hthree).2 (by decide)
  have hfloor : ⌊((7 : Int64).toInt : ℚ) / (-3 : Int64).toInt⌋ = -3 := by
    have hseven : (7 : Int64).toInt = 7 := rfl
    have hdivisor : (-3 : Int64).toInt = -3 := rfl
    rw [Int.floor_eq_iff, hseven, hdivisor]
    norm_num
  have hresult : z = -2 := by
    rw [hfloor] at hvalue
    exact Int64.toInt_inj.mp hvalue
  subst hresult
  exact ⟨_, hz, rfl⟩

end Script

end ClosureBridge
