import Mathlib.Algebra.Order.Field.Rat
import Mathlib.Algebra.Order.Ring.Abs
import MetricAgent.Proofs.Decimal.Closest
import MetricAgent.Proofs.Decimal.Literal

/-!
The form with six places, read again. What is read is the closest double to what was printed, so it
is no farther from that than the double that was printed, and is printed alike. From `2 ^ 33` on the
doubles lie so far apart that it is the same double; the powers of two, which have the next double
below them at half of the distance, are whole numbers there and are printed exactly.
-/

namespace MetricAgent.Decimal

open Double

variable {x : Double} {n : Nat} {negative : Bool}

/-! ### The text -/

/-- The number of millionths that a finite double is printed as. -/
def Double.inMillionths (x : Double) : Nat := roundQuotient (x.units * million) unitsPerOne

/-- The double that is read from what a finite double is printed as. -/
def Double.reread (x : Double) : Double := ofQuotient x.isNegative x.inMillionths million

lemma million_pos : 0 < million := by decide

lemma Double.isNaN_of_isFinite (hf : x.isFinite = true) : x.isNaN = false := by
  have hlt : x.magnitude < infinityBits := of_decide_eq_true hf
  exact decide_eq_false (Nat.not_lt.mpr hlt.le)

lemma sixPlaces_eq (hf : x.isFinite = true) :
    sixPlaces x = (if x.isNegative then ['-'] else []) ++ millionths x.inMillionths := by
  rw [sixPlaces, isNaN_of_isFinite hf, if_neg Bool.false_ne_true, hf, if_pos rfl]
  rfl

lemma isDecimal_millionths (n : Nat) : IsDecimal (millionths n) ⟨n, -6⟩ := by
  have hlt : n % million < 10 ^ 6 := Nat.mod_lt n million_pos
  have hlength : (padded 6 (n % million)).length = 6 := length_padded (by decide) hlt
  have hvalue : ofDigits (digits (n / million) ++ padded 6 (n % million)) = n := by
    rw [ofDigits_append, ofDigits_digits, ofDigits_padded, hlength]
    exact Nat.div_add_mod n million
  have hnumeral : isNumeral (digits (n / million) ++ padded 6 (n % million)) = true := by
    refine isNumeral_iff.mpr ⟨by simp [digits_ne_nil], fun c hc => ?_⟩
    exact (List.mem_append.mp hc).elim isDigit_of_mem_digits isDigit_of_mem_padded
  have h := IsDecimal.point _ _ [] 0 hnumeral .none
  rw [hvalue, hlength, List.append_nil] at h
  exact h

lemma splitSign_sixPlaces (hf : x.isFinite = true) :
    splitSign (sixPlaces x) = (x.isNegative, millionths x.inMillionths) := by
  rw [sixPlaces_eq hf]
  cases x.isNegative with
  | true => rfl
  | false =>
    obtain ⟨c, t, ht, hc⟩ := (isDecimal_millionths x.inMillionths).head
    rw [if_neg Bool.false_ne_true, List.nil_append, ht]
    refine splitSign_of_head fun d hd => ?_
    obtain rfl := Option.some.inj hd
    exact hc

/-! ### Range -/

lemma Double.two_mul_units_le (hf : x.isFinite = true) :
    2 * x.units + 2 ^ maxScale ≤ 2 * (overflowBound * unitsPerOne) := by
  have hstep : x.units + 2 ^ maxScale ≤ 2 * normalBound * 2 ^ maxScale := by
    have hpow : 2 ^ x.scale ≤ 2 ^ maxScale := Nat.pow_le_pow_right (by decide) (scale_le hf)
    have := Nat.mul_le_mul (Nat.succ_le_of_lt (significand_lt x)) (le_refl (2 ^ maxScale))
    rw [Nat.succ_mul] at this
    have := Nat.mul_le_mul_left x.significand hpow
    rw [units_eq]
    omega
  have hbound := two_mul_overflowBound
  rw [Nat.mul_assoc] at hbound hstep
  omega

lemma Double.roundsTo_inMillionths (x : Double) :
    RoundsTo (x.units * million) unitsPerOne x.inMillionths :=
  roundsTo_roundQuotient _ unitsPerOne_pos

lemma inMillionths_lt (hf : x.isFinite = true) : x.inMillionths < overflowBound * million := by
  have hsmall : unitsPerOne < 2 ^ maxScale * million := by decide +kernel
  have hlow := x.roundsTo_inMillionths.low
  have hunits := Nat.mul_le_mul_right million (two_mul_units_le hf)
  rw [Nat.add_mul, Nat.mul_assoc, Nat.mul_assoc 2, Nat.mul_right_comm] at hunits
  refine Nat.lt_of_mul_lt_mul_right (a := unitsPerOne) ?_
  omega

lemma toDouble_millionths (h : n < overflowBound * million) :
    Scientific.toDouble negative ⟨n, -6⟩ = ofQuotient negative n million := by
  by_cases h0 : n = 0
  · rw [h0]
    cases negative <;> decide +kernel
  · have hrange : Scientific.IsInRange ⟨n, -6⟩ := by
      have hzero : (-6 : Int).toNat = 0 := rfl
      have hsix : 10 ^ (-(-6) : Int).toNat = million := rfl
      rw [Scientific.IsInRange]
      dsimp only
      rw [hzero, hsix, Nat.pow_zero, Nat.mul_one]
      exact h
    have htop := mt (not_isInRange_of_top (d := ⟨n, -6⟩) h0) (not_not.mpr hrange)
    have hpos := length_digits_pos n
    unfold Scientific.toDouble
    dsimp only at htop ⊢
    rw [if_neg h0, if_neg htop, if_neg (by omega), if_neg (by decide)]
    rfl

lemma double?_sixPlaces (hf : x.isFinite = true) : double? (sixPlaces x) = some x.reread := by
  rw [double?_of_isDecimal (splitSign_sixPlaces hf) (isDecimal_millionths _),
    toDouble_millionths (inMillionths_lt hf), reread]

lemma isFinite_reread (hf : x.isFinite = true) : x.reread.isFinite = true :=
  (isFinite_ofQuotient million_pos).mpr (inMillionths_lt hf)

lemma magnitude_reread (x : Double) :
    x.reread.magnitude = magnitudeOf (x.inMillionths * unitsPerOne) million :=
  magnitude_ofMagnitude (Nat.min_le_left _ _)

lemma isNegative_reread (x : Double) : x.reread.isNegative = x.isNegative :=
  isNegative_ofMagnitude (Nat.min_le_left _ _)

/-! ### Printing once more -/

lemma inMillionths_reread (hf : x.isFinite = true) : x.reread.inMillionths = x.inMillionths := by
  have hclosest := dist_units_le million_pos (magnitude_reread x) (isFinite_reread hf) x
  exact roundQuotient_eq unitsPerOne_pos (x.roundsTo_inMillionths.of_dist_le hclosest)

/-- What is read is printed like the double that was printed. -/
theorem sixPlaces_reread (hf : x.isFinite = true) : sixPlaces x.reread = sixPlaces x := by
  rw [sixPlaces_eq hf, sixPlaces_eq (isFinite_reread hf), isNegative_reread,
    inMillionths_reread hf]

/-! ### Doubles far from zero -/

namespace Double

/-- Less than half of a step from a double, no other is nearer, unless it is a power of two. -/
lemma isNearest_of_dist {num den : Nat}
    (hdist : 2 * Nat.dist num (x.units * den) < den * 2 ^ x.scale)
    (hpower : x.significand = normalBound → num = x.units * den) : x.IsNearest num den := by
  have hunits : x.units * den = x.significand * (den * 2 ^ x.scale) := by
    rw [units_eq, Nat.mul_assoc, Nat.mul_comm den]
  have hhigh : x.highQuarters * den = 4 * (x.units * den) + 2 * (den * 2 ^ x.scale) := by
    rw [highQuarters, Nat.pow_eq]
    ring
  unfold Nat.dist at hdist
  by_cases hm : x.significand = normalBound
  · -- The midpoint below is at a quarter of a step, so the quotient has to be the double itself.
    have hlow : x.lowQuarters * den ≤ 4 * x.units * den :=
      Nat.mul_le_mul_right den (Nat.sub_le _ _)
    rw [Nat.mul_assoc, ← hpower hm] at hlow
    refine ⟨hlow, by omega, fun hodd => ?_⟩
    rw [hm] at hodd
    cases hodd
  · have hlow : x.lowQuarters * den = 4 * (x.units * den) - 2 * (den * 2 ^ x.scale) := by
      rw [lowQuarters_eq (.inl hm), Nat.mul_assoc, Nat.mul_comm _ den, Nat.sub_mul, hunits,
        Nat.mul_assoc]
    refine ⟨by omega, by omega, fun hodd => ⟨?_, by omega⟩⟩
    have := Nat.le_mul_of_pos_left (den * 2 ^ x.scale) (show 0 < x.significand by omega)
    omega

/-- From `2 ^ 33` on, a step is more than a millionth. -/
lemma le_scale (hlarge : 2 ^ 33 * unitsPerOne ≤ x.units) : 1055 ≤ x.scale := by
  by_contra hlt
  refine Nat.not_lt.mpr hlarge ?_
  calc x.units = x.significand * 2 ^ x.scale := units_eq x
    _ < 2 * normalBound * 2 ^ x.scale :=
      Nat.mul_lt_mul_of_pos_right (significand_lt x) (Nat.two_pow_pos _)
    _ ≤ 2 * normalBound * 2 ^ 1054 :=
      Nat.mul_le_mul_left _ (Nat.pow_le_pow_right (by decide) (by omega))
    _ = 2 ^ 33 * unitsPerOne := by decide +kernel

lemma inMillionths_of_power (hm : x.significand = normalBound) (hs : 1022 ≤ x.scale) :
    x.inMillionths * unitsPerOne = x.units * million := by
  obtain ⟨k, hk⟩ := Nat.exists_eq_add_of_le hs
  have hone : normalBound * 2 ^ 1022 = unitsPerOne := by decide +kernel
  have hunits : x.units * million = 2 ^ k * million * unitsPerOne := by
    rw [units_eq, hm, hk, pow_add, ← Nat.mul_assoc, hone]
    ring
  have hround : x.inMillionths = 2 ^ k * million := by
    have hpos := unitsPerOne_pos
    rw [inMillionths, hunits]
    exact roundQuotient_eq hpos ⟨by omega, by omega, fun _ => by omega⟩
  rw [hround, hunits]

/-- From `2 ^ 33` on, a double is read from what it is printed as. -/
theorem reread_eq (hf : x.isFinite = true) (hlarge : 2 ^ 33 * unitsPerOne ≤ x.units) :
    x.reread = x := by
  have hscale := le_scale hlarge
  have hstep : unitsPerOne < million * 2 ^ x.scale := calc
    unitsPerOne < million * 2 ^ 1055 := by decide +kernel
    _ ≤ million * 2 ^ x.scale := Nat.mul_le_mul_left _ (Nat.pow_le_pow_right (by decide) hscale)
  have hdist := x.roundsTo_inMillionths.two_mul_dist_le
  have hnearest : x.IsNearest (x.inMillionths * unitsPerOne) million :=
    isNearest_of_dist (hdist.trans_lt hstep) fun hm => inMillionths_of_power hm (by omega)
  rw [reread, ofQuotient, magnitudeOf_eq hf million_pos hnearest, ofMagnitude_magnitude]

/-! ### The number that a double is -/

/-- The number that a finite double is. -/
def value (x : Double) : ℚ := (if x.isNegative then -1 else 1) * (x.units / unitsPerOne)

lemma abs_value (x : Double) : |x.value| = x.units / unitsPerOne := by
  have hsign : |if x.isNegative then (-1 : ℚ) else 1| = 1 := by split <;> simp
  have hunits : (0 : ℚ) ≤ x.units / unitsPerOne :=
    div_nonneg (Nat.cast_nonneg _) (Nat.cast_nonneg _)
  rw [value, abs_mul, hsign, one_mul, abs_of_nonneg hunits]

lemma le_abs_value {k : Nat} : (k : ℚ) ≤ |x.value| ↔ k * unitsPerOne ≤ x.units := by
  rw [abs_value, le_div_iff₀ (Nat.cast_pos.mpr unitsPerOne_pos)]
  norm_cast

end Double

end MetricAgent.Decimal
