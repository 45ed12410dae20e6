import Mathlib.Tactic.Linarith
import Mathlib.Tactic.Ring
import MetricAgent.Decimal.Double

/-!
The double nearest to a quotient. A quotient between the midpoints around a finite double is rounded
to that double, on a midpoint itself if the significand is even. The distance to the midpoint below
is half of the usual one where the exponent changes.
-/

namespace MetricAgent.Decimal

variable {num den q s : Nat}

/-! ### Rounding a quotient -/

/-- A quotient is rounded to a natural: it lies between the midpoints, or on one beside an even. -/
structure RoundsTo (num den q : Nat) : Prop where
  low : 2 * (q * den) ≤ 2 * num + den
  high : 2 * num ≤ 2 * (q * den) + den
  odd : q % 2 = 1 → 2 * (q * den) < 2 * num + den ∧ 2 * num < 2 * (q * den) + den

lemma exists_roundQuotient (num : Nat) (hd : 0 < den) : ∃ a r, num = a * den + r ∧ r < den ∧
    roundQuotient num den = if 2 * r < den then a else if den < 2 * r then a + 1 else a + a % 2 := by
  refine ⟨num / den, num % den, ?_, Nat.mod_lt num hd, rfl⟩
  rw [Nat.mul_comm]
  exact (Nat.div_add_mod num den).symm

lemma roundQuotient_eq (hd : 0 < den) (h : RoundsTo num den q) : roundQuotient num den = q := by
  obtain ⟨low, high, odd⟩ := h
  obtain ⟨a, r, hnum, hrd, hround⟩ := exists_roundQuotient num hd
  have hle : a ≤ q := by
    by_contra hlt
    have : (q + 1) * den ≤ a * den := Nat.mul_le_mul_right den (by omega)
    rw [Nat.add_mul] at this
    omega
  have hge : q ≤ a + 1 := by
    by_contra hlt
    have : (a + 2) * den ≤ q * den := Nat.mul_le_mul_right den (by omega)
    rw [Nat.add_mul] at this
    omega
  rw [hround]
  obtain rfl | rfl : q = a ∨ q = a + 1 := by omega
  · -- The quotient is at most half a step above.
    split_ifs
    · rfl
    · omega
    · have : ¬ q % 2 = 1 := fun hodd => by have := odd hodd; omega
      omega
  · rw [Nat.add_mul] at low high odd
    split_ifs
    · omega
    · rfl
    · have : ¬ (a + 1) % 2 = 1 := fun hodd => by have := odd hodd; omega
      omega

/-! ### The scale of a quotient -/

lemma scaleOf_eq (hd : 0 < den) (hlow : s = 0 ∨ 2 ^ (52 + s) * den ≤ num)
    (hhigh : num < 2 ^ (53 + s) * den) : Double.scaleOf num den = s := by
  have hlt : num / den < 2 ^ (53 + s) := Nat.div_lt_of_lt_mul (by rwa [Nat.mul_comm])
  unfold Double.scaleOf
  rcases Nat.eq_zero_or_pos (num / den) with hzero | hpos
  · rcases hlow with rfl | hlow
    · rw [hzero]
      rfl
    · have : 2 ^ (52 + s) ≤ num / den := (Nat.le_div_iff_mul_le hd).mpr hlow
      have : 0 < 2 ^ (52 + s) := Nat.two_pow_pos _
      omega
  · have hlog : (num / den).log2 < 53 + s := (Nat.log2_lt (by omega)).mpr hlt
    rcases hlow with rfl | hlow
    · omega
    · have : 2 ^ (52 + s) ≤ num / den := (Nat.le_div_iff_mul_le hd).mpr hlow
      have : 52 + s ≤ (num / den).log2 := (Nat.le_log2 (by omega)).mpr this
      omega

namespace Double

variable {x : Double}

/-! ### The parts of a double -/

lemma magnitude_eq (x : Double) : x.magnitude = x.scale * normalBound + x.significand := by
  unfold scale significand normalBound
  split <;> omega

lemma significand_lt (x : Double) : x.significand < 2 * normalBound := by
  unfold significand normalBound
  split <;> omega

lemma le_significand (h : 0 < x.scale) : normalBound ≤ x.significand := by
  unfold scale at h
  unfold significand
  unfold normalBound at *
  split <;> omega

/-- The scale of the greatest finite double. -/
def maxScale : Nat := 2045

lemma scale_le (h : x.isFinite = true) : x.scale ≤ maxScale := by
  have hlt : x.magnitude < infinityBits := of_decide_eq_true h
  unfold infinityBits normalBound at hlt
  unfold scale normalBound maxScale
  omega

lemma significand_pos (h : x.magnitude ≠ 0) : 0 < x.significand := by
  unfold significand normalBound
  split <;> omega

lemma ofMagnitude_magnitude (x : Double) : ofMagnitude x.isNegative x.magnitude = x := by
  obtain ⟨bits⟩ := x
  have hlt : bits.toNat < 18446744073709551616 := bits.toNat_lt
  have hbits : (if isNegative ⟨bits⟩ then signBit + magnitude ⟨bits⟩ else magnitude ⟨bits⟩) =
      bits.toNat := by
    unfold isNegative magnitude signBit
    by_cases hneg : 9223372036854775808 ≤ bits.toNat
    · rw [if_pos (decide_eq_true hneg)]
      dsimp only
      omega
    · rw [if_neg (by simpa using hneg)]
      dsimp only
      omega
  rw [ofMagnitude, hbits, UInt64.ofNat_toNat]

section

variable {negative : Bool} {n : Nat}

lemma toNat_ofMagnitude (h : n ≤ infinityBits) :
    (ofMagnitude negative n).bits.toNat = if negative then signBit + n else n := by
  have hbound : infinityBits < signBit := by decide
  unfold ofMagnitude
  dsimp only
  rw [UInt64.toNat_ofNat']
  unfold signBit at *
  split <;> omega

lemma magnitude_ofMagnitude (h : n ≤ infinityBits) :
    (ofMagnitude negative n).magnitude = n := by
  have hbound : infinityBits < signBit := by decide
  rw [magnitude, toNat_ofMagnitude h]
  unfold signBit at *
  split <;> omega

lemma isNegative_ofMagnitude (h : n ≤ infinityBits) :
    (ofMagnitude negative n).isNegative = negative := by
  have hbound : infinityBits < signBit := by decide
  rw [isNegative, toNat_ofMagnitude h]
  cases negative with
  | true => exact decide_eq_true (Nat.le_add_right signBit n)
  | false => exact decide_eq_false (by rw [if_neg Bool.false_ne_true]; omega)

end

/-! ### Midpoints -/

/-- The midpoint below a double, in quarters of a unit. -/
def lowQuarters (x : Double) : Nat :=
  4 * x.units -
    if x.significand = normalBound && 0 < x.scale then Nat.pow 2 x.scale else 2 * Nat.pow 2 x.scale

/-- The midpoint above a double, in quarters of a unit. -/
def highQuarters (x : Double) : Nat := 4 * x.units + 2 * Nat.pow 2 x.scale

/-- A quotient of units is nearer to a double than to any other, or as near to it and it is even. -/
structure IsNearest (x : Double) (num den : Nat) : Prop where
  low : x.lowQuarters * den ≤ 4 * num
  high : 4 * num ≤ x.highQuarters * den
  odd : x.significand % 2 = 1 → x.lowQuarters * den < 4 * num ∧ 4 * num < x.highQuarters * den

lemma units_eq (x : Double) : x.units = x.significand * 2 ^ x.scale := by
  rw [units, Nat.pow_eq]

lemma highQuarters_eq (x : Double) :
    x.highQuarters = (4 * x.significand + 2) * 2 ^ x.scale := by
  rw [highQuarters, units_eq, Nat.pow_eq]
  ring

lemma lowQuarters_eq (h : x.significand ≠ normalBound ∨ x.scale = 0) :
    x.lowQuarters = (4 * x.significand - 2) * 2 ^ x.scale := by
  have hif : ¬ (x.significand = normalBound && 0 < x.scale) = true := by
    simp only [Bool.and_eq_true, decide_eq_true_eq, not_and]
    omega
  rw [lowQuarters, if_neg hif, units_eq, Nat.pow_eq, Nat.sub_mul]
  ring_nf

lemma lowQuarters_eq_of_exponent (h : x.significand = normalBound) (hs : 0 < x.scale) :
    x.lowQuarters = (4 * normalBound - 1) * 2 ^ x.scale := by
  rw [lowQuarters, if_pos (by simp [h, hs]), units_eq, Nat.pow_eq, h, Nat.sub_mul]
  ring_nf

lemma two_le_lowQuarters (h : x.magnitude ≠ 0) : 2 ≤ x.lowQuarters := by
  have hpow : 0 < 2 ^ x.scale := Nat.two_pow_pos _
  have hsig := significand_pos h
  by_cases hr : x.significand ≠ normalBound ∨ x.scale = 0
  · rw [lowQuarters_eq hr]
    exact Nat.mul_le_mul (show 2 ≤ 4 * x.significand - 2 by omega) hpow
  · push Not at hr
    rw [lowQuarters_eq_of_exponent hr.1 (by omega)]
    exact Nat.mul_le_mul (show 2 ≤ 4 * normalBound - 1 by decide) hpow

lemma highQuarters_le (h : x.isFinite = true) :
    x.highQuarters ≤ 8 * normalBound * 2 ^ maxScale := by
  have hsig := significand_lt x
  rw [highQuarters_eq]
  exact Nat.mul_le_mul (by omega) (Nat.pow_le_pow_right (by decide) (scale_le h))

/-! ### Rounding to a double -/

lemma two_pow_mul (s den : Nat) : 2 ^ (52 + s) * den = normalBound * (den * 2 ^ s) := by
  have h52 : 2 ^ 52 = normalBound := by norm_num [normalBound]
  rw [pow_add, h52]
  ring

lemma IsNearest.step_low (h : x.IsNearest num den) :
    4 * (x.significand * (den * 2 ^ x.scale)) ≤ 4 * num + 2 * (den * 2 ^ x.scale) := by
  have hlow := h.low
  by_cases hr : x.significand ≠ normalBound ∨ x.scale = 0
  · rw [lowQuarters_eq hr, mul_assoc, mul_comm _ den, Nat.sub_mul] at hlow
    rw [mul_assoc] at hlow
    omega
  · push Not at hr
    rw [lowQuarters_eq_of_exponent hr.1 (by omega), mul_assoc, mul_comm _ den, Nat.sub_mul] at hlow
    rw [hr.1]
    rw [mul_assoc] at hlow
    omega

lemma IsNearest.step_high (h : x.IsNearest num den) :
    4 * num ≤ 4 * (x.significand * (den * 2 ^ x.scale)) + 2 * (den * 2 ^ x.scale) := by
  have hhigh := h.high
  rw [highQuarters_eq, mul_assoc, mul_comm _ den, add_mul, mul_assoc] at hhigh
  exact hhigh

lemma IsNearest.roundsTo (h : x.IsNearest num den) :
    RoundsTo num (den * 2 ^ x.scale) x.significand := by
  have hlow := h.step_low
  have hhigh := h.step_high
  refine ⟨by omega, by omega, fun hodd => ?_⟩
  obtain ⟨hlow, hhigh⟩ := h.odd hodd
  have hr : x.significand ≠ normalBound ∨ x.scale = 0 := by
    left
    rintro he
    rw [he] at hodd
    cases hodd
  rw [lowQuarters_eq hr, mul_assoc, mul_comm _ den, Nat.sub_mul, mul_assoc] at hlow
  rw [highQuarters_eq, mul_assoc, mul_comm _ den, add_mul, mul_assoc] at hhigh
  omega

/-- Where the exponent changes, a quotient below the double is rounded at the finer scale. -/
lemma IsNearest.roundsTo_finer (h : x.IsNearest num den) {s : Nat} (hs : x.scale = s + 1)
    (hlt : num < normalBound * (den * 2 ^ x.scale)) :
    x.significand = normalBound ∧ normalBound * (den * 2 ^ s) ≤ num ∧
      RoundsTo num (den * 2 ^ s) (2 * normalBound) := by
  have hm : x.significand = normalBound := by
    by_contra hne
    have hge : normalBound + 1 ≤ x.significand := by
      have := le_significand (x := x) (by omega)
      omega
    have hlow := h.step_low
    have := Nat.mul_le_mul_right (den * 2 ^ x.scale) hge
    rw [Nat.add_mul] at this
    omega
  have hlow := h.low
  have hdouble : den * 2 ^ x.scale = 2 * (den * 2 ^ s) := by
    rw [hs]
    ring
  have hcomm : (4 * normalBound - 1) * 2 ^ x.scale * den =
      4 * (normalBound * (den * 2 ^ x.scale)) - den * 2 ^ x.scale := by
    rw [mul_assoc, mul_comm _ den, Nat.sub_mul, one_mul, mul_assoc]
  rw [lowQuarters_eq_of_exponent hm (by omega), hcomm, hdouble] at hlow
  rw [hdouble] at hlt
  have hstep : normalBound * (2 * (den * 2 ^ s)) = 2 * (normalBound * (den * 2 ^ s)) := by ring
  rw [hstep] at hlow hlt
  have hone : den * 2 ^ s ≤ normalBound * (den * 2 ^ s) :=
    Nat.le_mul_of_pos_left _ (by decide)
  refine ⟨hm, by omega, ?_, ?_, fun hodd => ?_⟩
  · rw [mul_assoc]
    omega
  · rw [mul_assoc]
    omega
  · rw [Nat.mul_mod_right] at hodd
    cases hodd

lemma magnitudeOf_of_scale (hd : 0 < den) (hs : scaleOf num den = s)
    (hr : RoundsTo num (den * 2 ^ s) q) :
    magnitudeOf num den = min infinityBits (s * normalBound + q) := by
  have hq : roundQuotient num (den * Nat.pow 2 s) = q :=
    roundQuotient_eq (Nat.mul_pos hd (Nat.two_pow_pos _)) hr
  rw [magnitudeOf, hs, hq]

/-- The rounding of a quotient that is nearest to a finite double. -/
theorem magnitudeOf_eq (hf : x.isFinite = true) (hd : 0 < den) (h : x.IsNearest num den) :
    magnitudeOf num den = x.magnitude := by
  have hmag := magnitude_eq x
  have hfinite : x.magnitude < infinityBits := of_decide_eq_true hf
  have hstep : 0 < den * 2 ^ x.scale := Nat.mul_pos hd (Nat.two_pow_pos _)
  have hhigh := h.step_high
  have hsig : x.significand * (den * 2 ^ x.scale) + den * 2 ^ x.scale ≤
      2 * (normalBound * (den * 2 ^ x.scale)) := by
    have := Nat.mul_le_mul_right (den * 2 ^ x.scale) (Nat.succ_le_of_lt (significand_lt x))
    rw [Nat.succ_mul, mul_assoc] at this
    exact this
  by_cases hs : x.scale = 0 ∨ normalBound * (den * 2 ^ x.scale) ≤ num
  · have hscale : scaleOf num den = x.scale := by
      refine scaleOf_eq hd ?_ ?_
      · rwa [two_pow_mul]
      · have : 2 ^ (53 + x.scale) * den = 2 * (2 ^ (52 + x.scale) * den) := by ring
        rw [this, two_pow_mul]
        omega
    rw [magnitudeOf_of_scale hd hscale h.roundsTo, ← hmag]
    exact Nat.min_eq_right (Nat.le_of_lt hfinite)
  · push Not at hs
    obtain ⟨s, hss⟩ : ∃ s, x.scale = s + 1 := Nat.exists_eq_add_one_of_ne_zero hs.1
    obtain ⟨hm, hge, hround⟩ := h.roundsTo_finer hss hs.2
    have hscale : scaleOf num den = s := by
      refine scaleOf_eq hd (Or.inr ?_) ?_
      · rwa [two_pow_mul]
      · have : 2 ^ (53 + s) * den = 2 ^ (52 + x.scale) * den := by
          rw [hss]
          ring
        rw [this, two_pow_mul]
        exact hs.2
    have hsum : s * normalBound + 2 * normalBound = x.magnitude := by
      rw [hmag, hss, hm]
      ring
    rw [magnitudeOf_of_scale hd hscale hround, hsum]
    exact Nat.min_eq_right (Nat.le_of_lt hfinite)

/-! ### Quotients that are rounded to a finite double -/

lemma roundQuotient_lt_iff (hd : 0 < den) (heven : q % 2 = 0) (hq : 0 < q) :
    roundQuotient num den < q ↔ 2 * num + den < 2 * (q * den) := by
  obtain ⟨a, r, hnum, hrd, hround⟩ := exists_roundQuotient num hd
  rw [hround]
  rcases Nat.lt_trichotomy (a + 1) q with hlt | rfl | hgt
  · have : (a + 2) * den ≤ q * den := Nat.mul_le_mul_right den hlt
    rw [Nat.add_mul] at this
    split_ifs <;> omega
  · rw [Nat.add_mul]
    split_ifs <;> omega
  · have : q * den ≤ a * den := Nat.mul_le_mul_right den (by omega)
    split_ifs <;> omega

lemma lt_two_pow_scaleOf (num : Nat) (hd : 0 < den) :
    num < 2 * (normalBound * (den * 2 ^ scaleOf num den)) := by
  have hlog : num / den < 2 ^ (53 + scaleOf num den) :=
    Nat.lt_of_lt_of_le Nat.lt_log2_self
      (Nat.pow_le_pow_right (by decide) (by unfold scaleOf; omega))
  have hpow : 2 ^ (53 + scaleOf num den) * den = 2 * (2 ^ (52 + scaleOf num den) * den) := by ring
  rw [← two_pow_mul, ← hpow]
  exact (Nat.div_lt_iff_lt_mul hd).mp hlog

lemma two_pow_scaleOf_le (num den : Nat) (hs : 0 < scaleOf num den) :
    normalBound * (den * 2 ^ scaleOf num den) ≤ num := by
  have hlog : 52 + scaleOf num den = (num / den).log2 := by
    unfold scaleOf at hs ⊢
    omega
  have hne : num / den ≠ 0 := by
    intro hzero
    rw [hzero] at hlog
    have : Nat.log2 0 = 0 := rfl
    omega
  rw [← two_pow_mul, hlog]
  exact Nat.mul_le_of_le_div den _ num (Nat.log2_self_le hne)

lemma two_mul_step_le {t : Nat} (den : Nat) (h : s < t) : 2 * (den * 2 ^ s) ≤ den * 2 ^ t := by
  have hpow : den * 2 ^ (s + 1) ≤ den * 2 ^ t :=
    Nat.mul_le_mul_left den (Nat.pow_le_pow_right (by decide) h)
  rwa [Nat.pow_succ', Nat.mul_left_comm] at hpow

/-- A quotient of units is rounded to a finite double below the midpoint beyond the greatest one. -/
theorem magnitudeOf_lt_infinityBits (hd : 0 < den) : magnitudeOf num den < infinityBits ↔
    2 * num + den * 2 ^ maxScale < 4 * (normalBound * (den * 2 ^ maxScale)) := by
  obtain ⟨s, hs⟩ : ∃ s, s = scaleOf num den := ⟨_, rfl⟩
  have hhigh := lt_two_pow_scaleOf num hd
  have hlow := two_pow_scaleOf_le num den
  rw [← hs] at hhigh hlow
  have hstep : 0 < den * 2 ^ s := Nat.mul_pos hd (Nat.two_pow_pos s)
  have hbits : magnitudeOf num den < infinityBits ↔
      s * normalBound + roundQuotient num (den * 2 ^ s) < 2047 * normalBound := by
    rw [magnitudeOf, ← hs, Nat.pow_eq, infinityBits]
    omega
  have hone : 1 < normalBound := by decide
  have heven : normalBound % 2 = 0 := by decide
  rw [hbits]
  rcases Nat.lt_trichotomy s maxScale with hlt | rfl | hgt
  · have hround : roundQuotient num (den * 2 ^ s) < 2 * normalBound + 2 := by
      rw [roundQuotient_lt_iff hstep (by omega) (by omega), Nat.add_mul, Nat.mul_assoc 2]
      omega
    have hscale : s * normalBound ≤ 2044 * normalBound :=
      Nat.mul_le_mul_right normalBound (Nat.le_of_lt_succ hlt)
    have hmax : normalBound * (2 * (den * 2 ^ s)) ≤ normalBound * (den * 2 ^ maxScale) :=
      Nat.mul_le_mul_left normalBound (two_mul_step_le den hlt)
    have hpos : den * 2 ^ maxScale ≤ normalBound * (den * 2 ^ maxScale) :=
      Nat.le_mul_of_pos_left _ (by decide)
    rw [Nat.mul_left_comm] at hmax
    exact iff_of_true (by omega) (by omega)
  · have hround : roundQuotient num (den * 2 ^ maxScale) < 2 * normalBound ↔ _ :=
      roundQuotient_lt_iff hstep (by omega) (by omega)
    rw [Nat.mul_assoc 2] at hround
    unfold maxScale at *
    omega
  · have hround : ¬ roundQuotient num (den * 2 ^ s) < normalBound := by
      rw [roundQuotient_lt_iff hstep heven (by omega)]
      have := hlow (by omega)
      omega
    have hscale : 2046 * normalBound ≤ s * normalBound :=
      Nat.mul_le_mul_right normalBound hgt
    have hmax : normalBound * (2 * (den * 2 ^ maxScale)) ≤ normalBound * (den * 2 ^ s) :=
      Nat.mul_le_mul_left normalBound (two_mul_step_le den hgt)
    rw [Nat.mul_left_comm] at hmax
    have := hlow (by omega)
    exact iff_of_false (by omega) (by omega)

end Double

end MetricAgent.Decimal
