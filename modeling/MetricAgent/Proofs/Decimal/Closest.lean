import Mathlib.Data.Nat.Dist
import MetricAgent.Proofs.Decimal.Nearest

/-!
No double is closer to a quotient than the one that it is rounded to. Doubles of the same scale or a
greater one are whole numbers of its steps, among which rounding finds the closest; all others lie
below the least significand of the scale, which is closer than they are.
-/

namespace MetricAgent.Decimal

variable {num den q s : Nat}

/-! ### Rounding a quotient -/

lemma roundsTo_roundQuotient (num : Nat) (hd : 0 < den) :
    RoundsTo num den (roundQuotient num den) := by
  obtain ⟨a, r, hnum, hr, hround⟩ := exists_roundQuotient num hd
  rw [hround]
  split_ifs
  · exact ⟨by omega, by omega, fun _ => by omega⟩
  · constructor
    all_goals
      rw [Nat.add_mul]
      omega
  · -- Halfway between two naturals, the even one is taken.
    have hnext : (a + 1) * den = a * den + den := Nat.succ_mul a den
    rcases Nat.mod_two_eq_zero_or_one a with ha | ha
    · rw [ha, Nat.add_zero]
      exact ⟨by omega, by omega, fun hodd => by omega⟩
    · rw [ha]
      exact ⟨by omega, by omega, fun hodd => by omega⟩

lemma RoundsTo.two_mul_dist_le (h : RoundsTo num den q) : 2 * Nat.dist (q * den) num ≤ den := by
  obtain ⟨low, high, -⟩ := h
  unfold Nat.dist
  omega

lemma RoundsTo.dist_le (h : RoundsTo num den q) (k : Nat) :
    Nat.dist (q * den) num ≤ Nat.dist (k * den) num := by
  obtain ⟨low, high, -⟩ := h
  unfold Nat.dist
  rcases Nat.lt_trichotomy k q with hlt | rfl | hgt
  · have := Nat.mul_le_mul_right den (Nat.succ_le_of_lt hlt)
    rw [Nat.succ_mul] at this
    omega
  · exact le_rfl
  · have := Nat.mul_le_mul_right den (Nat.succ_le_of_lt hgt)
    rw [Nat.succ_mul] at this
    omega

/-- What is as close to a natural as a quotient that is rounded to it is rounded to it as well. -/
lemma RoundsTo.of_dist_le {num' : Nat} (h : RoundsTo num den q)
    (hle : Nat.dist num' (q * den) ≤ Nat.dist num (q * den)) : RoundsTo num' den q := by
  obtain ⟨low, high, odd⟩ := h
  unfold Nat.dist at hle
  refine ⟨by omega, by omega, fun hodd => ?_⟩
  obtain ⟨hlow, hhigh⟩ := odd hodd
  omega

namespace Double

variable {x y : Double}

/-! ### Steps of a scale -/

lemma units_of_magnitude (h : x.magnitude = s * normalBound + q)
    (hlow : s = 0 ∨ normalBound ≤ q) (hhigh : q ≤ 2 * normalBound) : x.units = q * 2 ^ s := by
  rw [units_eq]
  rcases Nat.lt_or_eq_of_le hhigh with hlt | rfl
  · have hscale : x.scale = s := by
      unfold scale
      rw [h]
      unfold normalBound at *
      omega
    have hsum := x.magnitude_eq
    rw [h, hscale] at hsum
    rw [hscale, Nat.add_left_cancel hsum]
  · -- The significand is carried into the next scale.
    have hscale : x.scale = s + 1 := by
      unfold scale
      rw [h]
      unfold normalBound
      omega
    have hsum := x.magnitude_eq
    rw [h, hscale, Nat.add_mul, Nat.one_mul] at hsum
    have hsignificand : x.significand = normalBound := by omega
    rw [hscale, hsignificand]
    ring

/-- A double is a whole number of the steps of a scale, or less than all significands there. -/
lemma units_eq_or_lt (x : Double) (s : Nat) :
    (∃ k, x.units = k * 2 ^ s) ∨ 0 < s ∧ x.units < normalBound * 2 ^ s := by
  rw [units_eq]
  rcases Nat.lt_or_ge x.scale s with hlt | hge
  · right
    refine ⟨Nat.zero_lt_of_lt hlt, ?_⟩
    calc x.significand * 2 ^ x.scale
      _ < 2 * normalBound * 2 ^ x.scale :=
        Nat.mul_lt_mul_of_pos_right (significand_lt x) (Nat.two_pow_pos _)
      _ = normalBound * 2 ^ (x.scale + 1) := by ring
      _ ≤ normalBound * 2 ^ s := Nat.mul_le_mul_left _ (Nat.pow_le_pow_right (by decide) hlt)
  · left
    obtain ⟨k, hk⟩ := Nat.exists_eq_add_of_le hge
    exact ⟨x.significand * 2 ^ k, by rw [hk]; ring⟩

/-! ### Rounding to a double -/

lemma exists_magnitudeOf (num : Nat) (hd : 0 < den) : ∃ s q,
    magnitudeOf num den = min infinityBits (s * normalBound + q) ∧
      (s = 0 ∨ normalBound * (den * 2 ^ s) ≤ num) ∧ (s = 0 ∨ normalBound ≤ q) ∧
      q ≤ 2 * normalBound ∧ RoundsTo num (den * 2 ^ s) q := by
  obtain ⟨s, hs⟩ : ∃ s, s = scaleOf num den := ⟨_, rfl⟩
  have hstep : 0 < den * 2 ^ s := Nat.mul_pos hd (Nat.two_pow_pos s)
  have hround := roundsTo_roundQuotient num hstep
  have hlow : s = 0 ∨ normalBound * (den * 2 ^ s) ≤ num := by
    rcases Nat.eq_zero_or_pos s with h0 | hpos
    · exact .inl h0
    · rw [hs] at hpos ⊢
      exact .inr (two_pow_scaleOf_le num den hpos)
  have hhigh := lt_two_pow_scaleOf num hd
  rw [← hs] at hhigh
  refine ⟨s, roundQuotient num (den * 2 ^ s), by rw [magnitudeOf, ← hs, Nat.pow_eq], hlow, ?_, ?_,
    hround⟩
  · refine hlow.imp_right fun hle => ?_
    by_contra hlt
    have := Nat.mul_le_mul_right (den * 2 ^ s) (Nat.succ_le_of_lt (not_le.mp hlt))
    rw [Nat.succ_mul] at this
    have := hround.high
    omega
  · by_contra hlt
    have := Nat.mul_le_mul_right (den * 2 ^ s) (Nat.succ_le_of_lt (not_le.mp hlt))
    rw [Nat.succ_mul, Nat.mul_assoc] at this
    have := hround.low
    omega

/-- The double that a quotient of units is rounded to is the closest one. -/
theorem dist_units_le (hd : 0 < den) (hy : y.magnitude = magnitudeOf num den)
    (hf : y.isFinite = true) (x : Double) :
    Nat.dist (y.units * den) num ≤ Nat.dist (x.units * den) num := by
  have hfinite : y.magnitude < infinityBits := of_decide_eq_true hf
  obtain ⟨s, q, hmagnitude, hnum, hlow, hhigh, hround⟩ := exists_magnitudeOf num hd
  have hsum : y.magnitude = s * normalBound + q := by
    rw [← hy] at hmagnitude
    omega
  have hyunits : y.units * den = q * (den * 2 ^ s) := by
    rw [units_of_magnitude hsum hlow hhigh]
    ring
  rw [hyunits]
  rcases x.units_eq_or_lt s with ⟨k, hk⟩ | ⟨hs, hlt⟩
  · have hxunits : x.units * den = k * (den * 2 ^ s) := by
      rw [hk]
      ring
    rw [hxunits]
    exact hround.dist_le k
  · -- The least significand of the scale lies between the other double and the quotient.
    have hbelow : x.units * den ≤ normalBound * (den * 2 ^ s) := by
      have := Nat.mul_le_mul_right den (Nat.le_of_lt hlt)
      rwa [Nat.mul_assoc, Nat.mul_comm (2 ^ s)] at this
    have hbetween := hnum.resolve_left (Nat.ne_of_gt hs)
    refine (hround.dist_le normalBound).trans ?_
    unfold Nat.dist
    omega

end Double

end MetricAgent.Decimal
