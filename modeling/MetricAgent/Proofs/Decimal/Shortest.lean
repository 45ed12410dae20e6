import MetricAgent.Decimal.Shortest
import MetricAgent.Proofs.Decimal.Digits
import MetricAgent.Proofs.Decimal.Nearest

/-!
The shortest decimal of a double is read as that double. It stands for a point between the midpoints
around the double, and whatever decimal stands for such a point is read as the double, however many
zeros it has.
-/

namespace MetricAgent.Decimal

open Double

variable {x : Double} {c p point : Nat} {d : Scientific}

/-! ### Points that read back -/

lemma quarterScale_pos : 0 < quarterScale := by decide +kernel

/-- How many points make one. -/
def pointsPerOne : Nat := Nat.pow 10 pointPlaces

lemma pointsPerOne_eq : pointsPerOne = 4 * (unitsPerOne * quarterScale) := by decide +kernel

lemma holds_bounds (h : (neighbourhood x).holds point = true) :
    x.lowQuarters * quarterScale ≤ point ∧ point ≤ x.highQuarters * quarterScale ∧
      (x.significand % 2 = 1 →
        x.lowQuarters * quarterScale < point ∧ point < x.highQuarters * quarterScale) := by
  have hlow : (neighbourhood x).low = x.lowQuarters * quarterScale := rfl
  have hhigh : (neighbourhood x).high = x.highQuarters * quarterScale := rfl
  have hclosed : (neighbourhood x).closed = decide (x.significand % 2 = 0) := rfl
  unfold Neighbourhood.holds at h
  rw [hlow, hhigh, hclosed] at h
  split at h
  next heven =>
    simp only [Bool.and_eq_true, decide_eq_true_eq] at h heven
    refine ⟨h.1, h.2, fun hodd => ?_⟩
    omega
  next =>
    simp only [Bool.and_eq_true, decide_eq_true_eq] at h
    exact ⟨h.1.le, h.2.le, fun _ => h⟩

section Quarters

variable {num den k : Nat} (hp : point * den = num * quarterScale) (hd : 0 < den)

include hp hd

lemma quarters_le_iff : k * quarterScale ≤ point ↔ k * den ≤ num := by
  rw [← Nat.mul_le_mul_right_iff hd, hp, Nat.mul_right_comm,
    Nat.mul_le_mul_right_iff quarterScale_pos]

lemma le_quarters_iff : point ≤ k * quarterScale ↔ num ≤ k * den := by
  rw [← Nat.mul_le_mul_right_iff hd, hp, Nat.mul_right_comm,
    Nat.mul_le_mul_right_iff quarterScale_pos]

end Quarters

/-- A quotient that stands for a point is nearest to the double around the point. -/
lemma isNearest_of_holds {num den : Nat} (h : (neighbourhood x).holds point = true)
    (hp : num * pointsPerOne = point * den) (hd : 0 < den) :
    x.IsNearest (num * unitsPerOne) den := by
  obtain ⟨hlow, hhigh, hodd⟩ := holds_bounds h
  have hpoint : point * den = 4 * (num * unitsPerOne) * quarterScale := by
    rw [← hp, pointsPerOne_eq]
    ring
  refine ⟨(quarters_le_iff hpoint hd).mp hlow, (le_quarters_iff hpoint hd).mp hhigh, fun ho => ?_⟩
  obtain ⟨hlow, hhigh⟩ := hodd ho
  exact ⟨(lt_iff_lt_of_le_iff_le (le_quarters_iff hpoint hd)).mp hlow,
    (lt_iff_lt_of_le_iff_le (quarters_le_iff hpoint hd)).mp hhigh⟩

/-! ### Reading a decimal -/

lemma mul_pow_whole {j k : Nat} (m : Nat) (h : j = k + pointPlaces) :
    m * Nat.pow 10 k * pointsPerOne = m * 10 ^ j * 1 := by
  rw [h, pointsPerOne, Nat.pow_eq, Nat.pow_eq, pow_add]
  ring

lemma mul_pow_part {j k : Nat} (m : Nat) (h : j + k = pointPlaces) :
    m * pointsPerOne = m * 10 ^ j * Nat.pow 10 k := by
  rw [pointsPerOne, ← h, Nat.pow_eq, Nat.pow_eq, pow_add]
  ring

/-- A decimal stands for a point. -/
def Scientific.StandsFor (d : Scientific) (point : Nat) : Prop :=
  ∃ j : Nat, d.exponent = (j : Int) - pointPlaces ∧ d.mantissa * 10 ^ j = point

lemma top_bounds (hf : x.isFinite = true) (hx : x.magnitude ≠ 0)
    (h : (neighbourhood x).holds point = true) {n j : Nat} (hn : n * 10 ^ j = point) (h0 : n ≠ 0) :
    (digits n).length + j < 310 + pointPlaces ∧ pointPlaces < (digits n).length + j + 324 := by
  have hgreat : 8 * normalBound * 2 ^ maxScale * quarterScale < 10 ^ (309 + pointPlaces) := by
    decide +kernel
  have hsmall : 10 ^ (pointPlaces - 324) ≤ 2 * quarterScale := by decide +kernel
  have hplaces : 324 ≤ pointPlaces := by decide +kernel
  have hpos := length_digits_pos n
  obtain ⟨hlow, hhigh, -⟩ := holds_bounds h
  constructor
  · by_contra hfar
    have hle : 10 ^ (309 + pointPlaces) ≤ point := calc
      10 ^ (309 + pointPlaces) ≤ 10 ^ ((digits n).length - 1 + j) :=
        Nat.pow_le_pow_right (by decide) (by omega)
      _ = 10 ^ ((digits n).length - 1) * 10 ^ j := pow_add ..
      _ ≤ n * 10 ^ j := Nat.mul_le_mul_right _ (pow_length_digits_le h0)
      _ = point := hn
    have hlt : point < 10 ^ (309 + pointPlaces) := calc
      point ≤ x.highQuarters * quarterScale := hhigh
      _ ≤ 8 * normalBound * 2 ^ maxScale * quarterScale :=
        Nat.mul_le_mul_right _ (highQuarters_le hf)
      _ < 10 ^ (309 + pointPlaces) := hgreat
    exact absurd hlt (not_lt.mpr hle)
  · by_contra hfar
    have hlt : point < 10 ^ (pointPlaces - 324) := calc
      point = n * 10 ^ j := hn.symm
      _ < 10 ^ (digits n).length * 10 ^ j :=
        Nat.mul_lt_mul_of_pos_right (lt_pow_length_digits n) (Nat.pow_pos (by decide))
      _ = 10 ^ ((digits n).length + j) := (pow_add ..).symm
      _ ≤ 10 ^ (pointPlaces - 324) := Nat.pow_le_pow_right (by decide) (by omega)
    have hle : 10 ^ (pointPlaces - 324) ≤ point := calc
      10 ^ (pointPlaces - 324) ≤ 2 * quarterScale := hsmall
      _ ≤ x.lowQuarters * quarterScale := Nat.mul_le_mul_right _ (two_le_lowQuarters hx)
      _ ≤ point := hlow
    exact absurd hlt (not_lt.mpr hle)

/-- A decimal that stands for a point is read as the double around the point. -/
theorem toDouble_of_standsFor (hf : x.isFinite = true) (hx : x.magnitude ≠ 0)
    (h : (neighbourhood x).holds point = true) (hd : d.StandsFor point) (h0 : d.mantissa ≠ 0)
    (negative : Bool) : d.toDouble negative = ofMagnitude negative x.magnitude := by
  obtain ⟨j, hj, hn⟩ := hd
  obtain ⟨htop, hlow⟩ := top_bounds hf hx h hn h0
  have hquotient {num den : Nat} (hd : 0 < den) (hp : num * pointsPerOne = point * den) :
      ofQuotient negative num den = ofMagnitude negative x.magnitude := by
    rw [ofQuotient, magnitudeOf_eq hf hd (isNearest_of_holds h hp hd)]
  unfold Scientific.toDouble
  dsimp only
  rw [if_neg h0, if_neg (by omega), if_neg (by omega)]
  split
  next hpos =>
    obtain ⟨k, hk⟩ : ∃ k, j = k + pointPlaces := ⟨j - pointPlaces, by omega⟩
    have hexponent : d.exponent.toNat = k := by omega
    rw [hexponent]
    have hp := mul_pow_whole d.mantissa hk
    rw [hn] at hp
    exact hquotient (by decide) hp
  next hneg =>
    obtain ⟨k, hk⟩ : ∃ k, j + k = pointPlaces := ⟨pointPlaces - j, by omega⟩
    have hexponent : (-d.exponent).toNat = k := by omega
    rw [hexponent]
    have hp := mul_pow_part d.mantissa hk
    rw [hn] at hp
    have hden : 0 < Nat.pow 10 k := Nat.pow_pos (by decide)
    exact hquotient hden hp

/-! ### Printing a decimal -/

variable {n : Neighbourhood}

lemma holds_of_onGrid? (h : n.onGrid? p = some c) : n.holds (c * 10 ^ p) = true := by
  unfold Neighbourhood.onGrid? at h
  rw [Nat.pow_eq] at h
  dsimp only at h
  split at h
  next hlower =>
    obtain rfl := Option.some.inj h
    exact (Bool.and_eq_true_iff.mp hlower).1
  next =>
    split at h
    next hupper =>
      obtain rfl := Option.some.inj h
      exact hupper
    next => cases h

lemma holds_firstHit (h : n.holds n.value = true) (p : Nat) :
    n.holds ((n.firstHit p).1 * 10 ^ (n.firstHit p).2) = true := by
  induction p with
  | zero => simpa [Neighbourhood.firstHit] using h
  | succ p ih =>
    unfold Neighbourhood.firstHit
    split
    next c hc => exact holds_of_onGrid? hc
    next => exact ih

lemma dropZeros_eq (fuel c : Nat) : (dropZeros fuel c).1 * 10 ^ (dropZeros fuel c).2 = c := by
  induction fuel generalizing c with
  | zero => simp [dropZeros]
  | succ fuel ih =>
    unfold dropZeros
    split
    next h =>
      obtain ⟨-, hc⟩ := Bool.and_eq_true_iff.mp h
      have hten : c / 10 * 10 = c := Nat.div_mul_cancel (Nat.dvd_of_mod_eq_zero (by simpa using hc))
      dsimp only
      rw [pow_succ, ← mul_assoc, ih, hten]
    next => simp

lemma holds_value (h : x.magnitude ≠ 0) :
    (neighbourhood x).holds (neighbourhood x).value = true := by
  have hlow : x.lowQuarters < 4 * x.units := by
    have hsig := significand_pos h
    have hpow : 0 < 2 ^ x.scale := Nat.two_pow_pos _
    have hunits : 0 < 4 * x.units := by
      rw [units_eq]
      positivity
    unfold lowQuarters
    rw [Nat.pow_eq]
    split <;> omega
  have hhigh : 4 * x.units < x.highQuarters := by
    unfold highQuarters
    have hpow : 0 < Nat.pow 2 x.scale := Nat.two_pow_pos _
    omega
  have hbelow := Nat.mul_lt_mul_of_pos_right hlow quarterScale_pos
  have habove := Nat.mul_lt_mul_of_pos_right hhigh quarterScale_pos
  have hn : neighbourhood x = ⟨4 * x.units * quarterScale, x.lowQuarters * quarterScale,
      x.highQuarters * quarterScale, x.significand % 2 = 0⟩ := rfl
  rw [hn]
  unfold Neighbourhood.holds
  dsimp only
  split
  · simp only [Bool.and_eq_true, decide_eq_true_eq]
    exact ⟨hbelow.le, habove.le⟩
  · simp only [Bool.and_eq_true, decide_eq_true_eq]
    exact ⟨hbelow, habove⟩

lemma Neighbourhood.shortest_standsFor (hvalue : n.holds n.value = true) (hlow : 0 < n.low) :
    n.shortest.mantissa ≠ 0 ∧ ∃ point, n.holds point = true ∧ n.shortest.StandsFor point := by
  have hpoint := holds_firstHit hvalue ((digits n.value).length - 1)
  unfold Neighbourhood.shortest
  generalize n.firstHit ((digits n.value).length - 1) = hit at hpoint ⊢
  obtain ⟨c, p⟩ := hit
  have hzeros := dropZeros_eq (digits c).length c
  dsimp only
  generalize dropZeros (digits c).length c = dropped at hzeros ⊢
  obtain ⟨m, k⟩ := dropped
  dsimp only at hpoint hzeros ⊢
  have hpos : 0 < c * 10 ^ p := by
    unfold Neighbourhood.holds at hpoint
    split at hpoint <;>
    · simp only [Bool.and_eq_true, decide_eq_true_eq] at hpoint
      omega
  refine ⟨?_, c * 10 ^ p, hpoint, k + p, by dsimp only; omega, ?_⟩
  · rintro rfl
    rw [← hzeros, Nat.zero_mul, Nat.zero_mul] at hpos
    exact absurd hpos (lt_irrefl 0)
  · dsimp only
    rw [pow_add, ← mul_assoc, hzeros]

/-- The shortest decimal of a double stands for a point between the midpoints around it. -/
theorem shortest_standsFor (hx : x.magnitude ≠ 0) :
    (shortest x).mantissa ≠ 0 ∧
      ∃ point, (neighbourhood x).holds point = true ∧ (shortest x).StandsFor point := by
  have hlow : 0 < x.lowQuarters := by
    have := two_le_lowQuarters hx
    omega
  exact Neighbourhood.shortest_standsFor (holds_value hx) (Nat.mul_pos hlow quarterScale_pos)

end MetricAgent.Decimal
