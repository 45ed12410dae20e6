import MetricAgent.Proofs.Decimal.SixPlaces
import MetricAgent.Proofs.Submission.Accepted

/-!
Printed doubles, submitted. The six places are no digits of a word, so a double is read whatever its
size, and it is printed like the one before.
-/

namespace MetricAgent.Submission

open Decimal

variable {x : Double}

lemma point_mem_sixPlaces (hf : x.isFinite = true) : '.' ∈ sixPlaces x := by
  rw [sixPlaces_eq hf, millionths]
  exact List.mem_append_right _ (List.mem_append_right _ List.mem_cons_self)

lemma word?_sixPlaces (hf : x.isFinite = true) : word? (sixPlaces x) = none := by
  refine Option.eq_none_iff_forall_ne_some.mpr fun n hn => ?_
  obtain ⟨hnumeral, -⟩ := word?_eq_some.mp hn
  have hdigit := (isNumeral_iff.mp hnumeral).2 '.' (point_mem_sixPlaces hf)
  cases hdigit

lemma value?_sixPlaces (hf : x.isFinite = true) :
    value? (sixPlaces x) = some (.real x.reread) :=
  value_eq_some.mpr ⟨word?_sixPlaces hf, double?_sixPlaces hf, isFinite_reread hf⟩

/--
**A printed double is read as one that is printed alike.** The text of a measurement of a finite
double is read as a finite double, never as a word, of the same sign; every measurement of what is
read has the same text. From `2 ^ 33` on, on both sides of zero, what is read is the double itself.
-/
theorem printed_is_read_alike (m : Measurement) (hm : m.reading = .floatGauge x)
    (hf : x.isFinite = true) : ∃ y, value? m.valueText.toList = some (.real y) ∧
      y.isFinite = true ∧ y.isNegative = x.isNegative ∧
      (∀ n : Measurement, n.reading = .floatGauge y → n.valueText = m.valueText) ∧
      (2 ^ 33 ≤ |x.value| → y = x) := by
  have htext : m.valueText = String.ofList (sixPlaces x) := by rw [Measurement.valueText, hm]; rfl
  refine ⟨x.reread, ?_, isFinite_reread hf, isNegative_reread x, fun n hn => ?_, fun hlarge => ?_⟩
  · rw [htext, String.toList_ofList]
    exact value?_sixPlaces hf
  · rw [Measurement.valueText, hn, htext, Reading.text, sixPlaces_reread hf]
  · exact Double.reread_eq hf (Double.le_abs_value.mp (by exact_mod_cast hlarge))

/-- The least double below zero is read as a negative zero, and `-2 ^ 33` as itself. -/
theorem printed_is_read_alike_negative :
    (∃ y, value? "-0.000000".toList = some (.real y) ∧ y.isNegative = true ∧
      Reading.text (.floatGauge y) = "-0.000000".toList) ∧
      value? "-8589934592.000000".toList = some (.real ⟨0xC200000000000000⟩) := by
  constructor
  · let m : Measurement :=
      { (default : Measurement) with reading := .floatGauge ⟨0x8000000000000001⟩ }
    have htext : m.valueText = "-0.000000" := by decide +kernel
    obtain ⟨y, hread, -, hsign, halike, -⟩ := printed_is_read_alike m rfl (by decide)
    have hsame := halike { m with reading := .floatGauge y } rfl
    rw [htext] at hread hsame
    refine ⟨y, hread, hsign.trans (by decide), ?_⟩
    exact (String.toList_ofList).symm.trans (congrArg String.toList hsame)
  · let m : Measurement :=
      { (default : Measurement) with reading := .floatGauge ⟨0xC200000000000000⟩ }
    have htext : m.valueText = "-8589934592.000000" := by decide +kernel
    obtain ⟨y, hread, -, -, -, hitself⟩ := printed_is_read_alike m rfl (by decide)
    have hlarge : (2 : ℚ) ^ 33 ≤ |Double.value ⟨0xC200000000000000⟩| := by
      have hunits : 2 ^ 33 * Double.unitsPerOne ≤ Double.units ⟨0xC200000000000000⟩ := by
        decide +kernel
      exact_mod_cast Double.le_abs_value.mpr hunits
    rw [htext, hitself hlarge] at hread
    exact hread

end MetricAgent.Submission
