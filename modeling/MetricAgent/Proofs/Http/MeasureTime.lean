import MetricAgent.Http.Payload
import MetricAgent.Proofs.Time.Rounding

/-!
The times of entries. A time is rounded to the nearest multiple of the span if the counts of
nanoseconds allow it, and is else only cut to its second. Rounding to whole seconds leaves a
multiple that is near, stays where it is and keeps the order of times.
-/

namespace MetricAgent.Http

open Time Timestamp

variable {t : Timestamp} {d : Span} {n : Nat}

lemma exists_nearest (h : t.CanRound d) (ht : t.nanos < Span.perSecond) :
    ∃ r, IsNearestMultiple d.nanos t.sinceEpoch r ∧
      roundedSecond t (some d) = r / Span.perSecond := by
  refine ⟨_, isNearestMultiple_toNearest h.pos t.sinceEpoch, ?_⟩
  obtain ⟨hsum, hnanos⟩ := sinceEpoch_add ht (toNearest t.sinceEpoch d.nanos)
  rw [roundedSecond, Option.bind_some, roundTo?_of_canRound h, Option.getD_some,
    seconds_eq hnanos, hsum]

lemma roundedSecond_of_not_canRound (h : ¬ t.CanRound d) (ht : t.nanos < Span.perSecond) :
    roundedSecond t (some d) = t.sinceEpoch / Span.perSecond := by
  rw [roundedSecond, Option.bind_some, roundTo?_of_not_canRound h, Option.getD_none,
    seconds_eq ht]

lemma isNearestMultiple_roundedSecond (h : t.CanRound d) (ht : t.nanos < Span.perSecond)
    (hd : d.nanos = n * Span.perSecond) :
    (n : Int) ∣ roundedSecond t (some d) ∧
      IsNearestMultiple d.nanos t.sinceEpoch (roundedSecond t (some d) * Span.perSecond) := by
  obtain ⟨r, hr, hsecond⟩ := exists_nearest h ht
  obtain ⟨k, hk⟩ : ∃ k : Int, r = n * k * Span.perSecond := by
    obtain ⟨k, hk⟩ := hr.dvd
    exact ⟨k, by rw [hk, hd, Nat.cast_mul, Int.mul_right_comm]⟩
  have hpos : (Span.perSecond : Int) ≠ 0 := by decide
  have hsecond : roundedSecond t (some d) = n * k := by
    rw [hsecond, hk, Int.mul_ediv_cancel _ hpos]
  rw [hsecond, ← hk]
  exact ⟨Int.dvd_mul_right _ _, hr⟩

lemma roundedSecond_of_dvd {s : Int} (hd : d.nanos = n * Span.perSecond) (hs : (n : Int) ∣ s) :
    roundedSecond ⟨s, 0⟩ (some d) = s := by
  have hpos : (Span.perSecond : Int) ≠ 0 := by decide
  have hzero : 0 < Span.perSecond := by decide
  have hcount : (⟨s, 0⟩ : Timestamp).sinceEpoch = s * Span.perSecond := Int.add_zero _
  by_cases h : (⟨s, 0⟩ : Timestamp).CanRound d
  · obtain ⟨r, hr, hsecond⟩ := exists_nearest h hzero
    have hdvd : (d.nanos : Int) ∣ s * Span.perSecond := by
      rw [hd, Nat.cast_mul]
      exact Int.mul_dvd_mul hs (Int.dvd_refl _)
    rw [hcount] at hr
    rw [hsecond, hr.unique (.self hdvd), Int.mul_ediv_cancel _ hpos]
  · rw [roundedSecond_of_not_canRound h hzero, hcount, Int.mul_ediv_cancel _ hpos]

/--
**Times are rounded to the nearest multiple.** For all instants outside leap seconds: if the span is
not empty and its nanoseconds and those of the instant are signed words, the time of an entry is the
second of the nearest multiple, of two equally near ones the later; no step on the way overflows or
divides by zero. In all other cases it is the second of the instant. Rounding to whole seconds gives
a multiple no farther than half the span, which is not changed by rounding again, and times that are
rounded keep their order.
-/
theorem rounds_to_nearest (t : Timestamp) (ht : t.nanos < Span.perSecond) (d : Span) :
    (t.CanRound d →
      (∃ r, IsNearestMultiple d.nanos t.sinceEpoch r ∧
        roundedSecond t (some d) = r / Span.perSecond) ∧
      ∃ distance, distance? t.sinceEpoch d.nanos = some distance ∧
        t.roundTo? d = some (t.add distance) ∧
        minSeconds ≤ (t.add distance).seconds ∧ (t.add distance).seconds ≤ maxSeconds) ∧
      (¬ t.CanRound d →
        t.roundTo? d = none ∧ roundedSecond t (some d) = t.sinceEpoch / Span.perSecond) ∧
      roundedSecond t none = t.sinceEpoch / Span.perSecond ∧
      (t.CanRound d → ∀ n : Nat, d.nanos = n * Span.perSecond →
        (n : Int) ∣ roundedSecond t (some d) ∧
          2 * (t.sinceEpoch - roundedSecond t (some d) * Span.perSecond).natAbs ≤ d.nanos ∧
          roundedSecond ⟨roundedSecond t (some d), 0⟩ (some d) = roundedSecond t (some d)) ∧
      ∀ t' : Timestamp, t'.nanos < Span.perSecond → t.CanRound d → t'.CanRound d →
        t.sinceEpoch ≤ t'.sinceEpoch →
          roundedSecond t (some d) ≤ roundedSecond t' (some d) := by
  refine ⟨fun h => ?_, fun h => ?_, seconds_eq ht, fun h n hn => ?_, fun t' ht' h h' hle => ?_⟩
  · exact ⟨exists_nearest h ht, _, distance?_eq_some h.pos h.le _, roundTo?_of_canRound h,
      h.bounds ht⟩
  · exact ⟨roundTo?_of_not_canRound h, roundedSecond_of_not_canRound h ht⟩
  · obtain ⟨hdvd, hr⟩ := isNearestMultiple_roundedSecond h ht hn
    exact ⟨hdvd, two_mul_sub_le h.pos hr, roundedSecond_of_dvd hn hdvd⟩
  · obtain ⟨r, hr, hsecond⟩ := exists_nearest h ht
    obtain ⟨r', hr', hsecond'⟩ := exists_nearest h' ht'
    rw [hsecond, hsecond']
    exact Int.ediv_le_ediv (by decide) (hr.mono hr' hle)

/-- Half of ten seconds before 1970 is taken to its start, and what comes before that to the ten
seconds before; an instant out of range stays. -/
theorem rounds_to_nearest_beforeEpoch :
    let d := Span.ofSeconds 10
    let half : Timestamp := ⟨-5, 0⟩
    let before : Timestamp := ⟨-6, 999999999⟩
    let far : Timestamp := ⟨9223372037, 0⟩
    before.nanos < Span.perSecond ∧ before.CanRound d ∧ half.nanos < Span.perSecond ∧
      half.CanRound d ∧ d.nanos = 10 * Span.perSecond ∧
      10 ∣ roundedSecond before (some d) ∧ roundedSecond before (some d) = -10 ∧
      roundedSecond before (some d) ≤ roundedSecond half (some d) ∧
      roundedSecond half (some d) = 0 ∧
      ¬ far.CanRound d ∧ roundedSecond far (some d) = 9223372037 := by
  intro d half before far
  have hbefore : before.nanos < Span.perSecond := by decide
  have hround : before.CanRound d := by decide
  have hhalf : half.nanos < Span.perSecond := by decide
  have hround' : half.CanRound d := by decide
  have hfar : ¬ far.CanRound d := by decide
  obtain ⟨-, -, -, hseconds, hmono⟩ := rounds_to_nearest before hbefore d
  obtain ⟨hdvd, -, -⟩ := hseconds hround 10 rfl
  obtain ⟨-, hkept, -⟩ := rounds_to_nearest far (by decide) d
  exact ⟨hbefore, hround, hhalf, hround', rfl, hdvd, by decide,
    hmono half hhalf hround hround' (by decide), by decide, hfar,
    (hkept hfar).2.trans (by decide)⟩

end MetricAgent.Http
