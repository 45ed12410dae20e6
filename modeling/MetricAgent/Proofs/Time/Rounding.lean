import Mathlib.Tactic.Ring
import MetricAgent.Time.Rounding

/-!
Rounding to the nearest multiple of a span, of two equally near ones the later. The multiple is the
only one of its kind, and grows with the instant. It is found in signed 64-bit words, and no step on
the way leaves their range.
-/

namespace MetricAgent.Time

/-! ### Nearest multiples -/

/-- A multiple of a span that is as near as any, and later than all others as near. -/
structure IsNearestMultiple (span : Nat) (stamp r : Int) : Prop where
  dvd : (span : Int) ∣ r
  nearest : ∀ k, (span : Int) ∣ k → (stamp - r).natAbs ≤ (stamp - k).natAbs
  later : ∀ k, (span : Int) ∣ k → (stamp - k).natAbs = (stamp - r).natAbs → k ≤ r

namespace IsNearestMultiple

variable {span : Nat} {m n r s : Int}

lemma mono (hr : IsNearestMultiple span m r) (hs : IsNearestMultiple span n s) (hmn : m ≤ n) :
    r ≤ s := by
  have hrs := hr.nearest s hs.dvd
  have hsr := hs.nearest r hr.dvd
  by_contra hlt
  -- Both instants then lie halfway between the two multiples, where the later one is taken.
  exact hlt (hs.later r hr.dvd (by omega))

lemma unique (hr : IsNearestMultiple span n r) (hs : IsNearestMultiple span n s) : r = s :=
  Int.le_antisymm (hr.mono hs (Int.le_refl n)) (hs.mono hr (Int.le_refl n))

lemma self (hn : (span : Int) ∣ n) : IsNearestMultiple span n n where
  dvd := hn
  nearest k _ := by omega
  later k _ h := by omega

end IsNearestMultiple

namespace Timestamp

variable {t : Timestamp} {d : Span} {stamp : Int} {span : Nat}

lemma multiple_le_or_ge (span : Nat) (stamp : Int) {k : Int} (hk : (span : Int) ∣ k) :
    k ≤ stamp - stamp % span ∨ stamp - stamp % span + span ≤ k := by
  obtain ⟨j, rfl⟩ := hk
  have hdiv := Int.mul_ediv_add_emod stamp span
  rcases Int.lt_or_le (stamp / span) j with hj | hj
  · have := Int.mul_le_mul_of_nonneg_left (Int.add_one_le_of_lt hj) (Int.natCast_nonneg span)
    rw [Int.mul_add, Int.mul_one] at this
    exact Or.inr (by omega)
  · have := Int.mul_le_mul_of_nonneg_left hj (Int.natCast_nonneg span)
    exact Or.inl (by omega)

lemma isNearestMultiple_toNearest (hspan : 0 < span) (stamp : Int) :
    IsNearestMultiple span stamp (stamp + toNearest stamp span) := by
  have hpast : 0 ≤ stamp % span := Int.emod_nonneg _ (by omega)
  have hlt : stamp % span < span := Int.emod_lt_of_pos _ (by omega)
  have hdown : (span : Int) ∣ stamp - stamp % span := Int.dvd_self_sub_emod
  have hup : (span : Int) ∣ stamp - stamp % span + span := Int.dvd_add hdown (Int.dvd_refl _)
  constructor
  case dvd =>
    unfold toNearest
    dsimp only
    split
    next h => simpa [h] using hdown
    next =>
      split
      next => exact (by ring : stamp + (span - stamp % span) = stamp - stamp % span + span) ▸ hup
      next => exact hdown
  all_goals
    intro k hk
    have hside := multiple_le_or_ge span stamp hk
    unfold toNearest
    dsimp only
    split
    next => omega
    next => split <;> omega

lemma two_mul_toNearest_le (hspan : 0 < span) (stamp : Int) :
    2 * (toNearest stamp span).natAbs ≤ span := by
  have hpast : 0 ≤ stamp % span := Int.emod_nonneg _ (by omega)
  have hlt : stamp % span < span := Int.emod_lt_of_pos _ (by omega)
  unfold toNearest
  dsimp only
  split
  next => omega
  next => split <;> omega

lemma two_mul_sub_le (hspan : 0 < span) {r : Int} (hr : IsNearestMultiple span stamp r) :
    2 * (stamp - r).natAbs ≤ span := by
  have hhalf := two_mul_toNearest_le hspan stamp
  obtain rfl := hr.unique (isNearestMultiple_toNearest hspan stamp)
  omega

/-! ### Words -/

/-- A count in the range of signed 64-bit words. -/
def IsCount (n : Int) : Prop := -maxNanos - 1 ≤ n ∧ n ≤ maxNanos

instance : DecidablePred IsCount := fun _ => inferInstanceAs (Decidable (_ ∧ _))

/-- The outcome of a step on words; there is none if it overflows. -/
def count? (n : Int) : Option Int := if IsCount n then some n else none

/--
The distance to the nearest multiple, step by step in words. The remainder has the sign of the
instant. There is no distance if a step overflows or divides by zero.
-/
def distance? (stamp span : Int) : Option Int := do
  let past ← if span = 0 then none else count? (stamp.tmod span)
  if past = 0 then some 0
  else
    let rest ← count? past.natAbs
    let other ← count? (span - rest)
    let (ahead, behind) := if past < 0 then (rest, other) else (other, rest)
    if ahead ≤ behind then some ahead else count? (-behind)

/-- The truncated remainder is the remainder from the last multiple, less a span before 1970. -/
lemma tmod_eq (hspan : 0 < span) (stamp : Int) :
    stamp.tmod span = stamp % span ∨
      stamp.tmod span = stamp % span - span ∧ stamp % span ≠ 0 := by
  rw [Int.tmod_eq_emod]
  split
  next => exact Or.inl (by omega)
  next h =>
    rw [not_or] at h
    exact Or.inr ⟨by omega, fun h0 => h.2 (Int.dvd_of_emod_eq_zero h0)⟩

/-- No step overflows or divides by zero, and the distance is that to the nearest multiple. -/
lemma distance?_eq_some (hspan : 0 < span) (hmax : (span : Int) ≤ maxNanos) (stamp : Int) :
    distance? stamp span = some (toNearest stamp span) := by
  have hpast : 0 ≤ stamp % span := Int.emod_nonneg _ (by omega)
  have hlt : stamp % span < span := Int.emod_lt_of_pos _ (by omega)
  have hzero : (span : Int) ≠ 0 := by omega
  have hcount : ∀ n : Int, n.natAbs ≤ span → count? n = some n := by
    intro n hn
    unfold maxNanos at hmax
    exact if_pos ⟨by unfold maxNanos; omega, by unfold maxNanos; omega⟩
  have hmod := tmod_eq hspan stamp
  have hrest : (stamp.tmod span).natAbs ≤ span := by omega
  -- All steps stay within the span, and so within the words.
  simp only [distance?, if_neg hzero, hcount (stamp.tmod span) hrest,
    hcount (stamp.tmod span).natAbs (by omega), hcount (span - (stamp.tmod span).natAbs) (by omega),
    Option.bind_eq_bind, Option.bind_some]
  unfold toNearest
  rcases hmod with hmod | ⟨hmod, hne⟩
  · have habs : ((stamp % span).natAbs : Int) = stamp % span := by omega
    rw [hmod, habs, if_neg (by omega : ¬ stamp % span < 0), hcount _ (by omega)]
    dsimp only
    split
    next => rfl
    next => split <;> rfl
  · have habs : ((stamp % span - span).natAbs : Int) = span - stamp % span := by omega
    rw [hmod, habs, sub_sub_cancel, if_neg (by omega : stamp % span - span ≠ 0),
      if_pos (by omega : stamp % span - span < 0), if_neg hne, hcount _ (by omega)]
    dsimp only
    split <;> rfl

/-! ### Instants -/

lemma seconds_eq (ht : t.nanos < Span.perSecond) : t.seconds = t.sinceEpoch / Span.perSecond := by
  unfold sinceEpoch Span.perSecond at *
  omega

lemma sinceEpoch_add (ht : t.nanos < Span.perSecond) (delta : Int) :
    (t.add delta).sinceEpoch = t.sinceEpoch + delta ∧ (t.add delta).nanos < Span.perSecond := by
  have hdelta := Int.mul_tdiv_add_tmod delta Span.perSecond
  unfold add
  rw [if_pos ht]
  unfold sinceEpoch Span.perSecond at *
  dsimp only
  generalize delta.tdiv _ = secs at *
  generalize delta.tmod _ = frac at *
  omega

/-- An instant and a span that can be rounded: all counts are in range, and the span is not
empty. -/
structure CanRound (t : Timestamp) (d : Span) : Prop where
  pos : 0 < d.nanos
  le : (d.nanos : Int) ≤ maxNanos
  stamp : IsCount t.sinceEpoch

lemma canRound_iff : t.CanRound d ↔ (0 < d.nanos && (d.nanos : Int) ≤ maxNanos &&
    -maxNanos - 1 ≤ t.sinceEpoch && t.sinceEpoch ≤ maxNanos) = true := by
  simp only [Bool.and_eq_true, decide_eq_true_eq]
  exact ⟨fun ⟨hpos, hle, hstamp⟩ => ⟨⟨⟨hpos, hle⟩, hstamp.1⟩, hstamp.2⟩,
    fun ⟨⟨⟨hpos, hle⟩, hmin⟩, hmax⟩ => ⟨hpos, hle, hmin, hmax⟩⟩

instance : Decidable (t.CanRound d) := decidable_of_iff' _ canRound_iff

lemma roundTo?_of_canRound (h : t.CanRound d) :
    t.roundTo? d = some (t.add (toNearest t.sinceEpoch d.nanos)) :=
  if_pos (canRound_iff.mp h)

lemma roundTo?_of_not_canRound (h : ¬ t.CanRound d) : t.roundTo? d = none :=
  if_neg (mt canRound_iff.mpr h)

/-- A rounded instant can be held: it is no farther from 1970 than twice the range of counts. -/
lemma CanRound.bounds (h : t.CanRound d) (ht : t.nanos < Span.perSecond) :
    minSeconds ≤ (t.add (toNearest t.sinceEpoch d.nanos)).seconds ∧
      (t.add (toNearest t.sinceEpoch d.nanos)).seconds ≤ maxSeconds := by
  obtain ⟨hsum, hnanos⟩ := sinceEpoch_add ht (toNearest t.sinceEpoch d.nanos)
  have hhalf := two_mul_toNearest_le h.pos t.sinceEpoch
  obtain ⟨-, hle, hmin, hmax⟩ := h
  rw [seconds_eq hnanos, hsum]
  unfold maxNanos at hle hmin hmax
  unfold minSeconds maxSeconds Span.perSecond
  omega

end Timestamp

end MetricAgent.Time
