import Mathlib.Tactic.IntervalCases
import MetricAgent.Time.Calendar

/-!
The calendar and the count of days. Every day has a date that exists, the date has the number of its
day, and no other date that exists has it. All go through a year that begins in March, and a day in
it.
-/

namespace MetricAgent.Time.Date

/-- The days from 1 March of year 0 to 1 March of another year. -/
def marchStart (y : Int) : Int := 365 * y + y / 4 - y / 100 + y / 400

/-- The date of a day in a year that begins in March, both counted from zero. -/
def ofMarch (y day : Int) : Date :=
  let mp := (5 * day + 2) / 153
  let m := if mp < 10 then mp + 3 else mp - 9
  ⟨if m ≤ 2 then y + 1 else y, m.toNat, (day - (153 * mp + 2) / 5 + 1).toNat⟩

/-- A day that a year from March has, the last one only before a leap year. -/
structure IsMarchDay (y day : Int) : Prop where
  nonneg : 0 ≤ day
  le : day ≤ 365
  leap : day = 365 → isLeapYear (y + 1) = true

/-! ### Years of an era -/

lemma isLeapYear_iff {y : Int} :
    isLeapYear y = true ↔ y % 4 = 0 ∧ (y % 100 ≠ 0 ∨ y % 400 = 0) := by
  simp [isLeapYear]

/-- The year of a day among the first 400 years, but for the last day of them. -/
lemma yearOfEra {d q k y : Int} (h0 : 0 ≤ d) (h1 : d < 146096) (hq : q = d / 1460)
    (hk : k = d / 36524) (hy : y = (d - q + k) / 365) :
    y / 100 = k ∧ 0 ≤ y ∧ y ≤ 399 ∧ 0 ≤ d - (365 * y + y / 4 - k) ∧
      d - (365 * y + y / 4 - k) ≤ 365 ∧
      (d - (365 * y + y / 4 - k) = 365 → (y + 1) % 4 = 0 ∧ (y + 1) % 100 ≠ 0) := by
  have hk3 : 0 ≤ k ∧ k ≤ 3 := by omega
  have hd : 36524 * k ≤ d ∧ d ≤ 36524 * k + 36523 := by omega
  have hd' : 1460 * q ≤ d ∧ d ≤ 1460 * q + 1459 := by omega
  clear hk hq
  have hqk : 25 * k ≤ q ∧ q ≤ 25 * k + 25 := by omega
  have hy' : 365 * y ≤ d - q + k ∧ d - q + k ≤ 365 * y + 364 := by omega
  clear hy
  have hcentury : 100 * k ≤ y ∧ y ≤ 100 * k + 99 := by omega
  obtain ⟨s, hs⟩ : ∃ s, s = y / 4 := ⟨_, rfl⟩
  have hs' : 4 * s ≤ y ∧ y ≤ 4 * s + 3 := by omega
  rw [← hs]
  -- The leap days before a day are those before its year, or one more on a leap day itself.
  have hqs : s ≤ q ∧ q ≤ s + 1 := by omega
  refine ⟨by omega, by omega, by omega, by omega, by omega, fun h => ?_⟩
  have hleap : q = s + 1 := by omega
  have hsk : s ≤ 25 * k + 24 := by omega
  have hlast : y = 4 * s + 3 := by
    have : 365 * y + 364 ≥ 1459 * s + 1459 + k := by omega
    omega
  have hne : y ≠ 100 * k + 99 := by omega
  exact ⟨by omega, by omega⟩

/-- A day is some day of a year that begins in March, the last one only before a leap year. -/
lemma ofDays_eq_ofMarch (n : Int) :
    ∃ y day, ofDays n = ofMarch y day ∧ marchStart y + day = n + epochOffset ∧
      IsMarchDay y day := by
  obtain ⟨era, hera⟩ : ∃ era, era = (n + epochOffset) / 146097 := ⟨_, rfl⟩
  obtain ⟨d, hd⟩ : ∃ d, d = (n + epochOffset) % 146097 := ⟨_, rfl⟩
  obtain ⟨y, hy⟩ : ∃ y, y = (d - d / 1460 + d / 36524 - d / 146096) / 365 := ⟨_, rfl⟩
  refine ⟨y + era * 400, d - (365 * y + y / 4 - y / 100), ?_, ?_⟩
  · simp only [ofDays, ofMarch, ← hera, ← hd, ← hy]
  · have hsplit : n + epochOffset = 146097 * era + d := by omega
    have hstart : marchStart (y + era * 400) = 146097 * era + marchStart y := by
      have h4 : (y + era * 400) / 4 = y / 4 + era * 100 := by omega
      have h100 : (y + era * 400) / 100 = y / 100 + era * 4 := by omega
      have h400 : (y + era * 400) / 400 = y / 400 + era := by omega
      rw [marchStart, marchStart, h4, h100, h400]
      omega
    have hrange : 0 ≤ d ∧ d ≤ 146096 := by omega
    rw [hsplit, hstart, marchStart]
    rcases hrange.2.lt_or_eq with hlt | rfl
    · obtain ⟨hc, h0, h399, hd0, hd1, hl⟩ := yearOfEra hrange.1 hlt rfl rfl rfl
      have hlast : d / 146096 = 0 := by omega
      rw [hlast, Int.sub_zero] at hy
      rw [← hy] at hc h0 h399 hd0 hd1 hl
      rw [← hc] at hd0 hd1 hl
      refine ⟨by omega, by omega, by omega, fun h => isLeapYear_iff.mpr ?_⟩
      have := hl (by omega)
      exact ⟨by omega, by omega⟩
    · obtain rfl : y = 399 := by omega
      exact ⟨by omega, by omega, by omega, fun _ => isLeapYear_iff.mpr ⟨by omega, by omega⟩⟩

/-! ### Months of a year -/

variable {y day : Int}

lemma toDays_ofMarch (h : IsMarchDay y day) :
    (ofMarch y day).toDays = marchStart y + day - epochOffset := by
  obtain ⟨h0, h1, -⟩ := h
  obtain ⟨mp, hmp⟩ : ∃ mp, mp = (5 * day + 2) / 153 := ⟨_, rfl⟩
  have hmonth : 0 ≤ mp ∧ mp ≤ 11 := by omega
  simp only [ofMarch, ← hmp, toDays, marchStart]
  have hday : ((day - (153 * mp + 2) / 5 + 1).toNat : Int) = day - (153 * mp + 2) / 5 + 1 := by omega
  -- Months are numbered from January, and January and February belong to the next year.
  by_cases hm : mp < 10
  · have hlate : ¬ mp + 3 ≤ 2 := by omega
    have hlate' : ¬ (mp + 3).toNat ≤ 2 := by omega
    have hback : (((mp + 3).toNat : Int) + 9) % 12 = mp := by omega
    simp only [if_pos hm, if_neg hlate, if_neg hlate', hback, hday]
    omega
  · have hearly : mp - 9 ≤ 2 := by omega
    have hearly' : (mp - 9).toNat ≤ 2 := by omega
    have hback : (((mp - 9).toNat : Int) + 9) % 12 = mp := by omega
    simp only [if_neg hm, if_pos hearly, if_pos hearly', hback, hday, Int.add_sub_cancel]
    omega

lemma isValid_ofMarch (h : IsMarchDay y day) : (ofMarch y day).isValid = true := by
  obtain ⟨h0, h1, hleap⟩ := h
  obtain ⟨mp, hmp⟩ : ∃ mp, mp = (5 * day + 2) / 153 := ⟨_, rfl⟩
  obtain ⟨hm0, hm11⟩ : 0 ≤ mp ∧ mp ≤ 11 := by omega
  simp only [ofMarch, ← hmp, isValid, Bool.and_eq_true, decide_eq_true_eq]
  refine ⟨by omega, ?_⟩
  rcases hm11.lt_or_eq with hlt | rfl
  · interval_cases mp <;> simp [monthLength] <;> omega
  · -- February is as long as its year lets it be.
    by_cases hy : isLeapYear (y + 1) = true
    · simp [monthLength, hy]
      omega
    · have hne : day ≠ 365 := fun h => hy (hleap h)
      simp [monthLength, hy]
      omega

/-! ### Dates of days -/

/-- The date of a day has the number of the day. -/
theorem toDays_ofDays (n : Int) : (ofDays n).toDays = n := by
  obtain ⟨y, day, heq, hsum, hday⟩ := ofDays_eq_ofMarch n
  rw [heq, toDays_ofMarch hday]
  omega

/-- The date of a day exists. -/
theorem isValid_ofDays (n : Int) : (ofDays n).isValid = true := by
  obtain ⟨y, day, heq, -, hday⟩ := ofDays_eq_ofMarch n
  rw [heq]
  exact isValid_ofMarch hday

/-! ### Days of dates -/

lemma marchStart_succ (y : Int) :
    marchStart (y + 1) = marchStart y + if isLeapYear (y + 1) then 366 else 365 := by
  simp only [marchStart, isLeapYear_iff]
  split <;> omega

lemma lt_of_marchStart_lt {y' : Int} (h : marchStart y < marchStart y') : y < y' := by
  have hmono : StrictMono marchStart := strictMono_int_of_lt_succ fun y => by
    rw [marchStart_succ]
    split <;> omega
  exact hmono.lt_iff_lt.mp h

lemma lt_marchStart_succ (h : IsMarchDay y day) : marchStart y + day < marchStart (y + 1) := by
  obtain ⟨-, h1, hleap⟩ := h
  rw [marchStart_succ]
  split
  next => omega
  next hy =>
    have hne : day ≠ 365 := fun h => hy (hleap h)
    omega

lemma eq_of_marchStart {n y' : Int} (h0 : marchStart y ≤ n) (h1 : n < marchStart (y + 1))
    (h0' : marchStart y' ≤ n) (h1' : n < marchStart (y' + 1)) : y = y' := by
  have hle := lt_of_marchStart_lt (Int.lt_of_le_of_lt h0 h1')
  have hge := lt_of_marchStart_lt (Int.lt_of_le_of_lt h0' h1)
  omega

/-- In a year from March each month but the last goes on until the next one begins. -/
lemma monthLength_cases {m : Nat} (h : monthLength y m ≠ 0) :
    1 ≤ m ∧ m ≤ 12 ∧ if m = 2 then monthLength y m = if isLeapYear y then 29 else 28 else
      (153 * ((m + 9) % 12) + 2) / 5 + monthLength y m = (153 * ((m + 9) % 12 + 1) + 2) / 5 := by
  unfold monthLength at h ⊢
  split at h
  all_goals first | exact absurd rfl h | simp

lemma exists_ofMarch {d : Date} (hd : d.isValid = true) :
    ∃ y day, d = ofMarch y day ∧ IsMarchDay y day := by
  obtain ⟨year, month, date⟩ := d
  simp only [isValid, Bool.and_eq_true, decide_eq_true_eq] at hd
  obtain ⟨hm1, hm12, hlength⟩ := monthLength_cases (y := year) (m := month) (by omega)
  obtain ⟨mp, hmp⟩ : ∃ mp, mp = (month + 9) % 12 := ⟨_, rfl⟩
  have hle (h2 : month ≠ 2) : mp ≤ 10 := by omega
  obtain ⟨first, hfirst⟩ : ∃ first, first = (153 * mp + 2) / 5 := ⟨_, rfl⟩
  obtain ⟨day, hday⟩ : ∃ day, day = first + (date - 1) := ⟨_, rfl⟩
  rw [← hmp, ← hfirst] at hlength
  have hmonth : (5 * day + 2) / 153 = mp ∧ day ≤ 365 ∧
      (day = 365 → month = 2 ∧ isLeapYear year = true) := by
    split at hlength
    next h2 =>
      subst h2
      by_cases hleap : isLeapYear year = true <;> simp [hleap] at hlength ⊢ <;> omega
    next h2 =>
      have hlt := hle h2
      omega
  refine ⟨if month ≤ 2 then year - 1 else year, day, ?_, ⟨by omega, by omega, fun h365 => ?_⟩⟩
  · have hback : (5 * (day : Int) + 2) / 153 = mp := by omega
    have hstart : (153 * (mp : Int) + 2) / 5 = first := by omega
    have hnumber : (if (mp : Int) < 10 then (mp : Int) + 3 else mp - 9) = month := by
      split <;> omega
    simp only [ofMarch, hback, hstart, hnumber, mk.injEq]
    refine ⟨?_, Int.toNat_natCast month, by omega⟩
    by_cases hm : month ≤ 2
    · rw [if_pos hm, if_pos (by omega), Int.sub_add_cancel]
    · rw [if_neg hm, if_neg (by omega)]
  · obtain ⟨rfl, hleap⟩ := hmonth.2.2 (by omega)
    simpa using hleap

theorem ofDays_toDays {d : Date} (hd : d.isValid = true) : ofDays d.toDays = d := by
  obtain ⟨y, day, heq, hday⟩ := exists_ofMarch hd
  obtain ⟨y', day', heq', hsum, hday'⟩ := ofDays_eq_ofMarch d.toDays
  have hdays : d.toDays = marchStart y + day - epochOffset := by rw [heq, toDays_ofMarch hday]
  have hlt := lt_marchStart_succ hday
  have hlt' := lt_marchStart_succ hday'
  have h0 := hday.nonneg
  have h0' := hday'.nonneg
  obtain rfl : y = y' :=
    eq_of_marchStart (n := marchStart y + day) (by omega) hlt (by omega) (by omega)
  rw [heq', heq]
  congr 1
  omega

end MetricAgent.Time.Date
