import MetricAgent.Proofs.Decimal.Digits
import MetricAgent.Proofs.Text.Fields
import MetricAgent.Proofs.Time.Calendar
import MetricAgent.Time.Timestamp

/-!
The grammar of stamps in the Internet date format of RFC 3339. A text without spaces is read as an
instant exactly if the grammar gives it, and the instant is the one at which a clock with the offset
of the stamp shows its date and its time of day. An instant in the years 0 to 9999 reads back from
its text, but for the fraction of its second.
-/

namespace MetricAgent.Time.Timestamp

open Decimal Text

variable {n : Nat} {s r : List Char} {t : Timestamp}

/-! ### Grammar -/

/-- Digits of a fixed number. -/
def IsField (width : Nat) (s : List Char) : Prop := s.length = width ∧ ∀ c ∈ s, c.isDigit = true

/-- A fraction of a second: nothing, or a point and digits. -/
inductive IsFraction : List Char → Prop where
  | none : IsFraction []
  | places (ds : List Char) (numeral : isNumeral ds = true) : IsFraction ('.' :: ds)

/-- A distance from universal time: a letter for none, or a sign, hours and minutes. -/
inductive IsZone : List Char → Prop where
  | universal (c : Char) (letter : c = 'Z' ∨ c = 'z') : IsZone [c]
  /-- A distance to the west has a hyphen or the minus sign of mathematics, U+2212. -/
  | offset (sign : Char) (hour minute : List Char)
      (isSign : sign = '+' ∨ sign = '-' ∨ sign = '\u2212') (hourField : IsField 2 hour)
      (minuteField : IsField 2 minute) (hour_le : ofDigits hour ≤ 23)
      (minute_le : ofDigits minute ≤ 59) : IsZone (sign :: (hour ++ ':' :: minute))

/-- How far the clocks of a zone are ahead of universal time, in seconds. -/
inductive IsAhead : List Char → Int → Prop where
  | universal (c : Char) (letter : c = 'Z' ∨ c = 'z') : IsAhead [c] 0
  | east (hour minute : List Char) (hourField : IsField 2 hour) (minuteField : IsField 2 minute)
      (hour_le : ofDigits hour ≤ 23) (minute_le : ofDigits minute ≤ 59) :
      IsAhead ('+' :: (hour ++ ':' :: minute)) (3600 * ofDigits hour + 60 * ofDigits minute)
  | west (sign : Char) (hour minute : List Char) (isSign : sign = '-' ∨ sign = '\u2212')
      (hourField : IsField 2 hour) (minuteField : IsField 2 minute)
      (hour_le : ofDigits hour ≤ 23) (minute_le : ofDigits minute ≤ 59) :
      IsAhead (sign :: (hour ++ ':' :: minute)) (-(3600 * ofDigits hour + 60 * ofDigits minute))

/-- The nanoseconds of a fraction of a second, however many places it has; less does not count. -/
def fractionNanos (fraction : List Char) : Nat :=
  ofDigits fraction.tail * Span.perSecond / 10 ^ fraction.tail.length

/-- A date, which the calendar has, a time of day and a distance from universal time. -/
inductive IsStamp : List Char → Prop where
  | mk (year month day : List Char) (mark : Char) (hour minute second fraction zone : List Char)
      (yearField : IsField 4 year) (monthField : IsField 2 month) (dayField : IsField 2 day)
      (date : (⟨ofDigits year, ofDigits month, ofDigits day⟩ : Date).isValid = true)
      (isMark : mark = 'T' ∨ mark = 't')
      (hourField : IsField 2 hour) (minuteField : IsField 2 minute) (secondField : IsField 2 second)
      (hour_le : ofDigits hour ≤ 23) (minute_le : ofDigits minute ≤ 59)
      (second_le : ofDigits second ≤ 60) (isFraction : IsFraction fraction) (isZone : IsZone zone) :
      IsStamp (year ++ '-' :: (month ++ '-' :: (day ++ mark ::
        (hour ++ ':' :: (minute ++ ':' :: (second ++ (fraction ++ zone)))))))

/-! ### Parts of a stamp -/

lemma twoDigits_append (hs : s.length = 2) (hd : ∀ c ∈ s, c.isDigit = true) (r : List Char) :
    twoDigits (s ++ r) = some (ofDigits s, r) := by
  obtain ⟨a, b, rfl⟩ := List.length_eq_two.mp hs
  have ha : a.isDigit = true := hd a (by simp)
  have hb : b.isDigit = true := hd b (by simp)
  simp [twoDigits, ha, hb]

lemma twoDigits_iff : twoDigits s = some (n, r) ↔
    ∃ ds, IsField 2 ds ∧ s = ds ++ r ∧ n = ofDigits ds := by
  constructor
  · intro h
    obtain ⟨a, b, rfl, ha, hb, rfl⟩ := twoDigits_eq_some h
    exact ⟨[a, b], ⟨rfl, by simp [ha, hb]⟩, rfl, rfl⟩
  · rintro ⟨ds, ⟨hlen, hdigits⟩, rfl, rfl⟩
    exact twoDigits_append hlen hdigits r

lemma IsField.append {century year : List Char} (hc : IsField 2 century) (hy : IsField 2 year) :
    IsField 4 (century ++ year) ∧
      ofDigits (century ++ year) = 100 * ofDigits century + ofDigits year := by
  refine ⟨⟨by rw [List.length_append, hc.1, hy.1], fun c h => ?_⟩, ?_⟩
  · exact (List.mem_append.mp h).elim (hc.2 c) (hy.2 c)
  · have hsum := ofDigits_append century year
    rwa [hy.1] at hsum

lemma IsField.split {year : List Char} (h : IsField 4 year) :
    IsField 2 (year.take 2) ∧ IsField 2 (year.drop 2) := by
  refine ⟨⟨?_, fun c hc => h.2 c (List.mem_of_mem_take hc)⟩,
    ⟨?_, fun c hc => h.2 c (List.mem_of_mem_drop hc)⟩⟩
  · rw [List.length_take, h.1]
    rfl
  · rw [List.length_drop, h.1]

lemma date?_iff {d : Date} : date? s = some (d, r) ↔
    ∃ year month day, IsField 4 year ∧ IsField 2 month ∧ IsField 2 day ∧
      s = year ++ '-' :: (month ++ '-' :: (day ++ r)) ∧
      d = ⟨ofDigits year, ofDigits month, ofDigits day⟩ ∧ d.isValid = true := by
  constructor
  · intro h
    simp only [date?, Option.bind_eq_bind, Option.bind_eq_some_iff, twoDigits_iff, expect_eq_some,
      Prod.exists] at h
    obtain ⟨_, _, ⟨century, hc, rfl, rfl⟩, _, _, ⟨year, hy, rfl, rfl⟩, _, rfl, _, _,
      ⟨month, hm, rfl, rfl⟩, _, rfl, _, _, ⟨day, hd, rfl, rfl⟩, h⟩ := h
    split at h
    next hvalid =>
      obtain ⟨rfl, rfl⟩ := Prod.mk.inj (Option.some.inj h)
      obtain ⟨hfield, hyear⟩ := hc.append hy
      refine ⟨century ++ year, month, day, hfield, hm, hd, by rw [List.append_assoc], ?_, hvalid⟩
      rw [hyear]
    next => cases h
  · rintro ⟨year, month, day, hy, hm, hd, rfl, rfl, hvalid⟩
    obtain ⟨hcentury, hrest⟩ := hy.split
    obtain ⟨-, hyear⟩ := hcentury.append hrest
    rw [List.take_append_drop] at hyear
    rw [hyear] at hvalid ⊢
    have htext : year ++ '-' :: (month ++ '-' :: (day ++ r)) =
        year.take 2 ++ (year.drop 2 ++ '-' :: (month ++ '-' :: (day ++ r))) := by
      rw [← List.append_assoc, List.take_append_drop]
    rw [htext]
    simp only [date?, Option.bind_eq_bind, Option.bind_some, twoDigits_append hcentury.1 hcentury.2,
      twoDigits_append hrest.1 hrest.2, twoDigits_append hm.1 hm.2, twoDigits_append hd.1 hd.2,
      expect_eq_some.mpr rfl, hvalid, if_true]

lemma separator_iff :
    separator s = some r ↔ ∃ c, (c = 'T' ∨ c = 't' ∨ c = ' ') ∧ s = c :: r := by
  cases s with
  | nil => simp [separator]
  | cons c s =>
    rw [separator, Option.ite_none_right_eq_some]
    constructor
    · rintro ⟨hc, h⟩
      exact ⟨c, by simpa [or_assoc] using hc, by rw [Option.some.inj h]⟩
    · rintro ⟨_, hc, h⟩
      obtain ⟨rfl, rfl⟩ := List.cons.inj h
      exact ⟨by simpa [or_assoc] using hc, rfl⟩

lemma clock?_append {hour minute second : List Char} (hh : IsField 2 hour) (hm : IsField 2 minute)
    (hs : IsField 2 second) (hour_le : ofDigits hour ≤ 23) (minute_le : ofDigits minute ≤ 59)
    (second_le : ofDigits second ≤ 60) (r : List Char) :
    clock? (hour ++ ':' :: (minute ++ ':' :: (second ++ r))) =
      some (3600 * ofDigits hour + 60 * ofDigits minute + min (ofDigits second) 59,
        if ofDigits second = 60 then Span.perSecond else 0, r) := by
  simp only [clock?, Option.bind_eq_bind, Option.bind_some, twoDigits_append hh.1 hh.2,
    twoDigits_append hm.1 hm.2, twoDigits_append hs.1 hs.2, expect_eq_some.mpr rfl]
  exact if_pos (by simp [hour_le, minute_le, second_le])

lemma clock?_sound {sec leap : Nat} (h : clock? s = some (sec, leap, r)) :
    ∃ hour minute second, IsField 2 hour ∧ IsField 2 minute ∧ IsField 2 second ∧
      s = hour ++ ':' :: (minute ++ ':' :: (second ++ r)) ∧
      ofDigits hour ≤ 23 ∧ ofDigits minute ≤ 59 ∧ ofDigits second ≤ 60 := by
  simp only [clock?, Option.bind_eq_bind, Option.bind_eq_some_iff, twoDigits_iff, expect_eq_some,
    Prod.exists] at h
  obtain ⟨_, _, ⟨hour, hh, rfl, rfl⟩, _, rfl, _, _, ⟨minute, hm, rfl, rfl⟩, _, rfl, _, _,
    ⟨second, hs, rfl, rfl⟩, h⟩ := h
  split at h
  next hle =>
    simp only [Bool.and_eq_true, decide_eq_true_eq] at hle
    simp only [Option.some.injEq, Prod.mk.injEq] at h
    obtain ⟨-, -, rfl⟩ := h
    exact ⟨hour, minute, second, hh, hm, hs, rfl, hle.1.1, hle.1.2, hle.2⟩
  next => cases h

lemma fraction?_sound (h : fraction? s = some (n, r)) :
    ∃ fraction, IsFraction fraction ∧ s = fraction ++ r := by
  unfold fraction? at h
  split at h
  next s =>
    dsimp only at h
    split at h
    next => cases h
    next hne =>
      obtain ⟨-, rfl⟩ := Prod.mk.inj (Option.some.inj h)
      refine ⟨'.' :: s.takeWhile Char.isDigit, .places _ (isNumeral_iff.mpr ⟨?_, ?_⟩), ?_⟩
      · simpa using hne
      · exact fun c hc => List.mem_takeWhile_imp hc
      · rw [List.cons_append, List.takeWhile_append_dropWhile]
  next =>
    obtain ⟨-, rfl⟩ := Prod.mk.inj (Option.some.inj h)
    exact ⟨[], .none, rfl⟩

/-- Places after some first ones add less than one to what these denote. -/
lemma ofDigits_take_mul {ds : List Char} (hd : ∀ c ∈ ds, c.isDigit = true) (w : Nat) :
    ofDigits (ds.take w) * 10 ^ (w - (ds.take w).length) =
      ofDigits ds * 10 ^ w / 10 ^ ds.length := by
  rcases Nat.le_total ds.length w with hle | hle
  · rw [List.take_of_length_le hle, Nat.mul_div_assoc _ (Nat.pow_dvd_pow 10 hle),
      Nat.pow_div hle (by decide)]
  · have hlast : ofDigits (ds.drop w) < 10 ^ (ds.length - w) := by
      rw [← List.length_drop]
      exact ofDigits_lt fun c hc => hd c (List.mem_of_mem_drop hc)
    have hsum := ofDigits_append (ds.take w) (ds.drop w)
    rw [List.take_append_drop, List.length_drop] at hsum
    have hpow : 10 ^ ds.length = 10 ^ (ds.length - w) * 10 ^ w := by
      rw [← Nat.pow_add, Nat.sub_add_cancel hle]
    rw [List.length_take_of_le hle, Nat.sub_self, Nat.pow_zero, Nat.mul_one, hpow,
      Nat.mul_div_mul_right _ _ (Nat.pow_pos (by decide)), hsum,
      Nat.mul_add_div (Nat.pow_pos (by decide)), Nat.div_eq_of_lt hlast, Nat.add_zero]

lemma fractionNanos_lt {fraction : List Char} (h : IsFraction fraction) :
    fractionNanos fraction < Span.perSecond := by
  cases h with
  | none => decide
  | places ds numeral =>
    refine Nat.div_lt_of_lt_mul ?_
    exact Nat.mul_lt_mul_of_pos_right (ofDigits_lt (isNumeral_iff.mp numeral).2) (by decide)

lemma fraction?_append {fraction : List Char} (h : IsFraction fraction)
    (hr : ∀ c ∈ r.head?, c.isDigit = false ∧ c ≠ '.') :
    fraction? (fraction ++ r) = some (fractionNanos fraction, r) := by
  cases h with
  | none =>
    rw [List.nil_append, fraction?.eq_def]
    split
    next r => exact absurd rfl (hr '.' rfl).2
    next => rfl
  | places ds numeral =>
    obtain ⟨hne, hdigits⟩ := isNumeral_iff.mp numeral
    have hrest : ∀ c ∈ r.head?, c.isDigit = false := fun c hc => (hr c hc).1
    simp only [List.cons_append, fraction?, takeWhile_append_rest hdigits hrest,
      dropWhile_append_rest hdigits hrest]
    rw [if_neg (by simpa using hne)]
    exact congrArg (fun n => some (n, r)) (ofDigits_take_mul hdigits 9)

lemma IsZone.head (h : IsZone s) : ∀ c ∈ s.head?, c.isDigit = false ∧ c ≠ '.' := by
  intro c hc
  cases h with
  | universal c letter =>
    obtain rfl := Option.some.inj hc
    rcases letter with rfl | rfl <;> decide
  | offset sign hour minute isSign =>
    obtain rfl := Option.some.inj hc
    rcases isSign with rfl | rfl | rfl <;> decide

/-- The factor of a distance from universal time, by its sign. -/
def factor? (c : Char) : Option Int :=
  if c = '+' then some 1 else if c = '-' || c = '\u2212' then some (-1) else none

lemma factor?_isSome {c : Char} :
    (∃ factor, factor? c = some factor) ↔ c = '+' ∨ c = '-' ∨ c = '\u2212' := by
  unfold factor?
  by_cases hplus : c = '+'
  · simp [hplus]
  · by_cases hminus : c = '-' ∨ c = '\u2212'
    · simp [hplus, hminus]
    · simp [hplus, hminus]

lemma offset?_cons (c d : Char) (s : List Char) : offset? (c :: d :: s) =
    (factor? c).bind fun factor => (twoDigits (d :: s)).bind fun (hour, s) =>
      (expect ':' s).bind fun s => (twoDigits s).bind fun (minute, s) =>
        if hour ≤ 23 && minute ≤ 59 && s.isEmpty then
          some (factor * (3600 * hour + 60 * minute : Nat))
        else none := by
  unfold offset? factor?
  dsimp only
  split
  · rfl
  · split <;> rfl

lemma offset?_signed {sign : Char} {factor : Int} {hour minute : List Char}
    (hfactor : factor? sign = some factor) (hh : IsField 2 hour) (hm : IsField 2 minute)
    (hour_le : ofDigits hour ≤ 23) (minute_le : ofDigits minute ≤ 59) :
    offset? (sign :: (hour ++ ':' :: minute)) =
      some (factor * (3600 * ofDigits hour + 60 * ofDigits minute : Nat)) := by
  have hread := twoDigits_append hm.1 hm.2 []
  rw [List.append_nil] at hread
  obtain ⟨a, b, rfl⟩ := List.length_eq_two.mp hh.1
  have htwo := twoDigits_append hh.1 hh.2 (':' :: minute)
  rw [List.cons_append] at htwo ⊢
  rw [offset?_cons, hfactor, htwo]
  simp only [Option.bind_some, expect_eq_some.mpr rfl, hread]
  exact if_pos (by simp [hour_le, minute_le])

lemma IsAhead.offset?_eq {offset : Int} (h : IsAhead s offset) : offset? s = some offset := by
  cases h with
  | universal c letter => exact if_pos (by simpa using letter)
  | east hour minute hh hm hour_le minute_le =>
    rw [offset?_signed rfl hh hm hour_le minute_le]
    simp
  | west sign hour minute isSign hh hm hour_le minute_le =>
    have hfactor : factor? sign = some (-1) := by rcases isSign with rfl | rfl <;> rfl
    rw [offset?_signed hfactor hh hm hour_le minute_le]
    simp

lemma IsAhead.minutes {offset : Int} (h : IsAhead s offset) : offset % 60 = 0 := by
  cases h <;> omega

lemma IsZone.exists_isAhead (h : IsZone s) : ∃ offset, IsAhead s offset := by
  cases h with
  | universal c letter => exact ⟨0, .universal c letter⟩
  | offset sign hour minute isSign hh hm hour_le minute_le =>
    rcases isSign with rfl | isSign
    · exact ⟨_, .east hour minute hh hm hour_le minute_le⟩
    · exact ⟨_, .west sign hour minute isSign hh hm hour_le minute_le⟩

lemma offset?_sound {offset : Int} (h : offset? s = some offset) : IsZone s := by
  match s, h with
  | [c], h =>
    rw [offset?] at h
    split at h
    next hc => exact .universal c (by simpa using hc)
    next => cases h
  | c :: d :: s, h =>
    rw [offset?_cons] at h
    simp only [Option.bind_eq_some_iff, twoDigits_iff, expect_eq_some, Prod.exists] at h
    obtain ⟨factor, hfactor, _, _, ⟨hour, hh, hs, rfl⟩, _, rfl, _, _, ⟨minute, hm, rfl, rfl⟩,
      h⟩ := h
    split at h
    next hle =>
      simp only [Bool.and_eq_true, decide_eq_true_eq, List.isEmpty_iff] at hle
      obtain ⟨⟨hhour, hminute⟩, rfl⟩ := hle
      rw [hs, List.append_nil]
      exact .offset c hour minute (factor?_isSome.mp ⟨factor, hfactor⟩) hh hm hhour hminute
    next => cases h

/-! ### Whole stamps -/

/-- The fields of a stamp, and the mark between its date and its time of day. -/
structure Parts where
  year : List Char
  month : List Char
  day : List Char
  mark : Char
  hour : List Char
  minute : List Char
  second : List Char
  fraction : List Char
  zone : List Char

namespace Parts

def text (p : Parts) : List Char :=
  p.year ++ '-' :: (p.month ++ '-' :: (p.day ++ p.mark ::
    (p.hour ++ ':' :: (p.minute ++ ':' :: (p.second ++ (p.fraction ++ p.zone))))))

def date (p : Parts) : Date := ⟨ofDigits p.year, ofDigits p.month, ofDigits p.day⟩

/-- The second of the day; a leap second is the one before it. -/
def clock (p : Parts) : Nat :=
  3600 * ofDigits p.hour + 60 * ofDigits p.minute + min (ofDigits p.second) 59

/-- The nanoseconds after the second, a thousand million more in a leap second. -/
def nanos (p : Parts) : Nat :=
  (if ofDigits p.second = 60 then Span.perSecond else 0) + fractionNanos p.fraction

/-- Parts that are read: those of a stamp, and those with a space between date and time of day. -/
structure IsSound (p : Parts) : Prop where
  year : IsField 4 p.year
  month : IsField 2 p.month
  day : IsField 2 p.day
  date : p.date.isValid = true
  mark : p.mark = 'T' ∨ p.mark = 't' ∨ p.mark = ' '
  hour : IsField 2 p.hour
  minute : IsField 2 p.minute
  second : IsField 2 p.second
  hour_le : ofDigits p.hour ≤ 23
  minute_le : ofDigits p.minute ≤ 59
  second_le : ofDigits p.second ≤ 60
  fraction : IsFraction p.fraction
  zone : IsZone p.zone

end Parts

lemma Parts.IsSound.clock_lt {p : Parts} (h : p.IsSound) : p.clock < 86400 := by
  obtain ⟨-, -, -, -, -, -, -, -, hhour, hminute, -, -, -⟩ := h
  rw [clock]
  omega

/--
At the instant of a stamp, a clock that is ahead of universal time as the zone of the stamp says
shows the date and the time of day of the stamp.
-/
theorem ofText?_parts {p : Parts} {offset : Int} (h : p.IsSound) (ahead : IsAhead p.zone offset) :
    ∃ t, ofText? p.text = some t ∧ Date.ofDays ((t.seconds + offset) / 86400) = p.date ∧
      (t.seconds + offset) % 86400 = p.clock ∧ t.nanos = p.nanos := by
  have hdate (r : List Char) := date?_iff.mpr
    ⟨p.year, p.month, p.day, h.year, h.month, h.day,
      (rfl : _ = p.year ++ '-' :: (p.month ++ '-' :: (p.day ++ r))), rfl, h.date⟩
  have hmark (r : List Char) : separator (p.mark :: r) = some r :=
    separator_iff.mpr ⟨p.mark, h.mark, rfl⟩
  have hclock := clock?_append h.hour h.minute h.second h.hour_le h.minute_le h.second_le
  have hfraction := fraction?_append h.fraction h.zone.head
  refine ⟨⟨86400 * p.date.toDays + p.clock - offset, p.nanos⟩, ?_, ?_, ?_, rfl⟩
  · simp only [ofText?, Parts.text, Option.bind_eq_bind, Option.bind_some, hdate, hmark, hclock,
      hfraction, ahead.offset?_eq]
    rfl
  · have hlt : p.clock < 86400 := h.clock_lt
    have hday : (86400 * p.date.toDays + p.clock - offset + offset) / 86400 = p.date.toDays := by
      omega
    rw [hday, Date.ofDays_toDays h.date]
  · have hlt : p.clock < 86400 := h.clock_lt
    dsimp only
    omega

/-- A leap second, at half past five in the morning by the clocks of India. -/
example : ofText? "2017-01-01T05:29:60.0000000031+05:30".toList =
    some ⟨1483228799, 1000000003⟩ := by decide

lemma exists_parts (h : ofText? s = some t) : ∃ p : Parts, p.IsSound ∧ s = p.text := by
  simp only [ofText?, Option.bind_eq_bind, Option.bind_eq_some_iff, Prod.exists] at h
  obtain ⟨d, _, hdate, _, hmark, sec, leap, _, hclock, nanos, zone, hfraction, offset, hoffset,
    -⟩ := h
  obtain ⟨year, month, day, hy, hmo, hd, rfl, rfl, hvalid⟩ := date?_iff.mp hdate
  obtain ⟨mark, isMark, rfl⟩ := separator_iff.mp hmark
  obtain ⟨hour, minute, second, hh, hmi, hse, rfl, hhour, hminute, hsecond⟩ :=
    clock?_sound hclock
  obtain ⟨fraction, isFraction, rfl⟩ := fraction?_sound hfraction
  exact ⟨⟨year, month, day, mark, hour, minute, second, fraction, zone⟩,
    ⟨hy, hmo, hd, hvalid, isMark, hh, hmi, hse, hhour, hminute, hsecond, isFraction,
      offset?_sound hoffset⟩, rfl⟩

/-- A text without spaces is read as an instant if and only if it is a stamp. -/
theorem isStamp_iff (hs : ' ' ∉ s) : IsStamp s ↔ ∃ t, ofText? s = some t := by
  constructor
  · rintro ⟨year, month, day, mark, hour, minute, second, fraction, zone, yearField, monthField,
      dayField, date, isMark, hourField, minuteField, secondField, hour_le, minute_le, second_le,
      isFraction, isZone⟩
    obtain ⟨offset, ahead⟩ := isZone.exists_isAhead
    obtain ⟨t, ht, -⟩ := ofText?_parts
      (p := ⟨year, month, day, mark, hour, minute, second, fraction, zone⟩)
      ⟨yearField, monthField, dayField, date, isMark.imp_right .inl, hourField, minuteField,
        secondField, hour_le, minute_le, second_le, isFraction, isZone⟩ ahead
    exact ⟨t, ht⟩
  · rintro ⟨t, h⟩
    obtain ⟨p, hp, rfl⟩ := exists_parts h
    -- the reader also takes a space there, which no field has
    have isMark : p.mark = 'T' ∨ p.mark = 't' := by
      rcases hp.mark with h | h | h
      · exact .inl h
      · exact .inr h
      · exact absurd (by simp [Parts.text, h]) hs
    exact .mk p.year p.month p.day p.mark p.hour p.minute p.second p.fraction p.zone hp.year
      hp.month hp.day hp.date isMark hp.hour hp.minute hp.second hp.hour_le hp.minute_le
      hp.second_le hp.fraction hp.zone

/-! ### Texts of instants -/

/-- An instant without the fraction of its second; a leap second stays one. -/
def wholeSecond (t : Timestamp) : Timestamp :=
  ⟨t.seconds, if Span.perSecond ≤ t.nanos then Span.perSecond else 0⟩

/-- Only the last second of a minute is followed by a leap second. -/
def IsClock (t : Timestamp) : Prop := Span.perSecond ≤ t.nanos → t.seconds % 60 = 59

lemma wholeSecond_wholeSecond (t : Timestamp) : t.wholeSecond.wholeSecond = t.wholeSecond := by
  unfold wholeSecond
  by_cases h : Span.perSecond ≤ t.nanos
  · simp [h]
  · have hpos : ¬ Span.perSecond ≤ 0 := by decide
    simp [h, hpos]

lemma IsClock.wholeSecond (h : t.IsClock) : t.wholeSecond.IsClock := by
  intro hle
  refine h (not_lt.mp fun hlt => ?_)
  simp only [Timestamp.wholeSecond, if_neg (not_le.mpr hlt)] at hle
  exact absurd hle (by decide)

/-- The date of an instant. -/
def date (t : Timestamp) : Date := Date.ofDays (t.seconds / 86400)

/-- An instant that was read has leap seconds only at the end of a minute. -/
lemma isClock_of_ofText? (h : ofText? s = some t) : t.IsClock := by
  obtain ⟨p, hp, rfl⟩ := exists_parts h
  obtain ⟨offset, ahead⟩ := hp.zone.exists_isAhead
  obtain ⟨t', ht', -, hclock, hnanos⟩ := ofText?_parts hp ahead
  obtain rfl : t' = t := Option.some.inj (ht'.symm.trans h)
  have hfraction := fractionNanos_lt hp.fraction
  have hminutes := ahead.minutes
  intro hle
  rw [hnanos, Parts.nanos] at hle
  rw [Parts.clock] at hclock
  split at hle <;> omega

lemma month_day_lt {d : Date} (hd : d.isValid = true) : d.month < 100 ∧ d.day < 100 := by
  obtain ⟨year, month, day⟩ := d
  simp only [Date.isValid, Bool.and_eq_true, decide_eq_true_eq] at hd
  change month < 100 ∧ day < 100
  unfold monthLength at hd
  split at hd
  · split at hd <;> omega
  all_goals omega

lemma isField_padded {w : Nat} (hw : 0 < w) (h : n < 10 ^ w) : IsField w (padded w n) :=
  ⟨length_padded hw h, fun _ => isDigit_of_mem_padded⟩

/-- One in a leap second, else nothing. -/
def leap (t : Timestamp) : Nat := if Span.perSecond ≤ t.nanos then 1 else 0

/-- The second of its day in universal time. -/
def clock (t : Timestamp) : Nat := (t.seconds % 86400).toNat

/-- What the text of an instant consists of. -/
def parts (t : Timestamp) : Parts where
  year := yearText t.date.year
  month := padded 2 t.date.month
  day := padded 2 t.date.day
  mark := 'T'
  hour := padded 2 (t.clock / 3600)
  minute := padded 2 (t.clock / 60 % 60)
  second := padded 2 (t.clock % 60 + t.leap)
  fraction := []
  zone := ['Z']

lemma text_parts (t : Timestamp) : t.parts.text = t.toText := by
  simp [Parts.text, parts, toText, date, clock, leap]

lemma leap_cases (ht : t.IsClock) :
    t.leap = 0 ∧ t.wholeSecond.nanos = 0 ∨
      t.leap = 1 ∧ t.wholeSecond.nanos = Span.perSecond ∧ t.clock % 60 = 59 := by
  rw [leap, wholeSecond, clock]
  by_cases h : Span.perSecond ≤ t.nanos
  · have := ht h
    exact .inr ⟨if_pos h, if_pos h, by omega⟩
  · exact .inl ⟨if_neg h, if_neg h⟩

lemma date_parts (h0 : 0 ≤ t.date.year) (h1 : t.date.year ≤ 9999) : t.parts.date = t.date := by
  have hyear : yearText t.date.year = padded 4 t.date.year.toNat := if_pos (by simp [h0, h1])
  rw [Parts.date, parts, hyear]
  simp only [ofDigits_padded, Int.toNat_of_nonneg h0]

lemma clock_parts (ht : t.IsClock) : t.parts.clock = t.clock := by
  have hleap := leap_cases ht
  rw [Parts.clock, parts]
  simp only [ofDigits_padded]
  omega

lemma nanos_parts (ht : t.IsClock) : t.parts.nanos = t.wholeSecond.nanos := by
  have hnone : fractionNanos [] = 0 := by decide
  have hleap := leap_cases ht
  rw [Parts.nanos, parts]
  simp only [ofDigits_padded, hnone]
  split <;> omega

lemma isSound_parts (ht : t.IsClock) (h0 : 0 ≤ t.date.year) (h1 : t.date.year ≤ 9999) :
    t.parts.IsSound := by
  have hvalid : t.date.isValid = true := Date.isValid_ofDays _
  have hyear : yearText t.date.year = padded 4 t.date.year.toNat := if_pos (by simp [h0, h1])
  have hclock : t.clock < 86400 := by
    rw [clock]
    omega
  have hsecond : t.clock % 60 + t.leap ≤ 60 := by
    have := leap_cases ht
    omega
  obtain ⟨hmonth, hday⟩ := month_day_lt hvalid
  constructor
  case year =>
    change IsField 4 (yearText t.date.year)
    rw [hyear]
    exact isField_padded (by decide) (by omega)
  case month => exact isField_padded (by decide) hmonth
  case day => exact isField_padded (by decide) hday
  case date => rwa [date_parts h0 h1]
  case mark => exact .inl rfl
  case hour => exact isField_padded (by decide) (by omega)
  case minute => exact isField_padded (by decide) (by omega)
  case second => exact isField_padded (by decide) (by omega)
  case hour_le =>
    change ofDigits (padded 2 _) ≤ 23
    rw [ofDigits_padded]
    omega
  case minute_le =>
    change ofDigits (padded 2 _) ≤ 59
    rw [ofDigits_padded]
    omega
  case second_le =>
    change ofDigits (padded 2 _) ≤ 60
    rwa [ofDigits_padded]
  case fraction => exact .none
  case zone => exact .universal 'Z' (.inl rfl)

/-- An instant reads back from its text, but for the fraction of its second. -/
theorem ofText?_toText (ht : t.IsClock) (h0 : 0 ≤ t.date.year) (h1 : t.date.year ≤ 9999) :
    ofText? t.toText = some t.wholeSecond := by
  have ahead : IsAhead t.parts.zone 0 := .universal 'Z' (.inl rfl)
  obtain ⟨t', hread, hdate, hclock, hnanos⟩ := ofText?_parts (isSound_parts ht h0 h1) ahead
  rw [Int.add_zero, date_parts h0 h1] at hdate
  rw [Int.add_zero, clock_parts ht, clock] at hclock
  have hday : t'.seconds / 86400 = t.seconds / 86400 := by
    rw [← Date.toDays_ofDays (t'.seconds / 86400), hdate, date, Date.toDays_ofDays]
  rw [← text_parts, hread, Option.some.injEq]
  have hseconds : t'.seconds = t.wholeSecond.seconds := by
    change t'.seconds = t.seconds
    omega
  cases t'
  exact congrArg₂ mk hseconds (hnanos.trans (nanos_parts ht))

end MetricAgent.Time.Timestamp
