import MetricAgent.Proofs.Output.Submitted
import MetricAgent.Proofs.Text.Fields
import MetricAgent.Proofs.Time.Stamp

/-!
Lines that are submitted again. What is written of a submitted integer, in raw mode and undecorated,
is accepted as a submission once more, and only the name grows.
-/

namespace MetricAgent.Output

open Decimal Text Time Submission

variable {m : Measurement} {s : List Char}

/-- The format of lines without prefix and source in raw mode. -/
def rawFormat (limit : Nat) : LineFormat := ⟨none, none, false, limit⟩

/-- The letter for a kind in a submission. -/
def kindLetter : Kind → Char
  | .counter => 'c'
  | .gauge | .floatGauge => 'g'

/-- The parts of a line as a submission, of some kind. -/
def Sample.submission (r : Sample) (k : Kind) : List Char :=
  r.time ++ ' ' :: (r.name ++ ' ' :: (r.value ++ ' ' :: [kindLetter k]))

/-- A measurement is written, and what its line tells is accepted as another one. -/
def Resubmits (m m' : Measurement) : Prop :=
  ∀ (limit : Nat) (h : History), ∃ r : Sample, r.IsPlain ∧ r.source = none ∧
    (line (rawFormat limit) h m).1 = some (String.ofList (r.body ++ ['\n'])) ∧
    parseLine Listen.collectorName (r.submission m.reading.kind) = .ok m'

/-! ### Measurements that can be submitted again -/

/-- A measurement whose line can be read as a submission. -/
structure CanResubmit (m : Measurement) : Prop where
  integer : m.reading.kind ≠ .floatGauge
  isClock : m.time.IsClock
  year_nonneg : 0 ≤ m.time.date.year
  year_le : m.time.date.year ≤ 9999
  isName : isMetricName (m.nameChars none) = true

/-- What is read from the line of a measurement. -/
def resubmitted (m : Measurement) : Measurement :=
  ⟨m.time.wholeSecond, Listen.collectorName, (splitOn '.' (m.nameChars none)).map String.ofList,
    m.reading, .none⟩

lemma isBlank_of_isPlain {c : Char} (h : isPlain c = true) : isBlank c = false := by
  simp only [isPlain, Bool.and_eq_true, Bool.not_eq_true'] at h
  exact h.1

lemma words_submission {r : Sample} (hr : r.IsPlain) (ht : r.time ≠ []) (hn : r.name ≠ [])
    (hv : r.value ≠ []) (k : Kind) :
    words (r.submission k) = [r.time, r.name, r.value, [kindLetter k]] := by
  have hk : isBlank (kindLetter k) = false := by cases k <;> decide
  rw [Sample.submission, words_cons ht fun c hc => isBlank_of_isPlain (hr.time c hc),
    words_cons hn fun c hc => isBlank_of_isPlain (hr.name c hc),
    words_cons hv fun c hc => isBlank_of_isPlain (hr.value c hc),
    words_of_notBlank (List.cons_ne_nil _ _) (by simpa using hk)]

lemma reading_text {r : Reading} (hr : r.kind ≠ .floatGauge) :
    ∃ raw, value? r.text = some raw ∧ reading r.text raw (some [kindLetter r.kind]) = .ok r := by
  cases r with
  | counter n => exact ⟨.whole n, by simp [value?, Reading.text, word?_digits], rfl⟩
  | gauge n => exact ⟨.whole n, by simp [value?, Reading.text, word?_digits], rfl⟩
  | floatGauge x => exact absurd rfl hr

/-- The sample of a line without prefix and source. -/
def rawSample (m : Measurement) : Sample :=
  ⟨m.time.toText, m.nameChars none, m.reading.text, none⟩

lemma CanResubmit.isPlain (h : CanResubmit m) : (rawSample m).IsPlain :=
  ⟨fun _ => isPlain_of_mem_toText, isPlain_of_isMetricName h.isName, fun _ => isPlain_of_mem_text,
    nofun⟩

lemma line_raw (m : Measurement) (limit : Nat) (h : History) :
    (line (rawFormat limit) h m).1 = some (String.ofList ((rawSample m).body ++ ['\n'])) := by
  obtain ⟨s, hs⟩ : ∃ s, (line (rawFormat limit) h m).1 = some s := ⟨_, rfl⟩
  obtain ⟨value, hv, htext⟩ := line_eq_some hs
  obtain rfl := Option.some.inj hv
  rw [hs, ← String.ofList_toList (s := s), htext]
  rfl

lemma text_ne_nil {r : Reading} (hr : r.kind ≠ .floatGauge) : r.text ≠ [] := by
  cases r with
  | counter n => exact digits_ne_nil _
  | gauge n => exact digits_ne_nil _
  | floatGauge x => exact absurd rfl hr

lemma CanResubmit.resubmits (h : CanResubmit m) : Resubmits m (resubmitted m) := by
  intro limit history
  refine ⟨rawSample m, h.isPlain, rfl, line_raw m limit history, ?_⟩
  obtain ⟨raw, hv, hr⟩ := reading_text h.integer
  refine parseLine_eq_ok_iff_says.mpr ⟨⟨m.time.toText, m.nameChars none, m.reading.text,
    some [kindLetter m.reading.kind], none, nofun⟩, ?_, ?_⟩
  · refine words_submission h.isPlain ?_ ?_ ?_ _
    · exact List.append_ne_nil_of_right_ne_nil _ (List.cons_ne_nil _ _)
    · intro hn
      have hname := h.isName
      rw [show m.nameChars none = [] from hn] at hname
      cases hname
    · exact text_ne_nil h.integer
  · refine ⟨?_, rfl, h.isName, rfl, ⟨raw, hv, hr⟩, rfl⟩
    rw [timestamp?, Timestamp.ofText?_toText h.isClock h.year_nonneg h.year_le]
    rfl

/-! ### Names -/

lemma isAlphanum_or_point_of_mem_normalize (hs : isMetricName s = true) {c : Char}
    (hc : c ∈ normalize s) : c.isAlphanum = true ∨ c = '.' := by
  obtain ⟨d, hd, rfl⟩ := List.mem_map.mp hc
  split
  next => exact Or.inr rfl
  next hmark =>
    rcases isNameChar_of_mem hs hd with hd | hd | rfl
    · exact Or.inl hd
    · exact Or.inr hd
    · exact absurd rfl hmark

lemma isMetricName_listen (hs : ∀ c ∈ s, c.isAlphanum = true ∨ c = '.') :
    isMetricName ("listen.".toList ++ s) = true := by
  have hlisten : ("isten.".toList.all fun c => c.isAlphanum || c = '.') = true := by decide
  change ('l'.isAlphanum && ("isten.".toList ++ s).all
    fun c => c.isAlphanum || c = '.' || c = '-') = true
  simp only [Bool.and_eq_true, List.all_eq_true, List.mem_append, Bool.or_eq_true,
    decide_eq_true_eq]
  refine ⟨by decide, fun c hc => Or.inl ?_⟩
  rcases hc with hc | hc
  · simpa using List.all_eq_true.mp hlisten c hc
  · exact hs c hc

lemma isClock_of_timestamp? {t : Timestamp} (h : timestamp? s = some t) : t.IsClock := by
  have ht := timestamp_eq_some h
  split at ht
  next =>
    have hzero : ¬ Span.perSecond ≤ 0 := by decide
    rw [ht]
    exact fun hle => absurd hle hzero
  next => exact Timestamp.isClock_of_ofText? ht

/--
**Lines as submissions.** Write a submitted integer of the years 0 to 9999, in raw mode and without
prefix and source, and submit what its line tells under the same kind: this is accepted, with the
same value and kind, at the same second, under the name that was written. Doing so once more puts
`listen` in front of the path and changes nothing else.
-/
theorem resubmits_twice {text : List Char} (hm : parseLine Listen.collectorName text = .ok m)
    (hi : m.reading.kind ≠ .floatGauge) (h0 : 0 ≤ m.time.date.year)
    (h1 : m.time.date.year ≤ 9999) :
    ∃ m₁, Resubmits m m₁ ∧ m₁.reading = m.reading ∧ m₁.time = m.time.wholeSecond ∧
      join '.' (m₁.path.map String.toList) = m.nameChars none ∧
      Resubmits m₁ { m₁ with path := Listen.collectorName :: m₁.path } := by
  obtain ⟨fields, -, hsays⟩ := parseLine_eq_ok_iff_says.mp hm
  obtain ⟨name, hname⟩ : ∃ name, name = m.nameChars none := ⟨_, rfl⟩
  have hlisten : name = "listen.".toList ++ normalize fields.name := by
    rw [hname, nameChars_of_path hsays.collector hsays.path]
    rfl
  have hlonger : (resubmitted m).nameChars none = "listen.".toList ++ name := by
    rw [nameChars_of_path rfl rfl, Measurement.nameChars, normalize_normalize,
      ← Measurement.nameChars, ← hname]
    rfl
  have hchars : ∀ c ∈ name, c.isAlphanum = true ∨ c = '.' := by
    have hfront : ("listen.".toList.all fun c => c.isAlphanum || c = '.') = true := by decide
    intro c hc
    rw [hlisten] at hc
    rcases List.mem_append.mp hc with hc | hc
    · simpa using List.all_eq_true.mp hfront c hc
    · exact isAlphanum_or_point_of_mem_normalize hsays.isName hc
  have hclock : m.time.IsClock := isClock_of_timestamp? hsays.time
  have hfirst : CanResubmit m := by
    refine ⟨hi, hclock, h0, h1, ?_⟩
    rw [← hname, hlisten]
    exact isMetricName_listen fun c => isAlphanum_or_point_of_mem_normalize hsays.isName
  have hsecond : CanResubmit (resubmitted m) := by
    refine ⟨hi, hclock.wholeSecond, h0, h1, ?_⟩
    rw [hlonger]
    exact isMetricName_listen hchars
  have hpath : (splitOn '.' ((resubmitted m).nameChars none)).map String.ofList =
      Listen.collectorName :: (resubmitted m).path := by
    have hpoint : '.' ∉ Listen.collectorName.toList := by decide
    have hsplit : "listen.".toList ++ name = Listen.collectorName.toList ++ '.' :: name := rfl
    rw [hlonger, hsplit, splitOn_append_cons hpoint, List.map_cons, String.ofList_toList, hname]
    rfl
  have hagain : resubmitted (resubmitted m) =
      { resubmitted m with path := Listen.collectorName :: (resubmitted m).path } := by
    rw [← hpath]
    unfold resubmitted
    rw [Timestamp.wholeSecond_wholeSecond]
  refine ⟨resubmitted m, hfirst.resubmits, rfl, rfl, ?_, hagain ▸ hsecond.resubmits⟩
  rw [resubmitted, List.map_map]
  simp [Function.comp_def, join_splitOn]

/-- A quarter of a second into the leap second at the end of 1968, local time and largest word. -/
def leapSecondLine : List Char := "1969-01-01T01:29:60.25+01:30 a-b 18446744073709551615 g".toList

/-- A leap second before 1970 stays one, without its fraction. -/
theorem resubmits_twice_leapSecond :
    ∃ m m₁, parseLine Listen.collectorName leapSecondLine = .ok m ∧
      m.time = ⟨-31536001, 1250000000⟩ ∧ Resubmits m m₁ ∧ m₁.reading = .gauge 18446744073709551615 ∧
      m₁.time = ⟨-31536001, 1000000000⟩ ∧
      Resubmits m₁ { m₁ with path := Listen.collectorName :: m₁.path } := by
  obtain ⟨m, hm, htime, hreading⟩ : ∃ m, parseLine Listen.collectorName leapSecondLine = .ok m ∧
      m.time = ⟨-31536001, 1250000000⟩ ∧ m.reading = .gauge 18446744073709551615 :=
    ⟨⟨⟨-31536001, 1250000000⟩, "listen", ["a-b"], .gauge 18446744073709551615, .none⟩,
      by decide +kernel, rfl, rfl⟩
  have hi : m.reading.kind ≠ .floatGauge := by simp [hreading, Reading.kind]
  have h0 : 0 ≤ m.time.date.year := by
    rw [htime]
    decide
  have h1 : m.time.date.year ≤ 9999 := by
    rw [htime]
    decide
  obtain ⟨m₁, hfirst, hsame, hwhole, -, hsecond⟩ := resubmits_twice hm hi h0 h1
  rw [htime] at hwhole
  exact ⟨m, m₁, hm, htime, hfirst, hsame.trans hreading, hwhole, hsecond⟩

end MetricAgent.Output
