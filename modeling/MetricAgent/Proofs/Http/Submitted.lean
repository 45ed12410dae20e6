import MetricAgent.Http.Payload
import MetricAgent.Listen.Address
import MetricAgent.Proofs.Submission.Accepted

/-!
What becomes of a submitted line in a delivery request: one entry, which says what the line says,
wherever its measurement stands in the batch.
-/

namespace MetricAgent.Http

open Decimal Submission Text Time

variable {o : PayloadOptions} {m : Measurement} {e : Entry}

/-! ### One measurement of a batch -/

/-- The entries of the reports of a batch on its own size, if it makes them. -/
def sizeEntries (o : PayloadOptions) (now : Timestamp) (gauges counters : Nat) : List Entry :=
  if o.reportSize then
    [sizeReport now "gauges" gauges, sizeReport now "counters" counters].filterMap
      (Entry.ofMeasurement? o)
  else []

lemma gauges_ofBatch (o : PayloadOptions) (now : Timestamp) (ms : List Measurement) :
    (Payload.ofBatch o now ms).gauges =
      entries o (· ≠ .counter) ms ++
        sizeEntries o now (entries o (· ≠ .counter) ms).length
          (entries o (· = .counter) ms).length := by
  unfold Payload.ofBatch sizeEntries
  cases o.reportSize <;> rfl

lemma entries_append_cons (pick : Kind → Bool) (before after : List Measurement)
    (he : Entry.ofMeasurement? o m = some e) :
    entries o pick (before ++ m :: after) =
      entries o pick before ++ (if pick m.reading.kind then [e] else []) ++
        entries o pick after := by
  unfold entries
  rw [List.filter_append, List.filterMap_append, List.append_assoc]
  cases hp : pick m.reading.kind with
  | false => simp [hp]
  | true => simp [hp, he]

/-! ### A submitted value -/

/-- A value is that of a field: of digits, or of a literal of a finite double. -/
def EntryValue.Reads (s : List Char) : EntryValue → Prop
  | whole n => isNumeral s = true ∧ n.toNat = ofDigits s
  | real x =>
    ¬ (isNumeral s = true ∧ ofDigits s < wordBound) ∧ double? s = some x ∧ x.isFinite = true

lemma exists_entryValue {value : List Char} {kind : Option (List Char)} {raw : RawValue}
    {r : Reading} (hv : value? value = some raw) (hr : reading value raw kind = .ok r) :
    ∃ v, EntryValue.ofReading? r = some v ∧ v.Reads value := by
  cases raw with
  | whole n =>
    have hreads : (EntryValue.whole n).Reads value := word?_eq_some.mp (value_eq_some.mp hv)
    refine ⟨.whole n, ?_, hreads⟩
    rcases reading_whole hr with rfl | rfl <;> rfl
  | real x =>
    obtain ⟨hword, hx, hfinite⟩ := value_eq_some.mp hv
    have hreads : (EntryValue.real x).Reads value := by
      refine ⟨fun ⟨hs, hlt⟩ => ?_, hx, hfinite⟩
      simp [word?, hs, hlt] at hword
    refine ⟨.real x, ?_, hreads⟩
    obtain rfl := reading_real hr
    rw [EntryValue.ofReading?, if_pos hfinite]

/-! ### A submitted line -/

/-- An entry says what the fields of a submitted line say. -/
structure Entry.Tells (o : PayloadOptions) (f : Fields) (e : Entry) : Prop where
  name : e.name = normalizeName
    (((o.namePrefix.filter (!·.isEmpty)).elim "" (· ++ ".")) ++ Listen.collectorName ++ "." ++
      String.ofList f.name)
  value : e.value.Reads f.value
  /-- Digits count seconds. -/
  seconds : isNumeral f.time = true → e.measureTime = ofDigits f.time
  /-- All else is a date with time of day and offset. -/
  date : isNumeral f.time = false →
    ∃ t, Timestamp.ofText? f.time = some t ∧ e.measureTime = t.seconds
  source : e.source = o.source
  noUnit : f.unit = none → e.unit = none
  /-- The comma that divides the two parts is the only one. -/
  unit : ∀ s, f.unit = some s →
    ∃ u, e.unit = some u ∧ s = unitField u ∧ u.name ≠ "" ∧ ',' ∉ u.name.toList ∧
      ',' ∉ u.abbreviation.toList

lemma exists_entry {f : Fields} (h : Says Listen.collectorName f m) (hr : o.round = none) :
    ∃ e, Entry.ofMeasurement? o m = some e ∧ e.Tells o f := by
  obtain ⟨raw, hv, hreading⟩ := h.reading
  obtain ⟨v, hvalue, hreads⟩ := exists_entryValue hv hreading
  have htime := timestamp_eq_some h.time
  have hsecond : roundedSecond m.time o.round = m.time.seconds := by
    rw [hr]
    rfl
  refine ⟨_, by rw [Entry.ofMeasurement?, hvalue, Option.map_some], ?_⟩
  refine ⟨h.name o.namePrefix, hreads, ?_, ?_, rfl, ?_, ?_⟩
  · intro hs
    rw [if_pos hs] at htime
    rw [hsecond, htime]
  · intro hs
    rw [if_neg (by simp [hs])] at htime
    exact ⟨m.time, htime, hsecond⟩
  · intro hu
    have hunit := h.unit
    rw [hu] at hunit
    obtain hunit : UnitOfMeasure.none = m.unit := Except.ok.inj hunit
    simp [← hunit, UnitOfMeasure.isEmpty, UnitOfMeasure.none]
  · intro s hu
    have hunit := h.unit
    rw [hu, unit_some_eq_ok] at hunit
    obtain ⟨hs, hname, habbreviation⟩ := unit?_eq_some hunit
    have hne : m.unit.name ≠ "" := by
      intro h0
      exact ne_nil_of_isUnitPart hname (by rw [h0]; rfl)
    refine ⟨m.unit, by simp [UnitOfMeasure.isEmpty, hne], hs, hne,
      not_mem_comma_of_isUnitPart hname, ?_⟩
    rcases habbreviation with h0 | ha
    · simp [h0]
    · exact not_mem_comma_of_isUnitPart ha

/--
**A submitted line is delivered.** An accepted line has exactly one entry in the payload of every
batch with its measurement, at the place of the measurement among those of its kind: among the
counters or among the gauges. The entry tells all that the line says.
-/
theorem accepted_line_delivered (o : PayloadOptions) (hr : o.round = none) (line : List Char)
    (m : Measurement) (h : parseLine Listen.collectorName line = .ok m) :
    ∃ (f : Fields) (e : Entry), words line = f.words ∧ e.Tells o f ∧
      ∀ (now : Timestamp) (before after : List Measurement),
        let p := Payload.ofBatch o now (before ++ m :: after)
        let counters := fun ms => entries o (· = .counter) ms
        let gauges := fun ms => entries o (· ≠ .counter) ms
        p.counters =
            counters before ++ (if m.reading.kind = .counter then [e] else []) ++
              counters after ∧
          p.gauges =
            gauges before ++ (if m.reading.kind = .counter then [] else [e]) ++ gauges after ++
              sizeEntries o now (gauges (before ++ m :: after)).length p.counters.length := by
  obtain ⟨f, hw, hf⟩ := parseLine_eq_ok_iff_says.mp h
  obtain ⟨e, he, ht⟩ := exists_entry hf hr
  refine ⟨f, e, hw, ht, fun now before after => ?_⟩
  intro p counters gauges
  have hcounters : p.counters = counters (before ++ m :: after) := rfl
  have hgauges : p.gauges = gauges (before ++ m :: after) ++
      sizeEntries o now (gauges (before ++ m :: after)).length p.counters.length :=
    gauges_ofBatch o now (before ++ m :: after)
  refine ⟨?_, ?_⟩
  · rw [hcounters]
    simpa only [decide_eq_true_eq] using entries_append_cons (· = .counter) before after he
  · rw [hgauges]
    congr 1
    have hpick := entries_append_cons (· ≠ .counter) before after he
    simpa only [decide_eq_true_eq, ne_eq, ite_not] using hpick

/-- The largest word as a gauge, under a name with an empty segment and a mark at its end. -/
def largestGauge : List Char := "1413237616 a..b- 18446744073709551615 g Bytes,b".toList

/-- It stands behind the gauge that came before it, and nothing of it is lost. -/
theorem accepted_line_delivered_largestGauge :
    let o : PayloadOptions := ⟨some "my-host", some "web-1", none, false⟩
    let load : Measurement := ⟨⟨0, 0⟩, "load", ["1m"], .gauge 3, .none⟩
    ∃ m f e, o.round = none ∧ parseLine Listen.collectorName largestGauge = .ok m ∧
      words largestGauge = f.words ∧ e.Tells o f ∧ e.measureTime = 1413237616 ∧
      (Payload.ofBatch o ⟨0, 0⟩ [load, m]).gauges = entries o (· ≠ .counter) [load] ++ [e] := by
  intro o load
  obtain ⟨m, hm, hk⟩ : ∃ m, parseLine Listen.collectorName largestGauge = .ok m ∧
      m.reading.kind = .gauge := ⟨_, rfl, rfl⟩
  obtain ⟨f, e, hw, ht, hp⟩ := accepted_line_delivered o rfl largestGauge m hm
  have htime : f.time = "1413237616".toList := (List.cons.inj hw).1.symm
  have hseconds := ht.seconds (by rw [htime]; decide)
  rw [htime] at hseconds
  obtain ⟨-, hgauges⟩ := hp ⟨0, 0⟩ [load] []
  rw [hk] at hgauges
  refine ⟨m, f, e, rfl, hm, hw, ht, hseconds, hgauges.trans ?_⟩
  simp [sizeEntries, entries, o]

end MetricAgent.Http
