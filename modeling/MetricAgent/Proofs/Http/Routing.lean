import Mathlib.Data.List.Forall2
import MetricAgent.Proofs.Http.Submitted

/-!
Where the measurements of a batch go. Each one that can be delivered has one entry, in the list of
its kind and in the order of the batch; the reports of the batch on its own size come behind them
and count them. Names, values and places depend on the prefix of names alone.
-/

namespace MetricAgent.Http

open Decimal Time

variable {o o' : PayloadOptions} {m : Measurement} {r : Reading} {pick : Kind → Bool}

/-! ### Entries of measurements -/

/-- Only a double that is not finite cannot be delivered. -/
def isDeliverable : Reading → Bool
  | .floatGauge x => x.isFinite
  | _ => true

/-- The value of an entry is that of a reading, whole or real as the reading is. -/
def EntryValue.IsOf : EntryValue → Reading → Prop
  | whole n, .counter k | whole n, .gauge k => n = k
  | real x, .floatGauge y => x = y
  | _, _ => False

/-- An entry renders a measurement. -/
structure Entry.Renders (o : PayloadOptions) (m : Measurement) (e : Entry) : Prop where
  name : e.name = m.name o.namePrefix
  value : e.value.IsOf m.reading
  measureTime : e.measureTime = roundedSecond m.time o.round
  source : e.source = o.source
  unit : e.unit = if m.unit.isEmpty then none else some m.unit

lemma exists_isOf (h : isDeliverable r = true) :
    ∃ v, EntryValue.ofReading? r = some v ∧ v.IsOf r := by
  cases r with
  | floatGauge x => exact ⟨_, if_pos h, rfl⟩
  | _ => exact ⟨_, rfl, rfl⟩

lemma ofReading?_eq_none (h : isDeliverable r = false) : EntryValue.ofReading? r = none := by
  cases r with
  | floatGauge x => exact if_neg (Bool.eq_false_iff.mp h)
  | _ => cases h

lemma exists_renders (o : PayloadOptions) (h : isDeliverable m.reading = true) :
    ∃ e, Entry.ofMeasurement? o m = some e ∧ e.Renders o m := by
  obtain ⟨v, hv, hvalue⟩ := exists_isOf h
  exact ⟨_, by rw [Entry.ofMeasurement?, hv, Option.map_some], rfl, hvalue, rfl, rfl, rfl⟩

lemma ofMeasurement?_eq_none (h : isDeliverable m.reading = false) :
    Entry.ofMeasurement? o m = none := by
  rw [Entry.ofMeasurement?, ofReading?_eq_none h, Option.map_none]

lemma forall₂_entries (o : PayloadOptions) (pick : Kind → Bool) (ms : List Measurement) :
    List.Forall₂ (Entry.Renders o)
      ((ms.filter fun m => isDeliverable m.reading).filter fun m => pick m.reading.kind)
      (entries o pick ms) := by
  induction ms with
  | nil => exact .nil
  | cons m ms ih =>
    unfold entries at ih ⊢
    cases hm : isDeliverable m.reading with
    | false =>
      -- The measurement is skipped, whether its kind is picked or not.
      rw [List.filter_cons_of_neg (by simp [hm])]
      cases hp : pick m.reading.kind with
      | false => rwa [List.filter_cons_of_neg (by simp [hp])]
      | true =>
        rwa [List.filter_cons_of_pos (by simp [hp]), List.filterMap_cons_none
          (ofMeasurement?_eq_none hm)]
    | true =>
      rw [List.filter_cons_of_pos (by simp [hm])]
      cases hp : pick m.reading.kind with
      | false =>
        rwa [List.filter_cons_of_neg (by simp [hp]), List.filter_cons_of_neg (by simp [hp])]
      | true =>
        obtain ⟨e, he, hrenders⟩ := exists_renders o hm
        rw [List.filter_cons_of_pos (by simp [hp]), List.filter_cons_of_pos (by simp [hp]),
          List.filterMap_cons_some he]
        exact .cons hrenders ih

lemma length_entries (o : PayloadOptions) (ms : List Measurement) :
    (entries o (· ≠ .counter) ms).length + (entries o (· = .counter) ms).length =
      (ms.filter fun m => isDeliverable m.reading).length := by
  have hgauges := (forall₂_entries o (· ≠ .counter) ms).length_eq
  have hcounters := (forall₂_entries o (· = .counter) ms).length_eq
  have hsplit := List.length_eq_length_filter_add (l := ms.filter fun m => isDeliverable m.reading)
    fun m => decide (m.reading.kind = .counter)
  simp only [ne_eq, decide_not] at hgauges ⊢
  omega

/-! ### Reports on the size -/

/-- An entry reports a number of entries under the name of a list. -/
structure Entry.Reports (o : PayloadOptions) (what : String) (n : Nat) (e : Entry) : Prop where
  name : e.name = normalizeName
    (((o.namePrefix.filter (!·.isEmpty)).elim "" (· ++ ".")) ++ "output.http.batch." ++ what)
  value : ∃ k, e.value = .whole k ∧ k.toNat = n

lemma exists_reports (o : PayloadOptions) (now : Timestamp) (what : String) {n : Nat}
    (hn : n < wordBound) :
    ∃ e, Entry.ofMeasurement? o (sizeReport now what n) = some e ∧ e.Reports o what n := by
  refine ⟨_, rfl, ?_, _, rfl, UInt64.toNat_ofNat_of_lt' hn⟩
  unfold Measurement.name Measurement.nameChars Measurement.nameParts normalizeName sizeReport
  dsimp only
  congr 2
  cases o.namePrefix.filter (!·.isEmpty) <;> simp [Text.join]

/-! ### Two payloads of one batch -/

/-- The name and the value of an entry. -/
def Entry.label (e : Entry) : String × EntryValue := (e.name, e.value)

lemma map_label_entries (h : o'.namePrefix = o.namePrefix) (pick : Kind → Bool)
    (ms : List Measurement) :
    (entries o' pick ms).map Entry.label = (entries o pick ms).map Entry.label := by
  have hlabel : (fun m => (Entry.ofMeasurement? o' m).map Entry.label) =
      fun m => (Entry.ofMeasurement? o m).map Entry.label := by
    funext m
    simp [Entry.ofMeasurement?, Function.comp_def, Entry.label, h]
  rw [entries, entries, List.map_filterMap, List.map_filterMap, hlabel]

lemma entries_congr (hname : o'.namePrefix = o.namePrefix) (hsource : o'.source = o.source)
    (hround : o'.round = o.round) (pick : Kind → Bool) (ms : List Measurement) :
    entries o' pick ms = entries o pick ms := by
  have hentry : Entry.ofMeasurement? o' = Entry.ofMeasurement? o := by
    funext m
    simp [Entry.ofMeasurement?, hname, hsource, hround]
  rw [entries, entries, hentry]

/--
**Nothing is lost and nothing is made up.** For a batch whose length is a word, as that of every
list in memory is: the counters of a payload render the counters among the measurements that can be
delivered, in the order of the batch, and the gauges render those of both other kinds. Behind the
gauges come two reports just if they are asked for, which tell the lengths of the two lists before
them. With other sources, spans or reports, no other entry has another name, value or place; and the
reports alone change nothing else at all.
-/
theorem routes_every_measurement (o : PayloadOptions) (now : Timestamp) (ms : List Measurement)
    (hms : ms.length < wordBound) :
    let deliverable := ms.filter fun m => isDeliverable m.reading
    let p := Payload.ofBatch o now ms
    ∃ gauges reports, p.gauges = gauges ++ reports ∧
      List.Forall₂ (Entry.Renders o) (deliverable.filter (·.reading.kind = .counter)) p.counters ∧
      List.Forall₂ (Entry.Renders o) (deliverable.filter (·.reading.kind ≠ .counter)) gauges ∧
      (∃ first second, reports = (if o.reportSize then [first, second] else []) ∧
        first.Reports o "gauges" gauges.length ∧ second.Reports o "counters" p.counters.length) ∧
      p.length = deliverable.length + (if o.reportSize then 2 else 0) ∧
      ∀ (o' : PayloadOptions) (now' : Timestamp), o'.namePrefix = o.namePrefix →
        let q := Payload.ofBatch o' now' ms
        q.counters.map Entry.label = p.counters.map Entry.label ∧
          (q.gauges.take gauges.length).map Entry.label = gauges.map Entry.label ∧
          (o'.source = o.source → o'.round = o.round →
            q.counters = p.counters ∧ q.gauges.take gauges.length = gauges) := by
  intro deliverable p
  obtain ⟨gauges, hg⟩ : ∃ gauges, gauges = entries o (· ≠ .counter) ms := ⟨_, rfl⟩
  have hgauges : p.gauges = gauges ++ sizeEntries o now gauges.length p.counters.length := by
    rw [hg]
    exact gauges_ofBatch o now ms
  have hlength : gauges.length + p.counters.length = deliverable.length := by
    rw [hg]
    exact length_entries o ms
  have hle : deliverable.length ≤ ms.length := List.length_filter_le _ _
  obtain ⟨first, hfirst, hfirstReports⟩ :=
    exists_reports o now "gauges" (n := gauges.length) (by omega)
  obtain ⟨second, hsecond, hsecondReports⟩ :=
    exists_reports o now "counters" (n := p.counters.length) (by omega)
  have hreports : sizeEntries o now gauges.length p.counters.length =
      if o.reportSize then [first, second] else [] := by
    simp [sizeEntries, hfirst, hsecond]
  refine ⟨gauges, _, hgauges, forall₂_entries o (· = .counter) ms, ?_,
    ⟨first, second, hreports, hfirstReports, hsecondReports⟩, ?_, fun o' now' hname => ?_⟩
  · rw [hg]
    exact forall₂_entries o (· ≠ .counter) ms
  · rw [Payload.length, hgauges, hreports, List.length_append, ← hlength]
    split
    · rw [List.length_cons, List.length_singleton]
      omega
    · rw [List.length_nil]
      omega
  · intro q
    have hq : q.gauges.take gauges.length = entries o' (· ≠ .counter) ms := by
      have hsame := congrArg List.length (map_label_entries hname (· ≠ .counter) ms)
      rw [List.length_map, List.length_map, ← hg] at hsame
      rw [gauges_ofBatch, ← hsame, List.take_left]
    rw [hq, hg]
    exact ⟨map_label_entries hname (· = .counter) ms, map_label_entries hname (· ≠ .counter) ms,
      fun hsource hround => ⟨entries_congr hname hsource hround (· = .counter) ms,
        entries_congr hname hsource hround (· ≠ .counter) ms⟩⟩

/-- Two counters and two gauges, and a reading that is not a number between them. -/
def mixedBatch : List Measurement :=
  [⟨⟨1413237616, 0⟩, "listen", ["hits"], .counter 10, .requests⟩,
    ⟨⟨1413237616, 0⟩, "load", ["1m"], .floatGauge (.nan false), .none⟩,
    ⟨⟨1413237616, 0⟩, "self", ["queue", "length"], .gauge 3, .metrics⟩,
    ⟨⟨1413237617, 0⟩, "load", ["5m"], .floatGauge ⟨0x3FE0000000000000⟩, .none⟩,
    ⟨⟨1413237617, 0⟩, "listen", ["misses"], .counter 2, .none⟩]

/-- The reading that is not a number is counted nowhere. -/
theorem routes_every_measurement_mixedBatch :
    let o : PayloadOptions := ⟨some "web", some "web-1", some (Span.ofSeconds 10), true⟩
    let p := Payload.ofBatch o ⟨0, 0⟩ mixedBatch
    mixedBatch.length < wordBound ∧ p.length = 6 ∧
      (∃ gauges first second, p.gauges = gauges ++ [first, second] ∧
        first.Reports o "gauges" 2 ∧ second.Reports o "counters" 2) ∧
      (Payload.ofBatch { o with reportSize := false } ⟨0, 0⟩ mixedBatch).counters = p.counters := by
  intro o p
  have hms : mixedBatch.length < wordBound := by decide
  obtain ⟨gauges, reports, hgauges, hcounters, hrest, ⟨first, second, hreports, hfirst, hsecond⟩,
    hlength, hsame⟩ := routes_every_measurement o ⟨0, 0⟩ mixedBatch hms
  rw [← hrest.length_eq] at hfirst
  rw [← hcounters.length_eq] at hsecond
  refine ⟨hms, hlength, ⟨gauges, first, second, ?_, hfirst, hsecond⟩, ?_⟩
  · rw [hgauges, hreports, if_pos rfl]
  · exact ((hsame { o with reportSize := false } ⟨0, 0⟩ rfl).2.2 rfl rfl).1

end MetricAgent.Http
