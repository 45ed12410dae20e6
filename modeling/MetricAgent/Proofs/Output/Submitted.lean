import MetricAgent.Collector.Selection
import MetricAgent.Collector.Tick
import MetricAgent.Http.Payload
import MetricAgent.Listen.Line
import MetricAgent.Proofs.Output.Sample
import MetricAgent.Proofs.Submission.Accepted

/-!
Lines of submitted measurements. Whoever submits a metric chooses its name, value and time; what
stands in the line is nevertheless one sample, and never under a name of the agent itself.
-/

namespace MetricAgent.Output

open Decimal Text Time Submission

variable {c : Char} {m : Measurement} {p : Option String}

/-! ### Names -/

/-- What stands in front of the collector in every name: a prefix that is not empty, and a point. -/
def leadText (p : Option String) : List Char :=
  (p.filter (!·.isEmpty)).elim [] fun p => normalize p.toList ++ ['.']

lemma normalize_cons (c : Char) (s : List Char) :
    normalize (c :: s) = (if isNameMark c then '.' else c) :: normalize s := rfl

lemma nameChars_eq (m : Measurement) (p : Option String) :
    m.nameChars p =
      leadText p ++ normalize (join '.' ((m.collector :: m.path).map String.toList)) := by
  unfold Measurement.nameChars Measurement.nameParts leadText
  cases p.filter (!·.isEmpty) with
  | none => rfl
  | some p =>
    have hpoint : isNameMark '.' = false := by decide
    simp only [Option.toList_some, Option.elim_some, List.singleton_append, List.map_cons]
    rw [join_cons _ _ (List.cons_ne_nil _ _), normalize_append, normalize_cons, hpoint]
    simp

lemma collector_starts_name (m : Measurement) :
    m.collector.toList <+: join '.' ((m.collector :: m.path).map String.toList) := by
  cases hp : m.path with
  | nil => exact List.prefix_refl _
  | cons q ps => exact List.prefix_append _ _

/-- All that the agent reports about itself and its host. -/
inductive OwnReport : Measurement → Prop where
  | ticks (time : Timestamp) (name : String) (n : UInt64) :
      OwnReport (Collector.tickCount time name n)
  | duration (time : Timestamp) (name : String) (d : Span) :
      OwnReport (Collector.tickDuration time name d)
  | load (n : Nat) (time : Timestamp) (around : Collector.Surroundings) (q : Queue Measurement)
      (m : Measurement) (h : m ∈ (Collector.loadCollector.poll n time around q).readings) :
      OwnReport m
  | self (n : Nat) (time : Timestamp) (around : Collector.Surroundings) (q : Queue Measurement)
      (m : Measurement) (h : m ∈ (Collector.selfCollector.poll n time around q).readings) :
      OwnReport m
  | size (now : Timestamp) (what : String) (n : Nat) : OwnReport (Http.sizeReport now what n)

/-- The collectors that the agent reports under. -/
def ownCollectors : List String := ["scheduler", "load", "self", "output"]

lemma OwnReport.collector_mem (h : OwnReport m) : m.collector ∈ ownCollectors := by
  cases h with
  | ticks => exact List.mem_cons_self
  | duration => exact List.mem_cons_self
  | size => simp [ownCollectors, Http.sizeReport]
  | load n time around q m h =>
    obtain ⟨l, hl⟩ : ∃ l : Collector.LoadAverage, m ∈ l.measurements time := by
      change m ∈ Collector.LoadAverage.poll around.load time at h
      unfold Collector.LoadAverage.poll at h
      cases hl : around.load.bind Collector.LoadAverage.ofText? with
      | none => simp [hl] at h
      | some l => exact ⟨l, by simpa [hl] using h⟩
    simp only [Collector.LoadAverage.measurements, List.mem_cons, List.not_mem_nil, or_false] at hl
    rcases hl with rfl | rfl | rfl | rfl | rfl | rfl <;>
      simp [ownCollectors, Collector.LoadAverage.collectorName]
  | self n time around q m h =>
    change m ∈ Collector.SelfReport.measurements q around.uptime time at h
    simp only [Collector.SelfReport.measurements, List.mem_cons, List.not_mem_nil, or_false] at h
    rcases h with rfl | rfl | rfl <;> simp [ownCollectors, Collector.SelfReport.collectorName]

/-- No report of the agent's own stands under the listener. -/
lemma OwnReport.nameChars_ne (h : OwnReport m) (rest : List Char) :
    m.nameChars p ≠ leadText p ++ ("listen.".toList ++ rest) := by
  have hapart : ∀ c ∈ ownCollectors, ¬ normalize c.toList <+: "listen.".toList ∧
      ¬ "listen.".toList <+: normalize c.toList := by decide
  obtain ⟨hshort, hlong⟩ := hapart _ h.collector_mem
  intro he
  rw [nameChars_eq, List.append_cancel_left_eq] at he
  have hown : normalize m.collector.toList <+: "listen.".toList ++ rest := by
    rw [← he]
    exact (collector_starts_name m).map _
  rcases List.prefix_or_prefix_of_prefix hown (List.prefix_append _ rest) with h | h
  · exact hshort h
  · exact hlong h

/-! ### The parts of a submitted line -/

lemma isNameChar_of_mem {s : List Char} (h : isMetricName s = true) (hc : c ∈ s) :
    c.isAlphanum = true ∨ c = '.' ∨ c = '-' := by
  cases s with
  | nil => cases hc
  | cons d s =>
    simp only [isMetricName, Bool.and_eq_true, List.all_eq_true, Bool.or_eq_true,
      decide_eq_true_eq, or_assoc] at h
    rcases List.mem_cons.mp hc with rfl | hc
    · exact Or.inl h.1
    · exact h.2 c hc

lemma isPlain_normalize {s : List Char} (h : ∀ c ∈ s, isPlain c = true) :
    ∀ c ∈ normalize s, isPlain c = true := by
  intro c hc
  obtain ⟨d, hd, rfl⟩ := List.mem_map.mp hc
  split
  · rfl
  · exact h d hd

lemma isPlain_leadText (h : ∀ s ∈ p, ∀ c ∈ s.toList, isPlain c = true) :
    ∀ c ∈ leadText p, isPlain c = true := by
  intro c hc
  unfold leadText at hc
  cases hp : p.filter (!·.isEmpty) with
  | none => simp [hp] at hc
  | some s =>
    have hs : p = some s := (Option.filter_eq_some_iff.mp hp).1
    simp only [hp, Option.elim_some, List.mem_append, List.mem_singleton] at hc
    rcases hc with hc | rfl
    · exact isPlain_normalize (h s hs) c hc
    · rfl

lemma isPlain_of_isMetricName {s : List Char} (h : isMetricName s = true) :
    ∀ c ∈ s, isPlain c = true := by
  intro c hc
  rcases isNameChar_of_mem h hc with hc | rfl | rfl
  · exact isPlain_of_isAlphanum hc
  · rfl
  · rfl

lemma nameChars_of_path {name : List Char} (hc : m.collector = Listen.collectorName)
    (hp : m.path = (splitOn '.' name).map String.ofList) :
    m.nameChars p = leadText p ++ ("listen.".toList ++ normalize name) := by
  have hpath : m.path.map String.toList = splitOn '.' name := by
    rw [hp, List.map_map]
    simp [Function.comp_def]
  have hlisten : normalize (Listen.collectorName.toList ++ ['.']) = "listen.".toList := by decide
  rw [nameChars_eq, hc, List.map_cons, hpath, join_cons _ _ (splitOn_ne_nil _ _), join_splitOn,
    ← hlisten, ← normalize_append]
  simp

lemma isPlain_name {s : List Char} (hp : ∀ s ∈ p, ∀ c ∈ s.toList, isPlain c = true)
    (hs : isMetricName s = true) :
    ∀ c ∈ leadText p ++ ("listen.".toList ++ normalize s), isPlain c = true := by
  have hlisten : "listen.".toList.all isPlain = true := by decide
  intro c hc
  rcases List.mem_append.mp hc with hc | hc
  · exact isPlain_leadText hp c hc
  · rcases List.mem_append.mp hc with hc | hc
    · exact List.all_eq_true.mp hlisten c hc
    · exact isPlain_normalize (isPlain_of_isMetricName hs) c hc

lemma isPlain_of_valueText {f : LineFormat} {h : History} {s : List Char}
    (hs : (valueText f h m).1 = some s) : ∀ c ∈ s, isPlain c = true := by
  unfold valueText at hs
  split at hs
  next =>
    obtain ⟨n, -, rfl⟩ := Option.map_eq_some_iff.mp hs
    exact fun c => isPlain_of_mem_digits
  next =>
    obtain rfl := Option.some.inj hs
    exact fun c => isPlain_of_mem_text

lemma line_eq_some {f : LineFormat} {h : History} {s : String} (hs : (line f h m).1 = some s) :
    ∃ value, (valueText f h m).1 = some value ∧
      s.toList = Sample.body ⟨m.time.toText, m.nameChars f.namePrefix, value,
        f.source.map String.toList⟩ ++ ['\n'] := by
  obtain ⟨value, hv, rfl⟩ := Option.map_eq_some_iff.mp hs
  refine ⟨value, hv, ?_⟩
  delta lineText
  rw [String.toList_ofList]
  cases f.source <;> simp [Sample.body]

/--
**No forged line.** If a submitted measurement is written, in whatever mode and after whatever
readings, then its line is that of one plain sample and of no other, and it ends with its only line
feed. The sample has the source of the format; its name has no mark left in it and stands under the
listener, behind the prefix if there is one, where no report of the agent's own ever stands.
-/
theorem line_of_submission {text : List Char} (hm : parseLine Listen.collectorName text = .ok m)
    (f : LineFormat) (hp : ∀ p ∈ f.namePrefix, ∀ c ∈ p.toList, isPlain c = true)
    (hs : ∀ s ∈ f.source, ∀ c ∈ s.toList, isPlain c = true) (h : History) {s : String}
    (hl : (line f h m).1 = some s) :
    ∃ r : Sample, r.IsPlain ∧ s.toList = r.body ++ ['\n'] ∧ '\n' ∉ r.body ∧
      (∀ r' : Sample, r'.IsPlain → s.toList = r'.body ++ ['\n'] → r' = r) ∧
      r.time = m.time.toText ∧ r.name = m.nameChars f.namePrefix ∧
      r.source = f.source.map String.toList ∧
      (∃ rest, r.name = leadText f.namePrefix ++ ("listen.".toList ++ rest)) ∧
      (∀ c ∈ r.name, isNameMark c = false) ∧
      ∀ own, OwnReport own → own.nameChars f.namePrefix ≠ r.name := by
  obtain ⟨fields, -, hsays⟩ := parseLine_eq_ok_iff_says.mp hm
  obtain ⟨value, hv, htext⟩ := line_eq_some hl
  have hname := nameChars_of_path (p := f.namePrefix) hsays.collector hsays.path
  have hplain : Sample.IsPlain ⟨m.time.toText, m.nameChars f.namePrefix, value,
      f.source.map String.toList⟩ := by
    refine ⟨fun c => isPlain_of_mem_toText, ?_, isPlain_of_valueText hv, ?_⟩
    · rw [hname]
      exact isPlain_name hp hsays.isName
    · intro s' hs'
      obtain ⟨source, hsource, rfl⟩ := Option.map_eq_some_iff.mp hs'
      exact hs source hsource
  refine ⟨_, hplain, htext, hplain.newline_notMem_body, ?_, rfl, rfl, rfl, ⟨_, hname⟩, ?_, ?_⟩
  · intro r' hr' ht
    refine hr'.eq_of_body_eq hplain ?_
    exact List.append_cancel_right (ht.symm.trans htext)
  · exact fun c => isNameMark_of_mem_normalize
  · intro own ho
    rw [hname]
    exact ho.nameChars_ne _

/-- The format of a line with a prefix and a source. -/
def decorated : LineFormat := ⟨some "my_host", some "web-1", true, 1⟩

/-- A line with a prefix, a source and a year of five digits. -/
theorem line_of_submission_fiveDigitYear :
    ∃ m, parseLine Listen.collectorName "253402300800 a-b.c 7 g".toList = .ok m ∧
      (line decorated [] m).1 =
        some "when=+10000-01-01T00:00:00Z sample#my.host.listen.a.b.c=7 source=web-1\n" ∧
      ∃ r : Sample, r.IsPlain ∧ r.name = m.nameChars decorated.namePrefix ∧
        ∀ own, OwnReport own → own.nameChars decorated.namePrefix ≠ r.name := by
  obtain ⟨m, hm, hl⟩ : ∃ m,
      parseLine Listen.collectorName "253402300800 a-b.c 7 g".toList = .ok m ∧
        (line decorated [] m).1 =
          some "when=+10000-01-01T00:00:00Z sample#my.host.listen.a.b.c=7 source=web-1\n" :=
    ⟨⟨⟨253402300800, 0⟩, "listen", ["a-b", "c"], .gauge 7, .none⟩, by decide +kernel,
      by decide +kernel⟩
  have hplain : "my_host".toList.all isPlain = true ∧ "web-1".toList.all isPlain = true := by decide
  have hp : ∀ p ∈ decorated.namePrefix, ∀ c ∈ p.toList, isPlain c = true := by
    rintro p ⟨⟩
    exact List.all_eq_true.mp hplain.1
  have hs : ∀ s ∈ decorated.source, ∀ c ∈ s.toList, isPlain c = true := by
    rintro s ⟨⟩
    exact List.all_eq_true.mp hplain.2
  obtain ⟨r, hr, -, -, -, -, hname, -, -, -, hown⟩ :=
    line_of_submission hm decorated hp hs [] hl
  exact ⟨m, hm, hl, r, hr, hname, hown⟩

end MetricAgent.Output
