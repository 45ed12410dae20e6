import MetricAgent.Proofs.Decimal.Literal
import MetricAgent.Proofs.Submission.Accepted
import MetricAgent.Proofs.Text.Fields
import MetricAgent.Proofs.Time.Stamp

/-!
The grammar of submitted lines. A line is accepted exactly if its fields meet some conditions, and
refused for the first of them that fails; nothing but the fields matters.
-/

namespace MetricAgent.Submission

open Decimal Text Time

/-! ### Grammar -/

/-- Digits of a number of 64 bits. -/
def IsWord (s : List Char) : Prop := isNumeral s = true ∧ ofDigits s < 2 ^ 64

/-- A stamp, or digits of a second that an instant can have. -/
def IsTime (s : List Char) : Prop :=
  Timestamp.IsStamp s ∨ isNumeral s = true ∧ ofDigits s ≤ 8210266876799

/-- A letter or a digit, and then letters, digits, points and hyphens. -/
def IsName (s : List Char) : Prop :=
  ∃ c t, s = c :: t ∧ c.isAlphanum = true ∧ ∀ d ∈ t, d.isAlphanum = true ∨ d = '.' ∨ d = '-'

/-- A whole number, or a literal of a finite double. -/
def IsValue (s : List Char) : Prop := IsWord s ∨ IsFloat s

def IsCounterWord (s : List Char) : Prop := s = "c".toList ∨ s = "counter".toList

def IsGaugeWord (s : List Char) : Prop := s = "g".toList ∨ s = "gauge".toList

/-- Letters and the three signs that units have. -/
def IsUnitWord (s : List Char) : Prop :=
  s ≠ [] ∧ ∀ c ∈ s, c.isAlpha = true ∨ c = '$' ∨ c = '%' ∨ c = '#'

/-- One word of a unit, or two with a comma between them. -/
def IsUnit (s : List Char) : Prop :=
  IsUnitWord s ∨ ∃ a b, s = a ++ ',' :: b ∧ IsUnitWord a ∧ IsUnitWord b

/-- What the fields of a line must meet in order, with the error if it is the first to fail. -/
def conditions (f : List (List Char)) : List (Prop × LineError) :=
  let field (i : Nat) : List Char := f[i]?.getD []
  let text (i : Nat) : String := String.ofList (field i)
  [(3 ≤ f.length ∧ f.length ≤ 5, .fieldCount f.length),
    (IsTime (field 0), .timestamp (text 0)),
    (IsName (field 1), .metricName (text 1)),
    (IsValue (field 2), .value (text 2)),
    (∀ kind ∈ f[3]?, IsCounterWord kind → IsWord (field 2), .counterValue (text 2)),
    (∀ kind ∈ f[3]?, IsCounterWord kind ∨ IsGaugeWord kind, .kind (text 3)),
    (∀ unit ∈ f[4]?, IsUnit unit, .unit (text 4))]

/-! ### Results by conditions -/

/-- A result is the error of the first condition that fails, and no error if none does. -/
def IsJudged {ε α : Type} : List (Prop × ε) → Except ε α → Prop
  | [], r => ∃ a, r = .ok a
  | (P, e) :: cs, r => (P → IsJudged cs r) ∧ (¬ P → r = .error e)

section

variable {ε α β : Type} {P : Prop} {e : ε} {cs ds : List (Prop × ε)} {r : Except ε α}

lemma IsJudged.ok_iff (h : IsJudged cs r) : (∃ a, r = .ok a) ↔ ∀ c ∈ cs, c.1 := by
  induction cs with
  | nil => exact iff_of_true h (by simp)
  | cons c cs ih =>
    obtain ⟨hmet, hfails⟩ := h
    rw [List.forall_mem_cons]
    by_cases hc : c.1
    · rw [ih (hmet hc), and_iff_right hc]
    · rw [hfails hc]
      exact iff_of_false (by simp) fun hall => hc hall.1

lemma IsJudged.error_iff (h : IsJudged cs r) :
    r = .error e ↔ ∃ pre P post, cs = pre ++ (P, e) :: post ∧ (∀ c ∈ pre, c.1) ∧ ¬ P := by
  induction cs with
  | nil =>
    obtain ⟨a, rfl⟩ := h
    simp
  | cons c cs ih =>
    obtain ⟨hmet, hfails⟩ := h
    by_cases hc : c.1
    · rw [ih (hmet hc)]
      constructor
      · rintro ⟨pre, P, post, rfl, hpre, hP⟩
        exact ⟨c :: pre, P, post, rfl, List.forall_mem_cons.mpr ⟨hc, hpre⟩, hP⟩
      · rintro ⟨_ | ⟨d, pre⟩, P, post, hcs, hpre, hP⟩
        · obtain ⟨rfl, -⟩ := List.cons.inj hcs
          exact absurd hc hP
        · obtain ⟨rfl, rfl⟩ := List.cons.inj hcs
          exact ⟨pre, P, post, rfl, (List.forall_mem_cons.mp hpre).2, hP⟩
    · rw [hfails hc, Except.error.injEq]
      constructor
      · rintro rfl
        exact ⟨[], c.1, cs, rfl, by simp, hc⟩
      · rintro ⟨_ | ⟨d, pre⟩, P, post, hcs, hpre, -⟩
        · obtain ⟨rfl, -⟩ := List.cons.inj hcs
          rfl
        · obtain ⟨rfl, -⟩ := List.cons.inj hcs
          exact absurd (hpre c List.mem_cons_self) hc

lemma IsJudged.bind {k : α → Except ε β} (h : IsJudged cs r)
    (hk : ∀ a, r = .ok a → IsJudged ds (k a)) : IsJudged (cs ++ ds) (r >>= k) := by
  induction cs with
  | nil =>
    obtain ⟨a, rfl⟩ := h
    exact hk a rfl
  | cons c cs ih =>
    refine ⟨fun hc => ih (h.1 hc), fun hc => ?_⟩
    rw [h.2 hc]
    rfl

lemma IsJudged.map {f : α → β} (h : IsJudged cs r) : IsJudged cs (r >>= fun a => .ok (f a)) := by
  have hbind : IsJudged (cs ++ []) (r >>= fun a => .ok (f a)) := h.bind fun a _ => ⟨f a, rfl⟩
  rwa [List.append_nil] at hbind

lemma IsJudged.ite {b : Bool} (hP : P ↔ b = true) (h : IsJudged cs r) :
    IsJudged ((P, e) :: cs) (if b then r else .error e) := by
  refine ⟨fun hp => ?_, fun hp => if_neg (mt hP.mpr hp)⟩
  rwa [if_pos (hP.mp hp)]

end

lemma isJudged_require {α : Type} {P : Prop} {e : LineError} {a : Option α}
    (hP : P ↔ ∃ x, a = some x) : IsJudged [(P, e)] (require e a) := by
  refine ⟨fun hp => ?_, fun hp => ?_⟩
  · obtain ⟨x, rfl⟩ := hP.mp hp
    exact ⟨x, rfl⟩
  · cases a with
    | none => rfl
    | some x => exact absurd (hP.mpr ⟨x, rfl⟩) hp

/-! ### Fields -/

variable {s value : List Char} {raw : RawValue} {r : Reading} {kind field : Option (List Char)}

lemma isWord_iff : IsWord s ↔ ∃ n, word? s = some n := by
  have hbound : wordBound = 2 ^ 64 := rfl
  unfold IsWord word?
  rw [hbound]
  by_cases h : isNumeral s = true ∧ ofDigits s < 2 ^ 64
  · simp [h]
  · have hif : (isNumeral s && decide (ofDigits s < 2 ^ 64)) = false := by
      simpa using h
    simp only [hif]
    simpa using h

lemma isSecond_iff : (isNumeral s = true ∧ ofDigits s ≤ 8210266876799) ↔
    ∃ t, ((word? s).bind fun n => Timestamp.ofSeconds? n.toNat) = some t := by
  have hmax : Timestamp.maxSeconds = 8210266876799 := rfl
  have hmin : Timestamp.minSeconds ≤ 0 := by decide
  constructor
  · rintro ⟨hs, hle⟩
    obtain ⟨n, hn⟩ := isWord_iff.mp ⟨hs, by omega⟩
    have hvalue := (word?_eq_some.mp hn).2
    rw [hn, Option.bind_some]
    exact ⟨_, if_pos (by rw [hmax]; simp; omega)⟩
  · rintro ⟨t, h⟩
    obtain ⟨n, hn, h⟩ := Option.bind_eq_some_iff.mp h
    obtain ⟨hs, hvalue⟩ := word?_eq_some.mp hn
    rw [Timestamp.ofSeconds?, Option.ite_none_right_eq_some] at h
    have hle := of_decide_eq_true (Bool.and_eq_true_iff.mp h.1).2
    rw [hmax] at hle
    exact ⟨hs, by omega⟩

lemma isTime_iff (hs : ' ' ∉ s) : IsTime s ↔ ∃ t, timestamp? s = some t := by
  unfold IsTime timestamp?
  rw [Timestamp.isStamp_iff hs, isSecond_iff, Option.orElse_eq_orElse, Option.orElse_eq_or]
  cases Timestamp.ofText? s <;> simp

lemma isName_iff : IsName s ↔ isMetricName s = true := by
  cases s with
  | nil => simp [IsName, isMetricName]
  | cons c s => simp [IsName, isMetricName, or_assoc]

lemma isValue_iff : IsValue s ↔ ∃ raw, value? s = some raw := by
  rw [IsValue, isWord_iff, isFloat_iff]
  unfold value?
  cases word? s with
  | some n => simp
  | none => simp [Option.filter_eq_some_iff]

lemma isUnitWord_iff : IsUnitWord s ↔ isUnitPart s = true := by
  simp [IsUnitWord, isUnitPart, isUnitChar, or_assoc]

lemma isUnit_iff : IsUnit s ↔ ∃ u, unit? s = some u := by
  simp only [IsUnit, isUnitWord_iff]
  constructor
  · rintro (hs | ⟨a, b, rfl, ha, hb⟩)
    · exact ⟨_, by rw [unit?, splitOn_of_notMem (not_mem_comma_of_isUnitPart hs)]; exact if_pos hs⟩
    · refine ⟨⟨String.ofList a, String.ofList b⟩, ?_⟩
      rw [unit?, splitOn_append_cons (not_mem_comma_of_isUnitPart ha),
        splitOn_of_notMem (not_mem_comma_of_isUnitPart hb)]
      exact if_pos (by rw [ha, hb]; rfl)
  · rintro ⟨u, hu⟩
    obtain ⟨rfl, hname, habbreviation⟩ := unit?_eq_some hu
    by_cases hnone : u.abbreviation = ""
    · left
      simpa [unitField, hnone] using hname
    · right
      refine ⟨u.name.toList, u.abbreviation.toList, ?_, hname, habbreviation.resolve_left hnone⟩
      simp [unitField, hnone]

/-! ### Readings and units -/

lemma isWord_of_whole {n : UInt64} (h : value? s = some (.whole n)) : IsWord s :=
  isWord_iff.mpr ⟨n, value_eq_some.mp h⟩

lemma not_isWord_of_real {x : Double} (h : value? s = some (.real x)) : ¬ IsWord s := by
  rintro hs
  obtain ⟨n, hn⟩ := isWord_iff.mp hs
  have hnone := (value_eq_some.mp h).1
  rw [hn] at hnone
  cases hnone

lemma isCounterWord_iff : IsCounterWord s ↔ s ∈ counterWords := by
  simp [IsCounterWord, counterWords]

lemma isGaugeWord_iff : IsGaugeWord s ↔ s ∈ gaugeWords := by
  simp [IsGaugeWord, gaugeWords]

lemma not_isGaugeWord (h : IsCounterWord s) : ¬ IsGaugeWord s := by
  rcases h with rfl | rfl <;> simp [IsGaugeWord]

lemma isJudged_reading (hraw : value? value = some raw) :
    IsJudged
      [(∀ k ∈ kind, IsCounterWord k → IsWord value, .counterValue (String.ofList value)),
        (∀ k ∈ kind, IsCounterWord k ∨ IsGaugeWord k, .kind (String.ofList (kind.getD [])))]
      (reading value raw kind) := by
  cases kind with
  | none => cases raw <;> simp [IsJudged, reading]
  | some k =>
    simp only [Option.mem_def, Option.some.injEq, forall_eq', Option.getD_some, isCounterWord_iff,
      isGaugeWord_iff, reading, List.contains_iff_mem]
    by_cases hc : k ∈ counterWords
    · cases raw with
      | whole n => simp [IsJudged, hc, isWord_of_whole hraw]
      | real x => simp [IsJudged, hc, not_isWord_of_real hraw]
    · by_cases hg : k ∈ gaugeWords
      · cases raw <;> simp [IsJudged, hc, hg]
      · simp [IsJudged, hc, hg]

lemma kind_of_reading (hraw : value? value = some raw) (hr : reading value raw kind = .ok r) :
    (r.kind = .counter ↔ IsWord value ∧ ∀ k ∈ kind, IsCounterWord k) ∧
      (r.kind = .gauge ↔ IsWord value ∧ ∃ k ∈ kind, IsGaugeWord k) ∧
      (r.kind = .floatGauge ↔ ¬ IsWord value) := by
  cases raw with
  | real x =>
    obtain rfl := reading_real hr
    simp [Reading.kind, not_isWord_of_real hraw]
  | whole n =>
    have hword := isWord_of_whole hraw
    cases kind with
    | none =>
      obtain rfl := Except.ok.inj hr
      simp [Reading.kind, hword]
    | some k =>
      rw [reading] at hr
      split at hr
      next hc =>
        obtain rfl := Except.ok.inj hr
        have hcounter := isCounterWord_iff.mpr (List.contains_iff_mem.mp hc)
        simp [Reading.kind, hword, hcounter, not_isGaugeWord hcounter]
      next hc =>
        split at hr
        next hg =>
          obtain rfl := Except.ok.inj hr
          have hgauge := isGaugeWord_iff.mpr (List.contains_iff_mem.mp hg)
          simp [Reading.kind, hword, hgauge, mt not_isGaugeWord (not_not.mpr hgauge)]
        next => cases hr

lemma isJudged_unit :
    IsJudged [(∀ u ∈ field, IsUnit u, .unit (String.ofList (field.getD [])))] (unit field) := by
  cases field with
  | none => exact ⟨fun _ => ⟨.none, rfl⟩, fun h => absurd (by simp) h⟩
  | some s =>
    refine isJudged_require ?_
    simp [isUnit_iff]

/-! ### Lines -/

variable {collector : String} {line time name : List Char}

lemma isJudged_ofFields (htime : ' ' ∉ time) :
    IsJudged
      [(IsTime time, .timestamp (String.ofList time)),
        (IsName name, .metricName (String.ofList name)),
        (IsValue value, .value (String.ofList value)),
        (∀ k ∈ kind, IsCounterWord k → IsWord value, .counterValue (String.ofList value)),
        (∀ k ∈ kind, IsCounterWord k ∨ IsGaugeWord k, .kind (String.ofList (kind.getD []))),
        (∀ u ∈ field, IsUnit u, .unit (String.ofList (field.getD [])))]
      (ofFields collector time name value kind field) := by
  refine (isJudged_require (isTime_iff htime)).bind fun t _ => .ite isName_iff ?_
  refine (isJudged_require isValue_iff).bind fun raw hraw => ?_
  refine (isJudged_reading (require_eq_ok.mp hraw)).bind fun r _ => ?_
  exact isJudged_unit.map

lemma isJudged_parseLine (hs : ∀ w ∈ words line, ' ' ∉ w) :
    IsJudged (conditions (words line)) (parseLine collector line) := by
  unfold parseLine
  split
  next time name value hw =>
    rw [hw] at hs ⊢
    have htime : ' ' ∉ time := hs time (by simp)
    exact ⟨fun _ => isJudged_ofFields htime, fun h => absurd (by simp) h⟩
  next time name value kind hw =>
    rw [hw] at hs ⊢
    have htime : ' ' ∉ time := hs time (by simp)
    exact ⟨fun _ => isJudged_ofFields htime, fun h => absurd (by simp) h⟩
  next time name value kind unit hw =>
    rw [hw] at hs ⊢
    have htime : ' ' ∉ time := hs time (by simp)
    exact ⟨fun _ => isJudged_ofFields htime, fun h => absurd (by simp) h⟩
  next h3 h4 h5 =>
    refine ⟨fun ⟨hlow, hhigh⟩ => ?_, fun _ => rfl⟩
    exfalso
    match hw : words line with
    | [] | [_] | [_, _] =>
      rw [hw] at hlow
      simp only [List.length_cons, List.length_nil] at hlow
      omega
    | [time, name, value] => exact h3 time name value hw
    | [time, name, value, kind] => exact h4 time name value kind hw
    | [time, name, value, kind, unit] => exact h5 time name value kind unit hw
    | _ :: _ :: _ :: _ :: _ :: _ :: _ =>
      rw [hw] at hhigh
      simp only [List.length_cons] at hhigh
      omega

lemma Fields.words_getElem? (f : Fields) :
    f.words[2]?.getD [] = f.value ∧ f.words[3]? = f.kind := by
  obtain ⟨time, name, value, kind, unit, hunit⟩ := f
  refine ⟨rfl, ?_⟩
  cases kind with
  | none =>
    obtain rfl := hunit rfl
    rfl
  | some kind => rfl

lemma parseLine_congr {line' : List Char} (h : words line' = words line) :
    parseLine collector line' = parseLine collector line := by
  unfold parseLine
  rw [h]

/--
**The grammar of a line.** The fields of a line are its maximal runs of characters that are not
blank. The line is accepted if and only if they meet all conditions, and refused with the error of
the first one that they fail. A whole number is a gauge where the field of the kind says so and else
a counter, and any other value is a gauge of doubles. Lines with the same fields are read alike.
-/
theorem parseLine_grammar (collector : String) (line : List Char) :
    ∃ f, Runs line f ∧ (∀ g, Runs line g → g = f) ∧
      ((∃ m, parseLine collector line = .ok m) ↔ ∀ c ∈ conditions f, c.1) ∧
      (∀ e, parseLine collector line = .error e ↔
        ∃ pre P post, conditions f = pre ++ (P, e) :: post ∧ (∀ c ∈ pre, c.1) ∧ ¬ P) ∧
      (∀ m, parseLine collector line = .ok m →
        let value := f[2]?.getD []
        (m.reading.kind = .counter ↔ IsWord value ∧ ∀ kind ∈ f[3]?, IsCounterWord kind) ∧
          (m.reading.kind = .gauge ↔ IsWord value ∧ ∃ kind ∈ f[3]?, IsGaugeWord kind) ∧
          (m.reading.kind = .floatGauge ↔ ¬ IsWord value)) ∧
      ∀ line', Runs line' f → parseLine collector line' = parseLine collector line := by
  have hruns : Runs line (words line) := runs_iff.mpr rfl
  have hjudged : IsJudged (conditions (words line)) (parseLine collector line) :=
    isJudged_parseLine fun w hw hspace => by
      have := (hruns.notBlank w hw).2 ' ' hspace
      cases this
  refine ⟨words line, hruns, fun g hg => hg.eq_words, hjudged.ok_iff, fun e => hjudged.error_iff,
    fun m hm => ?_, fun line' hline' => parseLine_congr hline'.eq_words.symm⟩
  obtain ⟨fields, hwords, hsays⟩ := parseLine_eq_ok_iff_says.mp hm
  obtain ⟨raw, hraw, hreading⟩ := hsays.reading
  obtain ⟨hvalue, hkind⟩ := fields.words_getElem?
  rw [hwords, hvalue, hkind]
  exact kind_of_reading hraw hreading

/-- A value with a plus sign in front, and the same fields with other blanks. -/
theorem parseLine_grammar_plusSign :
    let line := "90210 a.b +5 g".toList
    let fields := ["90210".toList, "a.b".toList, "+5".toList, "g".toList]
    ∃ m, parseLine "listen" line = .ok m ∧ m.reading.kind = .floatGauge ∧ ¬ IsWord "+5".toList ∧
      Runs "\t90210 a.b\u3000+5 g\n".toList fields ∧
      parseLine "listen" "\t90210 a.b\u3000+5 g\n".toList = parseLine "listen" line := by
  intro line fields
  obtain ⟨f, hf, -, -, -, hkind, halike⟩ := parseLine_grammar "listen" line
  obtain rfl : f = fields := hf.eq_words.trans (by decide)
  have hother : Runs "\t90210 a.b\u3000+5 g\n".toList fields := runs_iff.mpr (by decide)
  have hm : parseLine "listen" line =
      .ok ⟨⟨90210, 0⟩, "listen", ["a", "b"], .floatGauge (.ofNat 5), .none⟩ := by
    decide +kernel
  exact ⟨_, hm, rfl, ((hkind _ hm).2.2).mp rfl, hother, halike _ hother⟩

end MetricAgent.Submission
