import Mathlib.Data.List.Basic
import MetricAgent.Submission

/-!
What an accepted line says. A line is read by its fields, and of an accepted line each field has a
meaning: the instant, the path, the value and the unit of the measurement.
-/

namespace MetricAgent.Submission

open Decimal Text Time

variable {collector : String} {line s : List Char} {m : Measurement}

/-! ### Fields of a line -/

/-- The fields of a line; a unit comes after a kind only. -/
structure Fields where
  time : List Char
  name : List Char
  value : List Char
  kind : Option (List Char)
  unit : Option (List Char)
  unit_eq_none : kind = none → unit = none

/-- The fields as they follow each other. -/
def Fields.words (f : Fields) : List (List Char) :=
  f.time :: f.name :: f.value :: (f.kind.toList ++ f.unit.toList)

/-- A line is read by its fields. -/
theorem parseLine_eq_ok :
    parseLine collector line = .ok m ↔
      ∃ f : Fields, words line = f.words ∧
        ofFields collector f.time f.name f.value f.kind f.unit = .ok m := by
  constructor
  · intro h
    unfold parseLine at h
    split at h
    next time name value hw => exact ⟨⟨time, name, value, none, none, fun _ => rfl⟩, hw, h⟩
    next time name value kind hw =>
      exact ⟨⟨time, name, value, some kind, none, fun _ => rfl⟩, hw, h⟩
    next time name value kind unit hw =>
      exact ⟨⟨time, name, value, some kind, some unit, nofun⟩, hw, h⟩
    next => cases h
  · rintro ⟨⟨time, name, value, kind, unit, hunit⟩, hw, h⟩
    unfold parseLine
    rw [hw]
    cases kind with
    | none =>
      obtain rfl := hunit rfl
      exact h
    | some kind => cases unit <;> exact h

/-! ### Fields of a measurement -/

/-- What the fields of a line say. -/
structure Says (collector : String) (f : Fields) (m : Measurement) : Prop where
  time : timestamp? f.time = some m.time
  collector : m.collector = collector
  isName : isMetricName f.name = true
  path : m.path = (splitOn '.' f.name).map String.ofList
  reading : ∃ raw, value? f.value = some raw ∧ reading f.value raw f.kind = .ok m.reading
  unit : unit f.unit = .ok m.unit

lemma bind_eq_ok {ε α β : Type} {x : Except ε α} {f : α → Except ε β} {b : β} :
    x >>= f = .ok b ↔ ∃ a, x = .ok a ∧ f a = .ok b := by
  cases x <;> simp [bind, Except.bind]

lemma require_eq_ok {α : Type} {e : LineError} {a : Option α} {x : α} :
    require e a = .ok x ↔ a = some x := by
  cases a <;> simp [require]

lemma ofFields_eq_ok {f : Fields} :
    ofFields collector f.time f.name f.value f.kind f.unit = .ok m ↔ Says collector f m := by
  unfold ofFields
  rw [bind_eq_ok]
  simp only [require_eq_ok]
  constructor
  · rintro ⟨time, ht, h⟩
    split at h
    next hn =>
      obtain ⟨raw, hv, h⟩ := bind_eq_ok.mp h
      obtain ⟨r, hr, h⟩ := bind_eq_ok.mp h
      obtain ⟨u, hu, h⟩ := bind_eq_ok.mp h
      obtain rfl := Except.ok.inj h
      exact ⟨ht, rfl, hn, rfl, ⟨raw, require_eq_ok.mp hv, hr⟩, hu⟩
    next => cases h
  · rintro ⟨ht, rfl, hn, hp, ⟨raw, hv, hr⟩, hu⟩
    refine ⟨m.time, ht, ?_⟩
    rw [if_pos hn, bind_eq_ok]
    refine ⟨raw, require_eq_ok.mpr hv, bind_eq_ok.mpr ⟨m.reading, hr, ?_⟩⟩
    rw [bind_eq_ok]
    exact ⟨m.unit, hu, by rw [← hp]⟩

/-- A line is accepted if and only if its fields say something. -/
theorem parseLine_eq_ok_iff_says :
    parseLine collector line = .ok m ↔ ∃ f : Fields, words line = f.words ∧ Says collector f m := by
  simp only [parseLine_eq_ok, ofFields_eq_ok]

/-! ### What a field says -/

lemma Says.name {f : Fields} (h : Says collector f m) (p : Option String) :
    m.name p = normalizeName
      (((p.filter (!·.isEmpty)).elim "" (· ++ ".")) ++ collector ++ "." ++
        String.ofList f.name) := by
  have hne := splitOn_ne_nil '.' f.name
  have hpath : m.path.map String.toList = splitOn '.' f.name := by
    rw [h.path, List.map_map]
    simp [Function.comp_def]
  unfold Measurement.name Measurement.nameChars Measurement.nameParts normalizeName
  congr 2
  cases p.filter (!·.isEmpty) with
  | none => simp [hpath, h.collector, join_cons, hne, join_splitOn]
  | some p => simp [hpath, h.collector, join_cons, hne, join_splitOn]

/-- Digits count seconds, and all else is a date with time of day and offset. -/
lemma timestamp_eq_some {t : Timestamp} (h : timestamp? s = some t) :
    if isNumeral s then t = ⟨ofDigits s, 0⟩ else Timestamp.ofText? s = some t := by
  unfold timestamp? at h
  rw [Option.orElse_eq_orElse, Option.orElse_eq_or] at h
  split
  next hs =>
    rw [Timestamp.ofText?_of_isNumeral hs, Option.none_or] at h
    obtain ⟨n, hn, h⟩ := Option.bind_eq_some_iff.mp h
    unfold Timestamp.ofSeconds? at h
    split at h
    next =>
      obtain rfl := Option.some.inj h
      rw [(word?_eq_some.mp hn).2]
    next => cases h
  next hs =>
    have hword : word? s = none := by simp [word?, hs]
    rwa [hword, Option.bind_none, Option.or_none] at h

lemma value_eq_some {raw : RawValue} :
    value? s = some raw ↔
      match raw with
      | .whole n => word? s = some n
      | .real x => word? s = none ∧ double? s = some x ∧ x.isFinite = true := by
  unfold value?
  cases hw : word? s with
  | some n => cases raw <;> simp
  | none => cases raw <;> simp [Option.filter_eq_some_iff]

lemma reading_whole {value : List Char} {n : UInt64} {kind : Option (List Char)} {r : Reading}
    (h : reading value (.whole n) kind = .ok r) : r = .counter n ∨ r = .gauge n := by
  cases kind with
  | none => exact Or.inl (Except.ok.inj h).symm
  | some kind =>
    rw [reading] at h
    split at h
    next => exact Or.inl (Except.ok.inj h).symm
    next =>
      split at h
      next => exact Or.inr (Except.ok.inj h).symm
      next => cases h

lemma reading_real {value : List Char} {x : Double} {kind : Option (List Char)} {r : Reading}
    (h : reading value (.real x) kind = .ok r) : r = .floatGauge x := by
  cases kind with
  | none => exact (Except.ok.inj h).symm
  | some kind =>
    rw [reading] at h
    split at h
    next => cases h
    next =>
      split at h
      next => exact (Except.ok.inj h).symm
      next => cases h

/-- A unit as it is submitted: its name, and behind a comma its abbreviation if there is one. -/
def unitField (u : UnitOfMeasure) : List Char :=
  u.name.toList ++ if u.abbreviation.isEmpty then [] else ',' :: u.abbreviation.toList

lemma not_mem_comma_of_isUnitPart (h : isUnitPart s = true) : ',' ∉ s := by
  intro hm
  have := List.all_eq_true.mp (Bool.and_eq_true_iff.mp h).2 _ hm
  cases this

lemma ne_nil_of_isUnitPart (h : isUnitPart s = true) : s ≠ [] := by
  rintro rfl
  cases h

lemma unit?_eq_some {u : UnitOfMeasure} (h : unit? s = some u) :
    s = unitField u ∧ isUnitPart u.name.toList = true ∧
      (u.abbreviation = "" ∨ isUnitPart u.abbreviation.toList = true) := by
  have hjoin := join_splitOn ',' s
  unfold unit? at h
  split at h
  next name hs =>
    split at h
    next hn =>
      obtain rfl := Option.some.inj h
      rw [hs] at hjoin
      refine ⟨?_, by simpa using hn, Or.inl rfl⟩
      simpa [unitField, join] using hjoin.symm
    next => cases h
  next name abbreviation hs =>
    split at h
    next hn =>
      obtain ⟨hn, ha⟩ := Bool.and_eq_true_iff.mp hn
      obtain rfl := Option.some.inj h
      rw [hs] at hjoin
      refine ⟨?_, by simpa using hn, Or.inr (by simpa using ha)⟩
      simpa [unitField, join, ne_nil_of_isUnitPart ha] using hjoin.symm
    next => cases h
  next => cases h

lemma unit_some_eq_ok {u : UnitOfMeasure} : unit (some s) = .ok u ↔ unit? s = some u := by
  cases hs : unit? s <;> simp [unit, hs]

end MetricAgent.Submission
