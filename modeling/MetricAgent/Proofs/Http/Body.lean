import Mathlib.Data.List.Forall2
import MetricAgent.Proofs.Http.Attempts
import MetricAgent.Proofs.Json.Reader

/-!
The body of a request tells its payload. It is read as an object that shows every entry, member by
member and in order, and two payloads that are shown by one object are the same.
-/

namespace MetricAgent.Json

/-- The keys of an object, in order. -/
def Value.keys : Value → List String
  | .object fs => fs.map Prod.fst
  | _ => []

/-- The member of an object under a key. -/
def Value.member? (key : String) : Value → Option Value
  | .object fs => fs.lookup key
  | _ => none

end MetricAgent.Json

namespace MetricAgent.Http

open Decimal Time

open Json (Value)

variable {o : PayloadOptions} {now : Timestamp} {ms : List Measurement} {m : Measurement}
  {e f : Entry} {p q : Payload} {v : Value}

/-! ### What a value shows -/

/-- A word is shown as the same whole number, a double as the same double. -/
def EntryValue.ShownBy : EntryValue → Value → Prop
  | whole n, v => v = .whole n.toNat
  | real x, v => v = .real x

structure UnitShownBy (u : UnitOfMeasure) (v : Value) : Prop where
  keys : v.keys = ["display_units_long", "display_units_short"]
  long : v.member? "display_units_long" = some (.string u.name)
  short : v.member? "display_units_short" = some (.string u.abbreviation)

/-- All members of an entry are shown, and nothing else is. -/
structure Entry.ShownBy (e : Entry) (v : Value) : Prop where
  keys : v.keys = ["name", "value", "measure_time"] ++
    (if e.source.isSome then ["source"] else []) ++ (if e.unit.isSome then ["attributes"] else [])
  name : v.member? "name" = some (.string e.name)
  value : ∃ w, v.member? "value" = some w ∧ e.value.ShownBy w
  measureTime : v.member? "measure_time" = some (.whole e.measureTime)
  source : v.member? "source" = e.source.map .string
  attributes : Option.Rel UnitShownBy e.unit (v.member? "attributes")

structure Payload.ShownBy (p : Payload) (v : Value) : Prop where
  keys : v.keys = ["gauges", "counters"]
  gauges : ∃ vs, v.member? "gauges" = some (.array vs) ∧ List.Forall₂ Entry.ShownBy p.gauges vs
  counters :
    ∃ vs, v.member? "counters" = some (.array vs) ∧ List.Forall₂ Entry.ShownBy p.counters vs

/-! ### What is written shows what it was written for -/

lemma EntryValue.shownBy_toJson (x : EntryValue) : x.ShownBy x.toJson := by
  cases x <;> rfl

lemma unitShownBy_unitJson (u : UnitOfMeasure) : UnitShownBy u (unitJson u) where
  keys := rfl
  long := rfl
  short := rfl

lemma Entry.shownBy_toJson (e : Entry) : e.ShownBy e.toJson := by
  obtain ⟨name, value, time, source, unit⟩ := e
  have hvalue := value.shownBy_toJson
  constructor
  case value => exact ⟨_, rfl, hvalue⟩
  case attributes =>
    cases unit with
    | none => cases source <;> exact .none
    | some u => cases source <;> exact .some (unitShownBy_unitJson u)
  all_goals cases source <;> cases unit <;> rfl

lemma forall₂_toJson (es : List Entry) : List.Forall₂ Entry.ShownBy es (es.map Entry.toJson) := by
  rw [List.forall₂_map_right_iff]
  exact List.forall₂_same.mpr fun e _ => e.shownBy_toJson

lemma Payload.shownBy_toJson (p : Payload) : p.ShownBy p.toJson where
  keys := rfl
  gauges := ⟨_, rfl, forall₂_toJson p.gauges⟩
  counters := ⟨_, rfl, forall₂_toJson p.counters⟩

/-! ### One value shows one thing -/

lemma EntryValue.ShownBy.unique {x y : EntryValue} (hx : x.ShownBy v) (hy : y.ShownBy v) :
    x = y := by
  cases x <;> cases y <;> cases hx <;> simp only [ShownBy, Value.whole.injEq, Value.real.injEq,
    reduceCtorEq] at hy
  case whole.whole m n => rw [UInt64.toNat_inj.mp (Int.ofNat_inj.mp hy)]
  case real.real => rw [hy]

lemma UnitShownBy.unique {u w : UnitOfMeasure} (hu : UnitShownBy u v) (hw : UnitShownBy w v) :
    u = w := by
  obtain ⟨name, abbreviation⟩ := u
  have hname := hu.long.symm.trans hw.long
  have habbreviation := hu.short.symm.trans hw.short
  simp only [Option.some.injEq, Value.string.injEq] at hname habbreviation
  rw [hname, habbreviation]

lemma unit_unique {u w : Option UnitOfMeasure} {a : Option Value}
    (hu : Option.Rel UnitShownBy u a) (hw : Option.Rel UnitShownBy w a) : u = w := by
  cases hu with
  | none => cases hw; rfl
  | some hu =>
    cases hw with
    | some hw => rw [hu.unique hw]

lemma Entry.ShownBy.unique (he : e.ShownBy v) (hf : f.ShownBy v) : e = f := by
  have hname := he.name.symm.trans hf.name
  have htime := he.measureTime.symm.trans hf.measureTime
  have hsource := he.source.symm.trans hf.source
  have hunit := unit_unique he.attributes hf.attributes
  obtain ⟨w, hw, hvalue⟩ := he.value
  obtain ⟨w', hw', hvalue'⟩ := hf.value
  obtain rfl : w = w' := Option.some.inj (hw.symm.trans hw')
  have hsame := hvalue.unique hvalue'
  simp only [Option.some.injEq, Value.string.injEq, Value.whole.injEq] at hname htime
  have hsources := Option.map_injective (fun _ _ h => Value.string.inj h) hsource
  cases e
  cases f
  simp_all only

lemma Payload.ShownBy.unique (hp : p.ShownBy v) (hq : q.ShownBy v) : p = q := by
  have hentries {es fs : List Entry} {key : String}
      (he : ∃ vs, v.member? key = some (.array vs) ∧ List.Forall₂ Entry.ShownBy es vs)
      (hf : ∃ vs, v.member? key = some (.array vs) ∧ List.Forall₂ Entry.ShownBy fs vs) :
      es = fs := by
    obtain ⟨vs, hvs, he⟩ := he
    obtain ⟨ws, hws, hf⟩ := hf
    obtain rfl : vs = ws := Value.array.inj (Option.some.inj (hvs.symm.trans hws))
    have hunique : Relator.LeftUnique Entry.ShownBy := fun _ _ _ he hf => he.unique hf
    exact List.left_unique_forall₂' hunique he hf
  have hgauges := hentries hp.gauges hq.gauges
  have hcounters := hentries hp.counters hq.counters
  cases p
  cases q
  simp_all only

/-! ### Payloads of batches -/

lemma Entry.of_mem_ofBatch (h : e ∈ (Payload.ofBatch o now ms).gauges ++
    (Payload.ofBatch o now ms).counters) : ∃ m, Entry.ofMeasurement? o m = some e ∧
      (m ∈ ms ∨ ∃ what n, m = sizeReport now what n) := by
  have hentries {pick : Kind → Bool} (he : e ∈ entries o pick ms) :
      ∃ m, Entry.ofMeasurement? o m = some e ∧ (m ∈ ms ∨ ∃ what n, m = sizeReport now what n) := by
    obtain ⟨m, hm, he⟩ := List.mem_filterMap.mp he
    exact ⟨m, he, .inl (List.mem_filter.mp hm).1⟩
  unfold Payload.ofBatch at h
  dsimp only at h
  rcases List.mem_append.mp h with h | h
  · rcases List.mem_append.mp h with h | h
    · exact hentries h
    · obtain ⟨m, hm, he⟩ := List.mem_filterMap.mp h
      refine ⟨m, he, .inr ?_⟩
      split at hm
      next =>
        rcases List.mem_pair.mp hm with rfl | rfl <;> exact ⟨_, _, rfl⟩
      next => cases hm
  · exact hentries h

lemma isFinite_of_ofReading? {r : Reading} {x : EntryValue} (h : EntryValue.ofReading? r = some x) :
    x.toJson.IsFinite := by
  cases r with
  | counter n =>
    obtain rfl := Option.some.inj h
    exact .whole _
  | gauge n =>
    obtain rfl := Option.some.inj h
    exact .whole _
  | floatGauge y =>
    rw [EntryValue.ofReading?] at h
    split at h
    next hy =>
      obtain rfl := Option.some.inj h
      exact .real hy
    next => cases h

lemma Entry.isFinite_toJson (h : Entry.ofMeasurement? o m = some e) : e.toJson.IsFinite := by
  obtain ⟨x, hx, rfl⟩ := Option.map_eq_some_iff.mp h
  have hvalue := isFinite_of_ofReading? hx
  refine .object fun f hf => ?_
  simp only [List.mem_append, List.mem_cons, List.not_mem_nil, or_false, Option.mem_toList,
    Option.map_eq_some_iff] at hf
  obtain ((rfl | rfl | rfl) | ⟨s, -, rfl⟩) | ⟨u, -, rfl⟩ := hf
  · exact .string _
  · exact hvalue
  · exact .whole _
  · exact .string _
  · refine .object fun g hg => ?_
    rcases List.mem_pair.mp hg with rfl | rfl <;> exact .string _

lemma Payload.isFinite_ofBatch (o : PayloadOptions) (now : Timestamp) (ms : List Measurement) :
    (Payload.ofBatch o now ms).toJson.IsFinite := by
  have hentries (es : List Entry) (hes : ∀ e ∈ es, ∃ m, Entry.ofMeasurement? o m = some e) :
      (Value.array (es.map Entry.toJson)).IsFinite := by
    refine .array fun v hv => ?_
    obtain ⟨e, he, rfl⟩ := List.mem_map.mp hv
    obtain ⟨m, hm⟩ := hes e he
    exact Entry.isFinite_toJson hm
  have hgauges := hentries (Payload.ofBatch o now ms).gauges fun e he => by
    obtain ⟨m, hm, -⟩ := Entry.of_mem_ofBatch (List.mem_append_left _ he)
    exact ⟨m, hm⟩
  have hcounters := hentries (Payload.ofBatch o now ms).counters fun e he => by
    obtain ⟨m, hm, -⟩ := Entry.of_mem_ofBatch (List.mem_append_right _ he)
    exact ⟨m, hm⟩
  refine .object fun f hf => ?_
  rcases List.mem_pair.mp hf with rfl | rfl
  · exact hgauges
  · exact hcounters

/-! ### The bodies of batches -/

lemma read_bodyOf (d : Delivery) (now : Timestamp) (ms : List Measurement) :
    Value.ofText? (d.bodyOf now ms).toList = some (Payload.ofBatch d.options now ms).toJson := by
  rw [Delivery.bodyOf, Payload.body, String.toList_ofList]
  exact Value.ofText?_text (Payload.isFinite_ofBatch ..)

/--
**The body is faithful.** Every request for a batch carries a JSON text that shows the payload of
the batch. An entry has a source if and only if that is set, and attributes if and only if its
measurement has a unit. Other payloads have other bodies.
-/
theorem body_shows_payload (d : Delivery) (now : Timestamp) (ms : List Measurement) :
    (∃ v, (Payload.ofBatch d.options now ms).ShownBy v ∧
      ∀ replies n, (d.send replies n (d.bodyOf now ms)).exchanges ≠ [] ∧
        ∀ x ∈ (d.send replies n (d.bodyOf now ms)).exchanges,
          Value.ofText? x.1.body.toList = some v) ∧
    (∀ e ∈ (Payload.ofBatch d.options now ms).gauges ++ (Payload.ofBatch d.options now ms).counters,
      ∃ m, (m ∈ ms ∨ ∃ what n, m = sizeReport now what n) ∧
        EntryValue.ofReading? m.reading = some e.value ∧ e.name = m.name d.options.namePrefix ∧
        e.source = d.options.source ∧ e.unit = if m.unit.isEmpty then none else some m.unit) ∧
    ∀ (d' : Delivery) (now' : Timestamp) (ms' : List Measurement),
      d.bodyOf now ms = d'.bodyOf now' ms' →
        Payload.ofBatch d.options now ms = Payload.ofBatch d'.options now' ms' := by
  have hread := read_bodyOf d now ms
  have hshown := (Payload.ofBatch d.options now ms).shownBy_toJson
  refine ⟨⟨_, hshown, fun replies n => ?_⟩, fun e he => ?_, fun d' now' ms' hbody => ?_⟩
  · have hblock := d.isBlock_send replies n (d.bodyOf now ms)
    refine ⟨hblock.ne_nil, fun x hx => ?_⟩
    rw [hblock.same x hx]
    exact hread
  · obtain ⟨m, he, hm⟩ := Entry.of_mem_ofBatch he
    obtain ⟨x, hx, rfl⟩ := Option.map_eq_some_iff.mp he
    exact ⟨m, hm, hx, rfl, rfl, rfl⟩
  · rw [hbody, read_bodyOf d' now' ms'] at hread
    rw [← Option.some.inj hread] at hshown
    exact hshown.unique (Payload.ofBatch d'.options now' ms').shownBy_toJson

end MetricAgent.Http
