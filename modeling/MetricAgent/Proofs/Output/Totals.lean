import Mathlib.Algebra.Ring.Nat
import Mathlib.Data.List.Perm.Subperm
import MetricAgent.Proofs.Output.Derived

/-!
What derived lines add up to. While all counters fit into the history, the lines of a counter depend
on its own readings alone, and what they tell adds up to what the counter gained from its first
reading to its last, less nothing and more by what it held at each reset.
-/

namespace MetricAgent.Output

open Decimal

variable {f : LineFormat} {ms : List Measurement} {m : Measurement} {name : String}

/-! ### Gains -/

/-- What a counter gained from each value to the next. -/
def gains : List UInt64 → List UInt64
  | last :: v :: vs => counterDifference v last :: gains (v :: vs)
  | _ => []

/-- The values before each reset. -/
def lostAtResets (vs : List UInt64) : List Nat :=
  (vs.zip vs.tail).filterMap fun (last, v) => if v < last then some last.toNat else none

/-- A gain leads from one value to the next, but for the value that a reset gives up. -/
lemma toNat_counterDifference (v last : UInt64) :
    (counterDifference v last).toNat + last.toNat =
      v.toNat + (if v < last then last.toNat else 0) := by
  unfold counterDifference
  split
  next => rfl
  next h =>
    have hle : last ≤ v := UInt64.not_lt.mp h
    rw [UInt64.toNat_sub_of_le _ _ hle, Nat.add_zero]
    exact Nat.sub_add_cancel (UInt64.le_iff_toNat_le.mp hle)

lemma counterDifference_le (v last : UInt64) : counterDifference v last ≤ v := by
  have h := toNat_counterDifference v last
  rw [UInt64.le_iff_toNat_le]
  split at h
  next => omega
  next => omega

lemma forall₂_gains (v : UInt64) (vs : List UInt64) :
    List.Forall₂ (· ≤ ·) (gains (v :: vs)) vs := by
  induction vs generalizing v with
  | nil => exact .nil
  | cons w vs ih => exact .cons (counterDifference_le w v) (ih w)

lemma sum_gains (v : UInt64) (vs : List UInt64) :
    ((gains (v :: vs)).map UInt64.toNat).sum + v.toNat =
      ((v :: vs).getLast (List.cons_ne_nil v vs)).toNat + (lostAtResets (v :: vs)).sum := by
  induction vs generalizing v with
  | nil => simp [gains, lostAtResets]
  | cons w vs ih =>
    have hgain := toNat_counterDifference w v
    have hlost : (lostAtResets (v :: w :: vs)).sum =
        (if w < v then v.toNat else 0) + (lostAtResets (w :: vs)).sum := by
      by_cases hreset : w < v <;> simp [lostAtResets, hreset]
    have htotal := ih w
    rw [hlost, List.getLast_cons (List.cons_ne_nil w vs), gains, List.map_cons, List.sum_cons]
    omega

/-! ### The lines of one counter -/

/-- The readings of counters. -/
def counters (ms : List Measurement) : List Measurement := ms.filter (·.reading.kind = .counter)

/-- The readings of the counter with a name. -/
def readingsOf (f : LineFormat) (ms : List Measurement) (name : String) : List Measurement :=
  (counters ms).filter (·.name f.namePrefix = name)

/-- What is written, line by line, for the readings of the counter with a name. -/
def linesOf (f : LineFormat) (ms : List Measurement) (name : String) : List (Option String) :=
  ((ms.zip (lines f [] ms)).filter fun (m, _) =>
    m.reading.kind = .counter && m.name f.namePrefix = name).map Prod.snd

/-- The line of a reading that comes after another one of its counter, if there is one. -/
def lineAfter (f : LineFormat) (last : Option Measurement) (m : Measurement) : Option String :=
  (last.bind m.difference).map fun n =>
    lineText f.source m.time (m.nameChars f.namePrefix) (digits n.toNat)

/-- The lines of readings that all are of one counter. -/
def linesAlone (f : LineFormat) (last : Option Measurement) :
    List Measurement → List (Option String)
  | [] => []
  | m :: ms => lineAfter f last m :: linesAlone f (some m) ms

lemma linesAlone_snoc (f : LineFormat) (last : Option Measurement) (ms : List Measurement)
    (m : Measurement) :
    linesAlone f last (ms ++ [m]) =
      linesAlone f last ms ++ [lineAfter f (ms.getLast?.or last) m] := by
  induction ms generalizing last with
  | nil => rfl
  | cons x ms ih =>
    rw [List.cons_append, linesAlone, ih, linesAlone, List.cons_append]
    cases ms with
    | nil => rfl
    | cons y ms => simp [List.getLast?_cons]

lemma lines_snoc (f : LineFormat) (h : History) (ms : List Measurement) (m : Measurement) :
    lines f h (ms ++ [m]) =
      lines f h ms ++ [(line f (ms.foldl (fun h m => (line f h m).2) h) m).1] := by
  induction ms generalizing h with
  | nil => rfl
  | cons x ms ih => rw [List.cons_append, lines, ih, lines, List.foldl_cons, List.cons_append]

lemma length_lines (f : LineFormat) (h : History) (ms : List Measurement) :
    (lines f h ms).length = ms.length := by
  induction ms generalizing h with
  | nil => rfl
  | cons x ms ih => rw [lines, List.length_cons, ih, List.length_cons]

lemma linesOf_snoc (f : LineFormat) (ms : List Measurement) (m : Measurement) (name : String) :
    linesOf f (ms ++ [m]) name =
      linesOf f ms name ++
        if m.reading.kind = .counter ∧ m.name f.namePrefix = name then
          [(line f (history f ms) m).1]
        else [] := by
  unfold linesOf
  rw [lines_snoc, List.zip_append (length_lines f [] ms).symm, List.filter_append, List.map_append]
  congr 1
  by_cases h : m.reading.kind = .counter ∧ m.name f.namePrefix = name
  · rw [if_pos h]
    simp [h.1, h.2, history]
  · rw [if_neg h]
    simpa using h

lemma readingsOf_snoc (f : LineFormat) (ms : List Measurement) (m : Measurement) (name : String) :
    readingsOf f (ms ++ [m]) name =
      readingsOf f ms name ++
        if m.reading.kind = .counter ∧ m.name f.namePrefix = name then [m] else [] := by
  unfold readingsOf counters
  rw [List.filter_append, List.filter_append]
  congr 1
  by_cases hk : m.reading.kind = .counter
  · by_cases hn : m.name f.namePrefix = name <;> simp [hk, hn]
  · simp [hk]

/-! ### Counters that all fit -/

lemma length_names_le {e e' : List Measurement} (h : names f e ⊆ names f e') :
    (names f e).length ≤ (names f e').length :=
  (List.subperm_of_subset (List.nodup_dedup _) h).length_le

lemma names_subset {e e' : List Measurement} (h : e ⊆ e') : names f e ⊆ names f e' := by
  intro name hname
  obtain ⟨x, hx, rfl⟩ := mem_names.mp hname
  exact mem_names.mpr ⟨x, h hx, rfl⟩

lemma before_eq {e : List Measurement} (h : (names f (e ++ [m])).length ≤ f.historyLimit) :
    before f e m = e := by
  refine if_neg fun ⟨hnew, hfull⟩ => ?_
  have hsub : m.name f.namePrefix :: names f e ⊆ names f (e ++ [m]) := by
    refine List.cons_subset.mpr ⟨mem_names.mpr ⟨m, by simp, rfl⟩, ?_⟩
    exact names_subset (List.subset_append_left _ _)
  have hlength :=
    (List.subperm_of_subset (List.nodup_cons.mpr ⟨hnew, List.nodup_dedup _⟩) hsub).length_le
  rw [List.length_cons] at hlength
  omega

lemma counters_snoc (hk : m.reading.kind = .counter) :
    counters (ms ++ [m]) = counters ms ++ [m] := by
  simp [counters, hk]

lemma length_names_counters_le (f : LineFormat) (ms : List Measurement) (m : Measurement) :
    (names f (counters ms)).length ≤ (names f (counters (ms ++ [m]))).length := by
  refine length_names_le (names_subset ?_)
  rw [counters, counters, List.filter_append]
  exact List.subset_append_left _ _

lemma epoch_eq_counters (h : (names f (counters ms)).length ≤ f.historyLimit) :
    epoch f ms = counters ms := by
  induction ms using List.reverseRecOn with
  | nil => rfl
  | append_singleton ms m ih =>
    rw [epoch_snoc, ih (Nat.le_trans (length_names_counters_le f ms m) h)]
    split
    next hk =>
      rw [counters_snoc hk] at h ⊢
      rw [before_eq h]
    next hk => simp [counters, hk]

/-- What is written for a reading tells of the last reading of its counter, however long ago. -/
lemma line_eq_lineAfter (hd : f.derived = true) (hk : m.reading.kind = .counter)
    (hfit : (names f (counters (ms ++ [m]))).length ≤ f.historyLimit) :
    (line f (history f ms) m).1 =
      lineAfter f (readingsOf f ms (m.name f.namePrefix)).getLast? m := by
  have hl : 1 ≤ f.historyLimit := by
    have hm : m.name f.namePrefix ∈ names f (counters (ms ++ [m])) :=
      mem_names.mpr ⟨m, by simp [counters, hk], rfl⟩
    have := List.length_pos_of_mem hm
    omega
  have hepoch := epoch_eq_counters (Nat.le_trans (length_names_counters_le f ms m) hfit)
  rw [counters_snoc hk] at hfit
  obtain ⟨n, hn⟩ := exists_counter hk
  have hline := (remembers_history hd hl ms).line_counter hd hn
  rw [hepoch, before_eq hfit] at hline
  have hlatest : latest? f (counters ms) (m.name f.namePrefix) =
      (readingsOf f ms (m.name f.namePrefix)).getLast? := rfl
  rw [hlatest] at hline
  split at hline
  next hnone =>
    rw [hline, hnone]
    rfl
  next x hx =>
    obtain ⟨last, hlast, htext⟩ := hline
    rw [htext, hx]
    simp [lineAfter, Measurement.difference, hn, hlast]

lemma linesOf_eq (hd : f.derived = true)
    (hfit : (names f (counters ms)).length ≤ f.historyLimit) (name : String) :
    linesOf f ms name = linesAlone f none (readingsOf f ms name) := by
  induction ms using List.reverseRecOn with
  | nil => rfl
  | append_singleton ms m ih =>
    rw [linesOf_snoc, readingsOf_snoc,
      ih (Nat.le_trans (length_names_counters_le f ms m) hfit)]
    split
    next hm =>
      obtain ⟨hk, rfl⟩ := hm
      rw [linesAlone_snoc, Option.or_none, line_eq_lineAfter hd hk hfit]
    next => rw [List.append_nil, List.append_nil]

/-! ### A counter on its own -/

lemma mem_readingsOf {x : Measurement} :
    x ∈ readingsOf f ms name ↔
      x ∈ ms ∧ x.reading.kind = .counter ∧ x.name f.namePrefix = name := by
  rw [readingsOf, counters, List.mem_filter, List.mem_filter, decide_eq_true_eq,
    decide_eq_true_eq, and_assoc]

lemma readingsOf_readingsOf :
    readingsOf f (readingsOf f ms name) name = readingsOf f ms name := by
  have hcounters : counters (readingsOf f ms name) = readingsOf f ms name :=
    List.filter_eq_self.mpr fun x hx => decide_eq_true (mem_readingsOf.mp hx).2.1
  rw [readingsOf, hcounters]
  exact List.filter_eq_self.mpr fun x hx => decide_eq_true (mem_readingsOf.mp hx).2.2

lemma length_names_readingsOf (hname : name ∈ names f (counters ms)) :
    (names f (counters (readingsOf f ms name))).length ≤ (names f (counters ms)).length := by
  refine length_names_le fun other hother => ?_
  obtain ⟨x, hx, rfl⟩ := mem_names.mp hother
  have hx := (mem_readingsOf.mp (List.mem_of_mem_filter hx)).2.2
  rwa [hx]

lemma linesOf_self (f : LineFormat) (ms : List Measurement) (name : String) :
    linesOf f (readingsOf f ms name) name = lines f [] (readingsOf f ms name) := by
  unfold linesOf
  rw [List.filter_eq_self.mpr, List.map_snd_zip]
  · exact Nat.le_of_eq (length_lines f [] _)
  · rintro ⟨x, text⟩ hx
    have hx := (mem_readingsOf.mp (List.of_mem_zip hx).1).2
    simp [hx.1, hx.2]

lemma exists_values (h : ∀ x ∈ ms, x.reading.kind = .counter) :
    ∃ vs : List UInt64, ms.map (·.reading) = vs.map .counter := by
  induction ms with
  | nil => exact ⟨[], rfl⟩
  | cons x ms ih =>
    obtain ⟨v, hv⟩ := exists_counter (h x List.mem_cons_self)
    obtain ⟨vs, hvs⟩ := ih fun y hy => h y (List.mem_cons_of_mem x hy)
    exact ⟨v :: vs, by rw [List.map_cons, hv, hvs, List.map_cons]⟩

lemma linesAlone_eq {vs : List UInt64} {v : UInt64} (hm : m.reading = .counter v)
    (hms : ms.map (·.reading) = vs.map .counter) :
    linesAlone f (some m) ms = List.zipWith
      (fun m n => some (lineText f.source m.time (m.nameChars f.namePrefix) (digits n.toNat)))
      ms (gains (v :: vs)) := by
  induction ms generalizing m v vs with
  | nil => rfl
  | cons x ms ih =>
    cases vs with
    | nil => cases hms
    | cons w vs =>
      obtain ⟨hx, hms⟩ := List.cons.inj hms
      rw [linesAlone, ih hx hms, gains, List.zipWith_cons_cons]
      simp [lineAfter, Measurement.difference, hm, hx]

/--
**Derived totals are conserved.** As long as there are no more counters than the history holds, and
whatever else comes between the readings of a counter: nothing is written for the first of them, and
one gain for each of the others, which is no more than its value. The gains add up to the last value
less the first one, and more by the value before each reset. They are written just as if the
readings had come alone.
-/
theorem gains_add_up (f : LineFormat) (hd : f.derived = true) (ms : List Measurement)
    (hfit : (names f (counters ms)).length ≤ f.historyLimit) (name : String)
    (hname : name ∈ names f (counters ms)) :
    ∃ (m : Measurement) (rest : List Measurement) (v : UInt64) (vs : List UInt64)
      (written : List UInt64),
      readingsOf f ms name = m :: rest ∧
      (m :: rest).map (·.reading) = (v :: vs).map .counter ∧
      linesOf f ms name = none :: List.zipWith
        (fun m n => some (lineText f.source m.time (m.nameChars f.namePrefix) (digits n.toNat)))
        rest written ∧
      written.length = rest.length ∧ List.Forall₂ (· ≤ ·) written vs ∧
      ((written.map UInt64.toNat).sum : Int) =
        ((v :: vs).getLast (List.cons_ne_nil v vs)).toNat - v.toNat +
          (lostAtResets (v :: vs)).sum ∧
      linesOf f ms name = lines f [] (readingsOf f ms name) := by
  obtain ⟨x, hx, hxname⟩ := mem_names.mp hname
  have hx : x ∈ readingsOf f ms name := List.mem_filter.mpr ⟨hx, decide_eq_true hxname⟩
  have hkind : ∀ y ∈ readingsOf f ms name, y.reading.kind = .counter :=
    fun y hy => (mem_readingsOf.mp hy).2.1
  obtain ⟨values, hvalues⟩ := exists_values hkind
  have halone : linesOf f ms name = lines f [] (readingsOf f ms name) := by
    rw [← linesOf_self, linesOf_eq hd hfit, linesOf_eq hd
      (Nat.le_trans (length_names_readingsOf hname) hfit), readingsOf_readingsOf]
  have hlines := linesOf_eq hd hfit name
  cases hown : readingsOf f ms name with
  | nil =>
    rw [hown] at hx
    cases hx
  | cons m rest =>
    rw [hown] at hvalues hlines
    cases values with
    | nil => cases hvalues
    | cons v vs =>
      obtain ⟨hm, hrest⟩ := List.cons.inj hvalues
      have hle := forall₂_gains v vs
      have hlength : rest.length = vs.length := by simpa using congrArg List.length hrest
      have hsum := sum_gains v vs
      refine ⟨m, rest, v, vs, gains (v :: vs), rfl, hvalues, ?_, ?_, hle, ?_, ?_⟩
      · rw [hlines, linesAlone, linesAlone_eq hm hrest]
        rfl
      · rw [hle.length_eq, hlength]
      · omega
      · rw [halone, hown]

/-- A counter that is reset once, among readings of another one and of a gauge of its name. -/
def resetOnce : List Measurement :=
  [hits "a" 100, { hits "a" 0 with reading := .gauge 7 }, hits "b" 4, hits "a" 150, hits "a" 5,
    hits "b" 6, hits "a" 9]

/-- What is written adds up to the last value less the first one and more by the one before the
reset. -/
theorem gains_add_up_resetOnce :
    let f : LineFormat := ⟨some "web", none, true, 2⟩
    f.derived = true ∧ (names f (counters resetOnce)).length ≤ f.historyLimit ∧
      "web.listen.a" ∈ names f (counters resetOnce) ∧
      (∃ written : List UInt64, written.length = 3 ∧
        ((written.map UInt64.toNat).sum : Int) = 9 - 100 + 150) ∧
      linesOf f resetOnce "web.listen.a" = lines f [] (readingsOf f resetOnce "web.listen.a") := by
  intro f
  have hd : f.derived = true := rfl
  have hfit : (names f (counters resetOnce)).length ≤ f.historyLimit := by decide +kernel
  have hname : "web.listen.a" ∈ names f (counters resetOnce) := by decide +kernel
  have hown : readingsOf f resetOnce "web.listen.a" =
      [hits "a" 100, hits "a" 150, hits "a" 5, hits "a" 9] := by decide +kernel
  obtain ⟨m, rest, v, vs, written, hreadings, hvalues, -, hlength, -, hsum, halone⟩ :=
    gains_add_up f hd resetOnce hfit "web.listen.a" hname
  rw [hown] at hreadings
  obtain ⟨rfl, rfl⟩ := List.cons.inj hreadings
  have hvs : v :: vs = [100, 150, 5, 9] :=
    List.map_injective_iff.mpr (fun _ _ => Reading.counter.inj) hvalues.symm
  obtain ⟨rfl, rfl⟩ := List.cons.inj hvs
  exact ⟨hd, hfit, hname, ⟨written, hlength, hsum⟩, halone⟩

end MetricAgent.Output
