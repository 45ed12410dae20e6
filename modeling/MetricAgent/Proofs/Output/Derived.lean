import Mathlib.Data.List.Dedup
import Mathlib.Data.List.Induction
import MetricAgent.Output.Lines

/-!
Derived lines against the whole past. The readings of counters are cut into epochs, each with a
limited number of names, and a line tells what a counter gained since its last reading in the same
epoch. The history of a run is what that needs of the past, and no more.
-/

namespace MetricAgent.Output

open Decimal

variable {f : LineFormat} {h : History} {e : List Measurement} {m : Measurement} {name : String}

/-! ### Epochs -/

/-- The last of some readings under a name. -/
def latest? (f : LineFormat) (e : List Measurement) (name : String) : Option Measurement :=
  (e.filter fun x => x.name f.namePrefix = name).getLast?

/-- The names of some readings, each of them once. -/
def names (f : LineFormat) (e : List Measurement) : List String :=
  (e.map fun x => x.name f.namePrefix).dedup

/-- The readings that stand before a reading in its epoch: none if it starts one, because its name
is new and there are as many names as there may be. -/
def before (f : LineFormat) (e : List Measurement) (m : Measurement) : List Measurement :=
  if m.name f.namePrefix ∉ names f e ∧ f.historyLimit ≤ (names f e).length then [] else e

/-- The readings of counters in the last epoch. -/
def epoch (f : LineFormat) (ms : List Measurement) : List Measurement :=
  ms.foldl (fun e m => if m.reading.kind = .counter then before f e m ++ [m] else e) []

lemma epoch_snoc (f : LineFormat) (ms : List Measurement) (m : Measurement) :
    epoch f (ms ++ [m]) =
      if m.reading.kind = .counter then before f (epoch f ms) m ++ [m] else epoch f ms := by
  rw [epoch, List.foldl_append]
  rfl

lemma mem_names : name ∈ names f e ↔ ∃ x ∈ e, x.name f.namePrefix = name := by
  simp [names]

lemma latest?_eq_none : latest? f e name = none ↔ ∀ x ∈ e, x.name f.namePrefix ≠ name := by
  simp [latest?]

lemma mem_of_latest? {x : Measurement} (hx : latest? f e name = some x) :
    x ∈ e ∧ x.name f.namePrefix = name := by
  simpa using List.mem_filter.mp (List.mem_of_getLast? hx)

lemma latest?_snoc :
    latest? f (e ++ [m]) name =
      if m.name f.namePrefix = name then some m else latest? f e name := by
  unfold latest?
  rw [List.filter_append]
  split
  next hm => simp [hm]
  next hm => simp [hm]

/-! ### Histories -/

namespace History

/-- The names of a history. -/
def keys (h : History) : List String := h.map Prod.fst

lemma find?_eq_none : h.find? name = none ↔ name ∉ h.keys := by
  rw [find?, List.lookup_eq_none_iff, keys, List.mem_map]
  constructor
  · rintro hn ⟨p, hp, rfl⟩
    simpa using hn p hp
  · intro hn p hp
    simp only [bne_iff_ne, ne_eq]
    rintro rfl
    exact hn ⟨p, hp, rfl⟩

lemma keys_insert (h : History) (name : String) (m : Measurement) :
    (h.insert name m).keys = if name ∈ h.keys then h.keys else h.keys ++ [name] := by
  induction h with
  | nil => rfl
  | cons p h ih =>
    obtain ⟨k, v⟩ := p
    unfold insert
    split
    next hk => simp [keys, hk]
    next hk =>
      have hcons : keys ((k, v) :: insert name m h) = k :: (insert name m h).keys := rfl
      rw [hcons, ih]
      have hmem : name ∈ keys ((k, v) :: h) ↔ name ∈ keys h := by
        simp [keys, Ne.symm hk]
      simp only [hmem]
      split <;> rfl

lemma find?_of_mem (hn : h.keys.Nodup) (hm : (name, m) ∈ h) : h.find? name = some m := by
  obtain ⟨l₁, l₂, rfl⟩ := List.mem_iff_append.mp hm
  refine List.lookup_eq_some_iff.mpr ⟨l₁, l₂, rfl, fun p hp => ?_⟩
  rw [keys, List.map_append, List.nodup_append] at hn
  have hne := hn.2.2 p.1 (List.mem_map_of_mem hp) name (by simp)
  simpa using Ne.symm hne

end History

/-- A history holds the last reading of each name of an epoch, and fits the limit. -/
structure Remembers (f : LineFormat) (e : List Measurement) (h : History) : Prop where
  latest : ∀ name, h.find? name = latest? f e name
  nodup : h.keys.Nodup
  counters : ∀ x ∈ e, x.reading.kind = .counter
  length_le : h.length ≤ f.historyLimit

lemma remembers_nil (f : LineFormat) : Remembers f [] [] :=
  ⟨fun _ => rfl, List.nodup_nil, nofun, Nat.zero_le _⟩

lemma Remembers.mem_keys (hr : Remembers f e h) : name ∈ h.keys ↔ name ∈ names f e := by
  rw [← not_iff_not, ← History.find?_eq_none, hr.latest, latest?_eq_none, mem_names]
  push Not
  rfl

lemma Remembers.length (hr : Remembers f e h) : h.length = (names f e).length := by
  have hperm : h.keys.Perm (names f e) :=
    (List.perm_ext_iff_of_nodup hr.nodup (List.nodup_dedup _)).mpr fun _ => hr.mem_keys
  rw [← hperm.length_eq, History.keys, List.length_map]

/-- The history starts over just where an epoch starts. -/
lemma Remembers.makeRoom (hr : Remembers f e h) (m : Measurement) :
    Remembers f (before f e m) (h.makeRoom f.historyLimit (m.name f.namePrefix)) := by
  have hfull : (f.historyLimit ≤ h.length && (h.find? (m.name f.namePrefix)).isNone) = true ↔
      m.name f.namePrefix ∉ names f e ∧ f.historyLimit ≤ (names f e).length := by
    rw [Bool.and_eq_true, decide_eq_true_eq, Option.isNone_iff_eq_none, History.find?_eq_none,
      hr.mem_keys, hr.length, and_comm]
  unfold History.makeRoom before
  by_cases hstart : m.name f.namePrefix ∉ names f e ∧ f.historyLimit ≤ (names f e).length
  · rw [if_pos hstart, if_pos (hfull.mpr hstart)]
    exact remembers_nil f
  · rw [if_neg hstart, if_neg (mt hfull.mp hstart)]
    exact hr

lemma length_names_before (hl : 1 ≤ f.historyLimit)
    (hm : m.name f.namePrefix ∉ names f (before f e m)) :
    (names f (before f e m)).length < f.historyLimit := by
  unfold before at hm ⊢
  split
  next => exact hl
  next hstart =>
    rw [if_neg hstart] at hm
    exact Nat.not_le.mp fun hle => hstart ⟨hm, hle⟩

lemma Remembers.insert (hr : Remembers f e h) (hk : m.reading.kind = .counter)
    (hroom : m.name f.namePrefix ∉ names f e → (names f e).length < f.historyLimit) :
    Remembers f (e ++ [m]) (h.insert (m.name f.namePrefix) m) := by
  refine ⟨fun name => ?_, ?_, ?_, ?_⟩
  · rw [latest?_snoc]
    split
    next hm =>
      rw [hm]
      exact History.find?_insert_self h name m
    next hm =>
      rw [History.find?_insert_of_ne m (Ne.symm hm)]
      exact hr.latest name
  · rw [History.keys_insert]
    split
    next => exact hr.nodup
    next hm =>
      rw [List.nodup_append]
      refine ⟨hr.nodup, by simp, ?_⟩
      rintro a ha b hb rfl
      obtain rfl := List.mem_singleton.mp hb
      exact hm ha
  · intro x hx
    rcases List.mem_append.mp hx with hx | hx
    · exact hr.counters x hx
    · obtain rfl := List.mem_singleton.mp hx
      exact hk
  · have hlen : (h.insert (m.name f.namePrefix) m).length =
        (h.insert (m.name f.namePrefix) m).keys.length := by simp [History.keys]
    rw [hlen, History.keys_insert]
    split
    next =>
      have := hr.length_le
      rwa [History.keys, List.length_map]
    next hm =>
      have := hroom (mt hr.mem_keys.mpr hm)
      rw [List.length_append, History.keys, List.length_map, List.length_singleton, hr.length]
      exact this

/-! ### Runs -/

/-- The history after some measurements. -/
def history (f : LineFormat) (ms : List Measurement) : History :=
  ms.foldl (fun h m => (line f h m).2) []

lemma history_snoc (f : LineFormat) (ms : List Measurement) (m : Measurement) :
    history f (ms ++ [m]) = (line f (history f ms) m).2 := by
  rw [history, List.foldl_append]
  rfl

lemma exists_counter (hk : m.reading.kind = .counter) : ∃ n, m.reading = .counter n := by
  cases hr : m.reading with
  | counter n => exact ⟨n, rfl⟩
  | _ =>
    rw [hr] at hk
    cases hk

lemma history_line_counter (hd : f.derived = true) (hk : m.reading.kind = .counter) :
    (line f h m).2 =
      (h.makeRoom f.historyLimit (m.name f.namePrefix)).insert (m.name f.namePrefix) m := by
  obtain ⟨n, hn⟩ := exists_counter hk
  simp [line, valueText, hd, hn]

lemma line_gauge (hk : m.reading.kind ≠ .counter) :
    line f h m =
      (some (lineText f.source m.time (m.nameChars f.namePrefix) m.reading.text), h) := by
  unfold line valueText
  cases hr : m.reading <;> simp_all [Reading.kind]

lemma remembers_history (hd : f.derived = true) (hl : 1 ≤ f.historyLimit)
    (ms : List Measurement) : Remembers f (epoch f ms) (history f ms) := by
  induction ms using List.reverseRecOn with
  | nil => exact remembers_nil f
  | append_singleton ms m ih =>
    rw [epoch_snoc, history_snoc]
    split
    next hk =>
      rw [history_line_counter hd hk]
      exact (ih.makeRoom m).insert hk (length_names_before hl)
    next hk =>
      rw [line_gauge hk]
      exact ih

lemma getElem?_lines (f : LineFormat) (h : History) (ms : List Measurement) (i : Nat) :
    (lines f h ms)[i]? =
      ms[i]?.map fun m => (line f ((ms.take i).foldl (fun h m => (line f h m).2) h) m).1 := by
  induction ms generalizing h i with
  | nil => rfl
  | cons m ms ih =>
    cases i with
    | zero => rfl
    | succ i => exact ih (line f h m).2 i

/-- A reading of a counter is written if there is another one of its name before it. -/
lemma Remembers.line_counter {n : UInt64} (hr : Remembers f e h) (hd : f.derived = true)
    (hm : m.reading = .counter n) :
    match latest? f (before f e m) (m.name f.namePrefix) with
    | none => (line f h m).1 = none
    | some x => ∃ last, x.reading = .counter last ∧
        (line f h m).1 = some (lineText f.source m.time (m.nameChars f.namePrefix)
          (digits (counterDifference n last).toNat)) := by
  have hbefore := hr.makeRoom m
  have hfind := hbefore.latest (m.name f.namePrefix)
  split
  next hx =>
    rw [hx] at hfind
    simp [line, valueText, hd, hm, hfind]
  next x hx =>
    rw [hx] at hfind
    obtain ⟨last, hlast⟩ := exists_counter (hbefore.counters x (mem_of_latest? hx).1)
    refine ⟨last, hlast, ?_⟩
    simp [line, valueText, hd, hm, hfind, Measurement.difference, hlast]

/--
**Derived lines, epoch by epoch.** Gauges are written as they are and leave no trace. A reading of a
counter is not written if it is the first of its name in its epoch, and else it is written as what
the counter gained since the reading before it. The history holds just the last reading of each name
of the epoch, all of them of counters, and never more of them than the limit allows.
-/
theorem derived_lines_by_epoch (f : LineFormat) (hd : f.derived = true) (hl : 1 ≤ f.historyLimit)
    (ms : List Measurement) :
    (∀ i m, ms[i]? = some m → ∃ text, (lines f [] ms)[i]? = some text ∧
        (m.reading.kind ≠ .counter →
          text = some (lineText f.source m.time (m.nameChars f.namePrefix) m.reading.text) ∧
            history f (ms.take (i + 1)) = history f (ms.take i)) ∧
        ∀ n, m.reading = .counter n →
          let earlier := before f (epoch f (ms.take i)) m
          (text = none ↔ ∀ x ∈ earlier, x.name f.namePrefix ≠ m.name f.namePrefix) ∧
          ∀ x, latest? f earlier (m.name f.namePrefix) = some x →
            ∃ last, x.reading = .counter last ∧
              text = some (lineText f.source m.time (m.nameChars f.namePrefix)
                (digits (counterDifference n last).toNat))) ∧
      (∀ name, (history f ms).find? name = latest? f (epoch f ms) name) ∧
      (∀ p ∈ history f ms, latest? f (epoch f ms) p.1 = some p.2 ∧ p.2.reading.kind = .counter) ∧
      (history f ms).keys.Nodup ∧ (history f ms).length = (names f (epoch f ms)).length ∧
      (history f ms).length ≤ f.historyLimit := by
  have hrun := remembers_history hd hl ms
  refine ⟨fun i m hm => ?_, hrun.latest, ?_, hrun.nodup, hrun.length, hrun.length_le⟩
  · have hr := remembers_history hd hl (ms.take i)
    refine ⟨(line f (history f (ms.take i)) m).1, ?_, fun hk => ⟨?_, ?_⟩, fun n hn => ?_⟩
    · rw [getElem?_lines, hm]
      rfl
    · rw [line_gauge hk]
    · rw [List.take_add_one, hm, Option.toList_some, history_snoc, line_gauge hk]
    · intro earlier
      have hline := hr.line_counter hd hn
      rw [← latest?_eq_none]
      split at hline
      next hnone =>
        refine ⟨⟨fun _ => hnone, fun _ => hline⟩, fun x hx => ?_⟩
        rw [hnone] at hx
        cases hx
      next x hx =>
        obtain ⟨last, hlast, htext⟩ := hline
        rw [htext, hx]
        refine ⟨⟨nofun, nofun⟩, fun y hy => ?_⟩
        obtain rfl := Option.some.inj hy
        exact ⟨last, hlast, rfl⟩
  · rintro ⟨name, x⟩ hx
    have hlatest : latest? f (epoch f ms) name = some x := by
      rw [← hrun.latest]
      exact History.find?_of_mem hrun.nodup hx
    exact ⟨hlatest, hrun.counters x (mem_of_latest? hlatest).1⟩

/-- A submitted counter of the first second. -/
def hits (name : String) (n : UInt64) : Measurement :=
  ⟨⟨0, 0⟩, "listen", [name], .counter n, .none⟩

/-- A third name among two, with a gauge under the first name in between. -/
def threeNames : List Measurement :=
  [hits "a" 1, hits "b" 1, hits "a" 3, { hits "a" 0 with reading := .gauge 7 }, hits "c" 1,
    hits "a" 5]

/-- The first name gains two before the third one comes, and is new again afterwards. -/
theorem derived_lines_by_epoch_threeNames :
    let f : LineFormat := ⟨none, none, true, 2⟩
    f.derived = true ∧ 1 ≤ f.historyLimit ∧
      (lines f [] threeNames)[2]? =
        some (some (lineText none ⟨0, 0⟩ ((hits "a" 3).nameChars none) (digits 2))) ∧
      (lines f [] threeNames)[5]? = some none ∧ (history f threeNames).length ≤ 2 := by
  intro f
  have hd : f.derived = true := rfl
  have hl : 1 ≤ f.historyLimit := by decide
  obtain ⟨hlines, -, -, -, -, hlength⟩ := derived_lines_by_epoch f hd hl threeNames
  refine ⟨hd, hl, ?_, ?_, hlength⟩
  · obtain ⟨text, htext, -, hcounter⟩ := hlines 2 (hits "a" 3) rfl
    have hx : latest? f (before f (epoch f (threeNames.take 2)) (hits "a" 3))
        ((hits "a" 3).name f.namePrefix) = some (hits "a" 1) := by decide +kernel
    obtain ⟨last, hlast, rfl⟩ := (hcounter 3 rfl).2 _ hx
    obtain rfl : 1 = last := Reading.counter.inj hlast
    exact htext
  · obtain ⟨text, htext, -, hcounter⟩ := hlines 5 (hits "a" 5) rfl
    rw [(hcounter 5 rfl).1.mpr (by decide +kernel)] at htext
    exact htext

end MetricAgent.Output
