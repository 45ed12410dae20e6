import Mathlib.Algebra.BigOperators.Ring.List
import Mathlib.Tactic.Ring
import MetricAgent.Proofs.Decimal.Digits
import MetricAgent.Time.Human

/-!
Spans that people read and write. A number with the name of a unit adds so many of the unit to what
was read before it, and the numbers of a span add up to the span; so every span is read back.
-/

namespace MetricAgent.Time

open Decimal Text

/-- The length of a unit in nanoseconds. -/
def TimeUnit.length (u : TimeUnit) : Nat := u.seconds * Span.perSecond + u.nanos

/-- The name that is written for a number of units. -/
def TimeUnit.label (n : Nat) : TimeUnit → String
  | .nanosecond => "ns"
  | .microsecond => "us"
  | .millisecond => "ms"
  | .second => "s"
  | .minute => "m"
  | .hour => "h"
  | .day => if 1 < n then "day" ++ "s" else "day"
  | .week => "w"
  | .month => if 1 < n then "month" ++ "s" else "month"
  | .year => if 1 < n then "year" ++ "s" else "year"

namespace Span

variable {total sum : Span} {n o since : Nat} {s r : List Char} {c : Char} {u : TimeUnit}

/-! ### Numbers and names -/

lemma word_of_lt (h : n < wordBound) : word n = .ok n := if_pos h

lemma scanFrom_cons {a b : Scan} (h : step a o c = .ok b) (r : List Char) :
    scanFrom a o (c :: r) = scanFrom b (o + c.utf8Size) r := by
  rw [scanFrom, h]
  rfl

lemma scanFrom_digits (total : Span) (hs : ∀ c ∈ s, c.isDigit = true)
    (hlt : 10 ^ s.length * n + ofDigits s < wordBound) (r : List Char) :
    ∃ o', scanFrom ⟨total, .whole n⟩ o (s ++ r) =
      scanFrom ⟨total, .whole (10 ^ s.length * n + ofDigits s)⟩ o' r := by
  induction s generalizing n o with
  | nil => exact ⟨o, by simp [ofDigits]⟩
  | cons c s ih =>
    obtain ⟨d, hd⟩ : ∃ d, d = c.toNat - 48 := ⟨_, rfl⟩
    have hvalue : 10 ^ (c :: s).length * n + ofDigits (c :: s) =
        10 ^ s.length * (10 * n + d) + ofDigits s := by
      have happend := ofDigits_append [c] s
      rw [List.singleton_append, show ofDigits [c] = d by simp [ofDigits, hd]] at happend
      rw [happend, List.length_cons, pow_succ]
      ring
    rw [hvalue] at hlt ⊢
    have hpush : pushDigit n c = .ok (10 * n + d) := by
      rw [pushDigit, ← hd]
      refine word_of_lt (lt_of_le_of_lt ?_ hlt)
      exact le_add_right (Nat.le_mul_of_pos_left _ (Nat.pow_pos (by decide)))
    have hstep : step ⟨total, .whole n⟩ o c = .ok ⟨total, .whole (10 * n + d)⟩ := by
      simp [step, hs c List.mem_cons_self, hpush, Except.map]
    obtain ⟨o', h⟩ := ih (o := o + c.utf8Size) (fun e he => hs e (List.mem_cons_of_mem _ he)) hlt
    exact ⟨o', by rw [List.cons_append, scanFrom_cons hstep, h]⟩

lemma letters_of_ofName? (h : TimeUnit.ofName? s = some u) :
    s ≠ [] ∧ ∀ c ∈ s, isUnitLetter c = true ∧ c.isDigit = false ∧ isBlank c = false := by
  have hall : (TimeUnit.all.all fun u => (u.names.map String.toList).all fun t =>
      !t.isEmpty && t.all fun c => isUnitLetter c && !c.isDigit && !isBlank c) = true := by
    decide
  have hnames := List.find?_some h
  have hs := List.all_eq_true.mp
    (List.all_eq_true.mp hall u (List.mem_of_find?_eq_some h)) s (List.contains_iff_mem.mp hnames)
  simpa [and_assoc] using hs

lemma scanFrom_letters (total : Span)
    (hs : ∀ c ∈ s, isUnitLetter c = true ∧ c.isDigit = false ∧ isBlank c = false)
    (letters r : List Char) :
    ∃ o', scanFrom ⟨total, .unit n none letters⟩ o (s ++ r) =
      scanFrom ⟨total, .unit n none (letters ++ s)⟩ o' r := by
  induction s generalizing o letters with
  | nil => exact ⟨o, by simp⟩
  | cons c s ih =>
    obtain ⟨hletter, hdigit, hblank⟩ := hs c List.mem_cons_self
    have hstep : step ⟨total, .unit n none letters⟩ o c =
        .ok ⟨total, .unit n none (letters ++ [c])⟩ := by
      simp [step, hletter, hdigit, hblank]
    obtain ⟨o', h⟩ := ih (o := o + c.utf8Size) (fun e he => hs e (List.mem_cons_of_mem _ he))
      (letters ++ [c])
    refine ⟨o', ?_⟩
    rw [List.cons_append, scanFrom_cons hstep, h, List.append_assoc, List.singleton_append]

/-! ### Parts -/

/-- A number in front of the name of a unit. -/
structure Part where
  number : Nat
  unit : TimeUnit
  name : String

def Part.text (p : Part) : List Char := digits p.number ++ p.name.toList

def Part.nanos (p : Part) : Nat := p.number * p.unit.length

/-- The unit is read by this name, and there is less than a second of one below a second. -/
structure Part.IsSound (p : Part) : Prop where
  unit : TimeUnit.ofName? p.name.toList = some p.unit
  small : p.number * p.unit.nanos < perSecond

variable {p : Part}

lemma words_of_le {seconds nanos : Nat} (h : total.nanos + seconds * perSecond + nanos ≤ maxNanos)
    (hn : nanos < perSecond) : seconds < wordBound ∧ nanos < wordBound ∧
      total.subsecNanos + nanos < wordBound := by
  have hsub : total.subsecNanos < perSecond := Nat.mod_lt _ (by decide)
  unfold maxNanos at h
  unfold perSecond wordBound at *
  omega

lemma Part.IsSound.addPart (hp : p.IsSound) (h : sum.nanos = total.nanos + p.nanos) :
    addPart total p.number none p.name.toList = .ok sum := by
  obtain ⟨nanos, hle⟩ := sum
  obtain rfl : nanos =
      total.nanos + p.number * p.unit.seconds * perSecond + p.number * p.unit.nanos := by
    rw [Part.nanos, TimeUnit.length] at h
    dsimp only at h
    rw [h]
    ring
  obtain ⟨hseconds, hnanos, hsub⟩ := words_of_le hle hp.small
  have hadd : addTo total (p.number * p.unit.seconds) (p.number * p.unit.nanos) = .ok ⟨_, hle⟩ := by
    simp only [addTo, word_of_lt hsub, bind, Except.bind, dif_pos hle]
  simp only [Span.addPart, hp.unit, word_of_lt hseconds, word_of_lt hnanos, bind, Except.bind, hadd]

lemma Part.IsSound.scanFrom (hp : p.IsSound) (hn : p.number < wordBound) (total : Span)
    (since : Nat) (r : List Char) :
    ∃ o', scanFrom ⟨total, .start since⟩ o (p.text ++ r) =
      Span.scanFrom ⟨total, .unit p.number none p.name.toList⟩ o' r := by
  obtain ⟨hne, hletters⟩ := letters_of_ofName? hp.unit
  obtain ⟨d, ds, hds⟩ := List.exists_cons_of_ne_nil (digits_ne_nil p.number)
  obtain ⟨l, ls, hls⟩ := List.exists_cons_of_ne_nil hne
  have hdigit : ∀ c ∈ d :: ds, c.isDigit = true := fun c hc => isDigit_of_mem_digits (hds ▸ hc)
  have hvalue : 10 ^ ds.length * (d.toNat - 48) + ofDigits ds = p.number := by
    have happend := ofDigits_append [d] ds
    rw [List.singleton_append, ← hds, ofDigits_digits] at happend
    simpa [ofDigits] using happend.symm
  have hfirst : step ⟨total, .start since⟩ o d = .ok ⟨total, .whole (d.toNat - 48)⟩ := by
    simp [step, hdigit d List.mem_cons_self]
  obtain ⟨o₁, hnumber⟩ := scanFrom_digits (o := o + d.utf8Size) total
    (fun c hc => hdigit c (List.mem_cons_of_mem _ hc)) (hvalue ▸ hn) (l :: (ls ++ r))
  rw [hls] at hletters
  obtain ⟨hletter, hnodigit, hnoblank⟩ := hletters l List.mem_cons_self
  have hbegin : step ⟨total, .whole p.number⟩ o₁ l = .ok ⟨total, .unit p.number none [l]⟩ := by
    simp [step, hletter, hnodigit, hnoblank]
  obtain ⟨o₂, hname⟩ := scanFrom_letters (n := p.number) (o := o₁ + l.utf8Size) total
    (fun c hc => hletters c (List.mem_cons_of_mem _ hc)) [l] r
  refine ⟨o₂, ?_⟩
  rw [Part.text, hds, hls, List.append_assoc, List.cons_append, List.cons_append,
    scanFrom_cons hfirst, hnumber, hvalue, scanFrom_cons hbegin, hname, List.singleton_append]

/-- The nanoseconds of some parts together. -/
def nanosOf (ps : List Part) : Nat := (ps.map Part.nanos).sum

lemma scanFrom_parts {ps : List Part} (hne : ps ≠ [])
    (hps : ∀ p ∈ ps, p.IsSound ∧ p.number < wordBound) (h : sum.nanos = total.nanos + nanosOf ps) :
    scanFrom ⟨total, .start since⟩ o ([' '].intercalate (ps.map Part.text)) = .ok sum := by
  induction ps generalizing total since o with
  | nil => exact absurd rfl hne
  | cons p ps ih =>
    obtain ⟨hp, hn⟩ := hps p List.mem_cons_self
    have hle := sum.nanos_le
    rw [nanosOf, List.map_cons, List.sum_cons, ← nanosOf, ← Nat.add_assoc] at h
    rcases eq_or_ne ps [] with rfl | hne
    · obtain ⟨o', hscan⟩ := hp.scanFrom (o := o) hn total since []
      rw [List.append_nil] at hscan
      rw [List.map_singleton, List.intercalate_singleton, hscan]
      have hempty : nanosOf [] = 0 := rfl
      rw [hempty, Nat.add_zero] at h
      exact hp.addPart h
    · obtain ⟨next, hnext⟩ : ∃ next : Span, next.nanos = total.nanos + p.nanos :=
        ⟨⟨total.nanos + p.nanos, by omega⟩, rfl⟩
      obtain ⟨o', hscan⟩ := hp.scanFrom (o := o) hn total since
        (' ' :: [' '].intercalate (ps.map Part.text))
      have hblank : step ⟨total, .unit p.number none p.name.toList⟩ o' ' ' =
          .ok ⟨next, .start (o' + ' '.utf8Size)⟩ := by
        simp [step, hp.addPart hnext, Except.map, show isBlank ' ' = true by decide]
      rw [← hnext] at h
      rw [List.map_cons, List.intercalate_cons_of_ne_nil (by simpa using hne), List.append_assoc,
        List.singleton_append, hscan, scanFrom_cons hblank]
      exact ih hne (fun q hq => hps q (List.mem_cons_of_mem _ hq)) h

/-! ### The parts of a span -/

/-- The numbers of some units in a total, as many of each unit as there are left. -/
def greedy (size : TimeUnit → Nat) : List TimeUnit → Nat → List Part
  | [], _ => []
  | u :: us, n => ⟨n / size u, u, TimeUnit.label (n / size u) u⟩ :: greedy size us (n % size u)

/-- The units that are written for whole seconds. -/
def wholeUnits : List TimeUnit := [.year, .month, .day, .hour, .minute, .second]

/-- The units that are written for what is less than a second. -/
def subsecUnits : List TimeUnit := [.millisecond, .microsecond, .nanosecond]

/-- The numbers of a span with their units, none of them left out. -/
def parts (d : Span) : List Part :=
  greedy TimeUnit.seconds wholeUnits d.wholeSeconds ++
    greedy TimeUnit.nanos subsecUnits d.subsecNanos

/-- The parts that are written. -/
def written (d : Span) : List Part := d.parts.filter (·.number ≠ 0)

lemma ofName?_label (n : Nat) (u : TimeUnit) :
    TimeUnit.ofName? (TimeUnit.label n u).toList = some u := by
  cases u <;> dsimp only [TimeUnit.label] <;> try split
  all_goals decide

lemma of_mem_greedy {size : TimeUnit → Nat} {us : List TimeUnit} (hp : p ∈ greedy size us n) :
    p.unit ∈ us ∧ p.name = TimeUnit.label p.number p.unit ∧ p.number * size p.unit ≤ n := by
  induction us generalizing n with
  | nil => cases hp
  | cons u us ih =>
    rcases List.mem_cons.mp hp with rfl | hp
    · exact ⟨List.mem_cons_self, rfl, Nat.div_mul_le_self n (size u)⟩
    · obtain ⟨hu, hname, hle⟩ := ih hp
      exact ⟨List.mem_cons_of_mem _ hu, hname, hle.trans (Nat.mod_le n (size u))⟩

lemma sum_greedy {size : TimeUnit → Nat} (hu : size u = 1) (us : List TimeUnit) (n : Nat) :
    ((greedy size (us ++ [u]) n).map fun p => p.number * size p.unit).sum = n := by
  induction us generalizing n with
  | nil => simp [greedy, hu]
  | cons v us ih =>
    rw [List.cons_append, greedy, List.map_cons, List.sum_cons, ih]
    exact Nat.div_add_mod' n (size v)

lemma Part.IsSound.of_label (hname : p.name = TimeUnit.label p.number p.unit)
    (hsmall : p.number * p.unit.nanos < perSecond) : p.IsSound :=
  ⟨hname ▸ ofName?_label p.number p.unit, hsmall⟩

lemma isSound_of_mem_parts {d : Span} (hp : p ∈ d.parts) : p.IsSound ∧ p.number < wordBound := by
  have hd := d.nanos_le
  have hwhole : d.wholeSeconds < wordBound := by
    unfold wholeSeconds
    unfold maxNanos perSecond wordBound at *
    omega
  have hsub : d.subsecNanos < perSecond := Nat.mod_lt _ (by decide)
  rcases List.mem_append.mp hp with hp | hp
  · obtain ⟨hu, hname, hle⟩ := of_mem_greedy hp
    have hunits : ∀ u ∈ wholeUnits, 0 < u.seconds ∧ u.nanos = 0 := by decide
    obtain ⟨hpos, hzero⟩ := hunits _ hu
    have := Nat.le_mul_of_pos_right p.number hpos
    exact ⟨.of_label hname (by rw [hzero, Nat.mul_zero]; decide), by omega⟩
  · obtain ⟨hu, hname, hle⟩ := of_mem_greedy hp
    have hunits : ∀ u ∈ subsecUnits, 0 < u.nanos := by decide
    have := Nat.le_mul_of_pos_right p.number (hunits _ hu)
    have hword : perSecond < wordBound := by decide
    exact ⟨.of_label hname (by omega), by omega⟩

lemma nanosOf_parts (d : Span) : nanosOf d.parts = d.nanos := by
  have hwhole : ∀ p ∈ greedy TimeUnit.seconds wholeUnits d.wholeSeconds,
      p.nanos = p.number * p.unit.seconds * perSecond := by
    intro p hp
    have hunits : ∀ u ∈ wholeUnits, u.nanos = 0 := by decide
    rw [Part.nanos, TimeUnit.length, hunits _ (of_mem_greedy hp).1, Nat.add_zero, Nat.mul_assoc]
  have hsub : ∀ p ∈ greedy TimeUnit.nanos subsecUnits d.subsecNanos,
      p.nanos = p.number * p.unit.nanos := by
    intro p hp
    have hunits : ∀ u ∈ subsecUnits, u.seconds = 0 := by decide
    rw [Part.nanos, TimeUnit.length, hunits _ (of_mem_greedy hp).1, Nat.zero_mul, Nat.zero_add]
  have hseconds : ((greedy TimeUnit.seconds wholeUnits d.wholeSeconds).map fun p =>
      p.number * p.unit.seconds).sum = d.wholeSeconds :=
    sum_greedy (u := .second) rfl [.year, .month, .day, .hour, .minute] d.wholeSeconds
  have hnanos : ((greedy TimeUnit.nanos subsecUnits d.subsecNanos).map fun p =>
      p.number * p.unit.nanos).sum = d.subsecNanos :=
    sum_greedy (u := .nanosecond) rfl [.millisecond, .microsecond] d.subsecNanos
  rw [nanosOf, parts, List.map_append, List.sum_append, List.map_congr_left hwhole,
    List.map_congr_left hsub, List.sum_map_mul_right, hseconds, hnanos, wholeSeconds, subsecNanos,
    Nat.div_add_mod']

lemma nanosOf_written (d : Span) : nanosOf d.written = d.nanos := by
  have hfilter (ps : List Part) : nanosOf (ps.filter (·.number ≠ 0)) = nanosOf ps := by
    induction ps with
    | nil => rfl
    | cons p ps ih =>
      unfold nanosOf at ih ⊢
      rw [List.map_cons, List.sum_cons, ← ih]
      by_cases hp : p.number = 0
      · simp [hp, Part.nanos]
      · simp [hp]
  rw [written, hfilter, nanosOf_parts]

/-! ### The text of a span -/

/-- What is written for a part. -/
def Part.shown (p : Part) : List String := item p.number p.name

lemma map_toList_shown (ps : List Part) :
    (ps.flatMap Part.shown).map String.toList = (ps.filter (·.number ≠ 0)).map Part.text := by
  induction ps with
  | nil => rfl
  | cons p ps ih =>
    rw [List.flatMap_cons, List.map_append, ih]
    by_cases hp : p.number = 0
    · simp [Part.shown, item, hp]
    · simp [Part.shown, item, hp, Part.text, Decimal.text]

/-- Each item counts what the items before it leave. -/
lemma items_eq (d : Span) : d.items = d.parts.flatMap Part.shown := by
  have hsecond : TimeUnit.second.seconds = 1 := rfl
  have hnanosecond : TimeUnit.nanosecond.nanos = 1 := rfl
  -- some units are written from the whole total, not from what the unit before leaves
  have hminute (s : Nat) : s % 60 = s % 3600 % 60 := (Nat.mod_mod_of_dvd s (by decide)).symm
  have hmicro (n : Nat) : n / perMicro % perMicro = n % perMilli / perMicro :=
    (Nat.mod_mul_right_div_self n perMicro perMicro).symm
  have hnano (n : Nat) : n % perMicro = n % perMilli % perMicro :=
    (Nat.mod_mod_of_dvd n (by decide)).symm
  unfold items parts
  generalize d.wholeSeconds = s
  generalize d.subsecNanos = n
  dsimp only
  rw [hminute, hmicro, hnano]
  simp only [wholeUnits, subsecUnits, greedy, List.cons_append, List.nil_append, List.flatMap_cons,
    List.flatMap_nil, List.append_nil, Part.shown, List.append_assoc, hsecond, hnanosecond,
    Nat.div_one]
  rfl

lemma exists_parts (d : Span) : ∃ ps, ps ≠ [] ∧ (∀ p ∈ ps, p.IsSound ∧ p.number < wordBound) ∧
    d.toHuman.toList = [' '].intercalate (ps.map Part.text) ∧ nanosOf ps = d.nanos := by
  cases hd : d.isZero with
  | true =>
    have hzero : d.nanos = 0 := of_decide_eq_true hd
    refine ⟨[⟨0, .second, "s"⟩], by simp, ?_, ?_, ?_⟩
    · simp only [List.mem_singleton, forall_eq]
      exact ⟨⟨by decide, by decide⟩, by decide⟩
    · rw [toHuman, if_pos hd]
      rfl
    · simp [nanosOf, Part.nanos, hzero]
  | false =>
    refine ⟨d.written, fun hnil => ?_, fun p hp => isSound_of_mem_parts (List.mem_filter.mp hp).1,
      ?_, nanosOf_written d⟩
    · have hsum := nanosOf_written d
      rw [hnil] at hsum
      exact of_decide_eq_false hd hsum.symm
    · rw [toHuman, if_neg (by simp [hd]), String.toList_intercalate, items_eq, map_toList_shown]
      rfl

/-- A part is more than a digit, and so is a text that begins with one. -/
lemma intercalate_ne_zero {ps : List Part} (hne : ps ≠ []) (hps : ∀ p ∈ ps, p.IsSound) :
    [' '].intercalate (ps.map Part.text) ≠ ['0'] := by
  obtain ⟨p, rest, rfl⟩ := List.exists_cons_of_ne_nil hne
  have hdigits := length_digits_pos p.number
  have hname := List.length_pos_iff.mpr (letters_of_ofName? (hps p List.mem_cons_self).unit).1
  have htext : 2 ≤ p.text.length := by
    rw [Part.text, List.length_append]
    omega
  intro h
  have hlength := congrArg List.length h
  rcases eq_or_ne rest [] with rfl | hrest
  · rw [List.map_singleton, List.intercalate_singleton, List.length_singleton] at hlength
    omega
  · rw [List.map_cons, List.intercalate_cons_of_ne_nil (by simpa using hrest), List.length_append,
      List.length_append, List.length_singleton, List.length_singleton] at hlength
    omega

/-- Every span is read back from its text. -/
theorem ofHuman_toHuman (d : Span) : ofHuman d.toHuman.toList = .ok d := by
  obtain ⟨ps, hne, hps, htext, hsum⟩ := exists_parts d
  rw [htext, ofHuman, if_neg (intercalate_ne_zero hne fun p hp => (hps p hp).1)]
  refine scanFrom_parts hne hps ?_
  rw [hsum]
  exact (Nat.zero_add _).symm

end Span

end MetricAgent.Time
