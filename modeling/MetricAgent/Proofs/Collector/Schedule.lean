import MetricAgent.Collector.TickLoop
import MetricAgent.Proofs.Run
import Mathlib.Algebra.Order.Ring.Nat

/-!
When ticks start. Deadlines are multiples of the interval in increasing order, and the one that
follows a tick is the first multiple after its start; so no two polls overlap and no tick is made up
for. The loop that polls keeps to this schedule until it is stopped, and a stop waits for the poll
that is under way.
-/

namespace MetricAgent.Collector

variable {interval : Nat} {lasts : Nat → Nat} {stop : Option Nat}

/-! ### Deadlines -/

/-- The first multiple of an interval after some time. -/
structure IsNextMultiple (interval time m : Nat) : Prop where
  dvd : interval ∣ m
  after : time < m
  le_of_dvd : ∀ k, interval ∣ k → time < k → m ≤ k

lemma isNextMultiple_div (h : 0 < interval) (time : Nat) :
    IsNextMultiple interval time (interval * (time / interval + 1)) where
  dvd := ⟨_, rfl⟩
  after := by
    have hsplit := Nat.div_add_mod time interval
    have hlt := Nat.mod_lt time h
    rw [Nat.mul_succ]
    omega
  le_of_dvd := by
    rintro _ ⟨k, rfl⟩ hk
    exact Nat.mul_le_mul_left interval (Nat.div_lt_of_lt_mul hk)

lemma IsNextMultiple.eq {time m m' : Nat} (h : IsNextMultiple interval time m)
    (h' : IsNextMultiple interval time m') : m = m' :=
  Nat.le_antisymm (h.le_of_dvd m' h'.dvd h'.after) (h'.le_of_dvd m h.dvd h.after)

namespace TickTime

/-- A tick on the grid of an interval starts no earlier than its deadline. -/
structure IsDue (interval : Nat) (t : TickTime) : Prop where
  dvd : interval ∣ t.deadline
  le : t.deadline ≤ t.start

variable {t : TickTime}

lemma IsDue.nextDeadline (ht : t.IsDue interval) (h : lateness < interval) :
    IsNextMultiple interval t.start (t.nextDeadline interval) := by
  have hpos : 0 < interval := Nat.zero_lt_of_lt h
  have heq : t.nextDeadline interval = interval * (t.start / interval + 1) := by
    obtain ⟨⟨k, hk⟩, hle⟩ := ht
    have hsplit := Nat.div_add_mod t.start interval
    have hlt := Nat.mod_lt t.start hpos
    unfold TickTime.nextDeadline
    rw [Nat.mul_succ]
    split
    next =>
      rw [hk] at hle ⊢
      rw [Nat.sub_mul_mod hle]
      omega
    next hlate =>
      -- a start that is hardly late lies before the deadline after its own
      have hdiv : t.start / interval = k := by
        refine Nat.div_eq_of_lt_le ?_ ?_
        · rw [Nat.mul_comm, ← hk]
          exact hle
        · rw [Nat.mul_comm, Nat.mul_succ, ← hk]
          omega
      rw [hdiv, hk]
  rw [heq]
  exact isNextMultiple_div hpos t.start

lemma IsDue.next (ht : t.IsDue interval) (h : lateness < interval) (lasts : Nat) :
    (t.next interval lasts).IsDue interval :=
  ⟨(ht.nextDeadline h).dvd, Nat.le_max_right _ _⟩

lemma isDue_nth (h : lateness < interval) (lasts : Nat → Nat) (n : Nat) :
    (nth interval lasts n).IsDue interval := by
  induction n with
  | zero => exact ⟨⟨0, rfl⟩, Nat.le_refl 0⟩
  | succ n ih => exact ih.next h (lasts n)

lemma isNextMultiple_nth (h : lateness < interval) (lasts : Nat → Nat) (n : Nat) :
    IsNextMultiple interval (nth interval lasts n).start (nth interval lasts (n + 1)).deadline :=
  (isDue_nth h lasts n).nextDeadline h

lemma deadline_lt (h : lateness < interval) (lasts : Nat → Nat) (n : Nat) :
    (nth interval lasts n).deadline < (nth interval lasts (n + 1)).deadline :=
  Nat.lt_of_le_of_lt (isDue_nth h lasts n).le (isNextMultiple_nth h lasts n).after

lemma add_le_nextDeadline (interval : Nat) (t : TickTime) :
    t.deadline + interval ≤ t.nextDeadline interval := by
  unfold TickTime.nextDeadline
  split
  next hlate =>
    have hmod := Nat.mod_le (t.start - t.deadline) interval
    omega
  next => exact Nat.le_refl _

lemma mul_le_deadline (interval : Nat) (lasts : Nat → Nat) (n : Nat) :
    n * interval ≤ (nth interval lasts n).deadline := by
  induction n with
  | zero => exact Nat.le_of_eq (Nat.zero_mul interval)
  | succ n ih =>
    calc (n + 1) * interval = n * interval + interval := Nat.succ_mul n interval
      _ ≤ (nth interval lasts n).deadline + interval := Nat.add_le_add_right ih interval
      _ ≤ (nth interval lasts (n + 1)).deadline := add_le_nextDeadline interval _

/-! ### Ticks on a grid -/

/-- When the polls before a tick have ended. -/
def free (interval : Nat) (lasts : Nat → Nat) : Nat → Nat
  | 0 => 0
  | n + 1 => (nth interval lasts n).start + lasts n

lemma start_eq (interval : Nat) (lasts : Nat → Nat) (n : Nat) :
    (nth interval lasts n).start = max (free interval lasts n) (nth interval lasts n).deadline := by
  cases n with
  | zero => rfl
  | succ n => rfl

lemma free_le_start (interval : Nat) (lasts : Nat → Nat) (n : Nat) :
    free interval lasts n ≤ (nth interval lasts n).start := by
  rw [start_eq]
  exact Nat.le_max_left _ _

lemma monotone_free (interval : Nat) (lasts : Nat → Nat) : Monotone (free interval lasts) :=
  monotone_nat_of_le_succ fun n => Nat.le_add_right_of_le (free_le_start interval lasts n)

/-- What the ticks of a schedule have to do with its grid, the multiples of an interval. -/
structure KeepGrid (interval : Nat) (lasts : Nat → Nat) (ticks : Nat → TickTime) : Prop where
  first : ticks 0 = ⟨0, 0⟩
  start_succ : ∀ n,
    (ticks (n + 1)).start = max ((ticks n).start + lasts n) (ticks (n + 1)).deadline
  dvd_deadline : ∀ n, interval ∣ (ticks n).deadline
  deadline_lt : ∀ m n, m < n → (ticks m).deadline < (ticks n).deadline
  /-- A deadline that has passed when a tick starts is skipped. -/
  skips : ∀ n, IsNextMultiple interval (ticks n).start (ticks (n + 1)).deadline
  apart : ∀ m n, m < n → (ticks m).start + lasts m ≤ (ticks n).start
  /-- A tick that is off the grid starts when the poll before it, which overran, has ended. -/
  aligned : ∀ n, interval ∣ (ticks n).start ∨
    ∃ m, n = m + 1 ∧ (ticks n).deadline < (ticks n).start ∧
      (ticks n).start = (ticks m).start + lasts m
  /-- After a poll that ends by the next multiple, a tick starts at that multiple. -/
  resumes : ∀ n m, IsNextMultiple interval (ticks n).start m → (ticks n).start + lasts n ≤ m →
    (ticks (n + 1)).start = m
  /-- One tick starts up to some time for each multiple that has passed by then, at most. -/
  few : ∀ n time, (ticks n).start ≤ time → n < time / interval + 1

/-- Deadlines that have passed are skipped, however long the polls last. -/
lemma keepGrid_nth (h : lateness < interval) (lasts : Nat → Nat) :
    KeepGrid interval lasts (nth interval lasts) where
  first := rfl
  start_succ _ := rfl
  dvd_deadline n := (isDue_nth h lasts n).dvd
  deadline_lt _ _ hmn := strictMono_nat_of_lt_succ (deadline_lt h lasts) hmn
  skips n := isNextMultiple_nth h lasts n
  apart m n hmn :=
    calc free interval lasts (m + 1) ≤ free interval lasts n :=
          monotone_free interval lasts (Nat.succ_le_of_lt hmn)
      _ ≤ (nth interval lasts n).start := free_le_start interval lasts n
  aligned n := by
    have hdvd := (isDue_nth h lasts n).dvd
    rcases Nat.lt_or_ge (nth interval lasts n).deadline (free interval lasts n) with hlt | hle
    · right
      have hstart := start_eq interval lasts n
      rw [Nat.max_eq_left (Nat.le_of_lt hlt)] at hstart
      cases n with
      | zero => cases hlt
      | succ n => exact ⟨n, rfl, hstart ▸ hlt, hstart⟩
    · left
      rwa [start_eq, Nat.max_eq_right hle]
  resumes n m hm hle := by
    rw [start_eq, (isNextMultiple_nth h lasts n).eq hm]
    exact Nat.max_eq_right hle
  few n time hle := by
    have hpos : 0 < interval := Nat.zero_lt_of_lt h
    have hn : n * interval ≤ time :=
      Nat.le_trans (mul_le_deadline interval lasts n)
        (Nat.le_trans (isDue_nth h lasts n).le hle)
    exact Nat.lt_succ_of_le ((Nat.le_div_iff_mul_le hpos).mpr hn)

end TickTime

/-! ### The loop -/

namespace TickLoop

open TickTime

variable {l l' : TickLoop} {x : Step}

/-- What one step can do to the loop. -/
inductive Moves (interval : Nat) (lasts : Nat → Nat) (stop : Option Nat) :
    TickLoop → TickLoop → Prop where
  | start (now d : Nat) (ticks : List TickTime)
      (first : ∀ s, stop = some s → max now d ≤ max now s) :
      Moves interval lasts stop ⟨now, .waiting d, ticks⟩
        ⟨max now d, .polling ⟨d, max now d⟩, ticks⟩
  | finish (now : Nat) (t : TickTime) (ticks : List TickTime) :
      Moves interval lasts stop ⟨now, .polling t, ticks⟩
        ⟨t.start + lasts ticks.length, .waiting (t.nextDeadline interval), ticks ++ [t]⟩
  | stop (now d s : Nat) (ticks : List TickTime) (comes : stop = some s)
      (first : max now s ≤ max now d) :
      Moves interval lasts stop ⟨now, .waiting d, ticks⟩ ⟨max now s, .stopped, ticks⟩

lemma moves_of_step (h : l.step interval lasts stop x = some l') :
    Moves interval lasts stop l l' := by
  obtain ⟨now, stage, ticks⟩ := l
  cases x with
  | start =>
    cases stage with
    | waiting d =>
      obtain ⟨hs, heq⟩ := Option.ite_none_right_eq_some.mp h
      obtain rfl := Option.some.inj heq
      refine .start now d ticks fun s hstop => ?_
      rw [hstop] at hs
      exact of_decide_eq_true hs
    | polling t => cases h
    | stopped => cases h
  | finish =>
    cases stage with
    | waiting d => cases h
    | polling t =>
      obtain rfl := Option.some.inj h
      exact .finish now t ticks
    | stopped => cases h
  | stop =>
    cases stage with
    | waiting d =>
      cases stop with
      | none => cases h
      | some s =>
        obtain ⟨hs, heq⟩ := Option.ite_none_right_eq_some.mp h
        obtain rfl := Option.some.inj heq
        exact .stop now d s ticks rfl hs
    | polling t => cases h
    | stopped => cases h

/-- How far the loop has come in its schedule. -/
structure OnSchedule (interval : Nat) (lasts : Nat → Nat) (stop : Option Nat) (l : TickLoop) :
    Prop where
  ticks : l.ticks = (List.range l.ticks.length).map (nth interval lasts)
  waiting : ∀ d, l.stage = .waiting d → l.now = free interval lasts l.ticks.length ∧
    nth interval lasts l.ticks.length = ⟨d, max l.now d⟩
  polling : ∀ t, l.stage = .polling t →
    l.now = t.start ∧ nth interval lasts l.ticks.length = t
  /-- The loop ends at the stop, or at the end of the poll that was under way then. -/
  stopped : l.stage = .stopped → ∃ s, stop = some s ∧
    l.now = max (free interval lasts l.ticks.length) s ∧
    l.now ≤ (nth interval lasts l.ticks.length).start

lemma onSchedule_initial : initial.OnSchedule interval lasts stop where
  ticks := rfl
  waiting := by
    rintro d hd
    obtain rfl := Stage.waiting.inj hd
    exact ⟨rfl, rfl⟩
  polling _ ht := by cases ht
  stopped hs := by cases hs

lemma OnSchedule.step (h : l.OnSchedule interval lasts stop)
    (hx : l.step interval lasts stop x = some l') : l'.OnSchedule interval lasts stop := by
  cases moves_of_step hx with
  | start now d ticks first =>
    obtain ⟨-, hnth⟩ := h.waiting d rfl
    refine { ticks := h.ticks, waiting := nofun, polling := fun t ht => ?_, stopped := nofun }
    obtain rfl := Stage.polling.inj ht
    exact ⟨rfl, hnth⟩
  | finish now t ticks =>
    obtain ⟨-, hnth⟩ := h.polling t rfl
    have hticks := h.ticks
    dsimp only at hnth hticks
    have hlen : (ticks ++ [t]).length = ticks.length + 1 := List.length_append
    refine { ticks := ?ticks, waiting := fun d hd => ?waiting, polling := nofun, stopped := nofun }
    case ticks =>
      dsimp only
      rw [hlen, List.range_succ, List.map_append, ← hticks, List.map_singleton, hnth]
    case waiting =>
      obtain rfl := Stage.waiting.inj hd
      dsimp only
      rw [hlen, free, nth, hnth]
      exact ⟨rfl, rfl⟩
  | stop now d s ticks comes first =>
    obtain ⟨hnow, hnth⟩ := h.waiting d rfl
    dsimp only at hnow hnth
    refine { ticks := h.ticks, waiting := nofun, polling := nofun,
             stopped := fun _ => ⟨s, comes, congrArg (max · s) hnow, ?_⟩ }
    dsimp only
    rw [hnth]
    exact first

lemma onSchedule_run (interval : Nat) (lasts : Nat → Nat) (stop : Option Nat) (steps : List Step) :
    (initial.run interval lasts stop steps).OnSchedule interval lasts stop :=
  keeps_run (fun h hx => h.step hx) onSchedule_initial steps

lemma run_append (l : TickLoop) (steps steps' : List Step) :
    l.run interval lasts stop (steps ++ steps') =
      (l.run interval lasts stop steps).run interval lasts stop steps' :=
  List.foldl_append

lemma exists_ticks (interval : Nat) (lasts : Nat → Nat) (n : Nat) :
    ∃ steps, (initial.run interval lasts none steps).ticks =
      (List.range n).map (nth interval lasts) := by
  suffices h : ∃ steps d, let l := initial.run interval lasts none steps
      l.ticks.length = n ∧ l.stage = .waiting d by
    obtain ⟨steps, d, hlen, -⟩ := h
    refine ⟨steps, ?_⟩
    rw [(onSchedule_run interval lasts none steps).ticks, hlen]
  induction n with
  | zero => exact ⟨[], 0, rfl, rfl⟩
  | succ n ih =>
    obtain ⟨steps, d, hlen, hstage⟩ := ih
    refine ⟨steps ++ [.start, .finish], ?_⟩
    dsimp only
    rw [run_append]
    generalize initial.run interval lasts none steps = l at hlen hstage ⊢
    obtain ⟨now, stage, ticks⟩ := l
    obtain rfl : stage = .waiting d := hstage
    refine ⟨nextDeadline interval ⟨d, max now d⟩, ?_, rfl⟩
    rw [← hlen]
    exact List.length_append

/-- The poll of a tick is under way, with so many polls before it, or it is over. -/
def HasStarted (n : Nat) (t : TickTime) (l : TickLoop) : Prop :=
  l.stage = .polling t ∧ n = l.ticks.length ∨ n < l.ticks.length

lemma HasStarted.step {n : Nat} {t : TickTime} (h : l.HasStarted n t)
    (hx : l.step interval lasts stop x = some l') : l'.HasStarted n t := by
  cases moves_of_step hx with
  | finish now t ticks =>
    right
    rw [List.length_append]
    exact Nat.lt_succ_of_le (h.elim (fun hpolling => Nat.le_of_eq hpolling.2) Nat.le_of_lt)
  | start | stop =>
    rcases h with ⟨hwaiting, -⟩ | hlt
    · cases hwaiting
    · exact .inr hlt

lemma HasStarted.run {n : Nat} {t : TickTime} (h : l.HasStarted n t) (interval : Nat)
    (lasts : Nat → Nat) (stop : Option Nat) (steps : List Step) :
    (l.run interval lasts stop steps).HasStarted n t :=
  keeps_run (fun h hx => h.step hx) h steps

/-- A poll that is under way is over when the loop has ended, whenever the stop came. -/
lemma poll_ends {t : TickTime} (steps later : List Step)
    (ht : (initial.run interval lasts stop steps).stage = .polling t)
    (hs : (initial.run interval lasts stop (steps ++ later)).stage = .stopped) :
    t ∈ (initial.run interval lasts stop (steps ++ later)).ticks ∧
      t.start + lasts (initial.run interval lasts stop steps).ticks.length ≤
        (initial.run interval lasts stop (steps ++ later)).now := by
  have hl' := onSchedule_run interval lasts stop (steps ++ later)
  obtain ⟨-, rfl⟩ := (onSchedule_run interval lasts stop steps).polling t ht
  have hstarted := HasStarted.run (.inl ⟨ht, rfl⟩) interval lasts stop later
  rw [← run_append] at hstarted
  generalize initial.run interval lasts stop (steps ++ later) = l' at hs hl' hstarted ⊢
  generalize (initial.run interval lasts stop steps).ticks.length = n at hstarted ⊢
  have hn : n < l'.ticks.length := by
    rcases hstarted with ⟨hpolling, -⟩ | hlt
    · rw [hs] at hpolling
      cases hpolling
    · exact hlt
  obtain ⟨s, -, hnow, -⟩ := hl'.stopped hs
  constructor
  · rw [hl'.ticks]
    exact List.mem_map_of_mem (List.mem_range.mpr hn)
  · rw [hnow]
    exact Nat.le_trans (monotone_free interval lasts hn) (Nat.le_max_left _ _)

/-! ### The polls of a registry -/

lemma run_finish_start (now s : Nat) (t : TickTime) (ticks : List TickTime)
    (hs : (t.next interval (lasts ticks.length)).start ≤ s) :
    run interval lasts (some s) ⟨now, .polling t, ticks⟩ [.finish, .start] =
      ⟨(t.next interval (lasts ticks.length)).start,
        .polling (t.next interval (lasts ticks.length)), ticks ++ [t]⟩ := by
  have hfirst : (t.next interval (lasts ticks.length)).start ≤
      max (t.start + lasts ticks.length) s :=
    Nat.le_trans hs (Nat.le_max_right _ _)
  unfold TickTime.next at hfirst ⊢
  simp only [run, List.foldl_cons, List.foldl_nil, step, finish, start, Option.getD_some,
    Option.all_some, hfirst, decide_true, if_true]

lemma run_finish_stop (now s : Nat) (t : TickTime) (ticks : List TickTime)
    (hs : s ≤ (t.next interval (lasts ticks.length)).start) :
    run interval lasts (some s) ⟨now, .polling t, ticks⟩ [.finish, .stop] =
      ⟨max (t.start + lasts ticks.length) s, .stopped, ticks ++ [t]⟩ := by
  have hfirst : max (t.start + lasts ticks.length) s ≤
      max (t.start + lasts ticks.length) (t.nextDeadline interval) :=
    Nat.max_le.mpr ⟨Nat.le_max_left _ _, hs⟩
  simp only [run, List.foldl_cons, List.foldl_nil, step, finish, halt, Option.getD_some, hfirst,
    if_true]

end TickLoop

namespace Registry

open TickLoop

/-- How long the polls of a registry last, one after the other. -/
def durations (r : Registry) (around : Surroundings) (q : Queue Measurement) (time : Time.Timestamp)
    (n : Nat) : Nat :=
  ((advance^[n] r).poll around q time).lasts.nanos

variable (around : Surroundings) (q : Queue Measurement) (time : Time.Timestamp)

lemma exists_steps_runFrom (r : Registry) (interval stop left now : Nat) (t : TickTime)
    (ticks : List TickTime) (hleft : 0 < left) (henough : stop < t.deadline + left * interval) :
    let ran := (advance^[ticks.length] r).runFrom interval stop around q time left t
    ∃ steps ended,
      TickLoop.run interval (r.durations around q time) (some stop) ⟨now, .polling t, ticks⟩ steps =
        ⟨ran.ended, .stopped, ticks ++ ended⟩ ∧ ended.map TickTime.start = ran.starts := by
  induction left generalizing now t ticks with
  | zero => cases hleft
  | succ left ih =>
    dsimp only
    unfold runFrom
    generalize hlasts : r.durations around q time = lasts at ih ⊢
    have hpoll : ((advance^[ticks.length] r).poll around q time).lasts.nanos =
        lasts ticks.length := by
      rw [← hlasts, durations]
    have hregistry : ((advance^[ticks.length] r).poll around q time).registry =
        advance^[(ticks ++ [t]).length] r := by
      rw [List.length_append, List.length_singleton, Function.iterate_succ_apply']
      rfl
    dsimp only
    rw [hpoll, hregistry]
    split
    next hlt =>
      have hdeadline : t.deadline + interval ≤ (t.next interval (lasts ticks.length)).deadline :=
        TickTime.add_le_nextDeadline interval t
      have hpassed : (t.next interval (lasts ticks.length)).deadline < stop :=
        Nat.lt_of_le_of_lt (Nat.le_max_right _ _) hlt
      rw [Nat.succ_mul] at henough
      have hpos : 0 < left := by
        rcases Nat.eq_zero_or_pos left with rfl | hpos
        · omega
        · exact hpos
      obtain ⟨steps, ended, hrun, hended⟩ := ih
        (t.next interval (lasts ticks.length)).start (t.next interval (lasts ticks.length))
        (ticks ++ [t]) hpos (by omega)
      refine ⟨[.finish, .start] ++ steps, t :: ended, ?_, ?_⟩
      · have hle := Nat.le_of_lt hlt
        rw [TickLoop.run_append, TickLoop.run_finish_start now stop t ticks hle, hrun,
          List.append_assoc, List.singleton_append]
      · rw [List.map_cons, hended]
    next hge =>
      refine ⟨[.finish, .stop], [t], ?_, rfl⟩
      rw [TickLoop.run_finish_stop now stop t ticks (Nat.le_of_not_lt hge), Nat.max_comm]

/-- The polls of a registry until a stop are those of a run of the loop. -/
lemma exists_steps_run (r : Registry) {interval : Nat} (h : 0 < interval) (stop : Nat) :
    let ran := r.run interval stop around q time
    ∃ steps, let l := TickLoop.initial.run interval (r.durations around q time) (some stop) steps
      l.stage = .stopped ∧ l.now = ran.ended ∧ l.ticks.map TickTime.start = ran.starts := by
  have henough : stop < TickTime.first.deadline + (stop / interval + 1) * interval := by
    have hdiv := Nat.div_add_mod stop interval
    have hmod := Nat.mod_lt stop h
    rw [TickTime.first, Nat.zero_add, Nat.succ_mul, Nat.mul_comm]
    omega
  obtain ⟨steps, ended, hrun, hended⟩ := exists_steps_runFrom around q time r interval stop
    (stop / interval + 1) 0 .first [] (Nat.succ_pos _) henough
  have hstart : TickLoop.initial.run interval (r.durations around q time) (some stop) [.start] =
      ⟨0, .polling .first, []⟩ := by
    simp [TickLoop.run, TickLoop.step, TickLoop.start, TickLoop.initial, TickTime.first]
  refine ⟨.start :: steps, ?_⟩
  rw [← List.singleton_append, TickLoop.run_append, hstart, hrun]
  exact ⟨rfl, rfl, hended⟩

end Registry

/-! ### The schedule of ticks -/

namespace TickLoop

open TickTime

/--
**The schedule of ticks.** For an interval that is not too short, however long polls last, the ticks
of the loop follow one schedule, whose deadlines are multiples of the interval: each tick starts at
its deadline or at the end of the poll before it, and the next deadline is the first multiple after
that start. Without a stop every tick of the schedule comes, and a stop ends the loop when it comes
or, if a poll is under way then, at the end of that poll. What a registry does until a stop is a run
of the loop.
-/
theorem ticks_keep_grid {interval : Nat} (h : lateness < interval) :
    (∀ lasts : Nat → Nat, KeepGrid interval lasts (nth interval lasts) ∧
      (∀ n, ∃ steps, (initial.run interval lasts none steps).ticks =
        (List.range n).map (nth interval lasts)) ∧
      ∀ stop steps, let l := initial.run interval lasts stop steps
        l.OnSchedule interval lasts stop ∧
        ∀ t later, let l' := initial.run interval lasts stop (steps ++ later)
          l.stage = .polling t → l'.stage = .stopped →
            t ∈ l'.ticks ∧ t.start + lasts l.ticks.length ≤ l'.now) ∧
    ∀ (r : Registry) stop around q time, let ran := r.run interval stop around q time
      ∃ steps, let l := initial.run interval (r.durations around q time) (some stop) steps
        l.stage = .stopped ∧ l.now = ran.ended ∧ l.ticks.map TickTime.start = ran.starts := by
  constructor
  · intro lasts
    refine ⟨keepGrid_nth h lasts, exists_ticks interval lasts, fun stop steps => ?_⟩
    exact ⟨onSchedule_run interval lasts stop steps, fun t later => poll_ends steps later⟩
  · intro r stop around q time
    exact r.exists_steps_run around q time (Nat.zero_lt_of_lt h) stop

/-- A first poll of 350 milliseconds, and short ones behind it. -/
def slowFirst : Nat → Nat
  | 0 => 350 * Time.Span.perMilli
  | _ => 20 * Time.Span.perMilli

/-- The tick behind a long poll starts off the grid, and the one behind that is on it again. -/
theorem ticks_keep_grid_slowFirst :
    let interval := 100 * Time.Span.perMilli
    let ticks := nth interval slowFirst
    lateness < interval ∧ KeepGrid interval slowFirst ticks ∧
      (ticks 1).start = 350 * Time.Span.perMilli ∧ (ticks 2).start = 400 * Time.Span.perMilli ∧
      350 * Time.Span.perMilli ≤
        (initial.run interval slowFirst (some 0) [.start, .finish, .stop]).now := by
  intro interval ticks
  have h : lateness < interval := by decide
  obtain ⟨hgrid, -, hloop⟩ := (ticks_keep_grid h).1 slowFirst
  have hlate : (ticks 1).start = 350 * Time.Span.perMilli := by decide
  have hnext : IsNextMultiple interval (ticks 1).start (400 * Time.Span.perMilli) := by
    have hmultiple : interval * (350 * Time.Span.perMilli / interval + 1) =
        400 * Time.Span.perMilli := by decide
    rw [hlate, ← hmultiple]
    exact isNextMultiple_div (Nat.zero_lt_of_lt h) _
  have hshort : (ticks 1).start + slowFirst 1 ≤ 400 * Time.Span.perMilli := by decide
  have hlong : 350 * Time.Span.perMilli ≤ TickTime.first.start +
      slowFirst (initial.run interval slowFirst (some 0) [.start]).ticks.length := by decide
  have hstop := ((hloop (some 0) [.start]).2 .first [.finish, .stop] rfl rfl).2
  exact ⟨h, hgrid, hlate, hgrid.resumes 1 _ hnext hshort, Nat.le_trans hlong hstop⟩

end TickLoop

end MetricAgent.Collector
