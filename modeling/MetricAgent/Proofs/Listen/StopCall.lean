import Mathlib.Data.List.Basic
import MetricAgent.Listen.StopCall
import MetricAgent.Proofs.Run

/-!
A stop is never lost. Only the first call to set the flag stores a wake-up, and the wake-up stays
until the loop takes it or has left already; and the loop does not leave before the flag is set.
-/

namespace MetricAgent.Listen

/-! ### Steps of the loop itself -/

namespace AcceptLoop

variable {a b : AcceptLoop} {s : LoopStep}

/-- A change that the loop makes of its own. -/
inductive Moves (a : AcceptLoop) : LoopStep → AcceptLoop → Prop where
  | goOn (s : LoopStep) (stage : LoopStage) (serving : a.isServing = true)
      (serves : stage ≠ .leaving ∧ stage ≠ .gone) (plain : s ≠ .fail ∧ s ≠ .wake) :
      Moves a s { a with stage := stage }
  | pause (stage : a.stage = .waiting) (closing : a.isClosing = false) :
      Moves a .fail { a with stage := .pausing }
  | giveUp (stage : a.stage = .waiting) (closing : a.isClosing = true) :
      Moves a .fail { a with stage := .leaving }
  | wake (stage : a.stage = .waiting) (stored : a.hasWakeUp = true) :
      Moves a .wake { a with stage := .leaving, hasWakeUp := false }
  | clear (stage : a.stage = .leaving) : Moves a .clear { a with stage := .gone }

lemma isServing_iff : a.isServing = true ↔ a.stage ≠ .leaving ∧ a.stage ≠ .gone := by
  simp [isServing]

lemma isServing_of_stage {stage : LoopStage} (h : a.stage = stage)
    (hs : stage ≠ .leaving ∧ stage ≠ .gone) : a.isServing = true :=
  isServing_iff.mpr (h ▸ hs)

lemma moves_step (own : s ≠ .stop) (h : a.step s = some b) : a.Moves s b := by
  unfold step at h
  cases s with
  | stop => exact absurd rfl own
  | accept | handle | resume =>
    obtain ⟨hstage, hb⟩ := Option.ite_none_right_eq_some.mp h
    obtain rfl := Option.some.inj hb
    exact .goOn _ _ (isServing_of_stage hstage (by decide)) (by decide) (by decide)
  | fail =>
    obtain ⟨hstage, hb⟩ := Option.ite_none_right_eq_some.mp h
    obtain rfl := Option.some.inj hb
    split
    next hc => exact .giveUp hstage hc
    next hc => exact .pause hstage (Bool.eq_false_iff.mpr hc)
  | wake =>
    obtain ⟨hstage, hb⟩ := Option.ite_none_right_eq_some.mp h
    obtain rfl := Option.some.inj hb
    simp only [Bool.and_eq_true, decide_eq_true_eq] at hstage
    exact .wake hstage.1 hstage.2
  | clear =>
    obtain ⟨hstage, hb⟩ := Option.ite_none_right_eq_some.mp h
    obtain rfl := Option.some.inj hb
    exact .clear hstage

lemma Moves.left (h : a.Moves s b) (hleft : a.isServing = false) : b.isServing = false := by
  cases h with
  | goOn _ _ serving =>
    rw [serving] at hleft
    cases hleft
  | pause stage => simp [isServing, stage] at hleft
  | giveUp | wake | clear => rfl

lemma Moves.isClosing (h : a.Moves s b) : b.isClosing = a.isClosing := by
  cases h <;> rfl

/-- The wake-up stays where it is until the loop leaves. -/
lemma Moves.kept (h : a.Moves s b) (hk : a.hasWakeUp = true ∨ a.isServing = false) :
    b.hasWakeUp = true ∨ b.isServing = false := by
  rcases hk with stored | left
  · cases h with
    | goOn | pause | giveUp | clear => exact .inl stored
    | wake => exact .inr rfl
  · exact .inr (h.left left)

lemma Moves.noWakeUp (h : a.Moves s b) (hw : a.hasWakeUp = false) : b.hasWakeUp = false := by
  cases h with
  | goOn | pause | giveUp | clear => exact hw
  | wake => rfl

lemma Moves.serves (h : a.Moves s b) (hserving : a.isServing = true) (hc : a.isClosing = false)
    (hw : a.hasWakeUp = false) : b.isServing = true := by
  cases h with
  | goOn _ _ _ serves => exact isServing_iff.mpr serves
  | pause => rfl
  | giveUp _ closing =>
    rw [hc] at closing
    cases closing
  | wake _ stored =>
    rw [hw] at stored
    cases stored
  | clear stage => simp [isServing, stage] at hserving

lemma not_accept (h : a.isServing = false) : a.step .accept = none := by
  refine if_neg fun hstage => ?_
  simp [isServing, hstage] at h

/-- A loop with a wake-up has soon cleared everything away, whatever it does now. -/
lemma exists_gone (h : a.hasWakeUp = true ∨ a.isServing = false) :
    ∃ own : List LoopStep, own.length ≤ 3 ∧ .stop ∉ own ∧ (a.run own).stage = .gone := by
  obtain ⟨stage, closing, stored⟩ := a
  cases stage with
  | waiting =>
    obtain rfl : stored = true := h.resolve_right (by simp [isServing])
    exact ⟨[.wake, .clear], by decide, by decide, rfl⟩
  | handling =>
    obtain rfl : stored = true := h.resolve_right (by simp [isServing])
    exact ⟨[.handle, .wake, .clear], by decide, by decide, rfl⟩
  | pausing =>
    obtain rfl : stored = true := h.resolve_right (by simp [isServing])
    exact ⟨[.resume, .wake, .clear], by decide, by decide, rfl⟩
  | leaving => exact ⟨[.clear], by decide, by decide, rfl⟩
  | gone => exact ⟨[], by decide, by decide, rfl⟩

end AcceptLoop

namespace StoppableLoop

variable {a b : StoppableLoop} {x : CallStep} {i j : Nat} {cs : List StopCall}

/-! ### Steps of calls -/

inductive Moves (a : StoppableLoop) : CallStep → StoppableLoop → Prop where
  | begin : Moves a .begin { a with calls := a.calls ++ [.setting] }
  | late (i : Nat) (here : a.calls[i]? = some .setting) (closing : a.loop.isClosing = true) :
      Moves a (.set i) { a with calls := a.calls.set i .returned, setters := a.setters ++ [i] }
  | first (i : Nat) (here : a.calls[i]? = some .setting) (closing : a.loop.isClosing = false) :
      Moves a (.set i)
        { a with
          loop := { a.loop with isClosing := true }
          calls := a.calls.set i .waking
          setters := a.setters ++ [i] }
  | wake (i : Nat) (here : a.calls[i]? = some .waking) :
      Moves a (.wake i)
        { a with
          loop := { a.loop with hasWakeUp := true }
          calls := a.calls.set i .returned
          wakers := a.wakers ++ [i] }
  | own (s : LoopStep) (l : AcceptLoop) (move : a.loop.Moves s l) :
      Moves a (.own s) { a with loop := l }

lemma step_own {s : LoopStep} (hs : s ≠ .stop) :
    a.step (.own s) = (a.loop.step s).map fun l => { a with loop := l } := if_neg hs

lemma moves_step (h : a.step x = some b) : a.Moves x b := by
  cases x with
  | begin =>
    obtain rfl := Option.some.inj h
    exact .begin
  | set i =>
    obtain ⟨here, hb⟩ := Option.ite_none_right_eq_some.mp h
    obtain rfl := Option.some.inj hb
    cases hc : a.loop.isClosing with
    | true =>
      have hloop : { a.loop with isClosing := true } = a.loop := by rw [← hc]
      rw [if_pos rfl, hloop]
      exact .late i here hc
    | false =>
      rw [if_neg Bool.false_ne_true]
      exact .first i here hc
  | wake i =>
    obtain ⟨here, hb⟩ := Option.ite_none_right_eq_some.mp h
    obtain rfl := Option.some.inj hb
    exact .wake i here
  | own s =>
    obtain ⟨hs, hb⟩ := Option.ite_none_left_eq_some.mp h
    obtain ⟨l, hl, rfl⟩ := Option.map_eq_some_iff.mp hb
    exact .own s l (AcceptLoop.moves_step hs hl)

/-! ### Which call stores the wake-up -/

lemma waking_append : (cs ++ [.setting])[j]? = some .waking ↔ cs[j]? = some .waking := by
  rw [List.getElem?_append]
  split
  next => rfl
  next h =>
    rw [List.getElem?_eq_none (Nat.le_of_not_lt h)]
    cases j - cs.length <;> simp

lemma waking_set_returned (i : Nat) :
    (cs.set i .returned)[j]? = some .waking ↔ j ≠ i ∧ cs[j]? = some .waking := by
  rcases eq_or_ne i j with rfl | hij
  · simp [List.getElem?_set]
  · rw [List.getElem?_set_ne hij, and_iff_right hij.symm]

lemma waking_set_waking {c : StopCall} (here : cs[i]? = some c) :
    (cs.set i .waking)[j]? = some .waking ↔ j = i ∨ cs[j]? = some .waking := by
  rcases eq_or_ne i j with rfl | hij
  · simp [List.getElem?_set_self (List.getElem?_eq_some_iff.mp here).1]
  · rw [List.getElem?_set_ne hij, or_iff_right hij.symm]

/-- How far the stopping of the loop has come. -/
inductive Phase (a : StoppableLoop) : Prop where
  | unset (closing : a.loop.isClosing = false) (wakeUp : a.loop.hasWakeUp = false)
      (serving : a.loop.isServing = true) (setters : a.setters = []) (wakers : a.wakers = [])
      (calls : ∀ j : Nat, ¬ a.calls[j]? = some .waking)
  | set (i : Nat) (closing : a.loop.isClosing = true) (wakeUp : a.loop.hasWakeUp = false)
      (setters : a.setters.head? = some i) (wakers : a.wakers = [])
      (calls : ∀ j : Nat, a.calls[j]? = some .waking ↔ j = i)
  | woken (i : Nat) (closing : a.loop.isClosing = true)
      (kept : a.loop.hasWakeUp = true ∨ a.loop.isServing = false)
      (setters : a.setters.head? = some i) (wakers : a.wakers = [i])
      (calls : ∀ j : Nat, ¬ a.calls[j]? = some .waking)

lemma phase_start : start.Phase :=
  .unset rfl rfl rfl rfl rfl fun j => by simp [start]

lemma Phase.moves (h : a.Phase) (hm : a.Moves x b) : b.Phase := by
  cases hm with
  | begin =>
    cases h with
    | unset closing wakeUp serving setters wakers calls =>
      exact .unset closing wakeUp serving setters wakers fun j => mt waking_append.mp (calls j)
    | set i closing wakeUp setters wakers calls =>
      exact .set i closing wakeUp setters wakers fun j => waking_append.trans (calls j)
    | woken i closing kept setters wakers calls =>
      exact .woken i closing kept setters wakers fun j => mt waking_append.mp (calls j)
  | late k here late =>
    cases h with
    | unset closing =>
      rw [closing] at late
      cases late
    | set i closing wakeUp setters wakers calls =>
      have hk : i ≠ k := by
        rintro rfl
        have := (calls i).mpr rfl
        rw [here] at this
        cases this
      refine .set i closing wakeUp (by simp [setters]) wakers fun j => ?_
      rw [waking_set_returned, calls]
      constructor
      · exact fun h => h.2
      · rintro rfl
        exact ⟨hk, rfl⟩
    | woken i closing kept setters wakers calls =>
      exact .woken i closing kept (by simp [setters]) wakers fun j h =>
        calls j ((waking_set_returned k).mp h).2
  | first k here first =>
    cases h with
    | unset closing wakeUp serving setters wakers calls =>
      refine .set k rfl wakeUp (by simp [setters]) wakers fun j => ?_
      rw [waking_set_waking here, or_iff_left (calls j)]
    | set _ closing | woken _ closing =>
      rw [closing] at first
      cases first
  | wake k here =>
    cases h with
    | unset _ _ _ _ _ calls => exact absurd here (calls k)
    | set i closing wakeUp setters wakers calls =>
      obtain rfl := (calls k).mp here
      refine .woken k closing (.inl rfl) setters (by simp [wakers]) fun j h => ?_
      obtain ⟨hj, hwaking⟩ := (waking_set_returned k).mp h
      exact hj ((calls j).mp hwaking)
    | woken _ _ _ _ _ calls => exact absurd here (calls k)
  | own s l move =>
    cases h with
    | unset closing wakeUp serving setters wakers calls =>
      exact .unset (move.isClosing.trans closing) (move.noWakeUp wakeUp)
        (move.serves serving closing wakeUp) setters wakers calls
    | set i closing wakeUp setters wakers calls =>
      exact .set i (move.isClosing.trans closing) (move.noWakeUp wakeUp) setters wakers calls
    | woken i closing kept setters wakers calls =>
      exact .woken i (move.isClosing.trans closing) (move.kept kept) setters wakers calls

lemma phase_run (steps : List CallStep) : (start.run steps).Phase :=
  keeps_run (fun h hs => h.moves (moves_step hs)) phase_start steps

lemma loop_run_own (a : StoppableLoop) {own : List LoopStep} (h : .stop ∉ own) :
    (a.run (own.map .own)).loop = a.loop.run own := by
  induction own generalizing a with
  | nil => rfl
  | cons s own ih =>
    obtain ⟨hs, hown⟩ := not_or.mp (mt List.mem_cons.mpr h)
    have hrun : a.run ((s :: own).map .own) =
        ((a.step (.own s)).getD a).run (own.map .own) := rfl
    have hloop : a.loop.run (s :: own) = ((a.loop.step s).getD a.loop).run own := rfl
    rw [hrun, ih _ hown, hloop, step_own (Ne.symm hs)]
    cases a.loop.step s <;> rfl

/-- A call that runs through stops the loop at once. -/
lemma loop_run_call (a : StoppableLoop) :
    (a.run [.begin, .set a.calls.length, .wake a.calls.length]).loop = a.loop.stop := by
  obtain ⟨⟨stage, closing, stored⟩, calls, setters, wakers⟩ := a
  cases closing <;> simp [run, step, set, wake, AcceptLoop.stop]

/-! ### Stops -/

lemma left_run (h : a.loop.isServing = false) (later : List CallStep) :
    (a.run later).loop.isServing = false := by
  refine keeps_run (P := fun a : StoppableLoop => a.loop.isServing = false) (fun h hs => ?_) h later
  cases moves_step hs with
  | begin | late | first | wake => exact h
  | own s l move => exact move.left h

/-- Only the call that set the flag first stores a wake-up, and only once. -/
lemma Phase.wakers (h : a.Phase) : a.wakers <+: a.setters.take 1 := by
  cases h with
  | unset _ _ _ _ wakers | set _ _ _ _ wakers =>
    rw [wakers]
    exact List.nil_prefix
  | woken i _ _ setters wakers =>
    obtain ⟨rest, hrest⟩ := List.head?_eq_some_iff.mp setters
    rw [wakers, hrest]
    exact List.prefix_rfl

lemma Phase.returned (h : a.Phase) (hi : a.setters.head? = some i)
    (hreturned : a.calls[i]? = some .returned) :
    a.wakers = [i] ∧ (a.loop.hasWakeUp = true ∨ a.loop.isServing = false) := by
  cases h with
  | unset _ _ _ setters =>
    rw [setters] at hi
    cases hi
  | set k _ _ setters _ calls =>
    rw [setters] at hi
    rw [(calls i).mpr (Option.some.inj hi).symm] at hreturned
    cases hreturned
  | woken k _ kept setters wakers =>
    rw [setters] at hi
    exact ⟨by rw [wakers, Option.some.inj hi], kept⟩

lemma Phase.isClosing_iff (h : a.Phase) : a.loop.isClosing = true ↔ a.setters ≠ [] := by
  cases h with
  | unset closing _ _ setters => simp [closing, setters]
  | set i closing _ setters | woken i closing _ setters =>
    refine iff_of_true closing ?_
    rintro hnil
    rw [hnil] at setters
    cases setters

lemma Phase.serves (h : a.Phase) (hc : a.loop.isClosing = false) :
    a.loop.hasWakeUp = false ∧ a.loop.isServing = true := by
  cases h with
  | unset _ wakeUp serving => exact ⟨wakeUp, serving⟩
  | set _ closing | woken _ closing =>
    rw [closing] at hc
    cases hc

lemma Phase.serves_step (h : a.Phase) (hc : a.loop.isClosing = false) (hb : a.step x = some b) :
    b.loop.isServing = true ∧ (x = .own .fail → b.loop.stage = .pausing) := by
  obtain ⟨hwakeUp, hserving⟩ := h.serves hc
  cases moves_step hb with
  | begin | late | first | wake => exact ⟨hserving, nofun⟩
  | own s l move =>
    refine ⟨move.serves hserving hc hwakeUp, fun hx => ?_⟩
    obtain rfl := CallStep.own.inj hx
    cases move with
    | goOn _ _ _ _ plain => exact absurd rfl plain.1
    | pause => rfl
    | giveUp _ closing =>
      rw [hc] at closing
      cases closing

lemma left_of_wake (hb : a.step (.own .wake) = some b) : b.loop.isServing = false := by
  cases moves_step hb with
  | own _ l move =>
    cases move with
    | goOn _ _ _ _ plain => exact absurd rfl plain.2
    | wake => rfl

lemma not_accept (h : a.loop.isServing = false) : a.step (.own .accept) = none := by
  rw [step_own (by decide), AcceptLoop.not_accept h]
  rfl

/--
**No stop is lost.** Whatever steps the loop and any number of calls take, at most one wake-up is
stored, by the call that set the flag first. Once that call has returned, the wake-up is still there
or the loop has left, and a few steps of its own bring the loop to its end. When it has taken the
wake-up, or has left otherwise, it accepts nothing more. It leaves only after the flag was set; an
error alone makes it pause. A call that runs through stops the loop as `AcceptLoop.stop` does.
-/
theorem stop_is_never_lost (steps : List CallStep) :
    let a := start.run steps
    a.wakers <+: a.setters.take 1 ∧
      (a.loop.isClosing = true ↔ a.setters ≠ []) ∧
      (∀ i, a.setters.head? = some i → a.calls[i]? = some .returned →
        a.wakers = [i] ∧ (a.loop.hasWakeUp = true ∨ a.loop.isServing = false) ∧
          ∃ own : List LoopStep, own.length ≤ 3 ∧ (a.run (own.map .own)).loop.stage = .gone) ∧
      (∀ b, a.step (.own .wake) = some b → b.loop.isServing = false ∧
        ∀ later, (b.run later).step (.own .accept) = none) ∧
      (a.loop.isServing = false → a.loop.isClosing = true ∧
        ∀ later, (a.run later).step (.own .accept) = none) ∧
      (∀ x b, a.loop.isClosing = false → a.step x = some b →
        b.loop.isServing = true ∧ (x = .own .fail → b.loop.stage = .pausing)) ∧
      (a.run [.begin, .set a.calls.length, .wake a.calls.length]).loop = a.loop.stop := by
  intro a
  have h : a.Phase := phase_run steps
  refine ⟨h.wakers, h.isClosing_iff, fun i hi hreturned => ?_, fun b hb => ?_,
    fun hleft => ⟨?_, fun later => not_accept (left_run hleft later)⟩,
    fun x b hc => h.serves_step hc, loop_run_call a⟩
  · obtain ⟨hwakers, hkept⟩ := h.returned hi hreturned
    obtain ⟨own, hlen, hown, hgone⟩ := AcceptLoop.exists_gone hkept
    exact ⟨hwakers, hkept, own, hlen, by rwa [loop_run_own a hown]⟩
  · have hleft := left_of_wake hb
    exact ⟨hleft, fun later => not_accept (left_run hleft later)⟩
  · refine Bool.of_not_eq_false fun hc => ?_
    rw [(h.serves hc).2] at hleft
    cases hleft

/-- The second of two calls sets the flag first, and an error ends the loop before that call stores
its wake-up, which nobody takes. -/
def endedByError : List CallStep :=
  [.begin, .begin, .own .accept, .set 1, .set 0, .own .handle, .own .fail, .wake 1]

/-- A call comes while the loop pauses after an error. -/
def duringPause : List CallStep := [.begin, .own .fail, .set 0, .wake 0, .own .resume]

/-- In the first of the two runs the loop has left without the wake-up; in the second it takes the
wake-up and accepts nothing more. -/
theorem stop_is_never_lost_aroundErrors :
    let a := start.run endedByError
    let b := start.run duringPause
    a.setters = [1, 0] ∧ a.calls[1]? = some .returned ∧ a.wakers = [1] ∧
      a.loop.isServing = false ∧ a.loop.isClosing = true ∧
      b.calls[0]? = some .returned ∧ (b.loop.hasWakeUp = true ∨ b.loop.isServing = false) ∧
      ∃ c, b.step (.own .wake) = some c ∧ ∀ later, (c.run later).step (.own .accept) = none := by
  intro a b
  obtain ⟨-, -, hfirst, -, hleft, -, -⟩ := stop_is_never_lost endedByError
  obtain ⟨-, -, hpaused, hwake, -, -, -⟩ := stop_is_never_lost duringPause
  obtain ⟨hwakers, -, -⟩ := hfirst 1 rfl rfl
  obtain ⟨hclosing, -⟩ := hleft rfl
  obtain ⟨-, hkept, -⟩ := hpaused 0 rfl rfl
  obtain ⟨-, hnone⟩ := hwake _ rfl
  exact ⟨rfl, rfl, hwakers, rfl, hclosing, rfl, hkept, _, rfl, hnone⟩

end StoppableLoop

end MetricAgent.Listen
