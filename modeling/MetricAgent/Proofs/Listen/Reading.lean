import MetricAgent.Proofs.Listen.Lines
import MetricAgent.Proofs.Listen.Moves

/-!
What one connection has read: the first of its lines, all of them put into the queue but the line
that its task holds at the moment. A line that submits nothing is the last one it reads.
-/

namespace MetricAgent.Listen

open Submission

/-- The measurement that a line submits, if the line is not refused. -/
def submission? (line : Bytes) : Option Measurement :=
  (lineText? line).bind fun text => (parseLine collectorName text.toList).toOption

lemma submission_of_ok {line : Bytes} {text : String} {m : Measurement}
    (ht : lineText? line = some text) (hp : parseLine collectorName text.toList = .ok m) :
    submission? line = some m := by
  rw [submission?, ht, Option.bind_some, hp]
  rfl

namespace Connection

variable {c c' : Connection} {ls held : List Bytes} {ms : List Measurement} {e : Effect}

/-- The lines that have come at a connection. -/
def lines (c : Connection) : List Bytes := Listen.lines c.isOver c.received

/-! ### Lines that were read -/

/-- These are the first lines, and what is unread makes up the others, whatever may still come. -/
def HasRead (c : Connection) (ls : List Bytes) : Prop :=
  ∀ more isOver, Continues c.isOver more isOver →
    Listen.lines isOver (c.received ++ more) = ls ++ Listen.lines isOver (c.unread ++ more)

lemma hasRead_opened : opened.HasRead [] := fun _ _ _ => rfl

lemma HasRead.lines (h : c.HasRead ls) : c.lines = ls ++ Listen.lines c.isOver c.unread := by
  have := h [] c.isOver (.refl _)
  rwa [List.append_nil, List.append_nil] at this

lemma HasRead.arrive (h : c.HasRead ls) (running : c.isOver = false) (bytes : Bytes) :
    HasRead { c with received := c.received ++ bytes, unread := c.unread ++ bytes } ls := by
  intro more isOver _
  dsimp only
  rw [List.append_assoc, List.append_assoc]
  exact h (bytes ++ more) isOver (.of_running running)

lemma HasRead.close (h : c.HasRead ls) (running : c.isOver = false) :
    HasRead { c with isOver := true } ls := by
  intro more isOver _
  exact h more isOver (.of_running running)

lemma HasRead.next {line rest : Bytes} (h : c.HasRead ls)
    (hn : nextLine? c.isOver c.unread = some (line, rest)) (stage : Stage) :
    HasRead { c with unread := rest, stage := stage } (ls ++ [line]) := by
  intro more isOver hc
  dsimp only at hc ⊢
  rw [h more isOver hc, lines_of_nextLine hn hc, List.append_assoc]
  rfl

/-! ### The line that is held -/

/-- What the task has read and not yet put into the queue, as its stage shows. -/
inductive Holds (c : Connection) : List Bytes → Prop where
  | reading (stage : c.stage = .reading) : Holds c []
  | parsing (line : Bytes) (text : String) (stage : c.stage = .parsing text)
      (isText : lineText? line = some text) : Holds c [line]
  | sending (line : Bytes) (m : Measurement) (stage : c.stage = .sending m)
      (submits : submission? line = some m) : Holds c [line]
  | counting (stage : c.stage = .counting) : Holds c []
  | finished (stage : c.stage = .ended .endOfStream) (isOver : c.isOver = true)
      (noLines : Listen.lines c.isOver c.unread = []) : Holds c []
  | timedOut (stage : c.stage = .ended .idleTimeout) : Holds c []
  | broken (stage : c.stage = .ended .readError) : Holds c []
  | garbled (line : Bytes) (stage : c.stage = .ended .readError) (noText : lineText? line = none) :
      Holds c [line]
  | givenUp (line : Bytes) (m : Measurement) (stage : c.stage = .ended .queueClosed)
      (submits : submission? line = some m) : Holds c [line]
  | rejected (line : Bytes) (text : String) (e : LineError)
      (stage : c.stage = .ended (.parseError e)) (isText : lineText? line = some text)
      (parsed : parseLine collectorName text.toList = .error e) : Holds c [line]

lemma Holds.of_reading (h : c.Holds held) (hs : c.stage = .reading) : held = [] := by
  cases h <;> simp_all

lemma Holds.of_parsing {text : String} (h : c.Holds held) (hs : c.stage = .parsing text) :
    ∃ line, held = [line] ∧ lineText? line = some text := by
  cases h <;> simp_all

lemma Holds.of_sending {m : Measurement} (h : c.Holds held) (hs : c.stage = .sending m) :
    ∃ line, held = [line] ∧ submission? line = some m := by
  cases h <;> simp_all

lemma Holds.of_counting (h : c.Holds held) (hs : c.stage = .counting) : held = [] := by
  cases h <;> simp_all

lemma Holds.running (h : c.Holds held) (ho : c.isOver = false) (hs : c'.stage = c.stage) :
    c'.Holds held := by
  cases h with
  | reading stage => exact .reading (hs.trans stage)
  | parsing line text stage isText => exact .parsing line text (hs.trans stage) isText
  | sending line m stage submits => exact .sending line m (hs.trans stage) submits
  | counting stage => exact .counting (hs.trans stage)
  | finished stage isOver noLines => simp [ho] at isOver
  | timedOut stage => exact .timedOut (hs.trans stage)
  | broken stage => exact .broken (hs.trans stage)
  | garbled line stage noText => exact .garbled line (hs.trans stage) noText
  | givenUp line m stage submits => exact .givenUp line m (hs.trans stage) submits
  | rejected line text e stage isText parsed =>
    exact .rejected line text e (hs.trans stage) isText parsed

/-! ### What has entered the queue -/

/-- The lines that were read are those of the measurements that entered, and then what is held. -/
structure Follows (c : Connection) (ms : List Measurement) (ls held : List Bytes) : Prop where
  read : c.HasRead (ls ++ held)
  holds : c.Holds held
  submitted : ls.map submission? = ms.map some

lemma follows_opened : opened.Follows [] [] [] := ⟨hasRead_opened, .reading rfl, rfl⟩

lemma Follows.quiet (h : c.Follows ms ls held) (he : e.entering = []) :
    ∃ ls held, c.Follows (ms ++ e.entering) ls held := by
  rw [he, List.append_nil]
  exact ⟨ls, held, h⟩

lemma Follows.moves (h : c.Follows ms ls held) (hm : c.Moves e c') :
    ∃ ls held, c'.Follows (ms ++ e.entering) ls held := by
  obtain ⟨hr, hh, hs⟩ := h
  cases hm with
  | arrive bytes running =>
    exact Follows.quiet ⟨hr.arrive running bytes, hh.running running rfl, hs⟩ rfl
  | close running => exact Follows.quiet ⟨hr.close running, hh.running running rfl, hs⟩ rfl
  | interrupt r stage cause =>
    obtain rfl := hh.of_reading stage
    rcases cause with rfl | rfl
    · exact Follows.quiet ⟨hr, .broken rfl, hs⟩ rfl
    · exact Follows.quiet ⟨hr, .timedOut rfl, hs⟩ rfl
  | line line rest text stage next isText =>
    obtain rfl := hh.of_reading stage
    rw [List.append_nil] at hr
    exact Follows.quiet ⟨hr.next next _, .parsing line text rfl isText, hs⟩ rfl
  | garbled line rest stage next noText =>
    obtain rfl := hh.of_reading stage
    rw [List.append_nil] at hr
    exact Follows.quiet ⟨hr.next next _, .garbled line rfl noText, hs⟩ rfl
  | finish stage next isOver =>
    obtain rfl := hh.of_reading stage
    exact Follows.quiet ⟨hr, .finished rfl isOver (lines_of_nextLine_none next), hs⟩ rfl
  | parse text m stage parsed =>
    obtain ⟨line, rfl, ht⟩ := hh.of_parsing stage
    exact Follows.quiet ⟨hr, .sending line m rfl (submission_of_ok ht parsed), hs⟩ rfl
  | reject text e stage parsed =>
    obtain ⟨line, rfl, ht⟩ := hh.of_parsing stage
    exact Follows.quiet ⟨hr, .rejected line text e rfl ht parsed, hs⟩ rfl
  | enter m stage =>
    obtain ⟨line, rfl, hm⟩ := hh.of_sending stage
    refine ⟨ls ++ [line], [], ?_, .counting rfl, ?_⟩
    · rw [List.append_nil]
      exact hr
    · rw [List.map_append, List.map_append, hs]
      simp [Effect.entering, hm]
  | giveUp m stage =>
    obtain ⟨line, rfl, hm⟩ := hh.of_sending stage
    exact Follows.quiet ⟨hr, .givenUp line m rfl hm, hs⟩ rfl
  | count stage =>
    obtain rfl := hh.of_counting stage
    exact Follows.quiet ⟨hr, .reading rfl, hs⟩ rfl

lemma Follows.length (h : c.Follows ms ls held) : ls.length = ms.length := by
  have := congrArg List.length h.submitted
  rwa [List.length_map, List.length_map] at this

/-- The measurements are those of the first lines. -/
lemma Follows.submissions (h : c.Follows ms ls held) :
    (c.lines.take ms.length).map submission? = ms.map some := by
  rw [h.read.lines, List.append_assoc, List.take_left' h.length]
  exact h.submitted

lemma Follows.getElem_lines {line : Bytes} (h : c.Follows ms ls [line]) :
    c.lines[ms.length]? = some line := by
  rw [h.read.lines, List.append_assoc, ← h.length]
  simp

/-- A line that submits nothing, and all lines after it, have not entered. -/
lemma Follows.length_le {j : Nat} {line : Bytes} (h : c.Follows ms ls held)
    (hj : c.lines[j]? = some line) (hnone : submission? line = none) : ms.length ≤ j := by
  by_contra hlt
  push Not at hlt
  have htake : (c.lines.take ms.length)[j]? = some line := by
    rw [List.getElem?_take_of_lt hlt, hj]
  have hsub := congrArg (·[j]?) h.submissions
  simp only [List.getElem?_map, htake, Option.map_some, hnone] at hsub
  obtain ⟨m, -, hm⟩ := Option.map_eq_some_iff.mp hsub.symm
  cases hm

lemma Follows.rejected {e : LineError} (h : c.Follows ms ls held)
    (hs : c.stage = .ended (.parseError e)) :
    ∃ line text, c.lines[ms.length]? = some line ∧ lineText? line = some text ∧
      parseLine collectorName text.toList = .error e := by
  cases h.holds with
  | rejected line text e' stage isText parsed =>
    rw [hs] at stage
    cases stage
    exact ⟨line, text, h.getElem_lines, isText, parsed⟩
  | _ => simp_all

lemma Follows.finished (h : c.Follows ms ls held) (hs : c.stage = .ended .endOfStream) :
    c.isOver = true ∧ c.lines.map submission? = ms.map some := by
  cases h.holds with
  | finished stage isOver noLines =>
    refine ⟨isOver, ?_⟩
    rw [h.read.lines, noLines, List.append_nil, List.append_nil]
    exact h.submitted
  | _ => simp_all

end Connection

end MetricAgent.Listen
