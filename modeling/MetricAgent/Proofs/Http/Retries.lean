import Mathlib.Algebra.Ring.Nat
import MetricAgent.Proofs.Http.Attempts

/-!
The loop of attempts on any script of replies. An attempt is told by the head of its answer alone:
by whether it comes in time, and by its status. The first reply that asks for no other attempt ends
the delivery, the fourth attempt ends it in any case, and the pauses double from one to the next.
-/

namespace MetricAgent.Http

open Time

/-! ### Pauses that double -/

lemma ofNanos_nanos (d : Span) : Span.ofNanos d.nanos = d := by
  obtain ⟨nanos, hle⟩ := d
  simp only [Span.ofNanos, Nat.min_eq_left hle]

/-- A doubled pause is twice as long through all further doublings, as far as a span can be. -/
lemma ofNanos_double (d : Span) (i : Nat) :
    Span.ofNanos (d.double.nanos * 2 ^ i) = .ofNanos (d.nanos * 2 ^ (i + 1)) := by
  have hdouble : d.double.nanos = min (2 * d.nanos) Span.maxNanos := by
    rw [Span.double, Span.add, Span.ofNanos, Nat.two_mul]
  have hpow : d.nanos * 2 ^ (i + 1) = 2 * d.nanos * 2 ^ i := by
    rw [Nat.pow_succ', ← Nat.mul_assoc, Nat.mul_comm d.nanos]
  have hone : Span.maxNanos ≤ Span.maxNanos * 2 ^ i :=
    Nat.le_mul_of_pos_right _ (Nat.two_pow_pos i)
  rw [hpow, hdouble, ← Nat.mul_min_mul_right]
  simp only [Span.ofNanos, Nat.min_assoc, Nat.min_eq_right hone]

namespace Delivery

variable {d : Delivery} {replies : Nat → Reply} {q : Request} {reply : Reply} {left n m j : Nat}
  {status : Nat} {body : BodyArrival} {text : String} {outcome : Outcome}

/-! ### What an attempt comes to -/

/-- The status of an answer whose head comes in time, and how its body comes. -/
def head? (d : Delivery) : Reply → Option (Nat × BodyArrival)
  | .answered after status body =>
    if after.nanos ≤ d.networkTimeout.nanos then some (status, body) else none
  | _ => none

/-- No head of an answer comes in time, or one that says that the server failed. -/
def IsRetryable (d : Delivery) (reply : Reply) : Prop :=
  ∀ status body, d.head? reply = some (status, body) → 500 ≤ status

/-- The text of a body that comes whole and in time; any other body shows nothing. -/
inductive Shows (d : Delivery) : BodyArrival → String → Prop where
  | whole (after : Span) (text : String) (inTime : after.nanos ≤ d.networkTimeout.nanos) :
      Shows d (.whole after text) text
  | late (after : Span) (text : String) (tooLate : d.networkTimeout.nanos < after.nanos) :
      Shows d (.whole after text) ""
  | cut (after : Span) : Shows d (.cut after) ""
  | never : Shows d .never ""

lemma shows_iff : d.Shows body text ↔ d.bodyText body = text := by
  constructor
  · rintro (⟨after, text, h⟩ | ⟨after, text, h⟩ | _ | _)
    · simp [bodyText, waitsFor, h]
    · simp [bodyText, waitsFor, Nat.not_le.mpr h]
    · rfl
    · rfl
  · rintro rfl
    cases body with
    | whole after text =>
      by_cases h : after.nanos ≤ d.networkTimeout.nanos
      · simpa [bodyText, waitsFor, h] using Shows.whole after text h
      · simpa [bodyText, waitsFor, h] using Shows.late after text (Nat.not_le.mp h)
    | cut after => exact .cut after
    | never => exact .never

lemma retries_of_head_none (h : d.head? reply = none) : d.Retries reply := by
  cases reply with
  | answered after status body =>
    have hlate : ¬ after.nanos ≤ d.networkTimeout.nanos := by
      intro hle
      simp [head?, hle] at h
    exact ⟨d.lateReason, by simp [outcome, waitsFor, hlate]⟩
  | refused => exact ⟨_, rfl⟩
  | broken after status => exact ⟨_, rfl⟩
  | silent status => exact ⟨_, rfl⟩

lemma outcome_of_head (h : d.head? reply = some (status, body)) :
    d.outcome reply =
      if status < 300 then .delivered
      else if 500 ≤ status then .retry ("server error " ++ Decimal.text status)
      else .rejected status (d.bodyText body) := by
  cases reply with
  | answered after status' body' =>
    rw [head?] at h
    split at h
    next hle =>
      obtain ⟨rfl, rfl⟩ := Prod.mk.inj (Option.some.inj h)
      simp only [outcome, waitsFor, hle, decide_true, Bool.not_true, Bool.false_eq_true, if_false]
      rfl
    next => cases h
  | refused => cases h
  | broken after status => cases h
  | silent status => cases h

lemma retries_iff_isRetryable : d.Retries reply ↔ d.IsRetryable reply := by
  cases hhead : d.head? reply with
  | none => exact iff_of_true (retries_of_head_none hhead) fun _ _ h => by simp [hhead] at h
  | some head =>
    obtain ⟨status, body⟩ := head
    have ho := outcome_of_head hhead
    constructor
    · rintro ⟨reason, hr⟩ status' body' h
      obtain ⟨rfl, rfl⟩ := Prod.mk.inj (Option.some.inj (hhead.symm.trans h))
      rw [ho] at hr
      split at hr
      next => cases hr
      next =>
        split at hr
        next hle => exact hle
        next => cases hr
    · intro h
      have hle := h status body hhead
      exact ⟨_, by rw [ho, if_neg (by omega), if_pos hle]⟩

lemma outcome_eq_delivered : d.outcome reply = .delivered ↔
    ∃ status body, d.head? reply = some (status, body) ∧ status < 300 := by
  constructor
  · intro h
    cases hhead : d.head? reply with
    | none =>
      obtain ⟨reason, hr⟩ := retries_of_head_none hhead
      simp [h] at hr
    | some head =>
      refine ⟨head.1, head.2, rfl, ?_⟩
      rw [outcome_of_head hhead] at h
      by_contra hlt
      rw [if_neg hlt] at h
      split at h <;> cases h
  · rintro ⟨status, body, hhead, hlt⟩
    rw [outcome_of_head hhead, if_pos hlt]

lemma outcome_eq_rejected : d.outcome reply = .rejected status text ↔
    ∃ body, d.head? reply = some (status, body) ∧ 300 ≤ status ∧ status < 500 ∧
      d.Shows body text := by
  constructor
  · intro h
    cases hhead : d.head? reply with
    | none =>
      obtain ⟨reason, hr⟩ := retries_of_head_none hhead
      simp [h] at hr
    | some head =>
      rw [outcome_of_head hhead] at h
      split at h
      next => cases h
      next hlow =>
        split at h
        next => cases h
        next hhigh =>
          obtain ⟨rfl, htext⟩ := Outcome.rejected.inj h
          exact ⟨head.2, rfl, by omega, by omega, shows_iff.mpr htext⟩
  · rintro ⟨body, hhead, hlow, hhigh, htext⟩
    rw [outcome_of_head hhead, if_neg (by omega), if_neg (by omega), shows_iff.mp htext]

/-! ### The loop of attempts -/

/-- The replies up to one that ends the delivery, which all others do not. -/
structure EndsAt (d : Delivery) (replies : Nat → Reply) (left n m : Nat) : Prop where
  le : m ≤ left
  again : ∀ i < m, d.Retries (replies (n + i))
  ending : m = left ∨ ¬ d.Retries (replies (n + m))

lemma ending?_isSome (h : left = 0 ∨ ¬ d.Retries reply) :
    ∃ result, d.ending? left reply = some result := by
  refine Option.ne_none_iff_exists'.mp fun hnone => ?_
  rcases h with rfl | h
  · obtain ⟨k, hk⟩ := left_of_ending_none hnone
    cases hk
  · exact h (retries_of_ending_none hnone)

lemma attempts_of_endsAt (q : Request) (pause : Span) (h : d.EndsAt replies left n m) :
    (d.attempts replies q pause left n).exchanges =
        (List.range (m + 1)).map (fun i => (q, replies (n + i))) ∧
      (d.attempts replies q pause left n).pauses =
        (List.range m).map (fun i => .ofNanos (pause.nanos * 2 ^ i)) ∧
      d.ending? (left - m) (replies (n + m)) =
        some (d.attempts replies q pause left n).result := by
  -- on the number of replies before the last one: each takes an attempt and doubles the pause
  induction m generalizing left n pause with
  | zero =>
    obtain ⟨result, hr⟩ := ending?_isSome (h.ending.imp Eq.symm id)
    rw [Nat.add_zero] at hr
    obtain ⟨hx, hp, hres⟩ := attempts_of_ending q pause hr
    exact ⟨hx, hp, by rw [hres]; exact hr⟩
  | succ m ih =>
    obtain ⟨left, rfl⟩ : ∃ k, left = k + 1 := ⟨left - 1, by have := h.le; omega⟩
    have hagain : d.ending? (left + 1) (replies n) = none := by
      obtain ⟨reason, ho⟩ := h.again 0 (Nat.succ_pos m)
      rw [Nat.add_zero] at ho
      simp [ending?, ho]
    have hrest : d.EndsAt replies left (n + 1) m := by
      refine ⟨Nat.le_of_succ_le_succ h.le, fun i hi => ?_, ?_⟩
      · have := h.again (i + 1) (Nat.succ_lt_succ hi)
        rwa [Nat.add_right_comm, Nat.add_assoc]
      · have := h.ending
        rw [Nat.add_right_cancel_iff] at this
        rwa [Nat.add_right_comm, Nat.add_assoc]
    obtain ⟨hx, hp, he⟩ := ih pause.double hrest
    obtain ⟨hx', hp', hr'⟩ := attempts_of_again q pause hagain
    refine ⟨?_, ?_, ?_⟩
    · rw [hx', hx, List.range_succ_eq_map (n := m + 1), List.map_cons, List.map_map]
      simp [Function.comp_def, Nat.add_assoc, Nat.add_comm 1]
    · rw [hp', hp, List.range_succ_eq_map, List.map_cons, List.map_map]
      simp [Function.comp_def, ofNanos_double, ofNanos_nanos]
    · rw [hr', ← he, Nat.add_sub_add_right, Nat.add_right_comm, Nat.add_assoc]

lemma exists_endsAt (d : Delivery) (replies : Nat → Reply) (left n : Nat) :
    ∃ m, d.EndsAt replies left n m := by
  induction left generalizing n with
  | zero => exact ⟨0, Nat.le_refl 0, fun i hi => absurd hi i.not_lt_zero, .inl rfl⟩
  | succ left ih =>
    by_cases hr : d.Retries (replies n)
    · obtain ⟨m, h⟩ := ih (n + 1)
      refine ⟨m + 1, Nat.succ_le_succ h.le, fun i hi => ?_, ?_⟩
      · cases i with
        | zero => exact hr
        | succ i =>
          have := h.again i (Nat.lt_of_succ_lt_succ hi)
          rwa [Nat.add_right_comm, Nat.add_assoc] at this
      · have := h.ending
        rw [Nat.add_right_comm, Nat.add_assoc] at this
        exact this.imp (congrArg Nat.succ) id
    · exact ⟨0, Nat.zero_le _, fun i hi => absurd hi i.not_lt_zero, .inr hr⟩

/-! ### Whole scripts -/

/-- The first reply of a script that does not let another attempt follow. -/
structure SettlesAt (d : Delivery) (replies : Nat → Reply) (j : Nat) : Prop where
  before : ∀ i < j, d.IsRetryable (replies i)
  settled : ¬ d.IsRetryable (replies j)

/-- The reply that ends the delivery settles it, or the attempts are used up before. -/
lemma EndsAt.settlesAt_iff (h : d.EndsAt replies left 0 m) (hj : j ≤ left) :
    d.SettlesAt replies j ↔ j = m ∧ ¬ d.Retries (replies m) := by
  have hagain : ∀ i < m, d.Retries (replies i) := by simpa using h.again
  have hending : m = left ∨ ¬ d.Retries (replies m) := by simpa using h.ending
  constructor
  · rintro ⟨hbefore, hsettled⟩
    simp only [← retries_iff_isRetryable] at hbefore hsettled
    obtain rfl : j = m := by
      refine Nat.le_antisymm (Nat.not_lt.mp fun hlt => ?_) (Nat.not_lt.mp fun hlt => ?_)
      · exact (hending.resolve_left (by omega)) (hbefore m hlt)
      · exact hsettled (hagain j hlt)
    exact ⟨rfl, hsettled⟩
  · rintro ⟨rfl, hsettled⟩
    exact ⟨fun i hi => retries_iff_isRetryable.mp (hagain i hi),
      mt retries_iff_isRetryable.mpr hsettled⟩

lemma ending?_eq_some {result : Except DeliveryError Unit} :
    d.ending? left reply = some result ↔
      d.outcome reply = .delivered ∧ result = .ok () ∨
        (∃ status text, d.outcome reply = .rejected status text ∧
          result = .error (.rejected status text)) ∨
        ∃ reason, left = 0 ∧ d.outcome reply = .retry reason ∧
          result = .error (.exhausted maxAttempts reason) := by
  unfold ending?
  cases d.outcome reply with
  | delivered => simp [eq_comm]
  | rejected status body => simp [eq_comm]
  | retry reason => by_cases hl : left = 0 <;> simp [hl, eq_comm]

lemma not_retries (h : d.outcome reply = outcome) (hne : ∀ reason, outcome ≠ .retry reason) :
    ¬ d.Retries reply :=
  fun ⟨reason, hr⟩ => hne reason (h.symm.trans hr)

lemma send_of_endsAt (replies : Nat → Reply) (text : String)
    (h : d.EndsAt replies (maxAttempts - 1) 0 m) :
    (d.send replies 0 text).exchanges =
        (List.range (m + 1)).map (fun i => (d.request text, replies i)) ∧
      (d.send replies 0 text).pauses =
        (List.range m).map (fun i => .ofNanos (d.backoff.nanos * 2 ^ i)) ∧
      d.ending? (maxAttempts - 1 - m) (replies m) = some (d.send replies 0 text).result := by
  have := attempts_of_endsAt (d.request text) d.backoff h
  simpa only [Nat.zero_add, send] using this

lemma settles_iff (h : d.EndsAt replies left 0 m) (hne : ∀ reason, outcome ≠ .retry reason) :
    d.outcome (replies m) = outcome ↔
      ∃ j ≤ left, d.SettlesAt replies j ∧ d.outcome (replies j) = outcome := by
  constructor
  · intro hm
    exact ⟨m, h.le, (h.settlesAt_iff h.le).mpr ⟨rfl, not_retries hm hne⟩, hm⟩
  · rintro ⟨j, hj, hs, hm⟩
    obtain ⟨rfl, -⟩ := (h.settlesAt_iff hj).mp hs
    exact hm

/-! ### The body of an answer -/

/-- What an attempt comes to, but for the text of a body. -/
def Outcome.withoutBody : Outcome → Outcome
  | .rejected status _ => .rejected status ""
  | o => o

lemma withoutBody_outcome (after : Span) (status : Nat) (body body' : BodyArrival) :
    Outcome.withoutBody (d.outcome (.answered after status body)) =
      Outcome.withoutBody (d.outcome (.answered after status body')) := by
  dsimp only [outcome]
  split
  next => rfl
  next =>
    split
    next => rfl
    next =>
      split
      next => rfl
      next => rfl

lemma nanos_waitFor_le (wait : Option Span) :
    (d.waitFor wait).nanos ≤ d.networkTimeout.nanos := by
  unfold waitFor
  cases wait with
  | none => exact Nat.le_refl _
  | some after =>
    dsimp only
    split
    next h => simpa [waitsFor] using h
    next => exact Nat.le_refl _

lemma lasts_le (after : Span) (status : Nat) (body : BodyArrival) (text : String) :
    (d.lasts (.answered after status body)).nanos ≤
      (d.lasts (.answered after status (.whole .zero text))).nanos + d.networkTimeout.nanos := by
  unfold lasts
  dsimp only
  split
  next => exact Nat.le_add_right _ _
  next =>
    have hbody : ∀ wait, ((d.waitFor (some after)).add (d.waitFor wait)).nanos ≤
        (d.waitFor (some after)).nanos + d.networkTimeout.nanos := fun wait =>
      Nat.le_trans (Nat.min_le_left _ _) (Nat.add_le_add_left (nanos_waitFor_le wait) _)
    have hhead : (d.waitFor (some after)).nanos ≤
        ((d.waitFor (some after)).add (d.waitFor (some .zero))).nanos :=
      Nat.le_min.mpr ⟨Nat.le_add_right _ _, (d.waitFor (some after)).nanos_le⟩
    refine Nat.le_trans ?_ (Nat.add_le_add_right hhead _)
    cases body with
    | whole after text => exact hbody _
    | cut after => exact hbody _
    | never => exact hbody _

/--
**A script of replies settles a delivery.** The requests go on up to the first reply that lets no
other attempt follow, and to the fourth at most; each pause between two of them is twice the one
before. An answer that comes in time with a status below 300 there is a delivery, one below 500 is a
rejection, with the text of its body if that comes too; without any the last of four attempts says
why. How a body comes neither changes what an attempt counts as nor keeps it longer than a network
timeout.
-/
theorem send_of_script (d : Delivery) (replies : Nat → Reply) (posted : String) :
    let report := d.send replies 0 posted
    let requests := report.exchanges.length
    (∀ j, d.SettlesAt replies j → requests = min (j + 1) 4) ∧
      ((∀ j, ¬ d.SettlesAt replies j) → requests = 4) ∧
      report.exchanges = (List.range requests).map (fun i => (d.request posted, replies i)) ∧
      report.pauses =
        (List.range (requests - 1)).map (fun i => .ofNanos (d.backoff.nanos * 2 ^ i)) ∧
      (report.result = .ok () ↔
        ∃ j ≤ 3, d.SettlesAt replies j ∧
          ∃ status body, d.head? (replies j) = some (status, body) ∧ status < 300) ∧
      (∀ status text, report.result = .error (.rejected status text) ↔
        ∃ j ≤ 3, d.SettlesAt replies j ∧
          ∃ body, d.head? (replies j) = some (status, body) ∧ 300 ≤ status ∧ status < 500 ∧
            d.Shows body text) ∧
      (∀ attempts reason, report.result = .error (.exhausted attempts reason) ↔
        attempts = 4 ∧ (∀ j ≤ 3, ¬ d.SettlesAt replies j) ∧
          d.outcome (replies 3) = .retry reason) ∧
      ∀ after status body text,
        Outcome.withoutBody (d.outcome (.answered after status body)) =
            Outcome.withoutBody (d.outcome (.answered after status (.whole .zero text))) ∧
          (d.lasts (.answered after status body)).nanos ≤
            (d.lasts (.answered after status (.whole .zero text))).nanos +
              d.networkTimeout.nanos := by
  intro report requests
  obtain ⟨m, hm⟩ : ∃ m, d.EndsAt replies 3 0 m := exists_endsAt d replies 3 0
  obtain ⟨hexchanges, hpauses, hend⟩ := send_of_endsAt replies posted hm
  have hle : m ≤ 3 := hm.le
  have hending : m = 3 ∨ ¬ d.Retries (replies m) := by simpa only [Nat.zero_add] using hm.ending
  have hrequests : requests = m + 1 := by
    change report.exchanges.length = m + 1
    rw [hexchanges, List.length_map, List.length_range]
  have hresult : ∀ {result}, report.result = result ↔
      d.ending? (3 - m) (replies m) = some result := by
    intro result
    rw [show d.ending? (3 - m) (replies m) = some report.result from hend, Option.some.injEq]
  refine ⟨fun j hj => ?_, fun hnone => ?_, ?_, ?_, ?_, fun status text => ?_,
    fun attempts reason => ?_, fun after status body text =>
      ⟨withoutBody_outcome after status body _, lasts_le after status body text⟩⟩
  · rw [hrequests]
    by_cases hj3 : j ≤ 3
    · obtain ⟨rfl, -⟩ := (hm.settlesAt_iff hj3).mp hj
      omega
    · rcases hending with rfl | hs
      · omega
      · exact absurd (retries_iff_isRetryable.mpr (hj.before m (by omega))) hs
  · rw [hrequests]
    rcases hending with rfl | hs
    · rfl
    · exact absurd ((hm.settlesAt_iff hm.le).mpr ⟨rfl, hs⟩) (hnone m)
  · rw [hrequests]
    exact hexchanges
  · rw [hrequests, Nat.add_sub_cancel]
    exact hpauses
  · have hok : report.result = .ok () ↔ d.outcome (replies m) = .delivered := by
      simp [hresult, ending?_eq_some]
    rw [hok, settles_iff hm (by simp)]
    simp only [outcome_eq_delivered]
  · have hrejected : report.result = .error (.rejected status text) ↔
        d.outcome (replies m) = .rejected status text := by
      simp [hresult, ending?_eq_some]
    rw [hrejected, settles_iff hm (by simp)]
    simp only [outcome_eq_rejected]
  · have hexhausted : report.result = .error (.exhausted attempts reason) ↔
        3 - m = 0 ∧ d.outcome (replies m) = .retry reason ∧ attempts = maxAttempts := by
      simp [hresult, ending?_eq_some]
    rw [hexhausted]
    constructor
    · rintro ⟨hleft, ho, rfl⟩
      obtain rfl : m = 3 := by omega
      refine ⟨rfl, fun j hj hs => ?_, ho⟩
      exact ((hm.settlesAt_iff hj).mp hs).2 ⟨reason, ho⟩
    · rintro ⟨rfl, hnone, ho⟩
      obtain rfl : m = 3 := hending.resolve_right fun hs =>
        hnone m hle ((hm.settlesAt_iff hle).mpr ⟨rfl, hs⟩)
      exact ⟨rfl, ho, rfl⟩

/-- The server fails with a body that never ends, then goes away, and then refuses. -/
def refusedAtLast : Nat → Reply
  | 0 => .answered .zero 500 .never
  | 1 => .broken .zero none
  | _ => .answered .zero 404 .never

/-- The third request is refused, without a text. Where no reply comes, the fourth is the last. -/
theorem send_of_script_refusedAtLast :
    let report := loopback.send refusedAtLast 0 ""
    let unanswered := loopback.send (fun _ => .silent none) 0 ""
    loopback.SettlesAt refusedAtLast 2 ∧ report.exchanges.length = 3 ∧
      report.pauses = [.ofMillis 500, .ofMillis 1000] ∧
      report.result = .error (.rejected 404 "") ∧
      (∀ j, ¬ loopback.SettlesAt (fun _ => .silent none) j) ∧
      unanswered.exchanges.length = 4 ∧
      unanswered.result = .error (.exhausted 4 "no response within 10000ms") := by
  have hsettles : loopback.SettlesAt refusedAtLast 2 := by
    refine ⟨fun i hi status body h => ?_, fun h => ?_⟩
    · match i, hi with
      | 0, _ =>
        obtain ⟨rfl, rfl⟩ := Prod.mk.inj (Option.some.inj h)
        decide
      | 1, _ => cases h
    · exact absurd (h 404 .never rfl) (by decide)
  have hsilent : ∀ j, ¬ loopback.SettlesAt (fun _ => .silent none) j := fun j h =>
    h.settled fun _ _ hhead => by cases hhead
  have hreport := send_of_script loopback refusedAtLast ""
  have hunanswered := send_of_script loopback (fun _ => .silent none) ""
  refine ⟨hsettles, hreport.1 2 hsettles, ?_, ?_, hsilent, hunanswered.2.1 hsilent, ?_⟩
  · rw [hreport.2.2.2.1, hreport.1 2 hsettles]
    rfl
  · exact (hreport.2.2.2.2.2.1 404 "").mpr
      ⟨2, by decide, hsettles, .never, rfl, by decide, by decide, .never⟩
  · exact (hunanswered.2.2.2.2.2.2.1 4 _).mpr ⟨rfl, fun j _ => hsilent j, by decide⟩

end Delivery

end MetricAgent.Http
