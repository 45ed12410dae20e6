import MetricAgent.Proofs.Collector.Progress

/-!
What is in the queue after any number of polls, taken together: one block for each tick, and in it
one report for each collector.
-/

namespace MetricAgent.Collector

open Time

variable {e : Entry} {t : Tick} {s s' : Scheduler}

/-- A tick that has finished: all reports, and the duration of the whole tick at the end. -/
lemma Tick.Sound.finished {es : List Entry} (h : t.Sound es) (hf : t.finished = true) :
    ∃ front lasts, t.log = front ++ [(.whole, tickDuration t.time wholeTick lasts)] ∧
      ∀ x ∈ front, ∃ e ∈ es, x.1.collector? = some e.name := by
  obtain ⟨-, -, front, lasts, hlog, hfront⟩ := h.ended hf
  refine ⟨front, lasts, hlog, fun x hx => ?_⟩
  obtain ⟨name, hname⟩ := Option.isSome_iff_exists.mp (hfront x hx)
  obtain ⟨k, hk, rfl⟩ := h.known x (by rw [hlog]; exact List.mem_append_left _ hx) name hname
  exact ⟨k.entry, h.mem hk, hname⟩

namespace Scheduler

end Scheduler

end MetricAgent.Collector
