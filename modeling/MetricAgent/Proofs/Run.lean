/-!
Runs of a system whose steps can be refused: a refused step is passed over.
-/

namespace MetricAgent

/-- What the steps of a run keep holds after it. -/
theorem keeps_run_of_mem {σ ι : Type} {next : σ → ι → Option σ} {P : σ → Prop} {s : σ} {xs : List ι}
    (h : ∀ {s x s'}, x ∈ xs → P s → next s x = some s' → P s') (hs : P s) :
    P (xs.foldl (fun s x => (next s x).getD s) s) := by
  induction xs generalizing s with
  | nil => exact hs
  | cons x xs ih =>
    have hxs : ∀ {s y s'}, y ∈ xs → P s → next s y = some s' → P s' :=
      fun hy => h (List.mem_cons_of_mem x hy)
    rw [List.foldl_cons]
    cases hx : next s x with
    | none => exact ih hxs hs
    | some s' => exact ih hxs (h List.mem_cons_self hs hx)

/-- What every step keeps holds after a run. -/
theorem keeps_run {σ ι : Type} {next : σ → ι → Option σ} {P : σ → Prop}
    (h : ∀ {s x s'}, P s → next s x = some s' → P s') {s : σ} (hs : P s) (xs : List ι) :
    P (xs.foldl (fun s x => (next s x).getD s) s) :=
  keeps_run_of_mem (fun _ => h) hs

/-- What no step raises by more than one is raised by no more than the number of steps. -/
theorem run_le {σ ι : Type} {next : σ → ι → Option σ} {f : σ → Nat}
    (h : ∀ {s x s'}, next s x = some s' → f s' ≤ f s + 1) (s : σ) (xs : List ι) :
    f (xs.foldl (fun s x => (next s x).getD s) s) ≤ f s + xs.length := by
  induction xs generalizing s with
  | nil => exact Nat.le_refl _
  | cons x xs ih =>
    rw [List.foldl_cons, List.length_cons]
    cases hx : next s x with
    | none => exact Nat.le_trans (ih s) (Nat.add_le_add_left (Nat.le_succ _) _)
    | some s' =>
      have hs := h hx
      have := ih s'
      rw [Option.getD_some]
      omega

end MetricAgent
