import Mathlib.Data.String.Basic
import MetricAgent.Collector.Registry

/-!
The entries of a registry. They stand in the order of their names, each name once, and a collector
that is registered leaves all others as they are.
-/

namespace MetricAgent.Collector.Registry

variable {e x : Entry} {es : List Entry}

lemma pairwise_insert (h : (es.map Entry.name).Pairwise (· < ·)) :
    ((insert e es).map Entry.name).Pairwise (· < ·) := by
  induction es with
  | nil => simp [insert]
  | cons x es ih =>
    simp only [List.map_cons, List.pairwise_cons] at h
    obtain ⟨hx, hes⟩ := h
    unfold insert
    split
    next hlt =>
      simp only [List.map_cons, List.pairwise_cons, List.mem_cons, forall_eq_or_imp]
      exact ⟨⟨hlt, fun n hn => hlt.trans (hx n hn)⟩, hx, hes⟩
    next hlt =>
      split
      next heq =>
        simp only [List.map_cons, List.pairwise_cons, heq]
        exact ⟨hx, hes⟩
      next hne =>
        simp only [List.map_cons, List.pairwise_cons]
        refine ⟨fun n hn => ?_, ih hes⟩
        rcases mem_names_insert.mp hn with rfl | hn
        · exact lt_of_le_of_ne (not_lt.mp hlt) (Ne.symm hne)
        · exact hx n hn

lemma eq_or_mem_of_mem_insert (h : x ∈ insert e es) : x = e ∨ x ∈ es := by
  induction es with
  | nil => simpa [insert] using h
  | cons y es ih =>
    unfold insert at h
    split at h
    · simpa using h
    · split at h
      · rcases List.mem_cons.mp h with h | h
        · exact Or.inl h
        · exact Or.inr (List.mem_cons_of_mem _ h)
      · rcases List.mem_cons.mp h with h | h
        · exact Or.inr (h ▸ List.mem_cons_self)
        · exact (ih h).imp_right (List.mem_cons_of_mem _)

lemma mem_insert_of_ne (h : x ∈ es) (hne : x.name ≠ e.name) : x ∈ insert e es := by
  induction es with
  | nil => cases h
  | cons y es ih =>
    unfold insert
    repeat' split
    · exact List.mem_cons_of_mem _ h
    · next _ heq =>
      rcases List.mem_cons.mp h with rfl | h
      · exact absurd heq.symm hne
      · exact List.mem_cons_of_mem _ h
    · rcases List.mem_cons.mp h with rfl | h
      · exact List.mem_cons_self
      · exact List.mem_cons_of_mem _ (ih h)

end MetricAgent.Collector.Registry
