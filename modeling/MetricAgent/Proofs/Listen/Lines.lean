import Mathlib.Data.List.TakeWhile
import MetricAgent.Listen.Line

/-!
The lines of a whole stream, and that reading one line after the other finds them, whatever comes
in the meantime.
-/

namespace MetricAgent.Listen

/-- The lines of what has come: the pieces in front of line feeds, each without one carriage return
at its end, and what stands behind the last line feed once the stream is over. -/
def lines (isOver : Bool) (bytes : Bytes) : List Bytes :=
  let pieces := bytes.splitOn lineFeed
  pieces.dropLast.map dropReturn ++
    pieces.getLast?.toList.filter fun piece => isOver && !piece.isEmpty

/-- More bytes may follow, and the stream may end, unless it is over already. -/
def Continues (isOver : Bool) (more : Bytes) (isOver' : Bool) : Prop :=
  isOver = true → more = [] ∧ isOver' = true

variable {isOver isOver' : Bool} {line raw bytes more rest : Bytes}

lemma Continues.refl (isOver : Bool) : Continues isOver [] isOver := fun h => ⟨rfl, h⟩

lemma Continues.of_running (h : isOver = false) : Continues isOver more isOver' := by
  intro ho
  rw [h] at ho
  cases ho

/-! ### Lines of a stream -/

lemma lines_append_cons (h : lineFeed ∉ raw) :
    lines isOver (raw ++ lineFeed :: rest) = dropReturn raw :: lines isOver rest := by
  have hne := List.splitOn_ne_nil lineFeed rest
  unfold lines
  dsimp only
  rw [List.splitOn_append_cons_self_of_not_mem h, List.dropLast_cons_of_ne_nil hne,
    List.getLast?_cons_of_ne_nil hne]
  rfl

lemma lines_of_not_mem (h : lineFeed ∉ bytes) :
    lines isOver bytes = if isOver && !bytes.isEmpty then [bytes] else [] := by
  unfold lines
  rw [List.splitOn_eq_singleton h]
  cases hb : isOver && !bytes.isEmpty <;> simp [hb]

/-! ### Reading a line -/

lemma nextLine_eq_some (h : nextLine? isOver bytes = some (line, rest)) :
    (∃ raw, lineFeed ∉ raw ∧ bytes = raw ++ lineFeed :: rest ∧ line = dropReturn raw) ∨
      (lineFeed ∉ bytes ∧ isOver = true ∧ bytes ≠ [] ∧ line = bytes ∧ rest = []) := by
  have hraw : lineFeed ∉ bytes.takeWhile (· ≠ lineFeed) := by
    intro hm
    simpa using List.mem_takeWhile_imp hm
  have hsplit := List.takeWhile_append_dropWhile (p := (· ≠ lineFeed)) (l := bytes)
  unfold nextLine? at h
  split at h
  next x tail hd =>
    obtain ⟨rfl, rfl⟩ := Prod.mk.inj (Option.some.inj h)
    have hx : x = lineFeed := by
      have hhead := List.head_dropWhile_not (· ≠ lineFeed) (by rw [hd]; exact List.cons_ne_nil _ _)
      simp only [hd, List.head_cons] at hhead
      simpa using hhead
    rw [hd, hx] at hsplit
    exact Or.inl ⟨_, hraw, hsplit.symm, rfl⟩
  next hd =>
    split at h
    next hover =>
      obtain ⟨rfl, rfl⟩ := Prod.mk.inj (Option.some.inj h)
      obtain ⟨ho, hb⟩ := Bool.and_eq_true_iff.mp hover
      rw [hd, List.append_nil] at hsplit
      rw [hsplit] at hraw
      exact Or.inr ⟨hraw, ho, by simpa using hb, rfl, rfl⟩
    next => cases h

lemma length_lt_of_nextLine (h : nextLine? isOver bytes = some (line, rest)) :
    rest.length < bytes.length := by
  rcases nextLine_eq_some h with ⟨raw, -, rfl, -⟩ | ⟨-, -, hne, -, rfl⟩
  · rw [List.length_append, List.length_cons]
    omega
  · exact List.length_pos_iff.mpr hne

lemma lines_of_nextLine_none (h : nextLine? isOver bytes = none) : lines isOver bytes = [] := by
  unfold nextLine? at h
  split at h
  next => cases h
  next hd =>
    have hnot : lineFeed ∉ bytes := by
      intro hm
      have := List.dropWhile_eq_nil_iff.mp hd lineFeed hm
      simp at this
    split at h
    next => cases h
    next hover => rw [lines_of_not_mem hnot, if_neg hover]

/-- The line that is read is the first one, also of the stream with what may still come. -/
theorem lines_of_nextLine (h : nextLine? isOver bytes = some (line, rest))
    (hc : Continues isOver more isOver') :
    lines isOver' (bytes ++ more) = line :: lines isOver' (rest ++ more) := by
  rcases nextLine_eq_some h with ⟨raw, hraw, rfl, rfl⟩ | ⟨hnot, hover, hne, rfl, rfl⟩
  · rw [List.append_assoc, List.cons_append]
    exact lines_append_cons hraw
  · obtain ⟨rfl, rfl⟩ := hc hover
    rw [List.append_nil, lines_of_not_mem hnot, if_pos (by simpa using hne)]
    rfl

/-- A last line counts once the stream is over. -/
example : lines true "a\r\n\nb\r".toUTF8.toList = [[97], [], [98, 13]] := by decide +kernel

end MetricAgent.Listen
