import Mathlib.Data.List.Basic
import Mathlib.Data.List.TakeWhile
import MetricAgent.Text.Fields

/-!
The words of a text that is put together. A blank separates the words on either side of it, and a
text without blanks is one word; so the words are the maximal runs of characters that are not blank.
-/

namespace MetricAgent.Text

variable {c : Char} {s t : List Char}

/-! ### What a text starts with -/

lemma takeWhile_append_rest {p : Char → Bool} {rest : List Char} (hs : ∀ c ∈ s, p c = true)
    (hr : ∀ c ∈ rest.head?, p c = false) : (s ++ rest).takeWhile p = s := by
  rw [List.takeWhile_append_of_pos hs]
  cases rest with
  | nil => simp
  | cons c r => simp [hr c rfl]

lemma dropWhile_append_rest {p : Char → Bool} {rest : List Char} (hs : ∀ c ∈ s, p c = true)
    (hr : ∀ c ∈ rest.head?, p c = false) : (s ++ rest).dropWhile p = rest := by
  rw [List.dropWhile_append_of_pos hs]
  cases rest with
  | nil => rfl
  | cons c r => simp [hr c rfl]

lemma takeWhile_ne_append {mark : Char} {rest : List Char} (hs : mark ∉ s)
    (hr : ∀ c ∈ rest.head?, c = mark) : (s ++ rest).takeWhile (· ≠ mark) = s :=
  takeWhile_append_rest (fun c hc => decide_eq_true fun he : c = mark => hs (he ▸ hc))
    fun c hc => decide_eq_false (not_not.mpr (hr c hc))

lemma dropWhile_ne_append {mark : Char} {rest : List Char} (hs : mark ∉ s)
    (hr : ∀ c ∈ rest.head?, c = mark) : (s ++ rest).dropWhile (· ≠ mark) = rest :=
  dropWhile_append_rest (fun c hc => decide_eq_true fun he : c = mark => hs (he ▸ hc))
    fun c hc => decide_eq_false (not_not.mpr (hr c hc))

/-! ### Words -/

lemma close_append (w : List Char) (us vs : List (List Char)) :
    close w (us ++ vs) = close w us ++ vs := by
  unfold close
  split <;> rfl

lemma scanWords_cons (c : Char) (s : List Char) :
    scanWords (c :: s) =
      if isBlank c then ([], words s) else (c :: (scanWords s).1, (scanWords s).2) := by
  rw [words, scanWords, List.foldr_cons]
  rfl

lemma scanWords_append_blank (hc : isBlank c = true) (s t : List Char) :
    scanWords (s ++ c :: t) = ((scanWords s).1, (scanWords s).2 ++ words t) := by
  induction s with
  | nil =>
    rw [List.nil_append, scanWords_cons, if_pos hc]
    rfl
  | cons d s ih =>
    rw [List.cons_append, scanWords_cons, scanWords_cons]
    split
    next => rw [words, ih, close_append, ← words]
    next => rw [ih]

lemma words_append_blank (hc : isBlank c = true) (s t : List Char) :
    words (s ++ c :: t) = words s ++ words t := by
  rw [words, scanWords_append_blank hc, close_append, ← words]

lemma scanWords_of_notBlank (h : ∀ c ∈ s, isBlank c = false) : scanWords s = (s, []) := by
  induction s with
  | nil => rfl
  | cons c s ih =>
    have hc : isBlank c = false := h c List.mem_cons_self
    rw [scanWords_cons, ih fun d hd => h d (List.mem_cons_of_mem _ hd)]
    simp [hc]

lemma words_of_notBlank (hs : s ≠ []) (h : ∀ c ∈ s, isBlank c = false) : words s = [s] := by
  rw [words, scanWords_of_notBlank h]
  simp [close, hs]

lemma words_cons (hs : s ≠ []) (h : ∀ c ∈ s, isBlank c = false) (t : List Char) :
    words (s ++ ' ' :: t) = s :: words t := by
  rw [words_append_blank (by decide), words_of_notBlank hs h]
  rfl

/-! ### Maximal runs -/

/--
The maximal runs in a text of characters that are not blank: blanks stand in front of each, and
behind it a blank or nothing.
-/
inductive Runs : List Char → List (List Char) → Prop where
  | blanks (b : List Char) (blank : ∀ c ∈ b, isBlank c = true) : Runs b []
  | run (b w rest : List Char) (ws : List (List Char)) (blank : ∀ c ∈ b, isBlank c = true)
      (ne_nil : w ≠ []) (notBlank : ∀ c ∈ w, isBlank c = false)
      (maximal : ∀ c ∈ rest.head?, isBlank c = true) (others : Runs rest ws) :
      Runs (b ++ (w ++ rest)) (w :: ws)

lemma words_cons_blank (hc : isBlank c = true) (s : List Char) : words (c :: s) = words s :=
  words_append_blank hc [] s

lemma words_blanks_append (hb : ∀ c ∈ s, isBlank c = true) (t : List Char) :
    words (s ++ t) = words t := by
  induction s with
  | nil => rfl
  | cons c s ih =>
    rw [List.cons_append, words_cons_blank (hb c List.mem_cons_self),
      ih fun d hd => hb d (List.mem_cons_of_mem c hd)]

lemma Runs.eq_words {ws : List (List Char)} (h : Runs s ws) : ws = words s := by
  induction h with
  | blanks b blank =>
    have := words_blanks_append blank []
    rw [List.append_nil] at this
    rw [this]
    rfl
  | run b w rest ws blank ne_nil notBlank maximal _ ih =>
    rw [words_blanks_append blank, ih]
    cases rest with
    | nil => rw [List.append_nil, words_of_notBlank ne_nil notBlank]; rfl
    | cons c rest =>
      have hc : isBlank c = true := maximal c rfl
      rw [words_append_blank hc, words_of_notBlank ne_nil notBlank, words_cons_blank hc]
      rfl

/-- Every text has its runs: blanks come off its front, then a run, and what is left is shorter. -/
lemma exists_runs (s : List Char) : ∃ ws, Runs s ws := by
  obtain ⟨b, hb⟩ : ∃ b, b = s.takeWhile isBlank := ⟨_, rfl⟩
  obtain ⟨t, ht⟩ : ∃ t, t = s.dropWhile isBlank := ⟨_, rfl⟩
  have hs : s = b ++ t := by rw [hb, ht, List.takeWhile_append_dropWhile]
  have hblank : ∀ c ∈ b, isBlank c = true := fun c hc => List.mem_takeWhile_imp (hb ▸ hc)
  cases t with
  | nil => exact ⟨[], by rw [hs, List.append_nil]; exact .blanks b hblank⟩
  | cons c t =>
    have hc : isBlank c = false := by
      have := List.head_dropWhile_not isBlank (by rw [← ht]; exact List.cons_ne_nil c t)
      simpa [← ht] using this
    obtain ⟨w, hw⟩ : ∃ w, w = t.takeWhile (!isBlank ·) := ⟨_, rfl⟩
    obtain ⟨rest, hrest⟩ : ∃ rest, rest = t.dropWhile (!isBlank ·) := ⟨_, rfl⟩
    have htext : t = w ++ rest := by rw [hw, hrest, List.takeWhile_append_dropWhile]
    have hlt : rest.length < s.length := by
      rw [hs, htext]
      simp only [List.length_append, List.length_cons]
      omega
    obtain ⟨ws, hws⟩ := exists_runs rest
    refine ⟨(c :: w) :: ws, ?_⟩
    rw [hs, htext]
    refine .run b (c :: w) rest ws hblank (List.cons_ne_nil c w) ?_ ?_ hws
    · intro d hd
      rcases List.mem_cons.mp hd with rfl | hd
      · exact hc
      · have hnot := List.mem_takeWhile_imp (p := (!isBlank ·)) (hw ▸ hd)
        simpa using hnot
    · intro d hd
      cases rest with
      | nil => cases hd
      | cons e rest =>
        obtain rfl : e = d := Option.some.inj hd
        have := List.head_dropWhile_not (!isBlank ·)
          (by rw [← hrest]; exact List.cons_ne_nil e rest)
        simpa [← hrest] using this
termination_by s.length

/-- The words of a text are its maximal runs, and nothing else is. -/
theorem runs_iff {ws : List (List Char)} : Runs s ws ↔ ws = words s := by
  refine ⟨Runs.eq_words, ?_⟩
  rintro rfl
  obtain ⟨ws, h⟩ := exists_runs s
  rwa [← h.eq_words]

lemma Runs.notBlank {ws : List (List Char)} (h : Runs s ws) :
    ∀ w ∈ ws, w ≠ [] ∧ ∀ c ∈ w, isBlank c = false := by
  induction h with
  | blanks => simp
  | run b w rest ws blank ne_nil notBlank maximal _ ih =>
    intro v hv
    rcases List.mem_cons.mp hv with rfl | hv
    · exact ⟨ne_nil, notBlank⟩
    · exact ih v hv

/-! ### Parts between separators -/

lemma splitOn_of_notMem {sep : Char} (h : sep ∉ s) : splitOn sep s = [s] := by
  induction s with
  | nil => rfl
  | cons c s ih =>
    have hc : c ≠ sep := fun he => h (he ▸ List.mem_cons_self)
    rw [splitOn_cons, if_neg hc, ih fun hm => h (List.mem_cons_of_mem c hm)]
    rfl

lemma splitOn_append_cons {sep : Char} (h : sep ∉ s) (t : List Char) :
    splitOn sep (s ++ sep :: t) = s :: splitOn sep t := by
  induction s with
  | nil => rw [List.nil_append, splitOn_cons, if_pos rfl]
  | cons c s ih =>
    have hc : c ≠ sep := fun he => h (he ▸ List.mem_cons_self)
    have hs : sep ∉ s := fun hm => h (List.mem_cons_of_mem _ hm)
    rw [List.cons_append, splitOn_cons, if_neg hc, ih hs]
    rfl

lemma of_mem_splitOn {sep : Char} {p : List Char} (h : p ∈ splitOn sep s) :
    ∀ c ∈ p, c ∈ s ∧ c ≠ sep := by
  induction s generalizing p with
  | nil =>
    rw [splitOn_nil, List.mem_singleton] at h
    rw [h]
    nofun
  | cons d s ih =>
    have hlater {q : List Char} (hq : q ∈ splitOn sep s) : ∀ c ∈ q, c ∈ d :: s ∧ c ≠ sep :=
      fun c hc => (ih hq c hc).imp_left (List.mem_cons_of_mem d)
    rw [splitOn_cons] at h
    split at h
    next =>
      rcases List.mem_cons.mp h with rfl | h
      · nofun
      · exact hlater h
    next hd =>
      cases hparts : splitOn sep s with
      | nil => exact absurd hparts (splitOn_ne_nil sep s)
      | cons q qs =>
        rw [hparts] at h hlater
        rcases List.mem_cons.mp h with rfl | h
        · refine List.forall_mem_cons.mpr ⟨⟨List.mem_cons_self, hd⟩, ?_⟩
          exact hlater List.mem_cons_self
        · exact hlater (List.mem_cons_of_mem q h)

lemma length_splitOn (sep : Char) (s : List Char) :
    (splitOn sep s).length = s.count sep + 1 := by
  induction s with
  | nil => rfl
  | cons c s ih =>
    rw [splitOn_cons, List.count_cons]
    split
    next hc => simp [ih, hc]
    next hc =>
      obtain ⟨p, ps, hparts⟩ := List.exists_cons_of_ne_nil (splitOn_ne_nil sep s)
      rw [hparts] at ih ⊢
      simpa [extend, hc] using ih

lemma splitOn_eq_pair {sep : Char} {t : List Char} {rest : List Char} :
    splitOn sep s = [t, rest] ↔ s = t ++ sep :: rest ∧ sep ∉ t ∧ sep ∉ rest := by
  constructor
  · intro h
    have hjoin := join_splitOn sep s
    rw [h] at hjoin
    refine ⟨hjoin.symm, fun hm => ?_, fun hm => ?_⟩
    · exact (of_mem_splitOn (h ▸ List.mem_cons_self) sep hm).2 rfl
    · exact (of_mem_splitOn (h ▸ List.mem_cons_of_mem t List.mem_cons_self) sep hm).2 rfl
  · rintro ⟨rfl, ht, hrest⟩
    rw [splitOn_append_cons ht, splitOn_of_notMem hrest]

end MetricAgent.Text
