import MetricAgent.Output.Lines
import MetricAgent.Proofs.Decimal.Digits

/-!
What a line tells, and that it can be read back. A line is a time, a name, a value and perhaps a
source between fixed marks; as long as no blank and no `=` stands in any of them, no other parts
give the same line.
-/

namespace MetricAgent.Output

open Decimal Text Time

/-! ### Plain characters -/

section Plain

variable {c : Char}

/-- A character that cannot be taken for the end of a part of a line. -/
def isPlain (c : Char) : Bool := !isBlank c && c ≠ '='

lemma isPlain_of_isAlphanum (h : c.isAlphanum = true) : isPlain c = true := by
  delta Char.isAlphanum Char.isAlpha Char.isUpper Char.isLower Char.isDigit at h
  simp only [Bool.or_eq_true, Bool.and_eq_true, decide_eq_true_eq, UInt32.le_iff_toNat_le,
    ge_iff_le] at h
  change (65 ≤ c.toNat ∧ c.toNat ≤ 90 ∨ 97 ≤ c.toNat ∧ c.toNat ≤ 122) ∨
    48 ≤ c.toNat ∧ c.toNat ≤ 57 at h
  have he : c ≠ '=' := by
    rintro rfl
    simp at h
  simp only [isPlain, isBlank, he, ne_eq, not_false_eq_true, decide_true, Bool.and_true,
    Bool.not_eq_true', Bool.or_eq_false_iff, Bool.and_eq_false_iff, decide_eq_false_iff_not,
    beq_eq_false_iff_ne]
  omega

lemma isPlain_of_isDigit (h : c.isDigit = true) : isPlain c = true :=
  isPlain_of_isAlphanum (by simp [Char.isAlphanum, h])

lemma isPlain_of_mem_digits {n : Nat} (h : c ∈ digits n) : isPlain c = true :=
  isPlain_of_isDigit (isDigit_of_mem_digits h)

lemma isPlain_of_mem_padded {w n : Nat} (h : c ∈ padded w n) : isPlain c = true :=
  isPlain_of_isDigit (isDigit_of_mem_padded h)

lemma isPlain_of_mem_yearText {y : Int} (h : c ∈ Timestamp.yearText y) : isPlain c = true := by
  unfold Timestamp.yearText at h
  split at h
  · exact isPlain_of_mem_padded h
  · rcases List.mem_cons.mp h with rfl | h
    · split <;> rfl
    · exact isPlain_of_mem_padded h

lemma isPlain_of_mem_toText {t : Timestamp} (h : c ∈ t.toText) : isPlain c = true := by
  simp only [Timestamp.toText, List.mem_append, List.mem_cons, List.not_mem_nil, or_false] at h
  obtain (((((h | rfl | h) | rfl | h) | rfl | h) | rfl | h) | rfl | h) | rfl := h
  · exact isPlain_of_mem_yearText h
  all_goals first | rfl | exact isPlain_of_mem_padded h

lemma isPlain_of_mem_sixPlaces {x : Double} (h : c ∈ sixPlaces x) : isPlain c = true := by
  unfold sixPlaces at h
  split at h
  next =>
    have hletters : "NaN".toList.all isPlain = true := by decide
    exact List.all_eq_true.mp hletters c h
  next =>
    rcases List.mem_append.mp h with h | h
    · split at h
      · obtain rfl := List.mem_singleton.mp h
        rfl
      · cases h
    · split at h
      · rcases List.mem_append.mp h with h | h
        · exact isPlain_of_mem_digits h
        · rcases List.mem_cons.mp h with rfl | h
          · rfl
          · exact isPlain_of_mem_padded h
      · have hletters : "inf".toList.all isPlain = true := by decide
        exact List.all_eq_true.mp hletters c h

lemma isPlain_of_mem_text {r : Reading} (h : c ∈ r.text) : isPlain c = true := by
  cases r with
  | counter n => exact isPlain_of_mem_digits h
  | gauge n => exact isPlain_of_mem_digits h
  | floatGauge x => exact isPlain_of_mem_sixPlaces h

end Plain

/-! ### Parts of a line -/

/-- What a line tells. -/
structure Sample where
  time : List Char
  name : List Char
  value : List Char
  source : Option (List Char)

namespace Sample

variable {r r' : Sample}

/-- The line of a sample, without its end. -/
def body (r : Sample) : List Char :=
  "when=".toList ++ (r.time ++ (" sample#".toList ++ (r.name ++ '=' :: (r.value ++
    r.source.elim [] (" source=".toList ++ ·)))))

/-- Nothing in a sample can be taken for a mark. -/
structure IsPlain (r : Sample) : Prop where
  time : ∀ c ∈ r.time, isPlain c = true
  name : ∀ c ∈ r.name, isPlain c = true
  value : ∀ c ∈ r.value, isPlain c = true
  source : ∀ s ∈ r.source, ∀ c ∈ s, isPlain c = true

lemma notMem_of_plain {c : Char} {s : List Char} (hs : ∀ c ∈ s, isPlain c = true)
    (hc : isPlain c = false) : c ∉ s := by
  intro hm
  rw [hs c hm] at hc
  cases hc

lemma blank_notMem {s : List Char} (hs : ∀ c ∈ s, isPlain c = true) : ' ' ∉ s :=
  notMem_of_plain hs (by decide)

lemma equals_notMem {s : List Char} (hs : ∀ c ∈ s, isPlain c = true) : '=' ∉ s :=
  notMem_of_plain hs (by decide)

lemma newline_notMem {s : List Char} (hs : ∀ c ∈ s, isPlain c = true) : '\n' ∉ s :=
  notMem_of_plain hs (by decide)

lemma eq_of_append_cons_eq {c : Char} {s t x y : List Char} (hs : c ∉ s) (ht : c ∉ t)
    (h : s ++ c :: x = t ++ c :: y) : s = t ∧ x = y := by
  induction s generalizing t with
  | nil =>
    cases t with
    | nil => exact ⟨rfl, (List.cons.inj h).2⟩
    | cons b t => exact absurd (List.mem_cons.mpr (Or.inl (List.cons.inj h).1)) ht
  | cons a s ih =>
    cases t with
    | nil => exact absurd (List.mem_cons.mpr (Or.inl (List.cons.inj h).1.symm)) hs
    | cons b t =>
      obtain ⟨rfl, hst⟩ := List.cons.inj h
      obtain ⟨rfl, rfl⟩ :=
        ih (List.not_mem_of_not_mem_cons hs) (List.not_mem_of_not_mem_cons ht) hst
      exact ⟨rfl, rfl⟩

lemma IsPlain.eq_of_body_eq (h : r.IsPlain) (h' : r'.IsPlain) (ht : r.body = r'.body) :
    r = r' := by
  obtain ⟨time, name, value, source⟩ := r
  obtain ⟨time', name', value', source'⟩ := r'
  have hsample : " sample#".toList = ' ' :: "sample#".toList := rfl
  have hsource : " source=".toList = ' ' :: "source=".toList := rfl
  have hvalue : ' ' ∉ value := blank_notMem h.value
  have hvalue' : ' ' ∉ value' := blank_notMem h'.value
  simp only [body, hsample, hsource, List.cons_append, List.append_cancel_left_eq] at ht
  obtain ⟨htime, hrest⟩ := eq_of_append_cons_eq (blank_notMem h.time) (blank_notMem h'.time) ht
  rw [List.append_cancel_left_eq] at hrest
  obtain ⟨hname, hend⟩ := eq_of_append_cons_eq (equals_notMem h.name) (equals_notMem h'.name) hrest
  dsimp only at htime hname hend
  subst htime hname
  -- A source begins with a blank, and the value has none.
  cases source with
  | none =>
    cases source' with
    | none =>
      simp only [Option.elim_none, List.append_nil] at hend
      rw [hend]
    | some s' =>
      simp only [Option.elim_none, Option.elim_some, List.append_nil] at hend
      simp [hend] at hvalue
  | some s =>
    cases source' with
    | none =>
      simp only [Option.elim_none, Option.elim_some, List.append_nil] at hend
      simp [← hend] at hvalue'
    | some s' =>
      obtain ⟨rfl, hsource⟩ := eq_of_append_cons_eq hvalue hvalue' hend
      rw [List.append_cancel_left_eq] at hsource
      rw [hsource]

lemma IsPlain.newline_notMem_body (h : r.IsPlain) : '\n' ∉ r.body := by
  have hmarks : '\n' ∉ "when=".toList ∧ '\n' ∉ " sample#".toList ∧ '\n' ∉ " source=".toList := by
    decide
  obtain ⟨hwhen, hsample, hsource⟩ := hmarks
  simp only [body, List.mem_append, List.mem_cons, not_or]
  refine ⟨hwhen, newline_notMem h.time, hsample, newline_notMem h.name, by decide,
    newline_notMem h.value, ?_⟩
  cases hr : r.source with
  | none => simp
  | some s =>
    simp only [Option.elim_some, List.mem_append, not_or]
    exact ⟨hsource, newline_notMem (h.source s hr)⟩

end Sample

end MetricAgent.Output
