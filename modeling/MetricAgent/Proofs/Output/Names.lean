import MetricAgent.Proofs.Output.Decoration

/-!
Names as they are seen outside. A prefix stands in front of the name without one, with a point
between them, and the name depends on no more of the collector and the path than their characters
with points between them: since a point is also what every mark is written as, nobody can tell from
a name where its parts end.
-/

namespace MetricAgent

open Output Text

variable {m n : Measurement} {p : String} {s t : String}

/-! ### Normalization -/

lemma toList_normalizeName (s : String) : (normalizeName s).toList = normalize s.toList :=
  String.toList_ofList

lemma normalizeName_append (s t : String) :
    normalizeName (s ++ t) = normalizeName s ++ normalizeName t := by
  rw [← String.toList_inj, String.toList_append]
  simp only [toList_normalizeName, String.toList_append, normalize_append]

lemma normalizeName_normalizeName (s : String) :
    normalizeName (normalizeName s) = normalizeName s := by
  rw [normalizeName, toList_normalizeName, normalize_normalize]
  rfl

lemma length_normalizeName (s : String) : (normalizeName s).length = s.length := by
  rw [← String.length_toList, toList_normalizeName, length_normalize, String.length_toList]

/-- A text without marks. -/
def HasNoMark (s : String) : Prop := '#' ∉ s.toList ∧ '_' ∉ s.toList ∧ '-' ∉ s.toList

lemma hasNoMark_iff : HasNoMark s ↔ ∀ c ∈ s.toList, isNameMark c = false := by
  unfold HasNoMark
  constructor
  · rintro ⟨hhash, hline, hhyphen⟩ c hc
    by_contra hmark
    simp only [isNameMark, Bool.not_eq_false, Bool.or_eq_true, decide_eq_true_eq] at hmark
    rcases hmark with (rfl | rfl) | rfl
    · exact hhash hc
    · exact hline hc
    · exact hhyphen hc
  · intro h
    refine ⟨fun hc => ?_, fun hc => ?_, fun hc => ?_⟩
    all_goals cases h _ hc

lemma hasNoMark_normalizeName (s : String) : HasNoMark (normalizeName s) := by
  rw [hasNoMark_iff, toList_normalizeName]
  exact fun c => isNameMark_of_mem_normalize

lemma normalizeName_eq_iff : normalizeName s = s ↔ HasNoMark s := by
  constructor
  · intro h
    rw [← h]
    exact hasNoMark_normalizeName s
  · intro h
    rw [normalizeName, normalize_of_noMark (hasNoMark_iff.mp h), String.ofList_toList]

/-! ### Names -/

lemma join_eq_intercalate (sep : Char) (ps : List (List Char)) :
    join sep ps = [sep].intercalate ps := by
  induction ps with
  | nil => rfl
  | cons p ps ih =>
    cases ps with
    | nil => simp [join]
    | cons q ps => simp [join, ih, List.intercalate_cons_cons]

/-- The collector and the parts of the path, with points between them. -/
def Measurement.dotted (m : Measurement) : String := ".".intercalate (m.collector :: m.path)

lemma name_none (m : Measurement) : m.name none = normalizeName m.dotted := by
  have hjoin : m.dotted.toList = join '.' ((m.collector :: m.path).map String.toList) := by
    rw [Measurement.dotted, String.toList_intercalate, join_eq_intercalate]
    rfl
  rw [normalizeName, hjoin]
  rfl

lemma name_of_ne (m : Measurement) (hp : p ≠ "") :
    m.name (some p) = normalizeName p ++ "." ++ m.name none := by
  have hlead : leadText (some p) = normalize p.toList ++ ['.'] := by
    simp [leadText, Option.filter, hp]
  rw [name_lead m (some p), behind, hlead, ← String.toList_inj]
  simp [toList_normalizeName]

lemma name_eq_iff (m n : Measurement) (p : Option String) :
    m.name p = n.name p ↔ m.name none = n.name none := by
  rw [name_lead m p, name_lead n p, behind_inj]

/--
**Names compose.** Under a prefix that is not empty a name is the normalized prefix, a point and the
name without a prefix; an empty prefix is none. The name without a prefix is what normalization
makes of the collector and the path with points between them. So whether two names are equal is the
same under every prefix, and told by those texts alone, wherever the parts end. Normalization leaves
no marks and changes nothing else: it keeps a text without marks, the number of characters, and what
stands next to each other.
-/
theorem names_compose (m : Measurement) :
    (∀ p, p ≠ "" → m.name (some p) = normalizeName p ++ "." ++ m.name none) ∧
      m.name (some "") = m.name none ∧ m.name none = normalizeName m.dotted ∧
      (∀ (n : Measurement) (p q : Option String),
        (m.name p = n.name p ↔ m.name q = n.name q) ∧
          (m.name p = n.name p ↔ normalizeName m.dotted = normalizeName n.dotted)) ∧
      ∀ s t, normalizeName (normalizeName s) = normalizeName s ∧
        (normalizeName s).length = s.length ∧
        normalizeName (s ++ t) = normalizeName s ++ normalizeName t ∧
        HasNoMark (normalizeName s) ∧ (normalizeName s = s ↔ HasNoMark s) := by
  refine ⟨fun p => name_of_ne m, rfl, name_none m, fun n p q => ⟨?_, ?_⟩,
    fun s t => ⟨normalizeName_normalizeName s, length_normalizeName s, normalizeName_append s t,
      hasNoMark_normalizeName s, normalizeName_eq_iff⟩⟩
  · rw [name_eq_iff, name_eq_iff m n q]
  · rw [name_eq_iff, name_none, name_none]

/-- A device of the host, with a mark in a part of the path. -/
def received : Measurement :=
  ⟨⟨90210, 0⟩, "nif", ["eth0", "rx_bytes"], .gauge 1, .bytes⟩

/-- The same characters in other parts, and a mark in the place of a point. -/
def receivedElsewhere : Measurement :=
  ⟨⟨90210, 0⟩, "nif.eth0", ["rx", "bytes"], .gauge 2, .none⟩

/-- Both are seen under one name, with a prefix that has a mark itself. -/
theorem names_compose_otherParts :
    "my-host" ≠ "" ∧ received.name (some "my-host") = "my.host." ++ received.name none ∧
      normalizeName received.dotted = normalizeName receivedElsewhere.dotted ∧
      received.name (some "my-host") = receivedElsewhere.name (some "my-host") := by
  obtain ⟨hlead, -, -, hequal, -⟩ := names_compose received
  have hdotted : normalizeName received.dotted = normalizeName receivedElsewhere.dotted := by
    decide +kernel
  obtain ⟨-, htold⟩ := hequal receivedElsewhere (some "my-host") none
  have hprefix : normalizeName "my-host" ++ "." = "my.host." := by decide +kernel
  refine ⟨by decide, ?_, hdotted, htold.mpr hdotted⟩
  rw [hlead "my-host" (by decide), hprefix]

end MetricAgent
