import MetricAgent.Proofs.Json.Number
import MetricAgent.Proofs.Json.Strings

/-!
Reading gives back what was written: the text of a value whose doubles are finite is read as that
value, and no other value has the same text.
-/

namespace MetricAgent.Json

open Decimal Text

variable {v w : Value} {vs : List Value} {fs : List (String × Value)} {s t rest : List Char}
  {c : Char} {n : Nat}

/-! ### Atoms -/

/-- A character that can belong to an atom. -/
def isAtomChar (c : Char) : Bool := isNumberChar c || c.isAlpha

/-- A text that does not carry on an atom in front of it. -/
def EndsAtom (rest : List Char) : Prop := ∀ c ∈ rest.head?, isAtomChar c = false

lemma atom?_append (ht : ∀ c ∈ t, isAtomChar c = true) (hr : EndsAtom rest) :
    atom? (t ++ rest) = ((keyword? t).or (number? t)).map (·, rest) := by
  have htake := takeWhile_append_rest ht hr
  have hdrop := dropWhile_append_rest ht hr
  unfold isAtomChar at htake hdrop
  unfold atom?
  dsimp only
  rw [htake, hdrop]

lemma value?_atom (h : ∀ c ∈ s.head?, isAtomChar c = true) (n : Nat) :
    value? (n + 1) s = atom? s := by
  unfold value?
  split
  next heq => exact absurd heq (by omega)
  next => exact absurd (h '"' rfl) (by decide)
  next => exact absurd (h '[' rfl) (by decide)
  next => exact absurd (h '\x7b' rfl) (by decide)
  next => rfl

lemma keyword?_number (h : ∀ c ∈ t, isNumberChar c = true) : keyword? t = none := by
  unfold keyword?
  rw [if_neg, if_neg, if_neg]
  · rintro rfl
    exact absurd (h 'f' (by decide)) (by decide)
  · rintro rfl
    exact absurd (h 't' (by decide)) (by decide)
  · rintro rfl
    exact absurd (h 'n' (by decide)) (by decide)

/-! ### Values -/

/-- All doubles in a value are finite. -/
inductive Value.IsFinite : Value → Prop where
  | null : IsFinite .null
  | bool (b : Bool) : IsFinite (.bool b)
  | whole (n : Int) : IsFinite (.whole n)
  | real {x : Double} (h : x.isFinite = true) : IsFinite (.real x)
  | string (s : String) : IsFinite (.string s)
  | array {vs : List Value} (h : ∀ v ∈ vs, IsFinite v) : IsFinite (.array vs)
  | object {fs : List (String × Value)} (h : ∀ f ∈ fs, IsFinite f.2) : IsFinite (.object fs)

/-- A value is read from its text, whatever stands behind, in no more steps than it has letters. -/
structure Value.Reads (v : Value) : Prop where
  head : ∃ c t, v.text = c :: t ∧ isSpace c = false ∧ c ≠ ']'
  read : ∀ {n : Nat} {rest : List Char}, v.text.length ≤ n → EndsAtom rest →
    value? n (v.text ++ rest) = some (v, rest)

lemma skip_cons (h : isSpace c = false) (s : List Char) : skip (c :: s) = c :: s := by
  simp [skip, h]

lemma Value.Reads.skip (h : v.Reads) (rest : List Char) :
    Json.skip (v.text ++ rest) = v.text ++ rest := by
  obtain ⟨c, t, ht, hspace, -⟩ := h.head
  rw [ht, List.cons_append, skip_cons hspace]

lemma endsAtom_cons (h : isAtomChar c = false) (s : List Char) : EndsAtom (c :: s) := by
  intro d hd
  obtain rfl : c = d := by simpa using hd
  exact h

lemma items?_last (hv : v.Reads) (hn : v.text.length ≤ n) (rest : List Char) :
    items? (n + 1) (v.text ++ ']' :: rest) = some ([v], rest) := by
  rw [items?, hv.skip, hv.read hn (endsAtom_cons (by decide) rest)]
  rfl

lemma items?_next (hv : v.Reads) (hn : v.text.length ≤ n) (hs : items? n s = some (vs, rest)) :
    items? (n + 1) (v.text ++ ',' :: s) = some (v :: vs, rest) := by
  rw [items?, hv.skip, hv.read hn (endsAtom_cons (by decide) s)]
  simp only [Option.bind_eq_bind, Option.bind_some, skip_cons (c := ',') (by decide), hs]

lemma items?_itemsText (h : ∀ v ∈ vs, v.Reads) (hne : vs ≠ []) (hn : (itemsText vs).length < n)
    (rest : List Char) : items? n (itemsText vs ++ ']' :: rest) = some (vs, rest) := by
  induction vs generalizing n with
  | nil => exact absurd rfl hne
  | cons v vs ih =>
    have hv := h v List.mem_cons_self
    obtain ⟨m, rfl⟩ : ∃ m, n = m + 1 := ⟨n - 1, by omega⟩
    cases vs with
    | nil =>
      rw [itemsText] at hn ⊢
      exact items?_last hv (by omega) rest
    | cons w vs =>
      rw [itemsText, List.length_append, List.length_cons] at hn
      rw [itemsText, List.append_assoc, List.cons_append]
      refine items?_next hv (by omega) (ih (fun u hu => ?_) (by simp) (by omega))
      exact h u (List.mem_cons_of_mem _ hu)

lemma fields?_last (hv : v.Reads) (hn : v.text.length ≤ n) (k : String) (rest : List Char) :
    fields? (n + 1) (stringText k ++ ':' :: (v.text ++ '\x7d' :: rest)) =
      some ([(k, v)], rest) := by
  obtain ⟨t, ht, hkey⟩ := stringRest?_stringText k (':' :: (v.text ++ '\x7d' :: rest))
  have hvalue := hv.read hn (endsAtom_cons (c := '\x7d') (by decide) rest)
  rw [ht, fields?, skip_cons (by decide)]
  simp only [hkey, Option.bind_eq_bind, Option.bind_some, skip_cons (c := ':') (by decide),
    hv.skip, hvalue, skip_cons (c := '\x7d') (by decide), String.ofList_toList]

lemma fields?_next (hv : v.Reads) (hn : v.text.length ≤ n) (k : String)
    (hs : fields? n s = some (fs, rest)) :
    fields? (n + 1) (stringText k ++ ':' :: (v.text ++ ',' :: s)) = some ((k, v) :: fs, rest) := by
  obtain ⟨t, ht, hkey⟩ := stringRest?_stringText k (':' :: (v.text ++ ',' :: s))
  have hvalue := hv.read hn (endsAtom_cons (c := ',') (by decide) s)
  rw [ht, fields?, skip_cons (by decide)]
  simp only [hkey, Option.bind_eq_bind, Option.bind_some, skip_cons (c := ':') (by decide),
    hv.skip, hvalue, skip_cons (c := ',') (by decide), hs, String.ofList_toList]

lemma fields?_fieldsText (h : ∀ f ∈ fs, f.2.Reads) (hne : fs ≠ []) (hn : (fieldsText fs).length < n)
    (rest : List Char) : fields? n (fieldsText fs ++ '\x7d' :: rest) = some (fs, rest) := by
  induction fs generalizing n with
  | nil => exact absurd rfl hne
  | cons f fs ih =>
    obtain ⟨k, v⟩ := f
    have hv : v.Reads := h (k, v) List.mem_cons_self
    obtain ⟨m, rfl⟩ : ∃ m, n = m + 1 := ⟨n - 1, by omega⟩
    cases fs with
    | nil =>
      rw [fieldsText, List.length_append, List.length_cons] at hn
      rw [fieldsText, List.append_assoc, List.cons_append]
      exact fields?_last hv (by omega) k rest
    | cons g fs =>
      rw [fieldsText, List.length_append, List.length_append, List.length_cons,
        List.length_cons] at hn
      rw [fieldsText, List.append_assoc, List.append_assoc, List.cons_append, List.cons_append]
      refine fields?_next hv (by omega) k (ih (fun f hf => ?_) (by simp) (by omega))
      exact h f (List.mem_cons_of_mem _ hf)

lemma isSpace_of_isAtomChar (h : isAtomChar c = true) : isSpace c = false ∧ c ≠ ']' := by
  constructor
  · by_contra hspace
    simp only [isSpace, Bool.not_eq_false, Bool.or_eq_true, decide_eq_true_eq] at hspace
    obtain ((rfl | rfl) | rfl) | rfl := hspace <;> exact absurd h (by decide)
  · rintro rfl
    exact absurd h (by decide)

lemma Value.Reads.of_word (h : (keyword? v.text).or (number? v.text) = some v)
    (ht : ∀ c ∈ v.text, isAtomChar c = true) : v.Reads := by
  obtain ⟨c, t, hc⟩ : ∃ c t, v.text = c :: t := by
    refine List.exists_cons_of_ne_nil fun hnil => ?_
    rw [hnil] at h
    cases h
  have hchar : isAtomChar c = true := ht c (hc ▸ List.mem_cons_self)
  refine ⟨⟨c, t, hc, isSpace_of_isAtomChar hchar⟩, ?_⟩
  intro n rest hn hr
  have hpos : 0 < v.text.length := by simp [hc]
  obtain ⟨m, rfl⟩ : ∃ m, n = m + 1 := ⟨n - 1, by omega⟩
  have hhead : ∀ d ∈ (v.text ++ rest).head?, isAtomChar d = true := by
    intro d hd
    obtain rfl : c = d := by simpa [hc] using hd
    exact hchar
  rw [value?_atom hhead, atom?_append ht hr, h]
  rfl

lemma Value.Reads.of_number (h : number? v.text = some v) : v.Reads := by
  have hchars := isNumberChar_of_number? h
  refine .of_word ?_ fun c hc => by simp [isAtomChar, hchars c hc]
  rw [keyword?_number hchars, h]
  rfl

lemma Value.reads_string (s : String) : (Value.string s).Reads where
  head := by
    obtain ⟨t, ht, -⟩ := stringRest?_stringText s []
    rw [List.append_nil] at ht
    exact ⟨'"', t, ht, by decide, by decide⟩
  read := by
    intro n rest hn _
    obtain ⟨t, ht, hread⟩ := stringRest?_stringText s rest
    have hpos : 0 < (stringText s).length := by simp [stringText]
    rw [Value.text] at hn ⊢
    obtain ⟨m, rfl⟩ : ∃ m, n = m + 1 := ⟨n - 1, by omega⟩
    simp only [ht, value?, hread, Option.map_some, String.ofList_toList]

lemma itemsText_cons (v : Value) (vs : List Value) : ∃ t, itemsText (v :: vs) = v.text ++ t := by
  cases vs with
  | nil => exact ⟨[], by rw [itemsText, List.append_nil]⟩
  | cons w vs => exact ⟨_, by rw [itemsText]⟩

lemma Value.reads_array (h : ∀ v ∈ vs, v.Reads) : (Value.array vs).Reads where
  head := ⟨'[', itemsText vs ++ [']'], rfl, by decide, by decide⟩
  read := by
    intro n rest hn _
    rw [Value.text, List.length_append, List.length_cons, List.length_singleton] at hn
    rw [Value.text, List.cons_append, List.cons_append, List.append_assoc, List.singleton_append]
    obtain ⟨m, rfl⟩ : ∃ m, n = m + 1 := ⟨n - 1, by omega⟩
    cases vs with
    | nil =>
      rw [itemsText, List.nil_append, value?, skip_cons (by decide)]
      rfl
    | cons v vs =>
      have hread := items?_itemsText h (by simp) (n := m) (by omega) rest
      obtain ⟨t, ht⟩ := itemsText_cons v vs
      obtain ⟨c, u, hc, hspace, hbracket⟩ := (h v List.mem_cons_self).head
      rw [ht, hc, List.cons_append, List.cons_append] at hread ⊢
      rw [value?, skip_cons hspace]
      split
      next heq => exact absurd (List.cons.inj heq).1 hbracket
      next => rw [hread, Option.map_some]

lemma fieldsText_cons (f : String × Value) (fs : List (String × Value)) :
    ∃ t, fieldsText (f :: fs) = '"' :: t := by
  obtain ⟨k, v⟩ := f
  obtain ⟨t, ht, -⟩ := stringRest?_stringText k []
  rw [List.append_nil] at ht
  cases fs with
  | nil => exact ⟨_, by rw [fieldsText, ht, List.cons_append]⟩
  | cons g fs => exact ⟨_, by rw [fieldsText, ht, List.cons_append, List.cons_append]⟩

lemma Value.reads_object (h : ∀ f ∈ fs, f.2.Reads) : (Value.object fs).Reads where
  head := ⟨'\x7b', fieldsText fs ++ ['\x7d'], rfl, by decide, by decide⟩
  read := by
    intro n rest hn _
    rw [Value.text, List.length_append, List.length_cons, List.length_singleton] at hn
    rw [Value.text, List.cons_append, List.cons_append, List.append_assoc, List.singleton_append]
    obtain ⟨m, rfl⟩ : ∃ m, n = m + 1 := ⟨n - 1, by omega⟩
    cases fs with
    | nil =>
      rw [fieldsText, List.nil_append, value?, skip_cons (by decide)]
      rfl
    | cons f fs =>
      have hread := fields?_fieldsText h (by simp) (n := m) (by omega) rest
      obtain ⟨t, ht⟩ := fieldsText_cons f fs
      rw [ht, List.cons_append] at hread ⊢
      rw [value?, skip_cons (by decide)]
      split
      next heq => exact absurd (List.cons.inj heq).1 (by decide)
      next => rw [hread, Option.map_some]

theorem Value.IsFinite.reads (h : v.IsFinite) : v.Reads := by
  have hword {t : List Char} (ht : t.all isAtomChar = true) := List.all_eq_true.mp ht
  induction h with
  | null => exact .of_word rfl (hword (by decide))
  | bool b => cases b <;> exact .of_word rfl (hword (by decide))
  | whole n => exact .of_number (number?_wholeText n)
  | real h => exact .of_number (number?_jsonNumber h)
  | string s => exact reads_string s
  | array _ ih => exact reads_array ih
  | object _ ih => exact reads_object ih

/-- What is written is read back. -/
theorem Value.ofText?_text (h : v.IsFinite) : Value.ofText? v.text = some v := by
  have hreads := h.reads
  have hskip : skip v.text = v.text := by simpa using hreads.skip []
  have hread : value? (2 * v.text.length + 2) (v.text ++ []) = some (v, []) :=
    hreads.read (by omega) (by simp [EndsAtom])
  rw [List.append_nil] at hread
  rw [Value.ofText?, hskip, hread]
  rfl

end MetricAgent.Json
