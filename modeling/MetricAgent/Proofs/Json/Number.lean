import Mathlib.Data.List.TakeWhile
import Mathlib.Tactic.Ring
import MetricAgent.Json.Reader
import MetricAgent.Proofs.Decimal.Literal
import MetricAgent.Proofs.Decimal.Shortest

/-!
Numbers that are written are read back: whole numbers as themselves, and doubles because what their
shortest decimal stands for is nearest to them, in whichever of its forms the decimal is written.
-/

namespace MetricAgent.Json

open Decimal Text

variable {s rest whole part : List Char} {c : Char} {negative : Bool} {x : Double}
  {d : Scientific} {e : Int} {v : Value}

/-! ### Digits without a zero in front -/

lemma isPlainNumeral_iff : isPlainNumeral s = true ↔
    isNumeral s = true ∧ (s.head? ≠ some '0' ∨ s.length = 1) := by
  simp [isPlainNumeral]

lemma isPlainNumeral_digits (n : Nat) : isPlainNumeral (digits n) = true := by
  by_cases h : n = 0
  · subst h
    decide
  · exact isPlainNumeral_iff.mpr ⟨isNumeral_digits n, .inl (head?_digits_ne_zero h)⟩

/-! ### The forms of a number -/

lemma head_of_unsigned? (h : unsigned? negative s = some v) :
    ∀ c ∈ s.head?, c.isDigit = true := by
  cases s with
  | nil => simp
  | cons c s =>
    intro d hd
    obtain rfl : c = d := by simpa using hd
    by_contra hc
    have hspan : (spanDigits (c :: s)).1 = [] := by simp [spanDigits, hc]
    unfold unsigned? at h
    simp [hspan, isPlainNumeral, isNumeral] at h

lemma number?_sign (h : unsigned? negative s = some v) :
    number? ((if negative then ['-'] else []) ++ s) = some v := by
  rw [← h]
  cases negative with
  | true => rfl
  | false =>
    unfold number?
    simp only [Bool.false_eq_true, if_false, List.nil_append]
    split
    next => exact absurd (head_of_unsigned? h '-' rfl) (by decide)
    next => rfl

lemma unsigned?_whole (hw : isPlainNumeral whole = true) : unsigned? negative whole =
    some (.whole (if negative then -(ofDigits whole : Int) else (ofDigits whole : Int))) := by
  have hspan : spanDigits whole = (whole, []) := by
    have h : spanDigits (whole ++ []) = (whole, []) :=
      spanDigits_append (isNumeral_iff.mp (isPlainNumeral_iff.mp hw).1).2 (by simp)
    simpa using h
  unfold unsigned?
  simp only [hspan, hw, Bool.not_true, Bool.false_eq_true, if_false]

lemma unsigned?_point (hw : isPlainNumeral whole = true) (hp : isNumeral part = true)
    (he : exponent? rest = some e) :
    unsigned? negative (whole ++ '.' :: (part ++ rest)) =
      some (.real (Scientific.toDouble negative ⟨ofDigits (whole ++ part), e - part.length⟩)) := by
  have exponent : IsExponent rest e := exponent?_eq_some.mp he
  obtain ⟨hne, hdigits⟩ := isNumeral_iff.mp (isPlainNumeral_iff.mp hw).1
  obtain ⟨hne', hdigits'⟩ := isNumeral_iff.mp hp
  have hwhole : spanDigits (whole ++ '.' :: (part ++ rest)) = (whole, '.' :: (part ++ rest)) :=
    spanDigits_append hdigits (by simp)
  have hboth : isNumeral (whole ++ part) = true := isNumeral_iff.mpr
    ⟨by simp [hne], fun c hc => (List.mem_append.mp hc).elim (hdigits c) (hdigits' c)⟩
  have hscientific := scientific?_eq_some.mpr (.point whole part rest e hboth exponent)
  unfold unsigned?
  simp [hwhole, hw, spanDigits_append hdigits' exponent.head_notDigit, hne', hscientific]

lemma unsigned?_places (hw : isPlainNumeral whole = true) (hp : isNumeral part = true) :
    unsigned? negative (whole ++ '.' :: part) =
      some (.real (Scientific.toDouble negative ⟨ofDigits (whole ++ part), -part.length⟩)) := by
  have h : unsigned? negative (whole ++ '.' :: (part ++ [])) = _ :=
    unsigned?_point hw hp rfl
  simpa using h

lemma unsigned?_power (hw : isPlainNumeral whole = true) (he : exponent? ('e' :: rest) = some e) :
    unsigned? negative (whole ++ 'e' :: rest) =
      some (.real (Scientific.toDouble negative ⟨ofDigits whole, e⟩)) := by
  have hnumeral := (isPlainNumeral_iff.mp hw).1
  have hwhole : spanDigits (whole ++ 'e' :: rest) = (whole, 'e' :: rest) :=
    spanDigits_append (isNumeral_iff.mp hnumeral).2 (by simp)
  have hscientific := scientific?_eq_some.mpr
    (.whole whole ('e' :: rest) e hnumeral (exponent?_eq_some.mp he))
  unfold unsigned?
  simp [hwhole, hw, hscientific]

lemma exponent?_text (lead : Int) :
    exponent? ('e' :: (if lead < 0 then '-' else '+') :: digits lead.natAbs) = some lead := by
  obtain ⟨n, hn⟩ : ∃ n, n = lead.natAbs := ⟨_, rfl⟩
  rw [← hn]
  have hnumeral := isNumeral_digits n
  by_cases h : lead < 0
  · simp [exponent?, h, splitSign, hnumeral]
    omega
  · simp [exponent?, h, splitSign, hnumeral]
    omega

/-! ### Whole numbers -/

theorem number?_wholeText (n : Int) : number? (wholeText n) = some (.whole n) := by
  have hsign : wholeText n =
      (if decide (n < 0) = true then ['-'] else []) ++ digits n.natAbs := by
    simp [wholeText]
  rw [hsign, number?_sign (unsigned?_whole (isPlainNumeral_digits n.natAbs)), ofDigits_digits]
  congr 2
  simp only [decide_eq_true_eq]
  split <;> omega

/-! ### Doubles -/

lemma isDigit_of_mem_zeros {k : Nat} : ∀ c ∈ List.replicate k '0', c.isDigit = true := by
  intro c hc
  obtain rfl := List.eq_of_mem_replicate hc
  rfl

lemma isPlainNumeral_of_head (hw : isNumeral whole = true)
    (hhead : whole.head? = s.head?) (h0 : s.head? ≠ some '0') : isPlainNumeral whole = true :=
  isPlainNumeral_iff.mpr ⟨hw, .inl (hhead ▸ h0)⟩

lemma unsigned?_small (hs : isNumeral s = true) (k : Nat) :
    unsigned? negative ("0.".toList ++ List.replicate k '0' ++ s) =
      some (.real (Scientific.toDouble negative ⟨ofDigits s, -(k + s.length)⟩)) := by
  obtain ⟨hne, hdigits⟩ := isNumeral_iff.mp hs
  have hpart : isNumeral (List.replicate k '0' ++ s) = true :=
    isNumeral_iff.mpr ⟨by simp [hne], fun c hc =>
      (List.mem_append.mp hc).elim (isDigit_of_mem_zeros c) (hdigits c)⟩
  have h : unsigned? negative (['0'] ++ '.' :: (List.replicate k '0' ++ s)) = _ :=
    unsigned?_places (by decide) hpart
  rw [show ['0'] = List.replicate 1 '0' from rfl, ofDigits_zeros_append,
    ofDigits_zeros_append] at h
  simpa [Int.neg_add] using h

lemma unsigned?_large (hs : isNumeral s = true) (h0 : s.head? ≠ some '0') (k : Nat) :
    unsigned? negative (s ++ List.replicate k '0' ++ ".0".toList) =
      some (.real (Scientific.toDouble negative ⟨ofDigits s * 10 ^ (k + 1), -1⟩)) := by
  obtain ⟨hne, hdigits⟩ := isNumeral_iff.mp hs
  have hwhole : isNumeral (s ++ List.replicate k '0') = true :=
    isNumeral_iff.mpr ⟨by simp [hne], fun c hc =>
      (List.mem_append.mp hc).elim (hdigits c) (isDigit_of_mem_zeros c)⟩
  have hplain : isPlainNumeral (s ++ List.replicate k '0') = true := by
    refine isPlainNumeral_of_head hwhole ?_ h0
    obtain ⟨c, w, rfl⟩ := List.exists_cons_of_ne_nil hne
    rfl
  have h : unsigned? negative (s ++ List.replicate k '0' ++ '.' :: ['0']) = _ :=
    unsigned?_places hplain (by decide)
  have hvalue : ofDigits (s ++ List.replicate k '0' ++ ['0']) = ofDigits s * 10 ^ (k + 1) := by
    rw [List.append_assoc, ← List.replicate_succ', ofDigits_append_zeros]
  rw [hvalue] at h
  simpa using h

lemma unsigned?_inner (hs : isNumeral s = true) (h0 : s.head? ≠ some '0') {k : Nat} (hk : 0 < k)
    (hlt : k < s.length) : unsigned? negative (s.take k ++ '.' :: s.drop k) =
      some (.real (Scientific.toDouble negative ⟨ofDigits s, (k : Int) - s.length⟩)) := by
  have hne := (isNumeral_iff.mp hs).1
  have htake : isNumeral (s.take k) = true :=
    isNumeral_of_subset hs (by simp [hk.ne', hne]) (List.take_subset k s)
  have hdrop : isNumeral (s.drop k) = true :=
    isNumeral_of_subset hs (by simp [hlt]) (List.drop_subset k s)
  have hplain : isPlainNumeral (s.take k) = true :=
    isPlainNumeral_of_head htake (by rw [List.head?_take]; simp [hk.ne']) h0
  rw [unsigned?_places hplain hdrop, List.take_append_drop, List.length_drop, Nat.cast_sub hlt.le]
  congr 4
  omega

lemma unsigned?_far (hs : isNumeral s = true) (h0 : s.head? ≠ some '0') (lead : Int) :
    unsigned? negative
        (pointAfterFirst s ++ 'e' :: (if lead < 0 then '-' else '+') :: digits lead.natAbs) =
      some (.real (Scientific.toDouble negative ⟨ofDigits s, lead - (s.length - 1)⟩)) := by
  obtain ⟨c, r, rfl⟩ := List.exists_cons_of_ne_nil (isNumeral_iff.mp hs).1
  have hfirst : isNumeral [c] = true := isNumeral_of_subset hs (by simp) (by simp)
  have hplain : isPlainNumeral [c] = true :=
    isPlainNumeral_of_head (s := c :: r) hfirst rfl h0
  cases r with
  | nil =>
    have h : unsigned? negative ([c] ++ 'e' :: _) = _ :=
      unsigned?_power hplain (exponent?_text lead)
    simpa [pointAfterFirst] using h
  | cons d r =>
    have hpart : isNumeral (d :: r) = true :=
      isNumeral_of_subset hs (by simp) (List.subset_cons_self c (d :: r))
    have h : unsigned? negative ([c] ++ '.' :: (d :: r ++ _)) = _ :=
      unsigned?_point hplain hpart (exponent?_text lead)
    simpa [pointAfterFirst] using h

/-- The text of a decimal is a number that stands for all points that the decimal stands for. -/
lemma unsigned?_text (h0 : d.mantissa ≠ 0) (negative : Bool) :
    ∃ d', unsigned? negative d.text = some (.real (Scientific.toDouble negative d')) ∧
      d'.mantissa ≠ 0 ∧ ∀ point, d.StandsFor point → d'.StandsFor point := by
  obtain ⟨c, e⟩ := d
  have hlength := length_digits_pos c
  have hnumeral := isNumeral_digits c
  have hvalue := ofDigits_digits c
  have hhead := head?_digits_ne_zero h0
  obtain ⟨ds, hds⟩ : ∃ ds, ds = digits c := ⟨_, rfl⟩
  unfold Scientific.text
  dsimp only at h0 ⊢
  rw [← hds] at hlength hnumeral hvalue hhead ⊢
  split
  next hnear =>
    split
    next hsmall =>
      obtain ⟨k, hk⟩ : ∃ k : Nat, k = (-((ds.length : Int) + e)).toNat := ⟨_, rfl⟩
      have he : -((k : Int) + ds.length) = e := by omega
      rw [← hk, unsigned?_small hnumeral, hvalue, he]
      exact ⟨⟨c, e⟩, rfl, h0, fun _ h => h⟩
    next hlarge =>
      split
      next hexponent =>
        obtain ⟨k, rfl⟩ := Int.eq_ofNat_of_zero_le hexponent
        rw [Int.toNat_natCast, unsigned?_large hnumeral hhead, hvalue]
        refine ⟨_, rfl, Nat.mul_ne_zero h0 (pow_ne_zero _ (by decide)), ?_⟩
        -- The zeros that are written come out of the power that the decimal stands for.
        rintro point ⟨j, hj, hpoint⟩
        dsimp only at hj hpoint
        have hplaces : 0 < pointPlaces := by decide +kernel
        have hpow : j = (k + 1) + (pointPlaces - 1) := by omega
        refine ⟨pointPlaces - 1, by dsimp only; omega, ?_⟩
        rw [← hpoint, hpow, pow_add _ (k + 1), ← mul_assoc]
      next hexponent =>
        obtain ⟨k, hk⟩ : ∃ k : Nat, k = ((ds.length : Int) + e).toNat := ⟨_, rfl⟩
        have he : (k : Int) - ds.length = e := by omega
        rw [← hk, unsigned?_inner hnumeral hhead (by omega) (by omega), hvalue, he]
        exact ⟨⟨c, e⟩, rfl, h0, fun _ h => h⟩
  next hfar =>
    have he : ((ds.length : Int) + e - 1) - (ds.length - 1) = e := by omega
    rw [unsigned?_far hnumeral hhead, hvalue, he]
    exact ⟨⟨c, e⟩, rfl, h0, fun _ h => h⟩

theorem number?_jsonNumber (hf : x.isFinite = true) :
    number? (jsonNumber x) = some (.real x) := by
  have hx := Double.ofMagnitude_magnitude x
  unfold jsonNumber
  refine number?_sign ?_
  by_cases hzero : x.magnitude = 0
  · rw [if_pos hzero]
    rw [hzero] at hx
    calc unsigned? x.isNegative "0.0".toList
      _ = some (.real (Scientific.toDouble x.isNegative ⟨0, -1⟩)) :=
        unsigned?_places (show isPlainNumeral ['0'] = true by decide)
          (show isNumeral ['0'] = true by decide)
      _ = some (.real (.ofMagnitude x.isNegative 0)) := rfl
      _ = some (.real x) := by rw [hx]
  · rw [if_neg hzero]
    obtain ⟨h0, point, hpoint, hd⟩ := shortest_standsFor hzero
    obtain ⟨d, hread, hd0, hstands⟩ := unsigned?_text h0 x.isNegative
    rw [hread, toDouble_of_standsFor hf hzero hpoint (hstands point hd) hd0, hx]

/-! ### The characters of numbers -/

lemma isNumberChar_of_isDigit (h : c.isDigit = true) : isNumberChar c = true := by
  simp [isNumberChar, h]

lemma isNumberChar_of_spanDigits (h : ∀ c ∈ (spanDigits s).2, isNumberChar c = true) :
    ∀ c ∈ s, isNumberChar c = true := by
  intro c hc
  rw [← List.takeWhile_append_dropWhile (p := Char.isDigit) (l := s)] at hc
  rcases List.mem_append.mp hc with hc | hc
  · exact isNumberChar_of_isDigit (List.mem_takeWhile_imp hc)
  · exact h c hc

lemma isNumberChar_of_splitSign (h : isNumeral (splitSign s).2 = true) :
    ∀ c ∈ s, isNumberChar c = true := by
  unfold splitSign at h
  split at h
  case h_3 => exact fun c hc => isNumberChar_of_isDigit ((isNumeral_iff.mp h).2 c hc)
  all_goals
    rintro c hc
    rcases List.mem_cons.mp hc with rfl | hc
    · decide
    · exact isNumberChar_of_isDigit ((isNumeral_iff.mp h).2 c hc)

lemma isNumberChar_of_exponent? (h : exponent? s = some e) :
    ∀ c ∈ s, isNumberChar c = true := by
  unfold exponent? at h
  split at h
  next => simp
  next c s =>
    split at h
    next hletter =>
      have hnumeral : isNumeral (splitSign s).2 = true := by
        by_contra hn
        simp [hn] at h
      intro d hd
      rcases List.mem_cons.mp hd with rfl | hd
      · simp only [Bool.or_eq_true, decide_eq_true_eq] at hletter
        rcases hletter with rfl | rfl <;> decide
      · exact isNumberChar_of_splitSign hnumeral d hd
    next => cases h

lemma isNumberChar_of_scientific? (h : scientific? s = some d) :
    ∀ c ∈ s, isNumberChar c = true := by
  have hrest {f : Int → Scientific} {r : List Char} {b : Bool}
      (hs : (if b then none else (exponent? r).map f) = some d) :
      ∀ c ∈ r, isNumberChar c = true := by
    split at hs
    next => cases hs
    next =>
      obtain ⟨e, he, -⟩ := Option.map_eq_some_iff.mp hs
      exact isNumberChar_of_exponent? he
  refine isNumberChar_of_spanDigits ?_
  unfold scientific? at h
  dsimp only at h
  split at h
  next r hr =>
    rw [hr]
    intro c hc
    rcases List.mem_cons.mp hc with rfl | hc
    · decide
    · exact isNumberChar_of_spanDigits (hrest h) c hc
  next => exact hrest h

lemma isNumberChar_of_unsigned? (h : unsigned? negative s = some v) :
    ∀ c ∈ s, isNumberChar c = true := by
  have hscientific {f : Scientific → Value} (hs : (scientific? s).map f = some v) :
      ∀ c ∈ s, isNumberChar c = true := by
    obtain ⟨d, hd, -⟩ := Option.map_eq_some_iff.mp hs
    exact isNumberChar_of_scientific? hd
  unfold unsigned? at h
  dsimp only at h
  split at h
  next => cases h
  next =>
    split at h
    next hrest => exact isNumberChar_of_spanDigits (by simp [hrest])
    next =>
      split at h
      next => cases h
      next => exact hscientific h
    next => exact hscientific h

lemma isNumberChar_of_number? (h : number? s = some v) : ∀ c ∈ s, isNumberChar c = true := by
  unfold number? at h
  split at h
  next s =>
    intro c hc
    rcases List.mem_cons.mp hc with rfl | hc
    · decide
    · exact isNumberChar_of_unsigned? h c hc
  next => exact isNumberChar_of_unsigned? h

end MetricAgent.Json
