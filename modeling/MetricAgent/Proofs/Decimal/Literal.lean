import Mathlib.Data.List.TakeWhile
import MetricAgent.Decimal.Literal
import MetricAgent.Proofs.Decimal.Digits
import MetricAgent.Proofs.Decimal.Nearest
import MetricAgent.Proofs.Text.Fields

/-!
The grammar of the literals of doubles. A text is read as a decimal exactly if the grammar gives it,
and the double is finite exactly if the decimal is nearer to a finite one than to what lies beyond
them all.
-/

namespace MetricAgent.Decimal

open Text

variable {s r rest ds : List Char} {c : Char} {e : Int} {d : Scientific}

/-! ### Digits and signs in front of a text -/

lemma spanDigits_append (hs : ∀ c ∈ s, c.isDigit = true)
    (hr : ∀ c ∈ rest.head?, c.isDigit = false) : spanDigits (s ++ rest) = (s, rest) := by
  rw [spanDigits, takeWhile_append_rest hs hr, dropWhile_append_rest hs hr]

lemma spanDigits_eq (h : spanDigits s = (ds, r)) : s = ds ++ r ∧ ∀ c ∈ ds, c.isDigit = true := by
  obtain ⟨rfl, rfl⟩ := Prod.mk.inj h
  exact ⟨List.takeWhile_append_dropWhile.symm, fun c hc => List.mem_takeWhile_imp hc⟩

lemma splitSign_of_head (h : ∀ c ∈ s.head?, c.isDigit = true ∨ c = '.') :
    splitSign s = (false, s) := by
  unfold splitSign
  split
  next s => rcases h '-' rfl with h | h <;> cases h
  next s => rcases h '+' rfl with h | h <;> cases h
  next => rfl

lemma splitSign_cases (s : List Char) :
    s = '-' :: (splitSign s).2 ∧ (splitSign s).1 = true ∨
      s = '+' :: (splitSign s).2 ∧ (splitSign s).1 = false ∨
      s = (splitSign s).2 ∧ (splitSign s).1 = false := by
  unfold splitSign
  split
  next s => exact .inl ⟨rfl, rfl⟩
  next s => exact .inr (.inl ⟨rfl, rfl⟩)
  next => exact .inr (.inr ⟨rfl, rfl⟩)

lemma splitSign_numeral (h : isNumeral s = true) : splitSign s = (false, s) :=
  splitSign_of_head fun c hc => .inl ((isNumeral_iff.mp h).2 c (List.mem_of_mem_head? hc))

/-! ### Grammar -/

/-- An exponent: nothing, or a letter, a sign if there is one, and digits. -/
inductive IsExponent : List Char → Int → Prop where
  | none : IsExponent [] 0
  | plain (c : Char) (ds : List Char) (letter : c = 'e' ∨ c = 'E') (numeral : isNumeral ds = true) :
      IsExponent (c :: ds) (ofDigits ds)
  | plus (c : Char) (ds : List Char) (letter : c = 'e' ∨ c = 'E') (numeral : isNumeral ds = true) :
      IsExponent (c :: '+' :: ds) (ofDigits ds)
  | minus (c : Char) (ds : List Char) (letter : c = 'e' ∨ c = 'E') (numeral : isNumeral ds = true) :
      IsExponent (c :: '-' :: ds) (-(ofDigits ds : Int))

/-- A decimal: digits with a point in front of, between or behind them or none, and an exponent. -/
inductive IsDecimal : List Char → Scientific → Prop where
  | whole (ds r : List Char) (e : Int) (numeral : isNumeral ds = true) (exponent : IsExponent r e) :
      IsDecimal (ds ++ r) ⟨ofDigits ds, e⟩
  | point (ds ps r : List Char) (e : Int) (numeral : isNumeral (ds ++ ps) = true)
      (exponent : IsExponent r e) :
      IsDecimal (ds ++ '.' :: (ps ++ r)) ⟨ofDigits (ds ++ ps), e - ps.length⟩

lemma IsExponent.head (h : IsExponent s e) : ∀ c ∈ s.head?, c = 'e' ∨ c = 'E' := by
  intro d hd
  cases h with
  | none => cases hd
  | plain c ds letter => obtain rfl := Option.some.inj hd; exact letter
  | plus c ds letter => obtain rfl := Option.some.inj hd; exact letter
  | minus c ds letter => obtain rfl := Option.some.inj hd; exact letter

lemma IsExponent.head_notDigit (h : IsExponent s e) : ∀ c ∈ s.head?, c.isDigit = false := by
  intro c hc
  rcases h.head c hc with rfl | rfl <;> rfl

lemma exponent?_eq_some : exponent? s = some e ↔ IsExponent s e := by
  constructor
  · intro h
    cases s with
    | nil =>
      obtain rfl := Option.some.inj h
      exact .none
    | cons c s =>
      rw [exponent?] at h
      split at h
      next hc =>
        have letter : c = 'e' ∨ c = 'E' := by simpa using hc
        dsimp only at h
        split at h
        next hn =>
          obtain rfl := Option.some.inj h
          rcases splitSign_cases s with ⟨hs, hneg⟩ | ⟨hs, hneg⟩ | ⟨hs, hneg⟩
          · rw [hneg, if_pos rfl]
            conv => arg 1; rw [hs]
            exact .minus c _ letter hn
          · rw [hneg, if_neg Bool.false_ne_true]
            conv => arg 1; rw [hs]
            exact .plus c _ letter hn
          · rw [hneg, if_neg Bool.false_ne_true]
            conv => arg 1; rw [hs]
            exact .plain c _ letter hn
        next => cases h
      next => cases h
  · intro h
    cases h with
    | none => rfl
    | plain c ds letter numeral => simp [exponent?, letter, splitSign_numeral numeral, numeral]
    | plus c ds letter numeral => simp [exponent?, letter, splitSign, numeral]
    | minus c ds letter numeral => simp [exponent?, letter, splitSign, numeral]

/-- A text is read as a decimal if and only if it is one. -/
theorem scientific?_eq_some : scientific? s = some d ↔ IsDecimal s d := by
  constructor
  · intro h
    obtain ⟨ds, r, hspan⟩ : ∃ ds r, spanDigits s = (ds, r) := ⟨_, _, rfl⟩
    obtain ⟨rfl, hds⟩ := spanDigits_eq hspan
    unfold scientific? at h
    rw [hspan] at h
    dsimp only at h
    split at h
    next r =>
      obtain ⟨ps, rest, hspan'⟩ : ∃ ps rest, spanDigits r = (ps, rest) := ⟨_, _, rfl⟩
      obtain ⟨rfl, hps⟩ := spanDigits_eq hspan'
      rw [hspan'] at h
      dsimp only at h
      split at h
      next => cases h
      next hne =>
        obtain ⟨e, he, rfl⟩ := Option.map_eq_some_iff.mp h
        refine .point ds ps rest e (isNumeral_iff.mpr ⟨?_, ?_⟩) (exponent?_eq_some.mp he)
        · simpa using hne
        · exact fun c hc => (List.mem_append.mp hc).elim (hds c) (hps c)
    next =>
      dsimp only at h
      split at h
      next => cases h
      next hne =>
        obtain ⟨e, he, rfl⟩ := Option.map_eq_some_iff.mp h
        rw [List.append_nil, List.length_nil, Int.natCast_zero, Int.sub_zero]
        exact .whole ds r e (isNumeral_iff.mpr ⟨by simpa using hne, hds⟩) (exponent?_eq_some.mp he)
  · intro h
    unfold scientific?
    cases h with
    | whole ds r e numeral exponent =>
      rw [spanDigits_append (isNumeral_iff.mp numeral).2 exponent.head_notDigit]
      dsimp only
      split
      next r => rcases exponent.head '.' rfl with h | h <;> cases h
      next => simp [(isNumeral_iff.mp numeral).1, exponent?_eq_some.mpr exponent]
    | point ds ps r e numeral exponent =>
      obtain ⟨hne, hdigits⟩ := isNumeral_iff.mp numeral
      have hds : ∀ c ∈ ds, c.isDigit = true := fun c hc => hdigits c (List.mem_append_left ps hc)
      have hps : ∀ c ∈ ps, c.isDigit = true := fun c hc => hdigits c (List.mem_append_right ds hc)
      rw [spanDigits_append hds (by simp)]
      simp only [spanDigits_append hps exponent.head_notDigit]
      rw [if_neg (by simpa using hne), exponent?_eq_some.mpr exponent]
      rfl

/-! ### Range -/

/-- The midpoint between the greatest double and the power of two above it. -/
def overflowBound : Nat := 2 ^ 1024 - 2 ^ 970

/-- A decimal is nearer to a finite double than to that power of two. -/
def Scientific.IsInRange (d : Scientific) : Prop :=
  d.mantissa * 10 ^ d.exponent.toNat < overflowBound * 10 ^ (-d.exponent).toNat

namespace Double

variable {n num den : Nat} {negative : Bool}

lemma isFinite_ofMagnitude (h : n ≤ infinityBits) :
    (ofMagnitude negative n).isFinite = true ↔ n < infinityBits := by
  rw [isFinite, magnitude_ofMagnitude h, decide_eq_true_iff]

lemma unitsPerOne_pos : 0 < unitsPerOne := by decide +kernel

lemma two_mul_overflowBound : 4 * normalBound * 2 ^ maxScale =
    2 * (overflowBound * unitsPerOne) + 2 ^ maxScale := by decide +kernel

lemma isFinite_ofQuotient (hd : 0 < den) :
    (ofQuotient negative num den).isFinite = true ↔ num < overflowBound * den := by
  have hle : magnitudeOf (num * unitsPerOne) den ≤ infinityBits := Nat.min_le_left _ _
  have hmidpoint : 4 * (normalBound * (den * 2 ^ maxScale)) =
      2 * (overflowBound * den * unitsPerOne) + den * 2 ^ maxScale := calc
    4 * (normalBound * (den * 2 ^ maxScale)) = den * (4 * normalBound * 2 ^ maxScale) := by ring
    _ = den * (2 * (overflowBound * unitsPerOne) + 2 ^ maxScale) := by rw [two_mul_overflowBound]
    _ = 2 * (overflowBound * den * unitsPerOne) + den * 2 ^ maxScale := by ring
  rw [ofQuotient, isFinite_ofMagnitude hle, magnitudeOf_lt_infinityBits hd,
    hmidpoint, Nat.add_lt_add_iff_right, Nat.mul_lt_mul_left Nat.two_pos,
    Nat.mul_lt_mul_right unitsPerOne_pos]

end Double

lemma not_isInRange_of_top (h0 : d.mantissa ≠ 0)
    (htop : 310 ≤ ((digits d.mantissa).length : Int) + d.exponent) : ¬ d.IsInRange := by
  have hbound : overflowBound ≤ 10 ^ 309 := by decide +kernel
  have hpos := length_digits_pos d.mantissa
  rw [Scientific.IsInRange, Nat.not_lt]
  calc overflowBound * 10 ^ (-d.exponent).toNat
      ≤ 10 ^ 309 * 10 ^ (-d.exponent).toNat := Nat.mul_le_mul_right _ hbound
    _ = 10 ^ (309 + (-d.exponent).toNat) := (pow_add ..).symm
    _ ≤ 10 ^ ((digits d.mantissa).length - 1 + d.exponent.toNat) :=
      Nat.pow_le_pow_right (by decide) (by omega)
    _ = 10 ^ ((digits d.mantissa).length - 1) * 10 ^ d.exponent.toNat := pow_add ..
    _ ≤ d.mantissa * 10 ^ d.exponent.toNat := Nat.mul_le_mul_right _ (pow_length_digits_le h0)

lemma isInRange_of_top (htop : ((digits d.mantissa).length : Int) + d.exponent ≤ 0) :
    d.IsInRange := by
  have hbound : 0 < overflowBound := by decide +kernel
  calc d.mantissa * 10 ^ d.exponent.toNat
      < 10 ^ (digits d.mantissa).length * 10 ^ d.exponent.toNat :=
        Nat.mul_lt_mul_of_pos_right (lt_pow_length_digits _) (Nat.pow_pos (by decide))
    _ = 10 ^ ((digits d.mantissa).length + d.exponent.toNat) := (pow_add ..).symm
    _ ≤ 10 ^ (-d.exponent).toNat := Nat.pow_le_pow_right (by decide) (by omega)
    _ ≤ overflowBound * 10 ^ (-d.exponent).toNat := Nat.le_mul_of_pos_left _ hbound

/-- A decimal is read as a finite double if and only if it is in range. -/
theorem isFinite_toDouble {negative : Bool} :
    (d.toDouble negative).isFinite = true ↔ d.IsInRange := by
  have hzero : (Double.ofMagnitude negative 0).isFinite = true := by cases negative <;> decide
  unfold Scientific.toDouble
  dsimp only
  split
  next h0 =>
    refine iff_of_true hzero ?_
    rw [Scientific.IsInRange, h0, Nat.zero_mul]
    exact Nat.mul_pos (by decide +kernel) (Nat.pow_pos (by decide))
  next h0 =>
    split
    next htop =>
      refine iff_of_false ?_ (not_isInRange_of_top h0 htop)
      cases negative <;> decide
    next =>
      split
      next htop => exact iff_of_true hzero (isInRange_of_top (by omega))
      next =>
        split
        next hexp =>
          have hneg : (-d.exponent).toNat = 0 := by omega
          rw [Double.isFinite_ofQuotient Nat.one_pos, Scientific.IsInRange, hneg, Nat.pow_zero,
            Nat.pow_eq]
        next hexp =>
          have hpos : d.exponent.toNat = 0 := by omega
          rw [Nat.pow_eq, Double.isFinite_ofQuotient (Nat.pow_pos (by decide)),
            Scientific.IsInRange, hpos, Nat.pow_zero, Nat.mul_one]

/-! ### Literals -/

/-- A literal of a finite double: a sign if there is one, and a decimal in range. -/
inductive IsFloat : List Char → Prop where
  | plain (r : List Char) (d : Scientific) (decimal : IsDecimal r d) (inRange : d.IsInRange) :
      IsFloat r
  | signed (sign : Char) (r : List Char) (d : Scientific) (isSign : sign = '+' ∨ sign = '-')
      (decimal : IsDecimal r d) (inRange : d.IsInRange) : IsFloat (sign :: r)

lemma IsDecimal.head (h : IsDecimal s d) : ∃ c t, s = c :: t ∧ (c.isDigit = true ∨ c = '.') := by
  cases h with
  | whole ds r e numeral =>
    obtain ⟨hne, hdigits⟩ := isNumeral_iff.mp numeral
    obtain ⟨c, ds, rfl⟩ := List.exists_cons_of_ne_nil hne
    exact ⟨c, ds ++ r, rfl, .inl (hdigits c List.mem_cons_self)⟩
  | point ds ps r e numeral =>
    cases ds with
    | nil => exact ⟨'.', ps ++ r, rfl, .inr rfl⟩
    | cons c ds =>
      exact ⟨c, _, rfl, .inl ((isNumeral_iff.mp numeral).2 c List.mem_cons_self)⟩

lemma toLower_of_isDigit (h : c.isDigit = true) : c.toLower = c := by
  simp only [Char.isDigit, Bool.and_eq_true, decide_eq_true_eq, UInt32.le_iff_toNat_le] at h
  have hbounds : ('A'.val).toNat = 65 ∧ ('9'.val).toNat = 57 := ⟨rfl, rfl⟩
  refine dif_neg fun hupper => ?_
  have := UInt32.le_iff_toNat_le.mp hupper.1
  omega

lemma IsDecimal.notName (h : IsDecimal s d) :
    infinityNames.contains (s.map Char.toLower) = false ∧ s.map Char.toLower ≠ "nan".toList := by
  obtain ⟨c, t, rfl, hc⟩ := h.head
  have hlower : c.toLower = c := by
    rcases hc with hc | rfl
    · exact toLower_of_isDigit hc
    · decide
  have hne : c ≠ 'i' ∧ c ≠ 'n' := by
    refine ⟨?_, ?_⟩
    all_goals
      rintro rfl
      rcases hc with hc | hc <;> cases hc
  simp [infinityNames, hlower, hne.1, hne.2]

lemma double?_of_isDecimal {negative : Bool} (hs : splitSign s = (negative, r))
    (h : IsDecimal r d) : double? s = some (d.toDouble negative) := by
  obtain ⟨hinfinity, hnan⟩ := h.notName
  unfold double?
  rw [hs]
  dsimp only
  rw [hinfinity, if_neg Bool.false_ne_true, if_neg hnan, scientific?_eq_some.mpr h, Option.map_some]

/-- A literal is read as a finite double if and only if it is one of a finite double. -/
theorem isFloat_iff : IsFloat s ↔ ∃ x, double? s = some x ∧ x.isFinite = true := by
  constructor
  · rintro (⟨r, d, decimal, inRange⟩ | ⟨sign, r, d, rfl | rfl, decimal, inRange⟩)
    · have hs : splitSign s = (false, s) := by
        obtain ⟨c, t, rfl, hc⟩ := decimal.head
        refine splitSign_of_head fun x hx => ?_
        obtain rfl := Option.some.inj hx
        exact hc
      exact ⟨_, double?_of_isDecimal hs decimal, isFinite_toDouble.mpr inRange⟩
    · exact ⟨_, double?_of_isDecimal rfl decimal, isFinite_toDouble.mpr inRange⟩
    · exact ⟨_, double?_of_isDecimal rfl decimal, isFinite_toDouble.mpr inRange⟩
  · rintro ⟨x, hx, hfinite⟩
    have hinfinity (negative : Bool) : (Double.infinity negative).isFinite = false := by
      cases negative <;> decide
    have hnan (negative : Bool) : (Double.nan negative).isFinite = false := by
      cases negative <;> decide
    unfold double? at hx
    dsimp only at hx
    split at hx
    next =>
      obtain rfl := Option.some.inj hx
      simp [hinfinity] at hfinite
    next =>
      split at hx
      next =>
        obtain rfl := Option.some.inj hx
        simp [hnan] at hfinite
      next =>
        obtain ⟨d, hd, rfl⟩ := Option.map_eq_some_iff.mp hx
        have decimal := scientific?_eq_some.mp hd
        have inRange := isFinite_toDouble.mp hfinite
        rcases splitSign_cases s with ⟨hs, -⟩ | ⟨hs, -⟩ | ⟨hs, -⟩
        · rw [hs]
          exact .signed '-' _ d (.inr rfl) decimal inRange
        · rw [hs]
          exact .signed '+' _ d (.inl rfl) decimal inRange
        · rw [hs]
          exact .plain _ d decimal inRange

end MetricAgent.Decimal
