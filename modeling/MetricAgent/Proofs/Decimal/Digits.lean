import Mathlib.Algebra.Ring.Nat
import Mathlib.Data.List.Induction
import MetricAgent.Decimal.Natural

/-!
Digits of naturals and what they denote. The digits of a number denote it, zeros in front or not,
and a text of digits denotes what its two parts denote together.
-/

namespace MetricAgent.Decimal

variable {n w : Nat} {c : Char} {s t : List Char}

/-! ### What digits denote -/

lemma ofDigits_eq_ofDigitChars (s : List Char) : ofDigits s = Nat.ofDigitChars 10 s 0 :=
  Nat.ofDigitChars_eq_foldl.symm

@[simp] lemma ofDigits_digits (n : Nat) : ofDigits (digits n) = n := by
  rw [ofDigits_eq_ofDigitChars]
  exact Nat.ofDigitChars_ten_toDigits

lemma ofDigits_append (s t : List Char) :
    ofDigits (s ++ t) = 10 ^ t.length * ofDigits s + ofDigits t := by
  simp only [ofDigits_eq_ofDigitChars]
  rw [Nat.ofDigitChars_append, Nat.ofDigitChars_eq_ofDigitChars_zero]

lemma ofDigits_replicate_zero (k : Nat) : ofDigits (List.replicate k '0') = 0 := by
  rw [ofDigits_eq_ofDigitChars, Nat.ofDigitChars_replicate_zero, Nat.mul_zero]

lemma ofDigits_zeros_append (k : Nat) (s : List Char) :
    ofDigits (List.replicate k '0' ++ s) = ofDigits s := by
  rw [ofDigits_append, ofDigits_replicate_zero, Nat.mul_zero, Nat.zero_add]

lemma ofDigits_append_zeros (k : Nat) (s : List Char) :
    ofDigits (s ++ List.replicate k '0') = ofDigits s * 10 ^ k := by
  rw [ofDigits_append, ofDigits_replicate_zero, List.length_replicate, Nat.add_zero, Nat.mul_comm]

@[simp] lemma ofDigits_padded (w n : Nat) : ofDigits (padded w n) = n := by
  rw [padded, ofDigits_zeros_append, ofDigits_digits]

lemma ofDigits_lt (h : ∀ c ∈ s, c.isDigit = true) : ofDigits s < 10 ^ s.length := by
  induction s using List.reverseRecOn with
  | nil => decide
  | append_singleton s c ih =>
    have hs := ih fun d hd => h d (List.mem_append_left _ hd)
    have hc : c.toNat ≤ 57 := by
      have hd := h c (List.mem_append_right _ (List.mem_singleton_self c))
      simp only [Char.isDigit, Bool.and_eq_true, decide_eq_true_eq, UInt32.le_iff_toNat_le] at hd
      exact hd.2
    have hlast : ofDigits [c] = c.toNat - 48 := by simp [ofDigits]
    rw [ofDigits_append, hlast, List.length_append, List.length_singleton, Nat.pow_succ]
    omega

/-! ### The characters of digits -/

lemma isDigit_of_mem_digits (h : c ∈ digits n) : c.isDigit = true :=
  Nat.isDigit_of_mem_toDigits (by decide) (by decide) h

lemma isDigit_of_mem_padded (h : c ∈ padded w n) : c.isDigit = true := by
  rcases List.mem_append.mp h with h | h
  · obtain rfl := List.eq_of_mem_replicate h
    rfl
  · exact isDigit_of_mem_digits h

lemma exists_digit_of_mem_toDigits (h : c ∈ Nat.toDigits 16 n) : ∃ d < 16, c = Nat.digitChar d := by
  induction n using Nat.strongRecOn with
  | ind n ih =>
    by_cases hn : n < 16
    · rw [Nat.toDigits_of_lt_base hn] at h
      exact ⟨n, hn, List.mem_singleton.mp h⟩
    · rw [Nat.toDigits_of_base_le (by omega) (by omega)] at h
      rcases List.mem_append.mp h with h | h
      · exact ih (n / 16) (by omega) h
      · exact ⟨n % 16, Nat.mod_lt n (by omega), List.mem_singleton.mp h⟩

lemma digits_ne_nil (n : Nat) : digits n ≠ [] := Nat.toDigits_ne_nil

lemma isNumeral_iff : isNumeral s = true ↔ s ≠ [] ∧ ∀ c ∈ s, c.isDigit = true := by
  simp [isNumeral]

lemma isNumeral_digits (n : Nat) : isNumeral (digits n) = true :=
  isNumeral_iff.mpr ⟨digits_ne_nil n, fun _ => isDigit_of_mem_digits⟩

lemma isNumeral_of_subset (hs : isNumeral s = true) (ht : t ≠ []) (h : t ⊆ s) :
    isNumeral t = true :=
  isNumeral_iff.mpr ⟨ht, fun c hc => (isNumeral_iff.mp hs).2 c (h hc)⟩

lemma length_digits_le_iff (hw : 0 < w) : (digits n).length ≤ w ↔ n < 10 ^ w :=
  Nat.length_toDigits_le_iff (by decide) hw

lemma length_digits_pos (n : Nat) : 0 < (digits n).length := Nat.length_toDigits_pos

lemma lt_pow_length_digits (n : Nat) : n < 10 ^ (digits n).length :=
  (length_digits_le_iff (length_digits_pos n)).mp le_rfl

lemma pow_length_digits_le (h : n ≠ 0) : 10 ^ ((digits n).length - 1) ≤ n := by
  rcases Nat.eq_or_lt_of_le (length_digits_pos n) with hone | hlt
  · rw [← hone]
    exact Nat.one_le_iff_ne_zero.mpr h
  · by_contra hn
    have := (length_digits_le_iff (by omega)).mpr (not_le.mp hn)
    omega

lemma head?_digits_ne_zero (h : n ≠ 0) : (digits n).head? ≠ some '0' := by
  intro hzero
  obtain ⟨t, ht⟩ := List.head?_eq_some_iff.mp hzero
  have hle := pow_length_digits_le h
  have hdigits : ∀ c ∈ t, c.isDigit = true := fun c hc =>
    isDigit_of_mem_digits (n := n) (ht ▸ List.mem_cons_of_mem _ hc)
  have hn : n = ofDigits t := calc
    n = ofDigits ('0' :: t) := by rw [← ht, ofDigits_digits]
    _ = ofDigits t := rfl
  have hlt := ofDigits_lt hdigits
  rw [← hn] at hlt
  rw [ht, List.length_cons, Nat.add_sub_cancel] at hle
  omega

lemma length_padded (hw : 0 < w) (h : n < 10 ^ w) : (padded w n).length = w := by
  have hle : (digits n).length ≤ w := (length_digits_le_iff hw).mpr h
  rw [padded, List.length_append, List.length_replicate]
  omega

lemma word?_digits (n : UInt64) : word? (digits n.toNat) = some n :=
  word?_eq_some.mpr ⟨isNumeral_digits _, (ofDigits_digits _).symm⟩

end MetricAgent.Decimal
