import Mathlib.Tactic.Common
import MetricAgent.Proofs.Decimal.Digits
import MetricAgent.Proofs.Text.Fields
import MetricAgent.Text.Quoted

/-!
Quoted texts read back: no two texts have the same quoted form.
-/

namespace MetricAgent.Text

variable {c : Char} {s t : List Char}

/-! ### Hexadecimal digits -/

/-- The value of a hexadecimal digit in lower case. -/
def digitValue (c : Char) : Nat := if c.isDigit then c.toNat - 48 else c.toNat - 87

def ofHexDigits (s : List Char) : Nat := s.foldl (fun n c => 16 * n + digitValue c) 0

lemma digitChar_spec : ∀ d < 16, digitValue (Nat.digitChar d) = d ∧ Nat.digitChar d ≠ '\x7d' := by
  decide

lemma ofHexDigits_hexDigits (n : Nat) : ofHexDigits (hexDigits n) = n := by
  unfold hexDigits
  induction n using Nat.strongRecOn with
  | ind n ih =>
    by_cases hn : n < 16
    · rw [Nat.toDigits_of_lt_base hn]
      simp [ofHexDigits, (digitChar_spec n hn).1]
    · have hlast := (digitChar_spec (n % 16) (Nat.mod_lt n (by omega))).1
      have hfront := ih (n / 16) (by omega)
      rw [Nat.toDigits_of_base_le (by omega) (by omega)]
      unfold ofHexDigits at hfront ⊢
      rw [List.foldl_append, hfront, List.foldl_cons, List.foldl_nil, hlast]
      omega

lemma ne_of_mem_hexDigits {n : Nat} (h : c ∈ hexDigits n) : c ≠ '\x7d' := by
  obtain ⟨d, hd, rfl⟩ := Decimal.exists_digit_of_mem_toDigits h
  exact (digitChar_spec d hd).2

/-! ### Quoted characters -/

/-- The first character of a text between quotation marks, and what follows it. -/
def unquoteChar? : List Char → Option (Char × List Char)
  | '\\' :: 'u' :: '\x7b' :: s =>
    some (Char.ofNat (ofHexDigits (s.takeWhile (· ≠ '\x7d'))), (s.dropWhile (· ≠ '\x7d')).drop 1)
  | '\\' :: 'n' :: s => some ('\n', s)
  | '\\' :: 'r' :: s => some ('\r', s)
  | '\\' :: 't' :: s => some ('\t', s)
  | '\\' :: '0' :: s => some ('\x00', s)
  | '\\' :: c :: s => some (c, s)
  | c :: s => some (c, s)
  | [] => none

lemma unquoteChar?_quoteChar (c : Char) (s : List Char) :
    unquoteChar? (quoteChar c ++ s) = some (c, s) := by
  unfold quoteChar
  split
  case h_7 hquote hslash hn hr ht hzero =>
    split
    next =>
      rw [List.singleton_append]
      unfold unquoteChar?
      -- only the last form of a text starts with something else than a backslash
      split
      case h_7 heq =>
        obtain ⟨rfl, rfl⟩ := List.cons.inj heq
        rfl
      all_goals simp_all
    next =>
      have hdigits : '\x7d' ∉ hexDigits c.toNat := fun h => ne_of_mem_hexDigits h rfl
      have hclose : ∀ d ∈ ('\x7d' :: s).head?, d = '\x7d' := by
        rintro d ⟨⟩
        rfl
      have htext : ['\\', 'u', '\x7b'] ++ hexDigits c.toNat ++ ['\x7d'] ++ s =
          '\\' :: 'u' :: '\x7b' :: (hexDigits c.toNat ++ '\x7d' :: s) := by simp
      rw [htext, unquoteChar?, takeWhile_ne_append hdigits hclose,
        dropWhile_ne_append hdigits hclose, ofHexDigits_hexDigits, Char.ofNat_toNat]
      rfl
  all_goals rfl

lemma flatMap_quoteChar_inj (h : s.flatMap quoteChar = t.flatMap quoteChar) : s = t := by
  induction s generalizing t with
  | nil =>
    cases t with
    | nil => rfl
    | cons d t =>
      have hd := unquoteChar?_quoteChar d (t.flatMap quoteChar)
      rw [← List.flatMap_cons, ← h] at hd
      cases hd
  | cons c s ih =>
    have hc := unquoteChar?_quoteChar c (s.flatMap quoteChar)
    rw [← List.flatMap_cons, h] at hc
    cases t with
    | nil => cases hc
    | cons d t =>
      rw [List.flatMap_cons, unquoteChar?_quoteChar] at hc
      obtain ⟨rfl, hrest⟩ := Prod.mk.inj (Option.some.inj hc)
      rw [ih hrest.symm]

lemma quote_inj {s t : String} : quote s = quote t ↔ s = t := by
  refine ⟨fun h => ?_, congrArg quote⟩
  unfold quote at h
  have hchars := List.cons.inj (String.ofList_injective h)
  exact String.toList_inj.mp (flatMap_quoteChar_inj (List.append_cancel_right hchars.2))

end MetricAgent.Text
