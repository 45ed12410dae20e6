import Mathlib.Tactic.Lemma
import MetricAgent.Json.Reader

/-!
Strings that are written are read back, whatever stands behind them. Each character is: quotes,
backslashes and controls by their escapes, all others by themselves.
-/

namespace MetricAgent.Json

open Text

variable {c : Char} {s rest : List Char}

lemma stringRest?_quote (s : List Char) : stringRest? ('"' :: s) = some ([], s) := by
  rw [stringRest?]
  rfl

lemma stringRest?_escape (h : escape? s = some (c, rest)) :
    stringRest? ('\\' :: s) = (stringRest? rest).map fun (t, s) => (c :: t, s) := by
  rw [stringRest?, if_neg (by decide), if_pos rfl]
  split
  next hnone => rw [h] at hnone; cases hnone
  next e r hsome =>
    rw [h] at hsome
    obtain ⟨rfl, rfl⟩ := Prod.mk.inj (Option.some.inj hsome)
    rfl

lemma stringRest?_self (hquote : c ≠ '"') (hslash : c ≠ '\\') (hcontrol : ¬ c.toNat < 0x20)
    (s : List Char) :
    stringRest? (c :: s) = (stringRest? s).map fun (t, s) => (c :: t, s) := by
  rw [stringRest?, if_neg hquote, if_neg hslash, if_neg hcontrol]

/-! ### Control characters -/

lemma hexDigits_control : ∀ n < 0x20, List.replicate (4 - (hexDigits n).length) '0' ++ hexDigits n =
    ['0', '0', Nat.digitChar (n / 16), Nat.digitChar (n % 16)] := by
  decide

lemma hexNumber?_control : ∀ n < 0x20,
    hexNumber? ['0', '0', Nat.digitChar (n / 16), Nat.digitChar (n % 16)] = some n := by
  decide

lemma escape?_control (h : c.toNat < 0x20) (s : List Char) :
    ∃ t, controlEscape c ++ s = '\\' :: t ∧ escape? t = some (c, s) := by
  have hescape : controlEscape c =
      ['\\', 'u'] ++ ['0', '0', Nat.digitChar (c.toNat / 16), Nat.digitChar (c.toNat % 16)] := by
    rw [← hexDigits_control _ h, controlEscape, List.append_assoc]
  refine ⟨_, by rw [hescape]; rfl, ?_⟩
  have hhigh : isHighHalf c.toNat = false := by
    rw [isHighHalf, Bool.and_eq_false_iff, decide_eq_false_iff_not]
    omega
  have hlow : isLowHalf c.toNat = false := by
    rw [isLowHalf, Bool.and_eq_false_iff, decide_eq_false_iff_not]
    omega
  simp [escape?, codeUnit?, hexNumber?_control _ h, hhigh, hlow]

/-! ### Whole strings -/

lemma stringRest?_escapeChar (c : Char) (s : List Char) :
    stringRest? (escapeChar c ++ s) = (stringRest? s).map fun (t, s) => (c :: t, s) := by
  unfold escapeChar
  split
  case h_8 c hquote hslash _ _ _ _ _ =>
    split
    next hcontrol =>
      obtain ⟨t, ht, hescape⟩ := escape?_control hcontrol s
      rw [ht]
      exact stringRest?_escape hescape
    next hcontrol => exact stringRest?_self hquote hslash hcontrol s
  all_goals exact stringRest?_escape rfl

theorem stringRest?_stringText (s : String) (rest : List Char) :
    ∃ t, stringText s ++ rest = '"' :: t ∧ stringRest? t = some (s.toList, rest) := by
  have hchars (cs : List Char) :
      stringRest? (cs.flatMap escapeChar ++ '"' :: rest) = some (cs, rest) := by
    induction cs with
    | nil => exact stringRest?_quote rest
    | cons c cs ih => rw [List.flatMap_cons, List.append_assoc, stringRest?_escapeChar, ih]; rfl
  refine ⟨_, ?_, hchars s.toList⟩
  simp [stringText]

end MetricAgent.Json
