/-!
Natural numbers in decimal digits, and the 64-bit words among them.
-/

namespace MetricAgent.Decimal

/-- The number that some digits denote. -/
def ofDigits (s : List Char) : Nat :=
  s.foldl (fun n c => 10 * n + (c.toNat - 48)) 0

/-- The shortest digits of a number. -/
def digits (n : Nat) : List Char := Nat.toDigits 10 n

/-- Digits padded with zeros in front to a given width. -/
def padded (width n : Nat) : List Char :=
  List.replicate (width - (digits n).length) '0' ++ digits n

/-- At least one character, and digits only. -/
def isNumeral (s : List Char) : Bool := !s.isEmpty && s.all Char.isDigit

/-- How many words of 64 bits there are. -/
def wordBound : Nat := 18446744073709551616

/-- The word that a text of digits denotes, if it is not too large. -/
def word? (s : List Char) : Option UInt64 :=
  if isNumeral s && ofDigits s < wordBound then some (UInt64.ofNat (ofDigits s)) else none

/-- A word is read from digits that denote it, whatever zeros stand in front. -/
theorem word?_eq_some {s : List Char} {n : UInt64} :
    word? s = some n ↔ isNumeral s = true ∧ n.toNat = ofDigits s := by
  have hn : n.toNat < wordBound := n.toNat_lt
  unfold word?
  constructor
  · intro h
    split at h
    next hs =>
      obtain ⟨hs, hlt⟩ := Bool.and_eq_true_iff.mp hs
      obtain rfl := Option.some.inj h
      exact ⟨hs, UInt64.toNat_ofNat_of_lt' (of_decide_eq_true hlt)⟩
    next => cases h
  · rintro ⟨hs, h⟩
    rw [← h, if_pos (by simp [hs, hn]), UInt64.ofNat_toNat]

/-- Like `word?`, with one plus sign allowed in front. -/
def signedWord? : List Char → Option UInt64
  | '+' :: s => word? s
  | s => word? s

/-- A number as text. -/
def text (n : Nat) : String := String.ofList (digits n)

end MetricAgent.Decimal
