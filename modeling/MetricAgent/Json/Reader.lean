import MetricAgent.Json.Text

/-!
Reading JSON: a text holds one value, with blanks around every part of it. What is written by
`Value.text` is read back, and so is every other way to write the same value.
-/

namespace MetricAgent.Json

open Decimal

/-- A blank between the parts of a text. -/
def isSpace (c : Char) : Bool := c = ' ' || c = '\t' || c = '\n' || c = '\r'

/-- A text less the blanks in front. -/
def skip (s : List Char) : List Char := s.dropWhile isSpace

/-! ### Strings -/

/-- The character that a letter behind a backslash stands for. -/
def escaped? : Char → Option Char
  | '"' => some '"'
  | '\\' => some '\\'
  | '/' => some '/'
  | 'b' => some '\x08'
  | 'f' => some '\x0c'
  | 'n' => some '\n'
  | 'r' => some '\r'
  | 't' => some '\t'
  | _ => none

def hexDigit? (c : Char) : Option Nat :=
  if c.isDigit then some (c.toNat - 48)
  else if 'a' ≤ c && c ≤ 'f' then some (c.toNat - 87)
  else if 'A' ≤ c && c ≤ 'F' then some (c.toNat - 55)
  else none

/-- The number that some hexadecimal digits denote. -/
def hexNumber? (s : List Char) : Option Nat :=
  s.foldlM (fun n c => (hexDigit? c).map (16 * n + ·)) 0

/-- The first half of a character beyond the first 65536. -/
def isHighHalf (n : Nat) : Bool := 0xD800 ≤ n && n < 0xDC00

def isLowHalf (n : Nat) : Bool := 0xDC00 ≤ n && n < 0xE000

/-- The character of two halves. -/
def joinHalves (high low : Nat) : Char :=
  Char.ofNat (0x10000 + (high - 0xD800) * 0x400 + (low - 0xDC00))

/-- Reads four hexadecimal digits, and gives the text after them. -/
def codeUnit? : List Char → Option (Nat × List Char)
  | a :: b :: c :: d :: s => (hexNumber? [a, b, c, d]).map (·, s)
  | _ => none

/-- Reads the second half of a character, and gives the text after it. -/
def lowHalf? : List Char → Option (Nat × List Char)
  | '\\' :: 'u' :: s => (codeUnit? s).filter fun (n, _) => isLowHalf n
  | _ => none

/-- Reads what is behind a backslash, and gives the text after it. -/
def escape? : List Char → Option (Char × List Char)
  | [] => none
  | c :: s =>
    if c = 'u' then
      match codeUnit? s with
      | none => none
      | some (n, s) =>
        if isHighHalf n then (lowHalf? s).map fun (m, s) => (joinHalves n m, s)
        else if isLowHalf n then none
        else some (Char.ofNat n, s)
    else (escaped? c).map (·, s)

theorem length_codeUnit? {s rest : List Char} {n : Nat} (h : codeUnit? s = some (n, rest)) :
    rest.length < s.length := by
  unfold codeUnit? at h
  split at h
  · obtain ⟨m, -, h⟩ := Option.map_eq_some_iff.1 h
    simp only [Prod.mk.injEq] at h
    simp only [← h.2, List.length_cons]
    omega
  · simp at h

theorem length_lowHalf? {s rest : List Char} {n : Nat} (h : lowHalf? s = some (n, rest)) :
    rest.length < s.length := by
  unfold lowHalf? at h
  split at h
  · have := length_codeUnit? (Option.filter_eq_some_iff.1 h).1
    simp only [List.length_cons]
    omega
  · simp at h

theorem length_escape? {s rest : List Char} {c : Char} (h : escape? s = some (c, rest)) :
    rest.length < s.length := by
  unfold escape? at h
  split at h
  · simp at h
  · next c' s' =>
    simp only [List.length_cons]
    split at h
    · split at h
      · simp at h
      · next n t hu =>
        have hu := length_codeUnit? hu
        split at h
        · obtain ⟨⟨m, r⟩, hm, h⟩ := Option.map_eq_some_iff.1 h
          have hm := length_lowHalf? hm
          simp only [Prod.mk.injEq] at h
          rw [← h.2]
          omega
        · split at h
          · simp at h
          · simp only [Option.some.injEq, Prod.mk.injEq] at h
            rw [← h.2]
            omega
    · obtain ⟨m, -, h⟩ := Option.map_eq_some_iff.1 h
      simp only [Prod.mk.injEq] at h
      rw [← h.2]
      omega

/-- Reads a string up to its closing quote, and gives the text after it. -/
def stringRest? : List Char → Option (List Char × List Char)
  | [] => none
  | c :: s =>
    if c = '"' then some ([], s)
    else if c = '\\' then
      match h : escape? s with
      | none => none
      | some (e, rest) =>
        have : rest.length < s.length := length_escape? h
        (stringRest? rest).map fun (t, s) => (e :: t, s)
    else if c.toNat < 0x20 then none
    else (stringRest? s).map fun (t, s) => (c :: t, s)
termination_by s => s.length

/-! ### Numbers -/

/-- A character that can belong to a number. -/
def isNumberChar (c : Char) : Bool :=
  c.isDigit || c = '-' || c = '+' || c = '.' || c = 'e' || c = 'E'

/-- Digits without a zero in front of others. -/
def isPlainNumeral (s : List Char) : Bool := isNumeral s && (s.head? ≠ some '0' || s.length = 1)

/-- Reads a number after its sign: a whole one if it has neither a point nor an exponent. -/
def unsigned? (negative : Bool) (s : List Char) : Option Value :=
  let (whole, rest) := spanDigits s
  if !isPlainNumeral whole then none
  else
    match rest with
    | [] => some (.whole (if negative then -(ofDigits whole : Int) else (ofDigits whole : Int)))
    | '.' :: r =>
      if (spanDigits r).1.isEmpty then none
      else (scientific? s).map fun d => .real (d.toDouble negative)
    | _ => (scientific? s).map fun d => .real (d.toDouble negative)

/-- Reads a number that is all of a text. -/
def number? : List Char → Option Value
  | '-' :: s => unsigned? true s
  | s => unsigned? false s

/-- Reads a word for a value. -/
def keyword? (s : List Char) : Option Value :=
  if s = "null".toList then some .null
  else if s = "true".toList then some (.bool true)
  else if s = "false".toList then some (.bool false)
  else none

/-- Reads a value that is neither a string nor put together, and gives the text after it. -/
def atom? (s : List Char) : Option (Value × List Char) :=
  let isPart (c : Char) : Bool := isNumberChar c || c.isAlpha
  let t := s.takeWhile isPart
  ((keyword? t).or (number? t)).map (·, s.dropWhile isPart)

/-! ### Values -/

mutual

/-- Reads a value that a text starts with, given a bound on how long that may take. -/
def value? : Nat → List Char → Option (Value × List Char)
  | 0, _ => none
  | _ + 1, '"' :: s => (stringRest? s).map fun (t, s) => (.string (String.ofList t), s)
  | n + 1, '[' :: s =>
    match skip s with
    | ']' :: s => some (.array [], s)
    | s => (items? n s).map fun (vs, s) => (.array vs, s)
  | n + 1, '\x7b' :: s =>
    match skip s with
    | '\x7d' :: s => some (.object [], s)
    | s => (fields? n s).map fun (fs, s) => (.object fs, s)
  | _ + 1, s => atom? s

/-- Reads the items of an array up to its end. -/
def items? : Nat → List Char → Option (List Value × List Char)
  | 0, _ => none
  | n + 1, s => do
    let (v, s) ← value? n (skip s)
    match skip s with
    | ',' :: s =>
      let (vs, s) ← items? n s
      some (v :: vs, s)
    | ']' :: s => some ([v], s)
    | _ => none

/-- Reads the fields of an object up to its end. -/
def fields? : Nat → List Char → Option (List (String × Value) × List Char)
  | 0, _ => none
  | n + 1, s =>
    match skip s with
    | '"' :: s => do
      let (k, s) ← stringRest? s
      match skip s with
      | ':' :: s =>
        let (v, s) ← value? n (skip s)
        match skip s with
        | ',' :: s =>
          let (fs, s) ← fields? n s
          some ((String.ofList k, v) :: fs, s)
        | '\x7d' :: s => some ([(String.ofList k, v)], s)
        | _ => none
      | _ => none
    | _ => none

end

/-- Reads a text that holds one value. -/
def Value.ofText? (s : List Char) : Option Value :=
  match value? (2 * s.length + 2) (skip s) with
  | some (v, rest) => if (skip rest).isEmpty then some v else none
  | none => none

end MetricAgent.Json
