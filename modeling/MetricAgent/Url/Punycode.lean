/-!
Punycode, the ASCII form of the labels of international domain names: the ASCII characters of a
label, and then where the others go, as digits of base 36 with thresholds that adapt.
-/

namespace MetricAgent.Url.Punycode

/-- Digits are the letters and then `0` to `9`. -/
def digit (d : Nat) : Char := if d < 26 then Char.ofNat (97 + d) else Char.ofNat (22 + d)

def value? (c : Char) : Option Nat :=
  if c.isLower then some (c.toNat - 97)
  else if c.isUpper then some (c.toNat - 65)
  else if c.isDigit then some (c.toNat - 22)
  else none

/-- The threshold of the digit at a place, which counts in steps of 36. -/
def threshold (place bias : Nat) : Nat := min 26 (max 1 (place - bias))

theorem threshold_pos (k bias : Nat) : 1 ≤ threshold k bias := by unfold threshold; omega

/-- How often a distance is cut to a 35th until it is small, and what is left. -/
def shrink (delta : Nat) : Nat × Nat :=
  if 455 < delta then
    let (k, d) := shrink (delta / 35)
    (k + 36, d)
  else (0, delta)
termination_by delta

/-- The bias after a distance, when there are `count` characters. -/
def adapt (delta count : Nat) (isFirst : Bool) : Nat :=
  let d := if isFirst then delta / 700 else delta / 2
  let (k, d) := shrink (d + d / count)
  k + 36 * d / (d + 38)

/-- The digits of a distance. -/
def encodeDistance (bias place n : Nat) : List Char :=
  let t := threshold place bias
  if n < t then [digit n]
  else digit (t + (n - t) % (36 - t)) :: encodeDistance bias (place + 36) ((n - t) / (36 - t))
termination_by n
decreasing_by
  have h₁ := threshold_pos place bias
  have := Nat.div_le_self (n - threshold place bias) (36 - threshold place bias)
  omega

/-- An encoder under way: digits so far, the distance to the next one, bias, and characters done. -/
structure Encoder where
  digits : List Char
  distance : Nat
  bias : Nat
  done : Nat

/-- Passes over one character of the label, which is written if it is the one to place. -/
def Encoder.pass (basics code : Nat) (e : Encoder) (c : Char) : Encoder :=
  if c.toNat < code then { e with distance := e.distance + 1 }
  else if c.toNat = code then
    ⟨e.digits ++ encodeDistance e.bias 36 e.distance, 0,
      adapt e.distance (e.done + 1) (e.done = basics), e.done + 1⟩
  else e

/-- Places all characters of some code points in rising order. -/
def Encoder.place (label : List Char) (basics : Nat) (e : Encoder) (last : Nat) :
    List Nat → Encoder
  | [] => e
  | code :: codes =>
    let e := { e with distance := e.distance + (code - last) * (e.done + 1) }
    let e := label.foldl (pass basics code) e
    place label basics { e with distance := e.distance + 1 } (code + 1) codes

/-- The code points beyond ASCII, in rising order and each once. -/
def foreignCodes (label : List Char) : List Nat :=
  (((label.map Char.toNat).filter (128 ≤ ·)).mergeSort).eraseDups

def encode (label : List Char) : List Char :=
  let basic := label.filter (·.toNat < 128)
  let n := basic.length
  basic ++ (if basic.isEmpty then [] else ['-']) ++
    (Encoder.place label n ⟨[], 0, 72, n⟩ 128 (foreignCodes label)).digits

/-- Reads the digits of a distance, and gives the text after them. -/
def decodeDistance (bias : Nat) (place weight sum : Nat) : List Char → Option (Nat × List Char)
  | [] => none
  | c :: s =>
    (value? c).bind fun d =>
      let t := threshold place bias
      if d < t then some (sum + d * weight, s)
      else decodeDistance bias (place + 36) (weight * (36 - t)) (sum + d * weight) s

theorem length_decodeDistance {bias place weight sum n : Nat} {s rest : List Char}
    (h : decodeDistance bias place weight sum s = some (n, rest)) : rest.length < s.length := by
  induction s generalizing place weight sum with
  | nil => simp [decodeDistance] at h
  | cons c s ih =>
    obtain ⟨d, -, h⟩ := Option.bind_eq_some_iff.1 h
    simp only at h
    split at h
    · simp only [Option.some.injEq, Prod.mk.injEq] at h
      simp [h.2]
    · have := ih h
      simp only [List.length_cons]
      omega

/-- Puts the characters in their places, one distance after the other. -/
def decodeFrom (bias code position : Nat) (label : List Char) (s : List Char) :
    Option (List Char) :=
  if s.isEmpty then some label
  else
    match h : decodeDistance bias 36 1 position s with
    | none => none
    | some (sum, rest) =>
      let count := label.length + 1
      let code' := code + sum / count
      let position' := sum % count
      have : rest.length < s.length := length_decodeDistance h
      if code'.isValidChar then
        decodeFrom (adapt (sum - position) count (position = 0)) code'
          (position' + 1) (label.insertIdx position' (Char.ofNat code')) rest
      else none
termination_by s.length

/-- Decodes a label: what is before the last hyphen is ASCII. -/
def decode (s : List Char) : Option (List Char) :=
  let digits := (s.reverse.takeWhile (· ≠ '-')).reverse
  let basic := s.take (s.length - digits.length - 1)
  if basic.all (·.toNat < 128) then decodeFrom 72 128 0 basic digits else none

end MetricAgent.Url.Punycode
