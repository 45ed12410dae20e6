/-!
References to variables in a text: `${NAME}`, or `${NAME:-DEFAULT}` with a default that holds no
closing brace. A text is cut into pieces once, from left to right, and what a reference stands for
is not looked at again.
-/

namespace MetricAgent.Config

abbrev Environment := String → Option String

/-- A reference to a variable, with the default if one is given. -/
structure Reference where
  name : List Char
  fallback : Option (List Char)
  deriving DecidableEq, Repr

/-- A text is made of characters and references. -/
inductive Piece where
  | plain (c : Char)
  | reference (r : Reference)
  deriving DecidableEq, Repr

def isNameStart (c : Char) : Bool := c.isAlpha || c = '_'

def isNameRest (c : Char) : Bool := c.isAlphanum || c = '_'

/-- What follows the name of a reference, and the text after its brace. -/
def fallback? : List Char → Option (Option (List Char) × List Char)
  | '\x7d' :: rest => some (none, rest)
  | ':' :: '-' :: s =>
    match s.dropWhile (· ≠ '\x7d') with
    | [] => none
    | _ :: rest => some (some (s.takeWhile (· ≠ '\x7d')), rest)
  | _ => none

/-- A reference behind its dollar sign, and the text after it. -/
def reference? : List Char → Option (Reference × List Char)
  | '\x7b' :: c :: s =>
    if isNameStart c then
      (fallback? (s.dropWhile isNameRest)).map fun (fallback, rest) =>
        (⟨c :: s.takeWhile isNameRest, fallback⟩, rest)
    else none
  | _ => none

theorem length_dropWhile_le {α : Type} (p : α → Bool) (s : List α) :
    (s.dropWhile p).length ≤ s.length :=
  (List.dropWhile_suffix p).length_le

theorem length_fallback? {s rest : List Char} {f : Option (List Char)}
    (h : fallback? s = some (f, rest)) : rest.length < s.length := by
  unfold fallback? at h
  split at h
  · simp only [Option.some.injEq, Prod.mk.injEq] at h
    simp [← h.2]
  · next s =>
    split at h
    · simp at h
    · next d t hd =>
      have := length_dropWhile_le (fun c => decide (c ≠ '\x7d')) s
      rw [hd] at this
      simp only [Option.some.injEq, Prod.mk.injEq] at h
      simp only [List.length_cons, ← h.2] at this ⊢
      omega
  · simp at h

theorem length_reference? {s rest : List Char} {r : Reference}
    (h : reference? s = some (r, rest)) : rest.length < s.length := by
  unfold reference? at h
  split at h
  · next c s =>
    split at h
    · obtain ⟨⟨f, t⟩, hf, he⟩ := Option.map_eq_some_iff.1 h
      have h₁ := length_fallback? hf
      have h₂ := length_dropWhile_le isNameRest s
      simp only [Prod.mk.injEq] at he
      simp only [← he.2, List.length_cons]
      omega
    · simp at h
  · simp at h

/-- Cuts a text at its references. -/
def pieces : List Char → List Piece
  | [] => []
  | c :: s =>
    if c = '$' then
      match h : reference? s with
      | some (r, rest) =>
        have : rest.length < s.length := length_reference? h
        .reference r :: pieces rest
      | none => .plain c :: pieces s
    else .plain c :: pieces s
termination_by s => s.length
decreasing_by all_goals (simp only [List.length_cons]; omega)

/-- The names of the variables that a text refers to. -/
def referredNames (s : List Char) : List String :=
  (pieces s).filterMap fun
    | .plain _ => none
    | .reference r => some (String.ofList r.name)

/-- What a piece stands for: a variable that is set gives its value, even an empty one. -/
def Piece.value (env : Environment) : Piece → List Char
  | plain c => [c]
  | reference r =>
    match env (String.ofList r.name) with
    | some v => v.toList
    | none => r.fallback.getD []

/-- Puts in the values of all references. -/
def expand (env : Environment) (s : List Char) : List Char :=
  (pieces s).flatMap (·.value env)

end MetricAgent.Config
