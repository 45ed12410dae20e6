/-!
Cutting a text: into words at runs of blanks, and into parts at every occurrence of a separator.
Joining the parts with the separator gives the text back.
-/

namespace MetricAgent.Text

/-- A character with the Unicode property White_Space. -/
def isBlank (c : Char) : Bool :=
  let n := c.toNat
  (9 ≤ n && n ≤ 13) || n == 0x20 || n == 0x85 || n == 0xA0 || n == 0x1680 ||
    (0x2000 ≤ n && n ≤ 0x200A) || n == 0x2028 || n == 0x2029 || n == 0x202F || n == 0x205F ||
    n == 0x3000

/-- Puts a word in front of others, unless it has no characters. -/
def close (w : List Char) (ws : List (List Char)) : List (List Char) :=
  if w.isEmpty then ws else w :: ws

/-- The word that a text starts with, which may be empty, and the words after it. -/
def scanWords (s : List Char) : List Char × List (List Char) :=
  s.foldr (fun c (w, ws) => if isBlank c then ([], close w ws) else (c :: w, ws)) ([], [])

/-- The maximal runs of characters that are not blank. -/
def words (s : List Char) : List (List Char) :=
  close (scanWords s).1 (scanWords s).2

/-- Puts a character in front of the first of some parts. -/
def extend (c : Char) : List (List Char) → List (List Char)
  | [] => [[c]]
  | p :: ps => (c :: p) :: ps

/-- The parts between separators; a text without one is its own only part. -/
def splitOn (sep : Char) (s : List Char) : List (List Char) :=
  s.foldr (fun c ps => if c = sep then [] :: ps else extend c ps) [[]]

/-- The parts with a separator between each two. -/
def join (sep : Char) : List (List Char) → List Char
  | [] => []
  | [p] => p
  | p :: q :: ps => p ++ sep :: join sep (q :: ps)

/-- A text less its blanks at either end. -/
def trim (s : List Char) : List Char :=
  ((s.dropWhile isBlank).reverse.dropWhile isBlank).reverse

@[simp] theorem splitOn_nil (sep : Char) : splitOn sep [] = [[]] := rfl

theorem splitOn_cons (sep c : Char) (s : List Char) :
    splitOn sep (c :: s) =
      if c = sep then [] :: splitOn sep s else extend c (splitOn sep s) := rfl

theorem splitOn_ne_nil (sep : Char) (s : List Char) : splitOn sep s ≠ [] := by
  cases s with
  | nil => simp
  | cons c s =>
    rw [splitOn_cons]
    split
    · simp
    · cases splitOn sep s <;> simp [extend]

theorem join_extend (sep c : Char) {ps : List (List Char)} (h : ps ≠ []) :
    join sep (extend c ps) = c :: join sep ps := by
  cases ps with
  | nil => exact absurd rfl h
  | cons p ps => cases ps <;> simp [extend, join]

theorem join_cons (sep : Char) (p : List Char) {ps : List (List Char)} (h : ps ≠ []) :
    join sep (p :: ps) = p ++ sep :: join sep ps := by
  cases ps with
  | nil => exact absurd rfl h
  | cons q ps => rfl

/-- Nothing is lost by cutting at a separator. -/
theorem join_splitOn (sep : Char) (s : List Char) : join sep (splitOn sep s) = s := by
  induction s with
  | nil => rfl
  | cons c s ih =>
    rw [splitOn_cons]
    split
    · next h => rw [join_cons sep [] (splitOn_ne_nil sep s), ih, h, List.nil_append]
    · rw [join_extend sep c (splitOn_ne_nil sep s), ih]

end MetricAgent.Text
