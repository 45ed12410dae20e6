import MetricAgent.SystemError
import MetricAgent.Text.Fields

/-!
Files by their paths, as far as it matters what is where: a file, a socket or a directory.
-/

namespace MetricAgent

open Text

abbrev Path := List String

/-- The names in the text of a path, which starts at the root or at a directory. -/
def Path.ofText (base : Path) (s : String) : Path :=
  let names := (splitOn '/' s.toList).map String.ofList |>.filter fun n => n ≠ "" && n ≠ "."
  if s.toList.head? = some '/' then names else base ++ names

/-- The text of a path that leads to a directory or nowhere. -/
def Path.isOfDirectory (s : String) : Bool :=
  (splitOn '/' s.toList).getLast?.any fun n => n.isEmpty || n = ['.']

/-- What a table says once it says nothing about a key. -/
theorem lookup_filter_ne {α β : Type} [BEq α] [LawfulBEq α] [DecidableEq α] (l : List (α × β))
    (a b : α) :
    (l.filter (·.1 ≠ a)).lookup b = if b = a then none else l.lookup b := by
  induction l with
  | nil => simp
  | cons x l ih =>
    obtain ⟨k, v⟩ := x
    by_cases hk : k = a
    · rw [List.filter_cons_of_neg (by simp [hk]), ih, List.lookup_cons]
      by_cases hb : b = a
      · simp [hb]
      · have hbk : (b == k) = false := by simpa [hk] using hb
        simp [hb, hbk]
    · rw [List.filter_cons_of_pos (by simp [hk]), List.lookup_cons, List.lookup_cons, ih]
      by_cases hb : b = k
      · simp [hb, hk]
      · have hbk : (b == k) = false := by simpa using hb
        rw [hbk]

/-- What a table says once it says something else about a key. -/
theorem lookup_cons_filter_ne {α β : Type} [BEq α] [LawfulBEq α] [DecidableEq α]
    (l : List (α × β)) (a b : α) (v : β) :
    ((a, v) :: l.filter (·.1 ≠ a)).lookup b = if b = a then some v else l.lookup b := by
  by_cases hb : b = a
  · simp [hb]
  · have hne : (b == a) = false := by simpa using hb
    rw [List.lookup_cons, hne, lookup_filter_ne, if_neg hb, if_neg hb]

inductive FileKind where
  | directory
  | regular
  | socket
  deriving DecidableEq, Repr

/-- A file. The system gives each file an identity, and may give it again when the file is gone. -/
structure File where
  kind : FileKind
  identity : Nat
  deriving DecidableEq, Repr

/-- The files at all paths. -/
structure FileTree where
  files : List (Path × File)
  deriving Repr

namespace FileTree

/-- A tree of directories. -/
def ofDirectories (paths : List Path) : FileTree :=
  ⟨paths.zipIdx.map fun (p, i) => (p, ⟨.directory, i⟩)⟩

def find? (t : FileTree) (p : Path) : Option File := t.files.lookup p

def contains (t : FileTree) (p : Path) : Bool := (t.find? p).isSome

def erase (t : FileTree) (p : Path) : FileTree := ⟨t.files.filter (·.1 ≠ p)⟩

/-- Puts a new file at a path. -/
def create (t : FileTree) (p : Path) (f : File) : FileTree := ⟨(p, f) :: (t.erase p).files⟩

theorem find?_erase (t : FileTree) (p q : Path) :
    (t.erase p).find? q = if q = p then none else t.find? q := lookup_filter_ne t.files p q

theorem find?_create (t : FileTree) (p q : Path) (f : File) :
    (t.create p f).find? q = if q = p then some f else t.find? q :=
  lookup_cons_filter_ne t.files p q f

/-- The longest name of a file, in bytes. -/
def maxName : Nat := 255

/-- Why a path leads nowhere: one of the names before the last is no directory, or is too long. -/
def obstacle? (t : FileTree) (before : Path) : Path → Option SystemCause
  | [] => none
  | name :: names =>
    match t.find? before with
    | none => some .notFound
    | some f =>
      if f.kind ≠ .directory then some .notADirectory
      else if maxName < name.utf8ByteSize then some .nameTooLong
      else t.obstacle? (before ++ [name]) names

/-- Removes a file that is no directory. -/
def remove (t : FileTree) (p : Path) : Except SystemCause FileTree :=
  match t.obstacle? [] p, t.find? p with
  | some c, _ => .error c
  | none, none => .error .notFound
  | none, some f => if f.kind = .directory then .error .isADirectory else .ok (t.erase p)

/-- Removes a file if there is one. -/
def clear (t : FileTree) (p : Path) : Except SystemCause FileTree :=
  match t.remove p with
  | .error .notFound => .ok t
  | r => r

/-- Removes what is at a path, unless it is a directory. -/
def unlink (t : FileTree) (p : Path) : FileTree :=
  if (t.find? p).any (·.kind ≠ .directory) then t.erase p else t

theorem remove_eq_ok {t t' : FileTree} {p : Path} (h : t.remove p = .ok t') : t' = t.erase p := by
  unfold remove at h
  split at h
  next => cases h
  next => cases h
  next =>
    split at h
    next => cases h
    next => exact (Except.ok.inj h).symm

theorem find?_clear {t t' : FileTree} {p : Path} (h : t.clear p = .ok t') (q : Path) :
    t'.find? q = t.find? q ∨ q = p ∧ t'.find? q = none := by
  unfold clear at h
  split at h
  next =>
    obtain rfl := Except.ok.inj h
    exact Or.inl rfl
  next =>
    obtain rfl := remove_eq_ok h
    rw [find?_erase]
    split
    next hq => exact Or.inr ⟨hq, rfl⟩
    next => exact Or.inl rfl

theorem find?_unlink (t : FileTree) (p q : Path) :
    (t.unlink p).find? q =
      if q = p ∧ (t.find? p).any (·.kind ≠ .directory) = true then none else t.find? q := by
  unfold unlink
  by_cases hf : (t.find? p).any (·.kind ≠ .directory) = true
  · rw [if_pos hf, find?_erase]
    by_cases hq : q = p
    · rw [if_pos hq, if_pos ⟨hq, hf⟩]
    · rw [if_neg hq, if_neg fun h => hq h.1]
  · rw [if_neg hf, if_neg fun h => hf h.2]

/-- Writes a regular file, a new one if there is none. -/
def write (t : FileTree) (p : Path) (identity : Nat) : Except SystemCause FileTree :=
  match t.obstacle? [] p, t.find? p with
  | some c, _ => .error c
  | none, none => .ok (t.create p ⟨.regular, identity⟩)
  | none, some ⟨.regular, _⟩ => .ok t
  | none, some ⟨.directory, _⟩ => .error .isADirectory
  | none, some ⟨.socket, _⟩ => .error .noDevice

/-- What is written is there already, or it is new. -/
theorem write_eq_ok {t t' : FileTree} {p : Path} {n : Nat} (h : t.write p n = .ok t') :
    t' = t.create p ⟨.regular, n⟩ ∨ t' = t ∧ ∃ k, t.find? p = some ⟨.regular, k⟩ := by
  unfold write at h
  split at h
  next => cases h
  next => exact Or.inl (Except.ok.inj h).symm
  next k _ hf => exact Or.inr ⟨(Except.ok.inj h).symm, k, hf⟩
  next => cases h
  next => cases h

/-- Makes a directory. -/
def makeDirectory (t : FileTree) (p : Path) (identity : Nat) : Except SystemCause FileTree :=
  match t.obstacle? [] p with
  | some c => .error c
  | none =>
    if t.contains p then .error .present else .ok (t.create p ⟨.directory, identity⟩)

theorem makeDirectory_eq_ok {t t' : FileTree} {p : Path} {n : Nat}
    (h : t.makeDirectory p n = .ok t') : t' = t.create p ⟨.directory, n⟩ := by
  unfold makeDirectory at h
  split at h
  next => cases h
  next =>
    split at h
    next => cases h
    next => exact (Except.ok.inj h).symm

/-- Puts another file in the place of whatever is there. -/
def replace (t : FileTree) (p : Path) (identity : Nat) : Except SystemCause FileTree :=
  match t.obstacle? [] p, t.find? p with
  | some c, _ => .error c
  | none, some ⟨.directory, _⟩ => .error .isADirectory
  | none, _ => .ok (t.create p ⟨.regular, identity⟩)

theorem replace_eq_ok {t t' : FileTree} {p : Path} {n : Nat} (h : t.replace p n = .ok t') :
    t' = t.create p ⟨.regular, n⟩ := by
  unfold replace at h
  split at h
  next => cases h
  next => cases h
  next => exact (Except.ok.inj h).symm

end FileTree

end MetricAgent
