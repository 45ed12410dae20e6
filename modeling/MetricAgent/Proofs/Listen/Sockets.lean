import MetricAgent.Listen.SocketFile

/-!
What one step can do at a path. A bind that succeeds puts a socket there and counts it, outsiders
put files with identities of their own, and everything else leaves the file alone or takes it away.
-/

namespace MetricAgent.Listen

/-! ### Sockets -/

namespace Sockets

variable {s s' : Sockets} {l : SocketListener} {text : String} {p q : Path} {n : Nat}

/-- The file has an identity, and it is no directory, which would stay. -/
def isFileOf (n : Nat) (f : File) : Bool := f.kind ≠ .directory && f.identity = n

/-- A bind that succeeds puts its socket at the path and is the latest one there. -/
theorem bind_eq_ok (h : s.bind text p n = (.ok l, s')) :
    l = ⟨p, s.generation p + 1, n, .start⟩ ∧
      (∀ q, s'.generation q = if q = p then s.generation p + 1 else s.generation q) ∧
      ∀ q, s'.tree.find? q = if q = p then some ⟨.socket, n⟩ else s.tree.find? q := by
  unfold bind at h
  split at h
  next => cases h
  next t hclear =>
    split at h
    next => cases h
    next =>
      split at h
      next => cases h
      next =>
        obtain ⟨hl, rfl⟩ := Prod.mk.inj h
        refine ⟨(Except.ok.inj hl).symm, fun q => ?_, fun q => ?_⟩
        · rw [generation, lookup_cons_filter_ne]
          split <;> rfl
        · rw [FileTree.find?_create]
          split
          next => rfl
          next hq => exact (FileTree.find?_clear hclear q).resolve_right fun h => hq h.1

/-- A bind that fails counts for nothing and leaves all files alone but the one at its path. -/
theorem bind_eq_error {e : SystemError} (h : s.bind text p n = (.error e, s')) :
    s'.generations = s.generations ∧
      ∀ q, s'.tree.find? q = s.tree.find? q ∨ q = p ∧ s'.tree.find? q = none := by
  unfold bind at h
  split at h
  next =>
    obtain ⟨-, rfl⟩ := Prod.mk.inj h
    exact ⟨rfl, fun q => Or.inl rfl⟩
  next t hclear =>
    split at h
    next =>
      obtain ⟨-, rfl⟩ := Prod.mk.inj h
      exact ⟨rfl, FileTree.find?_clear hclear⟩
    next =>
      split at h
      next =>
        obtain ⟨-, rfl⟩ := Prod.mk.inj h
        exact ⟨rfl, FileTree.find?_clear hclear⟩
      next => cases h

theorem generations_release (s : Sockets) (l : SocketListener) :
    (s.release l).generations = s.generations := by
  unfold release
  split <;> rfl

/-- A listener takes away its own file and no other one. -/
theorem find?_release (s : Sockets) (l : SocketListener) (q : Path) :
    (s.release l).tree.find? q =
      if q = l.path ∧ s.generation l.path = l.generation ∧
        (s.tree.find? l.path).any (isFileOf l.identity) = true
      then none else s.tree.find? q := by
  unfold release isOwn
  by_cases hg : s.generation l.path = l.generation
  · cases hf : s.tree.find? l.path with
    | none => simp
    | some f =>
      by_cases hn : f.identity = l.identity
      · rw [if_pos (by simp [hg, hn]), FileTree.find?_unlink]
        simp [hf, hg, isFileOf, hn]
      · rw [if_neg (by simp [hn])]
        simp [isFileOf, hn]
  · rw [if_neg (by simp [hg]), if_neg fun h => hg h.2.1]

/-- A listener that runs leaves and takes its file away. -/
theorem stop_of_running (s : Sockets) (h : l.loop = .start) : (s.stop l).2 = s.release l := by
  unfold stop
  rw [h]
  rfl

/-- A listener that has stopped does nothing when it is stopped again. -/
theorem stop_of_gone (s : Sockets) (h : l.loop.stage = .gone) : (s.stop l).2 = s := by
  have hleft : (l.loop.run [.stop, .wake]).stage = .gone := by
    simp [AcceptLoop.run, AcceptLoop.step, AcceptLoop.stop, h]
    split <;> simp_all
  simp [stop, hleft]

theorem gone_stop_of_running (s : Sockets) (h : l.loop = .start) :
    (s.stop l).1.loop.stage = .gone := by
  unfold stop
  rw [h]
  rfl

theorem stop_cases (s : Sockets) (l : SocketListener) :
    (s.stop l).2 = s ∨ (s.stop l).2 = s.release l := by
  unfold stop
  dsimp only
  split
  next => exact Or.inr rfl
  next => exact Or.inl rfl

theorem generation_stop (s : Sockets) (l : SocketListener) (q : Path) :
    (s.stop l).2.generation q = s.generation q := by
  rcases s.stop_cases l with h | h
  · rw [h]
  · rw [h, generation, generations_release]
    rfl

theorem find?_stop (s : Sockets) (l : SocketListener) (q : Path) :
    (s.stop l).2.tree.find? q = s.tree.find? q ∨ (s.stop l).2.tree.find? q = none := by
  rcases s.stop_cases l with h | h
  · exact Or.inl (by rw [h])
  · rw [h, find?_release]
    split
    next => exact Or.inr rfl
    next => exact Or.inl rfl

end Sockets

/-! ### Steps at a path -/

namespace SocketStep

/-- The step binds a listener at a path. -/
def bindsAt (p : Path) : SocketStep → Bool
  | bind _ _ q _ => q = p
  | stop _ | drop _ | write .. | makeDirectory .. | remove _ | replace .. => false

/-- Where outsiders put a file, and its identity if it is a new one. -/
def outside? : SocketStep → Option (Path × Nat)
  | write p n | makeDirectory p n | replace p n => some (p, n)
  | bind .. | stop _ | drop _ | remove _ => none

end SocketStep

namespace SocketHost

/-- The file at a path. -/
def file? (h : SocketHost) (p : Path) : Option File := h.sockets.tree.find? p

/-- How many listeners have been bound at a path. -/
def generation (h : SocketHost) (p : Path) : Nat := h.sockets.generation p

theorem generation_drop (h : SocketHost) (id : String) (p : Path) :
    (h.drop id).generation p = h.generation p := by
  unfold drop
  split
  next => rfl
  next l _ => exact h.sockets.generation_stop l p

theorem file?_drop (h : SocketHost) (id : String) (p : Path) :
    (h.drop id).file? p = h.file? p ∨ (h.drop id).file? p = none := by
  unfold drop
  split
  next => exact Or.inl rfl
  next l _ => exact h.sockets.find?_stop l p

/-- After a bind that succeeds the old listener of the name is gone, and the new one has it. -/
theorem step_bind_eq_ok {h h' : SocketHost} {id text : String} {p : Path} {n : Nat}
    (hb : h.step (.bind id text p n) = (.ok (), h')) :
    ∃ s l, h.sockets.bind text p n = (.ok l, s) ∧
      h'.sockets = ({ h with sockets := s }.drop id).sockets ∧ h'.find? id = some l := by
  simp only [step] at hb
  split at hb
  next => cases hb
  next l s hs =>
    obtain ⟨-, rfl⟩ := Prod.mk.inj hb
    exact ⟨s, l, hs, rfl, List.lookup_cons_self⟩

/-- A listener that is stopped or forgotten leaves what it leaves when it stops. -/
theorem sockets_leave {h : SocketHost} {id : String} {l : SocketListener} {x : SocketStep}
    (hl : h.find? id = some l) (hx : x = .stop id ∨ x = .drop id) :
    (h.step x).1 = .ok () ∧ (h.step x).2.sockets = (h.sockets.stop l).2 := by
  rcases hx with rfl | rfl
  · simp [step, hl]
  · simp [step, drop, hl]

/-- A listener that is stopped keeps its name. -/
theorem find?_stop {h : SocketHost} {id : String} {l : SocketListener} (hl : h.find? id = some l) :
    (h.step (.stop id)).2.find? id = some (h.sockets.stop l).1 := by
  simp only [step, hl]
  exact List.lookup_cons_self

/-! ### Every step -/

/-- What a step does at a path, whether it succeeds or not. -/
inductive Changes (h : SocketHost) (p : Path) (x : SocketStep) (isOk : Bool) (h' : SocketHost) :
    Prop where
  | bound (ok : isOk = true) (binds : x.bindsAt p = true)
      (generation : h'.generation p = h.generation p + 1)
  | put (n : Nat) (ok : isOk = true) (binds : x.bindsAt p = false)
      (outside : x.outside? = some (p, n)) (generation : h'.generation p = h.generation p)
      (file : (∃ kind, h'.file? p = some ⟨kind, n⟩) ∨
        h'.file? p = h.file? p ∧ ∃ m, h.file? p = some ⟨.regular, m⟩)
  | left (binds : (isOk && x.bindsAt p) = false)
      (outside : isOk = true → ∀ n, x.outside? ≠ some (p, n))
      (generation : h'.generation p = h.generation p)
      (file : h'.file? p = h.file? p ∨ h'.file? p = none)

variable {h : SocketHost} {p : Path} {x : SocketStep}

theorem changes_bind (h : SocketHost) (p : Path) (id text : String) (q : Path) (n : Nat) :
    h.Changes p (.bind id text q n) (h.step (.bind id text q n)).1.isOk
      (h.step (.bind id text q n)).2 := by
  simp only [step]
  split
  next e s hs =>
    obtain ⟨hgen, hfile⟩ := Sockets.bind_eq_error hs
    refine .left rfl (by simp [Except.isOk, Except.toBool]) ?_ ?_
    · simp [generation, Sockets.generation, hgen]
    · exact (hfile p).imp_right And.right
  next l s hs =>
    obtain ⟨-, hgen, hfile⟩ := Sockets.bind_eq_ok hs
    have hdrop := generation_drop { h with sockets := s } id p
    by_cases hq : p = q
    · refine .bound rfl (by simp [SocketStep.bindsAt, hq]) ?_
      have hp := hgen p
      rw [if_pos hq, ← hq] at hp
      exact hdrop.trans hp
    · refine .left (by simp [SocketStep.bindsAt, Ne.symm hq])
        (by simp [SocketStep.outside?]) ?_ ?_
      · have hp := hgen p
        rw [if_neg hq] at hp
        exact hdrop.trans hp
      · have hp := hfile p
        rw [if_neg hq] at hp
        exact (file?_drop { h with sockets := s } id p).imp_left (·.trans hp)

/-- What outsiders put somewhere is a new file, or it was there. -/
theorem changes_onTree {f : FileTree → Except SystemCause FileTree} {q : Path} {n : Nat}
    (hx : x.outside? = some (q, n))
    (hf : ∀ {t}, f h.sockets.tree = .ok t → (∃ kind, t = h.sockets.tree.create q ⟨kind, n⟩) ∨
      t = h.sockets.tree ∧ ∃ m, h.file? q = some ⟨.regular, m⟩) :
    h.Changes p x (h.onTree f).1.isOk (h.onTree f).2 := by
  have hb : x.bindsAt p = false := by
    cases x <;> first | rfl | cases hx
  unfold onTree
  split
  next t ht =>
    by_cases hq : p = q
    · rw [← hq] at hf hx
      refine .put n rfl hb hx rfl ?_
      rcases hf ht with ⟨kind, rfl⟩ | ⟨rfl, hm⟩
      · exact Or.inl ⟨kind, (FileTree.find?_create _ p p _).trans (if_pos rfl)⟩
      · exact Or.inr ⟨rfl, hm⟩
    · refine .left (by simp [hb]) (fun _ m hm => ?_) rfl (Or.inl ?_)
      · rw [hx] at hm
        exact hq (Prod.mk.inj (Option.some.inj hm)).1.symm
      · rcases hf ht with ⟨kind, rfl⟩ | ⟨rfl, -⟩
        · exact (FileTree.find?_create _ q p _).trans (if_neg hq)
        · rfl
  next => exact .left rfl nofun rfl (Or.inl rfl)

/-- Each step binds at a path, puts a file there, or leaves at most the file that is there. -/
theorem changes_step (h : SocketHost) (x : SocketStep) (p : Path) :
    h.Changes p x (h.step x).1.isOk (h.step x).2 := by
  cases x with
  | bind id text q n => exact h.changes_bind p id text q n
  | stop id =>
    simp only [step]
    split
    next => exact .left rfl (fun _ _ => nofun) rfl (Or.inl rfl)
    next l _ =>
      exact .left rfl (fun _ _ => nofun) (h.sockets.generation_stop l p)
        (h.sockets.find?_stop l p)
  | drop id => exact .left rfl (fun _ _ => nofun) (h.generation_drop id p) (h.file?_drop id p)
  | write q n =>
    refine changes_onTree rfl fun ht => ?_
    exact (FileTree.write_eq_ok ht).imp_left fun h => ⟨_, h⟩
  | makeDirectory q n =>
    exact changes_onTree rfl fun ht => Or.inl ⟨_, FileTree.makeDirectory_eq_ok ht⟩
  | replace q n => exact changes_onTree rfl fun ht => Or.inl ⟨_, FileTree.replace_eq_ok ht⟩
  | remove q =>
    simp only [step, onTree]
    split
    next t ht =>
      have hfile : t = h.sockets.tree.erase q := by
        split at ht
        next => exact (Except.ok.inj ht).symm
        next => exact FileTree.remove_eq_ok ht
      refine .left rfl (fun _ _ => nofun) rfl ?_
      rw [hfile]
      have herase := h.sockets.tree.find?_erase q p
      split at herase
      next => exact Or.inr herase
      next => exact Or.inl herase
    next => exact .left rfl (fun _ _ => nofun) rfl (Or.inl rfl)

end SocketHost

end MetricAgent.Listen
