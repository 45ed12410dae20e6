import Mathlib.Data.List.Basic
import MetricAgent.Proofs.Listen.Sockets

/-!
Who takes away the file of a listener. What has been done since a listener was bound tells whether
the file at its path is still its own: no later listener may have been bound there, and no outsider
may have put another file there.
-/

namespace MetricAgent.Listen

open Sockets

/-- How many listeners some steps bind at a path. -/
def binds (p : Path) (steps : List SocketStep) : Nat := steps.countP (·.bindsAt p)

/-- The identities of the files that outsiders put at a path. -/
def strangers (p : Path) (steps : List SocketStep) : List Nat :=
  ((steps.filterMap SocketStep.outside?).filter (·.1 = p)).map Prod.snd

variable {p : Path} {n : Nat} {steps : List SocketStep} {x : SocketStep}

lemma strangers_snoc (h : x.outside? = some (p, n)) :
    strangers p (steps ++ [x]) = strangers p steps ++ [n] := by
  simp [strangers, h]

lemma strangers_snoc_of_ne (h : ∀ n, x.outside? ≠ some (p, n)) :
    strangers p (steps ++ [x]) = strangers p steps := by
  cases hx : x.outside? with
  | none => simp [strangers, hx]
  | some y =>
    obtain ⟨q, m⟩ := y
    have hq : q ≠ p := by
      rintro rfl
      exact h m hx
    simp [strangers, hx, hq]

namespace SocketHost

variable {h h₁ : SocketHost} {l : SocketListener} {id text : String} {past : List SocketStep}

/-- The step, if it succeeds. -/
def succeeding (h : SocketHost) (x : SocketStep) : List SocketStep :=
  if (h.step x).1.isOk then [x] else []

/-- Those of some steps that succeed, in order. -/
def done (h : SocketHost) : List SocketStep → List SocketStep
  | [] => []
  | x :: steps => h.succeeding x ++ (h.step x).2.done steps

/-! ### Since a listener was bound -/

/-- What has been done at the path of a listener since it was bound shows in the number of binds,
and in the file there if it is the last one bound. -/
structure Since (l : SocketListener) (past : List SocketStep) (h : SocketHost) : Prop where
  generation : h.generation l.path = l.generation + binds l.path past
  file : binds l.path past = 0 → l.identity ∉ strangers l.path past →
    ∀ f, h.file? l.path = some f →
      if strangers l.path past = [] then f = ⟨.socket, l.identity⟩ else f.identity ≠ l.identity

lemma Since.step (hs : Since l past h) (x : SocketStep) :
    Since l (past ++ h.succeeding x) (h.step x).2 := by
  unfold succeeding
  cases h.changes_step x l.path with
  | bound ok hb hgen =>
    have hbinds : binds l.path (past ++ [x]) = binds l.path past + 1 := by simp [binds, hb]
    rw [if_pos ok]
    refine ⟨?_, fun h0 => ?_⟩
    · rw [hgen, hs.generation, hbinds]
      rfl
    · rw [hbinds] at h0
      cases h0
  | put n ok hb hx hgen hfile =>
    have hbinds : binds l.path (past ++ [x]) = binds l.path past := by simp [binds, hb]
    rw [if_pos ok]
    refine ⟨?_, fun h0 hfresh f hf => ?_⟩
    · rw [hgen, hs.generation, hbinds]
    · rw [strangers_snoc hx] at hfresh ⊢
      rw [hbinds] at h0
      rw [if_neg (List.append_ne_nil_of_right_ne_nil _ (List.cons_ne_nil _ _))]
      obtain ⟨hold, hn⟩ := not_or.mp (mt List.mem_append.mpr hfresh)
      rcases hfile with ⟨kind, hnew⟩ | ⟨hsame, m, hm⟩
      · rw [hf] at hnew
        obtain rfl := Option.some.inj hnew
        exact fun h => hn (List.mem_singleton.mpr h.symm)
      · -- the file was written by an outsider before, so it cannot be the socket
        have hbefore := hs.file h0 hold f (hsame ▸ hf)
        split at hbefore
        next =>
          rw [hsame, hm] at hf
          obtain rfl := Option.some.inj hf
          cases hbefore
        next => exact hbefore
  | left hb hx hgen hfile =>
    have hafter : binds l.path (past ++ if (h.step x).1.isOk then [x] else []) =
          binds l.path past ∧
        strangers l.path (past ++ if (h.step x).1.isOk then [x] else []) =
          strangers l.path past := by
      split
      next ok =>
        rw [ok, Bool.true_and] at hb
        exact ⟨by simp [binds, hb], strangers_snoc_of_ne (hx ok)⟩
      next => exact ⟨by rw [List.append_nil], by rw [List.append_nil]⟩
    refine ⟨?_, fun h0 hfresh f hf => ?_⟩
    · rw [hgen, hs.generation, hafter.1]
    · rw [hafter.2] at hfresh ⊢
      rw [hafter.1] at h0
      rcases hfile with hsame | hnone
      · exact hs.file h0 hfresh f (hsame ▸ hf)
      · rw [hnone] at hf
        cases hf

lemma Since.run (hs : Since l past h) (later : List SocketStep) :
    Since l (past ++ h.done later) (h.run later) := by
  induction later generalizing h past with
  | nil =>
    rw [SocketHost.done, List.append_nil]
    exact hs
  | cons x later ih =>
    rw [SocketHost.done, ← List.append_assoc]
    exact ih (hs.step x)

lemma since_bind (hb : h.step (.bind id text p n) = (.ok (), h₁)) :
    ∃ l, h₁.find? id = some l ∧ l.path = p ∧ l.identity = n ∧ l.loop = .start ∧
      Since l [] h₁ := by
  obtain ⟨s, l, hs, hsockets, hfind⟩ := step_bind_eq_ok hb
  obtain ⟨rfl, hgen, hfile⟩ := bind_eq_ok hs
  refine ⟨_, hfind, rfl, rfl, rfl, ?_, fun _ _ f hf => ?_⟩
  · have hdrop := generation_drop { h with sockets := s } id p
    rw [SocketHost.generation, hsockets]
    exact hdrop.trans ((hgen p).trans (if_pos rfl))
  · have hdrop := file?_drop { h with sockets := s } id p
    rw [file?, hsockets] at hf
    rcases hdrop with hsame | hnone
    · have hp := hsame.trans ((hfile p).trans (if_pos rfl))
      exact Option.some.inj (hf.symm.trans hp)
    · cases hf.symm.trans hnone

/-! ### When it stops -/

/-- The file at the path of a listener is its own, as what has been done since tells. -/
def IsOwn (h : SocketHost) (p : Path) (n : Nat) (past : List SocketStep) : Prop :=
  binds p past = 0 ∧ (h.file? p).any (isFileOf n) = true

instance (h : SocketHost) (p : Path) (n : Nat) (past : List SocketStep) :
    Decidable (h.IsOwn p n past) :=
  inferInstanceAs (Decidable (_ ∧ _))

lemma Since.generation_iff (hs : Since l past h) :
    h.sockets.generation l.path = l.generation ↔ binds l.path past = 0 := by
  have hgen : h.sockets.generation l.path = l.generation + binds l.path past := hs.generation
  omega

lemma Since.find?_release (hs : Since l past h) (q : Path) :
    (h.sockets.release l).tree.find? q =
      if q = l.path ∧ h.IsOwn l.path l.identity past then none else h.file? q := by
  rw [Sockets.find?_release]
  simp only [hs.generation_iff]
  rfl

/-- A listener that leaves as another one is bound takes its own file away, but not the new one. -/
lemma Since.find?_release_bind {s : Sockets} {l' : SocketListener} (hs : Since l past h)
    (hb : h.sockets.bind text p n = (.ok l', s)) (q : Path) :
    (s.release l).tree.find? q =
      if q = p then some ⟨.socket, n⟩
      else if q = l.path ∧ h.IsOwn l.path l.identity past then none else h.file? q := by
  obtain ⟨-, hgen, hfile⟩ := bind_eq_ok hb
  have hsince : h.sockets.generation l.path = l.generation + binds l.path past := hs.generation
  rw [Sockets.find?_release, hgen, hfile, hfile]
  by_cases hp : l.path = p
  · -- the new listener is a later one at the same path, so the file is not the old one's
    subst hp
    rw [if_pos rfl, if_neg fun h => by omega]
    split
    next => rfl
    next hq => rw [if_neg fun h => hq h.1]; rfl
  · rw [if_neg hp, if_neg hp]
    by_cases hq : q = p
    · rw [if_neg fun h => hp (h.1.symm.trans hq)]
      simp only [if_pos hq]
    · simp only [if_neg hq, hs.generation_iff]
      rfl

lemma Since.not_isOwn (hs : Since l past h) (hput : strangers l.path past ≠ [])
    (hfresh : l.identity ∉ strangers l.path past) : ¬ h.IsOwn l.path l.identity past := by
  rintro ⟨h0, hown⟩
  cases hf : h.file? l.path with
  | none => simp [hf] at hown
  | some f =>
    have hne := hs.file h0 hfresh f hf
    rw [if_neg hput] at hne
    simp [hf, isFileOf, hne] at hown

lemma Since.isOwn_or_none (hs : Since l past h) (h0 : binds l.path past = 0)
    (hput : strangers l.path past = []) :
    h.IsOwn l.path l.identity past ∨ h.file? l.path = none := by
  cases hf : h.file? l.path with
  | none => exact Or.inr rfl
  | some f =>
    have hsocket := hs.file h0 (by simp [hput]) f hf
    rw [if_pos hput] at hsocket
    subst hsocket
    exact Or.inl ⟨h0, by simp [hf, isFileOf]⟩

/--
**Own files only.** Once a listener is bound at a path, anything may be done; when it stops, or is
forgotten, or another one takes its name, it takes the file at its path away just if no later
listener was bound there and the file has the identity that it bound. So it takes away nothing that
a later listener bound, whatever identity the system gave to that, and nothing that outsiders put
there; it leaves no file behind if there was nobody else; and to stop it again does nothing.
-/
theorem stopped_listener_removes_own_file (h h₁ : SocketHost) (id text : String) (p : Path)
    (n : Nat) (hb : h.step (.bind id text p n) = (.ok (), h₁)) (later : List SocketStep)
    (hheld : (h₁.run later).find? id = h₁.find? id) :
    let h₂ := h₁.run later
    let past := h₁.done later
    (∀ x, x = .stop id ∨ x = .drop id →
        (h₂.step x).1 = .ok () ∧
        (∀ q, (h₂.step x).2.file? q =
          if q = p ∧ h₂.IsOwn p n past then none else h₂.file? q) ∧
        (binds p past ≠ 0 → (h₂.step x).2.file? p = h₂.file? p) ∧
        (strangers p past ≠ [] → n ∉ strangers p past → (h₂.step x).2.file? p = h₂.file? p) ∧
        (binds p past = 0 → strangers p past = [] → (h₂.step x).2.file? p = none)) ∧
      (∀ text' p' n' h₃, h₂.step (.bind id text' p' n') = (.ok (), h₃) → ∀ q, h₃.file? q =
        if q = p' then some ⟨.socket, n'⟩
        else if q = p ∧ h₂.IsOwn p n past then none else h₂.file? q) ∧
      (∀ further, let h₃ := (h₂.step (.stop id)).2
        (h₃.run further).find? id = h₃.find? id → ∀ x, x = .stop id ∨ x = .drop id →
          ((h₃.run further).step x).2.sockets = (h₃.run further).sockets) := by
  intro h₂ past
  obtain ⟨l, hl, rfl, rfl, hloop, hbound⟩ := since_bind hb
  have hs : Since l past h₂ := hbound.run later
  have hfind : h₂.find? id = some l := hheld.trans hl
  refine ⟨fun x hx => ?_, fun text' p' n' h₃ hb' q => ?_, ?_⟩
  · obtain ⟨hok, hsockets⟩ := sockets_leave hfind hx
    have hfile : ∀ q, (h₂.step x).2.file? q =
        if q = l.path ∧ h₂.IsOwn l.path l.identity past then none else h₂.file? q := by
      intro q
      rw [file?, hsockets, stop_of_running _ hloop]
      exact hs.find?_release q
    refine ⟨hok, hfile, fun hlater => ?_, fun hput hfresh => ?_, fun h0 hput => ?_⟩
    · rw [hfile, if_neg fun h => hlater h.2.1]
    · rw [hfile, if_neg fun h => hs.not_isOwn hput hfresh h.2]
    · rw [hfile]
      rcases hs.isOwn_or_none h0 hput with hown | hnone
      · rw [if_pos ⟨rfl, hown⟩]
      · rw [hnone, ite_self]
  · obtain ⟨s, l', hs', hsockets, -⟩ := step_bind_eq_ok hb'
    have hdrop : ({ h₂ with sockets := s }.drop id).sockets = s.release l := by
      have hfind' : SocketHost.find? { h₂ with sockets := s } id = some l := hfind
      unfold SocketHost.drop
      rw [hfind']
      exact stop_of_running s hloop
    rw [file?, hsockets, hdrop]
    exact hs.find?_release_bind hs' q
  · intro further h₃ hkept x hx
    have hgone := gone_stop_of_running h₂.sockets hloop
    have hfind' : (h₃.run further).find? id = some (h₂.sockets.stop l).1 :=
      hkept.trans (find?_stop hfind)
    obtain ⟨-, hsockets⟩ := sockets_leave hfind' hx
    rw [hsockets, stop_of_gone _ hgone]

/-- Two listeners are bound at one path, and the file of the second one has the identity of the
first. The first one leaves the file of the second one alone, which takes it away later. -/
theorem stopped_listener_removes_own_file_twoAtOnePath :
    let h := start (.ofDirectories [[]])
    let h₁ := (h.step (.bind "a" "/s" ["s"] 7)).2
    let h₂ := (h₁.step (.bind "b" "/s" ["s"] 7)).2
    h.step (.bind "a" "/s" ["s"] 7) = (.ok (), h₁) ∧
      (h₁.run [.bind "b" "/s" ["s"] 7]).find? "a" = h₁.find? "a" ∧
      (h₂.step (.stop "a")).2.file? ["s"] = some ⟨.socket, 7⟩ ∧
      h₁.step (.bind "b" "/s" ["s"] 7) = (.ok (), h₂) ∧
      (h₂.run [.stop "a"]).find? "b" = h₂.find? "b" ∧
      ((h₂.run [.stop "a"]).step (.stop "b")).2.file? ["s"] = none := by
  intro h h₁ h₂
  have ha : h.step (.bind "a" "/s" ["s"] 7) = (.ok (), h₁) :=
    Prod.ext (by decide +kernel) rfl
  have hb : h₁.step (.bind "b" "/s" ["s"] 7) = (.ok (), h₂) :=
    Prod.ext (by decide +kernel) rfl
  have hheld : (h₁.run [.bind "b" "/s" ["s"] 7]).find? "a" = h₁.find? "a" := by decide +kernel
  have hkept : (h₂.run [.stop "a"]).find? "b" = h₂.find? "b" := by decide +kernel
  obtain ⟨hfirst, -, -⟩ := stopped_listener_removes_own_file h h₁ _ _ _ _ ha _ hheld
  obtain ⟨-, -, hlater, -, -⟩ := hfirst (.stop "a") (Or.inl rfl)
  obtain ⟨hsecond, -, -⟩ := stopped_listener_removes_own_file h₁ h₂ _ _ _ _ hb _ hkept
  obtain ⟨-, -, -, -, hnobody⟩ := hsecond (.stop "b") (Or.inl rfl)
  refine ⟨ha, hheld, ?_, hb, hkept, hnobody (by decide +kernel) (by decide +kernel)⟩
  exact (hlater (by decide +kernel)).trans (by decide +kernel)

end SocketHost

end MetricAgent.Listen
