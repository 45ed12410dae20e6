import MetricAgent.Proofs.Url.Characters

/-!
How URLs with a host are spelled: a scheme, slashes, a user with an at sign if there is one, the
place, and the rest. The user has no part in what is read from the other parts.
-/

namespace MetricAgent.Url

open Text Decimal

variable {special : Bool} {scheme around user place rest s : List Char} {host : Host} {u : Url}

/-! ### Users -/

/-- A URL from its place and the rest, with a user name and a password. -/
def ofPlace (scheme place rest : List Char) (user : List Char × Option (List Char)) :
    Except UrlError Url :=
  let (hostText, afterHost) := spanHost false place
  if hostText.isEmpty then .error .emptyHost
  else do
    let host ← readHost (isSpecial scheme) hostText
    let (port, afterPort) ← readPort scheme afterHost
    let (path, query, fragment) := splitTail (isSpecial scheme) (afterPort ++ rest)
    .ok
      { scheme, username := user.1, password := user.2, port, query, fragment
        host := some host
        path := hierarchicalPath (isSpecial scheme) path }

lemma spanHost_append (inside : Bool) (s : List Char) :
    (spanHost inside s).1 ++ (spanHost inside s).2 = s := by
  induction s generalizing inside with
  | nil => rfl
  | cons c s ih =>
    unfold spanHost
    split
    · rfl
    · simp [ih]

lemma takeWhile_authority (haround : ∀ c ∈ around, endsAuthority special c = false)
    (hrest : ∀ c ∈ rest.head?, endsAuthority special c = true) :
    (around ++ rest).takeWhile (!endsAuthority special ·) = around :=
  takeWhile_append_rest (by simpa using haround) (by simpa using hrest)

lemma dropWhile_authority (haround : ∀ c ∈ around, endsAuthority special c = false)
    (hrest : ∀ c ∈ rest.head?, endsAuthority special c = true) :
    (around ++ rest).dropWhile (!endsAuthority special ·) = rest :=
  dropWhile_append_rest (by simpa using haround) (by simpa using hrest)

lemma withAuthority_append (haround : ∀ c ∈ around, endsAuthority (isSpecial scheme) c = false)
    (hrest : ∀ c ∈ rest.head?, endsAuthority (isSpecial scheme) c = true)
    (hsplit : (splitLastAt? around).getD ([], around) = (user, place))
    (hplace : place ≠ []) :
    withAuthority scheme (around ++ rest) =
      ofPlace scheme place rest (credentials user) := by
  unfold withAuthority ofPlace
  simp only [takeWhile_authority haround hrest, dropWhile_authority haround hrest, hsplit]
  rw [if_neg (by simp [hplace])]
  have hcut := spanHost_append false place
  generalize spanHost false place = cut at hcut ⊢
  obtain ⟨hostText, afterHost⟩ := cut
  by_cases hempty : hostText = []
  · subst hempty
    -- the place is not empty, so a colon stands where the host should be
    have hafter : afterHost ≠ [] := fun h => hplace (by rw [← hcut, h]; rfl)
    cases isSpecial scheme with
    | true => rfl
    | false => simp [opaqueHost, percentEncode, Host.text, hafter, bind, Except.bind]
  · rw [readHost_bind]
    cases hhost : readHost (isSpecial scheme) hostText with
    | error e => simp [hempty, bind, Except.bind]
    | ok host =>
      have hnamed := text_ne_nil_of_readHost hempty hhost
      simp [hempty, hnamed, bind, Except.bind]

lemma host_of_place_eq_nil
    (haround : ∀ c ∈ around, endsAuthority (isSpecial scheme) c = false)
    (hrest : ∀ c ∈ rest.head?, endsAuthority (isSpecial scheme) c = true)
    (hsplit : (splitLastAt? around).getD ([], around) = (user, []))
    (h : withAuthority scheme (around ++ rest) = .ok u) : u.host = none := by
  unfold withAuthority at h
  simp only [takeWhile_authority haround hrest, dropWhile_authority haround hrest, hsplit] at h
  split at h
  next => cases h
  next =>
    cases hspecial : isSpecial scheme with
    | true => simp [spanHost, hspecial] at h
    | false =>
      have hhost : opaqueHost [] = .ok (.name []) := rfl
      simp only [hspecial, spanHost, hhost, Host.text, readPort, bind, Except.bind] at h
      simp only [List.isEmpty_nil, Bool.false_and, Bool.not_true, Bool.not_false, Bool.true_and,
        Bool.and_false, Bool.false_eq_true, if_false] at h
      split at h
      next => cases h
      next =>
        cases h
        rfl

/-! ### Parts of a text -/

lemma splitLastAt?_of_notMem (h : '@' ∉ s) : splitLastAt? s = none := by
  have hdrop : (s.reverse ++ []).dropWhile (· ≠ '@') = [] :=
    dropWhile_ne_append (mt List.mem_reverse.mp h) nofun
  rw [List.append_nil] at hdrop
  rw [splitLastAt?, hdrop]

lemma splitLastAt?_append (h : '@' ∉ place) :
    splitLastAt? (user ++ '@' :: place) = some (user, place) := by
  have hreverse : (user ++ '@' :: place).reverse = place.reverse ++ '@' :: user.reverse := by
    simp
  have hplace : '@' ∉ place.reverse := mt List.mem_reverse.mp h
  have hat : ∀ c ∈ ('@' :: user.reverse).head?, c = '@' := by
    rintro c ⟨⟩
    rfl
  rw [splitLastAt?, hreverse, dropWhile_ne_append hplace hat, takeWhile_ne_append hplace hat]
  simp

lemma scheme?_append {w t : List Char} (hhead : w.head?.any Char.isAlpha = true)
    (hw : ∀ c ∈ w, isSchemeChar c = true) :
    scheme? (w ++ ':' :: t) = some (w.map Char.toLower, t) := by
  have hcolon : ∀ c ∈ (':' :: t).head?, isSchemeChar c = false := by
    intro c hc
    cases hc
    rfl
  cases w with
  | nil => simp at hhead
  | cons a w =>
    have hdrop := dropWhile_append_rest hw hcolon
    have htake := takeWhile_append_rest hw hcolon
    rw [List.cons_append] at hdrop htake ⊢
    unfold scheme?
    rw [hdrop, htake]
    exact if_pos hhead

lemma scheme?_eq_some {w t : List Char} (h : scheme? s = some (w, t)) :
    ∃ v, s = v ++ ':' :: t ∧ w = v.map Char.toLower ∧ v.head?.any Char.isAlpha = true ∧
      ∀ c ∈ v, isSchemeChar c = true := by
  unfold scheme? at h
  split at h
  next a r rest hdrop =>
    split at h
    next ha =>
      cases h
      refine ⟨(a :: r).takeWhile isSchemeChar, ?_, rfl, ?_, fun c => List.mem_takeWhile_imp⟩
      · rw [← hdrop, List.takeWhile_append_dropWhile]
      · rw [List.takeWhile_cons_of_pos (by simp [isSchemeChar, Char.isAlphanum, ha])]
        exact ha
    next => cases h
  next => cases h

lemma exists_user (s : List Char) : ∃ (user : Option (List Char)) (place : List Char),
    s = user.elim [] (· ++ ['@']) ++ place ∧ '@' ∉ place := by
  by_cases h : '@' ∈ s
  · obtain ⟨place, user, hs, hplace⟩ := List.eq_append_cons_of_mem (List.mem_reverse.mpr h)
    refine ⟨some user.reverse, place.reverse, ?_, mt List.mem_reverse.mp hplace⟩
    rw [← List.reverse_reverse s, hs]
    simp
  · exact ⟨none, s, rfl, h⟩

/-! ### Spellings -/

/-- The parts of a text that is read as a URL with a host. -/
structure Spelling where
  scheme : List Char
  slashes : List Char
  /-- What stands in front of the last at sign. -/
  user : Option (List Char)
  place : List Char
  rest : List Char

namespace Spelling

variable {p : Spelling} {t : List Char}

def authority (p : Spelling) : List Char := p.user.elim [] (· ++ ['@']) ++ p.place

def text (p : Spelling) : List Char :=
  p.scheme ++ ':' :: (p.slashes ++ (p.authority ++ p.rest))

/-- The scheme as it is read. -/
def lower (p : Spelling) : List Char := p.scheme.map Char.toLower

/-- The parts are read where they stand. -/
structure IsSound (p : Spelling) : Prop where
  head : p.scheme.head?.any Char.isAlpha = true
  scheme : ∀ c ∈ p.scheme, isSchemeChar c = true
  noFile : isFile p.lower = false
  slashes : if isSpecial p.lower then ∀ c ∈ p.slashes, isSlash true c = true
    else p.slashes = "//".toList
  authority : ∀ c ∈ p.authority, endsAuthority (isSpecial p.lower) c = false
  place : p.place ≠ []
  noAt : '@' ∉ p.place
  rest : ∀ c ∈ p.rest.head?, endsAuthority (isSpecial p.lower) c = true

lemma isSound_iff : p.IsSound ↔ p.scheme.head?.any Char.isAlpha = true ∧
    p.scheme.all isSchemeChar = true ∧ isFile p.lower = false ∧
    (if isSpecial p.lower then p.slashes.all (isSlash true) = true
      else p.slashes = "//".toList) ∧
    p.authority.all (!endsAuthority (isSpecial p.lower) ·) = true ∧ p.place ≠ [] ∧
    '@' ∉ p.place ∧ p.rest.head?.all (endsAuthority (isSpecial p.lower)) = true := by
  simp only [List.all_eq_true, Option.all_eq_true, Bool.not_eq_true']
  exact ⟨fun ⟨h₁, h₂, h₃, h₄, h₅, h₆, h₇, h₈⟩ => ⟨h₁, h₂, h₃, h₄, h₅, h₆, h₇, h₈⟩,
    fun ⟨h₁, h₂, h₃, h₄, h₅, h₆, h₇, h₈⟩ => ⟨h₁, h₂, h₃, h₄, h₅, h₆, h₇, h₈⟩⟩

instance (p : Spelling) : Decidable p.IsSound := decidable_of_iff _ isSound_iff.symm

lemma IsSound.authority_ne_nil (h : p.IsSound) : p.authority ≠ [] := by
  simp [Spelling.authority, h.place]

lemma split_of_noAt (h : '@' ∉ p.place) :
    (splitLastAt? p.authority).getD ([], p.authority) = (p.user.getD [], p.place) := by
  unfold Spelling.authority
  cases p.user with
  | none =>
    simp only [Option.elim_none, List.nil_append, splitLastAt?_of_notMem h]
    rfl
  | some user =>
    simp only [Option.elim_some, List.append_assoc, List.singleton_append,
      splitLastAt?_append h]
    rfl

lemma IsSound.parse (h : p.IsSound) (hs : clean s = p.text) :
    Url.parse s = ofPlace p.lower p.place p.rest (credentials (p.user.getD [])) := by
  have hread : Url.parse s = withAuthority p.lower (p.authority ++ p.rest) := by
    unfold Url.parse
    rw [hs, Spelling.text, scheme?_append h.head h.scheme]
    change (if isFile p.lower then _ else if isSpecial p.lower then _ else _) = _
    rw [h.noFile]
    have hslashes := h.slashes
    cases hspecial : isSpecial p.lower with
    | true =>
      rw [hspecial] at hslashes
      -- no slash of the authority is taken for one in front of it
      have hhead : ∀ c ∈ (p.authority ++ p.rest).head?, isSlash true c = false := by
        intro c hc
        cases haround : p.authority with
        | nil => exact absurd haround h.authority_ne_nil
        | cons a r =>
          rw [haround] at hc
          obtain rfl : a = c := Option.some.inj hc
          have hends := h.authority a (haround ▸ List.mem_cons_self)
          rw [hspecial] at hends
          exact (Bool.or_eq_false_iff.mp (Bool.or_eq_false_iff.mp hends).1).1
      have hdrop := dropWhile_append_rest hslashes hhead
      simp only [hdrop]
      rfl
    | false =>
      rw [hspecial] at hslashes
      change p.slashes = _ at hslashes
      rw [hslashes]
      rfl
  rw [hread]
  exact withAuthority_append h.authority h.rest (split_of_noAt h.noAt) h.place

lemma exists_of_withAuthority {v : List Char} (hhead : v.head?.any Char.isAlpha = true)
    (hv : ∀ c ∈ v, isSchemeChar c = true) (hfile : isFile (v.map Char.toLower) = false)
    (slashes : List Char)
    (hslashes : if isSpecial (v.map Char.toLower) then ∀ c ∈ slashes, isSlash true c = true
      else slashes = "//".toList)
    (h : withAuthority (v.map Char.toLower) t = .ok u) (hhost : u.host ≠ none) :
    ∃ p : Spelling, p.IsSound ∧ p.text = v ++ ':' :: (slashes ++ t) := by
  let ends : Char → Bool := endsAuthority (isSpecial (v.map Char.toLower))
  have ht : t.takeWhile (!ends ·) ++ t.dropWhile (!ends ·) = t := List.takeWhile_append_dropWhile
  have haround : ∀ c ∈ t.takeWhile (!ends ·), ends c = false := by
    intro c hc
    simpa using List.mem_takeWhile_imp hc
  have hrest : ∀ c ∈ (t.dropWhile (!ends ·)).head?, ends c = true := by
    intro c hc
    have hends := List.head?_dropWhile_not (!ends ·) t
    rw [hc] at hends
    simpa using hends
  obtain ⟨user, place, hsplit, hplace⟩ := exists_user (t.takeWhile (!ends ·))
  let p : Spelling := ⟨v, slashes, user, place, t.dropWhile (!ends ·)⟩
  have hp : p.authority = t.takeWhile (!ends ·) := hsplit.symm
  have hne : place ≠ [] := by
    rintro rfl
    have hpair := split_of_noAt (p := p) hplace
    rw [hp] at hpair
    rw [← ht] at h
    exact hhost (host_of_place_eq_nil haround hrest hpair h)
  refine ⟨p, ⟨hhead, hv, hfile, hslashes, hp ▸ haround, hne, hplace, hrest⟩, ?_⟩
  unfold Spelling.text
  rw [hp, ht]

lemma scheme_of_file (h : Url.file s = .ok u) : u.scheme = "file".toList := by
  unfold Url.file at h
  simp only [bind, Except.bind] at h
  repeat' split at h
  all_goals cases h
  all_goals rfl

/-- Every URL that has a place for a user is read from a sound spelling. -/
lemma exists_of_parse (h : Url.parse s = .ok u) (hu : u.allowsCredentials = true) :
    ∃ p : Spelling, p.IsSound ∧ clean s = p.text := by
  unfold allowsCredentials at hu
  rw [Bool.and_eq_true, Bool.not_eq_true'] at hu
  obtain ⟨hfile, hhost⟩ := hu
  have hhost : u.host ≠ none := by
    intro hnone
    rw [hnone] at hhost
    cases hhost
  unfold Url.parse at h
  split at h
  next => cases h
  next scheme t hscheme =>
    obtain ⟨v, hclean, rfl, hhead, hv⟩ := scheme?_eq_some hscheme
    rw [hclean]
    split at h
    next hisFile =>
      rw [scheme_of_file h] at hfile
      cases hfile
    next hisFile =>
      have hisFile : isFile (v.map Char.toLower) = false := eq_false_of_ne_true hisFile
      split at h
      next hspecial =>
        obtain ⟨p, hp, htext⟩ := exists_of_withAuthority hhead hv hisFile
          (t.takeWhile (isSlash true)) (by
            rw [if_pos hspecial]
            exact fun c => List.mem_takeWhile_imp) h hhost
        refine ⟨p, hp, ?_⟩
        rw [htext, List.takeWhile_append_dropWhile]
      next hspecial =>
        split at h
        next r =>
          obtain ⟨p, hp, htext⟩ := exists_of_withAuthority hhead hv hisFile
            "//".toList (by rw [if_neg hspecial]) h hhost
          exact ⟨p, hp, htext.symm⟩
        next =>
          cases h
          exact absurd rfl hhost

end Spelling

end MetricAgent.Url
