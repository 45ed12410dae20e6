import MetricAgent.Proofs.Url.Spelling

/-!
URLs that are written and read again. Port, path, query and fragment come back as they were; the
host is read from its own text.
-/

namespace MetricAgent.Url

open Decimal Text

variable {special : Bool} {scheme place rest s t : List Char} {ss above : List (List Char)}
  {c mark : Char} {host : Host} {u : Url}

/-! ### Ports -/

lemma of_readPort {n : Nat} (h : readPort scheme s = .ok (some n, t)) :
    n < 65536 ∧ some n ≠ defaultPort scheme := by
  unfold readPort at h
  split at h
  next s =>
    simp only at h
    split at h
    next => cases h
    next hsmall =>
      simp only [Bool.or_eq_true, decide_eq_true_eq, not_or, Nat.not_le] at hsmall
      obtain ⟨hn, -⟩ := Prod.mk.inj (Except.ok.inj h)
      cases hds : (s.takeWhile Char.isDigit).isEmpty with
      | true => simp [hds] at hn
      | false =>
        simp only [hds, Bool.false_eq_true, if_false] at hn
        split at hn
        next => cases hn
        next hdefault =>
          cases hn
          exact ⟨hsmall.1, hdefault⟩
  next => cases h

lemma readPort_marked {port : Option Nat}
    (h : ∀ n ∈ port, n < 65536 ∧ some n ≠ defaultPort scheme) :
    readPort scheme (marked ':' (port.map digits)) = .ok (port, []) := by
  cases port with
  | none => rfl
  | some n =>
    obtain ⟨hsmall, hdefault⟩ := h n rfl
    have htake : (digits n).takeWhile Char.isDigit = digits n :=
      List.takeWhile_eq_self_iff.mpr fun c => isDigit_of_mem_digits
    have hdrop : (digits n).dropWhile Char.isDigit = [] :=
      List.dropWhile_eq_nil_iff.mpr fun c => isDigit_of_mem_digits
    change readPort scheme (':' :: digits n) = _
    unfold readPort
    simp [htake, hdrop, hdefault, digits_ne_nil, Nat.not_le.mpr hsmall]

/-! ### Queries and fragments -/

lemma splitAt?_marked (h : mark ∉ s) (o : Option (List Char)) :
    splitAt? mark (s ++ marked mark o) = (s, o) := by
  have hmark : ∀ c ∈ (marked mark o).head?, c = mark := by
    cases o with
    | none => nofun
    | some v =>
      rintro c ⟨⟩
      rfl
  unfold splitAt?
  rw [takeWhile_ne_append h hmark, dropWhile_ne_append h hmark]
  cases o <;> rfl

/-- The characters that are encoded in a query. -/
def querySet (special : Bool) : Char → Bool := if special then inSpecialQuery else inQuery

lemma inQuery_of_querySet (h : querySet special c = false) : inQuery c = false := by
  cases special with
  | false => exact h
  | true => exact (Bool.or_eq_false_iff.mp h).1

lemma leavesBytes_querySet (special : Bool) : LeavesBytes (querySet special) := by
  cases special <;> decide

lemma splitTail_marked {query fragment : Option (List Char)} (hs : ∀ c ∈ s, c ≠ '?' ∧ c ≠ '#')
    (hquery : ∀ q ∈ query, ∀ c ∈ q, querySet special c = false)
    (hfragment : ∀ f ∈ fragment, ∀ c ∈ f, inFragment c = false) :
    splitTail special (s ++ marked '?' query ++ marked '#' fragment) = (s, query, fragment) := by
  have hquestion : '?' ∉ s := fun h => (hs _ h).1 rfl
  have hhash : '#' ∉ s ++ marked '?' query := by
    rw [List.mem_append]
    rintro (h | h)
    · exact (hs _ h).2 rfl
    · cases query with
      | none => cases h
      | some q =>
        rcases List.mem_cons.mp h with h | h
        · cases h
        · exact absurd (inQuery_of_querySet (hquery q rfl _ h)) (by decide)
  have hencoded {set : Char → Bool} {o : Option (List Char)} (h : ∀ q ∈ o, ∀ c ∈ q, set c = false) :
      o.map (percentEncode set) = o := by
    cases o with
    | none => rfl
    | some q => exact congrArg some (percentEncode_of_plain (h q rfl))
  unfold splitTail
  simp only [splitAt?_marked hhash, splitAt?_marked hquestion]
  exact congrArg _ (Prod.ext (hencoded hquery) (hencoded hfragment))

/-! ### Paths -/

/-- A segment of a path: it is encoded, holds no slash and does not stand for another one. -/
structure IsSegment (special : Bool) (s : List Char) : Prop where
  encoded : ∀ c ∈ s, inPath c = false
  noSlash : ∀ c ∈ s, isSlash special c = false
  notHere : isHere s = false
  notAbove : isAbove s = false

lemma isSegment_nil (special : Bool) : IsSegment special [] := ⟨nofun, nofun, rfl, rfl⟩

/-- A path of segments, at least one in a special URL. -/
structure IsPath (special : Bool) (ss : List (List Char)) : Prop where
  ne_nil : special = true → ss ≠ []
  segment : ∀ s ∈ ss, IsSegment special s

lemma resolveFrom_ne_nil (h : ss ≠ []) : resolveFrom above ss ≠ [] := by
  fun_induction resolveFrom above ss
  case case1 => exact absurd rfl h
  case case2 =>
    rw [Ne, List.reverse_eq_nil_iff]
    split
    · exact List.cons_ne_nil _ _
    · split <;> exact List.cons_ne_nil _ _
  case case3 hr ih => exact ih hr

lemma of_mem_resolveFrom (h : s ∈ resolveFrom above ss) :
    s ∈ above ∨ s = [] ∨ (s ∈ ss ∧ isHere s = false ∧ isAbove s = false) := by
  fun_induction resolveFrom above ss
  case case1 => exact .inl (List.mem_reverse.mp h)
  case case2 above t =>
    rw [List.mem_reverse] at h
    split at h
    next =>
      rcases List.mem_cons.mp h with h | h
      · exact .inr (.inl h)
      · exact .inl (List.mem_of_mem_drop h)
    next habove =>
      split at h
      next =>
        rcases List.mem_cons.mp h with h | h
        · exact .inr (.inl h)
        · exact .inl h
      next hhere =>
        rcases List.mem_cons.mp h with rfl | h
        · exact .inr (.inr ⟨List.mem_cons_self, eq_false_of_ne_true hhere,
            eq_false_of_ne_true habove⟩)
        · exact .inl h
  case case3 above t r hr ih =>
    rcases ih h with h | h | ⟨h, hplain⟩
    · split at h
      next => exact .inl (List.mem_of_mem_drop h)
      next habove =>
        split at h
        next => exact .inl h
        next hhere =>
          rcases List.mem_cons.mp h with rfl | h
          · exact .inr (.inr ⟨List.mem_cons_self, eq_false_of_ne_true hhere,
              eq_false_of_ne_true habove⟩)
          · exact .inl h
    · exact .inr (.inl h)
    · exact .inr (.inr ⟨List.mem_cons_of_mem t h, hplain⟩)

lemma resolveFrom_of_plain (h : ∀ s ∈ ss, isHere s = false ∧ isAbove s = false) :
    resolveFrom above ss = above.reverse ++ ss := by
  fun_induction resolveFrom above ss
  case case1 => simp
  case case2 t =>
    obtain ⟨hhere, habove⟩ := h t List.mem_cons_self
    simp [hhere, habove]
  case case3 t r hr ih =>
    obtain ⟨⟨hhere, habove⟩, hlater⟩ := List.forall_mem_cons.mp h
    rw [habove, hhere] at ih ⊢
    simpa using ih hlater

lemma isPath_hierarchicalPath (special : Bool) (s : List Char) :
    ∃ ss, hierarchicalPath special s = .segments ss ∧ IsPath special ss := by
  have hsegments (s : List Char) : IsPath special (segments special s) := by
    have hne : (splitSlashes special s).map (percentEncode inPath) ≠ [] :=
      mt List.map_eq_nil_iff.mp (splitOn_ne_nil _ _)
    refine ⟨fun _ => resolveFrom_ne_nil hne, fun t ht => ?_⟩
    obtain ht | rfl | ⟨ht, hhere, habove⟩ := of_mem_resolveFrom ht
    · cases ht
    · exact isSegment_nil special
    · obtain ⟨p, hp, rfl⟩ := List.mem_map.mp ht
      have hbytes : ∀ n < 16, isSlash special (hexDigit n) = false := by
        cases special <;> decide
      refine ⟨fun c => of_mem_encoded (by decide), fun c hc => ?_, hhere, habove⟩
      obtain ⟨hc, -⟩ | rfl | ⟨n, hn, rfl⟩ := of_mem_percentEncode hc
      · obtain ⟨hmap, hne⟩ := of_mem_splitOn hp c hc
        obtain ⟨d, -, hd⟩ := List.mem_map.mp hmap
        split at hd
        next => exact absurd hd.symm hne
        next hslash => exact hd ▸ eq_false_of_ne_true hslash
      · cases special <;> rfl
      · exact hbytes n hn
  unfold hierarchicalPath
  split
  next c r => exact ⟨_, rfl, hsegments _⟩
  next =>
    refine ⟨_, rfl, ?_⟩
    cases special with
    | true => exact ⟨fun _ => List.cons_ne_nil _ _, by simpa using isSegment_nil true⟩
    | false => exact ⟨nofun, nofun⟩

lemma splitSlashes_of_segments {r : List (List Char)} (hs : IsSegment special s)
    (hr : ∀ t ∈ r, IsSegment special t) :
    splitSlashes special (s ++ r.flatMap ('/' :: ·)) = s :: r := by
  have hslash : isSlash special '/' = true := rfl
  have hid {t : List Char} (ht : IsSegment special t) :
      (t.map fun c => if isSlash special c then '/' else c) = t := by
    refine (List.map_congr_left fun c hc => ?_).trans (List.map_id t)
    rw [ht.noSlash c hc]
    rfl
  have hnot {t : List Char} (ht : IsSegment special t) : '/' ∉ t := fun hmem => by
    have := ht.noSlash _ hmem
    cases this
  unfold splitSlashes
  induction r generalizing s with
  | nil =>
    rw [List.flatMap_nil, List.append_nil, hid hs]
    exact splitOn_of_notMem (hnot hs)
  | cons t r ih =>
    obtain ⟨ht, hr⟩ := List.forall_mem_cons.mp hr
    rw [List.flatMap_cons, List.map_append, hid hs, List.cons_append, List.map_cons,
      if_pos hslash, splitOn_append_cons (hnot hs), ih ht hr]

lemma hierarchicalPath_text (h : IsPath special ss) :
    hierarchicalPath special (Path.segments ss).text = .segments ss := by
  cases ss with
  | nil =>
    cases special with
    | true => exact absurd rfl (h.ne_nil rfl)
    | false => rfl
  | cons s r =>
    obtain ⟨hs, hr⟩ := List.forall_mem_cons.mp h.segment
    have hslash : isSlash special '/' = true := rfl
    have hencode : (s :: r).map (percentEncode inPath) = s :: r := by
      refine (List.map_congr_left fun t ht => ?_).trans (List.map_id _)
      exact percentEncode_of_plain (h.segment t ht).encoded
    have htext : (Path.segments (s :: r)).text = '/' :: (s ++ r.flatMap ('/' :: ·)) := by
      rw [Path.text, List.flatMap_cons, List.cons_append]
    rw [htext, hierarchicalPath, if_pos hslash, segments, splitSlashes_of_segments hs hr, hencode]
    rw [resolveFrom_of_plain fun t ht => ⟨(h.segment t ht).notHere, (h.segment t ht).notAbove⟩]
    rfl

lemma of_mem_pathText (h : IsPath special ss) (hc : c ∈ (Path.segments ss).text) :
    c = '/' ∨ inPath c = false := by
  obtain ⟨t, ht, hc⟩ := List.mem_flatMap.mp hc
  rcases List.mem_cons.mp hc with rfl | hc
  · exact .inl rfl
  · exact .inr ((h.segment t ht).encoded c hc)

/-! ### Whole URLs -/

lemma ofPlace_eq_ok {user : List Char × Option (List Char)}
    (h : ofPlace scheme place rest user = .ok u) :
    ∃ (hostText afterHost afterPort : List Char) (host : Host) (port : Option Nat),
      hostText ≠ [] ∧ readHost (isSpecial scheme) hostText = .ok host ∧
        readPort scheme afterHost = .ok (port, afterPort) ∧
        u =
          { scheme, username := user.1, password := user.2, host := some host, port
            path := hierarchicalPath (isSpecial scheme)
              (splitTail (isSpecial scheme) (afterPort ++ rest)).1
            query := (splitTail (isSpecial scheme) (afterPort ++ rest)).2.1
            fragment := (splitTail (isSpecial scheme) (afterPort ++ rest)).2.2 } := by
  unfold ofPlace at h
  generalize spanHost false place = cut at h
  obtain ⟨hostText, afterHost⟩ := cut
  simp only [bind, Except.bind] at h
  split at h
  next => cases h
  next hne =>
    cases hhost : readHost (isSpecial scheme) hostText with
    | error e =>
      rw [hhost] at h
      cases h
    | ok host =>
      cases hport : readPort scheme afterHost with
      | error e =>
        rw [hhost, hport] at h
        cases h
      | ok p =>
        rw [hhost, hport] at h
        cases h
        exact ⟨hostText, afterHost, p.2, host, p.1, mt List.isEmpty_iff.mpr hne, hhost, hport, rfl⟩

lemma of_splitTail (special : Bool) (s : List Char) :
    (∀ q ∈ (splitTail special s).2.1, ∀ c ∈ q, querySet special c = false) ∧
      ∀ f ∈ (splitTail special s).2.2, ∀ c ∈ f, inFragment c = false := by
  have hencoded {set : Char → Bool} (hset : LeavesBytes set) {o : Option (List Char)} :
      ∀ q ∈ o.map (percentEncode set), ∀ c ∈ q, set c = false := by
    intro q hq c hc
    obtain ⟨v, -, rfl⟩ := Option.map_eq_some_iff.mp hq
    exact of_mem_encoded hset hc
  exact ⟨hencoded (leavesBytes_querySet special), hencoded (by decide)⟩

/-- The form in which URLs with a host are kept. -/
structure IsNormal (u : Url) (host : Host) (ss : List (List Char)) : Prop where
  head : u.scheme.head?.any Char.isAlpha = true
  scheme : ∀ c ∈ u.scheme, isSchemeChar c = true
  lower : u.scheme.map Char.toLower = u.scheme
  noFile : isFile u.scheme = false
  hasHost : u.host = some host
  hostText : IsHostText host.text
  named : host.text ≠ []
  port : ∀ n ∈ u.port, n < 65536 ∧ some n ≠ defaultPort u.scheme
  path : u.path = .segments ss
  isPath : IsPath (isSpecial u.scheme) ss
  query : ∀ q ∈ u.query, ∀ c ∈ q, querySet (isSpecial u.scheme) c = false
  fragment : ∀ f ∈ u.fragment, ∀ c ∈ f, inFragment c = false

lemma isSchemeChar_toLower (h : isSchemeChar c = true) : isSchemeChar c.toLower = true := by
  cases hupper : c.isUpper with
  | false => rwa [Char.toLower_eq_of_not_isUpper (by simp [hupper])]
  | true =>
    have halpha : c.toLower.isAlpha = true := by
      rw [Char.isAlpha_toLower_eq_isAlpha, Char.isAlpha, hupper, Bool.true_or]
    simp [isSchemeChar, Char.isAlphanum, halpha]

lemma exists_isNormal (h : parse s = .ok u) (hu : u.allowsCredentials = true) :
    ∃ host ss, IsNormal u host ss := by
  obtain ⟨p, hp, hclean⟩ := Spelling.exists_of_parse h hu
  rw [hp.parse hclean] at h
  obtain ⟨hostText, afterHost, afterPort, host, port, hne, hhost, hport, rfl⟩ := ofPlace_eq_ok h
  obtain ⟨ss, hpath, hss⟩ := isPath_hierarchicalPath (isSpecial p.lower)
    (splitTail (isSpecial p.lower) (afterPort ++ p.rest)).1
  obtain ⟨hquery, hfragment⟩ := of_splitTail (isSpecial p.lower) (afterPort ++ p.rest)
  have hhead : p.lower.head?.any Char.isAlpha = true := by
    have hhead := hp.head
    unfold Spelling.lower
    cases hscheme : p.scheme with
    | nil => simp [hscheme] at hhead
    | cons c r =>
      rw [hscheme] at hhead
      simpa using hhead
  refine ⟨host, ss, hhead, ?_, ?_, hp.noFile, rfl, isHostText_of_readHost hhost,
    text_ne_nil_of_readHost hne hhost, ?_, hpath, hss, hquery, hfragment⟩
  · intro c hc
    obtain ⟨d, hd, rfl⟩ := List.mem_map.mp hc
    exact isSchemeChar_toLower (hp.scheme d hd)
  · simp [Spelling.lower]
  · rintro n rfl
    exact of_readPort hport

/-- The spelling in which a URL without a user is written. -/
def written (u : Url) (host : Host) : Spelling :=
  ⟨u.scheme, "//".toList, none, host.text ++ marked ':' (u.port.map digits),
    u.target ++ marked '#' u.fragment⟩

lemma of_isPlaceChar (special : Bool) (h : isPlaceChar c = true ∨ c = ':' ∨ c = '[' ∨ c = ']') :
    isEdge c = false ∧ c ≠ '@' ∧ endsAuthority special c = false := by
  rcases h with h | rfl | rfl | rfl
  · have hne {d : Char} (hd : d ∈ placeMarks) : c ≠ d := ne_of_isPlaceChar h hd
    have hslash : c ≠ '/' := hne (by decide)
    have hback : c ≠ '\\' := hne (by decide)
    have hquestion : c ≠ '?' := hne (by decide)
    have hhash : c ≠ '#' := hne (by decide)
    refine ⟨(isPlaceChar_eq_true.mp h).1, hne (by decide), ?_⟩
    simp [endsAuthority, isSlash, hslash, hback, hquestion, hhash]
  all_goals cases special <;> decide

lemma of_mem_place {n : Option Nat} (hhost : IsHostText host.text)
    (h : c ∈ host.text ++ marked ':' (n.map digits)) :
    isPlaceChar c = true ∨ c = ':' ∨ c = '[' ∨ c = ']' := by
  rcases List.mem_append.mp h with h | h
  · exact hhost.chars c h
  · cases n with
    | none => cases h
    | some n =>
      rcases List.mem_cons.mp h with h | h
      · exact .inr (.inl h)
      · refine .inl (isPlaceChar_of_isAlphanum ?_)
        simp [Char.isAlphanum, isDigit_of_mem_digits h]

lemma isSound_written (h : IsNormal u host ss) : (u.written host).IsSound := by
  have hlower : (u.written host).lower = u.scheme := h.lower
  have hplace (c : Char) (hc : c ∈ (u.written host).place) :=
    of_isPlaceChar (isSpecial u.scheme) (of_mem_place h.hostText hc)
  refine ⟨h.head, h.scheme, hlower ▸ h.noFile, ?_, ?_, ?_, fun hat => (hplace _ hat).2.1 rfl, ?_⟩
  · split
    · exact List.all_eq_true.mp (show "//".toList.all (isSlash true) = true by decide)
    · rfl
  · rw [hlower]
    exact fun c hc => (hplace c hc).2.2
  · exact fun hnil => h.named (List.append_eq_nil_iff.mp hnil).1
  · rw [hlower]
    have hslash : endsAuthority (isSpecial u.scheme) '/' = true := rfl
    have hquestion : endsAuthority (isSpecial u.scheme) '?' = true := by
      cases isSpecial u.scheme <;> rfl
    have hhash : endsAuthority (isSpecial u.scheme) '#' = true := by
      cases isSpecial u.scheme <;> rfl
    -- the first of path, query and fragment that is there ends the authority
    change ∀ c ∈ (u.path.text ++ marked '?' u.query ++ marked '#' u.fragment).head?, _
    rw [h.path]
    cases ss with
    | cons s r => rintro c ⟨⟩; exact hslash
    | nil =>
      cases u.query with
      | some q => rintro c ⟨⟩; exact hquestion
      | none =>
        cases u.fragment with
        | some f => rintro c ⟨⟩; exact hhash
        | none => nofun

lemma text_written (h : IsNormal u host ss) :
    (u.written host).text = u.withoutCredentials.chars := by
  have hhost : u.withoutCredentials.host = some host := h.hasHost
  have hauthority : u.withoutCredentials.authorityText =
      "//".toList ++ host.text ++ marked ':' (u.port.map digits) := by
    rw [authorityText, hhost]
    rfl
  unfold Spelling.text chars
  rw [hauthority]
  simp [written, Spelling.authority, withoutCredentials, target]

lemma isEdge_of_isSchemeChar (h : isSchemeChar c = true) : isEdge c = false := by
  simp only [isSchemeChar, Bool.or_eq_true, decide_eq_true_eq] at h
  obtain ((h | rfl) | rfl) | rfl := h
  · exact (isPlaceChar_eq_true.mp (isPlaceChar_of_isAlphanum h)).1
  all_goals decide

lemma clean_written (h : IsNormal u host ss) :
    clean u.withoutCredentials.chars = (u.written host).text := by
  rw [← text_written h]
  refine clean_of_noEdge fun c hc => ?_
  have hmarked {mark : Char} {set : Char → Bool} {o : Option (List Char)}
      (hmark : isEdge mark = false)
      (hset : ∀ {c}, set c = false → isEdge c = false) (ho : ∀ q ∈ o, ∀ c ∈ q, set c = false)
      (hc : c ∈ marked mark o) : isEdge c = false := by
    cases o with
    | none => cases hc
    | some q =>
      rcases List.mem_cons.mp hc with rfl | hc
      · exact hmark
      · exact hset (ho q rfl c hc)
  have hslashes : "//".toList.all (!isEdge ·) = true := by decide
  change c ∈ u.scheme ++ ':' :: ("//".toList ++ ((host.text ++ marked ':' (u.port.map digits)) ++
    (u.target ++ marked '#' u.fragment))) at hc
  rw [target, h.path] at hc
  rcases List.mem_append.mp hc with hc | hc
  · exact isEdge_of_isSchemeChar (h.scheme c hc)
  rcases List.mem_cons.mp hc with rfl | hc
  · rfl
  rcases List.mem_append.mp hc with hc | hc
  · simpa using List.all_eq_true.mp hslashes c hc
  rcases List.mem_append.mp hc with hc | hc
  · exact (of_isPlaceChar true (of_mem_place h.hostText hc)).1
  rcases List.mem_append.mp hc with hc | hc
  · rcases List.mem_append.mp hc with hc | hc
    · rcases of_mem_pathText h.isPath hc with rfl | hc
      · rfl
      · exact isEdge_of_inFragment (Bool.or_eq_false_iff.mp hc).1
    · exact hmarked rfl (fun hc => isEdge_of_inQuery (inQuery_of_querySet hc)) h.query hc
  · exact hmarked rfl isEdge_of_inFragment h.fragment hc

/-- Read again, a URL without its user is what its host is read as, and the same otherwise. -/
lemma parse_withoutCredentials (h : IsNormal u host ss) :
    parse u.withoutCredentials.chars = (readHost (isSpecial u.scheme) host.text).map fun host =>
      { u.withoutCredentials with host := some host } := by
  have hlower : (u.written host).lower = u.scheme := h.lower
  have hspan : spanHost false (host.text ++ marked ':' (u.port.map digits)) =
      (host.text, marked ':' (u.port.map digits)) := by
    refine h.hostText.span _ ?_
    cases u.port with
    | none => nofun
    | some n => rintro c ⟨⟩; rfl
  have htail : splitTail (isSpecial u.scheme) (u.target ++ marked '#' u.fragment) =
      (u.path.text, u.query, u.fragment) := by
    refine splitTail_marked (fun c hc => ?_) h.query h.fragment
    rw [h.path] at hc
    rcases of_mem_pathText h.isPath hc with rfl | hc
    · decide
    · constructor <;> rintro rfl <;> exact absurd hc (by decide)
  have hpath : hierarchicalPath (isSpecial u.scheme) u.path.text = u.path := by
    rw [h.path]
    exact hierarchicalPath_text h.isPath
  rw [(isSound_written h).parse (clean_written h), hlower]
  change ofPlace u.scheme (host.text ++ marked ':' (u.port.map digits))
    (u.target ++ marked '#' u.fragment) ([], none) = _
  have hnamed : host.text.isEmpty = false := by simpa using h.named
  unfold ofPlace
  rw [hspan]
  simp only [hnamed, readPort_marked h.port, bind, Except.bind]
  cases readHost (isSpecial u.scheme) host.text with
  | error e => rfl
  | ok host =>
    simp only [List.nil_append, htail, hpath]
    rfl

end MetricAgent.Url
