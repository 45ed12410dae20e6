import Mathlib
import MetricAgent.Proofs.Decimal.Digits
import MetricAgent.Proofs.Text.Fields
import MetricAgent.Url.Basic

/-!
The characters of the parts of a URL. What is encoded needs no further encoding, and the text of a
host holds nothing that ends it or that is left out when it is read.
-/

namespace MetricAgent.Url

open Decimal Text

variable {set : Char → Bool} {special : Bool} {c : Char} {s t : List Char} {host : Host}

/-! ### Encoded texts -/

lemma utf8EncodeChar_ne_nil (c : Char) : String.utf8EncodeChar c ≠ [] := by
  refine List.ne_nil_of_length_pos ?_
  rw [String.length_utf8EncodeChar]
  exact c.utf8Size_pos

lemma encodeChar_ne_nil (c : Char) : encodeChar c ≠ [] := by
  cases h : String.utf8EncodeChar c with
  | nil => exact absurd h (utf8EncodeChar_ne_nil c)
  | cons b bs => simp [encodeChar, h, encodeByte]

lemma percentEncode_cons (set : Char → Bool) (c : Char) (s : List Char) :
    percentEncode set (c :: s) = (if set c then encodeChar c else [c]) ++ percentEncode set s := by
  rw [percentEncode, List.flatMap_cons]
  rfl

lemma percentEncode_eq_nil {set : Char → Bool} : percentEncode set s = [] ↔ s = [] := by
  cases s with
  | nil => exact iff_of_true rfl rfl
  | cons c s =>
    rw [percentEncode_cons]
    split <;> simp [encodeChar_ne_nil]

/-- Encoded bytes are written with characters outside the set. -/
def LeavesBytes (set : Char → Bool) : Prop := set '%' = false ∧ ∀ n < 16, set (hexDigit n) = false

instance (set : Char → Bool) : Decidable (LeavesBytes set) :=
  inferInstanceAs (Decidable (_ ∧ _))

lemma of_mem_encodeByte {b : UInt8} (h : c ∈ encodeByte b) :
    c = '%' ∨ ∃ n < 16, c = hexDigit n := by
  have hb := b.toNat_lt
  simp only [encodeByte, List.mem_cons, List.not_mem_nil, or_false] at h
  rcases h with rfl | rfl | rfl
  · exact .inl rfl
  · exact .inr ⟨_, by omega, rfl⟩
  · exact .inr ⟨_, by omega, rfl⟩

lemma of_mem_percentEncode (h : c ∈ percentEncode set s) :
    (c ∈ s ∧ set c = false) ∨ c = '%' ∨ ∃ n < 16, c = hexDigit n := by
  obtain ⟨d, hd, hc⟩ := List.mem_flatMap.mp h
  split at hc
  next =>
    obtain ⟨b, -, hb⟩ := List.mem_flatMap.mp hc
    exact .inr (of_mem_encodeByte hb)
  next hset =>
    obtain rfl := List.mem_singleton.mp hc
    exact .inl ⟨hd, eq_false_of_ne_true hset⟩

lemma of_mem_encoded (hset : LeavesBytes set) (h : c ∈ percentEncode set s) : set c = false := by
  obtain ⟨-, hc⟩ | rfl | ⟨n, hn, rfl⟩ := of_mem_percentEncode h
  · exact hc
  · exact hset.1
  · exact hset.2 n hn

lemma percentEncode_of_plain (h : ∀ c ∈ s, set c = false) : percentEncode set s = s := by
  induction s with
  | nil => rfl
  | cons c s ih =>
    obtain ⟨hc, hs⟩ := List.forall_mem_cons.mp h
    have ih := ih hs
    unfold percentEncode at ih ⊢
    rw [List.flatMap_cons, hc, ih]
    rfl

lemma toNat_ne {c d : Char} (h : c ≠ d) : c.toNat ≠ d.toNat := fun he => h (Char.toNat_inj.mp he)

lemma isEdge_eq_false (hc : isControl c = false) (hspace : c ≠ ' ') : isEdge c = false := by
  have hne : c.toNat ≠ 0x20 := toNat_ne hspace
  unfold isControl at hc
  unfold isEdge
  simp only [Bool.or_eq_false_iff, decide_eq_false_iff_not] at hc ⊢
  omega

lemma isEdge_of_inFragment (h : inFragment c = false) : isEdge c = false := by
  unfold inFragment at h
  obtain ⟨hc, hother⟩ := Bool.or_eq_false_iff.mp h
  exact isEdge_eq_false hc (by rintro rfl; simp at hother)

lemma isEdge_of_inQuery (h : inQuery c = false) : isEdge c = false := by
  unfold inQuery at h
  obtain ⟨hc, hother⟩ := Bool.or_eq_false_iff.mp h
  exact isEdge_eq_false hc (by rintro rfl; simp at hother)

lemma isIgnored_of_isEdge (h : isEdge c = false) : isIgnored c = false := by
  unfold isEdge at h
  unfold isIgnored
  have hlt : 0x20 < c.toNat := by simpa using h
  simp only [Bool.or_eq_false_iff, decide_eq_false_iff_not]
  refine ⟨⟨?_, ?_⟩, ?_⟩ <;> rintro rfl <;> exact absurd hlt (by decide)

lemma clean_of_noEdge (h : ∀ c ∈ s, isEdge c = false) : clean s = s := by
  have hdrop {t : List Char} (ht : ∀ c ∈ t, isEdge c = false) : t.dropWhile isEdge = t := by
    cases t with
    | nil => rfl
    | cons c t => exact List.dropWhile_cons_of_neg (by simp [ht c List.mem_cons_self])
  unfold clean
  rw [hdrop h, hdrop fun c hc => h c (List.mem_reverse.mp hc), List.reverse_reverse]
  exact List.filter_eq_self.mpr fun c hc => by simp [isIgnored_of_isEdge (h c hc)]

/-! ### Hosts -/

/-- The host of a URL, special or not. -/
def readHost (special : Bool) (s : List Char) : Except UrlError Host :=
  if special then specialHost s else opaqueHost s

lemma readHost_bind {α : Type} (special : Bool) (s : List Char) (k : Host → Except UrlError α) :
    (if special then specialHost s >>= k else opaqueHost s >>= k) = readHost special s >>= k := by
  cases special <;> rfl

/-- The hosts that can be read from a text. -/
inductive Host.IsReadFrom (s : List Char) : Host → Prop where
  | ipv6 (ps : List Nat) : IsReadFrom s (.ipv6 ps)
  | ipv4 (n : Nat) : IsReadFrom s (.ipv4 n)
  | domain {name : List Char} : name ≠ [] → (∀ c ∈ name, Domain.isForbidden c = false) →
      IsReadFrom s (.name name)
  | encoded : (∀ c ∈ s, isForbiddenHostChar c = false) →
      IsReadFrom s (.name (percentEncode isControl s))

lemma isReadFrom_of_bracketed (h : bracketed t = .ok host) : host.IsReadFrom s := by
  unfold bracketed at h
  split at h
  next inner ht =>
    cases hp : Ipv6.ofText? inner.reverse with
    | none =>
      rw [hp] at h
      cases h
    | some ps =>
      rw [hp] at h
      cases h
      exact .ipv6 ps
  next => cases h

lemma isForbidden_of_toAscii {name : List Char} (h : Domain.toAscii s = some name)
    (hc : c ∈ name) : Domain.isForbidden c = false := by
  simp only [Domain.toAscii, Option.bind_eq_bind, Option.bind_eq_some_iff] at h
  obtain ⟨mapped, -, labels, -, h⟩ := h
  split at h
  next => cases h
  next hnone =>
    cases h
    refine Bool.eq_false_iff.mpr fun hforbidden => hnone (Bool.or_eq_true_iff.mpr (.inl ?_))
    exact List.any_eq_true.mpr ⟨c, hc, hforbidden⟩

lemma isReadFrom_of_specialHost (h : specialHost s = .ok host) : host.IsReadFrom s := by
  unfold specialHost at h
  split at h
  next => exact isReadFrom_of_bracketed h
  next =>
    split at h
    next => cases h
    next name hname =>
      split at h
      next => cases h
      next hne =>
        split at h
        next =>
          cases hn : Ipv4.ofText? name with
          | none =>
            rw [hn] at h
            cases h
          | some n =>
            rw [hn] at h
            cases h
            exact .ipv4 n
        next =>
          cases h
          obtain ⟨decoded, -, hascii⟩ := Option.bind_eq_some_iff.mp hname
          exact .domain (mt List.isEmpty_iff.mpr hne) fun c => isForbidden_of_toAscii hascii

lemma isReadFrom_of_opaqueHost (h : opaqueHost s = .ok host) : host.IsReadFrom s := by
  unfold opaqueHost at h
  split at h
  next => exact isReadFrom_of_bracketed h
  next =>
    split at h
    next => cases h
    next hnone =>
      cases h
      refine .encoded fun c hc => eq_false_of_ne_true fun hforbidden => ?_
      exact hnone (List.any_eq_true.mpr ⟨c, hc, hforbidden⟩)

lemma isReadFrom_of_readHost (h : readHost special s = .ok host) : host.IsReadFrom s := by
  unfold readHost at h
  split at h
  · exact isReadFrom_of_specialHost h
  · exact isReadFrom_of_opaqueHost h

lemma ipv4_text_ne_nil (n : Nat) : Ipv4.text n ≠ [] := by
  simp [Ipv4.text, join]

lemma text_ne_nil_of_readHost (hs : s ≠ []) (h : readHost special s = .ok host) :
    host.text ≠ [] := by
  cases isReadFrom_of_readHost h with
  | ipv6 ps => exact List.cons_ne_nil _ _
  | ipv4 n => exact ipv4_text_ne_nil n
  | domain hne => exact hne
  | encoded => exact mt percentEncode_eq_nil.mp hs

/-! ### Texts of hosts -/

/-- The characters that mean something between two slashes and a path. -/
def placeMarks : List Char := ['#', '/', ':', '?', '@', '[', '\\', ']']

/-- A character that is kept in a host and means nothing there. -/
def isPlaceChar (c : Char) : Bool := !isEdge c && !placeMarks.contains c

lemma isPlaceChar_eq_true : isPlaceChar c = true ↔ isEdge c = false ∧ c ∉ placeMarks := by
  simp [isPlaceChar]

lemma ne_of_isPlaceChar {d : Char} (h : isPlaceChar c = true) (hd : d ∈ placeMarks) : c ≠ d := by
  rintro rfl
  exact (isPlaceChar_eq_true.mp h).2 hd

/-- The text of a host is read up to its end, and holds nothing that ends the part it stands in. -/
structure IsHostText (s : List Char) : Prop where
  chars : ∀ c ∈ s, isPlaceChar c = true ∨ c = ':' ∨ c = '[' ∨ c = ']'
  span : ∀ t : List Char, (∀ c ∈ t.head?, c = ':') → spanHost false (s ++ t) = (s, t)

lemma spanHost_of_head (h : ∀ c ∈ t.head?, c = ':') : spanHost false t = ([], t) := by
  cases t with
  | nil => rfl
  | cons c t =>
    obtain rfl := h c rfl
    rfl

lemma IsHostText.ofPlain (h : ∀ c ∈ s, isPlaceChar c = true) : IsHostText s where
  chars c hc := .inl (h c hc)
  span t ht := by
    induction s with
    | nil => exact spanHost_of_head ht
    | cons c s ih =>
      obtain ⟨hc, hs⟩ := List.forall_mem_cons.mp h
      have hcolon : c ≠ ':' := ne_of_isPlaceChar hc (by decide)
      have hopen : c ≠ '[' := ne_of_isPlaceChar hc (by decide)
      have hclose : c ≠ ']' := ne_of_isPlaceChar hc (by decide)
      have ih := ih hs
      simp [spanHost, hcolon, hopen, hclose, ih]

lemma spanHost_inside (h : ∀ c ∈ s, c ≠ '[' ∧ c ≠ ']') (t : List Char) :
    spanHost true (s ++ ']' :: t) = (s ++ ']' :: (spanHost false t).1, (spanHost false t).2) := by
  induction s with
  | nil => simp [spanHost]
  | cons c s ih =>
    obtain ⟨hc, hs⟩ := List.forall_mem_cons.mp h
    simp [spanHost, hc.1, hc.2, ih hs]

lemma IsHostText.ofBracketed (h : ∀ c ∈ s, isPlaceChar c = true ∨ c = ':') :
    IsHostText ('[' :: s ++ [']']) where
  chars c hc := by
    simp only [List.cons_append, List.mem_cons, List.mem_append, List.not_mem_nil, or_false] at hc
    rcases hc with rfl | hc | rfl
    · exact .inr (.inr (.inl rfl))
    · exact (h c hc).imp_right .inl
    · exact .inr (.inr (.inr rfl))
  span t ht := by
    have hinside : ∀ c ∈ s, c ≠ '[' ∧ c ≠ ']' := by
      intro c hc
      rcases h c hc with hplace | rfl
      · exact ⟨ne_of_isPlaceChar hplace (by decide), ne_of_isPlaceChar hplace (by decide)⟩
      · decide
    have htext : '[' :: s ++ [']'] ++ t = '[' :: (s ++ ']' :: t) := by simp
    rw [htext, spanHost]
    simp [spanHost_inside hinside, spanHost_of_head ht]

lemma isPlaceChar_of_isAlphanum (h : c.isAlphanum = true) : isPlaceChar c = true := by
  have hlow : 0x20 < c.toNat := by
    simp only [Char.isAlphanum, Char.isAlpha, Char.isUpper, Char.isLower, Char.isDigit,
      Bool.or_eq_true, Bool.and_eq_true, decide_eq_true_eq, ge_iff_le, UInt32.le_iff_toNat_le,
      Char.reduceVal, UInt32.reduceToNat, Char.toNat_val] at h
    omega
  have hmarks : placeMarks.all (!·.isAlphanum) = true := by decide
  refine isPlaceChar_eq_true.mpr ⟨decide_eq_false (Nat.not_le.mpr hlow), fun hc => ?_⟩
  have hother := List.all_eq_true.mp hmarks c hc
  rw [h] at hother
  cases hother

lemma mem_join {sep : Char} {ps : List (List Char)} (h : c ∈ join sep ps) :
    c = sep ∨ ∃ p ∈ ps, c ∈ p := by
  induction ps with
  | nil => cases h
  | cons p ps ih =>
    cases ps with
    | nil => exact .inr ⟨p, List.mem_cons_self, h⟩
    | cons q ps =>
      rw [join_cons sep p (List.cons_ne_nil q ps), List.mem_append, List.mem_cons] at h
      rcases h with h | rfl | h
      · exact .inr ⟨p, List.mem_cons_self, h⟩
      · exact .inl rfl
      · exact (ih h).imp_right fun ⟨r, hr, hc⟩ => ⟨r, List.mem_cons_of_mem p hr, hc⟩

lemma isAlphanum_of_mem_toDigits {n : Nat} (h : c ∈ Nat.toDigits 16 n) : c.isAlphanum = true := by
  have hdigit : ∀ d < 16, (Nat.digitChar d).isAlphanum = true := by decide
  obtain ⟨d, hd, rfl⟩ := exists_digit_of_mem_toDigits h
  exact hdigit d hd

lemma of_mem_piecesText {ps : List Nat} (h : c ∈ Ipv6.piecesText ps) :
    isPlaceChar c = true ∨ c = ':' := by
  rcases mem_join h with rfl | ⟨p, hp, hc⟩
  · exact .inr rfl
  · obtain ⟨n, -, rfl⟩ := List.mem_map.mp hp
    exact .inl (isPlaceChar_of_isAlphanum (isAlphanum_of_mem_toDigits hc))

lemma of_mem_ipv6_text {ps : List Nat} (h : c ∈ Ipv6.text ps) : isPlaceChar c = true ∨ c = ':' := by
  unfold Ipv6.text at h
  dsimp only at h
  split at h
  next => exact of_mem_piecesText h
  next =>
    simp only [List.mem_append, List.mem_cons] at h
    rcases h with h | rfl | rfl | h
    · exact of_mem_piecesText h
    · exact .inr rfl
    · exact .inr rfl
    · exact of_mem_piecesText h

lemma of_mem_ipv4_text {n : Nat} (h : c ∈ Ipv4.text n) : isPlaceChar c = true := by
  rcases mem_join h with rfl | ⟨p, hp, hc⟩
  · decide
  · obtain ⟨m, -, rfl⟩ := List.mem_map.mp hp
    refine isPlaceChar_of_isAlphanum ?_
    simp [Char.isAlphanum, isDigit_of_mem_digits hc]

lemma notMem_placeMarks {l : List Char} (hsub : placeMarks ⊆ l) (h : l.contains c = false) :
    c ∉ placeMarks := by
  intro hc
  rw [List.contains_iff_mem.mpr (hsub hc)] at h
  cases h

lemma isPlaceChar_of_isForbidden (h : Domain.isForbidden c = false) : isPlaceChar c = true := by
  obtain ⟨hlow, hmarks⟩ := Bool.or_eq_false_iff.mp h
  obtain ⟨hedge, -⟩ := Bool.or_eq_false_iff.mp hlow
  exact isPlaceChar_eq_true.mpr ⟨hedge, notMem_placeMarks (by decide) hmarks⟩

lemma isPlaceChar_of_hostChar (hcontrol : isControl c = false) (h : isForbiddenHostChar c = false) :
    isPlaceChar c = true := by
  have hspace : c ≠ ' ' := by
    rintro rfl
    exact absurd h (by decide)
  exact isPlaceChar_eq_true.mpr
    ⟨isEdge_eq_false hcontrol hspace, notMem_placeMarks (by decide) h⟩

lemma isHostText_of_readHost (h : readHost special s = .ok host) : IsHostText host.text := by
  cases isReadFrom_of_readHost h with
  | ipv6 ps => exact .ofBracketed fun c => of_mem_ipv6_text
  | ipv4 n => exact .ofPlain fun c => of_mem_ipv4_text
  | domain hne hname => exact .ofPlain fun c hc => isPlaceChar_of_isForbidden (hname c hc)
  | encoded hs =>
    refine .ofPlain fun c hc => ?_
    have hbytes : ∀ n < 16, isPlaceChar (hexDigit n) = true := by decide
    obtain ⟨hc, hcontrol⟩ | rfl | ⟨n, hn, rfl⟩ := of_mem_percentEncode hc
    · exact isPlaceChar_of_hostChar hcontrol (hs c hc)
    · decide
    · exact hbytes n hn

end MetricAgent.Url
