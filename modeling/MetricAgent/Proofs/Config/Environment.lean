import MetricAgent.Config.Environment
import MetricAgent.Proofs.Text.Fields

/-!
References to variables, as they are written. A text falls in one way only into literal characters
and references, so that no reference begins at a literal character; its expansion copies the
characters, puts in a value for each reference, and looks at no value again.
-/

namespace MetricAgent.Config

open Text

/-! ### Written references -/

namespace Reference

/-- What stands behind the name of a reference. -/
def tail : Option (List Char) → List Char
  | none => ['\x7d']
  | some d => ':' :: '-' :: d ++ ['\x7d']

/-- A reference as it is written. -/
def text (r : Reference) : List Char := '$' :: '\x7b' :: r.name ++ tail r.fallback

/-- The name is a word that does not begin with a digit, and no default holds a closing brace. -/
structure IsSound (r : Reference) : Prop where
  name : ∃ c w, r.name = c :: w ∧ isNameStart c = true ∧ ∀ d ∈ w, isNameRest d = true
  fallback : ∀ d ∈ r.fallback, '\x7d' ∉ d

/-- What a reference stands for: its variable if that is set, or else its default, or nothing. -/
def value (env : Environment) (r : Reference) : List Char :=
  (env (String.ofList r.name)).elim (r.fallback.getD []) String.toList

end Reference

/-- A reference begins here. -/
def Begins (s : List Char) : Prop := ∃ r : Reference, r.IsSound ∧ r.text <+: s

/-- No reference begins in a text that something follows. -/
def IsLiteral (t rest : List Char) : Prop := ∀ c u, c :: u <:+ t → ¬ Begins (c :: u ++ rest)

namespace Piece

/-- A piece as it is written. -/
def text : Piece → List Char
  | plain c => [c]
  | reference r => r.text

end Piece

/-- The pieces make up a text, and no reference begins at a literal character. -/
structure IsCut (s : List Char) (ps : List Piece) : Prop where
  text : ps.flatMap Piece.text = s
  sound : ∀ r, .reference r ∈ ps → r.IsSound
  literal : ∀ before c after, ps = before ++ .plain c :: after →
    ¬ Begins (c :: after.flatMap Piece.text)

variable {env : Environment} {r : Reference} {c : Char} {s rest : List Char} {ps : List Piece}

/-! ### Reading one reference -/

lemma fallback?_eq_some {f : Option (List Char)} :
    fallback? s = some (f, rest) ↔
      (∀ d ∈ f, '\x7d' ∉ d) ∧ s = Reference.tail f ++ rest := by
  constructor
  · intro h
    unfold fallback? at h
    split at h
    · cases h
      exact ⟨nofun, rfl⟩
    next t =>
      split at h
      · cases h
      next b u hu =>
        cases h
        have hsplit := List.takeWhile_append_dropWhile (p := fun c => decide (c ≠ '\x7d')) (l := t)
        have hb : b = '\x7d' := by
          have := List.head?_dropWhile_not (fun c => decide (c ≠ '\x7d')) t
          rw [hu] at this
          simpa using this
        refine ⟨fun d hd => ?_, ?_⟩
        · obtain rfl := Option.some.inj hd
          exact fun hmem => by simpa using List.mem_takeWhile_imp hmem
        · rw [hu, hb] at hsplit
          rw [Reference.tail, List.append_assoc]
          exact congrArg (fun t => ':' :: '-' :: t) hsplit.symm
    · cases h
  · rintro ⟨hf, rfl⟩
    cases f with
    | none => rfl
    | some d =>
      have hd : '\x7d' ∉ d := hf d rfl
      have hrest : ∀ c ∈ ('\x7d' :: rest).head?, c = '\x7d' := by simp
      have hs : Reference.tail (some d) ++ rest = ':' :: '-' :: (d ++ '\x7d' :: rest) := by
        simp [Reference.tail]
      rw [hs]
      simp only [fallback?]
      rw [dropWhile_ne_append hd hrest, takeWhile_ne_append hd hrest]

lemma Reference.isNameRest_tail (f : Option (List Char)) (rest : List Char) :
    ∀ c ∈ (Reference.tail f ++ rest).head?, isNameRest c = false := by
  intro c hc
  cases f with
  | none =>
    obtain rfl : '\x7d' = c := Option.some.inj hc
    decide
  | some d =>
    obtain rfl : ':' = c := Option.some.inj hc
    decide

lemma reference?_eq_some :
    reference? s = some (r, rest) ↔ r.IsSound ∧ '$' :: s = r.text ++ rest := by
  constructor
  · intro h
    unfold reference? at h
    split at h
    next c t =>
      split at h
      next hc =>
        obtain ⟨⟨f, u⟩, hf, he⟩ := Option.map_eq_some_iff.mp h
        cases he
        obtain ⟨hbrace, hu⟩ := fallback?_eq_some.mp hf
        refine ⟨⟨⟨c, _, rfl, hc, fun d hd => List.mem_takeWhile_imp hd⟩, hbrace⟩, ?_⟩
        have hsplit := List.takeWhile_append_dropWhile (p := isNameRest) (l := t)
        rw [hu] at hsplit
        simp [Reference.text, hsplit]
      next => cases h
    next => cases h
  · rintro ⟨⟨⟨c, w, hname, hc, hw⟩, hbrace⟩, hs⟩
    obtain ⟨name, f⟩ := r
    obtain rfl : name = c :: w := hname
    have htext : s = '\x7b' :: c :: (w ++ (Reference.tail f ++ rest)) := by
      simpa [Reference.text] using hs
    have hrest := Reference.isNameRest_tail f rest
    rw [htext]
    simp only [reference?, hc, if_true]
    rw [dropWhile_append_rest hw hrest, takeWhile_append_rest hw hrest,
      fallback?_eq_some.mpr ⟨hbrace, rfl⟩]
    rfl

lemma begins_iff : Begins s ↔ ∃ (r : Reference) (rest : List Char), r.IsSound ∧
    s = r.text ++ rest := by
  constructor
  · rintro ⟨r, hr, rest, rfl⟩
    exact ⟨r, rest, hr, rfl⟩
  · rintro ⟨r, rest, hr, rfl⟩
    exact ⟨r, hr, rest, rfl⟩

lemma begins_dollar : Begins ('$' :: s) ↔ (reference? s).isSome = true := by
  rw [begins_iff, Option.isSome_iff_exists, Prod.exists]
  simp only [reference?_eq_some]

lemma Begins.dollar (h : Begins (c :: s)) : c = '$' := by
  obtain ⟨r, rest, -, hs⟩ := begins_iff.mp h
  exact (List.cons.inj hs).1

lemma not_begins_nil : ¬ Begins [] := by
  rintro ⟨r, -, hr⟩
  cases List.prefix_nil.mp hr

instance (s : List Char) : Decidable (Begins s) :=
  match s with
  | [] => .isFalse not_begins_nil
  | c :: s =>
    if hc : c = '$' then decidable_of_iff _ (hc ▸ begins_dollar (s := s)).symm
    else .isFalse fun h => hc h.dollar

@[simp] lemma isLiteral_nil (s : List Char) : IsLiteral [] s := fun c u h => by
  cases List.suffix_nil.mp h

lemma isLiteral_cons {t : List Char} :
    IsLiteral (c :: t) s ↔ ¬ Begins (c :: t ++ s) ∧ IsLiteral t s := by
  constructor
  · exact fun h => ⟨h c t List.suffix_rfl, fun d u hu => h d u (hu.trans (List.suffix_cons c t))⟩
  · rintro ⟨hc, ht⟩ d u hu
    rcases List.suffix_cons_iff.mp hu with hu | hu
    · cases hu
      exact hc
    · exact ht d u hu

instance : (t s : List Char) → Decidable (IsLiteral t s)
  | [], s => .isTrue (isLiteral_nil s)
  | _ :: t, s =>
    have : Decidable (IsLiteral t s) := instDecidableIsLiteral t s
    decidable_of_iff _ isLiteral_cons.symm

/-! ### The cut of a text -/

lemma pieces_reference (hr : r.IsSound) (s : List Char) :
    pieces (r.text ++ s) = .reference r :: pieces s := by
  obtain ⟨t, ht⟩ : ∃ t, r.text ++ s = '$' :: t := ⟨_, rfl⟩
  have hread : reference? t = some (r, s) := reference?_eq_some.mpr ⟨hr, ht.symm⟩
  rw [ht, pieces, if_pos rfl]
  split
  next r' rest h =>
    rw [hread] at h
    cases h
    rfl
  next h =>
    rw [hread] at h
    cases h

lemma pieces_plain (h : ¬ Begins (c :: s)) : pieces (c :: s) = .plain c :: pieces s := by
  rw [pieces]
  split
  next hc =>
    rw [hc, begins_dollar, Option.not_isSome_iff_eq_none] at h
    split
    next r rest hread =>
      rw [h] at hread
      cases hread
    next => rfl
  next => rfl

lemma isCut_nil : IsCut [] [] :=
  ⟨rfl, nofun, fun before c after h => by simp at h⟩

lemma IsCut.plain (h : IsCut s ps) (hc : ¬ Begins (c :: s)) : IsCut (c :: s) (.plain c :: ps) := by
  refine ⟨?_, fun r hr => h.sound r ?_, fun before d after hps => ?_⟩
  · rw [List.flatMap_cons, h.text]
    rfl
  · simpa using hr
  · rcases List.cons_eq_append_iff.mp hps with ⟨rfl, hd⟩ | ⟨before, rfl, rfl⟩
    · cases hd
      rwa [h.text]
    · exact h.literal before d after rfl

lemma IsCut.reference (h : IsCut s ps) (hr : r.IsSound) :
    IsCut (r.text ++ s) (.reference r :: ps) := by
  refine ⟨?_, fun r' hr' => ?_, fun before c after hps => ?_⟩
  · rw [List.flatMap_cons, h.text]
    rfl
  · rcases List.mem_cons.mp hr' with h' | h'
    · cases h'
      exact hr
    · exact h.sound r' h'
  · rcases List.cons_eq_append_iff.mp hps with ⟨rfl, hd⟩ | ⟨before, rfl, rfl⟩
    · cases hd
    · exact h.literal before c after rfl

lemma IsCut.tail {p : Piece} (h : IsCut s (p :: ps)) : IsCut (ps.flatMap Piece.text) ps :=
  ⟨rfl, fun r hr => h.sound r (List.mem_cons_of_mem p hr), fun before c after hps =>
    h.literal (p :: before) c after (by rw [hps]; rfl)⟩

lemma isCut_pieces (s : List Char) : IsCut s (pieces s) := by
  -- behind a reference the text is shorter, but need not be the tail
  induction hn : s.length using Nat.strong_induction_on generalizing s with
  | _ n ih =>
    cases s with
    | nil =>
      rw [pieces]
      exact isCut_nil
    | cons c s =>
      by_cases h : Begins (c :: s)
      · obtain ⟨r, rest, hr, hs⟩ := begins_iff.mp h
        have hlt : rest.length < n := by
          rw [← hn, hs, List.length_append]
          simp [Reference.text]
        rw [hs, pieces_reference hr]
        exact (ih rest.length hlt rest rfl).reference hr
      · have hlt : s.length < n := hn ▸ Nat.lt_succ_self s.length
        rw [pieces_plain h]
        exact (ih s.length hlt s rfl).plain h

/-- A text is cut in one way only. -/
lemma isCut_iff : IsCut s ps ↔ ps = pieces s := by
  refine ⟨fun h => ?_, fun h => h ▸ isCut_pieces s⟩
  induction ps generalizing s with
  | nil =>
    rw [← h.text, List.flatMap_nil, pieces]
  | cons p ps ih =>
    have htail := ih h.tail
    rw [← h.text, List.flatMap_cons]
    cases p with
    | plain c =>
      have hc : ¬ Begins (c :: ps.flatMap Piece.text) := h.literal [] c ps rfl
      rw [show Piece.text (.plain c) = [c] from rfl, List.singleton_append, pieces_plain hc,
        ← htail]
    | reference r =>
      rw [show Piece.text (.reference r) = r.text from rfl,
        pieces_reference (h.sound r List.mem_cons_self), ← htail]

/-! ### Expansion -/

lemma value_reference (env : Environment) (r : Reference) :
    (Piece.reference r).value env = r.value env := by
  rw [Piece.value, Reference.value]
  cases env (String.ofList r.name) <;> rfl

lemma expand_reference (env : Environment) (hr : r.IsSound) (s : List Char) :
    expand env (r.text ++ s) = r.value env ++ expand env s := by
  rw [expand, pieces_reference hr, List.flatMap_cons, value_reference]
  rfl

lemma expand_plain (env : Environment) (h : ¬ Begins (c :: s)) :
    expand env (c :: s) = c :: expand env s := by
  rw [expand, pieces_plain h]
  rfl

lemma expand_append (env : Environment) {t : List Char} (h : IsLiteral t s) :
    expand env (t ++ s) = t ++ expand env s := by
  induction t with
  | nil => rfl
  | cons c t ih =>
    obtain ⟨hc, ht⟩ := isLiteral_cons.mp h
    rw [List.cons_append] at hc ⊢
    rw [expand_plain env hc, ih ht]
    rfl

lemma expand_of_isLiteral (env : Environment) (h : IsLiteral s []) : expand env s = s := by
  have hnil : expand env [] = [] := by
    rw [expand, pieces]
    rfl
  have happ := expand_append env h
  rwa [hnil, List.append_nil] at happ

lemma expand_congr {env env' : Environment} (h : ∀ n ∈ referredNames s, env' n = env n) :
    expand env' s = expand env s := by
  refine List.flatMap_congr fun p hp => ?_
  cases p with
  | plain c => rfl
  | reference r =>
    have hn : String.ofList r.name ∈ referredNames s := List.mem_filterMap.mpr ⟨_, hp, rfl⟩
    rw [value_reference, value_reference, Reference.value, Reference.value, h _ hn]

/-! ### Malformed references -/

namespace Reference

/-- What stands between the braces of a reference. -/
def inner (r : Reference) : List Char :=
  r.name ++ r.fallback.elim [] fun d => ':' :: '-' :: d

lemma text_eq (r : Reference) : r.text = '$' :: '\x7b' :: r.inner ++ ['\x7d'] := by
  obtain ⟨name, _ | d⟩ := r <;> simp [text, inner, tail]

lemma IsSound.brace_notMem_inner (hr : r.IsSound) : '\x7d' ∉ r.inner := by
  obtain ⟨⟨c, w, hname, hc, hw⟩, hf⟩ := hr
  obtain ⟨name, f⟩ := r
  obtain rfl : name = c :: w := hname
  intro h
  rcases List.mem_append.mp h with h | h
  · rcases List.mem_cons.mp h with rfl | h
    · exact absurd hc (by decide)
    · exact absurd (hw _ h) (by decide)
  · cases f with
    | none => cases h
    | some d =>
      have hd := hf d rfl
      simp [hd] at h

end Reference

lemma begins_braces {body : List Char} (hb : '\x7d' ∉ body)
    (h : Begins ('$' :: '\x7b' :: body ++ '\x7d' :: s)) :
    Begins ('$' :: '\x7b' :: body ++ ['\x7d']) := by
  obtain ⟨r, rest, hr, hs⟩ := begins_iff.mp h
  have hinner : body ++ '\x7d' :: s = r.inner ++ '\x7d' :: rest := by
    rw [r.text_eq] at hs
    simpa using hs
  obtain rfl : body = r.inner := by
    have := congrArg (splitOn '\x7d') hinner
    rw [splitOn_append_cons hb, splitOn_append_cons hr.brace_notMem_inner] at this
    exact (List.cons.inj this).1
  rw [← r.text_eq]
  exact ⟨r, hr, List.prefix_rfl⟩

/-- What is no reference is kept with its braces, whatever follows it. -/
lemma expand_malformed (env : Environment) {body : List Char} (hd : '$' ∉ body)
    (hb : '\x7d' ∉ body) (hno : ¬ Begins ('$' :: '\x7b' :: body ++ ['\x7d'])) (s : List Char) :
    expand env ('$' :: '\x7b' :: body ++ '\x7d' :: s) =
      '$' :: '\x7b' :: body ++ '\x7d' :: expand env s := by
  have hliteral : IsLiteral ('$' :: '\x7b' :: body ++ ['\x7d']) s := by
    intro c u hu hbegins
    obtain rfl := hbegins.dollar
    -- a reference can only begin at the dollar sign in front
    rcases List.suffix_cons_iff.mp hu with hu | hu
    · rw [(List.cons.inj hu).2] at hbegins
      exact hno (begins_braces hb (by simpa using hbegins))
    · have hmem : '$' ∈ '\x7b' :: body ++ ['\x7d'] := hu.subset List.mem_cons_self
      simp [hd] at hmem
  simpa using expand_append env hliteral

lemma Begins.brace_mem (h : Begins s) : '\x7d' ∈ s := by
  obtain ⟨r, rest, -, rfl⟩ := begins_iff.mp h
  rw [r.text_eq]
  simp

/--
**Expansion in one pass.** A text is cut in one way only into literal characters and references, so
that no reference begins at a character. Its expansion copies each character and puts in for each
reference the value of its variable, or else its default. So a value is put in as it is, and the
text behind a reference is expanded as if it stood alone; a text without references stays, and so do
braces that hold no reference and braces that are not closed; and variables that the text does not
refer to are of no account.
-/
theorem expands_in_one_pass (env : Environment) (s : List Char) :
    (∀ ps, IsCut s ps ↔ ps = pieces s) ∧
    (∀ ps, IsCut s ps → expand env s = ps.flatMap fun
      | .plain c => [c]
      | .reference r => (env (String.ofList r.name)).elim (r.fallback.getD []) String.toList) ∧
    (∀ (t : List Char) (r : Reference), r.IsSound → IsLiteral t (r.text ++ s) →
      expand env (t ++ (r.text ++ s)) = t ++ (r.value env ++ expand env s)) ∧
    (IsLiteral s [] → expand env s = s) ∧
    (∀ body, '$' ∉ body → '\x7d' ∉ body → ¬ Begins ('$' :: '\x7b' :: body ++ ['\x7d']) →
      expand env ('$' :: '\x7b' :: body ++ '\x7d' :: s) =
        '$' :: '\x7b' :: body ++ '\x7d' :: expand env s) ∧
    ('\x7d' ∉ s → expand env s = s) ∧
    (∀ env' : Environment, (∀ n ∈ referredNames s, env' n = env n) →
      expand env' s = expand env s) := by
  refine ⟨fun ps => isCut_iff, fun ps hps => ?_, fun t r hr ht => ?_, expand_of_isLiteral env,
    fun body hd hb hno => expand_malformed env hd hb hno s, fun hs => ?_,
    fun env' => expand_congr⟩
  · rw [isCut_iff.mp hps, expand]
    refine List.flatMap_congr fun p _ => ?_
    cases p with
    | plain c => rfl
    | reference r => exact value_reference env r
  · rw [expand_append env ht, expand_reference env hr]
  · refine expand_of_isLiteral env fun c u hu h => hs ?_
    rw [List.append_nil] at h
    exact hu.subset h.brace_mem

/-- The only variable that is set has a value that is written like a reference to another one. -/
def looksLikeReference : Environment := fun n => if n = "A" then some "$\x7bB\x7d" else none

/--
The value is put in as it is, also for a reference in the braces of another one; a default may hold
what begins like a reference; and braces that hold no reference are kept.
-/
theorem expands_in_one_pass_looksLikeReference :
    let env := looksLikeReference
    expand env "$\x7b$\x7bA\x7d-".toList = "$\x7b$\x7bB\x7d-".toList ∧
      expand env "$\x7bC:-$\x7bA\x7d".toList = "$\x7bA".toList ∧
      ∀ body ∈ ["", "1A", "A-b", "A:x"],
        expand env ('$' :: '\x7b' :: body.toList ++ '\x7d' :: "$".toList) =
          '$' :: '\x7b' :: body.toList ++ "\x7d$".toList := by
  intro env
  have hA : Reference.IsSound ⟨['A'], none⟩ := ⟨⟨'A', [], rfl, by decide, nofun⟩, nofun⟩
  have hC : Reference.IsSound ⟨['C'], some "$\x7bA".toList⟩ :=
    ⟨⟨'C', [], rfl, by decide, nofun⟩, by decide⟩
  obtain ⟨-, -, hinside, hdash, -⟩ := expands_in_one_pass env "-".toList
  obtain ⟨-, -, hdefault, hnil, -⟩ := expands_in_one_pass env []
  obtain ⟨-, -, -, -, hkept, hopen, -⟩ := expands_in_one_pass env "$".toList
  refine ⟨?_, ?_, fun body hbody => ?_⟩
  · have h := hinside "$\x7b".toList ⟨['A'], none⟩ hA (by decide)
    rw [hdash (by decide)] at h
    exact h
  · have h := hdefault [] ⟨['C'], some "$\x7bA".toList⟩ hC (isLiteral_nil _)
    rw [hnil (isLiteral_nil _)] at h
    exact h
  · have h : '$' ∉ body.toList ∧ '\x7d' ∉ body.toList ∧
        ¬ Begins ('$' :: '\x7b' :: body.toList ++ ['\x7d']) := by
      revert body
      decide
    rw [hkept _ h.1 h.2.1 h.2.2, hopen (by decide)]
    rfl

end MetricAgent.Config
