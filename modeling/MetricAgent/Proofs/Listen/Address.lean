import MetricAgent.Listen.Address
import MetricAgent.Proofs.Text.Fields

/-!
Which texts are read as listen addresses: those that are written, and no others. Any other text is
refused, for its commas or an empty address in the first place, and else for the word in front.
-/

namespace MetricAgent.Listen

open Text

variable {s t rest : String}

/-! ### Transports -/

namespace Transport

/-- The words for the kinds of sockets. -/
def allTexts : List String := ["tcp", "tcp4", "tcp6", "unix", "unixpacket"]

lemma ofText?_eq_some {k : Transport} : ofText? t = some k ↔ k.text = t := by
  constructor
  · intro h
    simpa using List.find?_some (p := fun k : Transport => decide (k.text = t)) h
  · rintro rfl
    cases k <;> decide

lemma exists_text_iff : (∃ k : Transport, k.text = t) ↔ t ∈ allTexts := by
  constructor
  · rintro ⟨k, rfl⟩
    cases k <;> decide
  · intro h
    simp only [allTexts, List.mem_cons, List.not_mem_nil, or_false] at h
    rcases h with rfl | rfl | rfl | rfl | rfl
    · exact ⟨.tcp, rfl⟩
    · exact ⟨.tcp4, rfl⟩
    · exact ⟨.tcp6, rfl⟩
    · exact ⟨.unix, rfl⟩
    · exact ⟨.unixpacket, rfl⟩

lemma ofText?_eq_none : ofText? t = none ↔ t ∉ allTexts := by
  rw [← exists_text_iff, Option.eq_none_iff_forall_ne_some]
  simp only [ne_eq, ofText?_eq_some, not_exists]

lemma comma_notMem_text (k : Transport) : ',' ∉ k.text.toList := by
  cases k <;> decide

end Transport

namespace Address

/-! ### Texts by their commas -/

/-- A text cannot be cut into a word and an address. -/
def IsMisshapen (s : String) : Prop := s.toList.count ',' ≠ 1 ∨ ∃ t, s = t ++ ","

/-- A word and an address that is not empty, with the only comma between them. -/
structure Cut (s t rest : String) : Prop where
  eq : s = t ++ "," ++ rest
  front : ',' ∉ t.toList
  back : ',' ∉ rest.toList
  ne_empty : rest ≠ ""

lemma toList_cut (t rest : String) : (t ++ "," ++ rest).toList = t.toList ++ ',' :: rest.toList := by
  simp

lemma splitOn_cut (ht : ',' ∉ t.toList) (hrest : ',' ∉ rest.toList) :
    splitOn ',' (t ++ "," ++ rest).toList = [t.toList, rest.toList] :=
  splitOn_eq_pair.mpr ⟨toList_cut t rest, ht, hrest⟩

lemma misshapen_or_cut (s : String) : IsMisshapen s ∨ ∃ t rest, Cut s t rest := by
  by_cases hcount : s.toList.count ',' = 1
  · have hlen := length_splitOn ',' s.toList
    rw [hcount] at hlen
    obtain ⟨t, rest, hparts⟩ := List.length_eq_two.mp hlen
    obtain ⟨hs, ht, hrest⟩ := splitOn_eq_pair.mp hparts
    have heq : s = String.ofList t ++ "," ++ String.ofList rest := by
      rw [← String.toList_inj, toList_cut]
      simpa using hs
    by_cases hempty : rest = []
    · exact .inl (.inr ⟨String.ofList t, by simpa [hempty] using heq⟩)
    · exact .inr ⟨_, _, heq, by simpa using ht, by simpa using hrest, by simpa using hempty⟩
  · exact .inl (.inl hcount)

lemma eq_nil_of_comma_last {xs ys zs : List Char} (h : xs ++ ',' :: ys = zs ++ [','])
    (hy : ',' ∉ ys) : ys = [] := by
  rcases List.eq_nil_or_concat ys with rfl | ⟨init, c, rfl⟩
  · rfl
  · exfalso
    rw [List.concat_eq_append] at h hy
    rw [← List.cons_append, ← List.append_assoc] at h
    obtain rfl : c = ',' := List.cons.inj (List.append_inj_right' h rfl) |>.1
    exact hy (List.mem_append_right init List.mem_cons_self)

lemma parse_of_misshapen (h : IsMisshapen s) : parse s = .error (.format s) := by
  unfold parse
  split
  next t rest hparts =>
    obtain ⟨hs, -, hrest⟩ := splitOn_eq_pair.mp hparts
    have hcount : s.toList.count ',' = 1 := by
      have hlen := length_splitOn ',' s.toList
      rw [hparts] at hlen
      exact (Nat.succ.inj hlen).symm
    obtain ⟨t', rfl⟩ := h.resolve_left (not_not.mpr hcount)
    have hend : (t' ++ ",").toList = t'.toList ++ [','] := by simp
    have hempty : rest = [] := eq_nil_of_comma_last (hs.symm.trans hend) hrest
    rw [hempty]
    rfl
  next => rfl

lemma parse_of_cut (h : Cut s t rest) :
    parse s = (Transport.ofText? t).elim (.error (.transport t)) fun k => .ok ⟨k, rest⟩ := by
  obtain ⟨rfl, ht, hrest, hne⟩ := h
  have hempty : rest.toList.isEmpty = false := by simpa using hne
  unfold parse
  rw [splitOn_cut ht hrest]
  dsimp only
  rw [hempty, if_neg Bool.false_ne_true, String.ofList_toList, String.ofList_toList]
  cases Transport.ofText? t <;> rfl

/-! ### Reading and writing -/

lemma cut_text {a : Address} (hne : a.address ≠ "") (hcomma : ',' ∉ a.address.toList) :
    Cut a.text a.transport.text a.address :=
  ⟨rfl, a.transport.comma_notMem_text, hcomma, hne⟩

lemma parse_text {a : Address} (hne : a.address ≠ "") (hcomma : ',' ∉ a.address.toList) :
    parse a.text = .ok a := by
  rw [parse_of_cut (cut_text hne hcomma), Transport.ofText?_eq_some.mpr rfl]
  rfl

/-- A text is read as an address if and only if the address is written so. -/
lemma parse_eq_ok {a : Address} :
    parse s = .ok a ↔ a.text = s ∧ a.address ≠ "" ∧ ',' ∉ a.address.toList := by
  constructor
  · intro h
    rcases misshapen_or_cut s with hs | ⟨t, rest, hs⟩
    · rw [parse_of_misshapen hs] at h
      cases h
    · rw [parse_of_cut hs] at h
      cases hk : Transport.ofText? t with
      | none =>
        rw [hk] at h
        cases h
      | some k =>
        rw [hk] at h
        obtain rfl := Except.ok.inj h
        obtain rfl := Transport.ofText?_eq_some.mp hk
        exact ⟨hs.eq.symm, hs.ne_empty, hs.back⟩
  · rintro ⟨rfl, hne, hcomma⟩
    exact parse_text hne hcomma

lemma parse_eq_error {e : AddressError} : parse s = .error e ↔
    (IsMisshapen s ∧ e = .format s) ∨
      ∃ t rest, Cut s t rest ∧ t ∉ Transport.allTexts ∧ e = .transport t := by
  constructor
  · intro h
    rcases misshapen_or_cut s with hs | ⟨t, rest, hs⟩
    · rw [parse_of_misshapen hs] at h
      exact .inl ⟨hs, (Except.error.inj h).symm⟩
    · rw [parse_of_cut hs] at h
      cases hk : Transport.ofText? t with
      | none =>
        rw [hk] at h
        exact .inr ⟨t, rest, hs, Transport.ofText?_eq_none.mp hk, (Except.error.inj h).symm⟩
      | some k =>
        rw [hk] at h
        cases h
  · rintro (⟨hs, rfl⟩ | ⟨t, rest, hs, ht, rfl⟩)
    · exact parse_of_misshapen hs
    · rw [parse_of_cut hs, Transport.ofText?_eq_none.mpr ht]
      rfl

/--
**Reading and writing are inverse.** A text is accepted if and only if it is one of the five words, a
comma, and an address that is not empty and has no comma; it is then read as the address that is
written so, and every such address is read from its own text. Any other text is refused: where the
number of commas is not one or nothing stands behind the comma the error tells the whole text, and
else the word in front.
-/
theorem reads_what_is_written (s : String) :
    (∀ a, parse s = .ok a ↔ a.text = s ∧ a.address ≠ "" ∧ ',' ∉ a.address.toList) ∧
      (∀ a : Address, a.address ≠ "" → ',' ∉ a.address.toList → parse a.text = .ok a) ∧
      ((∃ a, parse s = .ok a) ↔ ∃ t ∈ ["tcp", "tcp4", "tcp6", "unix", "unixpacket"],
        ∃ rest, s = t ++ "," ++ rest ∧ rest ≠ "" ∧ ',' ∉ rest.toList) ∧
      ∀ e, parse s = .error e ↔
        ((s.toList.count ',' ≠ 1 ∨ ∃ t, s = t ++ ",") ∧ e = .format s) ∨
          ∃ t rest, Cut s t rest ∧ t ∉ ["tcp", "tcp4", "tcp6", "unix", "unixpacket"] ∧
            e = .transport t := by
  refine ⟨fun a => parse_eq_ok, fun a => parse_text, ?_, fun e => parse_eq_error⟩
  constructor
  · rintro ⟨a, ha⟩
    obtain ⟨rfl, hne, hcomma⟩ := parse_eq_ok.mp ha
    exact ⟨a.transport.text, Transport.exists_text_iff.mp ⟨_, rfl⟩, a.address, rfl, hne, hcomma⟩
  · rintro ⟨t, ht, rest, rfl, hne, hcomma⟩
    obtain ⟨k, rfl⟩ := Transport.exists_text_iff.mpr ht
    exact ⟨⟨k, rest⟩, parse_eq_ok.mpr ⟨rfl, hne, hcomma⟩⟩

/-- A capital letter makes another word of `tcp`, and a second comma is found before that. -/
theorem reads_what_is_written_capital :
    parse "unix,/tmp/a.sock" = .ok ⟨.unix, "/tmp/a.sock"⟩ ∧
      parse "Tcp,[::1]:7341" = .error (.transport "Tcp") ∧
      parse "Tcp,a,b" = .error (.format "Tcp,a,b") := by
  obtain ⟨-, hwritten, -, -⟩ := reads_what_is_written "unix,/tmp/a.sock"
  obtain ⟨-, -, -, hword⟩ := reads_what_is_written "Tcp,[::1]:7341"
  obtain ⟨-, -, -, hcommas⟩ := reads_what_is_written "Tcp,a,b"
  have hcut : Cut "Tcp,[::1]:7341" "Tcp" "[::1]:7341" :=
    ⟨by decide, by decide, by decide, by decide⟩
  have hcount : "Tcp,a,b".toList.count ',' ≠ 1 := by decide
  refine ⟨hwritten ⟨.unix, "/tmp/a.sock"⟩ (by decide) (by decide), (hword _).mpr (.inr ?_),
    (hcommas _).mpr (.inl ⟨.inl hcount, rfl⟩)⟩
  exact ⟨_, _, hcut, by decide, rfl⟩

end Address

end MetricAgent.Listen
