import MetricAgent.Proofs.Output.Derived
import MetricAgent.Proofs.Output.Submitted

/-!
Lines with another prefix or another source. A prefix puts the same text in front of all names, so a
history with it holds what one without it holds, under longer names. What is written, and when the
history starts over, is the same whatever the decoration.
-/

namespace MetricAgent.Output

variable {f : LineFormat} {h : History} {m : Measurement} {lead : List Char} {name : String}

/-! ### Decorated names -/

/-- A name with some text in front of it. -/
def behind (lead : List Char) (name : String) : String := String.ofList (lead ++ name.toList)

lemma behind_inj {a b : String} : behind lead a = behind lead b ↔ a = b := by
  rw [behind, behind, String.ofList_inj, List.append_cancel_left_eq, String.toList_inj]

lemma nameChars_lead (m : Measurement) (p : Option String) :
    m.nameChars p = leadText p ++ m.nameChars none := by
  rw [nameChars_eq m p, nameChars_eq m none]
  rfl

lemma name_lead (m : Measurement) (p : Option String) :
    m.name p = behind (leadText p) (m.name none) := by
  unfold Measurement.name behind
  rw [String.toList_ofList, nameChars_lead]

/-! ### Decorated histories -/

namespace History

/-- A history with some text in front of all names. -/
def behind (lead : List Char) (h : History) : History :=
  h.map fun p => (Output.behind lead p.1, p.2)

lemma behind_cons (k : String) (m : Measurement) (h : History) :
    behind lead ((k, m) :: h) = (Output.behind lead k, m) :: behind lead h := rfl

lemma length_behind : (h.behind lead).length = h.length := List.length_map _

lemma find?_behind (h : History) (name : String) :
    (h.behind lead).find? (Output.behind lead name) = h.find? name := by
  induction h with
  | nil => rfl
  | cons p h ih =>
    obtain ⟨k, v⟩ := p
    rw [behind_cons, find?_cons, find?_cons, ih]
    simp only [behind_inj]

lemma exists_of_find?_behind (hname : ((h.behind lead).find? name).isSome) :
    ∃ k, name = Output.behind lead k := by
  obtain ⟨v, hv⟩ := Option.isSome_iff_exists.mp hname
  obtain ⟨l₁, l₂, hsplit, -⟩ := List.lookup_eq_some_iff.mp hv
  have hmem : (name, v) ∈ h.behind lead := by simp [hsplit]
  obtain ⟨p, -, hp⟩ := List.mem_map.mp hmem
  exact ⟨p.1, (Prod.mk.inj hp).1.symm⟩

lemma insert_behind (h : History) (name : String) (m : Measurement) :
    (h.behind lead).insert (Output.behind lead name) m = (h.insert name m).behind lead := by
  induction h with
  | nil => rfl
  | cons p h ih =>
    obtain ⟨k, v⟩ := p
    rw [behind_cons, insert, insert, ih]
    simp only [behind_inj]
    split <;> rfl

lemma makeRoom_behind (h : History) (limit : Nat) (name : String) :
    (h.behind lead).makeRoom limit (Output.behind lead name) =
      (h.makeRoom limit name).behind lead := by
  unfold makeRoom
  rw [length_behind, find?_behind]
  split <;> rfl

end History

/-! ### One measurement -/

/-- The same format without prefix and source. -/
def LineFormat.plain (f : LineFormat) : LineFormat := { f with namePrefix := none, source := none }

lemma valueText_behind (f : LineFormat) (h : History) (m : Measurement) :
    valueText f (h.behind (leadText f.namePrefix)) m =
      ((valueText f.plain h m).1, (valueText f.plain h m).2.behind (leadText f.namePrefix)) := by
  unfold valueText LineFormat.plain
  cases f.derived with
  | false => rfl
  | true =>
    cases m.reading with
    | counter n =>
      dsimp only
      rw [name_lead m f.namePrefix, History.makeRoom_behind, History.find?_behind,
        History.insert_behind]
    | _ => rfl

/-- The text behind a value. -/
def sourceText (source : Option String) : List Char :=
  source.elim [] fun s => " source=".toList ++ s.toList

/-- The line of a value with some text in front of its name and some behind the value. -/
def decoratedLine (lead tail : List Char) (m : Measurement) (value : List Char) : String :=
  String.ofList <|
    "when=".toList ++ m.time.toText ++ " sample#".toList ++ (lead ++ m.nameChars none) ++
      '=' :: value ++ tail ++ ['\n']

lemma lineText_eq (f : LineFormat) (m : Measurement) (value : List Char) :
    lineText f.source m.time (m.nameChars f.namePrefix) value =
      decoratedLine (leadText f.namePrefix) (sourceText f.source) m value := by
  rw [nameChars_lead]
  rfl

/-! ### Runs -/

/-- What is written for measurements one after the other, without all decoration. -/
def valueTexts (f : LineFormat) (h : History) : List Measurement → List (Option (List Char))
  | [] => []
  | m :: ms => (valueText f h m).1 :: valueTexts f (valueText f h m).2 ms

lemma length_valueTexts (f : LineFormat) (h : History) (ms : List Measurement) :
    (valueTexts f h ms).length = ms.length := by
  induction ms generalizing h with
  | nil => rfl
  | cons m ms ih => rw [valueTexts, List.length_cons, ih, List.length_cons]

lemma lines_behind (f : LineFormat) (h : History) (ms : List Measurement) :
    lines f (h.behind (leadText f.namePrefix)) ms = List.zipWith
      (fun m value => value.map
        (decoratedLine (leadText f.namePrefix) (sourceText f.source) m))
      ms (valueTexts f.plain h ms) := by
  induction ms generalizing h with
  | nil => rfl
  | cons m ms ih =>
    have hvalue := valueText_behind f h m
    have hline : line f (h.behind (leadText f.namePrefix)) m =
        ((valueText f.plain h m).1.map
          (decoratedLine (leadText f.namePrefix) (sourceText f.source) m),
          (valueText f.plain h m).2.behind (leadText f.namePrefix)) := by
      rw [line, hvalue]
      simp only [funext (lineText_eq f m)]
    rw [lines, hline, ih, valueTexts, List.zipWith_cons_cons]

lemma history_behind (f : LineFormat) (ms : List Measurement) :
    history f ms = (history f.plain ms).behind (leadText f.namePrefix) := by
  induction ms using List.reverseRecOn with
  | nil => rfl
  | append_singleton ms m ih =>
    rw [history_snoc, history_snoc, ih]
    exact congrArg Prod.snd (valueText_behind f (history f.plain ms) m)

/-! ### Starting over -/

/-- A measurement makes the history start over: what it held under some name is gone. -/
def StartsOver (f : LineFormat) (h : History) (m : Measurement) : Prop :=
  ∃ name, (h.find? name).isSome ∧ ((line f h m).2.find? name).isNone

lemma startsOver_behind (f : LineFormat) (h : History) (m : Measurement) :
    StartsOver f (h.behind (leadText f.namePrefix)) m ↔ StartsOver f.plain h m := by
  have hafter : (line f (h.behind (leadText f.namePrefix)) m).2 =
      (line f.plain h m).2.behind (leadText f.namePrefix) :=
    congrArg Prod.snd (valueText_behind f h m)
  unfold StartsOver
  rw [hafter]
  constructor
  · rintro ⟨name, hbefore, hgone⟩
    obtain ⟨k, rfl⟩ := History.exists_of_find?_behind hbefore
    rw [History.find?_behind] at hbefore hgone
    exact ⟨k, hbefore, hgone⟩
  · rintro ⟨k, hbefore, hgone⟩
    refine ⟨behind (leadText f.namePrefix) k, ?_, ?_⟩
    · rwa [History.find?_behind]
    · rwa [History.find?_behind]

/--
**Decoration does not matter.** Two outputs of one mode and one limit write a line for the same
measurements, with the same time and the same value, whatever their prefixes and sources; in front
of the name stands the normalized prefix with a point, behind the value the source, and nothing else
differs. They remember the same readings after every measurement, and start over at the same ones.
-/
theorem same_values_however_decorated (f g : LineFormat) (hd : f.derived = g.derived)
    (hl : f.historyLimit = g.historyLimit) (ms : List Measurement) :
    (∃ values : List (Option (List Char)), values.length = ms.length ∧
      let written := fun k : LineFormat => List.zipWith
        (fun m value => value.map
          (decoratedLine (leadText k.namePrefix) (sourceText k.source) m)) ms values
      lines f [] ms = written f ∧ lines g [] ms = written g) ∧
      (∀ i, (history f (ms.take i)).map Prod.snd = (history g (ms.take i)).map Prod.snd) ∧
      ∀ i m, ms[i]? = some m →
        (StartsOver f (history f (ms.take i)) m ↔ StartsOver g (history g (ms.take i)) m) := by
  have hplain : f.plain = g.plain := by simp [LineFormat.plain, hd, hl]
  refine ⟨⟨valueTexts f.plain [] ms, length_valueTexts _ _ ms, ?_, ?_⟩, fun i => ?_,
    fun i m _ => ?_⟩
  · exact lines_behind f [] ms
  · rw [hplain]
    exact lines_behind g [] ms
  · rw [history_behind f, history_behind g, hplain]
    simp [History.behind, Function.comp_def]
  · rw [history_behind f, history_behind g, startsOver_behind, startsOver_behind, hplain]

/-- A third name among two starts both outputs over, although one has a prefix with a point and a
separator, and the other one an empty prefix. -/
theorem same_values_however_decorated_threeNames :
    let f : LineFormat := ⟨some "a.b#c", some "web-1", true, 2⟩
    let g : LineFormat := ⟨some "", none, true, 2⟩
    f.derived = g.derived ∧ f.historyLimit = g.historyLimit ∧
      (lines f [] threeNames).map Option.isSome = (lines g [] threeNames).map Option.isSome ∧
      (history f threeNames).map Prod.snd = (history g threeNames).map Prod.snd ∧
      StartsOver f (history f (threeNames.take 4)) (hits "c" 1) ∧
      StartsOver g (history g (threeNames.take 4)) (hits "c" 1) := by
  intro f g
  have hover : StartsOver f (history f (threeNames.take 4)) (hits "c" 1) :=
    ⟨"a.b.c.listen.a", by decide +kernel, by decide +kernel⟩
  obtain ⟨⟨values, -, hf, hg⟩, hhistory, hstarts⟩ :=
    same_values_however_decorated f g rfl rfl threeNames
  refine ⟨rfl, rfl, ?_, hhistory threeNames.length, hover, (hstarts 4 _ rfl).mp hover⟩
  rw [hf, hg, List.map_zipWith, List.map_zipWith]
  simp only [Option.isSome_map]

end MetricAgent.Output
