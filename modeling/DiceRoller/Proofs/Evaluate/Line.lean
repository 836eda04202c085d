/-
# The line that shows an outcome

An outcome is shown as one line: the dice, what is applied to their sum, and the total (section 4.2
of the specification). This file says that the line can be read back. Its marks give the parts away:
the equals sign stands in front of the total, the closing parenthesis in front of the magnitude, and
what is left are the dice with plus signs between them. A line without an equals sign is a
percentage thrown with one die.

Each mark occurs where it should and nowhere else, since numerals hold only digits and a minus sign.
So the line is cut at the mark, and the two sides are compared: the same text cut at the first
equals sign has the same sides.

* `joinRolls_inj`: the dice from what stands between the plus signs.
* `Total.text_inj`: the total, with the percent sign for its kind.
* `Reading.way_inj`: what stands in front of the equals sign tells the dice and what is applied.
* `Outcome.text_inj`: no two outcomes of dice are shown alike.

Outcomes that no dice come to are excluded by `Outcome.Coherent`, since some of them would be shown
alike. That every outcome of an evaluation is coherent is proved in `Proofs/Evaluate/Reading.lean`.
-/
import DiceRoller.Outcome
import DiceRoller.Proofs.Text.Numeral

namespace DiceRoller

open Text

variable {rolls rolls' : List UInt64}

/-! ## 1. The dice -/

theorem toList_joinRolls (rolls : List UInt64) :
    (joinRolls rolls).toList = ['+'].intercalate (rolls.map fun n => (numeral n).toList) := by
  simp [joinRolls, String.toList_intercalate, Function.comp_def]

theorem not_mem_joinRolls {c : Char} (hc : c.isDigit = false) (hplus : c ≠ '+')
    (rolls : List UInt64) : c ∉ (joinRolls rolls).toList := by
  rw [toList_joinRolls]
  induction rolls with
  | nil => simp
  | cons n rolls ih =>
    cases rolls with
    | nil => simpa using not_mem_numeral hc n
    | cons m rolls =>
      rw [List.map_cons, List.map_cons, List.intercalate_cons_cons]
      simp only [List.mem_append, List.mem_singleton, not_or]
      exact ⟨⟨not_mem_numeral hc n, hplus⟩, ih⟩

theorem splitOn_joinRolls (hne : rolls ≠ []) :
    (joinRolls rolls).toList.splitOn '+' = rolls.map fun n => (numeral n).toList := by
  rw [toList_joinRolls]
  refine List.splitOn_intercalate '+' (fun ds hds => ?_) (by simpa using hne)
  obtain ⟨n, -, rfl⟩ := List.mem_map.mp hds
  exact not_mem_numeral (by decide) n

/-- The dice are read back from what stands between the plus signs. -/
theorem joinRolls_inj (hne : rolls ≠ []) (hne' : rolls' ≠ [])
    (h : joinRolls rolls = joinRolls rolls') : rolls = rolls' := by
  have hmap := splitOn_joinRolls hne
  rw [h, splitOn_joinRolls hne'] at hmap
  refine (List.map_inj_right fun m n hmn => ?_).mp hmap.symm
  exact numeral_inj (String.toList_inj.mp hmn)

/-! ## 2. The total -/

theorem Total.percent_mem_text_iff (total : Total) :
    '%' ∈ total.text.toList ↔ ∃ p, total = .percent p := by
  cases total with
  | sum n => simpa [Total.text] using not_mem_signedNumeral (c := '%') (by decide) (by decide) n
  | percent n => simp [Total.text]

theorem Total.equals_not_mem_text (total : Total) : '=' ∉ total.text.toList := by
  cases total with
  | sum n => exact not_mem_signedNumeral (by decide) (by decide) n
  | percent n => simpa [Total.text] using not_mem_numeral (c := '=') (by decide) n

/-- The percent sign tells the kind of a total, and the numeral its value. -/
theorem Total.text_inj {total total' : Total} (h : total.text = total'.text) : total = total' := by
  have hkind := total.percent_mem_text_iff
  rw [h, percent_mem_text_iff] at hkind
  cases total with
  | sum n =>
    cases total' with
    | sum n' => exact congrArg Total.sum (signedNumeral_inj h)
    | percent n' => simp at hkind
  | percent n =>
    cases total' with
    | sum n' => simp at hkind
    | percent n' =>
      have hchars := congrArg String.toList h
      simp only [Total.text, String.toList_append] at hchars
      have hnumeral := String.toList_inj.mp (List.append_cancel_right hchars)
      exact congrArg Total.percent (numeral_inj hnumeral)

/-! ## 3. The way to the total -/

/-- What is applied to the sum of the dice, as it stands behind them. -/
def Reading.applied : Reading → Option (List Char)
  | .percentile | .plain => none
  | .plus n => some ('+' :: (numeral n).toList)
  | .minus n => some ('-' :: (numeral n).toList)

/-- The dice and what is applied to their sum. With something to apply, parentheses stand around the
dice. -/
def Reading.way (reading : Reading) (rolls : List UInt64) : List Char :=
  match reading.applied with
  | none => (joinRolls rolls).toList
  | some applied => '(' :: ((joinRolls rolls).toList ++ ')' :: applied)

theorem Reading.way_of_none {reading : Reading} (h : reading.applied = none)
    (rolls : List UInt64) : reading.way rolls = (joinRolls rolls).toList := by
  rw [way, h]

theorem Reading.way_of_some {reading : Reading} {applied : List Char}
    (h : reading.applied = some applied) (rolls : List UInt64) :
    reading.way rolls = '(' :: ((joinRolls rolls).toList ++ ')' :: applied) := by
  rw [way, h]

theorem Reading.applied_chars {reading : Reading} {applied : List Char}
    (h : reading.applied = some applied) :
    ∀ c ∈ applied, c = '+' ∨ c = '-' ∨ c.isDigit = true := by
  cases reading with
  | percentile => exact absurd h (by simp [Reading.applied])
  | plain => exact absurd h (by simp [Reading.applied])
  | plus n =>
    obtain rfl := Option.some.inj h
    intro c hc
    rcases List.mem_cons.mp hc with hc | hc
    · exact .inl hc
    · exact .inr (.inr (isDigit_of_mem_numeral hc))
  | minus n =>
    obtain rfl := Option.some.inj h
    intro c hc
    rcases List.mem_cons.mp hc with hc | hc
    · exact .inr (.inl hc)
    · exact .inr (.inr (isDigit_of_mem_numeral hc))

theorem Reading.equals_not_mem_way (reading : Reading) (rolls : List UInt64) :
    '=' ∉ reading.way rolls := by
  have hrolls : '=' ∉ (joinRolls rolls).toList := not_mem_joinRolls (by decide) (by decide) rolls
  cases h : reading.applied with
  | none =>
    rw [way_of_none h]
    exact hrolls
  | some applied =>
    have happlied : '=' ∉ applied := by
      intro hc
      rcases applied_chars h '=' hc with hc | hc | hc <;> exact absurd hc (by decide)
    rw [way_of_some h]
    simp [hrolls, happlied]

/-- Only dice to whose sum something is applied have a parenthesis. -/
theorem Reading.open_mem_way_iff (reading : Reading) (rolls : List UInt64) :
    '(' ∈ reading.way rolls ↔ ∃ applied, reading.applied = some applied := by
  cases h : reading.applied with
  | none =>
    rw [way_of_none h]
    simpa using not_mem_joinRolls (c := '(') (by decide) (by decide) rolls
  | some applied => simp [way_of_some h]

/-- **The way to the total tells the dice and what is applied to them.**  A parenthesis says whether
something is applied, and the one behind the dice says what. -/
theorem Reading.way_inj {reading reading' : Reading} (hne : rolls ≠ []) (hne' : rolls' ≠ [])
    (h : reading.way rolls = reading'.way rolls') :
    rolls = rolls' ∧ reading.applied = reading'.applied := by
  have hsome := reading.open_mem_way_iff rolls
  rw [h, open_mem_way_iff] at hsome
  cases happlied : reading.applied with
  | none =>
    have happlied' : reading'.applied = none := by
      rw [← Option.not_isSome_iff_eq_none, Option.isSome_iff_exists, hsome, happlied]
      simp
    rw [way_of_none happlied, way_of_none happlied'] at h
    exact ⟨joinRolls_inj hne hne' (String.toList_inj.mp h), happlied'.symm⟩
  | some applied =>
    obtain ⟨applied', happlied'⟩ := hsome.mpr ⟨applied, happlied⟩
    rw [way_of_some happlied, way_of_some happlied'] at h
    -- the first closing parenthesis cuts the dice from what is applied to them
    have hclose : ')' ∉ (joinRolls rolls').toList :=
      not_mem_joinRolls (by decide) (by decide) rolls'
    have hclose' : ')' ∉ applied' := by
      intro hc
      rcases applied_chars happlied' ')' hc with hc | hc | hc <;> exact absurd hc (by decide)
    obtain ⟨hrolls, -, hsame⟩ :=
      (List.append_cons_inj_of_notMem hclose hclose').mp (List.cons.inj h).2.symm
    rw [happlied', hsame]
    exact ⟨joinRolls_inj hne hne' (String.toList_inj.mp hrolls.symm), rfl⟩

/-- What is applied tells how the dice are read, up to whether their sum or a percentage is shown. -/
theorem Reading.eq_of_applied_eq {reading reading' : Reading}
    (h : reading.applied = reading'.applied)
    (hpercentile : reading = .percentile ↔ reading' = .percentile) : reading = reading' := by
  cases reading <;> cases reading' <;> simp_all [Reading.applied]
  · exact numeral_inj (String.toList_inj.mp h)
  · exact numeral_inj (String.toList_inj.mp h)

/-! ## 4. Lines -/

/-- What holds of every outcome of dice: there are dice, and they are read as a percentage exactly if
the total is one. A single die that is read so shows the total. -/
structure Outcome.Coherent (o : Outcome) : Prop where
  rolls_ne_nil : o.rolls ≠ []
  percentile_iff : o.reading = .percentile ↔ ∃ p, o.total = .percent p
  die : ∀ n, o.reading = .percentile → o.rolls = [n] → o.total = .percent n

/-- A percentage that is thrown with one die. -/
def Outcome.IsLoneDie (o : Outcome) : Prop := o.reading = .percentile ∧ o.rolls.length = 1

theorem Outcome.text_of_isLoneDie {o : Outcome} (h : o.IsLoneDie) : o.text = o.total.text := by
  obtain ⟨hreading, hlength⟩ := h
  obtain ⟨n, hn⟩ := List.length_eq_one_iff.mp hlength
  rw [Outcome.text, hreading, hn]

theorem Outcome.toList_text_of_not_isLoneDie {o : Outcome} (h : ¬ o.IsLoneDie) :
    o.text.toList = o.reading.way o.rolls ++ '=' :: ' ' :: o.total.text.toList := by
  rcases o with ⟨rolls, reading, total⟩
  cases reading with
  | percentile =>
    have hlength : rolls.length ≠ 1 := fun hlength => h ⟨rfl, hlength⟩
    match rolls with
    | [] => simp [Outcome.text, Reading.way, Reading.applied]
    | [_] => exact absurd rfl hlength
    | _ :: _ :: _ => simp [Outcome.text, Reading.way, Reading.applied]
  | plain => simp [Outcome.text, Reading.way, Reading.applied]
  | plus n => simp [Outcome.text, Reading.way, Reading.applied]
  | minus n => simp [Outcome.text, Reading.way, Reading.applied]

/-- Exactly the lines of single dice have no equals sign. -/
theorem Outcome.equals_mem_text_iff (o : Outcome) : '=' ∈ o.text.toList ↔ ¬ o.IsLoneDie := by
  constructor
  · intro hmem h
    rw [text_of_isLoneDie h] at hmem
    exact o.total.equals_not_mem_text hmem
  · intro h
    rw [toList_text_of_not_isLoneDie h]
    simp

/-- **No two outcomes are shown alike.** -/
theorem Outcome.text_inj {o o' : Outcome} (ho : o.Coherent) (ho' : o'.Coherent)
    (h : o.text = o'.text) : o = o' := by
  -- the equals sign tells a lone die from all other outcomes
  have hlone := o.equals_mem_text_iff
  rw [h, equals_mem_text_iff, not_iff_not] at hlone
  by_cases hdie : o.IsLoneDie
  · have hdie' := hlone.mpr hdie
    rw [text_of_isLoneDie hdie, text_of_isLoneDie hdie'] at h
    have htotal := Total.text_inj h
    obtain ⟨n, hn⟩ := List.length_eq_one_iff.mp hdie.2
    obtain ⟨n', hn'⟩ := List.length_eq_one_iff.mp hdie'.2
    -- the total of a single die is its number
    have hvalue := ho.die n hdie.1 hn
    rw [htotal, ho'.die n' hdie'.1 hn'] at hvalue
    have hrolls : o.rolls = o'.rolls := by rw [hn, hn', Total.percent.inj hvalue]
    have hreading : o.reading = o'.reading := hdie.1.trans hdie'.1.symm
    cases o
    cases o'
    simp_all
  · have hdie' := mt hlone.mp hdie
    have hlist := congrArg String.toList h
    rw [toList_text_of_not_isLoneDie hdie, toList_text_of_not_isLoneDie hdie'] at hlist
    -- the only equals sign cuts the line into the dice and the total
    have htail : '=' ∉ ' ' :: o'.total.text.toList := by
      simpa using o'.total.equals_not_mem_text
    obtain ⟨hway, -, htext⟩ := (List.append_cons_inj_of_notMem
      (o'.reading.equals_not_mem_way o'.rolls) htail).mp hlist.symm
    have htotal := Total.text_inj (String.toList_inj.mp (List.cons.inj htext).2)
    obtain ⟨hrolls, happlied⟩ := Reading.way_inj ho'.rolls_ne_nil ho.rolls_ne_nil hway
    have hpercentile : o'.reading = .percentile ↔ o.reading = .percentile := by
      rw [ho'.percentile_iff, ho.percentile_iff, htotal]
    have hreading := Reading.eq_of_applied_eq happlied hpercentile
    cases o
    cases o'
    simp_all

end DiceRoller
