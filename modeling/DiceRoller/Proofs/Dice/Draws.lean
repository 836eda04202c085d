/-
# Drawing words in order

A die draws words until one is accepted. No bound on the number of words follows from the rule
alone. But only finitely many words are laid out, and behind them stands the word zero, which is
accepted whatever the sides: every die ends at the latest with the first zero behind the words, and
each die behind the words draws one word.

What the dice of a roll draw is said without the loop: each die shows the face of the first accepted
word behind those that the dice before it used (`FirstAccepted`, `DrawnFrom`). The two are relations
on places in the stream of words, so the bounds are proved of them by induction on the dice, with no
word drawn.

* `firstAccepted_drawFace`: one die, by induction on the words that are left.
* `drawnFrom_throwMany`: several dice, by induction on their number.
* `DrawnFrom.bounds`: how many words they draw.
* `Query.refused_or_exists_shape`: a query is refused by every source alike, or it has a shape, and
  then it throws the dice of the shape. This is the only case split on a query.
* `words_are_drawn_in_order`: every query.

The result is compared with every source that answers the same numbers, prepared dice among them, so
random dice are no special case of rolling. That all faces are equally likely is not a statement
about single streams of words; how many words each face has is in `Proofs/Dice/Fair.lean`.
-/
import DiceRoller.Proofs.Chat.Conservation
import DiceRoller.Proofs.Dice.Fair
import DiceRoller.Proofs.DiceSet.ClosedForm

namespace DiceRoller

variable {sides : UInt64} {words : List UInt64} {start place stop : Nat} {face : UInt64}
  {faces : List UInt64}

/-! ## 1. Words, then zeros -/

/-- The word at a place, where zeros follow the words for ever. -/
def wordThenZero (words : List UInt64) (place : Nat) : UInt64 := words[place]?.getD 0

/-- The first accepted word from a place on stands here and gives this face. -/
structure FirstAccepted (sides : UInt64) (words : List UInt64) (start place : Nat) (face : UInt64) :
    Prop where
  start_le : start ≤ place
  rejected : ∀ i, start ≤ i → i < place → face? sides (wordThenZero words i) = none
  accepted : face? sides (wordThenZero words place) = some face

/-- Dice show these faces, each that of the first accepted word behind the words of the dice before
it, and the words of all of them reach up to `stop`. -/
inductive DrawnFrom (sides : UInt64) (words : List UInt64) : Nat → List UInt64 → Nat → Prop
  | nil (start : Nat) : DrawnFrom sides words start [] start
  | cons {start place stop : Nat} {face : UInt64} {faces : List UInt64}
      (first : FirstAccepted sides words start place face)
      (rest : DrawnFrom sides words (place + 1) faces stop) :
      DrawnFrom sides words start (face :: faces) stop

theorem wordThenZero_of_length_le (h : words.length ≤ place) : wordThenZero words place = 0 := by
  rw [wordThenZero, List.getElem?_eq_none h, Option.getD_none]

theorem firstAccepted_here (h : face? sides (wordThenZero words start) = some face) :
    FirstAccepted sides words start start face where
  start_le := Nat.le_refl start
  rejected := fun _ hi hlt => absurd hlt (Nat.not_lt.mpr hi)
  accepted := h

/-- A rejected word is passed over. -/
theorem FirstAccepted.of_succ (hstart : face? sides (wordThenZero words start) = none)
    (h : FirstAccepted sides words (start + 1) place face) :
    FirstAccepted sides words start place face where
  start_le := Nat.le_of_succ_le h.start_le
  rejected := by
    intro i hi hlt
    rcases Nat.eq_or_lt_of_le hi with rfl | hi
    · exact hstart
    · exact h.rejected i hi hlt
  accepted := h.accepted

/-- A die looks for its word no further than the first zero behind the words. -/
theorem FirstAccepted.place_le (h : FirstAccepted sides words start place face) :
    place ≤ max start words.length := by
  by_contra hlt
  have hzero : wordThenZero words (max start words.length) = 0 :=
    wordThenZero_of_length_le (Nat.le_max_right _ _)
  have hrejected := h.rejected (max start words.length) (Nat.le_max_left _ _) (Nat.not_le.mp hlt)
  rw [hzero, face?_zero] at hrejected
  exact absurd hrejected (by simp)

/-- **Every die draws a word**, and at most the words that are laid out are drawn beyond that. By
induction on the dice. -/
theorem DrawnFrom.bounds (h : DrawnFrom sides words start faces stop) :
    start + faces.length ≤ stop ∧ stop ≤ max start words.length + faces.length := by
  induction h with
  | nil start =>
    rw [List.length_nil]
    omega
  | cons first rest ih =>
    have hstart := first.start_le
    have hplace := first.place_le
    rw [List.length_cons]
    omega

/-- Every face that is drawn is a face of the die. -/
theorem DrawnFrom.isFace (hsides : 1 ≤ sides) (h : DrawnFrom sides words start faces stop) :
    ∀ face ∈ faces, IsFace sides face := by
  induction h with
  | nil start => exact fun face hface => absurd hface List.not_mem_nil
  | cons first rest ih =>
    intro face hface
    rcases List.mem_cons.mp hface with rfl | hface
    · exact isFace_of_face?_eq_some hsides first.accepted
    · exact ih face hface

/-! ## 2. What the source draws -/

/-- The words of which the first `n` are drawn. -/
def Words.after (words : List UInt64) (n : Nat) : Words := ⟨words.drop n, n⟩

/-- **A die shows the face of the first accepted word.**  By induction on the words that are left.
Where none is left, the word zero is the first one. -/
theorem firstAccepted_drawFace (sides : UInt64) (words : List UInt64) (start : Nat) :
    ∃ place face, FirstAccepted sides words start place face ∧
      drawFace sides (words.drop start) start = (face, .after words (place + 1)) := by
  generalize hleft : words.drop start = left
  induction left generalizing start with
  | nil =>
    have hlength : words.length ≤ start := List.drop_eq_nil_iff.mp hleft
    have hrest : words.drop (start + 1) = [] := List.drop_eq_nil_iff.mpr (by omega)
    refine ⟨start, 1, firstAccepted_here ?_, ?_⟩
    · rw [wordThenZero_of_length_le hlength, face?_zero]
    · rw [drawFace, Words.after, hrest]
  | cons word rest ih =>
    have hword : wordThenZero words start = word := by
      rw [wordThenZero, ← List.head?_drop, hleft, List.head?_cons, Option.getD_some]
    have hrest : words.drop (start + 1) = rest := by
      rw [← List.tail_drop, hleft, List.tail_cons]
    rw [← hword]
    cases hface : face? sides (wordThenZero words start) with
    | some face =>
      refine ⟨start, face, firstAccepted_here hface, ?_⟩
      rw [drawFace, hface, Words.after, hrest]
    | none =>
      obtain ⟨place, face, hfirst, hdraw⟩ := ih (start + 1) hrest
      refine ⟨place, face, hfirst.of_succ hface, ?_⟩
      rw [drawFace, hface]
      exact hdraw

/-- **Several dice draw one after the other.**  By induction on the number of dice that are still to
be thrown. -/
theorem drawnFrom_throwMany (sides : UInt64) (words : List UInt64) (n start : Nat) :
    ∃ faces stop, faces.length = n ∧ DrawnFrom sides words start faces stop ∧
      wordDice.throwMany sides n (.after words start) = (faces, .after words stop) := by
  induction n generalizing start with
  | zero => exact ⟨[], start, rfl, .nil start, rfl⟩
  | succ n ih =>
    obtain ⟨place, face, hfirst, hdraw⟩ := firstAccepted_drawFace sides words start
    obtain ⟨faces, stop, hlength, hrest, hthrow⟩ := ih (place + 1)
    have hthrown : wordDice.throw sides (.after words start) = (face, .after words (place + 1)) :=
      hdraw
    refine ⟨face :: faces, stop, ?_, .cons hfirst hrest, ?_⟩
    · rw [List.length_cons, hlength]
    · rw [DiceSource.throwMany, hthrown, hthrow]

/-! ## 3. Prepared dice -/

/-- Prepared dice show the numbers laid out for them. -/
theorem answers_preparedDice (sides : UInt64) (numbers : List UInt64) :
    preparedDice.answers sides numbers.length (.ofList numbers) = numbers := by
  have hthrown := preparedDice.throwEach_replicate sides numbers.length (.ofList numbers)
  rw [throwEach_preparedDice, Prod.mk.injEq] at hthrown
  rw [← hthrown.1]
  refine List.ext_getElem (by simp) fun i _ hi => ?_
  simp [preparedAnswers, Prepared.ofList, List.getElem?_eq_getElem hi]

/-! ## 4. Queries -/

/-- **A query is refused or it has a shape.**  A query that is refused comes to the same error with
every source, and leaves it as it is. -/
theorem Query.refused_or_exists_shape (q : Query) :
    (∃ reason, (∀ n, reason ≠ .overflow n) ∧
      ∀ (σ : Type) (source : DiceSource σ) (s : σ), q.solve source s = ⟨.error reason, s, []⟩) ∨
    ∃ e shape, q.expression = .ok e ∧ e.shape = .ok shape := by
  cases he : q.expression with
  | error reason =>
    refine .inl ⟨reason, fun n => ?_, fun σ source s => ?_⟩
    · rw [eq_malformed_of_parse_eq_error he]
      simp
    · rw [solve, he]
  | ok e =>
    cases hshape : e.shape with
    | error reason =>
      refine .inl ⟨reason, fun n => ?_, fun σ source s => ?_⟩
      · rcases DiceSet.shape_eq_error hshape with rfl | rfl <;> simp
      · rw [solve, he]
        exact DiceSet.evaluate_of_shape_eq_error hshape source s
    | ok shape => exact .inr ⟨e, shape, rfl, hshape⟩

/-- A query with a shape is thrown and read. -/
theorem Query.solve_of_shape_eq_ok {q : Query} {e : Expression} {shape : Shape}
    (he : q.expression = .ok e) (hshape : e.shape = .ok shape) {σ : Type} (source : DiceSource σ)
    (s : σ) :
    q.solve source s =
      ⟨outcomeOf shape.sides e.modifier (source.answers shape.sides shape.count.toNat s),
        source.after shape.sides shape.count.toNat s,
        [.rolling shape.count shape.sides e.modifier]⟩ := by
  rw [solve, he]
  exact DiceSet.evaluate_of_shape_eq_ok hshape source s

/-- The dice that are noted for it are those of its shape. -/
theorem Query.noted_of_shape_eq_ok {q : Query} {e : Expression} {shape : Shape}
    (he : q.expression = .ok e) (hshape : e.shape = .ok shape) {σ : Type} (source : DiceSource σ)
    (s : σ) :
    (q.solve source.noting (s, [])).source.2 = List.replicate shape.count.toNat shape.sides := by
  have hnoted := (DiceSet.evaluate_noting source e s []).2
  rw [List.nil_append, DiceSet.dice_of_shape_eq_ok hshape] at hnoted
  rw [solve, he]
  exact congrArg Prod.snd hnoted

/-- What a query with a shape makes of random words: its dice draw from the first word on. -/
theorem Query.exists_drawnFrom_of_shape_eq_ok {q : Query} {e : Expression} {shape : Shape}
    (he : q.expression = .ok e) (hshape : e.shape = .ok shape) (words : List UInt64) :
    ∃ rolls stop, rolls.length = shape.count.toNat ∧ DrawnFrom shape.sides words 0 rolls stop ∧
      q.solve wordDice (.ofList words) =
        ⟨outcomeOf shape.sides e.modifier rolls, .after words stop,
          [.rolling shape.count shape.sides e.modifier]⟩ := by
  obtain ⟨rolls, stop, hlength, hdrawn, hthrown⟩ :=
    drawnFrom_throwMany shape.sides words shape.count.toNat 0
  rw [DiceSource.throwMany_eq, Prod.mk.injEq] at hthrown
  obtain ⟨hanswers, hafter⟩ := hthrown
  refine ⟨rolls, stop, hlength, hdrawn, ?_⟩
  rw [← hanswers, ← hafter]
  exact solve_of_shape_eq_ok he hshape wordDice (.after words 0)

/-- **Random words are drawn in order and no more than are needed.**  A query that is malformed or
beyond a limit draws no word and throws no die. Every other query throws as many dice as its dice
set asks for, all with the same number of sides, which is within the limits. Each of them shows the
face of the first accepted word behind those of the dice before it, and these are the numbers of the
outcome. There are at least as many words drawn as dice thrown, and at most as many more as are laid
out in front of the zeros. Any source that answers the same numbers, such as prepared dice, leads to
the same result. -/
theorem words_are_drawn_in_order (q : Query) (words : List UInt64) :
    let run := q.solve wordDice (.ofList words)
    let noted := (q.solve wordDice.noting (.ofList words, [])).source.2
    (∀ reason, run.value = .error reason → (∀ n, reason ≠ .overflow n) →
      run.source.drawn = 0 ∧ run.source = .ofList words ∧ noted = []) ∧
    ((∀ reason, run.value = .error reason → ∃ n, reason = .overflow n) →
      ∃ e count sides rolls, q.expression = .ok e ∧
        FilledIn 1 e.count count ∧ FilledIn 100 e.sides sides ∧
        noted = List.replicate count.toNat sides ∧ 1 ≤ sides ∧ sides ≤ 1000000 ∧
        rolls.length = count.toNat ∧ DrawnFrom sides words 0 rolls run.source.drawn ∧
        (∀ roll ∈ rolls, IsFace sides roll) ∧ (∀ o, run.value = .ok o → o.rolls = rolls) ∧
        count.toNat ≤ run.source.drawn ∧ run.source.drawn ≤ count.toNat + words.length ∧
        (∀ (τ : Type) (source : DiceSource τ) (t : τ), source.answers sides count.toNat t = rolls →
          (q.solve source t).value = run.value) ∧
        (q.solve preparedDice (.ofList rolls)).value = run.value) := by
  intro run noted
  rcases q.refused_or_exists_shape with ⟨reason, hreason, hrun⟩ | ⟨e, shape, he, hshape⟩
  -- refused before any die is thrown: the run is the refusal, and no word is drawn
  · have hsolve := hrun _ wordDice (.ofList words)
    have hvalue : run.value = .error reason := congrArg Run.value hsolve
    have hsource : run.source = .ofList words := congrArg Run.source hsolve
    have hnoted : noted = [] := congrArg (·.source.2) (hrun _ wordDice.noting (.ofList words, []))
    refine ⟨fun _ _ _ => ⟨congrArg Words.drawn hsource, hsource, hnoted⟩, fun hoverflow => ?_⟩
    obtain ⟨n, hn⟩ := hoverflow reason hvalue
    exact absurd hn (hreason n)
  -- otherwise the words give the rolls, and the rolls give the outcome
  · obtain ⟨rolls, stop, hlength, hdrawn, hrun⟩ :=
      Query.exists_drawnFrom_of_shape_eq_ok he hshape words
    have hvalue : run.value = outcomeOf shape.sides e.modifier rolls := congrArg Run.value hrun
    have hstop : run.source.drawn = stop := congrArg (·.source.drawn) hrun
    -- nothing but the rolls enters the outcome, so any source that answers them leads to it
    have hsame (τ : Type) (source : DiceSource τ) (t : τ)
        (hanswers : source.answers shape.sides shape.count.toNat t = rolls) :
        (q.solve source t).value = outcomeOf shape.sides e.modifier rolls := by
      rw [Query.solve_of_shape_eq_ok he hshape, hanswers]
    have hprepared :
        preparedDice.answers shape.sides shape.count.toNat (.ofList rolls) = rolls := by
      rw [← hlength]
      exact answers_preparedDice _ rolls
    obtain ⟨-, -, hsides, hmax⟩ := DiceSet.bounds_of_shape_eq_ok hshape
    obtain ⟨hcount_filled, hsides_filled⟩ := DiceSet.filledIn_of_shape_eq_ok hshape
    obtain ⟨hlow, hhigh⟩ := hdrawn.bounds
    -- assemble; once dice are thrown an error can only be an overflow
    rw [hvalue, hstop]
    refine ⟨fun reason hreason hnot => ?_, fun _ => ⟨e, shape.count, shape.sides, rolls, he,
      hcount_filled, hsides_filled, Query.noted_of_shape_eq_ok he hshape wordDice _, hsides, hmax,
      hlength, hdrawn, hdrawn.isFace hsides, fun o ho => ?_, by omega, by omega, hsame,
      hsame _ preparedDice _ hprepared⟩⟩
    · obtain ⟨n, -, rfl⟩ := outcomeOf_eq_error hreason
      exact absurd rfl (hnot n)
    · exact rolls_of_outcomeOf_eq_ok ho

end DiceRoller
