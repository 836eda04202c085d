/-
# The grammar of commands

A command is any text with a dice set in it (section 4.1 of the specification). The grammar looks
for the dice set in a loop that ends where one begins; until then each round skips a whole run of
digits, or one character where there is no digit.

The rounds over whole runs are there for speed. A loop that skips one character at a time would say
more plainly what is meant, and would read a long run of digits again from each of its positions.
This file proves that the two loops always come to the same result, and that the search of
`DiceSet/Search.lean` finds it.

* `reads_scan_step`, `reads_scan_any_skip`: one round of a loop, and many rounds of the plain one.
* `reads_command_iff`: the loop gives the same result as the plain one.
* `command_reads_leftmost_dice`: that result is the leftmost dice set, and it is what `search`
  finds.

Both rest on `reads_scan`, an induction over the rounds of the search that follows the two loops
side by side. Since a result is unique (`Reads.unique`), it is enough to exhibit one. That there is
one is a part of the statement: neither loop goes on for ever.

How long the loops take is not measured. What a parser says about a text that it cannot read is not
a part of the grammar.
-/
import DiceRoller.Proofs.Grammar.Dice

namespace DiceRoller.Grammar

/-! ## 1. The two loops -/

/-- Skips ahead by `step` until a dice set begins, and reads it. -/
def scan (step : Parsing) : Parsing := .seq (.star (.seq (.not dice) step)) dice

/-- The grammar of commands. -/
def command : Parsing := .seq .start (scan (.alt digits .any))

/-- The same with a loop that skips one character at a time. -/
def plainCommand : Parsing := .seq .start (scan .any)

/-! ## 2. One round -/

variable {step : Parsing} {i : Nat} {s : List Char}

/-- The loop ends where a dice set begins. -/
theorem reads_scan_here {m : Match} (h : Reads dice i s (some m)) :
    Reads (scan step) i s (some m) :=
  .seq (.starEnd (.seqFail (.not h))) h

/-- At the end of the text nothing is left to skip. -/
theorem reads_scan_end (h : Reads dice i [] none) (hstep : Reads step i [] none) :
    Reads (scan step) i [] none :=
  .seq (.starEnd (.seq (.notElse h) hstep)) h

/-- **One round.**  Where no dice set begins, the loop goes on behind the characters `cs` that its
step takes. -/
theorem reads_scan_step {cs rest : List Char} {r : Option Match} (h : Reads dice i s none)
    (hstep : Reads step i s (some ⟨cs, rest, []⟩)) (hr : Reads (scan step) (i + cs.length) rest r) :
    Reads (scan step) i s (r.map (Match.after ⟨cs, rest, []⟩)) := by
  have hround : Reads (.seq (.not dice) step) i s (some ⟨cs, rest, []⟩) := .seq (.notElse h) hstep
  cases hr with
  | @seq _ _ _ _ m r hstar hdice =>
    have hpos : i + cs.length + m.taken.length = i + (cs ++ m.taken).length := by
      rw [List.length_append, Nat.add_assoc]
    rw [hpos] at hdice
    have hafter : (r.map m.after).map (Match.after ⟨cs, rest, []⟩) =
        r.map (Match.after (Match.after ⟨cs, rest, []⟩ m)) := by
      cases r <;> simp [Match.after]
    rw [hafter]
    exact .seq (.star hround hstar) hdice
  | seqFail hstar => cases hstar

/-- **Many rounds of the plain loop.**  It steps over characters at which no dice set begins. -/
theorem reads_scan_any_skip {cs rest : List Char} {r : Option Match}
    (h : ∀ j < cs.length, spellingAt? ((cs ++ rest).drop j) = none)
    (hr : Reads (scan .any) (i + cs.length) rest r) :
    Reads (scan .any) i (cs ++ rest) (r.map (Match.after ⟨cs, rest, []⟩)) := by
  induction cs generalizing i with
  | nil =>
    have : r.map (Match.after ⟨[], rest, []⟩) = r := by cases r <;> rfl
    rw [this]
    exact hr
  | cons c cs ih =>
    have hrest : Reads (scan .any) (i + 1) (cs ++ rest) (r.map (Match.after ⟨cs, rest, []⟩)) := by
      refine ih (fun j hj => h (j + 1) (by simpa using hj)) ?_
      rw [Nat.add_assoc, Nat.add_comm 1]
      exact hr
    have hafter : (r.map (Match.after ⟨cs, rest, []⟩)).map (Match.after ⟨[c], cs ++ rest, []⟩) =
        r.map (Match.after ⟨c :: cs, rest, []⟩) := by
      cases r <;> simp [Match.after]
    have hany : Reads .any i (c :: (cs ++ rest)) (some ⟨[c], cs ++ rest, []⟩) := .any
    rw [List.cons_append, ← hafter]
    exact reads_scan_step (reads_dice_of_none (h 0 (by simp)) i) hany hrest

/-! ## 3. Both loops and the search -/

theorem found?_after (cs rest : List Char) (r : Option Match) :
    (r.map (Match.after ⟨cs, rest, []⟩)).map Match.found? = r.map Match.found? := by
  cases r <;> simp [Match.after, Match.found?]

/-- **The two loops read the same, and it is what the search finds.**  By induction over the rounds
of the search. Its step over a run of digits is one round of the fast loop and a round for each
digit of the plain one. -/
theorem reads_scan (i : Nat) (s : List Char) :
    ∃ r, Reads (scan (.alt digits .any)) i s r ∧ Reads (scan .any) i s r ∧
      r.map Match.found? = (searchFrom i s).map some := by
  fun_induction searchFrom i s with
  | case1 i s d h =>
    -- dice begin here, so both loops end
    obtain ⟨m, hm, hfound⟩ := reads_dice_of_some h i
    exact ⟨some m, reads_scan_here hm, reads_scan_here hm, by simp [hfound]⟩
  | case2 i h =>
    have hdice := reads_dice_of_none h i
    have hdigits : Reads digits i [] none := reads_digits i []
    exact ⟨none, reads_scan_end hdice (.altElse hdigits .anyEnd), reads_scan_end hdice .anyEnd, rfl⟩
  | case3 i c rest hc run h ih =>
    -- a run of digits: the fast loop takes it in one round
    obtain ⟨r, hfast, hplain, hfound⟩ := ih
    have hlen : i + 1 + run.length = i + (c :: run).length := by
      rw [List.length_cons, Nat.add_assoc, Nat.add_comm 1]
    rw [hlen] at hfast hplain
    have hrun : Reads digits i (c :: rest) (some ⟨c :: run, rest.dropWhile Char.isDigit, []⟩) := by
      have := reads_digits i (c :: rest)
      rwa [digitRun?_eq, List.takeWhile_cons_of_pos hc, List.dropWhile_cons_of_pos hc,
        if_neg (by simp)] at this
    have hsplit : c :: rest = (c :: run) ++ rest.dropWhile Char.isDigit := by
      rw [List.cons_append, List.takeWhile_append_dropWhile]
    refine ⟨_, reads_scan_step (reads_dice_of_none h i) (.alt hrun) hfast, ?_, ?_⟩
    -- the plain loop takes it digit by digit, and no dice begin inside it
    · rw [hsplit]
      refine reads_scan_any_skip (fun j hj => ?_) hplain
      rw [← hsplit]
      refine spellingAt?_drop_of_run h ?_
      rw [List.takeWhile_cons_of_pos hc]
      exact hj.le
    · rw [found?_after, hfound]
  | case4 i c rest hc h ih =>
    -- any other character is one round of each loop
    obtain ⟨r, hfast, hplain, hfound⟩ := ih
    have hdice := reads_dice_of_none h i
    have hany : Reads .any i (c :: rest) (some ⟨[c], rest, []⟩) := .any
    have hdigits : Reads digits i (c :: rest) none := by
      have := reads_digits i (c :: rest)
      rwa [digitRun?_eq, List.takeWhile_cons_of_neg hc, if_pos rfl] at this
    exact ⟨_, reads_scan_step hdice (.altElse hdigits hany) hfast,
      reads_scan_step hdice hany hplain, by rw [found?_after, hfound]⟩

/-! ## 4. The leftmost dice set -/

/-- The loop begins at the start of the text. -/
theorem reads_from_start {s : List Char} {r : Option Match} (h : Reads (scan step) 0 s r) :
    Reads (.seq .start (scan step)) 0 s r := by
  have : r.map (Match.after ⟨[], s, []⟩) = r := by cases r <;> rfl
  rw [← this]
  exact .seq .start h

/-- What the grammar, the plain grammar and the search make of a text. -/
theorem reads_command (t : List Char) :
    ∃ r, Reads command 0 t r ∧ Reads plainCommand 0 t r ∧
      r.map Match.found? = (search t).map some := by
  obtain ⟨r, hfast, hplain, hfound⟩ := reads_scan 0 t
  exact ⟨r, reads_from_start hfast, reads_from_start hplain, hfound⟩

/-- **The fast loop is the plain loop.** -/
theorem reads_command_iff {t : List Char} {r : Option Match} :
    Reads command 0 t r ↔ Reads plainCommand 0 t r := by
  obtain ⟨r₀, hfast, hplain, -⟩ := reads_command t
  constructor
  · intro h
    rwa [h.unique hfast]
  · intro h
    rwa [h.unique hplain]

theorem search_eq_none_of_reads {t : List Char} (h : Reads command 0 t none) :
    search t = none := by
  obtain ⟨r, hfast, -, hfound⟩ := reads_command t
  cases h.unique hfast
  simpa using hfound.symm

theorem search_eq_some_of_reads {t : List Char} {m : Match} (h : Reads command 0 t (some m)) :
    ∃ f, m.found? = some f ∧ search t = some f := by
  obtain ⟨r, hfast, -, hfound⟩ := reads_command t
  cases h.unique hfast
  obtain ⟨f, hf, hm⟩ := Option.map_eq_some_iff.mp hfound.symm
  exact ⟨f, hm.symm, hf⟩

/-- **The grammar of commands reads the leftmost dice set, and so does the search.**  The fast loop
always comes to a result, the one of the plain loop. It succeeds exactly when a dice set can be read
at some position; then the dice set that it is marked with stands at the least such position, and
has the parts that are read there. -/
theorem command_reads_leftmost_dice (t : List Char) :
    (∃ r, Reads command 0 t r) ∧
    (∀ r, Reads command 0 t r ↔ Reads plainCommand 0 t r) ∧
    ((∃ m, Reads command 0 t (some m)) ↔
      ∃ i ≤ t.length, ∃ m, Reads dice i (t.drop i) (some m)) ∧
    (∀ m, Reads command 0 t (some m) → ∃ f, m.found? = some f ∧ search t = some f ∧
      (∃ d, Reads dice f.start (t.drop f.start) (some d) ∧ d.found? = some f) ∧
      ∀ i < f.start, Reads dice i (t.drop i) none) ∧
    (Reads command 0 t none → search t = none) := by
  obtain ⟨r, hr, -, hfound⟩ := reads_command t
  refine ⟨⟨r, hr⟩, fun r => reads_command_iff, ⟨?_, ?_⟩, ?_, search_eq_none_of_reads⟩
  · rintro ⟨m, hm⟩
    obtain ⟨f, -, hf⟩ := search_eq_some_of_reads hm
    have hl := search_eq_some_iff.mp hf
    obtain ⟨d, hd, -⟩ := reads_dice_of_some hl.here f.start
    exact ⟨f.start, hl.le_length, d, hd⟩
  · rintro ⟨i, -, d, hd⟩
    cases r with
    | some m => exact ⟨m, hr⟩
    | none =>
      have hnone := search_eq_none_iff.mp (search_eq_none_of_reads hr) i
      exact absurd (hd.unique (reads_dice_of_none hnone i)) (by simp)
  · intro m hm
    obtain ⟨f, hmf, hf⟩ := search_eq_some_of_reads hm
    have hl := search_eq_some_iff.mp hf
    exact ⟨f, hmf, hf, reads_dice_of_some hl.here f.start,
      fun i hi => reads_dice_of_none (hl.earlier i hi) i⟩

end DiceRoller.Grammar
