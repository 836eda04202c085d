/-
# The grammar of dice sets

The notation of dice sets (section 4.1 of the specification) as parsing expressions, and the walk
over the marked rules that collects the parts of a dice set. Every rule of the notation is one
definition. `spellingAt?` is this grammar in closed form:

* `reads_dice_of_some`: where it gives a spelling, the grammar reads a dice set and the walk
  collects that spelling;
* `reads_dice_of_none`: where it gives none, the grammar fails.

The lemmas follow the rules: runs of digits, a number that may be missing, a sign with its
magnitude, the modifier, and the whole. Each says what the rule reads at any text, so the next one
never looks into it. A repetition takes all it can and gives nothing back, which is why the grammar
fails where digits are not followed by a separator.

The walk enters the parts in the order in which they stand (`enter`). A part that is missing in the
text has no mark, and its place in the dice set stays empty. The two labels that no walk can meet
directly inside a dice set change nothing.
-/
import DiceRoller.Proofs.DiceSet.Leftmost
import DiceRoller.Proofs.Grammar.Parsing

namespace DiceRoller.Grammar

/-! ## 1. The rules -/

/-- A run of digits. -/
def digits : Parsing := .plus (.char Char.isDigit)

def count : Parsing := .mark .count digits

def sides : Parsing := .mark .sides digits

def magnitude : Parsing := .mark .magnitude digits

def percent : Parsing := .mark .percent (.char (· == '%'))

def add : Parsing := .mark .add (.seq (.char (· == '+')) magnitude)

def subtract : Parsing := .mark .subtract (.seq (.char (· == '-')) magnitude)

def modifier : Parsing := .alt add (.alt subtract percent)

/-- A dice set: the separator, which is a `d` of either case, and up to three parts around it. -/
def dice : Parsing :=
  .mark .dice (.seq (.opt count) (.seq (.char isSeparator) (.seq (.opt sides) (.opt modifier))))

/-! ## 2. Collecting the parts -/

/-- The digits of the magnitude inside a sign's rule. -/
def Node.magnitude (n : Node) : List Char := n.children.head?.elim [] Node.text

/-- Enters a marked part into a dice set. -/
def enter (d : Spelling) (n : Node) : Spelling :=
  match n.label with
  | .count => { d with count := some n.text }
  | .sides => { d with sides := some n.text }
  | .percent => { d with modifier := .percent }
  | .add => { d with modifier := .add n.magnitude }
  | .subtract => { d with modifier := .subtract n.magnitude }
  -- no dice set or bare magnitude stands directly inside a dice set
  | .dice | .magnitude => d

/-- The dice set whose parts stand inside a marked rule. -/
def Node.spelling (n : Node) : Spelling := n.children.foldl enter ⟨none, none, .plain⟩

/-- The dice set that a match is marked with, and where it stands. -/
def Match.found? (m : Match) : Option Found :=
  m.nodes.head?.map fun n => ⟨n.start, n.spelling⟩

/-! ## 3. Runs of digits -/

theorem reads_star_digit (i : Nat) (s : List Char) :
    Reads (.star (.char Char.isDigit)) i s
      (some ⟨s.takeWhile Char.isDigit, s.dropWhile Char.isDigit, []⟩) := by
  induction s generalizing i with
  | nil => exact .starEnd .charEnd
  | cons c s ih =>
    cases hc : c.isDigit with
    | false =>
      rw [List.takeWhile_cons_of_neg (by simp [hc]), List.dropWhile_cons_of_neg (by simp [hc])]
      exact .starEnd (.charOther hc)
    | true =>
      rw [List.takeWhile_cons_of_pos hc, List.dropWhile_cons_of_pos hc]
      exact .star (.char hc) (ih (i + 1))

theorem reads_digits (i : Nat) (s : List Char) :
    Reads digits i s ((digitRun? s).map (⟨·, s.dropWhile Char.isDigit, []⟩)) := by
  rw [digitRun?_eq]
  cases s with
  | nil => exact .seqFail .charEnd
  | cons c s =>
    cases hc : c.isDigit with
    | false =>
      rw [List.takeWhile_cons_of_neg (by simp [hc]), if_pos rfl]
      exact .seqFail (.charOther hc)
    | true =>
      rw [List.takeWhile_cons_of_pos hc, List.dropWhile_cons_of_pos hc, if_neg (by simp)]
      exact .seq (.char hc) (reads_star_digit (i + 1) s)

/-- A number that may be missing. Its mark is missing with it. -/
theorem reads_opt_mark_digits (label : Label) (i : Nat) (s : List Char) :
    Reads (.opt (.mark label digits)) i s
      (some ⟨s.takeWhile Char.isDigit, s.dropWhile Char.isDigit,
        ((digitRun? s).map (⟨label, i, ·, []⟩)).toList⟩) := by
  have h := reads_digits i s
  rw [digitRun?_eq] at h ⊢
  split at h
  · rename_i hnil
    have hrest : s.dropWhile Char.isDigit = s := by
      have := List.takeWhile_append_dropWhile (p := Char.isDigit) (l := s)
      rwa [hnil] at this
    rw [if_pos hnil, hnil, hrest]
    exact .optElse (.markFail h)
  · rename_i hne
    rw [if_neg hne]
    exact .opt (.mark h)

/-! ## 4. Modifiers -/

/-- A sign's rule needs the sign and digits behind it. -/
theorem reads_sign (label : Label) (sign : Char) (i : Nat) (s : List Char) :
    Reads (.mark label (.seq (.char (· == sign)) magnitude)) i (sign :: s)
      ((digitRun? s).map fun ds => ⟨sign :: ds, s.dropWhile Char.isDigit,
        [⟨label, i, sign :: ds, [⟨.magnitude, i + 1, ds, []⟩]⟩]⟩) := by
  have h := reads_digits (i + 1) s
  have hsign : Reads (.char (· == sign)) i (sign :: s) (some ⟨[sign], s, []⟩) := .char (by simp)
  cases hd : digitRun? s with
  | none =>
    rw [hd] at h
    exact .markFail (.seq hsign (.markFail h))
  | some ds =>
    rw [hd] at h
    exact .mark (.seq hsign (.mark h))

theorem reads_sign_other {label : Label} {sign c : Char} (hc : c ≠ sign) (i : Nat) (s : List Char) :
    Reads (.mark label (.seq (.char (· == sign)) magnitude)) i (c :: s) none :=
  .markFail (.seqFail (.charOther (by simpa using hc)))

/-- Where there is no modifier, none of the three rules matches. -/
theorem reads_modifier_none {i : Nat} {s : List Char}
    (h : ∀ c ∈ s.head?, c ≠ '+' ∧ c ≠ '-' ∧ c ≠ '%') : Reads modifier i s none := by
  cases s with
  | nil =>
    exact .altElse (.markFail (.seqFail .charEnd))
      (.altElse (.markFail (.seqFail .charEnd)) (.markFail .charEnd))
  | cons c s =>
    obtain ⟨hadd, hsub, hpercent⟩ := h c rfl
    exact .altElse (reads_sign_other hadd i s)
      (.altElse (reads_sign_other hsub i s) (.markFail (.charOther (by simpa using hpercent))))

/-- The modifier that is read is `modifierAt`, whatever parts were entered before it. -/
theorem reads_opt_modifier (i : Nat) (s : List Char) :
    ∃ m, Reads (.opt modifier) i s (some m) ∧
      ∀ d : Spelling, d.modifier = .plain →
        m.nodes.foldl enter d = { d with modifier := modifierAt s } := by
  -- the way out of all cases in which no modifier is read
  have nothing (h : Reads modifier i s none) (hp : modifierAt s = .plain) :
      ∃ m, Reads (.opt modifier) i s (some m) ∧
        ∀ d : Spelling, d.modifier = .plain →
          m.nodes.foldl enter d = { d with modifier := modifierAt s } :=
    ⟨_, .optElse h, fun d hd => by rw [hp, ← hd]; rfl⟩
  -- the first character tells the three kinds of modifiers apart
  rcases s with _ | ⟨c, rest⟩
  · exact nothing (reads_modifier_none (by simp)) rfl
  by_cases hpercent : c = '%'
  · subst hpercent
    exact ⟨_, .opt (.altElse (reads_sign_other (by decide) i rest)
      (.altElse (reads_sign_other (by decide) i rest) (.mark (.char rfl)))), fun d _ => rfl⟩
  by_cases hadd : c = '+'
  · subst hadd
    have h := reads_sign .add '+' i rest
    -- a sign needs a digit behind it; without one the kinds that follow fail on the sign
    cases hd : digitRun? rest with
    | none =>
      rw [hd] at h
      refine nothing (.altElse h (.altElse (reads_sign_other (by decide) i rest)
        (.markFail (.charOther rfl)))) ?_
      simp [modifierAt, hd]
    | some ds =>
      rw [hd] at h
      refine ⟨_, .opt (.alt h), fun d _ => ?_⟩
      simp [modifierAt, hd, enter, Node.magnitude]
  by_cases hsub : c = '-'
  · subst hsub
    have h := reads_sign .subtract '-' i rest
    cases hd : digitRun? rest with
    | none =>
      rw [hd] at h
      refine nothing (.altElse (reads_sign_other (by decide) i rest) (.altElse h
        (.markFail (.charOther rfl)))) ?_
      simp [modifierAt, hd]
    | some ds =>
      rw [hd] at h
      refine ⟨_, .opt (.altElse (reads_sign_other (by decide) i rest) (.alt h)), fun d _ => ?_⟩
      simp [modifierAt, hd, enter, Node.magnitude]
  · refine nothing (reads_modifier_none ?_) ?_
    · rintro x ⟨⟩
      exact ⟨hadd, hsub, hpercent⟩
    · simp [modifierAt, hadd, hsub, hpercent]

/-! ## 5. The whole dice set -/

/-- **Where the closed form gives none, the grammar fails.**  A repetition gives nothing back, so
digits that no separator follows are not tried as anything else. -/
theorem reads_dice_of_none {s : List Char} (h : spellingAt? s = none) (i : Nat) :
    Reads dice i s none := by
  rw [spellingAt?_eq_none_iff] at h
  refine .markFail (.seq (reads_opt_mark_digits .count i s) (.seqFail ?_))
  cases hrest : s.dropWhile Char.isDigit with
  | nil => exact .charEnd
  | cons c rest =>
    rw [hrest] at h
    exact .charOther (h c rfl)

theorem foldl_enter_number {label : Label} {i : Nat} (n : Option (List Char)) (d : Spelling) :
    (n.map (⟨label, i, ·, []⟩)).toList.foldl enter d =
      n.elim d fun ds => enter d ⟨label, i, ds, []⟩ := by
  cases n <;> rfl

/-- **Where the closed form gives a spelling, the grammar reads it.** -/
theorem reads_dice_of_some {s : List Char} {d : Spelling} (h : spellingAt? s = some d) (i : Nat) :
    ∃ m, Reads dice i s (some m) ∧ m.found? = some ⟨i, d⟩ := by
  unfold spellingAt? at h
  split at h
  · exact absurd h (by simp)
  rename_i c rest hrest
  split at h
  · rename_i hc
    cases h
    -- the four parts in a row, each from where the one before it stops
    have hcount := reads_opt_mark_digits .count i s
    rw [hrest] at hcount
    have hsides := reads_opt_mark_digits .sides (i + (s.takeWhile Char.isDigit).length + 1) rest
    obtain ⟨m, hm, hnodes⟩ := reads_opt_modifier
      (i + (s.takeWhile Char.isDigit).length + 1 + (rest.takeWhile Char.isDigit).length)
      (rest.dropWhile Char.isDigit)
    refine ⟨_, .mark (.seq hcount (.seq (.char hc) (.seq hsides hm))), ?_⟩
    simp only [Match.found?, Match.after, Node.spelling, List.head?_cons, Option.map_some,
      List.foldl_append, List.nil_append]
    rw [foldl_enter_number, foldl_enter_number, hnodes]
    · cases digitRun? s <;> cases digitRun? rest <;> rfl
    · cases digitRun? s <;> cases digitRun? rest <;> rfl
  · exact absurd h (by simp)

end DiceRoller.Grammar
