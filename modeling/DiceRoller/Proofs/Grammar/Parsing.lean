/-
# Parsing expressions

A grammar is made of parsing expressions. Applied to the rest of a text, an expression either fails
or takes a piece off the front. A choice tries its second branch only where the first one fails, and
a repetition takes all that it can and gives nothing back.

`Reads` is this reading as a relation between an expression, a position and a result, with one rule
for each way in which an expression can come to it. The position counts the characters in front of
the text, so that a rule can ask for the start of the whole text and a mark can say where it stands.
Marked rules leave nodes behind, and a match keeps them in order.

An expression may loop for ever, and then it has no result; `Reads.unique` says that it never has
two. Its proof is an induction on the reading with one case for each rule. In most of them the
second reading must have gone by the same rule, and where two rules fit, one of them would need an
expression both to fail and to match.

Only the kinds of expressions are here that the notation of dice sets needs. There is no recursion
between rules, so a grammar is a term, and no fuel is needed to say what it reads.
-/
namespace DiceRoller.Grammar

/-! ## 1. Expressions -/

/-- The rules of the notation that leave a mark in what is read. -/
inductive Label where
  | dice
  | count
  | sides
  | magnitude
  | percent
  | add
  | subtract
deriving DecidableEq

/-- What a marked rule has read: the number of characters in front of it, its text, and the marked
rules inside it. -/
structure Node where
  label : Label
  start : Nat
  text : List Char
  children : List Node

/-- A parsing expression. -/
inductive Parsing where
  /-- The start of the whole text, where nothing is taken. -/
  | start
  /-- Any character. -/
  | any
  /-- A character of a class. -/
  | char (p : Char → Bool)
  /-- One after the other. -/
  | seq (a b : Parsing)
  /-- The first, or the second where the first fails. -/
  | alt (a b : Parsing)
  /-- As many times as possible. -/
  | star (a : Parsing)
  /-- Once if possible. -/
  | opt (a : Parsing)
  /-- Takes nothing, and fails where the expression does not. -/
  | not (a : Parsing)
  /-- The same with a mark. -/
  | mark (label : Label) (a : Parsing)

/-- As many times as possible and at least once. -/
def Parsing.plus (a : Parsing) : Parsing := .seq a (.star a)

/-! ## 2. Reading -/

/-- What an expression takes off the front of a text, what it leaves, and the marks. -/
structure Match where
  taken : List Char
  rest : List Char
  nodes : List Node

/-- A match that begins with another one. -/
def Match.after (first second : Match) : Match where
  taken := first.taken ++ second.taken
  rest := second.rest
  nodes := first.nodes ++ second.nodes

/-- The expression, applied to the rest `s` of a text behind its first `i` characters, comes to the
result `r`, which is `none` when it fails. -/
inductive Reads : Parsing → Nat → List Char → Option Match → Prop
  | start {s} : Reads .start 0 s (some ⟨[], s, []⟩)
  | notStart {i s} : 0 < i → Reads .start i s none
  | any {i c s} : Reads .any i (c :: s) (some ⟨[c], s, []⟩)
  | anyEnd {i} : Reads .any i [] none
  | char {p i c s} : p c = true → Reads (.char p) i (c :: s) (some ⟨[c], s, []⟩)
  | charOther {p i c s} : p c = false → Reads (.char p) i (c :: s) none
  | charEnd {p i} : Reads (.char p) i [] none
  | seq {a b i s m r} : Reads a i s (some m) → Reads b (i + m.taken.length) m.rest r →
      Reads (.seq a b) i s (r.map m.after)
  | seqFail {a b i s} : Reads a i s none → Reads (.seq a b) i s none
  | alt {a b i s m} : Reads a i s (some m) → Reads (.alt a b) i s (some m)
  | altElse {a b i s r} : Reads a i s none → Reads b i s r → Reads (.alt a b) i s r
  | star {a i s m m'} : Reads a i s (some m) →
      Reads (.star a) (i + m.taken.length) m.rest (some m') →
      Reads (.star a) i s (some (m.after m'))
  | starEnd {a i s} : Reads a i s none → Reads (.star a) i s (some ⟨[], s, []⟩)
  | opt {a i s m} : Reads a i s (some m) → Reads (.opt a) i s (some m)
  | optElse {a i s} : Reads a i s none → Reads (.opt a) i s (some ⟨[], s, []⟩)
  | not {a i s m} : Reads a i s (some m) → Reads (.not a) i s none
  | notElse {a i s} : Reads a i s none → Reads (.not a) i s (some ⟨[], s, []⟩)
  | mark {label a i s m} : Reads a i s (some m) →
      Reads (.mark label a) i s (some ⟨m.taken, m.rest, [⟨label, i, m.taken, m.nodes⟩]⟩)
  | markFail {label a i s} : Reads a i s none → Reads (.mark label a) i s none

/-- **Reading has at most one result.** -/
theorem Reads.unique {e : Parsing} {i : Nat} {s : List Char} {r r' : Option Match}
    (h : Reads e i s r) (h' : Reads e i s r') : r = r' := by
  -- by induction on the first reading; the second ends by the same rule or by the one that excludes it
  induction h generalizing r' with
  | start => cases h' with
    | start => rfl
    | notStart hi => exact absurd hi (Nat.lt_irrefl 0)
  | notStart hi => cases h' with
    | start => exact absurd hi (Nat.lt_irrefl 0)
    | notStart => rfl
  | any => cases h'; rfl
  | anyEnd => cases h'; rfl
  | char hp => cases h' with
    | char => rfl
    | charOther hp' => simp [hp] at hp'
  | charOther hp => cases h' with
    | char hp' => simp [hp] at hp'
    | charOther => rfl
  | charEnd => cases h'; rfl
  -- a part is read in one way, so what stands behind it is the same for both readings
  | seq _ _ iha ihb => cases h' with
    | seq ha hb => cases iha ha; cases ihb hb; rfl
    | seqFail ha => cases iha ha
  | seqFail _ iha => cases h' with
    | seq ha => cases iha ha
    | seqFail => rfl
  | alt _ iha => cases h' with
    | alt ha => exact iha ha
    | altElse ha => cases iha ha
  | altElse _ _ iha ihb => cases h' with
    | alt ha => cases iha ha
    | altElse _ hb => exact ihb hb
  | star _ _ iha ihs => cases h' with
    | star ha hs => cases iha ha; cases ihs hs; rfl
    | starEnd ha => cases iha ha
  | starEnd _ iha => cases h' with
    | star ha => cases iha ha
    | starEnd => rfl
  | opt _ iha => cases h' with
    | opt ha => exact iha ha
    | optElse ha => cases iha ha
  | optElse _ iha => cases h' with
    | opt ha => cases iha ha
    | optElse => rfl
  | not _ iha => cases h' with
    | not => rfl
    | notElse ha => cases iha ha
  | notElse _ iha => cases h' with
    | not ha => cases iha ha
    | notElse => rfl
  | mark _ iha => cases h' with
    | mark ha => cases iha ha; rfl
    | markFail ha => cases iha ha
  | markFail _ iha => cases h' with
    | mark ha => cases iha ha
    | markFail => rfl

end DiceRoller.Grammar
