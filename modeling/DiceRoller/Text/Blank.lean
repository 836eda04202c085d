/-
# Blank characters, trimming and words

A character is blank when Unicode gives it the property `White_Space`. Trimming takes blanks off
both ends of a text, and the words of a text are its longest runs of other characters. The list of
filters in the settings is read with the same means: it is cut at its commas, each part is trimmed,
and parts of which nothing is left are dropped (`entries`).

Every text of a user goes through one of these: a query is trimmed, a message is cut into words, an
option with filters into entries. They are written over lists of characters, and the functions on
strings only wrap them, so that proofs are about lists.

The lemmas beside the definitions say that the two ends are trimmed independently and that trimming
twice is trimming once, which is what lets `Query` carry its own trimmedness. What trimming takes
away is in `Proofs/Text/Blank.lean`, the words of a text in `Proofs/Text/Words.lean` and
`Proofs/Text/WordPlaces.lean`, and its entries in `Proofs/Text/Entries.lean`.
-/
namespace DiceRoller.Text

/-! ## 1. Blank characters -/

/-- The 25 characters with the property `White_Space`. -/
def isBlank (c : Char) : Bool :=
  let n := c.toNat
  (0x09 ≤ n && n ≤ 0x0D) || n == 0x20 || n == 0x85 || n == 0xA0 || n == 0x1680
    || (0x2000 ≤ n && n ≤ 0x200A) || n == 0x2028 || n == 0x2029 || n == 0x202F
    || n == 0x205F || n == 0x3000

/-! ## 2. Trimming -/

/-- The text without the blanks it begins with. -/
def trimStart (s : List Char) : List Char := s.dropWhile isBlank

/-- The text without the blanks it ends with. -/
def trimEnd (s : List Char) : List Char := (s.reverse.dropWhile isBlank).reverse

/-- The characters of a text without the blanks at either end. -/
def trimChars (s : List Char) : List Char := trimEnd (trimStart s)

/-- The text without the blanks at either end. -/
def trim (s : String) : String := String.ofList (trimChars s.toList)

@[simp] theorem trimStart_nil : trimStart [] = [] := rfl

@[simp] theorem trimEnd_nil : trimEnd [] = [] := rfl

/-- A first character survives trimming at the end unless everything from it on is blank. -/
theorem trimEnd_cons (c : Char) (s : List Char) :
    trimEnd (c :: s) = if trimEnd s = [] ∧ isBlank c then [] else c :: trimEnd s := by
  unfold trimEnd
  rw [List.reverse_cons, List.dropWhile_append]
  cases h : s.reverse.dropWhile isBlank with
  | nil => cases hc : isBlank c <;> simp [hc]
  | cons d t => simp

/-- The two ends are trimmed independently. -/
theorem trimStart_trimEnd (s : List Char) : trimStart (trimEnd s) = trimEnd (trimStart s) := by
  induction s with
  | nil => rfl
  | cons c s ih =>
    rw [trimEnd_cons]
    cases hc : isBlank c with
    | false => simp [trimStart, hc, trimEnd_cons]
    | true =>
      have hs : trimStart (c :: s) = trimStart s := by simp [trimStart, hc]
      rw [hs, ← ih]
      by_cases he : trimEnd s = []
      · simp [he]
      · rw [if_neg (by simp [he])]
        simp [trimStart, hc]

@[simp] theorem trimStart_trimStart (s : List Char) : trimStart (trimStart s) = trimStart s := by
  induction s with
  | nil => rfl
  | cons c s ih => cases hc : isBlank c <;> simp_all [trimStart]

@[simp] theorem trimEnd_trimEnd (s : List Char) : trimEnd (trimEnd s) = trimEnd s := by
  have h := trimStart_trimStart s.reverse
  simp only [trimStart, trimEnd, List.reverse_reverse] at h ⊢
  rw [h]

/-- A trimmed text has no blanks left to trim. -/
@[simp] theorem trimChars_trimChars (s : List Char) : trimChars (trimChars s) = trimChars s := by
  simp [trimChars, trimStart_trimEnd]

@[simp] theorem toList_trim (s : String) : (trim s).toList = trimChars s.toList := by
  simp [trim]

@[simp] theorem trim_trim (s : String) : trim (trim s) = trim s := by
  rw [trim, toList_trim, trimChars_trimChars, ← trim]

/-! ## 3. Words -/

/-- The longest runs of characters that are not blank, in order. -/
def wordChars (s : List Char) : List (List Char) :=
  (s.splitOnP isBlank).filter (!·.isEmpty)

/-- The words of a text, in order. -/
def words (s : String) : List String := (wordChars s.toList).map String.ofList

/-! ## 4. Comma separated entries -/

/-- The entries of a comma separated list, trimmed, with the blank ones left out. -/
def entryChars (s : List Char) : List (List Char) :=
  ((s.splitOn ',').map trimChars).filter (!·.isEmpty)

/-- The entries of a comma separated list, in order. -/
def entries (s : String) : List String := (entryChars s.toList).map String.ofList

end DiceRoller.Text
