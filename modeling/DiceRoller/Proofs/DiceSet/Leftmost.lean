/-
# What the search finds

`searchFrom` walks through a text in steps of two sizes: one character, or a whole run of digits.
This file describes its result without steps. `Leftmost s n d` says that the dice set `d` begins
after `n` characters and that none begins earlier, and there is at most one such place.

* `search_eq_some_iff`: the search finds a dice set at a position exactly when a dice set begins
  there and none begins earlier.
* `search_eq_none_iff`: it finds nothing exactly when no dice set begins anywhere.

The step over a run is sound because whether a dice set begins at a text depends only on what
follows the text's first digits (`spellingAt?_eq_none_iff`), and all positions of a run are followed
by the same character. `Leftmost.skip_iff` is the one lemma about steps: characters at which no dice
set begins may be taken off the front, one or many. With it the induction over the search has the
same argument in both of its cases.

What a dice set at a position is made of plays no part here. This file is all that the closed form
and the grammar know of the search.
-/
import DiceRoller.DiceSet.Search
import Mathlib.Data.List.TakeWhile
import Mathlib.Data.Nat.Find

namespace DiceRoller

/-! ## 1. Where a dice set begins -/

theorem digitRun?_eq (s : List Char) :
    digitRun? s =
      if s.takeWhile Char.isDigit = [] then none else some (s.takeWhile Char.isDigit) := by
  cases h : s.takeWhile Char.isDigit <;> simp [digitRun?, h]

theorem drop_length_takeWhile (p : Char → Bool) (s : List Char) :
    s.drop (s.takeWhile p).length = s.dropWhile p := by
  calc s.drop (s.takeWhile p).length
      = (s.takeWhile p ++ s.dropWhile p).drop (s.takeWhile p).length := by
        rw [List.takeWhile_append_dropWhile]
    _ = s.dropWhile p := List.drop_left

theorem isSeparator_iff {c : Char} : isSeparator c = true ↔ c = 'd' ∨ c = 'D' := by
  simp [isSeparator]

theorem isDigit_eq_false_of_isSeparator {c : Char} (h : isSeparator c = true) :
    c.isDigit = false := by
  rcases isSeparator_iff.mp h with rfl | rfl <;> rfl

/-- No dice set begins at a text exactly when its first digits are not followed by a separator. -/
theorem spellingAt?_eq_none_iff {s : List Char} :
    spellingAt? s = none ↔ ∀ c ∈ (s.dropWhile Char.isDigit).head?, isSeparator c = false := by
  unfold spellingAt?
  split <;> rename_i h <;> simp [h]

/-- Digits in front of a text do not change whether a dice set begins. -/
theorem spellingAt?_append_eq_none_iff {ds s : List Char} (hds : ∀ c ∈ ds, c.isDigit = true) :
    spellingAt? (ds ++ s) = none ↔ spellingAt? s = none := by
  rw [spellingAt?_eq_none_iff, spellingAt?_eq_none_iff, List.dropWhile_append_of_pos hds]

/-- **A run of digits may be skipped.**  If no dice set begins at the first digit of a run, none
begins at any later one, nor right behind the run. -/
theorem spellingAt?_drop_of_run {s : List Char} (h : spellingAt? s = none) {j : Nat}
    (hj : j ≤ (s.takeWhile Char.isDigit).length) : spellingAt? (s.drop j) = none := by
  have hrun : ∀ c ∈ s.takeWhile Char.isDigit, c.isDigit = true := fun c hc =>
    List.mem_takeWhile_imp hc
  have hsplit : s.takeWhile Char.isDigit ++ s.dropWhile Char.isDigit = s :=
    List.takeWhile_append_dropWhile
  rw [← hsplit, spellingAt?_append_eq_none_iff hrun] at h
  rw [← hsplit, List.drop_append_of_le_length hj,
    spellingAt?_append_eq_none_iff (fun c hc => hrun c (List.mem_of_mem_drop hc))]
  exact h

/-! ## 2. The leftmost dice set -/

/-- The dice set `d` begins after `n` characters of `s`, and none begins earlier. -/
structure Leftmost (s : List Char) (n : Nat) (d : Spelling) : Prop where
  here : spellingAt? (s.drop n) = some d
  earlier : ∀ j < n, spellingAt? (s.drop j) = none

theorem Leftmost.unique {s : List Char} {n m : Nat} {d e : Spelling} (hd : Leftmost s n d)
    (he : Leftmost s m e) : n = m ∧ d = e := by
  rcases Nat.lt_trichotomy n m with h | rfl | h
  · have := he.earlier n h
    rw [hd.here] at this
    exact absurd this (by simp)
  · exact ⟨rfl, Option.some.inj (hd.here.symm.trans he.here)⟩
  · have := hd.earlier m h
    rw [he.here] at this
    exact absurd this (by simp)

/-- Wherever a dice set begins, a leftmost one begins there or earlier. -/
theorem Leftmost.exists_of_spellingAt? {s : List Char} {n : Nat} {d : Spelling}
    (h : spellingAt? (s.drop n) = some d) : ∃ m e, m ≤ n ∧ Leftmost s m e := by
  have hex : ∃ m, spellingAt? (s.drop m) ≠ none := ⟨n, by simp [h]⟩
  obtain ⟨e, he⟩ := Option.ne_none_iff_exists'.mp (Nat.find_spec hex)
  refine ⟨Nat.find hex, e, Nat.find_min' hex (by simp [h]), he, fun j hj => ?_⟩
  exact not_not.mp (Nat.find_min hex hj)

/-- Characters at which no dice set begins may be taken off the front. -/
theorem Leftmost.skip_iff {s : List Char} {k n : Nat} {d : Spelling}
    (hk : ∀ j < k, spellingAt? (s.drop j) = none) :
    Leftmost s n d ↔ ∃ m, n = k + m ∧ Leftmost (s.drop k) m d := by
  constructor
  · rintro ⟨here, earlier⟩
    have hkn : k ≤ n := by
      by_contra h
      rw [hk n (by omega)] at here
      exact absurd here (by simp)
    obtain ⟨m, rfl⟩ := Nat.exists_eq_add_of_le hkn
    refine ⟨m, rfl, by rwa [List.drop_drop], fun j hj => ?_⟩
    rw [List.drop_drop]
    exact earlier (k + j) (by omega)
  · rintro ⟨m, rfl, here, earlier⟩
    rw [List.drop_drop] at here
    refine ⟨here, fun j hj => ?_⟩
    rcases Nat.lt_or_ge j k with h | h
    · exact hk j h
    · obtain ⟨i, rfl⟩ := Nat.exists_eq_add_of_le h
      rw [← List.drop_drop]
      exact earlier i (by omega)

/-- The same with the position counted from the start of a longer text. -/
theorem Leftmost.exists_skip_iff {s : List Char} {k start p : Nat} {d : Spelling}
    (hk : ∀ j < k, spellingAt? (s.drop j) = none) :
    (∃ m, p = start + k + m ∧ Leftmost (s.drop k) m d) ↔
      ∃ n, p = start + n ∧ Leftmost s n d := by
  constructor
  · rintro ⟨m, hp, hl⟩
    exact ⟨k + m, by omega, (skip_iff hk).mpr ⟨m, rfl, hl⟩⟩
  · rintro ⟨n, hp, hl⟩
    obtain ⟨m, rfl, hm⟩ := (skip_iff hk).mp hl
    exact ⟨m, by omega, hm⟩

theorem Leftmost.le_length {s : List Char} {n : Nat} {d : Spelling} (h : Leftmost s n d) :
    n ≤ s.length := by
  by_contra hn
  have here := h.here
  rw [List.drop_eq_nil_of_le (by omega)] at here
  exact absurd here (by simp [spellingAt?])

/-! ## 3. The search finds it -/

/-- Both kinds of steps skip only positions at which no dice set begins. -/
theorem searchFrom_eq_some_iff (start : Nat) (s : List Char) (f : Found) :
    searchFrom start s = some f ↔ ∃ n, f.start = start + n ∧ Leftmost s n f.spelling := by
  fun_induction searchFrom start s with
  | case1 start s d h =>
    have h0 : Leftmost s 0 d := ⟨h, fun j hj => absurd hj (Nat.not_lt_zero j)⟩
    constructor
    · rintro ⟨⟩
      exact ⟨0, rfl, h0⟩
    · rintro ⟨n, hn, hl⟩
      obtain ⟨rfl, rfl⟩ := h0.unique hl
      cases f
      simp_all
  | case2 start h =>
    refine ⟨fun hf => absurd hf (by simp), ?_⟩
    rintro ⟨n, -, hl⟩
    have := hl.here
    rw [List.drop_nil, h] at this
    exact absurd this (by simp)
  | case3 start c rest hc run h ih =>
    -- a run of digits is skipped as a whole, for no dice begin inside it
    have hlen : ((c :: rest).takeWhile Char.isDigit).length = 1 + run.length := by
      rw [List.takeWhile_cons_of_pos hc, List.length_cons, Nat.add_comm]
    have hskip : ∀ j < 1 + run.length, spellingAt? ((c :: rest).drop j) = none :=
      fun j hj => spellingAt?_drop_of_run h (by rw [hlen]; exact hj.le)
    have hdrop : (c :: rest).drop (1 + run.length) = rest.dropWhile Char.isDigit := by
      rw [← hlen, drop_length_takeWhile, List.dropWhile_cons_of_pos hc]
    rw [ih, ← Leftmost.exists_skip_iff hskip, hdrop, Nat.add_assoc start]
  | case4 start c rest hc h ih =>
    have hskip : ∀ j < 1, spellingAt? ((c :: rest).drop j) = none := by
      intro j hj
      rw [Nat.lt_one_iff.mp hj]
      exact h
    rw [ih, ← Leftmost.exists_skip_iff hskip]
    rfl

/-- **The search finds the leftmost dice set.** -/
theorem search_eq_some_iff {s : List Char} {f : Found} :
    search s = some f ↔ Leftmost s f.start f.spelling := by
  rw [search, searchFrom_eq_some_iff]
  simp

/-- **The search fails only if there is no dice set.** -/
theorem search_eq_none_iff {s : List Char} :
    search s = none ↔ ∀ n, spellingAt? (s.drop n) = none := by
  constructor
  · intro h n
    by_contra hne
    obtain ⟨d, hd⟩ := Option.ne_none_iff_exists'.mp hne
    obtain ⟨m, e, -, hl⟩ := Leftmost.exists_of_spellingAt? hd
    have : search s = some ⟨m, e⟩ := search_eq_some_iff.mpr hl
    rw [h] at this
    exact absurd this (by simp)
  · intro h
    cases hs : search s with
    | none => rfl
    | some f =>
      have := (search_eq_some_iff.mp hs).here
      rw [h] at this
      exact absurd this (by simp)

end DiceRoller
