/-
# What a text is read as

`DiceSet.parse` searches a text for its leftmost dice set. This file gives the answer in closed
form, with no search: the first separator of the text decides everything. The digits that end the
text in front of it are the count, the digits behind it are the sides, and what follows those digits
is the modifier.

The reason is that every dice set has a separator, and in front of the first one there is none. So
the leftmost dice set is the one around the first separator, and its count reaches as far to the
left as there are digits. The text is cut into what stands before these digits, the digits, the
separator and the rest, and the search is followed over the first part (`search_append`).

* `parse_closed_form`: the closed form, for every text.
* `search_append`: the same for the search, at a text that is already cut into its parts.
* `ReadsNumber`, `ReadsModifier`: what a run of digits and what the text behind the sides is read
  as, as relations that say nothing of how they are read.

Only `d` and `D` are separators, and only the digits `0` to `9` are digits. The specification
(section 4.1) has the search in words; that the grammar leads to the same is
`Proofs/Grammar/Command.lean`.
-/
import DiceRoller.DiceSet.Parse
import DiceRoller.Proofs.DiceSet.Leftmost
import DiceRoller.Proofs.Text.Numeral
import Mathlib.Data.List.DropRight

namespace DiceRoller

open Text

/-! ## 1. The text around the first separator -/

/-- No dice set begins in front of the digits that lead to the first separator. -/
theorem spellingAt?_append_eq_none {q s : List Char} (hne : q ≠ [])
    (hq : ∀ c ∈ q, isSeparator c = false) (hlast : ∀ c ∈ q.getLast?, c.isDigit = false) :
    spellingAt? (q ++ s) = none := by
  have hdrop : q.dropWhile Char.isDigit ≠ [] := by
    intro hnil
    have hall := List.dropWhile_eq_nil_iff.mp hnil
    have := hlast (q.getLast hne) (List.getLast?_eq_getLast_of_ne_nil hne)
    rw [hall _ (List.getLast_mem hne)] at this
    exact absurd this (by simp)
  obtain ⟨c, u, hcu⟩ := List.exists_cons_of_ne_nil hdrop
  rw [spellingAt?_eq_none_iff, List.dropWhile_append, hcu]
  rintro x ⟨⟩
  exact hq c ((List.dropWhile_sublist _).subset (by rw [hcu]; exact List.mem_cons_self))

/-- **The search at a text cut into its parts**: some characters without a separator that do not end
in a digit, a run of digits, the first separator, and the rest. -/
theorem search_append {q ds r : List Char} {c : Char} (hq : ∀ x ∈ q, isSeparator x = false)
    (hlast : ∀ x ∈ q.getLast?, x.isDigit = false) (hds : ∀ x ∈ ds, x.isDigit = true)
    (hc : isSeparator c = true) :
    search (q ++ (ds ++ c :: r)) =
      some ⟨q.length, ⟨digitRun? ds, digitRun? r, modifierAt (r.dropWhile Char.isDigit)⟩⟩ := by
  have hcd : ¬ c.isDigit = true := by simp [isDigit_eq_false_of_isSeparator hc]
  refine search_eq_some_iff.mpr ⟨?_, fun j (hj : j < q.length) => ?_⟩
  · have htake : (ds ++ c :: r).takeWhile Char.isDigit = ds.takeWhile Char.isDigit := by
      rw [List.takeWhile_append_of_pos hds, List.takeWhile_cons_of_neg hcd, List.append_nil,
        List.takeWhile_eq_self_iff.mpr hds]
    have hdrop : (ds ++ c :: r).dropWhile Char.isDigit = c :: r := by
      rw [List.dropWhile_append_of_pos hds, List.dropWhile_cons_of_neg hcd]
    rw [List.drop_left, spellingAt?, hdrop, digitRun?_eq, digitRun?_eq ds, htake]
    simp [hc]
  · have hne : q.drop j ≠ [] := by
      rw [ne_eq, List.drop_eq_nil_iff]
      omega
    rw [List.drop_append_of_le_length hj.le]
    refine spellingAt?_append_eq_none hne (fun x hx => hq x (List.mem_of_mem_drop hx)) ?_
    rw [List.getLast?_drop, if_neg (by omega)]
    exact hlast

/-- A text without a separator holds no dice set. -/
theorem search_eq_none_of_forall {s : List Char} (h : ∀ c ∈ s, isSeparator c = false) :
    search s = none := by
  refine search_eq_none_iff.mpr fun n => spellingAt?_eq_none_iff.mpr fun c hc => h c ?_
  exact List.mem_of_mem_drop ((List.dropWhile_sublist _).subset (List.mem_of_mem_head? hc))

/-! ## 2. The parts as they are read -/

/-- What a run of digits is read as. No digits give no number; otherwise it is the decimal value, or
the greatest word where the value is no word. -/
inductive ReadsNumber : List Char → Option UInt64 → Prop
  | missing : ReadsNumber [] none
  | number {ds : List Char} {n : UInt64} (ne_nil : ds ≠ [])
      (value : n.toNat = min (digitsValue ds) (2 ^ 64 - 1)) : ReadsNumber ds (some n)

/-- What the text behind the sides is read as. A sign counts only with a digit directly behind it.
-/
inductive ReadsModifier : List Char → Modifier UInt64 → Prop
  | percent {s : List Char} : ReadsModifier ('%' :: s) .percent
  | add {s : List Char} {n : UInt64} (digits : ReadsNumber (s.takeWhile Char.isDigit) (some n)) :
      ReadsModifier ('+' :: s) (.add n)
  | subtract {s : List Char} {n : UInt64}
      (digits : ReadsNumber (s.takeWhile Char.isDigit) (some n)) :
      ReadsModifier ('-' :: s) (.subtract n)
  | plain {s : List Char} (not_percent : s.head? ≠ some '%')
      (dangling : ∀ sign d rest, s = sign :: d :: rest → sign = '+' ∨ sign = '-' →
        d.isDigit = false) : ReadsModifier s .plain

theorem readsNumber_digitRun? (s : List Char) :
    ReadsNumber (s.takeWhile Char.isDigit) ((digitRun? s).map saturated) := by
  rw [digitRun?_eq]
  split
  · rename_i h
    rw [h]
    exact .missing
  · rename_i h
    exact .number h (toNat_saturated _)

/-- A sign that no digit follows is dangling. -/
theorem ReadsModifier.of_digitRun?_eq_none {c : Char} {s : List Char} (hc : c ≠ '%')
    (h : digitRun? s = none) : ReadsModifier (c :: s) .plain := by
  refine .plain (by simpa using hc) ?_
  rintro sign d u ⟨⟩ -
  by_contra hd
  rw [digitRun?_eq, List.takeWhile_cons_of_pos (by simpa using hd), if_neg (by simp)] at h
  exact absurd h (by simp)

theorem readsModifier_modifierAt (s : List Char) :
    ReadsModifier s ((modifierAt s).map saturated) := by
  unfold modifierAt
  split
  · exact .percent
  · rename_i rest
    have h := readsNumber_digitRun? rest
    cases hd : digitRun? rest with
    | none => exact .of_digitRun?_eq_none (by decide) hd
    | some ds =>
      rw [hd] at h
      exact .add h
  · rename_i rest
    have h := readsNumber_digitRun? rest
    cases hd : digitRun? rest with
    | none => exact .of_digitRun?_eq_none (by decide) hd
    | some ds =>
      rw [hd] at h
      exact .subtract h
  · rename_i hpercent hadd hsub
    refine .plain (fun h => ?_) ?_
    · obtain ⟨u, rfl⟩ := List.head?_eq_some_iff.mp h
      exact hpercent u rfl
    · rintro sign d u rfl (rfl | rfl)
      · exact absurd rfl (hadd (d :: u))
      · exact absurd rfl (hsub (d :: u))

/-! ## 3. The closed form -/

theorem parse_of_search_eq_some {t : String} {f : Found} (h : search t.toList = some f) :
    DiceSet.parse t = .ok (f.spelling.map saturated) := by
  rw [DiceSet.parse, h]

theorem parse_of_search_eq_none {t : String} (h : search t.toList = none) :
    DiceSet.parse t = .error (.malformed t) := by
  rw [DiceSet.parse, h]

/-- The only error is that of the whole text. -/
theorem eq_malformed_of_parse_eq_error {t : String} {reason : RollError}
    (h : DiceSet.parse t = .error reason) : reason = .malformed t := by
  cases hs : search t.toList with
  | none =>
    rw [parse_of_search_eq_none hs] at h
    exact (Except.error.inj h).symm
  | some f =>
    rw [parse_of_search_eq_some hs] at h
    exact absurd h (by simp)

theorem isSeparator_eq_false_of_not_mem {s : List Char} (hd : 'd' ∉ s) (hD : 'D' ∉ s) :
    ∀ c ∈ s, isSeparator c = false := by
  intro c hc
  rw [Bool.eq_false_iff, ne_eq, isSeparator_iff]
  rintro (rfl | rfl)
  · exact hd hc
  · exact hD hc

theorem exists_first_separator {s : List Char} (h : ∃ c ∈ s, isSeparator c = true) :
    ∃ p c r, s = p ++ c :: r ∧ isSeparator c = true ∧ ∀ x ∈ p, isSeparator x = false := by
  obtain ⟨c, hfind⟩ := Option.isSome_iff_exists.mp (List.find?_isSome.mpr h)
  obtain ⟨hc, p, r, hs, hp⟩ := List.find?_eq_some_iff_append.mp hfind
  exact ⟨p, c, r, hs, hc, by simpa using hp⟩

/-- The digits in front of the first separator are cut off from what stands before them. -/
theorem search_first_separator {p r : List Char} {c : Char} (hp : ∀ x ∈ p, isSeparator x = false)
    (hc : isSeparator c = true) :
    search (p ++ c :: r) = some ⟨(p.rdropWhile Char.isDigit).length,
      ⟨digitRun? (p.rtakeWhile Char.isDigit), digitRun? r,
        modifierAt (r.dropWhile Char.isDigit)⟩⟩ := by
  have hsplit : p.rdropWhile Char.isDigit ++ p.rtakeWhile Char.isDigit = p :=
    List.rdropWhile_append_rtakeWhile
  conv_lhs => rw [← hsplit, List.append_assoc]
  refine search_append (fun x hx => hp x ?_) ?_ (fun x hx => List.mem_rtakeWhile_imp hx) hc
  · exact (List.rdropWhile_prefix _ _).subset hx
  · intro x hx
    rw [List.rdropWhile, List.getLast?_reverse, Option.mem_def] at hx
    have := List.head?_dropWhile_not Char.isDigit p.reverse
    rw [hx] at this
    simpa using this

/-- **The first separator decides.**  A text is read as a dice set exactly when it holds a `d` of
either case, and otherwise it is malformed as a whole. Where `c` is the first `d` or `D`, the count
is the run of digits in front of it, the sides are the run behind it, and the modifier stands behind
the sides. -/
theorem parse_closed_form (t : String) :
    ((∃ e, DiceSet.parse t = .ok e) ↔ 'd' ∈ t.toList ∨ 'D' ∈ t.toList) ∧
    (¬ (∃ e, DiceSet.parse t = .ok e) → DiceSet.parse t = .error (.malformed t)) ∧
    ∀ p c r, t.toList = p ++ c :: r → c = 'd' ∨ c = 'D' → 'd' ∉ p → 'D' ∉ p →
      ∃ e, DiceSet.parse t = .ok e ∧
        ReadsNumber (p.rtakeWhile Char.isDigit) e.count ∧
        ReadsNumber (r.takeWhile Char.isDigit) e.sides ∧
        ReadsModifier (r.dropWhile Char.isDigit) e.modifier := by
  refine ⟨⟨?_, ?_⟩, ?_, ?_⟩
  -- without a separator the search finds nothing
  · rintro ⟨e, he⟩
    by_contra hnot
    rw [not_or] at hnot
    have := isSeparator_eq_false_of_not_mem hnot.1 hnot.2
    rw [parse_of_search_eq_none (search_eq_none_of_forall this)] at he
    exact absurd he (by simp)
  -- with one it finds the dice set round the first
  · intro h
    have hex : ∃ c ∈ t.toList, isSeparator c = true := by
      rcases h with h | h
      · exact ⟨_, h, rfl⟩
      · exact ⟨_, h, rfl⟩
    obtain ⟨p, c, r, ht, hc, hp⟩ := exists_first_separator hex
    have hs := search_first_separator (r := r) hp hc
    rw [← ht] at hs
    exact ⟨_, parse_of_search_eq_some hs⟩
  · intro h
    cases hs : search t.toList with
    | none => exact parse_of_search_eq_none hs
    | some f => exact absurd ⟨_, parse_of_search_eq_some hs⟩ h
  · intro p c r ht hc hd hD
    have hp := isSeparator_eq_false_of_not_mem hd hD
    have hs := search_first_separator (r := r) hp (isSeparator_iff.mpr hc)
    rw [← ht] at hs
    refine ⟨_, parse_of_search_eq_some hs, ?_, readsNumber_digitRun? r, readsModifier_modifierAt _⟩
    -- the run in front of the separator holds only digits, so it is its own run of digits
    have := readsNumber_digitRun? (p.rtakeWhile Char.isDigit)
    rwa [List.takeWhile_eq_self_iff.mpr (fun x hx => List.mem_rtakeWhile_imp hx)] at this

end DiceRoller
