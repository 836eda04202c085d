/-
# Saturation is not observable

A numeral that is too long for a word is read as the greatest word (section 4.1 of the
specification). This file proves that nobody can tell: a number that was cut off is above every
limit, so it ends in the error in which its exact value would have ended, and a number that was not
cut off is exact from there on.

The exact rules are those of `Proofs/Evaluate/Exact.lean`, over natural numbers and integers. The
proof is a simulation that goes through the program in its own order. Reading: the program has the
dice set of the exact rules with every number cut off. Limits: a word passes a limit below the
greatest word exactly when the number does. Dice: both throw the same ones. Arithmetic: within the
limits no sum leaves its machine type, and a magnitude that was cut off is no signed word.

* `parse_of_read_eq_some`, `parse_of_read_eq_none`: the program reads what the exact rules read,
  with every number cut off.
* `shape_map_word`: the limits see no difference.
* `agrees_applied`: both signs of a magnitude in one lemma, for a checked operation and the integer
  operation that it computes.
* `outcomeOf_agrees`: the dice come to the same outcome, whichever numbers they show.
* `solve_agrees`: the two agree on every text and every source that shows faces.

The faces are needed for the sums to stay small. Dice that show other numbers may lead the sum out
of the signed words, and nothing is claimed about them.
-/
import DiceRoller.Proofs.DiceSet.ClosedForm
import DiceRoller.Proofs.Evaluate.Exact
import DiceRoller.Proofs.Evaluate.Signed
import DiceRoller.Proofs.Evaluate.Throws
import DiceRoller.Proofs.Text.Blank

namespace DiceRoller.Exact

/-! ## 1. Numbers that are cut off -/

/-- The word for a number: the number itself, or the greatest word. -/
def word (n : Nat) : UInt64 := .ofNatClamp n

theorem holds_word (n : Nat) : Holds (word n) n := Text.toNat_ofNatClamp n

theorem toNat_word {n : Nat} (h : n < 2 ^ 64) : (word n).toNat = n := by
  have := holds_word n
  unfold Holds at this
  omega

theorem word_inj {m n : Nat} (hm : m < 2 ^ 64) (hn : n < 2 ^ 64) : word m = word n ↔ m = n := by
  rw [← UInt64.toNat_inj, toNat_word hm, toNat_word hn]

theorem ofNat_eq_word {n : Nat} (h : n < 2 ^ 64) : UInt64.ofNat n = word n := by
  rw [← UInt64.toNat_inj, toNat_word h, UInt64.toNat_ofNat', Nat.mod_eq_of_lt h]

/-- A limit below the greatest word is passed by the word exactly when it is passed by the number.
-/
theorem lt_word_iff {limit : UInt64} (hlimit : limit.toNat < 2 ^ 64 - 1) {n : Nat} :
    limit < word n ↔ limit.toNat < n := by
  have := holds_word n
  unfold Holds at this
  rw [UInt64.lt_iff_toNat_lt]
  omega

theorem saturated_eq : Text.saturated = word ∘ Text.digitsValue := by
  funext ds
  rw [← UInt64.toNat_inj, Text.toNat_saturated, Function.comp_apply, holds_word]

/-! ## 2. Reading -/

theorem map_map {α β γ : Type} (f : α → β) (g : β → γ) (e : DiceSet α) :
    (e.map f).map g = e.map (g ∘ f) := by
  obtain ⟨count, sides, modifier⟩ := e
  cases modifier <;> simp [DiceSet.map, Modifier.map]

theorem parse_of_read_eq_some {t : String} {e : DiceSet Nat} (h : read t = some e) :
    DiceSet.parse t = .ok (e.map word) := by
  obtain ⟨f, hf, rfl⟩ := Option.map_eq_some_iff.mp h
  rw [parse_of_search_eq_some hf, map_map, saturated_eq]

theorem parse_of_read_eq_none {t : String} (h : read t = none) :
    DiceSet.parse t = .error (.malformed t) :=
  parse_of_search_eq_none (Option.map_eq_none_iff.mp h)

/-- A text that holds a separator is read, however long its digit runs are. -/
theorem read_ne_none {t : String} {c : Char} (ht : c ∈ t.toList) (hc : isSeparator c = true) :
    read t ≠ none := by
  obtain ⟨p, c, r, hpcr, hc, hp⟩ := exists_first_separator ⟨c, ht, hc⟩
  rw [read, hpcr, search_first_separator hp hc]
  simp

/-! ## 3. Limits -/

theorem orDefault_map_word (default : Nat) (n : Option Nat) :
    DiceRoller.orDefault (word default) (n.map word) = word (orDefault default n) := by
  rcases n with _ | _ | n
  · rfl
  · rfl
  · have hne : word (n + 1) ≠ 0 := by
      rw [ne_eq, ← UInt64.toNat_inj, holds_word, UInt64.toNat_zero]
      omega
    rw [Option.map_some, DiceRoller.orDefault, if_neg hne, orDefault]
    simp

/-- **The limits see no difference.** The number that is too large is the one that was written, cut
off; within the limits nothing was cut off. -/
theorem shape_map_word (e : DiceSet Nat) :
    (e.map word).shape =
      if 100 < orDefault 1 e.count then .error (.tooManyThrows (word (orDefault 1 e.count)))
      else if 1000000 < orDefault 100 e.sides then
        .error (.tooManySides (word (orDefault 100 e.sides)))
      else .ok ⟨word (orDefault 1 e.count), word (orDefault 100 e.sides)⟩ := by
  have hthrows : (e.map word).throws = word (orDefault 1 e.count) := orDefault_map_word 1 e.count
  have hfaces : (e.map word).faces = word (orDefault 100 e.sides) := orDefault_map_word 100 e.sides
  have hcount : maxThrows < word (orDefault 1 e.count) ↔ 100 < orDefault 1 e.count :=
    lt_word_iff (by decide)
  have hsides : maxSides < word (orDefault 100 e.sides) ↔ 1000000 < orDefault 100 e.sides :=
    lt_word_iff (by decide)
  rw [DiceSet.shape, hthrows, hfaces]
  simp only [GT.gt, hcount, hsides]

/-! ## 4. Outcomes -/

theorem text_ofTotal (total : DiceRoller.Total) : (ofTotal total).text = total.text := by
  cases total with
  | sum n => exact (signedNumeral_eq_repr n).symm
  | percent n => rfl

theorem joined_map_toNat (rolls : List UInt64) :
    joined (rolls.map UInt64.toNat) = joinRolls rolls := by
  rw [joined, joinRolls, List.map_map]
  rfl

variable {rolls : List UInt64}

/-- An outcome agrees with the exact one that shows the same way to the same total. -/
theorem agrees_shown {reading : Reading} {total : DiceRoller.Total} {way : String}
    (h : DiceRoller.Outcome.text ⟨rolls, reading, total⟩ = way ++ "= " ++ total.text) :
    Agrees (.ok ⟨rolls, reading, total⟩)
      (.ok (shown (rolls.map UInt64.toNat) way (ofTotal total))) := by
  refine .ok rfl rfl ?_
  rw [h, shown, text_ofTotal]

theorem agrees_summed (hsum : (rolls.map UInt64.toNat).sum < 2 ^ 63) :
    Agrees (.ok ⟨rolls, .plain, .sum (sumOf rolls)⟩) (.ok (summed (rolls.map UInt64.toNat))) := by
  have htotal : ofTotal (.sum (sumOf rolls)) = .sum (rolls.map UInt64.toNat).sum := by
    rw [ofTotal, toInt_sumOf hsum]
  rw [summed, joined_map_toNat, ← htotal]
  exact agrees_shown rfl

/-- A magnitude that was cut off is no signed word, and one that was not is the number itself. -/
theorem toNat_word_lt_and_iff {n : Nat} {p : Nat → Prop} :
    (word n).toNat < 2 ^ 63 ∧ p (word n).toNat ↔ n ≤ 2 ^ 63 - 1 ∧ p n := by
  have h := holds_word n
  unfold Holds at h
  have hlt : (word n).toNat < 2 ^ 63 ↔ n ≤ 2 ^ 63 - 1 := by omega
  rw [hlt]
  refine and_congr_right fun hn => ?_
  rw [toNat_word (by omega)]

/-- A checked operation that computes the integer operation `g` agrees with the exact rules. -/
theorem agrees_applied {reading : Reading} {checked : Option Int64} {sign : String} {n : Nat}
    {g : Int → Int}
    (hchecked : ∀ total, checked = some total ↔ (word n).toNat < 2 ^ 63 ∧
      fitsSigned (g (word n).toNat) = true ∧ total.toInt = g (word n).toNat)
    (htext : ∀ total, DiceRoller.Outcome.text ⟨rolls, reading, total⟩ =
      "(" ++ joinRolls rolls ++ ")" ++ sign ++ Text.numeral (word n) ++ "= " ++ total.text) :
    Agrees
      (checked.elim (.error (.overflow (word n))) fun total => .ok ⟨rolls, reading, .sum total⟩)
      (applied (rolls.map UInt64.toNat) sign n (g n)) := by
  have hchecked (total : Int64) : checked = some total ↔
      n ≤ 2 ^ 63 - 1 ∧ fitsSigned (g n) = true ∧ total.toInt = g n :=
    (hchecked total).trans
      (toNat_word_lt_and_iff (p := fun n => fitsSigned (g n) = true ∧ total.toInt = g n))
  unfold applied
  cases hc : checked with
  | some total =>
    obtain ⟨hn, hfits, htotal⟩ := (hchecked total).mp hc
    rw [fitsSigned_iff] at hfits
    have htext := htext (.sum total)
    rw [Text.numeral, toNat_word (by omega)] at htext
    rw [if_pos ⟨hn, hfits.1, by omega⟩, joined_map_toNat, ← htotal]
    exact agrees_shown htext
  | none =>
    -- refused: what the rules compute, the checked operation would have computed as well
    rw [if_neg]
    · exact .overflow (holds_word n)
    · rintro ⟨hn, hlow, hhigh⟩
      have htotal : (Int64.ofInt (g n)).toInt = g n :=
        Int64.toInt_ofInt_of_le (by omega) (by omega)
      have hfits : fitsSigned (g n) = true := fitsSigned_iff.mpr ⟨hlow, by omega⟩
      rw [(hchecked _).mpr ⟨hn, hfits, htotal⟩] at hc
      exact absurd hc (by simp)

theorem agrees_add {n : Nat} (hsum : (rolls.map UInt64.toNat).sum < 2 ^ 63) (sides : UInt64) :
    Agrees (DiceRoller.outcomeOf sides (.add (word n)) rolls)
      (applied (rolls.map UInt64.toNat) "+" n ((rolls.map UInt64.toNat).sum + n)) := by
  rw [outcomeOf_add, ← toInt_sumOf hsum]
  exact agrees_applied (g := fun x => (sumOf rolls).toInt + x) (fun _ => plus_eq_some_iff)
    fun total => by simp [DiceRoller.Outcome.text, String.append_assoc]

theorem agrees_subtract {n : Nat} (hsum : (rolls.map UInt64.toNat).sum < 2 ^ 63) (sides : UInt64) :
    Agrees (DiceRoller.outcomeOf sides (.subtract (word n)) rolls)
      (applied (rolls.map UInt64.toNat) "-" n ((rolls.map UInt64.toNat).sum - n)) := by
  rw [outcomeOf_subtract, ← toInt_sumOf hsum]
  exact agrees_applied (g := fun x => (sumOf rolls).toInt - x) (fun _ => minus_eq_some_iff)
    fun total => by simp [DiceRoller.Outcome.text, String.append_assoc]

/-- The digits of a percentage are put together in words without leaving them. -/
theorem agrees_digits {tens ones : UInt64} (htens : tens.toNat ≤ 1000000)
    (hones : ones.toNat ≤ 1000000) :
    Agrees (.ok ⟨[tens, ones], .percentile, .percent (tens * 10 + ones)⟩)
      (.ok (shown [tens.toNat, ones.toNat] (joined [tens.toNat, ones.toNat])
        (.percent (10 * tens.toNat + ones.toNat)))) := by
  have hvalue := (toNat_digits htens hones).2
  have hjoined : joined [tens.toNat, ones.toNat] = joinRolls [tens, ones] :=
    joined_map_toNat [tens, ones]
  rw [← hvalue, hjoined]
  have htext : DiceRoller.Outcome.text ⟨[tens, ones], .percentile, .percent (tens * 10 + ones)⟩ =
      joinRolls [tens, ones] ++ "= " ++ (DiceRoller.Total.percent (tens * 10 + ones)).text := rfl
  exact agrees_shown htext

/-- Up to a hundred dice with up to a million sides stay far below the signed words. -/
theorem sum_lt_of_forall_le (hlength : rolls.length ≤ 100)
    (hrolls : ∀ r ∈ rolls, r.toNat ≤ 1000000) : (rolls.map UInt64.toNat).sum < 2 ^ 63 := by
  have := sum_map_toNat_le hlength hrolls
  omega

/-- Only two dice with ten sides and one die with a hundred are a percentage. Everything else is a
sum. -/
theorem agrees_percent {sides : Nat} (hsides : sides ≤ 1000000)
    (hrolls : ∀ r ∈ rolls, r.toNat ≤ 1000000) (hsum : (rolls.map UInt64.toNat).sum < 2 ^ 63) :
    Agrees (DiceRoller.outcomeOf (word sides) .percent rolls)
      (outcomeOf sides .percent (rolls.map UInt64.toNat)) := by
  have h10 : word sides = 10 ↔ sides = 10 := word_inj (n := 10) (by omega) (by decide)
  have h100 : word sides = 100 ↔ sides = 100 := word_inj (n := 100) (by omega) (by decide)
  match rolls with
  | [] => exact agrees_summed hsum
  | [value] =>
    simp only [DiceRoller.outcomeOf, percentage?, outcomeOf, List.map_cons, List.map_nil, h100]
    by_cases h : sides = 100
    · rw [if_pos h, if_pos h]
      exact .ok rfl rfl rfl
    · rw [if_neg h, if_neg h]
      exact agrees_summed hsum
  | [tens, ones] =>
    simp only [DiceRoller.outcomeOf, percentage?, outcomeOf, List.map_cons, List.map_nil, h10]
    by_cases h : sides = 10
    · rw [if_pos h, if_pos h]
      exact agrees_digits (hrolls tens (by simp)) (hrolls ones (by simp))
    · rw [if_neg h, if_neg h]
      exact agrees_summed hsum
  | _ :: _ :: _ :: _ => exact agrees_summed hsum

/-- **The dice come to the same outcome**, as long as there are no more of them, and no greater
numbers on them, than the limits allow. -/
theorem outcomeOf_agrees {sides : Nat} (hsides : sides ≤ 1000000) (hlength : rolls.length ≤ 100)
    (hrolls : ∀ r ∈ rolls, r.toNat ≤ 1000000) (m : Modifier Nat) :
    Agrees (DiceRoller.outcomeOf (word sides) (m.map word) rolls)
      (outcomeOf sides m (rolls.map UInt64.toNat)) := by
  have hsum := sum_lt_of_forall_le hlength hrolls
  cases m with
  | plain => exact agrees_summed hsum
  | percent => exact agrees_percent hsides hrolls hsum
  | add n => exact agrees_add hsum _
  | subtract n => exact agrees_subtract hsum _

/-! ## 5. Every text and every source -/

variable {σ : Type}

/-- **A dice set is evaluated as the exact rules evaluate it**: with the same result, the same
source after it and the same dice. -/
theorem evaluate_agrees {source : DiceSource σ} {e : DiceSet Nat} {s : σ}
    (hfaces : (e.map word).ShowsFaces source s) :
    Agrees ((e.map word).evaluate source s).value (evaluate source e s).value ∧
    ((e.map word).evaluate source s).source = (evaluate source e s).source ∧
    (e.map word).dice.map UInt64.toNat = (evaluate source e s).throws := by
  have hshape := shape_map_word e
  unfold DiceSet.ShowsFaces at hfaces
  unfold evaluate DiceSet.evaluate DiceSet.dice
  generalize orDefault 1 e.count = count at hshape ⊢
  generalize orDefault 100 e.sides = sides at hshape ⊢
  -- both refuse in the same order, and for the same number as far as a word holds it
  by_cases hcount : 100 < count
  · rw [if_pos hcount] at hshape
    rw [hshape, if_pos hcount]
    exact ⟨.tooManyThrows (holds_word _), rfl, rfl⟩
  rw [if_neg hcount] at hshape ⊢
  by_cases hsides : 1000000 < sides
  · rw [if_pos hsides] at hshape
    rw [hshape, if_pos hsides]
    exact ⟨.tooManySides (holds_word _), rfl, rfl⟩
  rw [if_neg hsides] at hshape ⊢
  -- within the limits nothing was cut off, so both throw the same dice from the same source
  have hcount' : (word count).toNat = count := toNat_word (by omega)
  have hsides' : (word sides).toNat = sides := toNat_word (by omega)
  have hfaces := hfaces _ hshape
  rw [hshape, ofNat_eq_word (n := sides) (by omega)]
  simp only [hcount', true_and] at hfaces ⊢
  refine ⟨outcomeOf_agrees (by omega) ?_ (fun r hr => ?_) e.modifier, ?_⟩
  · rw [DiceSource.length_throwMany]
    omega
  · have := UInt64.le_iff_toNat_le.mp (hfaces r hr).2
    omega
  · rw [List.map_replicate, hsides']

/-- A dice set that was read is never found to be malformed later. -/
theorem evaluate_ne_malformed (source : DiceSource σ) (e : Expression) (s : σ) (text : String) :
    (e.evaluate source s).value ≠ .error (.malformed text) := by
  unfold DiceSet.evaluate
  cases hshape : e.shape with
  | error reason =>
    rintro ⟨⟩
    rcases DiceSet.shape_eq_error hshape with h | h <;> exact absurd h (by simp)
  | ok shape =>
    intro h
    obtain ⟨n, -, hn⟩ := outcomeOf_eq_error h
    exact absurd hn (by simp)

/-- **Saturation is not observable.**  Whatever the text and whatever the faces that the dice show,
the program agrees with the exact rules: the result is the same, an error holding its number as far
as a word can, and so are the source after the roll and the dice that were thrown. No text that
holds a separator is malformed, however long its numerals are. -/
theorem solve_agrees (source : DiceSource σ) (t : String) (s : σ)
    (hfaces : (Query.ofText t).ShowsFaces source s) :
    Agrees ((Query.ofText t).solve source s).value (solve source t s).value ∧
    ((Query.ofText t).solve source s).source = (solve source t s).source ∧
    (∃ noted : List UInt64,
      ((Query.ofText t).solve source.noting (s, [])).source = ((solve source t s).source, noted) ∧
      noted.map UInt64.toNat = (solve source t s).throws) ∧
    ('d' ∈ t.toList ∨ 'D' ∈ t.toList →
      ∀ text, ((Query.ofText t).solve source s).value ≠ .error (.malformed text)) := by
  have hexpression : (Query.ofText t).expression = DiceSet.parse (Text.trim t) := rfl
  unfold Query.ShowsFaces at hfaces
  unfold solve Query.solve
  rw [hexpression] at hfaces ⊢
  cases hread : read (Text.trim t) with
  | none =>
    rw [parse_of_read_eq_none hread]
    refine ⟨.malformed _, rfl, ⟨[], rfl, rfl⟩, ?_⟩
    rintro (hd | hD)
    · exact absurd hread (read_ne_none ((Text.mem_trim_iff (by decide)).mpr hd) rfl)
    · exact absurd hread (read_ne_none ((Text.mem_trim_iff (by decide)).mpr hD) rfl)
  | some e =>
    have hparse := parse_of_read_eq_some hread
    obtain ⟨hvalue, hsource, hthrows⟩ := evaluate_agrees (hfaces _ hparse)
    rw [hparse]
    refine ⟨hvalue, hsource, ⟨(e.map word).dice, ?_, hthrows⟩, fun _ => evaluate_ne_malformed _ _ _⟩
    rw [(DiceSet.evaluate_noting source _ s []).2, List.nil_append]
    exact congrArg (·, _) hsource

/-- Dice that always show their highest face. -/
def highest : DiceSource Unit where
  throw sides s := (sides, s)

/-- A magnitude that no word holds. The dice are thrown all the same, and the error keeps the
greatest word. -/
theorem solve_agrees_magnitude_cut_off :
    (Query.ofText " 2d10+99999999999999999999 ").ShowsFaces highest () ∧
    Agrees ((Query.ofText " 2d10+99999999999999999999 ").solve highest ()).value
      (.error (.overflow 99999999999999999999)) ∧
    ∃ noted, ((Query.ofText " 2d10+99999999999999999999 ").solve highest.noting ((), [])).source =
      ((), noted) ∧ noted.map UInt64.toNat = [10, 10] := by
  have hfaces : (Query.ofText " 2d10+99999999999999999999 ").ShowsFaces highest () :=
    Query.showsFaces (fun sides _ h => ⟨h, UInt64.le_refl sides⟩) _ _
  have htext : (Text.trim " 2d10+99999999999999999999 ").toList =
      ['2'] ++ 'd' :: "10+99999999999999999999".toList := by
    rw [Text.toList_trim]
    rfl
  have hread : read (Text.trim " 2d10+99999999999999999999 ") =
      some ⟨some 2, some 10, .add 99999999999999999999⟩ := by
    have hdigits : ∀ c ∈ ['2'], isSeparator c = false :=
      isSeparator_eq_false_of_not_mem (by simp) (by simp)
    rw [read, htext, search_first_separator hdigits rfl]
    rfl
  have hsolve : solve highest " 2d10+99999999999999999999 " () =
      evaluate highest ⟨some 2, some 10, .add 99999999999999999999⟩ () := by
    rw [solve, hread]
  obtain ⟨hagrees, -, hnoted, -⟩ := solve_agrees highest " 2d10+99999999999999999999 " () hfaces
  rw [hsolve] at hagrees hnoted
  exact ⟨hfaces, hagrees, hnoted⟩

end DiceRoller.Exact
