/-
# Random dice are fair

A random word is multiplied by the number of sides, `n`. The products are the multiples of `n` below
`n * 2 ^ 64`. Face `k + 1` belongs to those between `k * 2 ^ 64` and the next multiple of `2 ^ 64`,
and there are not equally many of them for every face. So a word is accepted only if its product is
among the first `n * 2 ^ z` numbers from `k * 2 ^ 64` on, where `z` counts the zero bits in front of
`n`: that many numbers in a row hold `2 ^ z` multiples of `n`, wherever they begin.

The proof follows this. The limit is `n` shifted by its leading zeros, which fills a word and no
more (`shifted_bounds`), so nothing wraps around in it. Then the words of a face are an interval,
and the interval is counted.

* `face?_eq_some_iff`: the words of a face. The limit and the face are natural numbers, nothing
  wraps around.
* `isFace_of_face?_eq_some`: an accepted word gives a face of the die.
* `mul_mem_stretch_iff`: the multiples among numbers in a row.
* `firstWord_add_le`: all of them are words, also for the highest face.
* `words_of_every_face`: every face is given by the same number of words.

Fairness is a statement about the words and not about a generator: if all words are equally likely,
so are all faces among the accepted ones. It holds for every number of sides that a word can be, far
beyond the limit for dice.
-/
import DiceRoller.Dice.Words
import DiceRoller.Proofs.Evaluate.Throws
import Mathlib.Algebra.Order.Floor.Div
import Mathlib.Data.Set.Card
import Mathlib.Order.Interval.Finset.Nat

namespace DiceRoller

variable {sides word face : UInt64}

/-! ## 1. The limit -/

theorem wordCount_eq : wordCount = 2 ^ 64 := rfl

/-- **Shifted by its leading zeros a number fills a word** and no more than a word. -/
theorem shifted_bounds (h : 1 ≤ sides) :
    2 ^ 63 ≤ sides.toNat * 2 ^ leadingZeros sides ∧
    sides.toNat * 2 ^ leadingZeros sides < 2 ^ 64 := by
  have hpos : 1 ≤ sides.toNat := UInt64.le_iff_toNat_le.mp h
  have hne : sides.toNat ≠ 0 := by omega
  have hlog : sides.toNat.log2 < 64 := (Nat.log2_lt hne).mpr sides.toNat_lt
  have hbits : sides.toNat.log2 + leadingZeros sides = 63 := by
    unfold leadingZeros
    omega
  constructor
  · calc
      2 ^ 63 = 2 ^ sides.toNat.log2 * 2 ^ leadingZeros sides := by rw [← Nat.pow_add, hbits]
      _ ≤ sides.toNat * 2 ^ leadingZeros sides := Nat.mul_le_mul_right _ (Nat.log2_self_le hne)
  · calc
      sides.toNat * 2 ^ leadingZeros sides
        < 2 ^ (sides.toNat.log2 + 1) * 2 ^ leadingZeros sides :=
          Nat.mul_lt_mul_of_pos_right Nat.lt_log2_self (Nat.two_pow_pos _)
      _ = 2 ^ 64 := by rw [← Nat.pow_add, Nat.add_right_comm, hbits]

/-- The limit itself is accepted, and nothing is lost in the shift. -/
theorem le_zone_iff (h : 1 ≤ sides) {low : Nat} :
    low ≤ zone sides ↔ low < sides.toNat * 2 ^ leadingZeros sides := by
  obtain ⟨hlow, hhigh⟩ := shifted_bounds h
  rw [zone, wordCount_eq, Nat.shiftLeft_eq, Nat.mod_eq_of_lt hhigh]
  omega

/-! ## 2. The face of a word -/

/-- The high half of a product is below the number of sides. -/
theorem mul_div_lt (h : 1 ≤ sides) (word : UInt64) :
    word.toNat * sides.toNat / 2 ^ 64 < sides.toNat := by
  have hpos : 0 < sides.toNat := UInt64.le_iff_toNat_le.mp h
  exact Nat.div_lt_of_lt_mul (Nat.mul_lt_mul_of_pos_right word.toNat_lt hpos)

/-- **The words of a face**: the low half of the product is below the limit, and the high half is
one less than the face. -/
theorem face?_eq_some_iff (h : 1 ≤ sides) :
    face? sides word = some face ↔
      word.toNat * sides.toNat % 2 ^ 64 < sides.toNat * 2 ^ leadingZeros sides ∧
      face.toNat = 1 + word.toNat * sides.toNat / 2 ^ 64 := by
  have hquotient := mul_div_lt h word
  have hsides := sides.toNat_lt
  have hsize : 1 + word.toNat * sides.toNat / 2 ^ 64 < UInt64.size := by
    rw [UInt64.size]
    omega
  have hface : (UInt64.ofNat (1 + word.toNat * sides.toNat / 2 ^ 64)).toNat =
      1 + word.toNat * sides.toNat / 2 ^ 64 := UInt64.toNat_ofNat_of_lt' hsize
  unfold face?
  simp only [wordCount_eq, le_zone_iff h]
  split
  · rename_i haccepted
    rw [Option.some.injEq, ← UInt64.toNat_inj, hface]
    exact ⟨fun hf => ⟨haccepted, hf.symm⟩, fun hf => hf.2.symm⟩
  · rename_i hrejected
    exact ⟨fun hf => absurd hf (by simp), fun hf => absurd hf.1 hrejected⟩

/-- **An accepted word gives a face of the die.** -/
theorem isFace_of_face?_eq_some (h : 1 ≤ sides) (hface : face? sides word = some face) :
    IsFace sides face := by
  obtain ⟨-, hvalue⟩ := (face?_eq_some_iff h).mp hface
  have hquotient := mul_div_lt h word
  rw [isFace_iff]
  omega

/-! ## 3. The words of a face -/

/-- **Of `n * m` numbers in a row exactly `m` are multiples of `n`**, and they are multiples by `m`
numbers in a row. -/
theorem mul_mem_stretch_iff {n : Nat} (hn : 0 < n) (a m w : Nat) :
    a ≤ w * n ∧ w * n < a + n * m ↔ a ⌈/⌉ n ≤ w ∧ w < a ⌈/⌉ n + m := by
  have hceil (v : Nat) : a ⌈/⌉ n ≤ v ↔ a ≤ n * v := ceilDiv_le_iff_le_mul hn
  rw [Nat.mul_comm w n, hceil w]
  refine and_congr_right fun _ => ?_
  rcases Nat.lt_or_ge w m with hw | hw
  · have hmul : n * w < n * m := Nat.mul_lt_mul_of_pos_left hw hn
    constructor <;> intro <;> omega
  · -- past the first `m` multiples the end of the stretch is its beginning, `m` multiples earlier
    obtain ⟨v, rfl⟩ := Nat.exists_eq_add_of_le' hw
    have hv := hceil v
    rw [Nat.mul_add]
    constructor <;> intro <;> omega

/-- The first word that gives a face. -/
def firstWord (sides face : UInt64) : Nat := (face.toNat - 1) * 2 ^ 64 ⌈/⌉ sides.toNat

/-- **The words of a face follow one another.** -/
theorem face?_eq_some_iff_mem (hface : IsFace sides face) :
    face? sides word = some face ↔
      firstWord sides face ≤ word.toNat ∧
      word.toNat < firstWord sides face + 2 ^ leadingZeros sides := by
  have hsides := hface.one_le_sides
  obtain ⟨hone, hle⟩ := isFace_iff.mp hface
  have hpos : 0 < sides.toNat := by omega
  obtain ⟨-, hshifted⟩ := shifted_bounds hsides
  rw [face?_eq_some_iff hsides, firstWord, ← mul_mem_stretch_iff hpos]
  constructor <;> intro <;> omega

/-- All of them are words: the words of the highest face end before the words do. -/
theorem firstWord_add_le (hface : IsFace sides face) :
    firstWord sides face + 2 ^ leadingZeros sides ≤ 2 ^ 64 := by
  obtain ⟨hone, hle⟩ := isFace_iff.mp hface
  have hpos : 0 < sides.toNat := by omega
  obtain ⟨-, hshifted⟩ := shifted_bounds hface.one_le_sides
  have hfirst : firstWord sides face ≤ 2 ^ 64 := by
    rw [firstWord, ceilDiv_le_iff_le_mul hpos]
    omega
  by_contra hlt
  -- else the number behind the last word had its product among those of the face
  obtain ⟨-, hproduct⟩ := (mul_mem_stretch_iff hpos _ _ _).mpr ⟨hfirst, Nat.not_le.mp hlt⟩
  omega

/-- **Every face is given by the same number of words.** -/
theorem ncard_face?_eq_some (hface : IsFace sides face) :
    {word | face? sides word = some face}.ncard = 2 ^ leadingZeros sides := by
  have hend := firstWord_add_le hface
  have himage : UInt64.toNat '' {word | face? sides word = some face} =
      Finset.Ico (firstWord sides face) (firstWord sides face + 2 ^ leadingZeros sides) := by
    ext w
    rw [Set.mem_image, Finset.mem_coe, Finset.mem_Ico]
    constructor
    · rintro ⟨word, hword, rfl⟩
      exact (face?_eq_some_iff_mem hface).mp hword
    · intro hw
      have hsize : w < UInt64.size := by
        rw [UInt64.size]
        omega
      have hnat : (UInt64.ofNat w).toNat = w := UInt64.toNat_ofNat_of_lt' hsize
      refine ⟨.ofNat w, (face?_eq_some_iff_mem hface).mpr ?_, hnat⟩
      rwa [hnat]
  have hinjective : Function.Injective UInt64.toNat := fun _ _ h => UInt64.toNat_inj.mp h
  rw [← Set.ncard_image_of_injective _ hinjective, himage, Set.ncard_coe_finset, Nat.card_Ico,
    Nat.add_sub_cancel_left]

/-! ## 4. Fairness -/

/-- **Random dice are fair and in range**, whatever the number of sides. Let `width` be the power of
two that shifts the number of sides until it fills a word. A word is accepted when the low half of
its product with the number of sides is below the shifted number, and its face is one more than the
high half. Every accepted word gives a face of the die, and every face is given by exactly `width`
of the words. -/
theorem words_of_every_face (h : 1 ≤ sides) :
    let width := 2 ^ leadingZeros sides
    (2 ^ 63 ≤ sides.toNat * width ∧ sides.toNat * width < 2 ^ 64) ∧
    (∀ word face, face? sides word = some face ↔
      word.toNat * sides.toNat % 2 ^ 64 < sides.toNat * width ∧
      face.toNat = 1 + word.toNat * sides.toNat / 2 ^ 64) ∧
    (∀ word face, face? sides word = some face → IsFace sides face) ∧
    ∀ face, IsFace sides face → {word | face? sides word = some face}.ncard = width := by
  intro width
  refine ⟨shifted_bounds h, fun word face => face?_eq_some_iff h, fun word face hface => ?_,
    fun face hface => ?_⟩
  · exact isFace_of_face?_eq_some h hface
  · exact ncard_face?_eq_some hface

/-- A die with six sides, of which 6 is the highest face. -/
theorem words_of_every_face_six :
    (1 : UInt64) ≤ 6 ∧ {word | face? 6 word = some 6}.ncard = 2 ^ 61 := by
  have hsides : (1 : UInt64) ≤ 6 := by decide
  obtain ⟨-, -, -, hcount⟩ := words_of_every_face hsides
  exact ⟨hsides, hcount 6 ⟨by decide, by decide⟩⟩

end DiceRoller
