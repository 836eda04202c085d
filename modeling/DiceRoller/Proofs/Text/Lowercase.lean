/-
# Lower case inside a longer text

A text is put into lower case character by character, and only a capital sigma looks at what stands
around it. So a part of a text has the lower case that it has on its own, unless one of its sigmas
is final in one place and not in the other. What a sigma sees is the nearest character on each side
that is no mark. A sigma with such a character on both sides, inside the part, is the same wherever
the part stands; only a sigma at the edge of the part can change, and only some of those do
(`HasOpenSigma`).

The lower case of a part in its place is a definition of its own (`lowerBetween`), and a text is put
into lower case part by part with it. Then two places are compared sigma by sigma. That an open
sigma really is lost is shown by counting: put next to a letter, the longer text holds one sigma of
the needed form less than the part does.

* `lowerAfter_append`: a text is put into lower case part by part, by induction on the first part.
* `sigmasSettled_of_not_hasOpenSigma`: sigmas that are not open are the same everywhere.
* `occursIn_lowerChars`: where its sigmas are settled, a part occurs in lower case in the lower case
  of the whole.
* `forall_occursIn_lowerChars_iff`: this holds wherever a text stands exactly if no sigma in it is
  open.

Of the tables only single entries are used, so the results do not hang on the version of Unicode.
-/
import DiceRoller.Text.Lowercase
import DiceRoller.Text.Substring
import Mathlib.Data.List.TakeWhile

namespace DiceRoller.Text

/-! ## 1. What a sigma sees -/

/-- No character of the text counts for a sigma that stands beside it. -/
def OnlyMarks (s : List Char) : Prop := ∀ c ∈ s, isCaseIgnorable c = true

theorem isCaseIgnorable_sigma : isCaseIgnorable 'Σ' = false := by decide +kernel

theorem OnlyMarks.reverse {s : List Char} (h : OnlyMarks s) : OnlyMarks s.reverse :=
  fun c hc => h c (List.mem_reverse.mp hc)

theorem OnlyMarks.sigma_not_mem {s : List Char} (h : OnlyMarks s) : 'Σ' ∉ s := by
  intro hmem
  have hmark := h 'Σ' hmem
  rw [isCaseIgnorable_sigma] at hmark
  exact absurd hmark (by simp)

/-- Marks hide nothing. -/
theorem OnlyMarks.reachesCased_append {s : List Char} (h : OnlyMarks s) (t : List Char) :
    reachesCased (s ++ t) = reachesCased t := by
  rw [reachesCased, List.dropWhile_append_of_pos h, ← reachesCased]

theorem OnlyMarks.reachesCased_eq_false {s : List Char} (h : OnlyMarks s) :
    reachesCased s = false := by
  rw [← List.append_nil s, h.reachesCased_append]
  rfl

/-- Any other character hides what stands behind it. -/
theorem reachesCased_append_of_not_onlyMarks {s : List Char} (h : ¬ OnlyMarks s) (t : List Char) :
    reachesCased (s ++ t) = reachesCased s := by
  have hdrop : s.dropWhile isCaseIgnorable ≠ [] := fun hnil => h (List.dropWhile_eq_nil_iff.mp hnil)
  obtain ⟨c, rest, hcons⟩ := List.exists_cons_of_ne_nil hdrop
  rw [reachesCased, List.dropWhile_append, hcons, reachesCased, hcons]
  rfl

/-- A sigma hides what stands behind it. -/
theorem reachesCased_append_sigma (s t t' : List Char) :
    reachesCased (s ++ 'Σ' :: t) = reachesCased (s ++ 'Σ' :: t') := by
  have hnot : ¬ OnlyMarks (s ++ ['Σ']) := fun h => h.sigma_not_mem (by simp)
  rw [List.append_cons s 'Σ' t, List.append_cons s 'Σ' t',
    reachesCased_append_of_not_onlyMarks hnot, reachesCased_append_of_not_onlyMarks hnot]

/-! ## 2. Lower case in place -/

/-- The lower case of the second text where it stands between the other two. The first one is given
nearest character first. -/
def lowerBetween (before : List Char) : List Char → List Char → List Char
  | [], _ => []
  | c :: rest, after =>
    let here :=
      if c = 'Σ' then [if isFinalSigma before (rest ++ after) then 'ς' else 'σ'] else lowerChar c
    here ++ lowerBetween (c :: before) rest after

/-- **A text is put into lower case part by part**, each in its place. By induction on the first part.
-/
theorem lowerAfter_append (before s t : List Char) :
    lowerAfter before (s ++ t) = lowerBetween before s t ++ lowerAfter (s.reverse ++ before) t := by
  induction s generalizing before with
  | nil => rfl
  | cons c s ih =>
    rw [List.cons_append, lowerAfter, ih, lowerBetween, List.reverse_cons, List.append_assoc,
      List.append_assoc]
    rfl

theorem lowerBetween_nil (before s : List Char) : lowerBetween before s [] = lowerAfter before s := by
  have h := lowerAfter_append before s []
  rw [List.append_nil, lowerAfter, List.append_nil] at h
  exact h.symm

/-- Two places give a text the same lower case if they give each of its sigmas the same form. By
induction on the text. -/
theorem lowerBetween_congr {s before after before' after' : List Char}
    (h : ∀ u v, s = u ++ 'Σ' :: v →
      isFinalSigma (u.reverse ++ before) (v ++ after) =
        isFinalSigma (u.reverse ++ before') (v ++ after')) :
    lowerBetween before s after = lowerBetween before' s after' := by
  induction s generalizing before before' with
  | nil => rfl
  | cons c s ih =>
    have htail : lowerBetween (c :: before) s after = lowerBetween (c :: before') s after' := by
      refine ih fun u v hs => ?_
      have hu := h (c :: u) v (by rw [hs, List.cons_append])
      rwa [List.reverse_cons, List.append_assoc, List.append_assoc] at hu
    rw [lowerBetween, lowerBetween, htail]
    by_cases hc : c = 'Σ'
    · have hhere : isFinalSigma before (s ++ after) = isFinalSigma before' (s ++ after') :=
        h [] s (by rw [hc, List.nil_append])
      rw [hhere]
    · simp only [if_neg hc]

/-- A text without sigmas has the same lower case everywhere. -/
theorem lowerBetween_of_sigma_not_mem {s : List Char} (h : 'Σ' ∉ s)
    (before after before' after' : List Char) :
    lowerBetween before s after = lowerBetween before' s after' := by
  refine lowerBetween_congr fun u v hs => absurd ?_ h
  rw [hs]
  exact List.mem_append_right u List.mem_cons_self

/-- **A sigma parts a text in two**, of which neither sees the other. -/
theorem lowerAfter_append_sigma (before u v : List Char) :
    lowerAfter before (u ++ 'Σ' :: v) =
      lowerBetween before u ['Σ'] ++
        (if isFinalSigma (u.reverse ++ before) v then 'ς' else 'σ') :: lowerAfter ['Σ'] v := by
  have hleft : lowerBetween before u ('Σ' :: v) = lowerBetween before u ['Σ'] := by
    refine lowerBetween_congr fun a b _ => ?_
    rw [isFinalSigma, isFinalSigma, reachesCased_append_sigma b v []]
  have hright : lowerAfter ('Σ' :: (u.reverse ++ before)) v = lowerAfter ['Σ'] v := by
    rw [← lowerBetween_nil, ← lowerBetween_nil]
    refine lowerBetween_congr fun a b _ => ?_
    rw [isFinalSigma, isFinalSigma, reachesCased_append_sigma a.reverse _ []]
  rw [lowerAfter_append, hleft, lowerAfter, if_pos rfl, hright]
  rfl

/-! ## 3. Settled and open sigmas -/

/-- Every capital sigma of the second text has the same form between the other two as it has when the
text stands alone. -/
def SigmasSettled (before s after : List Char) : Prop :=
  ∀ u v, s = u ++ 'Σ' :: v →
    isFinalSigma (before ++ u).reverse (v ++ after) = isFinalSigma u.reverse v

/-- A capital sigma of the text hangs on what the text is put next to. Either a letter stands before
it and nothing but marks behind: it is final until a letter follows. Or nothing but marks stand before
it and no letter behind: it becomes final when a letter comes before. -/
def HasOpenSigma (s : List Char) : Prop :=
  ∃ u v, s = u ++ 'Σ' :: v ∧
    (reachesCased u.reverse = true ∧ OnlyMarks v ∨ OnlyMarks u ∧ reachesCased v = false)

theorem not_hasOpenSigma_of_not_mem {s : List Char} (h : 'Σ' ∉ s) : ¬ HasOpenSigma s := by
  rintro ⟨u, v, rfl, -⟩
  exact h (List.mem_append_right u List.mem_cons_self)

/-- **Sigmas that are not open are settled everywhere.**  A sigma with more than marks on both sides
sees nothing else. One with only marks on a side is not final, whatever comes to stand there, since
the other side rules it out. -/
theorem sigmasSettled_of_not_hasOpenSigma {s : List Char} (h : ¬ HasOpenSigma s)
    (before after : List Char) : SigmasSettled before s after := by
  intro u v hs
  have hfirst : ¬ (reachesCased u.reverse = true ∧ OnlyMarks v) := fun hopen =>
    h ⟨u, v, hs, .inl hopen⟩
  have hsecond : ¬ (OnlyMarks u ∧ reachesCased v = false) := fun hopen =>
    h ⟨u, v, hs, .inr hopen⟩
  rw [List.reverse_append, isFinalSigma, isFinalSigma]
  -- with only marks behind it the sigma hangs on what is in front, which then is no cased letter
  by_cases hv : OnlyMarks v
  · have hu : ¬ OnlyMarks u.reverse := fun hu =>
      hsecond ⟨by simpa using hu.reverse, hv.reachesCased_eq_false⟩
    have hbefore : reachesCased u.reverse = false := by
      rw [← Bool.not_eq_true]
      exact fun htrue => hfirst ⟨htrue, hv⟩
    rw [reachesCased_append_of_not_onlyMarks hu, hbefore]
    rfl
  · rw [reachesCased_append_of_not_onlyMarks hv]
    by_cases hu : OnlyMarks u
    · have hafter : reachesCased v = true := by
        rw [← Bool.not_eq_false]
        exact fun hfalse => hsecond ⟨hu, hfalse⟩
      rw [hafter, Bool.not_true, Bool.and_false, Bool.and_false]
    · have hu' : ¬ OnlyMarks u.reverse := fun hu' => hu (by simpa using hu'.reverse)
      rw [reachesCased_append_of_not_onlyMarks hu']

/-! ## 4. Texts inside texts -/

/-- **A part occurs in the lower case of the whole** if its sigmas are settled where it stands. -/
theorem occursIn_lowerChars {before s after : List Char} (h : SigmasSettled before s after) :
    occursIn (lowerChars s) (lowerChars (before ++ s ++ after)) = true := by
  have hpart : lowerBetween before.reverse s after = lowerChars s := by
    rw [lowerChars, ← lowerBetween_nil]
    refine lowerBetween_congr fun u v hs => ?_
    rw [List.append_nil, List.append_nil, ← List.reverse_append]
    exact h u v hs
  refine occursIn_iff.mpr ⟨lowerBetween [] before (s ++ after),
    lowerAfter (s.reverse ++ before.reverse) after, ?_⟩
  rw [lowerChars, List.append_assoc before, lowerAfter_append, List.append_nil, lowerAfter_append,
    hpart, ← List.append_assoc]

theorem not_occursIn_of_count_lt {needle s : List Char} {c : Char}
    (h : s.count c < needle.count c) : occursIn needle s = false := by
  rw [← Bool.not_eq_true]
  intro hoccurs
  obtain ⟨before, after, rfl⟩ := occursIn_iff.mp hoccurs
  rw [List.count_append, List.count_append] at h
  omega

/-- A final sigma with only marks behind it is lost when a letter follows: the longer text holds one
final sigma less. -/
theorem not_occursIn_of_open_end {u v : List Char} (hu : reachesCased u.reverse = true)
    (hv : OnlyMarks v) :
    occursIn (lowerChars (u ++ 'Σ' :: v)) (lowerChars ((u ++ 'Σ' :: v) ++ ['a'])) = false := by
  have hfinal : isFinalSigma (u.reverse ++ []) v = true := by
    rw [isFinalSigma, List.append_nil, hu, hv.reachesCased_eq_false]
    rfl
  have hnot : isFinalSigma (u.reverse ++ []) (v ++ ['a']) = false := by
    rw [isFinalSigma, hv.reachesCased_append, show reachesCased ['a'] = true by decide +kernel]
    exact Bool.and_false _
  have hbehind : lowerAfter ['Σ'] (v ++ ['a']) = lowerAfter ['Σ'] v ++ ['a'] := by
    have hletter : lowerAfter (v.reverse ++ ['Σ']) ['a'] = ['a'] := by
      rw [lowerAfter, if_neg (by decide), show lowerChar 'a' = ['a'] by decide +kernel, lowerAfter]
      rfl
    rw [lowerAfter_append, hletter, ← lowerBetween_nil,
      lowerBetween_of_sigma_not_mem hv.sigma_not_mem ['Σ'] ['a'] ['Σ'] []]
  apply not_occursIn_of_count_lt (c := 'ς')
  rw [lowerChars, lowerChars, List.append_assoc, List.cons_append, lowerAfter_append_sigma,
    lowerAfter_append_sigma, hfinal, hnot, hbehind]
  simp [List.count_append]

/-- A sigma with only marks before it becomes final when a letter comes before it and none follows:
the longer text holds one sigma less that is not final. -/
theorem not_occursIn_of_open_start {u v : List Char} (hu : OnlyMarks u)
    (hv : reachesCased v = false) :
    occursIn (lowerChars (u ++ 'Σ' :: v)) (lowerChars ('a' :: (u ++ 'Σ' :: v))) = false := by
  have hnot : isFinalSigma (u.reverse ++ []) v = false := by
    rw [isFinalSigma, List.append_nil, hu.reverse.reachesCased_eq_false]
    rfl
  have hfinal : isFinalSigma (u.reverse ++ ['a']) v = true := by
    rw [isFinalSigma, hu.reverse.reachesCased_append, hv,
      show reachesCased ['a'] = true by decide +kernel]
    rfl
  have hbefore : lowerBetween ['a'] u ['Σ'] = lowerBetween [] u ['Σ'] :=
    lowerBetween_of_sigma_not_mem hu.sigma_not_mem ['a'] ['Σ'] [] ['Σ']
  apply not_occursIn_of_count_lt (c := 'σ')
  rw [lowerChars, lowerChars, lowerAfter, if_neg (by decide),
    show lowerChar 'a' = ['a'] by decide +kernel, lowerAfter_append_sigma, lowerAfter_append_sigma,
    hnot, hfinal, hbefore]
  simp [List.count_append]

/-- **Exactly the texts without an open sigma occur in lower case wherever they occur.** -/
theorem forall_occursIn_lowerChars_iff {s : List Char} :
    (∀ before after, occursIn (lowerChars s) (lowerChars (before ++ s ++ after)) = true) ↔
      ¬ HasOpenSigma s := by
  constructor
  · rintro h ⟨u, v, rfl, ⟨hu, hv⟩ | ⟨hu, hv⟩⟩
    · have hoccurs := h [] ['a']
      rw [List.nil_append, not_occursIn_of_open_end hu hv] at hoccurs
      exact absurd hoccurs (by simp)
    · have hoccurs := h ['a'] []
      rw [List.append_nil, List.singleton_append, not_occursIn_of_open_start hu hv] at hoccurs
      exact absurd hoccurs (by simp)
  · intro h before after
    exact occursIn_lowerChars (sigmasSettled_of_not_hasOpenSigma h before after)

end DiceRoller.Text
