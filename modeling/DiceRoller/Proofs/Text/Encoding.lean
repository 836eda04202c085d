/-
# Lines of encoded text

The lines of piped input are looked for among its bytes, before any of them is decoded. That finds
the lines of the text, since UTF-8 keeps the bytes below 128 for the characters below 128: a line
feed among the bytes is always a line feed of the text, and so is a carriage return.

The first half of the file is about lines alone, over any type of elements, because bytes and
characters are cut by one definition. A line feed ends the lines before it, whatever follows, and
this is the lemma by which texts are put together from lines. The second half encodes character by
character, so that the induction is on the characters of the text: each of them is a line feed, or
none of its bytes is.

* `splitLines_append_cons`: a line feed ends the lines before it, whatever follows.
* `lines_append_break`: every line of a text is the only line of one.
* `toNat_eq_of_mem_utf8EncodeChar`: a byte below 128 is a part of no other character's encoding.
* `splitLines_encode`: the lines of encoded text are the encoded lines of the text.

Bytes that are no text are not described here; see `Proofs/Console/Piped.lean`.
-/
import DiceRoller.Text.Lines
import Mathlib.Data.List.Basic

namespace DiceRoller.Text

/-! ## 1. Lines one after the other -/

section

variable {α : Type} [BEq α] [LawfulBEq α]

theorem dropLastIf_concat_self (x : α) (s : List α) : dropLastIf x (s ++ [x]) = s := by
  rw [dropLastIf, List.getLast?_concat, if_pos (by simp), List.dropLast_concat]

theorem dropLastIf_of_getLast?_ne {x : α} {s : List α} (h : s.getLast? ≠ some x) :
    dropLastIf x s = s := by
  rw [dropLastIf, if_neg (by simpa using h)]

/-- Only the one element is ever dropped. -/
theorem dropLastIf_eq_or (x : α) (s : List α) :
    dropLastIf x s = s ∨ s = dropLastIf x s ++ [x] := by
  by_cases h : s.getLast? = some x
  · obtain ⟨init, rfl⟩ := List.getLast?_eq_some_iff.mp h
    rw [dropLastIf_concat_self]
    exact .inr rfl
  · exact .inl (dropLastIf_of_getLast?_ne h)

variable (feed ret : α)

omit [LawfulBEq α] in
theorem splitLines_nil : splitLines feed ret [] = [] := rfl

/-- **A line feed ends the lines before it**, whatever follows. -/
theorem splitLines_append_cons (s t : List α) :
    splitLines feed ret (s ++ feed :: t) =
      (s.splitOn feed).map (dropLastIf ret) ++ splitLines feed ret t := by
  have hne : t.splitOn feed ≠ [] := List.splitOn_ne_nil feed t
  have hlast := List.getLast?_eq_some_getLast hne
  have hlast' : (s.splitOn feed ++ t.splitOn feed).getLast? = some ((t.splitOn feed).getLast hne) := by
    rw [List.getLast?_append, hlast, Option.some_or]
  rw [splitLines, List.splitOn_append_cons_self, splitLines, hlast', hlast,
    List.dropLast_append_of_ne_nil hne, List.map_append, List.append_assoc]

/-- What is complete up to a line feed keeps its lines. -/
theorem splitLines_concat_append (s t : List α) :
    splitLines feed ret (s ++ [feed] ++ t) =
      splitLines feed ret (s ++ [feed]) ++ splitLines feed ret t := by
  rw [List.append_assoc, List.singleton_append, splitLines_append_cons, splitLines_append_cons,
    splitLines_nil, List.append_nil]

/-- Elements of which none is a line feed are one line, up to the end. -/
theorem splitLines_of_not_mem {s : List α} (hne : s ≠ []) (h : feed ∉ s) :
    splitLines feed ret s = [s] := by
  have hempty : s.isEmpty = false := by simpa using hne
  rw [splitLines, List.splitOn_eq_singleton h]
  simp [hempty]

/-- A piece holds none of the elements that it is split at, and nothing that was not there before. By
induction on the sequence that is split. -/
theorem not_mem_and_subset_of_mem_splitOn {x : α} {s piece : List α} (h : piece ∈ s.splitOn x) :
    x ∉ piece ∧ piece ⊆ s := by
  induction s generalizing piece with
  | nil =>
    obtain rfl := List.mem_singleton.mp h
    exact ⟨List.not_mem_nil, List.nil_subset []⟩
  | cons y s ih =>
    rw [List.splitOn_cons_eq_if_modifyHead] at h
    cases hpieces : s.splitOn x with
    | nil => exact absurd hpieces (List.splitOn_ne_nil x s)
    | cons first pieces =>
      rw [hpieces] at h ih
      split at h
      · rcases List.mem_cons.mp h with rfl | h
        · exact ⟨List.not_mem_nil, List.nil_subset _⟩
        · exact ⟨(ih h).1, List.subset_cons_of_subset y (ih h).2⟩
      · rename_i hy
        rcases List.mem_cons.mp h with rfl | h
        · obtain ⟨hnot, hsubset⟩ := ih List.mem_cons_self
          rw [List.mem_cons, not_or]
          exact ⟨⟨fun hxy => hy (beq_iff_eq.mpr hxy.symm), hnot⟩, List.cons_subset_cons y hsubset⟩
        · obtain ⟨hnot, hsubset⟩ := ih (List.mem_cons_of_mem first h)
          exact ⟨hnot, List.subset_cons_of_subset y hsubset⟩

/-- No line goes beyond a line feed. -/
theorem not_mem_of_mem_splitLines {s line : List α} (h : line ∈ splitLines feed ret s) :
    feed ∉ line := by
  rw [splitLines, List.mem_append] at h
  rcases h with h | h
  · obtain ⟨piece, hpiece, rfl⟩ := List.mem_map.mp h
    have hfeed := (not_mem_and_subset_of_mem_splitOn (List.dropLast_subset _ hpiece)).1
    rcases dropLastIf_eq_or ret piece with hsame | hdropped
    · rwa [hsame]
    · rw [hdropped, List.mem_append, not_or] at hfeed
      exact hfeed.1
  · cases hlast : (s.splitOn feed).getLast? with
    | none => simp [hlast] at h
    | some last =>
      have hline : line = last := by
        simp only [hlast, Option.getD_some] at h
        split at h
        · exact absurd h List.not_mem_nil
        · exact List.mem_singleton.mp h
      rw [hline]
      exact (not_mem_and_subset_of_mem_splitOn (List.mem_of_getLast? hlast)).1

end

/-- **Every line of a text is the only line of one**, behind which stands a full line break. -/
theorem lines_append_break {t line : String} (h : line ∈ lines t) : lines (line ++ "\r\n") = [line] := by
  obtain ⟨s, hs, rfl⟩ := List.mem_map.mp h
  have hfeed : '\n' ∉ s ++ ['\r'] := by
    rw [List.mem_append, not_or]
    exact ⟨not_mem_of_mem_splitLines '\n' '\r' hs, by decide⟩
  have htext : (String.ofList s ++ "\r\n").toList = (s ++ ['\r']) ++ '\n' :: [] := by
    rw [String.toList_append, String.toList_ofList, List.append_assoc]
    rfl
  rw [lines, htext, splitLines_append_cons, List.splitOn_eq_singleton hfeed, splitLines_nil,
    List.append_nil, List.map_singleton, dropLastIf_concat_self, List.map_singleton]

/-! ## 2. Encoded characters -/

/-- The bytes of characters in UTF-8. -/
def encodeChars (s : List Char) : List UInt8 := s.flatMap String.utf8EncodeChar

/-- The bytes of a text in UTF-8. -/
def encode (s : String) : List UInt8 := s.toUTF8.data.toList

theorem encode_eq (s : String) : encode s = encodeChars s.toList := by
  rw [encode, String.toUTF8_eq_toByteArray, ← String.utf8Encode_toList, List.utf8Encode,
    List.toList_data_toByteArray, encodeChars]

theorem encodeChars_cons (c : Char) (s : List Char) :
    encodeChars (c :: s) = String.utf8EncodeChar c ++ encodeChars s := List.flatMap_cons

theorem encodeChars_append (s t : List Char) :
    encodeChars (s ++ t) = encodeChars s ++ encodeChars t := List.flatMap_append

theorem encode_append (s t : String) : encode (s ++ t) = encode s ++ encode t := by
  rw [encode_eq, encode_eq, encode_eq, String.toList_append, encodeChars_append]

theorem encodeChars_eq_nil {s : List Char} : encodeChars s = [] ↔ s = [] := by
  cases s with
  | nil => exact ⟨fun _ => rfl, fun _ => rfl⟩
  | cons c s => simp [encodeChars_cons, String.utf8EncodeChar_ne_nil]

/-- A byte below 128 stands for the character with its number, and for no part of another one. -/
theorem toNat_eq_of_mem_utf8EncodeChar {c : Char} {b : UInt8} (hb : b < 128)
    (h : b ∈ String.utf8EncodeChar c) : c.val.toNat = b.toNat := by
  have hb' : b.toNat < 128 := UInt8.lt_iff_toNat_lt.mp hb
  rw [String.utf8EncodeChar.eq_1] at h
  split at h
  · obtain rfl := List.mem_singleton.mp h
    rw [UInt8.toNat_ofNat']
    omega
  · -- every byte of a longer code has its highest bit set
    exfalso
    split at h
    · simp [← UInt8.toNat_inj] at h
      omega
    · split at h
      all_goals
        simp [← UInt8.toNat_inj] at h
        omega

theorem eq_of_mem_utf8EncodeChar {c d : Char} {b : UInt8} (hb : b < 128)
    (hd : d.val.toNat = b.toNat) (h : b ∈ String.utf8EncodeChar c) : c = d :=
  Char.toNat_inj.mp ((toNat_eq_of_mem_utf8EncodeChar hb h).trans hd.symm)

/-! ## 3. Encoded lines -/

/-- What is put in front of a sequence, without the element it is split at, belongs to its first
piece. By induction on what is put there. -/
theorem splitOn_append_of_not_mem {α : Type} [BEq α] [LawfulBEq α] {x : α} {p : List α}
    (h : x ∉ p) (s : List α) : (p ++ s).splitOn x = (s.splitOn x).modifyHead (p ++ ·) := by
  induction p with
  | nil =>
    cases hpieces : s.splitOn x with
    | nil => simp [hpieces]
    | cons piece pieces => simp [hpieces]
  | cons y p ih =>
    have hy : (y == x) = false := by
      rw [beq_eq_false_iff_ne]
      rintro rfl
      exact h List.mem_cons_self
    rw [List.cons_append, List.splitOn_cons_eq_if_modifyHead, hy,
      ih fun hp => h (List.mem_cons_of_mem y hp)]
    cases s.splitOn x with
    | nil => rfl
    | cons piece pieces => rfl

/-- By induction on the characters. -/
theorem splitOn_encodeChars (s : List Char) :
    (encodeChars s).splitOn 10 = (s.splitOn '\n').map encodeChars := by
  induction s with
  | nil => rfl
  | cons c s ih =>
    rw [encodeChars_cons, List.splitOn_cons_eq_if_modifyHead]
    by_cases hc : c = '\n'
    · rw [hc, show String.utf8EncodeChar '\n' = [10] by decide, List.singleton_append,
        List.splitOn_cons_eq_if_modifyHead, ih]
      rfl
    · have hnot : (10 : UInt8) ∉ String.utf8EncodeChar c := fun h =>
        hc (eq_of_mem_utf8EncodeChar (by decide) rfl h)
      rw [splitOn_append_of_not_mem hnot, ih, if_neg (by simpa using hc)]
      cases s.splitOn '\n' with
      | nil => rfl
      | cons piece pieces => rw [List.map_cons, List.modifyHead_cons, List.modifyHead_cons,
          List.map_cons, encodeChars_cons]

theorem dropLastIf_encodeChars (s : List Char) :
    dropLastIf 13 (encodeChars s) = encodeChars (dropLastIf '\r' s) := by
  rcases List.eq_nil_or_concat' s with rfl | ⟨init, c, rfl⟩
  · rfl
  · by_cases hc : c = '\r'
    · rw [hc, dropLastIf_concat_self, encodeChars_append]
      exact dropLastIf_concat_self 13 (encodeChars init)
    · have hlast : (encodeChars (init ++ [c])).getLast? ≠ some 13 := by
        intro h
        have hcode : (String.utf8EncodeChar c).getLast? = some 13 := by
          rw [← h, encodeChars_append, encodeChars_cons, List.getLast?_append, encodeChars,
            List.flatMap_nil, List.append_nil,
            List.getLast?_eq_some_getLast String.utf8EncodeChar_ne_nil, Option.some_or]
        exact hc (eq_of_mem_utf8EncodeChar (by decide) rfl (List.mem_of_getLast? hcode))
      rw [dropLastIf_of_getLast?_ne hlast, dropLastIf_of_getLast?_ne (by simpa using hc)]

/-- **The lines of encoded text are the encoded lines of the text.** -/
theorem splitLines_encode (t : String) : splitLines 10 13 (encode t) = (lines t).map encode := by
  have hencode : encode ∘ String.ofList = encodeChars := by
    funext s
    rw [Function.comp_apply, encode_eq, String.toList_ofList]
  have hdrop : dropLastIf 13 ∘ encodeChars = encodeChars ∘ dropLastIf '\r' :=
    funext dropLastIf_encodeChars
  rw [encode_eq, lines, List.map_map, hencode, splitLines, splitLines, splitOn_encodeChars,
    ← List.map_dropLast, List.getLast?_map, List.map_map, hdrop, List.map_append, List.map_map]
  congr 1
  cases (t.toList.splitOn '\n').getLast? with
  | none => rfl
  | some last =>
    cases last with
    | nil => rfl
    | cons c last => simp [encodeChars_eq_nil]

end DiceRoller.Text
