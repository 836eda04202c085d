/-
# Piped input

Text that is piped into the console reaches it as the lines of the text. Where a line of the input
is no text, the lines before it still do, and nothing behind it is looked at.

The input is cut into lines as bytes and each line is decoded on its own. So it has to be shown that
cutting and decoding can be exchanged, which is `Text.splitLines_encode` in
`Proofs/Text/Encoding.lean`, and that a line which is no text stays none when a carriage return is
taken off its end (`decodeBytes?_dropLastIf`).

* `decodeBytes?_encode`, `eq_encode_of_decodeBytes?`: exactly the encoded texts can be decoded.
* `Input.ofByteLines_map_encode`, `Input.ofByteLines_undecodable`: lines that are given one by one,
  by induction on them.
* `Input.ofBytes_encode`: the input that encoded text makes.
* `Input.ofBytes_undecodable`: the input that encoded text makes when a line follows that is no
  text. The text has to end where a line can begin (`Text.EndsLine`); otherwise its last line would
  go on into the bytes.

The lines come with their backspaces carried out. What these do is not unfolded here; a line without
any stays as it is (`applyBackspaces_of_not_mem`).
-/
import DiceRoller.Console.Input
import DiceRoller.Proofs.Text.Encoding
import Mathlib.Data.List.TakeWhile

namespace DiceRoller

/-! ## 1. Decoding -/

/-- What is encoded can be decoded. -/
theorem decodeBytes?_encode (t : String) : decodeBytes? (Text.encode t) = some t := by
  have hbytes : (⟨(Text.encode t).toArray⟩ : ByteArray) = t.toByteArray := by
    rw [Text.encode, Array.toArray_toList, String.toUTF8_eq_toByteArray]
  rw [decodeBytes?, hbytes, String.fromUTF8?, dif_pos t.isValidUTF8]
  rfl

/-- Nothing else can be. -/
theorem eq_encode_of_decodeBytes? {bytes : List UInt8} {t : String}
    (h : decodeBytes? bytes = some t) : bytes = Text.encode t := by
  rw [decodeBytes?, String.fromUTF8?] at h
  split at h
  · obtain rfl := Option.some.inj h
    rfl
  · exact absurd h (by simp)

/-- A carriage return more or less does not make bytes into text. -/
theorem decodeBytes?_dropLastIf {bytes : List UInt8} (h : decodeBytes? bytes = none) :
    decodeBytes? (Text.dropLastIf 13 bytes) = none := by
  rcases Text.dropLastIf_eq_or 13 bytes with hsame | hdropped
  · rw [hsame, h]
  · cases hdecode : decodeBytes? (Text.dropLastIf 13 bytes) with
    | none => rfl
    | some t =>
      -- with the carriage return behind it, the text would still be one
      have hbytes : bytes = Text.encode (t ++ "\r") := by
        rw [hdropped, eq_encode_of_decodeBytes? hdecode, Text.encode_append]
        rfl
      rw [hbytes, decodeBytes?_encode] at h
      exact absurd h (by simp)

/-! ## 2. Lines of bytes -/

/-- A line without backspaces stays as it is. -/
theorem applyBackspaces_of_not_mem {line : String} (h : '\x08' ∉ line.toList) :
    applyBackspaces line = line := by
  rw [applyBackspaces, struckChars_of_not_mem h, String.ofList_toList]

/-- By induction on the lines. -/
theorem Input.ofByteLines_map_encode (lines : List String) :
    Input.ofByteLines (lines.map Text.encode) =
      ⟨lines.map applyBackspaces, "", .finished⟩ := by
  induction lines with
  | nil => rfl
  | cons line lines ih =>
    rw [List.map_cons, Input.ofByteLines, decodeBytes?_encode]
    dsimp only
    rw [ih, List.map_cons]

/-- By induction on the lines in front of the one that is no text. -/
theorem Input.ofByteLines_undecodable (lines : List String) {bytes : List UInt8}
    (h : decodeBytes? bytes = none) (rest : List (List UInt8)) :
    Input.ofByteLines (lines.map Text.encode ++ bytes :: rest) =
      ⟨lines.map applyBackspaces, "", .undecodable⟩ := by
  induction lines with
  | nil => rw [List.map_nil, List.nil_append, Input.ofByteLines, h]; rfl
  | cons line lines ih =>
    rw [List.map_cons, List.cons_append, Input.ofByteLines, decodeBytes?_encode]
    dsimp only
    rw [ih, List.map_cons]

/-! ## 3. Bytes -/

/-- **Encoded text makes the lines of the text.** -/
theorem Input.ofBytes_encode (t : String) :
    Input.ofBytes (Text.encode t) = ⟨(Text.lines t).map applyBackspaces, "", .finished⟩ := by
  rw [Input.ofBytes, Text.splitLines_encode, ofByteLines_map_encode]

/-- A line can begin behind the text. -/
def Text.EndsLine (t : String) : Prop := ∀ c ∈ t.toList.getLast?, c = '\n'

/-- The first line of these bytes is no text. -/
def BeginsUndecodable (bytes : List UInt8) : Prop :=
  decodeBytes? (bytes.takeWhile (· != 10)) = none

/-- What is complete up to the end of a line keeps its lines, whatever bytes follow. -/
theorem Text.splitLines_encode_append {t : String} (h : Text.EndsLine t) (bytes : List UInt8) :
    Text.splitLines 10 13 (Text.encode t ++ bytes) =
      (Text.lines t).map Text.encode ++ Text.splitLines 10 13 bytes := by
  rw [← Text.splitLines_encode, Text.encode_eq]
  rcases List.eq_nil_or_concat' t.toList with hnil | ⟨init, c, hinit⟩
  · rw [hnil]
    rfl
  · obtain rfl : c = '\n' := h c (by simp [hinit])
    rw [hinit, Text.encodeChars_append]
    exact Text.splitLines_concat_append 10 13 (Text.encodeChars init) bytes

/-- A first line that is no text is none with its carriage return taken off either. -/
theorem BeginsUndecodable.exists_splitLines {bytes : List UInt8} (h : BeginsUndecodable bytes) :
    ∃ line rest, Text.splitLines 10 13 bytes = line :: rest ∧ decodeBytes? line = none := by
  have hne : bytes.takeWhile (· != 10) ≠ [] := by
    intro hnil
    have hempty : decodeBytes? [] = some "" := decodeBytes?_encode ""
    rw [BeginsUndecodable, hnil, hempty] at h
    exact absurd h (by simp)
  have hfeed : (10 : UInt8) ∉ bytes.takeWhile (· != 10) := by
    intro hmem
    simpa using List.mem_takeWhile_imp hmem
  rw [← List.takeWhile_append_dropWhile (p := (· != 10)) (l := bytes)]
  cases hrest : bytes.dropWhile (· != 10) with
  | nil =>
    rw [List.append_nil, Text.splitLines_of_not_mem 10 13 hne hfeed]
    exact ⟨_, [], rfl, h⟩
  | cons b rest =>
    have hb : b = 10 := by
      have := List.head?_dropWhile_not (· != 10) bytes
      rw [hrest] at this
      simpa using this
    rw [hb, Text.splitLines_append_cons, List.splitOn_eq_singleton hfeed]
    exact ⟨_, _, rfl, decodeBytes?_dropLastIf h⟩

/-- **A line that is no text ends the input behind the lines before it.** -/
theorem Input.ofBytes_undecodable {t : String} (ht : Text.EndsLine t) {bytes : List UInt8}
    (h : BeginsUndecodable bytes) :
    Input.ofBytes (Text.encode t ++ bytes) =
      ⟨(Text.lines t).map applyBackspaces, "", .undecodable⟩ := by
  obtain ⟨line, rest, hlines, hline⟩ := h.exists_splitLines
  rw [Input.ofBytes, Text.splitLines_encode_append ht, hlines, ofByteLines_undecodable _ hline]

end DiceRoller
