import Umpire.Proofs.Placeholder.Segments
import Umpire.Proofs.Text.Utf8

/-! Placeholders of a text: they are the same whether they are looked for among its characters or among its bytes. -/

namespace Umpire.Placeholder

open Utf8

/-- The characters of the placeholder. -/
def spelling : List Char :=
  "__FD__".toList

/-- A text with each placeholder replaced, from the left and without overlap. -/
def reword (value : List Char) : List Char → List Char
  | '_' :: '_' :: 'F' :: 'D' :: '_' :: '_' :: rest => value ++ reword value rest
  | c :: rest => c :: reword value rest
  | [] => []

section Bytes

variable {byte : UInt8} {rest : Bytes}

/-- The placeholder in front is replaced. -/
theorem replace_needle (value rest : Bytes) : replace value (needle ++ rest) = value ++ replace value rest := by
  rw [replace_eq, segments_needle, Segments.join_mark, replace_eq]

/-- A byte with which no placeholder starts stays. -/
theorem replace_cons (value : Bytes) (other : ¬ needle <+: byte :: rest) :
    replace value (byte :: rest) = byte :: replace value rest := by
  rw [replace_eq, segments_cons other, Segments.join_push, replace_eq]

/-- Bytes beyond ASCII stay. -/
theorem replace_beyond_ascii (value : Bytes) {others : Bytes} (beyond : ∀ byte ∈ others, 0x80 ≤ byte.toNat)
    (rest : Bytes) : replace value (others ++ rest) = others ++ replace value rest := by
  induction others with
  | nil => rfl
  | cons byte others ih =>
    -- The placeholder starts with a byte of ASCII.
    obtain ⟨above, beyond⟩ := List.forall_mem_cons.mp beyond
    have other : ¬ needle <+: byte :: (others ++ rest) := by
      intro found
      rw [needle_eq] at found
      obtain ⟨rfl, -⟩ := List.cons_prefix_cons.mp found
      exact absurd above (by decide)
    rw [List.cons_append, replace_cons value other, ih beyond, List.cons_append]

end Bytes

/-- A character with which no placeholder starts stays. -/
theorem replace_ofChars_cons (value : Bytes) {c : Char} {rest : List Char} (other : ¬ spelling <+: c :: rest) :
    replace value (Bytes.ofChars (c :: rest)) = String.utf8EncodeChar c ++ replace value (Bytes.ofChars rest) := by
  obtain ⟨first, others, spelled, written⟩ := exists_encoded c
  -- No placeholder starts at the first byte of the character, since none starts at the character, and none
  -- starts at the others, since these lie beyond ASCII.
  have whole : Bytes.ofChars (c :: rest) = first :: (others ++ Bytes.ofChars rest) := by
    rw [Bytes.ofChars_cons, written, List.cons_append]
  have unmarked : ¬ needle <+: first :: (others ++ Bytes.ofChars rest) := by
    rw [← whole]
    exact (ofChars_prefix_iff spelling (c :: rest)).not.mpr other
  rw [whole, replace_cons value unmarked, replace_beyond_ascii value spelled.beyond_ascii, written, List.cons_append]

/-- To replace among the bytes of a text is to replace among its characters. -/
theorem replace_ofChars (value chars : List Char) :
    replace (Bytes.ofChars value) (Bytes.ofChars chars) = Bytes.ofChars (reword value chars) := by
  fun_induction reword value chars with
  | case1 rest ih =>
    have whole : Bytes.ofChars ('_' :: '_' :: 'F' :: 'D' :: '_' :: '_' :: rest) = needle ++ Bytes.ofChars rest :=
      Bytes.ofChars_append spelling rest
    rw [whole, replace_needle, ih, Bytes.ofChars_append]
  | case2 c rest shape ih =>
    have other : ¬ spelling <+: c :: rest := by
      -- A text that starts with the placeholder has the shape of the case before.
      rintro ⟨behind, same⟩
      have whole : '_' :: '_' :: 'F' :: 'D' :: '_' :: '_' :: behind = c :: rest := same
      obtain ⟨head, tail⟩ := List.cons.inj whole
      exact shape behind head.symm tail.symm
    rw [replace_ofChars_cons _ other, ih, Bytes.ofChars_cons]
  | case3 =>
    show replace (Bytes.ofChars value) [] = []
    rw [replace]

/-- A word that is a text becomes a text, the one that has the number in place of each placeholder among its characters.
Of any word, a text or not, all bytes but those of its placeholders stay, in their order. -/
theorem substitute_text {words : List Bytes} {place : Nat} {token : Bytes} (there : words[place]? = some token)
    (fd : Int32) :
    ∃ result, (substitute words fd)[place]? = some result ∧
      (token.toByteArray.IsValidUTF8 → result.toByteArray.IsValidUTF8 ∧
        ∃ chars, decode? token = some chars ∧ result = Bytes.ofChars (reword (toString fd).toList chars)) ∧
      ∃ parts : Segments, parts.Divide token ∧ result = parts.join (Bytes.ofString (toString fd)) := by
  refine ⟨replace (decimal fd) token, ?_, ?_, segments token, divide_segments token, ?_⟩
  · rw [substitute, List.getElem?_map, there, Option.map_some]
  · intro valid
    obtain ⟨chars, read⟩ := isValidUTF8_iff.mp valid
    -- What is done to the bytes is done to the characters.
    have text : replace (decimal fd) token = Bytes.ofChars (reword (toString fd).toList chars) := by
      rw [decode?_eq_some_iff.mp read, decimal_eq]
      exact replace_ofChars _ chars
    exact ⟨isValidUTF8_iff.mpr ⟨_, decode?_eq_some_iff.mpr text⟩, chars, read, text⟩
  · rw [replace_eq, decimal_eq]

/-- A text that has characters of two and of three bytes right beside placeholders that overlap. -/
theorem substitute_text_among_accents :
    [Bytes.ofString "a", Bytes.ofString "é__FD__FD__€"][1]? = some (Bytes.ofString "é__FD__FD__€") ∧
      (Bytes.ofString "é__FD__FD__€").toByteArray.IsValidUTF8 ∧
      (substitute [Bytes.ofString "a", Bytes.ofString "é__FD__FD__€"] (-7))[1]? =
        some (Bytes.ofString "é-7FD__€") := by
  -- The word is a text, so the theorem's second part applies to it.
  have read : decode? (Bytes.ofString "é__FD__FD__€") = some "é__FD__FD__€".toList := decode?_eq_some_iff.mpr rfl
  have valid := isValidUTF8_iff.mpr ⟨_, read⟩
  obtain ⟨result, stands, text, -⟩ :=
    @substitute_text [Bytes.ofString "a", Bytes.ofString "é__FD__FD__€"] 1 _ rfl (-7)
  obtain ⟨-, chars, same, rfl⟩ := text valid
  cases read.symm.trans same
  exact ⟨rfl, valid, stands⟩

end Umpire.Placeholder
