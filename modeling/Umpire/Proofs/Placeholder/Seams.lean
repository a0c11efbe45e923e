import Umpire.Proofs.Placeholder.Segments
import Umpire.Proofs.Text.Utf8

/-! Nothing is left to be replaced: no placeholder arises where a number meets what stood beside a placeholder. -/

namespace Umpire.Placeholder

open Utf8 (encode_ascii exists_encoded)

section Seams

variable {mark value front rest : Bytes}

/-- What has no byte in common with a mark is passed over by a search for the mark. -/
theorem infix_behind (apart : ∀ byte ∈ value, byte ∉ mark) (found : mark <:+: value ++ rest) :
    mark <:+: rest := by
  induction value with
  | nil => exact found
  | cons byte others ih =>
    -- A mark cannot start with the first byte, which it does not have, unless it is empty.
    obtain ⟨foreign, apart⟩ := List.forall_mem_cons.mp apart
    rcases List.infix_cons_iff.mp found with here | later
    · cases mark with
      | nil => exact List.nil_infix
      | cons first more =>
        obtain ⟨rfl, -⟩ := List.cons_prefix_cons.mp here
        exact absurd List.mem_cons_self foreign
    · exact ih apart later

/-- A mark does not reach over what has no byte in common with it, if that is anything at all. -/
theorem infix_beside (apart : ∀ byte ∈ value, byte ∉ mark) (some : value ≠ [])
    (found : mark <:+: front ++ (value ++ rest)) : mark <:+: front ∨ mark <:+: rest := by
  rcases List.infix_append_iff.mp found with before | behind | ⟨start, more, rfl, ends, starts⟩
  · exact .inl before
  · exact .inr (infix_behind apart behind)
  · -- A mark over the seam would go on with the first byte between.
    cases more with
    | nil => exact .inl (by simpa using ends.isInfix)
    | cons next others =>
      obtain ⟨byte, between, rfl⟩ := List.exists_cons_of_ne_nil some
      obtain ⟨rfl, -⟩ := List.cons_prefix_cons.mp starts
      exact absurd (List.mem_append_right _ List.mem_cons_self) (apart next List.mem_cons_self)

/-- Segments without a placeholder that something foreign to it separates make bytes without a placeholder. -/
theorem clear_join {parts : Segments} (apart : ∀ byte ∈ value, byte ∉ needle) (some : value ≠ [])
    (marked : ∀ segment ∈ parts.marked, ¬ needle <:+: segment) (last : ¬ needle <:+: parts.last) :
    ¬ needle <:+: parts.join value := by
  obtain ⟨segments, final⟩ := parts
  induction segments with
  | nil => exact last
  | cons segment others ih =>
    -- A placeholder lies in the first segment or behind what follows it, not over the seam between them.
    obtain ⟨here, later⟩ := List.forall_mem_cons.mp marked
    intro found
    simp only [Segments.join, List.flatMap_cons, List.append_assoc] at found
    exact (infix_beside apart some found).elim here (ih later last)

end Seams

/-- A decimal form has no byte in common with the placeholder. -/
theorem apart_decimal (fd : Int32) : ∀ byte ∈ decimal fd, byte ∉ needle := by
  have letters : ∀ byte ∈ needle, 68 ≤ byte.toNat := by simp [needle_eq]
  intro byte listed among
  have above := letters byte among
  obtain ⟨c, numeral, written⟩ := List.mem_flatMap.mp listed
  have below := (Numeral.toNat_of_mem_ofInt numeral).2
  -- A character of a numeral is written as one byte, which lies below all letters.
  rw [encode_ascii (by omega), List.mem_singleton] at written
  rw [written, UInt8.toNat_ofNat_of_lt' (Nat.lt_of_le_of_lt below (by decide))] at above
  omega

/-- A decimal form is not empty. -/
theorem decimal_ne_nil (fd : Int32) : decimal fd ≠ [] := by
  -- A numeral has a character, and a character has a byte.
  obtain ⟨c, others, numeral⟩ := List.exists_cons_of_ne_nil (Numeral.ofInt_ne_nil fd.toInt)
  obtain ⟨first, behind, -, written⟩ := exists_encoded c
  rw [decimal, numeral, Bytes.ofChars_cons, written]
  exact List.cons_ne_nil _ _

/-- A number in place of each placeholder leaves no placeholder, neither beside the number nor over it. -/
theorem clear_replace (token : Bytes) (fd : Int32) : ¬ needle <:+: replace (decimal fd) token := by
  have divide := divide_segments token
  rw [replace_eq]
  -- The number shares no character with the placeholder and is not empty, so it keeps the segments apart.
  exact clear_join (apart_decimal fd) (decimal_ne_nil fd)
    (fun segment listed => clear_of_firstAt (divide.first segment listed)) divide.clear

/-- A token without a placeholder is left as it is. -/
theorem replace_clear {token : Bytes} (clear : ¬ needle <:+: token) (value : Bytes) : replace value token = token := by
  rw [replace_eq, segments_clear clear]
  rfl

/-- A token without a placeholder counts for nothing. -/
theorem count_clear {token : Bytes} (clear : ¬ needle <:+: token) : count token = 0 := by
  rw [count_eq, segments_clear clear]
  rfl

/-- A number in place of each placeholder leaves nothing to be replaced: no word has the placeholder anywhere, none is
counted, and another number changes nothing. -/
theorem substitute_once (words : List Bytes) (fd : Int32) :
    (∀ word ∈ substitute words fd, ¬ needle <:+: word) ∧ total (substitute words fd) = 0 ∧
      ∀ other, substitute (substitute words fd) other = substitute words fd := by
  -- All three follow once no word has the placeholder anywhere.
  have clear : ∀ word ∈ substitute words fd, ¬ needle <:+: word := by
    intro word listed
    obtain ⟨token, -, rfl⟩ := List.mem_map.mp listed
    exact clear_replace token fd
  refine ⟨clear, ?_, fun other => ?_⟩
  · have none : ∀ found ∈ (substitute words fd).map count, found = 0 :=
      List.forall_mem_map.mpr fun word listed => count_clear (clear word listed)
    exact List.sum_eq_zero_iff_forall_eq_nat.mpr none
  · have same : (substitute words fd).map (replace (decimal other)) = (substitute words fd).map id :=
      List.map_congr_left fun word listed => replace_clear (clear word listed) _
    rw [substitute, same, List.map_id]

end Umpire.Placeholder
