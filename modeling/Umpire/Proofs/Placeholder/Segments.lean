import Mathlib.Data.List.Infix
import Umpire.Placeholder
import Umpire.Proofs.Text.Numeral

/-! The segments between the placeholders of a token: what replaces a placeholder stands between two of them. -/

namespace Umpire.Placeholder

/-- What a token consists of besides its placeholders: a segment before each of them, and one behind the last. -/
structure Segments where
  marked : List Bytes
  last : Bytes
  deriving DecidableEq, Repr

namespace Segments

variable {segments : Segments}

/-- The segments in order, with something between each two of them. -/
def join (between : Bytes) (segments : Segments) : Bytes :=
  segments.marked.flatMap (· ++ between) ++ segments.last

/-- The segments of what has one more placeholder in front. -/
def mark (segments : Segments) : Segments :=
  ⟨[] :: segments.marked, segments.last⟩

/-- The segments of what has one more byte in front. -/
def push (byte : UInt8) : Segments → Segments
  | ⟨[], last⟩ => ⟨[], byte :: last⟩
  | ⟨head :: others, last⟩ => ⟨(byte :: head) :: others, last⟩

@[simp] theorem join_mark (between : Bytes) : segments.mark.join between = between ++ segments.join between := by
  simp [join, mark]

@[simp] theorem join_push (between : Bytes) (byte : UInt8) :
    (segments.push byte).join between = byte :: segments.join between := by
  obtain ⟨_ | ⟨head, others⟩, last⟩ := segments <;> simp [join, push]

@[simp] theorem length_mark : segments.mark.marked.length = segments.marked.length + 1 :=
  rfl

@[simp] theorem length_push (byte : UInt8) : (segments.push byte).marked.length = segments.marked.length := by
  obtain ⟨_ | ⟨head, others⟩, last⟩ := segments <;> rfl

end Segments

/-- The placeholder stands at a place of some bytes and at none before it. -/
def FirstAt (bytes : Bytes) (place : Nat) : Prop :=
  needle <+: bytes.drop place ∧ ∀ earlier < place, ¬ needle <+: bytes.drop earlier

/-- A token is made of segments and of a placeholder between each two of them, and whoever looks for the
placeholder from the start of a segment on first finds the one right behind it. Behind the last
placeholder there is no other. -/
structure Segments.Divide (segments : Segments) (token : Bytes) : Prop where
  whole : token = segments.join needle
  first : ∀ segment ∈ segments.marked, FirstAt (segment ++ needle) segment.length
  clear : ¬ needle <:+: segments.last

/-- The segments of a token. -/
def segments : Bytes → Segments
  | [] => ⟨[], []⟩
  | byte :: rest =>
    if needle.isPrefixOf (byte :: rest) then (segments (rest.drop (needle.length - 1))).mark
    else (segments rest).push byte
termination_by token => token.length
decreasing_by
  · simp only [List.length_drop, List.length_cons]
    omega
  · simp

/-- Two underscores, two letters and two underscores. -/
theorem needle_eq : needle = [0x5F, 0x5F, 0x46, 0x44, 0x5F, 0x5F] :=
  rfl

section Places

variable {byte : UInt8} {bytes segment : Bytes}

/-- A search that does not end at once goes on behind the first byte. -/
theorem firstAt_cons {place : Nat} :
    FirstAt (byte :: bytes) (place + 1) ↔ ¬ needle <+: byte :: bytes ∧ FirstAt bytes place := by
  simp only [FirstAt, List.drop_succ_cons, Nat.forall_lt_succ_left, List.drop_zero]
  exact and_left_comm

/-- Where the placeholder is found right behind a segment, there is none in the segment. -/
theorem clear_of_firstAt (first : FirstAt (segment ++ needle) segment.length) : ¬ needle <:+: segment := by
  rintro ⟨front, back, rfl⟩
  -- It would start before the segment's end, where the search has not found one.
  have shorter : front.length < (front ++ needle ++ back).length := by
    simp only [needle_eq, List.length_append, List.length_cons]
    omega
  apply first.2 front.length shorter
  simp only [List.append_assoc, List.drop_left]
  exact List.prefix_append _ _

/-- A placeholder that starts before a segment's end does not reach beyond the one right behind the segment. -/
theorem prefix_segment_iff (rest : Bytes) :
    needle <+: byte :: (segment ++ needle ++ rest) ↔ needle <+: byte :: (segment ++ needle) := by
  -- There is room for it up to the end of the one behind the segment.
  have fits : needle.length ≤ (byte :: (segment ++ needle)).length := by
    simp only [List.length_cons, List.length_append]
    omega
  rw [← List.cons_append, List.isPrefix_append_of_length fits]

/-- Bytes that start with a placeholder are that placeholder and what follows it. -/
theorem needle_append_drop (found : needle.isPrefixOf (byte :: bytes) = true) :
    needle ++ bytes.drop (needle.length - 1) = byte :: bytes := by
  -- One byte less is dropped because the first is taken off already.
  obtain ⟨rest, whole⟩ := List.isPrefixOf_iff_prefix.mp found
  have behind : (byte :: bytes).drop needle.length = rest := by
    rw [← whole, List.drop_left]
  rw [← whole]
  exact congrArg (needle ++ ·) behind

end Places

section Division

open Segments

variable {byte : UInt8} {token rest : Bytes} {parts : Segments}

/-- A placeholder in front ends an empty segment. -/
theorem Segments.Divide.mark (divide : parts.Divide rest) : parts.mark.Divide (needle ++ rest) where
  whole := by rw [divide.whole, join_mark]
  first := by
    -- Nothing comes before the placeholder, so it is the first.
    refine List.forall_mem_cons.mpr ⟨⟨List.prefix_rfl, ?_⟩, divide.first⟩
    intro earlier none
    cases none
  clear := divide.clear

/-- A byte in front belongs to the first segment, unless a placeholder starts with it. -/
theorem Segments.Divide.push (divide : parts.Divide rest) (other : ¬ needle <+: byte :: rest) :
    (parts.push byte).Divide (byte :: rest) := by
  -- There is a placeholder behind, which ends the first segment, or there is none.
  obtain ⟨_ | ⟨head, others⟩, last⟩ := parts
  · obtain ⟨rfl, first, clear⟩ := divide
    exact ⟨rfl, first, fun found => (List.infix_cons_iff.mp found).elim other clear⟩
  · obtain ⟨rfl, first, clear⟩ := divide
    obtain ⟨here, later⟩ := List.forall_mem_cons.mp first
    refine ⟨(join_push ..).symm, List.forall_mem_cons.mpr ⟨?_, later⟩, clear⟩
    refine firstAt_cons.mpr ⟨fun found => other ?_, here⟩
    -- What was found lies within the first segment and the placeholder behind it.
    simp only [join, List.flatMap_cons, List.append_assoc (head ++ needle)]
    exact (prefix_segment_iff _).mpr found

/-- The segments of a token divide it. -/
theorem divide_segments (token : Bytes) : (segments token).Divide token := by
  -- Each turn of the division adds in front what it has passed.
  fun_induction segments token with
  | case1 => exact ⟨rfl, by simp, by decide⟩
  | case2 byte rest found ih =>
    rw [← needle_append_drop found]
    exact ih.mark
  | case3 byte rest other ih => exact ih.push (by rwa [List.isPrefixOf_iff_prefix] at other)

/-- With a placeholder in front, the first segment is empty. -/
theorem segments_needle (rest : Bytes) : segments (needle ++ rest) = (segments rest).mark := by
  -- The division looks at the first byte, and so the placeholder is taken apart into its first byte and the others.
  obtain ⟨first, others, shape⟩ : ∃ first others, needle = first :: others := ⟨_, _, needle_eq⟩
  have found : needle.isPrefixOf (first :: (others ++ rest)) = true := by
    rw [List.isPrefixOf_iff_prefix, ← List.cons_append, ← shape]
    exact List.prefix_append _ _
  have behind : (others ++ rest).drop (needle.length - 1) = rest := by
    rw [shape, List.length_cons, Nat.add_sub_cancel, List.drop_left]
  rw [shape, List.cons_append, segments, if_pos found, behind]

/-- A byte with which no placeholder starts belongs to the first segment. -/
theorem segments_cons (other : ¬ needle <+: byte :: rest) : segments (byte :: rest) = (segments rest).push byte := by
  rw [segments, if_neg (by rwa [List.isPrefixOf_iff_prefix])]

/-- A token without a placeholder is its last segment. -/
theorem segments_clear (clear : ¬ needle <:+: token) : segments token = ⟨[], token⟩ := by
  induction token with
  | nil => rw [segments]
  | cons byte rest ih =>
    -- What occurs nowhere neither starts at the first byte nor occurs behind it.
    obtain ⟨other, later⟩ := not_or.mp (List.infix_cons_iff.not.mp clear)
    rw [segments_cons other, ih later]
    rfl

/-- What stands before the first placeholder is the first segment. -/
theorem segments_first {segment : Bytes} (first : FirstAt (segment ++ needle) segment.length) (rest : Bytes) :
    segments (segment ++ needle ++ rest) = ⟨segment :: (segments rest).marked, (segments rest).last⟩ := by
  -- The induction is on the bytes that the search passes before it ends.
  induction segment with
  | nil => exact segments_needle rest
  | cons byte others ih =>
    obtain ⟨other, later⟩ := firstAt_cons.mp first
    have unmarked : ¬ needle <+: byte :: (others ++ needle ++ rest) := (prefix_segment_iff rest).not.mpr other
    rw [List.cons_append, List.cons_append, segments_cons unmarked, ih later]
    rfl

/-- A token is divided in one way only. -/
theorem divide_iff : parts.Divide token ↔ parts = segments token := by
  constructor
  · obtain ⟨heads, last⟩ := parts
    rintro ⟨rfl, first, clear⟩
    -- One segment after the other is where the search for the next placeholder ends.
    induction heads with
    | nil => exact (segments_clear clear).symm
    | cons head others ih =>
      obtain ⟨here, later⟩ := List.forall_mem_cons.mp first
      have behind : ⟨others, last⟩ = segments (join needle ⟨others, last⟩) := ih later clear
      simp only [join, List.flatMap_cons, List.append_assoc (head ++ needle)] at behind ⊢
      rw [segments_first here, ← behind]
  · rintro rfl
    exact divide_segments token

end Division

section Replacement

open Segments

/-- The replacement stands between the segments. -/
theorem replace_eq (value token : Bytes) : replace value token = (segments token).join value := by
  -- The replacement takes the same turns as the division.
  fun_induction replace value token with
  | case1 => rw [segments]; rfl
  | case2 byte rest found ih => rw [segments, if_pos found, join_mark, ih]
  | case3 byte rest other ih => rw [segments, if_neg other, join_push, ih]

/-- There is one placeholder behind each segment but the last. -/
theorem count_eq (token : Bytes) : count token = (segments token).marked.length := by
  -- So does the count, which adds one where the division ends a segment.
  fun_induction count token with
  | case1 => rw [segments]; rfl
  | case2 byte rest found ih => rw [segments, if_pos found, length_mark, ih, Nat.add_comm]
  | case3 byte rest other ih => rw [segments, if_neg other, length_push, ih]

end Replacement

/-- The decimal form of a number is the text that the number is shown as. -/
theorem decimal_eq (fd : Int32) : decimal fd = Bytes.ofString (toString fd) :=
  congrArg Bytes.ofChars (Numeral.ofInt_eq fd.toInt)

/-- Each word has one division, which its bytes alone decide: the word in its place is made of the same segments with
the number between them, and there are as many placeholders as segments that end before one. -/
theorem substitute_segments (words : List Bytes) (fd : Int32) :
    (∀ token parts, Segments.Divide parts token ↔ parts = segments token) ∧
      substitute words fd = words.map (fun word => (segments word).join (Bytes.ofString (toString fd))) ∧
      (∀ word, count word = (segments word).marked.length) ∧
      total words = (words.map fun word => (segments word).marked.length).foldr (· + ·) 0 := by
  -- Each part is about one word, and holds of all words alike.
  refine ⟨fun token parts => divide_iff, ?_, count_eq, ?_⟩
  · rw [substitute, decimal_eq, funext (replace_eq _)]
  · rw [total, funext count_eq]

/-- Where placeholders overlap, the first one counts; what is left of the other is none. -/
example : substitute [Bytes.ofString "____FD____", Bytes.ofString "__FD__FD__"] (-7) =
    [Bytes.ofString "__-7__", Bytes.ofString "-7FD__"] := by
  decide +kernel

end Umpire.Placeholder
