import Mathlib.Data.List.Nodup
import Umpire.Proofs.Bout.Record

/-! Stock: which descriptors of the umpire's making are open, and that no new program would keep them. -/

namespace Umpire.Bout

open Host (Slot Table)

/-- The numbers and open files of all descriptors of the umpire's making that are open: none of them is
kept by new programs, none has a standard stream's number, and no open file is there twice. -/
structure Stock (table : Table) (made : List Nat) (next : Nat) (known : List (Nat × Nat)) : Prop where
  all : ∀ fd slot, table.get? fd = some slot → slot.file ∈ made →
    slot.closeOnExec = true ∧ (fd, slot.file) ∈ known
  held : ∀ entry ∈ known, table.get? entry.1 = some ⟨entry.2, true⟩ ∧ entry.2 ∈ made ∧ entry.1 < 2147483648
  distinct : (known.map Prod.snd).Nodup
  below : ∀ file ∈ made, file < next
  opened : ∀ fd slot, table.get? fd = some slot → slot.file < next
  low : ∀ fd, fd < 3 → ∃ slot, table.get? fd = some slot ∧ slot.file ∉ made
  limit : table.limit ≤ 2147483648

namespace Stock

variable {table after : Table} {made : List Nat} {next : Nat} {known : List (Nat × Nat)}
  (stock : Stock table made next known)

include stock

/-- No open file is there under two numbers. -/
theorem single {first second : Nat × Nat} (member : first ∈ known) (member' : second ∈ known)
    (same : first.2 = second.2) : first = second :=
  List.inj_on_of_nodup_map stock.distinct member member' same

/-- A number tells which open file it stands for. -/
theorem eq_of_number {first second : Nat × Nat} (member : first ∈ known) (member' : second ∈ known)
    (same : first.1 = second.1) : first = second := by
  -- The table has one slot under the number, which is both entries' file.
  have found := (stock.held first member).1
  rw [same, (stock.held second member').1] at found
  exact stock.single member member' (congrArg Slot.file (Option.some.inj found)).symm

/-- What is listed first and what is listed later have different numbers. -/
theorem apart {earlier later : List (Nat × Nat)} (listed : known = earlier ++ later) {first second : Nat × Nat}
    (member : first ∈ earlier) (member' : second ∈ later) : first.1 ≠ second.1 := by
  subst listed
  intro same
  -- With the same number they would be one entry, whose file would be listed twice.
  have equal := stock.eq_of_number (List.mem_append_left _ member) (List.mem_append_right _ member') same
  have distinct := stock.distinct
  rw [List.map_append, List.nodup_append] at distinct
  exact distinct.2.2 _ (List.mem_map_of_mem member) _ (List.mem_map_of_mem member') (congrArg Prod.snd equal)

/-- What the umpire has made has no standard stream's number. -/
theorem beyond_streams {entry : Nat × Nat} (member : entry ∈ known) : 2 < entry.1 := by
  obtain ⟨found, new, -⟩ := stock.held entry member
  -- A standard stream's number stands for a file that the umpire has not made.
  refine Nat.lt_of_not_le fun low => ?_
  obtain ⟨slot, found', old⟩ := stock.low entry.1 (by omega)
  cases found.symm.trans found'
  exact old new

/-- The numbers of open files may have gone up. -/
theorem later {now : Nat} (le : next ≤ now) : Stock table made now known where
  all := stock.all
  held := stock.held
  distinct := stock.distinct
  -- All that was below the old number is below the new one.
  below file member := Nat.lt_of_lt_of_le (stock.below file member) le
  opened fd slot found := Nat.lt_of_lt_of_le (stock.opened fd slot found) le
  low := stock.low
  limit := stock.limit

/-- A table with the same under each number has the same stock. -/
theorem congr (same : ∀ fd, after.get? fd = table.get? fd) (limit : after.limit = table.limit) :
    Stock after made next known where
  -- Each clause looks at one number at a time.
  all fd slot found := stock.all fd slot (same fd ▸ found)
  held entry member := same entry.1 ▸ stock.held entry member
  distinct := stock.distinct
  below := stock.below
  opened fd slot found := stock.opened fd slot (same fd ▸ found)
  low fd standard := same fd ▸ stock.low fd standard
  limit := limit ▸ stock.limit

/-- A new open file under a number that was free is all that is new. -/
theorem insert {fd : Nat} (taken : table.insert 0 ⟨next, true⟩ = .ok (fd, after)) :
    Stock after (made ++ [next]) (next + 1) (known ++ [(fd, next)]) := by
  obtain ⟨free, room, rfl⟩ := Table.insert_ok taken
  have limit := stock.limit
  -- No number that was in use is the one that was free.
  have other {number : Nat} {slot : Slot} (found : table.get? number = some slot) : number ≠ fd := by
    rintro rfl
    rw [free] at found
    cases found
  have old {file : Nat} (member : file ∈ made) : file ≠ next := Nat.ne_of_lt (stock.below file member)
  -- Each clause holds of the new number by what was put there, and of any other as before.
  refine ⟨fun number slot found new => ?_, fun entry member => ?_, ?_, fun file member => ?_,
    fun number slot found => ?_, fun number standard => ?_, limit⟩
  · rw [Table.get?_put] at found
    split at found
    · rename_i same
      cases found
      exact ⟨rfl, by simp [same]⟩
    · have earlier : slot.file ≠ next := Nat.ne_of_lt (stock.opened number slot found)
      obtain ⟨private_, member⟩ := stock.all number slot found (by simpa [earlier] using new)
      exact ⟨private_, List.mem_append_left _ member⟩
  · rcases List.mem_append.mp member with earlier | new
    · obtain ⟨found, ours, range⟩ := stock.held entry earlier
      refine ⟨?_, List.mem_append_left _ ours, range⟩
      rw [Table.get?_put, if_neg (other found)]
      exact found
    · obtain rfl := List.mem_singleton.mp new
      exact ⟨by rw [Table.get?_put, if_pos rfl], by simp, Nat.lt_of_lt_of_le room limit⟩
  · rw [List.map_append, List.nodup_append]
    refine ⟨stock.distinct, List.nodup_singleton next, fun file earlier last new same => ?_⟩
    obtain ⟨entry, member, rfl⟩ := List.mem_map.mp earlier
    exact old (stock.held entry member).2.1 (same.trans (List.mem_singleton.mp new))
  · rcases List.mem_append.mp member with earlier | new
    · exact Nat.lt_succ_of_lt (stock.below file earlier)
    · exact List.mem_singleton.mp new ▸ Nat.lt_succ_self next
  · rw [Table.get?_put] at found
    split at found
    · cases found
      exact Nat.lt_succ_self next
    · exact Nat.lt_succ_of_lt (stock.opened number slot found)
  · obtain ⟨slot, found, ours⟩ := stock.low number standard
    refine ⟨slot, ?_, ?_⟩
    · rw [Table.get?_put, if_neg (other found)]
      exact found
    · have earlier := Nat.ne_of_lt (stock.opened number slot found)
      simp [ours, earlier]

/-- A number that is freed is all that is gone. -/
theorem free {fd : Nat} (high : 2 < fd) (gone : ∀ number, after.get? number =
    if number = fd then none else table.get? number) (limit : after.limit = table.limit) :
    Stock after made next (known.filter fun entry => entry.1 != fd) where
  -- Nothing is under the number that was freed, and what is under others is known as before.
  all number slot found ours := by
    rw [gone] at found
    split at found
    · cases found
    · rename_i other
      obtain ⟨private_, member⟩ := stock.all number slot found ours
      exact ⟨private_, List.mem_filter.mpr ⟨member, by simpa using other⟩⟩
  held entry member := by
    obtain ⟨member, other⟩ := List.mem_filter.mp member
    rw [gone, if_neg (by simpa using other)]
    exact stock.held entry member
  distinct := stock.distinct.sublist (List.filter_sublist.map Prod.snd)
  below := stock.below
  opened number slot found := by
    rw [gone] at found
    split at found
    · cases found
    · exact stock.opened number slot found
  -- The number is beyond the streams, so none of them is freed.
  low number standard := by
    rw [gone, if_neg (by omega)]
    exact stock.low number standard
  limit := limit ▸ stock.limit

end Stock

end Umpire.Bout
