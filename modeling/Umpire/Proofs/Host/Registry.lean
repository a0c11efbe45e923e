import Umpire.Host.Registry

/-! Laws of registries: what is found after a record is added, changed or removed. -/

namespace Umpire.Host.Registry

variable {α : Type}

/-- No number was given twice, and none that is still to be given. -/
structure Sound (registry : Registry α) : Prop where
  distinct : (registry.entries.map Prod.fst).Nodup
  numbered : ∀ number ∈ registry.entries.map Prod.fst, number < registry.next

/-- What is added is found under the next number, and everything else where it was. -/
theorem get?_add (registry : Registry α) (record : α) (wanted : Nat) :
    (registry.add record).2.get? wanted =
      if wanted = registry.next then some record else registry.get? wanted := by
  -- The new entry comes first and is found under its number only.
  by_cases same : wanted = registry.next
  · simp [add, get?, same]
  · have missed : (wanted == registry.next) = false := by simpa using same
    simp [add, get?, same, List.lookup_cons, missed]

/-- What is removed is found no more, and everything else where it was. -/
theorem get?_erase (registry : Registry α) (number wanted : Nat) :
    (registry.erase number).get? wanted = if wanted = number then none else registry.get? wanted := by
  simp only [erase, get?]
  -- By induction on the entries, which are looked through one by one.
  induction registry.entries with
  | nil => simp
  | cons entry rest ih =>
    obtain ⟨key, record⟩ := entry
    -- The first entry goes or stays; wherever it stays, the rest is asked only about other numbers.
    by_cases removed : key = number
    · rw [List.filter_cons_of_neg (by simpa using removed), ih]
      by_cases same : wanted = number
      · simp [same]
      · have missed : (wanted == key) = false := by simpa [removed] using same
        simp [same, List.lookup_cons, missed]
    · rw [List.filter_cons_of_pos (by simpa using removed)]
      by_cases found : wanted = key
      · subst found
        simp [removed]
      · have missed : (wanted == key) = false := by simpa using found
        simpa [List.lookup_cons, missed] using ih

/-- A number that is found is one of the entries' numbers. -/
theorem mem_of_lookup {entries : List (Nat × α)} {wanted : Nat} {record : α}
    (found : entries.lookup wanted = some record) : wanted ∈ entries.map Prod.fst := by
  -- The first entry with the number is the one that is found.
  induction entries with
  | nil => cases found
  | cons entry rest ih =>
    obtain ⟨key, other⟩ := entry
    by_cases same : wanted = key
    · simp [same]
    · have missed : (wanted == key) = false := by simpa using same
      rw [List.lookup_cons, missed] at found
      exact List.mem_cons_of_mem _ (ih found)

/-- An entry is found under its number if no other has it. -/
theorem lookup_of_mem {entries : List (Nat × α)} (distinct : (entries.map Prod.fst).Nodup)
    {entry : Nat × α} (member : entry ∈ entries) : entries.lookup entry.1 = some entry.2 := by
  induction entries with
  | nil => cases member
  | cons first rest ih =>
    -- No entry before it has its number.
    rw [List.map_cons, List.nodup_cons] at distinct
    obtain ⟨key, record⟩ := first
    rcases List.mem_cons.mp member with rfl | later
    · simp
    · have other : entry.1 ≠ key := fun same => distinct.1 (List.mem_map.mpr ⟨entry, later, same⟩)
      have missed : (entry.1 == key) = false := by simpa using other
      rw [List.lookup_cons, missed]
      exact ih distinct.2 later

/-- Changing and removing entries one by one, each under its own number, does so to what is found. -/
theorem lookup_filterMap {entries : List (Nat × α)} (distinct : (entries.map Prod.fst).Nodup)
    {change : Nat × α → Option (Nat × α)}
    (keeps : ∀ entry changed, change entry = some changed → changed.1 = entry.1) (wanted : Nat) :
    (entries.filterMap change).lookup wanted =
      (entries.lookup wanted).bind fun record => (change (wanted, record)).map Prod.snd := by
  -- The first entry decides about its own number, and about no other.
  induction entries with
  | nil => rfl
  | cons entry rest ih =>
    obtain ⟨key, record⟩ := entry
    rw [List.map_cons, List.nodup_cons] at distinct
    have later := ih distinct.2
    by_cases found : wanted = key
    · subst found
      cases changed : change (wanted, record) with
      | none =>
        -- Once its entry is gone the number is found no more, as no other entry has it.
        have absent : rest.lookup wanted = none := by
          cases other : rest.lookup wanted with
          | none => rfl
          | some record => exact absurd (mem_of_lookup other) distinct.1
        rw [List.filterMap_cons_none changed, later, absent]
        simp [changed]
      | some kept =>
        have same : kept.1 = wanted := keeps _ _ changed
        rw [List.filterMap_cons_some changed, ← same]
        obtain ⟨number, new⟩ := kept
        dsimp only at same ⊢
        subst same
        simp [changed]
    · have missed : (wanted == key) = false := by simpa using found
      rw [List.lookup_cons, missed]
      cases changed : change (key, record) with
      | none => rw [List.filterMap_cons_none changed, later]
      | some kept =>
        have same : kept.1 = key := keeps _ _ changed
        obtain ⟨number, new⟩ := kept
        dsimp only at same
        subst same
        rw [List.filterMap_cons_some changed, List.lookup_cons, missed, later]

namespace Sound

variable {registry : Registry α} (sound : registry.Sound)

include sound

/-- A number that is found has been given. -/
theorem lt_next {number : Nat} {record : α} (found : registry.get? number = some record) :
    number < registry.next :=
  sound.numbered number (mem_of_lookup found)

/-- A record that is added gets a number of its own. -/
theorem add (record : α) : (registry.add record).2.Sound where
  distinct := by
    -- A number that was given is below the next one.
    have fresh : registry.next ∉ registry.entries.map Prod.fst :=
      fun given => Nat.lt_irrefl _ (sound.numbered _ given)
    exact List.nodup_cons.mpr ⟨fresh, sound.distinct⟩
  numbered := by
    intro number member
    rcases List.mem_cons.mp member with rfl | earlier
    · exact Nat.lt_succ_self _
    · exact Nat.lt_succ_of_lt (sound.numbered number earlier)

/-- Entries that are some of those there were, in their order and under their numbers, are sound. -/
theorem of_sublist {entries : List (Nat × α)}
    (fewer : (entries.map Prod.fst).Sublist (registry.entries.map Prod.fst)) :
    Sound { registry with entries } where
  distinct := sound.distinct.sublist fewer
  numbered number member := sound.numbered number (fewer.subset member)

/-- Changing a record changes no number. -/
theorem modify (number : Nat) (change : α → α) : (registry.modify number change).Sound := by
  -- Only records change, so that the numbers stay in their order.
  have same : (registry.modify number change).entries.map Prod.fst =
      registry.entries.map Prod.fst := by
    rw [Registry.modify, List.map_map]
    refine List.map_congr_left fun entry _ => ?_
    dsimp only [Function.comp]
    split <;> rfl
  exact sound.of_sublist (same ▸ List.Sublist.refl _)

/-- Removing a record changes no other number. -/
theorem erase (number : Nat) : (registry.erase number).Sound :=
  sound.of_sublist (List.filter_sublist.map Prod.fst)

/-- Changing and removing entries under their own numbers changes no number. -/
theorem filterMap {change : Nat × α → Option (Nat × α)}
    (keeps : ∀ entry changed, change entry = some changed → changed.1 = entry.1) :
    Sound { registry with entries := registry.entries.filterMap change } := by
  refine sound.of_sublist ?_
  -- An entry is dropped, or kept under its number.
  induction registry.entries with
  | nil => exact List.Sublist.refl []
  | cons entry rest ih =>
    cases changed : change entry with
    | none =>
      rw [List.filterMap_cons_none changed]
      exact ih.cons _
    | some kept =>
      rw [List.filterMap_cons_some changed, List.map_cons, List.map_cons, keeps _ _ changed]
      exact ih.cons_cons _

end Sound

end Umpire.Host.Registry
