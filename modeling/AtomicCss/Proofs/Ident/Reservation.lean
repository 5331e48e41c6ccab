import AtomicCss.Ident
import Mathlib.Data.Finset.Card
import Mathlib.Data.List.Nodup
import Mathlib.Logic.Function.Basic

/-!
# The name that a pool gives out next

A base name that is not taken is given out as it is. For a taken one the pool tries numbers
from 2 on. Names with different numbers differ from each other and from the base, so among
as many numbers as there are taken names one is free, and the search finds the least of them.
-/

set_option autoImplicit false

namespace AtomicCss.IdentPool

/-- The name that is due for a base name after earlier ones: the base while it is new, then
the base with the least number from 2 on that makes it new. That number exceeds the count of
the earlier names by one at most. -/
inductive Due (earlier : List String) (base : String) : String → Prop where
  | plain : base ∉ earlier → Due earlier base base
  | marked (number : Nat) :
      base ∈ earlier → 2 ≤ number → number ≤ earlier.length + 1 →
      numbered base number ∉ earlier →
      (∀ smaller, 2 ≤ smaller → smaller < number → numbered base smaller ∈ earlier) →
      Due earlier base (numbered base number)

theorem Due.fresh {earlier : List String} {base name : String} (due : Due earlier base name) :
    name ∉ earlier := by
  cases due with
  | plain fresh => exact fresh
  | marked _ _ _ _ fresh _ => exact fresh

theorem Due.of_perm {earlier others : List String} {base name : String}
    (due : Due earlier base name) (same : earlier.Perm others) : Due others base name := by
  cases due with
  | plain fresh => exact .plain fun known => fresh (same.mem_iff.mpr known)
  | marked number repeated least bounded fresh smallest =>
      refine .marked number (same.mem_iff.mp repeated) least ?_ ?_ ?_
      · simpa only [← same.length_eq] using bounded
      · exact fun known => fresh (same.mem_iff.mpr known)
      · exact fun smaller from2 below => same.mem_iff.mp (smallest smaller from2 below)

private theorem toString_injective {left right : Nat}
    (same : toString left = toString right) : left = right := by
  have digits : Nat.toDigits 10 left = Nat.toDigits 10 right := by
    simpa only [Nat.toString_eq_ofList_toDigits, String.ofList_inj] using same
  simpa only [Nat.ofDigitChars_ten_toDigits] using
    congrArg (fun shown => Nat.ofDigitChars 10 shown 0) digits

theorem numbered_injective (base : String) : Function.Injective (numbered base) := by
  intro left right same
  rw [numbered, numbered, String.append_right_inj] at same
  exact toString_injective same

theorem numbered_ne (base : String) (number : Nat) : numbered base number ≠ base := by
  intro same
  have lengths := congrArg (fun text : String => text.toList.length) same
  simp [numbered] at lengths

theorem nodup_numbered (base : String) (count : Nat) :
    (base :: (List.range' 2 count).map (numbered base)).Nodup := by
  refine List.nodup_cons.mpr ⟨?_, List.Nodup.map (numbered_injective base) List.nodup_range'⟩
  intro isNumbered
  obtain ⟨number, _, same⟩ := List.mem_map.mp isNumbered
  exact numbered_ne base number same

/-- The base and its names with some first numbers are no more names than are taken. -/
theorem count_lt_card {taken : List String} {base : String} {count : Nat}
    (repeated : base ∈ taken)
    (tried : ∀ number ∈ List.range' 2 count, numbered base number ∈ taken) :
    count < taken.toFinset.card := by
  have within : (base :: (List.range' 2 count).map (numbered base)).toFinset ⊆ taken.toFinset := by
    intro name listed
    rw [List.mem_toFinset] at listed ⊢
    rcases List.mem_cons.mp listed with rfl | isNumbered
    · exact repeated
    · obtain ⟨number, inRange, rfl⟩ := List.mem_map.mp isNumbered
      exact tried number inRange
  have bounded := Finset.card_le_card within
  rw [List.toFinset_card_of_nodup (nodup_numbered base count),
    List.length_cons, List.length_map, List.length_range'] at bounded
  exact bounded

/-- Were all the numbers that are tried taken, then the base and these names would be more
names than are taken. -/
theorem exists_free_number {taken : List String} {base : String} (repeated : base ∈ taken) :
    ∃ number ∈ List.range' 2 taken.length, numbered base number ∉ taken := by
  by_contra noneFree
  have tried : ∀ number ∈ List.range' 2 taken.length, numbered base number ∈ taken := by
    intro number inRange
    by_contra free
    exact noneFree ⟨number, inRange, free⟩
  have tooMany := count_lt_card repeated tried
  exact absurd (List.toFinset_card_le taken) (Nat.not_le_of_lt tooMany)

/-- The search meets its first free number within its bound. -/
theorem find_freeNumber {taken : List String} {base : String} (repeated : base ∈ taken) :
    ((List.range' 2 taken.length).find? fun number => !taken.contains (numbered base number)) =
      some (freeNumber taken base) := by
  obtain ⟨number, inRange, free⟩ := exists_free_number repeated
  cases found : (List.range' 2 taken.length).find? fun number =>
      !taken.contains (numbered base number) with
  | none =>
      have excluded := List.find?_eq_none.mp found number inRange
      simp [free] at excluded
  | some first => simp only [freeNumber, found, Option.getD_some]

theorem freeName_of_not_mem {taken : List String} {base : String} (fresh : base ∉ taken) :
    freeName taken base = base := by
  simp [freeName, fresh]

theorem due_freeName (taken : List String) (base : String) :
    Due taken base (freeName taken base) := by
  by_cases repeated : base ∈ taken
  · have found := find_freeNumber repeated
    rw [List.find?_range'_eq_some] at found
    obtain ⟨free, inRange, smallest⟩ := found
    obtain ⟨least, bounded⟩ := List.mem_range'_1.mp inRange
    simp only [freeName, List.contains_iff_mem, repeated, if_true]
    refine .marked _ repeated least (by omega) (by simpa using free) ?_
    intro smaller from2 below
    simpa using smallest smaller from2 below
  · simp only [freeName, List.contains_iff_mem, repeated, if_false]
    exact .plain repeated

/-- Where more is taken, the name that was due for a base is taken too, or else it is still the
one that is due. -/
theorem Due.mem_of_subset {taken others : List String} {base name other : String}
    (due : Due taken base name) (dueThere : Due others base other) (within : taken ⊆ others) :
    name ∈ other :: others := by
  by_contra missing
  simp only [List.mem_cons, not_or] at missing
  obtain ⟨different, fresh⟩ := missing
  cases due with
  | plain _ =>
      cases dueThere with
      | plain _ => exact different rfl
      | marked _ repeated => exact fresh repeated
  | marked number repeated least _ _ smallest =>
      cases dueThere with
      | plain unused => exact unused (within repeated)
      | marked otherNumber _ otherLeast _ otherFresh otherSmallest =>
          -- both numbers are the least free one, each where it was asked for
          rcases Nat.lt_trichotomy number otherNumber with less | rfl | more
          · exact fresh (otherSmallest number least less)
          · exact different rfl
          · exact otherFresh (within (smallest otherNumber otherLeast more))

end AtomicCss.IdentPool
