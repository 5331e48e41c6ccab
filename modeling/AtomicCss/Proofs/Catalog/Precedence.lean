import Mathlib.Data.List.Induction
import Mathlib.Data.List.Basic

/-!
# Precedence by place

Where things have places in a sequence, the one in the last place takes precedence, and of
several that share a place the one that came last.
-/

set_option autoImplicit false

namespace AtomicCss

/-- Of items that have places, the one that counts: it has the last place, and comes last among
the items with this place. -/
def Prevails {α : Type} (place : α → Nat) (items : List α) (item : α) : Prop :=
  ∃ before after, items = before ++ item :: after ∧
    (∀ other ∈ before, place other ≤ place item) ∧ ∀ other ∈ after, place other < place item

variable {α : Type} {place : α → Nat} {items : List α} {item : α}

theorem Prevails.mem (prevails : Prevails place items item) : item ∈ items := by
  obtain ⟨before, after, rfl, _, _⟩ := prevails
  exact List.mem_append_right _ List.mem_cons_self

theorem Prevails.le (prevails : Prevails place items item) {other : α} (listed : other ∈ items) :
    place other ≤ place item := by
  obtain ⟨before, after, rfl, upTo, below⟩ := prevails
  rcases List.mem_append.mp listed with earlier | here
  · exact upTo other earlier
  · rcases List.mem_cons.mp here with rfl | later
    · exact Nat.le_refl _
    · exact Nat.le_of_lt (below other later)

theorem Prevails.unique {first second : α} (left : Prevails place items first)
    (right : Prevails place items second) : first = second := by
  -- An item before the other one would have to have a higher place and may not have one.
  obtain ⟨before, after, rfl, upTo, below⟩ := left
  obtain ⟨beforeSecond, afterSecond, same, upToSecond, belowSecond⟩ := right
  rcases List.append_eq_append_iff.mp same with ⟨between, rfl, tail⟩ | ⟨between, rfl, tail⟩
  · cases between with
    | nil => exact (List.cons.inj tail).1
    | cons head between =>
        obtain ⟨rfl, rfl⟩ := List.cons.inj tail
        have atMost := upToSecond first (List.mem_append_right _ List.mem_cons_self)
        have less := below second (List.mem_append_right _ List.mem_cons_self)
        exact absurd less (Nat.not_lt.mpr atMost)
  · cases between with
    | nil => exact (List.cons.inj tail).1.symm
    | cons head between =>
        obtain ⟨rfl, rfl⟩ := List.cons.inj tail
        have atMost := upTo second (List.mem_append_right _ List.mem_cons_self)
        have less := belowSecond first (List.mem_append_right _ List.mem_cons_self)
        exact absurd less (Nat.not_lt.mpr atMost)

theorem prevails_concat (highest : ∀ other ∈ items, place other ≤ place item) :
    Prevails place (items ++ [item]) item :=
  ⟨items, [], rfl, highest, fun _ listed => absurd listed List.not_mem_nil⟩

theorem exists_prevails (place : α → Nat) (nonempty : items ≠ []) :
    ∃ item, Prevails place items item := by
  induction items using List.reverseRecOn with
  | nil => exact absurd rfl nonempty
  | append_singleton items last ih =>
      by_cases highest : ∀ other ∈ items, place other ≤ place last
      · exact ⟨last, prevails_concat highest⟩
      · obtain ⟨higher, listed, above⟩ : ∃ higher ∈ items, place last < place higher := by
          simpa using highest
        obtain ⟨item, prevails⟩ := ih (List.ne_nil_of_mem listed)
        have belowItem := Nat.lt_of_lt_of_le above (prevails.le listed)
        obtain ⟨before, after, rfl, upTo, below⟩ := prevails
        refine ⟨item, before, after ++ [last], by simp, upTo, fun other later => ?_⟩
        rcases List.mem_append.mp later with inAfter | isLast
        · exact below other inAfter
        · rw [List.mem_singleton.mp isLast]
          exact belowItem

/-- In a list with ascending places, the last item kept is the one with the highest place. -/
theorem getLast?_filter_of_highest (ascending : items.Pairwise fun first second =>
      place first < place second) {keeps : α → Bool} (listed : item ∈ items)
    (kept : keeps item = true)
    (highest : ∀ other ∈ items, keeps other = true → place other ≤ place item) :
    (items.filter keeps).getLast? = some item := by
  obtain ⟨before, after, rfl⟩ := List.mem_iff_append.mp listed
  have ascendingAfter := (List.pairwise_cons.mp (List.pairwise_append.mp ascending).2.1).1
  have noneAfter : after.filter keeps = [] := by
    refine List.filter_eq_nil_iff.mpr fun other later keptOther => ?_
    have atMost := highest other
      (List.mem_append_right _ (List.mem_cons_of_mem _ later)) keptOther
    exact absurd (ascendingAfter other later) (Nat.not_lt.mpr atMost)
  rw [List.filter_append, List.filter_cons_of_pos kept, noneAfter, List.getLast?_concat]

end AtomicCss
