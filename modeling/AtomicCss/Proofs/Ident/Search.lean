import AtomicCss.Proofs.Ident.Reservation

/-!
# The search for a free number

The search told as a loop that only a new name ends: each name it makes is put among those taken,
and if it was there before, the next number is tried. That the loop ends, and with the name that
is due, is a matter of counting. All names that are tried in vain are taken, and so is the base,
so there are never more tries than names that are taken.
-/

set_option autoImplicit false

namespace AtomicCss.IdentPool

/-- Puts a name among those taken, and tells whether it is new there. -/
def add (name : String) : StateM IdentPool Bool := fun pool =>
  if pool.taken.contains name then (false, pool)
  else (true, { pool with taken := name :: pool.taken })

/-- Tries one number after the other, until one makes a name that is new. The loop is watched for
so many rounds; it has no result if it is still under way then. -/
def searchFrom (base : String) : (rounds number : Nat) → IdentPool → Option (String × IdentPool)
  | 0, _, _ => none
  | rounds + 1, number, pool =>
      match add (numbered base number) pool with
      | (true, later) => some (numbered base number, later)
      | (false, later) => searchFrom base rounds (number + 1) later

/-- Tries the base, and then the base with numbers from 2 on, for so many rounds. -/
def search (base : String) (rounds : Nat) (pool : IdentPool) : Option (String × IdentPool) :=
  match add base pool with
  | (true, later) => some (base, later)
  | (false, later) => searchFrom base rounds 2 later

section Rounds

variable {base name : String} {number : Nat} {pool : IdentPool}

theorem add_of_mem (taken : name ∈ pool.taken) : add name pool = (false, pool) := by
  simp [add, taken]

theorem add_of_not_mem (fresh : name ∉ pool.taken) :
    add name pool = (true, { pool with taken := name :: pool.taken }) := by
  simp [add, fresh]

theorem searchFrom_of_mem (rounds : Nat) (taken : numbered base number ∈ pool.taken) :
    searchFrom base (rounds + 1) number pool = searchFrom base rounds (number + 1) pool := by
  rw [searchFrom, add_of_mem taken]

theorem searchFrom_of_not_mem (rounds : Nat) (fresh : numbered base number ∉ pool.taken) :
    searchFrom base (rounds + 1) number pool =
      some (numbered base number,
        { pool with taken := numbered base number :: pool.taken }) := by
  rw [searchFrom, add_of_not_mem fresh]

/-- The loop goes on over numbers whose names are taken, with one round for each, and takes one
more round for the number after them. -/
theorem searchFrom_eq (count rounds : Nat)
    (tried : ∀ smaller ∈ List.range' number count, numbered base smaller ∈ pool.taken)
    (fresh : numbered base (number + count) ∉ pool.taken) :
    searchFrom base rounds number pool =
      if count + 1 ≤ rounds then
        some (numbered base (number + count),
          { pool with taken := numbered base (number + count) :: pool.taken })
      else none := by
  induction count generalizing number rounds with
  | zero =>
      rw [Nat.add_zero] at fresh
      cases rounds with
      | zero => rfl
      | succ rounds =>
          rw [searchFrom_of_not_mem rounds fresh, if_pos (Nat.succ_le_succ (Nat.zero_le rounds))]
          rfl
  | succ count ih =>
      cases rounds with
      | zero => rfl
      | succ rounds =>
          rw [List.range'_succ] at tried
          have next : number + (count + 1) = number + 1 + count := by omega
          rw [next] at fresh ⊢
          rw [searchFrom_of_mem rounds (tried number List.mem_cons_self),
            ih rounds (fun smaller inRange => tried smaller (List.mem_cons_of_mem _ inRange)) fresh]
          simp only [Nat.add_le_add_iff_right]

end Rounds

theorem search_of_not_mem {base : String} {pool : IdentPool} (fresh : base ∉ pool.taken)
    (rounds : Nat) :
    search base rounds pool = some (base, { pool with taken := base :: pool.taken }) := by
  rw [search, add_of_not_mem fresh]

theorem search_of_mem {base : String} {pool : IdentPool} (repeated : base ∈ pool.taken)
    (rounds : Nat) : search base rounds pool = searchFrom base rounds 2 pool := by
  rw [search, add_of_mem repeated]

theorem exists_least_free {taken : List String} {base : String} (repeated : base ∈ taken) :
    ∃ count, freeName taken base = numbered base (2 + count) ∧
      numbered base (2 + count) ∉ taken ∧
      ∀ smaller ∈ List.range' 2 count, numbered base smaller ∈ taken := by
  have due := due_freeName taken base
  generalize freeName taken base = name at due
  cases due with
  | plain fresh => exact absurd repeated fresh
  | marked number _ least _ fresh smallest =>
      obtain ⟨count, rfl⟩ := Nat.exists_eq_add_of_le least
      refine ⟨count, rfl, fresh, ?_⟩
      intro smaller inRange
      obtain ⟨from2, below⟩ := List.mem_range'_1.mp inRange
      exact smallest smaller from2 below

/-- Whatever the base name and whatever is taken, the search ends: it is over from a certain
number of rounds on, and these are no more than the names that are taken. It ends with the name
that the pool gives out. The name is new, and what is taken changes by this name alone. A number
behind it exceeds the rounds by one, and then neither the base nor the base with a smaller number
was free. -/
theorem search_reserves (base : String) (pool : IdentPool) :
    ∃ tries name,
      (∀ rounds, search base rounds pool =
        if tries ≤ rounds then some (reserve base pool) else none) ∧
      tries ≤ pool.taken.toFinset.card ∧
      reserve base pool = (name, { pool with taken := name :: pool.taken }) ∧
      name ∉ pool.taken ∧
      (tries = 0 → name = base) ∧
      (0 < tries → name = numbered base (tries + 1) ∧ base ∈ pool.taken ∧
        ∀ number, 2 ≤ number → number ≤ tries → numbered base number ∈ pool.taken) := by
  by_cases repeated : base ∈ pool.taken
  · obtain ⟨count, due, fresh, tried⟩ := exists_least_free repeated
    have given : reserve base pool = (numbered base (2 + count),
        { pool with taken := numbered base (2 + count) :: pool.taken }) := by
      rw [reserve, due]
    refine ⟨count + 1, numbered base (2 + count), fun rounds => ?_, count_lt_card repeated tried,
      given, fresh, fun none => absurd none (Nat.succ_ne_zero count), fun _ => ?_⟩
    · rw [search_of_mem repeated, searchFrom_eq count rounds tried fresh, given]
    · refine ⟨by rw [Nat.add_comm 2 count], repeated, fun number from2 within => ?_⟩
      exact tried number (List.mem_range'_1.mpr ⟨from2, by omega⟩)
  · have given : reserve base pool = (base, { pool with taken := base :: pool.taken }) := by
      rw [reserve, freeName_of_not_mem repeated]
    refine ⟨0, base, fun rounds => ?_, Nat.zero_le _, given, repeated, fun _ => rfl,
      fun some => absurd some (Nat.lt_irrefl 0)⟩
    rw [search_of_not_mem repeated, given, if_pos (Nat.zero_le rounds)]

/-- Names that were asked for with a number of their own leave a gap, which is filled. -/
theorem search_reserves_gap :
    let pool : IdentPool :=
      { start none id with taken := ["w-m-5", "w-m-3", "w-m-2", "w-m"] }
    (reserve "w-m" pool).1 = "w-m-4" ∧ search "w-m" 2 pool = none ∧
      search "w-m" 3 pool = some (reserve "w-m" pool) ∧ numbered "w-m" 3 ∈ pool.taken := by
  intro pool
  have given : (reserve "w-m" pool).1 = "w-m-4" := by decide +kernel
  obtain ⟨tries, name, searched, _, reserved, _, plain, marked⟩ := search_reserves "w-m" pool
  have same : name = "w-m-4" := by
    rw [← given, reserved]
  have some : 0 < tries := by
    apply Nat.pos_of_ne_zero
    intro none
    exact absurd (same.symm.trans (plain none)) (by decide)
  obtain ⟨numberedName, _, smaller⟩ := marked some
  have last : tries + 1 = 4 := numbered_injective "w-m" (numberedName.symm.trans same)
  obtain rfl : tries = 3 := Nat.succ.inj last
  exact ⟨given, searched 2, searched 3, smaller 3 (by decide) (by decide)⟩

end AtomicCss.IdentPool
