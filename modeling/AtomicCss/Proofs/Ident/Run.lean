import AtomicCss.Proofs.Ident.Reservation

/-!
# Runs of a pool

A pool is asked for names one after the other, for classes and for custom properties in any
order. One request gives out the name due for its base and marks it as taken; a run of
requests therefore never repeats a name, and each of its names is determined by the base
asked for and by the names before it.
-/

set_option autoImplicit false

namespace AtomicCss.IdentPool

/-- What a pool can be asked for: a class or a custom property named by some parts. -/
inductive Request where
  | className (parts : List String)
  | variableName (parts : List String)
  deriving DecidableEq, Repr

namespace Request

/-- The name asked for, before it is compared with names that are taken: the identifier
characters of the class prefix, then the parts, joined by dashes. A class gets an underscore
in front of a leading digit, a custom property gets two dashes. -/
def base (classPrefix : Option String) (romanize : String → String) : Request → String
  | .className parts =>
      let name := String.ofList ((classPrefix.getD "").toList.filter Ident.isIdentChar) ++
        "-".intercalate (parts.map (Ident.component romanize))
      if name.toList.head?.any Char.isDigit then "_" ++ name else name
  | .variableName parts =>
      "--" ++ (String.ofList ((classPrefix.getD "").toList.filter Ident.isIdentChar) ++
        "-".intercalate (parts.map (Ident.component romanize)))

/-- The base of a request in the pool that receives it. -/
def baseIn (pool : IdentPool) : Request → String
  | .className parts => pool.classBase parts
  | .variableName parts => pool.variableBase parts

def take : Request → StateM IdentPool String
  | .className parts => IdentPool.className parts
  | .variableName parts => IdentPool.variableName parts

theorem baseIn_start (classPrefix : Option String) (romanize : String → String)
    (request : Request) :
    request.baseIn (start classPrefix romanize) = request.base classPrefix romanize := by
  cases request <;> rfl

theorem baseIn_congr {left right : IdentPool} (sameOpening : left.opening = right.opening)
    (sameSpelling : left.romanize = right.romanize) (request : Request) :
    request.baseIn left = request.baseIn right := by
  have sameJoined (parts : List String) : left.joined parts = right.joined parts := by
    rw [joined, joined, sameOpening, sameSpelling]
  cases request with
  | className parts => rw [baseIn, baseIn, classBase, classBase, sameJoined]
  | variableName parts => rw [baseIn, baseIn, variableBase, variableBase, sameJoined]

/-- One step: the due name is given out, and the pool differs in that it is taken. -/
theorem take_run (request : Request) (pool : IdentPool) :
    request.take pool =
      (freeName pool.taken (request.baseIn pool),
        { pool with taken := freeName pool.taken (request.baseIn pool) :: pool.taken }) := by
  cases request <;> rfl

end Request

/-- Takes the names of several requests, one after the other. -/
def takeAll (requests : List Request) : StateM IdentPool (List String) :=
  requests.mapM Request.take

@[simp] theorem takeAll_cons (request : Request) (rest : List Request) (pool : IdentPool) :
    takeAll (request :: rest) pool =
      ((request.take pool).1 :: (takeAll rest (request.take pool).2).1,
        (takeAll rest (request.take pool).2).2) := by
  rw [takeAll, List.mapM_cons]
  rfl

theorem takeAll_append (first second : List Request) (pool : IdentPool) :
    takeAll (first ++ second) pool =
      ((takeAll first pool).1 ++ (takeAll second (takeAll first pool).2).1,
        (takeAll second (takeAll first pool).2).2) := by
  induction first generalizing pool with
  | nil => rfl
  | cons request rest ih => simp only [List.cons_append, takeAll_cons, ih]

theorem length_takeAll (requests : List Request) (pool : IdentPool) :
    (takeAll requests pool).1.length = requests.length := by
  induction requests generalizing pool with
  | nil => rfl
  | cons request rest ih => simp only [takeAll_cons, List.length_cons, ih]

theorem taken_takeAll (requests : List Request) (pool : IdentPool) :
    (takeAll requests pool).2.taken = (takeAll requests pool).1.reverse ++ pool.taken := by
  induction requests generalizing pool with
  | nil => rfl
  | cons request rest ih =>
      rw [takeAll_cons, ih, Request.take_run, List.reverse_cons, List.append_assoc,
        List.singleton_append]

theorem opening_takeAll (requests : List Request) (pool : IdentPool) :
    (takeAll requests pool).2.opening = pool.opening := by
  induction requests generalizing pool with
  | nil => rfl
  | cons request rest ih => rw [takeAll_cons, ih, Request.take_run]

theorem romanize_takeAll (requests : List Request) (pool : IdentPool) :
    (takeAll requests pool).2.romanize = pool.romanize := by
  induction requests generalizing pool with
  | nil => rfl
  | cons request rest ih => rw [takeAll_cons, ih, Request.take_run]

theorem taken_takeAll_concat (requests : List Request) (request : Request) (pool : IdentPool) :
    (takeAll (requests ++ [request]) pool).2.taken =
      freeName (takeAll requests pool).2.taken (request.baseIn pool) ::
        (takeAll requests pool).2.taken := by
  have sameBase : request.baseIn (takeAll requests pool).2 = request.baseIn pool :=
    request.baseIn_congr (opening_takeAll requests pool) (romanize_takeAll requests pool)
  rw [takeAll_append, takeAll_cons, Request.take_run, sameBase]
  rfl

/-- No step repeats a taken name, so a run from distinct names ends in distinct names. -/
theorem nodup_taken_takeAll (requests : List Request) (pool : IdentPool)
    (distinct : pool.taken.Nodup) : (takeAll requests pool).2.taken.Nodup := by
  induction requests generalizing pool with
  | nil => exact distinct
  | cons request rest ih =>
      rw [takeAll_cons]
      apply ih
      rw [Request.take_run]
      exact List.nodup_cons.mpr ⟨(due_freeName pool.taken _).fresh, distinct⟩

theorem nodup_takeAll (requests : List Request) (pool : IdentPool)
    (distinct : pool.taken.Nodup) : (takeAll requests pool).1.Nodup := by
  have taken := nodup_taken_takeAll requests pool distinct
  rw [taken_takeAll] at taken
  exact List.nodup_reverse.mp taken.of_append_left

/-- The names of a run are new to the pool, and each is given out once. -/
theorem fresh_takeAll (requests : List Request) (pool : IdentPool) :
    (takeAll requests pool).1.Nodup ∧ (takeAll requests pool).1.Disjoint pool.taken := by
  induction requests generalizing pool with
  | nil => exact ⟨List.nodup_nil, List.disjoint_nil_left _⟩
  | cons request rest ih =>
      obtain ⟨distinct, apart⟩ := ih (request.take pool).2
      have fresh := (due_freeName pool.taken (request.baseIn pool)).fresh
      rw [Request.take_run, List.disjoint_cons_right] at apart
      simp only [takeAll_cons, Request.take_run, List.nodup_cons, List.disjoint_cons_left]
      rw [Request.take_run] at distinct
      exact ⟨⟨apart.1, distinct⟩, fresh, apart.2⟩

/-- So many new names were taken from the pool, and nothing else happened to it. -/
def Gains (pool later : IdentPool) (count : Nat) : Prop :=
  ∃ names, later = { pool with taken := names ++ pool.taken } ∧ names.length = count ∧
    names.Nodup ∧ names.Disjoint pool.taken

theorem gains_takeAll (requests : List Request) (pool : IdentPool) :
    pool.Gains (takeAll requests pool).2 requests.length := by
  obtain ⟨distinct, apart⟩ := fresh_takeAll requests pool
  refine ⟨(takeAll requests pool).1.reverse, ?_, ?_, by simpa using distinct, by simpa using apart⟩
  · rw [← taken_takeAll, ← opening_takeAll requests pool, ← romanize_takeAll requests pool]
  · rw [List.length_reverse, length_takeAll]

theorem Gains.count_le {pool few many : IdentPool} {fewer count : Nat}
    (little : pool.Gains few fewer) (much : pool.Gains many count)
    (within : many.taken ⊆ few.taken) : count ≤ fewer := by
  obtain ⟨names, rfl, rfl, _, _⟩ := little
  obtain ⟨moreNames, rfl, rfl, distinct, apart⟩ := much
  refine (distinct.subperm fun name listed => ?_).length_le
  have known := within (List.mem_append_left _ listed)
  exact (List.mem_append.mp known).resolve_right (apart listed)

/-- If requests are left out, and less was taken before, nothing else is taken in their place. -/
theorem taken_takeAll_subset {few many : List Request} (fewer : few.Sublist many)
    {pool other : IdentPool} (sameOpening : pool.opening = other.opening)
    (sameSpelling : pool.romanize = other.romanize) (within : pool.taken ⊆ other.taken) :
    (takeAll few pool).2.taken ⊆ (takeAll many other).2.taken := by
  induction fewer generalizing pool other with
  | slnil => exact within
  | cons request _ ih =>
      rw [takeAll_cons, Request.take_run]
      exact ih sameOpening sameSpelling (List.subset_cons_of_subset _ within)
  | cons_cons request _ ih =>
      rw [takeAll_cons, takeAll_cons, Request.take_run, Request.take_run]
      refine ih sameOpening sameSpelling ?_
      have sameBase := request.baseIn_congr sameOpening sameSpelling
      intro name known
      rcases List.mem_cons.mp known with rfl | before
      · rw [sameBase]
        exact (due_freeName _ _).mem_of_subset (due_freeName _ _) within
      · exact List.mem_cons_of_mem _ (within before)

/-- The request at a place of a run gets the name due after the names before it. -/
theorem due_takeAll (earlier later : List Request) (request : Request) (pool : IdentPool) :
    ∃ name rest,
      (takeAll (earlier ++ request :: later) pool).1 = (takeAll earlier pool).1 ++ name :: rest ∧
        Due ((takeAll earlier pool).1.reverse ++ pool.taken) (request.baseIn pool) name := by
  refine ⟨_, _, by rw [takeAll_append, takeAll_cons], ?_⟩
  have sameBase : request.baseIn (takeAll earlier pool).2 = request.baseIn pool :=
    request.baseIn_congr (opening_takeAll earlier pool) (romanize_takeAll earlier pool)
  rw [Request.take_run, taken_takeAll, sameBase]
  exact due_freeName _ _

theorem takeAll_take (requests : List Request) (count : Nat) (pool : IdentPool) :
    (takeAll (requests.take count) pool).1 = (takeAll requests pool).1.take count := by
  obtain within | beyond := Nat.le_total count requests.length
  · have stopped : (takeAll (requests.take count) pool).1.length = count := by
      rw [length_takeAll, List.length_take, Nat.min_eq_left within]
    conv_rhs => rw [← List.take_append_drop count requests, takeAll_append]
    exact (List.take_left' stopped).symm
  · rw [List.take_of_length_le beyond, List.take_of_length_le]
    rwa [length_takeAll]

theorem size_takeAll_start (classPrefix : Option String) (romanize : String → String)
    (requests : List Request) :
    (takeAll requests (start classPrefix romanize)).2.taken.Nodup ∧
      (takeAll requests (start classPrefix romanize)).2.size = requests.length := by
  refine ⟨nodup_taken_takeAll requests _ List.nodup_nil, ?_⟩
  rw [size, taken_takeAll, List.length_append, List.length_reverse, length_takeAll]
  rfl

/-- Whatever a new pool is asked for and in whatever order, no name is given out twice, the
pool counts the requests so far, and each request gets the name due for its base after all
earlier ones. -/
theorem takeAll_start_names (classPrefix : Option String) (romanize : String → String)
    (requests : List Request) :
    let names := (takeAll requests (start classPrefix romanize)).1
    names.Nodup ∧ names.length = requests.length ∧
      (∀ count ≤ requests.length,
        let stopped := takeAll (requests.take count) (start classPrefix romanize)
        stopped.1 = names.take count ∧ stopped.2.taken.Nodup ∧ stopped.2.size = count) ∧
      ∀ place request, requests[place]? = some request →
        ∃ name, names[place]? = some name ∧
          Due (names.take place) (request.base classPrefix romanize) name := by
  intro names
  refine ⟨nodup_takeAll requests _ List.nodup_nil, length_takeAll requests _, ?_, ?_⟩
  · intro count within stopped
    obtain ⟨distinct, counted⟩ :=
      size_takeAll_start classPrefix romanize (requests.take count)
    refine ⟨takeAll_take requests count _, distinct, ?_⟩
    rw [counted, List.length_take, Nat.min_eq_left within]
  · intro place request asked
    obtain ⟨inside, found⟩ := List.getElem?_eq_some_iff.mp asked
    have split : requests = requests.take place ++ request :: requests.drop (place + 1) := by
      rw [← found, List.getElem_cons_drop, List.take_append_drop]
    obtain ⟨name, rest, given, due⟩ := due_takeAll (requests.take place)
      (requests.drop (place + 1)) request (start classPrefix romanize)
    rw [← split, takeAll_take] at given
    rw [takeAll_take, Request.baseIn_start] at due
    have before : (names.take place).length = place := by
      rw [List.length_take, length_takeAll, Nat.min_eq_left (Nat.le_of_lt inside)]
    refine ⟨name, ?_, due.of_perm ?_⟩
    · rw [show names = names.take place ++ name :: rest from given,
        List.getElem?_append_right (Nat.le_of_eq before), before, Nat.sub_self,
        List.getElem?_cons_zero]
    · exact (List.append_nil _).symm ▸ List.reverse_perm _

/-- The marked name of a repeated base may itself be asked for; it then gets a mark too. -/
theorem takeAll_start_names_marked :
    let requests : List Request :=
      [.className ["a", "b"], .className ["a-b"], .className ["a-b-2"]]
    let names := (takeAll requests (start none id)).1
    2 ≤ requests.length ∧ requests[2]? = some (.className ["a-b-2"]) ∧
      names = ["a-b", "a-b-2", "a-b-2-2"] ∧
      (takeAll (requests.take 2) (start none id)).2.size = 2 ∧
      ∃ name, names[2]? = some name ∧ Due (names.take 2) "a-b-2" name := by
  intro requests names
  obtain ⟨_, _, counted, due⟩ := takeAll_start_names none id requests
  exact ⟨by decide, rfl, by decide +kernel, (counted 2 (by decide)).2.2,
    due 2 (.className ["a-b-2"]) rfl⟩

end AtomicCss.IdentPool
