import AtomicCss.Compilation
import AtomicCss.Proofs.Ident.Run
import Mathlib.Data.List.Forall2

/-!
# What compilation draws from a pool

Which names compilation asks for, and in which order, does not depend on the names it gets.
A computation is therefore known by two things: the list of its draws, and its result as a
function of a naming, which tells the name at each site of the result. Running it on a pool
runs the requests of the draws there, and any naming that follows the names given out yields
the result.
-/

set_option autoImplicit false

namespace AtomicCss

/-- Where an identifier stands in a compiled configuration. -/
inductive Site where
  /-- The class of a dynamic property under a condition. -/
  | slotClass (property condition : String)
  /-- The custom property of a dynamic property under a condition. -/
  | slotVariable (property condition : String)
  /-- The class of a lookup key of a static property under a condition. -/
  | choiceClass (property condition key : String)
  deriving DecidableEq, Repr

/-- A name for each site. -/
abbrev Naming := Site → String

/-- A request with the site that its name is kept at. The name for a value that a static
scale lists again later is not kept. -/
structure Draw where
  request : IdentPool.Request
  site : Option Site

namespace Draw

/-- The names that the requests of some draws get from a pool. -/
def names (draws : List Draw) (pool : IdentPool) : List String :=
  (IdentPool.takeAll (draws.map Draw.request) pool).1

/-- The pool after the requests of some draws. -/
def after (draws : List Draw) (pool : IdentPool) : IdentPool :=
  (IdentPool.takeAll (draws.map Draw.request) pool).2

/-- The sites whose names some draws keep. -/
def sites (draws : List Draw) : List Site := draws.filterMap Draw.site

theorem names_cons (draw : Draw) (rest : List Draw) (pool : IdentPool) :
    names (draw :: rest) pool =
      (draw.request.take pool).1 :: names rest (draw.request.take pool).2 := by
  rw [names, List.map_cons, IdentPool.takeAll_cons]
  rfl

theorem after_cons (draw : Draw) (rest : List Draw) (pool : IdentPool) :
    after (draw :: rest) pool = after rest (draw.request.take pool).2 := by
  rw [after, List.map_cons, IdentPool.takeAll_cons]
  rfl

theorem names_append (first second : List Draw) (pool : IdentPool) :
    names (first ++ second) pool = names first pool ++ names second (after first pool) := by
  rw [names, List.map_append, IdentPool.takeAll_append]
  rfl

theorem after_append (first second : List Draw) (pool : IdentPool) :
    after (first ++ second) pool = after second (after first pool) := by
  rw [after, List.map_append, IdentPool.takeAll_append]
  rfl

theorem length_names (draws : List Draw) (pool : IdentPool) :
    (names draws pool).length = draws.length := by
  rw [names, IdentPool.length_takeAll, List.length_map]

end Draw

/-- A naming follows the names that were drawn if it has each kept name at its site. -/
def Naming.Follows (naming : Naming) : List Draw → List String → Prop :=
  List.Forall₂ fun draw name => ∀ site, draw.site = some site → naming site = name

namespace Naming

theorem Follows.cons_iff {naming : Naming} {draw : Draw} {draws : List Draw} {name : String}
    {names : List String} :
    naming.Follows (draw :: draws) (name :: names) ↔
      (∀ site, draw.site = some site → naming site = name) ∧ naming.Follows draws names :=
  List.forall₂_cons

theorem Follows.append_iff {naming : Naming} {first second : List Draw}
    {firstNames secondNames : List String} (sameLength : firstNames.length = first.length) :
    naming.Follows (first ++ second) (firstNames ++ secondNames) ↔
      naming.Follows first firstNames ∧ naming.Follows second secondNames := by
  constructor
  · intro follows
    have front := List.forall₂_take_append _ _ _ follows
    have back := List.forall₂_drop_append _ _ _ follows
    rw [sameLength, List.take_left] at front
    rw [sameLength, List.drop_left] at back
    exact ⟨front, back⟩
  · exact fun ⟨front, back⟩ => List.rel_append front back

theorem Follows.sublist {naming : Naming} {draws : List Draw} {names : List String}
    (follows : naming.Follows draws names) :
    ((Draw.sites draws).map naming).Sublist names := by
  induction follows with
  | nil => exact .slnil
  | @cons draw name draws names kept _ ih =>
      cases located : draw.site with
      | none => simpa [Draw.sites, List.filterMap_cons, located] using ih.cons name
      | some site =>
          simpa [Draw.sites, List.filterMap_cons, located, kept site located] using
            ih.cons_cons name

theorem Follows.congr {naming other : Naming} {draws : List Draw} {names : List String}
    (follows : naming.Follows draws names)
    (same : ∀ site ∈ Draw.sites draws, other site = naming site) :
    other.Follows draws names := by
  induction follows with
  | nil => exact .nil
  | @cons draw name draws names kept _ ih =>
      refine .cons (fun site located => ?_) (ih fun site listed => ?_)
      · rw [same site (List.mem_filterMap.mpr ⟨draw, List.mem_cons_self, located⟩)]
        exact kept site located
      · obtain ⟨other, member, located⟩ := List.mem_filterMap.mp listed
        exact same site (List.mem_filterMap.mpr ⟨other, List.mem_cons_of_mem _ member, located⟩)

/-- At a draw's site stands the name that the pool has for it after the draws before. -/
theorem Follows.eq_freeName {naming : Naming} {before after : List Draw} {draw : Draw}
    {pool : IdentPool} {site : Site}
    (follows : naming.Follows (before ++ draw :: after)
      (Draw.names (before ++ draw :: after) pool))
    (located : draw.site = some site) :
    naming site =
      IdentPool.freeName (Draw.after before pool).taken (draw.request.baseIn pool) := by
  rw [Draw.names_append, append_iff (Draw.length_names before pool), Draw.names_cons,
    cons_iff, IdentPool.Request.take_run] at follows
  have sameBase : draw.request.baseIn (Draw.after before pool) = draw.request.baseIn pool :=
    draw.request.baseIn_congr (IdentPool.opening_takeAll _ _) (IdentPool.romanize_takeAll _ _)
  rw [← sameBase]
  exact follows.2.1 site located

/-- Where every name is kept, the names are those at the sites. -/
theorem Follows.map_sites {naming : Naming} {draws : List Draw} {names : List String}
    (follows : naming.Follows draws names) (kept : ∀ draw ∈ draws, draw.site.isSome) :
    (Draw.sites draws).map naming = names := by
  induction follows with
  | nil => rfl
  | @cons draw name draws names here _ ih =>
      obtain ⟨site, located⟩ := Option.isSome_iff_exists.mp (kept draw List.mem_cons_self)
      have later := ih fun other listed => kept other (List.mem_cons_of_mem _ listed)
      simp only [Draw.sites, List.filterMap_cons, located, List.map_cons, here site located]
      exact congrArg _ later

/-- The naming that has, at each site, the name drawn for it. -/
def ofDrawn : List Draw → List String → Naming
  | draw :: draws, name :: names => fun site =>
      if draw.site = some site then name else ofDrawn draws names site
  | _, _ => fun _ => ""

/-- Where no site is kept twice, every list of names is followed by a naming. -/
theorem ofDrawn_follows {draws : List Draw} {names : List String}
    (sameLength : names.length = draws.length) (distinct : (Draw.sites draws).Nodup) :
    (ofDrawn draws names).Follows draws names := by
  induction draws generalizing names with
  | nil =>
      rw [List.length_eq_zero_iff.mp sameLength]
      exact .nil
  | cons draw rest ih =>
      cases names with
      | nil => simp at sameLength
      | cons name others =>
          refine .cons (fun site located => if_pos located) ?_
          have restDistinct : (Draw.sites rest).Nodup :=
            distinct.sublist ((List.sublist_cons_self draw rest).filterMap Draw.site)
          refine (ih (Nat.succ.inj sameLength) restDistinct).congr fun site listed => ?_
          refine if_neg fun located => ?_
          rw [Draw.sites, List.filterMap_cons, located] at distinct
          exact (List.nodup_cons.mp distinct).1 listed

end Naming

/-- A computation makes some draws, and its result is what a value says about any naming
that follows the names drawn. -/
def Performs {α : Type} (computation : StateM IdentPool α) (draws : List Draw)
    (value : Naming → α) : Prop :=
  ∀ (pool : IdentPool) (naming : Naming), naming.Follows draws (Draw.names draws pool) →
    computation pool = (value naming, Draw.after draws pool)

namespace Performs

variable {α β : Type}

theorem pure (result : α) : Performs (Pure.pure result) [] fun _ => result :=
  fun _ _ _ => rfl

theorem take (request : IdentPool.Request) (site : Site) :
    Performs request.take [⟨request, some site⟩] fun naming => naming site := by
  intro pool naming follows
  rw [Draw.names_cons, Naming.Follows.cons_iff] at follows
  have kept : naming site = (request.take pool).1 := follows.1 site rfl
  exact Prod.ext kept.symm rfl

theorem bind {computation : StateM IdentPool α} {next : α → StateM IdentPool β}
    {draws more : List Draw} {value : Naming → α} {result : α → Naming → β}
    (first : Performs computation draws value)
    (rest : ∀ input, Performs (next input) more (result input)) :
    Performs (computation >>= next) (draws ++ more) fun naming =>
      result (value naming) naming := by
  intro pool naming follows
  rw [Draw.names_append, Naming.Follows.append_iff (Draw.length_names draws pool)] at follows
  have middle := first pool naming follows.1
  change next (computation pool).1 (computation pool).2 = _
  rw [middle, Draw.after_append]
  exact rest (value naming) (Draw.after draws pool) naming follows.2

theorem mapM {step : α → StateM IdentPool β} {draws : α → List Draw} {value : α → Naming → β}
    (items : List α) (each : ∀ item, Performs (step item) (draws item) (value item)) :
    Performs (items.mapM step) (items.flatMap draws) fun naming =>
      items.map fun item => value item naming := by
  induction items with
  | nil => exact pure []
  | cons item rest ih =>
      rw [List.mapM_cons, List.flatMap_cons]
      have later (first : β) :
          Performs (rest.mapM step >>= fun others => Pure.pure (first :: others))
            (rest.flatMap draws) fun naming => first :: rest.map fun item => value item naming := by
        have ending := ih.bind fun others => pure (first :: others)
        rwa [List.append_nil] at ending
      exact (each item).bind later

end Performs

end AtomicCss
