import AtomicCss.Proofs.Ident.Opening
import Mathlib.Data.List.DropRight

/-!
# Identifiers as runs

The spelling of a text is made of its runs of letters, digits and underscores, with a dash between
two of them. While the text is read, the run in progress stands last; it is empty behind a dash.
A spelling has no dash at its ends and none beside another, and a text of that form is its own
spelling.
-/

set_option autoImplicit false

namespace AtomicCss.Ident

def isRunChar (c : Char) : Bool := c.isAlphanum || c == '_'

/-- The parts between the characters that belong to no run, empty ones included. -/
def parts (text : List Char) : List (List Char) := text.splitOnP fun c => !isRunChar c

/-- The longest runs of letters, digits and underscores. -/
def runs (text : List Char) : List (List Char) := (parts text).filter (· ≠ [])

def dashed (runs : List (List Char)) : List Char := ['-'].intercalate runs

/-- The parts that show while a text is read. The last one may grow, so it is among them even
if it is empty. -/
def shown (parts : List (List Char)) : List (List Char) :=
  parts.dropLast.filter (· ≠ []) ++ parts.getLast?.toList

theorem isIdentChar_eq (c : Char) : isIdentChar c = (isRunChar c || c == '-') := rfl

theorem not_isRunChar_dash : isRunChar '-' = false := by decide

theorem ne_dash_of_isRunChar {c : Char} (inRun : isRunChar c = true) : c ≠ '-' := by
  rintro rfl
  cases not_isRunChar_dash.symm.trans inRun

theorem parts_ne_nil (text : List Char) : parts text ≠ [] := List.splitOnP_ne_nil _ _

theorem modifyHead_self (parts : List (List Char)) :
    parts.modifyHead (fun part => part) = parts := by
  cases parts <;> rfl

theorem parts_cons (c : Char) (rest : List Char) :
    parts (c :: rest) =
      if isRunChar c then (parts rest).modifyHead (c :: ·) else [] :: parts rest := by
  cases inRun : isRunChar c <;> simp [parts, List.splitOnP_cons_eq_if_modifyHead, inRun]

/-! ## Runs joined by dashes -/

theorem dashed_cons (run : List Char) {others : List (List Char)} (some : others ≠ []) :
    dashed (run :: others) = run ++ '-' :: dashed others := by
  cases others with
  | nil => exact absurd rfl some
  | cons next others => simp [dashed, List.intercalate_cons_cons]

theorem head?_dashed {run : List Char} (others : List (List Char)) (some : run ≠ []) :
    (dashed (run :: others)).head? = run.head? := by
  cases others with
  | nil => simp [dashed]
  | cons next others =>
      rw [dashed_cons run (List.cons_ne_nil _ _), List.head?_append_of_ne_nil _ some]

theorem dashed_concat (runs : List (List Char)) (last : List Char) :
    dashed (runs ++ [last]) = if runs = [] then last else dashed runs ++ '-' :: last := by
  induction runs with
  | nil => simp [dashed]
  | cons run others ih =>
      cases others with
      | nil => simp [dashed, List.intercalate_cons_cons]
      | cons next others =>
          have more : next :: others ++ [last] ≠ [] := by simp
          rw [List.cons_append, dashed_cons run more, ih, dashed_cons run (List.cons_ne_nil _ _)]
          simp

/-- The run in progress grows at the end of what is written. -/
theorem dashed_grow (finished : List (List Char)) (current more : List Char) :
    dashed (finished ++ [current ++ more]) = dashed (finished ++ [current]) ++ more := by
  simp only [dashed_concat]
  split <;> simp

theorem dashed_close {finished : List (List Char)} (some : finished ≠ []) :
    dashed (finished ++ [[]]) = dashed finished ++ ['-'] := by
  simp [dashed_concat, some]

theorem getLast?_dashed (finished : List (List Char)) {last : List Char} (some : last ≠ []) :
    (dashed (finished ++ [last])).getLast? = last.getLast? := by
  rw [dashed_concat]
  split
  · rfl
  · rw [List.getLast?_append_of_ne_nil _ (List.cons_ne_nil _ _), List.getLast?_cons_of_ne_nil some]

theorem shown_cons (part : List Char) {others : List (List Char)} (some : others ≠ []) :
    shown (part :: others) = if part = [] then shown others else part :: shown others := by
  rw [shown, List.dropLast_cons_of_ne_nil some, List.getLast?_cons_of_ne_nil some]
  split <;> simp [shown, *]

/-! ## The text read character by character -/

theorem writeDashed_isRunChar {c : Char} (inRun : isRunChar c = true) (written rest : List Char) :
    writeDashed written (c :: rest) = writeDashed (c :: written) rest := by
  simp [writeDashed, isIdentChar_eq, inRun, ne_dash_of_isRunChar inRun]

theorem writeDashed_skip {c : Char} (noRun : isRunChar c = false) {written : List Char}
    (closed : written = [] ∨ written.head? = some '-') (rest : List Char) :
    writeDashed written (c :: rest) = writeDashed written rest := by
  rcases closed with rfl | behindDash
  · by_cases isDash : c = '-' <;> simp [writeDashed, isIdentChar_eq, noRun, isDash]
  · by_cases isDash : c = '-' <;> simp [writeDashed, isIdentChar_eq, noRun, isDash, behindDash]

theorem writeDashed_close {c : Char} (noRun : isRunChar c = false) {written : List Char}
    (some : written ≠ []) (noDash : written.head? ≠ .some '-') (rest : List Char) :
    writeDashed written (c :: rest) = writeDashed ('-' :: written) rest := by
  by_cases isDash : c = '-' <;> simp [writeDashed, isIdentChar_eq, noRun, isDash, some, noDash]

/-- What is written shows the finished runs and the run in progress, and goes on to show the
parts of the text that is left. -/
theorem writeDashed_dashed (text : List Char) (finished : List (List Char)) {current : List Char}
    (inRun : ∀ c ∈ current, isRunChar c = true) :
    writeDashed (dashed (finished ++ [current])).reverse text =
      (dashed (finished ++ shown ((parts text).modifyHead (current ++ ·)))).reverse := by
  induction text generalizing finished current with
  | nil => simp [writeDashed, parts, shown]
  | cons c rest ih =>
      cases kind : isRunChar c with
      | true =>
          have grown : ∀ d ∈ current ++ [c], isRunChar d = true := by
            simpa [or_imp, forall_and, kind] using inRun
          have later := ih finished grown
          rw [dashed_grow, List.reverse_append] at later
          rw [writeDashed_isRunChar kind, parts_cons, if_pos kind, List.modifyHead_modifyHead]
          simpa [Function.comp_def] using later
      | false =>
          have noChars : ∀ d ∈ ([] : List Char), isRunChar d = true := by simp
          rw [parts_cons, kind, if_neg Bool.false_ne_true, List.modifyHead_cons, List.append_nil,
            shown_cons current (parts_ne_nil rest)]
          by_cases empty : current = []
          · -- nothing is written yet, or the dash behind the finished runs is
            subst empty
            rw [writeDashed_skip kind]
            · simpa [modifyHead_self] using ih finished noChars
            · by_cases first : finished = []
              · simp [first, dashed]
              · simp [dashed_close first]
          · have later := ih (finished ++ [current]) noChars
            have ends := getLast?_dashed finished empty
            rw [dashed_close (by simp), List.reverse_append] at later
            rw [writeDashed_close kind, if_neg empty]
            · simpa [modifyHead_self] using later
            · intro nothing
              rw [List.reverse_eq_nil_iff.mp nothing] at ends
              exact empty (List.getLast?_eq_none_iff.mp ends.symm)
            · rw [List.head?_reverse, ends]
              intro endsInDash
              exact ne_dash_of_isRunChar (inRun _ (List.mem_of_getLast? endsInDash)) rfl

theorem writeDashed_nil (text : List Char) :
    writeDashed [] text = (dashed (shown (parts text))).reverse := by
  have noChars : ∀ c ∈ ([] : List Char), isRunChar c = true := by simp
  have read := writeDashed_dashed text [] noChars
  simpa [dashed, modifyHead_self] using read

/-! ## The spelling -/

/-- Runs as a text has them. -/
def Solid (runs : List (List Char)) : Prop :=
  ∀ run ∈ runs, run ≠ [] ∧ ∀ c ∈ run, isRunChar c = true

theorem isRunChar_of_mem_parts {text part : List Char} (listed : part ∈ parts text) :
    ∀ c ∈ part, isRunChar c = true := by
  induction text generalizing part with
  | nil =>
      obtain rfl : part = [] := by simpa [parts] using listed
      simp
  | cons c rest ih =>
      obtain ⟨first, others, cut⟩ := List.exists_cons_of_ne_nil (parts_ne_nil rest)
      rw [parts_cons, cut] at listed
      rw [cut] at ih
      cases kind : isRunChar c with
      | true =>
          rw [kind, if_pos rfl, List.modifyHead_cons, List.mem_cons] at listed
          rcases listed with rfl | later
          · simpa [kind] using ih List.mem_cons_self
          · exact ih (List.mem_cons_of_mem _ later)
      | false =>
          rw [kind, if_neg Bool.false_ne_true, List.mem_cons] at listed
          rcases listed with rfl | later
          · simp
          · exact ih later

theorem solid_runs (text : List Char) : Solid (runs text) := by
  intro run listed
  obtain ⟨isPart, some⟩ := List.mem_filter.mp listed
  exact ⟨of_decide_eq_true some, isRunChar_of_mem_parts isPart⟩

theorem Solid.getLast? {runs : List (List Char)} (solid : Solid runs) :
    (dashed runs).getLast? ≠ some '-' := by
  rcases List.eq_nil_or_concat runs with rfl | ⟨front, last, rfl⟩
  · simp [dashed]
  · rw [List.concat_eq_append] at solid ⊢
    obtain ⟨some, inRun⟩ := solid last (by simp)
    rw [getLast?_dashed front some]
    intro endsInDash
    exact ne_dash_of_isRunChar (inRun _ (List.mem_of_getLast? endsInDash)) rfl

theorem Solid.rdropWhile {runs : List (List Char)} (solid : Solid runs) :
    (dashed runs).rdropWhile (· == '-') = dashed runs := by
  rw [List.rdropWhile_eq_self_iff]
  intro some isDash
  refine solid.getLast? ?_
  rw [List.getLast?_eq_some_getLast some, beq_iff_eq.mp isDash]

/-- A dash at the end is there if the last part is empty, and nothing else is trimmed. -/
theorem rdropWhile_dashed (text : List Char) :
    (dashed (shown (parts text))).rdropWhile (· == '-') = dashed (runs text) := by
  obtain ⟨front, last, cut⟩ : ∃ front last, parts text = front ++ [last] :=
    ⟨_, _, (List.dropLast_append_getLast (parts_ne_nil text)).symm⟩
  have ends := (solid_runs text).rdropWhile
  rw [runs, cut, List.filter_append] at ends ⊢
  rw [shown, List.dropLast_concat, List.getLast?_concat, Option.toList_some]
  by_cases empty : last = []
  · subst empty
    generalize front.filter (· ≠ []) = finished at ends ⊢
    by_cases first : finished = []
    · simp [first, dashed]
    · rw [dashed_close first, List.rdropWhile_concat_pos _ _ _ (by decide)]
      simpa using ends
  · simpa [empty] using ends

theorem dashed_eq_nil_iff {runs : List (List Char)} (solid : Solid runs) :
    dashed runs = [] ↔ runs = [] := by
  constructor
  · intro nothing
    rcases List.eq_nil_or_concat runs with rfl | ⟨front, last, rfl⟩
    · rfl
    · rw [List.concat_eq_append] at solid nothing
      have some := (solid last (by simp)).1
      have ends := getLast?_dashed front some
      rw [nothing] at ends
      exact absurd (List.getLast?_eq_none_iff.mp ends.symm) some
  · rintro rfl
    rfl

/-- A spelling is made of the runs of the text, or is an underscore if there are none. -/
theorem spelling_eq (text : List Char) :
    spelling text = if runs text = [] then ['_'] else dashed (runs text) := by
  have written : (writeDashed [] text).dropWhile (· == '-') = (dashed (runs text)).reverse := by
    rw [writeDashed_nil, ← rdropWhile_dashed, List.rdropWhile, List.reverse_reverse]
  rw [spelling, written]
  split
  · next nothing =>
      rw [List.reverse_eq_nil_iff, dashed_eq_nil_iff (solid_runs text)] at nothing
      rw [if_pos nothing]
  · next some =>
      rw [List.reverse_eq_nil_iff, dashed_eq_nil_iff (solid_runs text)] at some
      rw [if_neg some, List.reverse_reverse]

/-! ## Normal forms -/

/-- A text that needs no spelling but itself. -/
structure IsNormal (text : List Char) : Prop where
  ne_nil : text ≠ []
  chars : ∀ c ∈ text, isIdentChar c = true
  front : text.head? ≠ some '-'
  back : text.getLast? ≠ some '-'
  single : ¬ ['-', '-'] <:+: text

theorem isChain_iff_single (text : List Char) :
    text.IsChain (fun c d => c ≠ '-' ∨ d ≠ '-') ↔ ¬ ['-', '-'] <:+: text := by
  rw [List.isChain_iff_forall_rel_of_append_cons_cons]
  constructor
  · rintro single ⟨before, after, same⟩
    have either := @single '-' '-' before after (by simpa using same.symm)
    simp at either
  · intro single c d before after same
    by_contra both
    obtain ⟨rfl, rfl⟩ : c = '-' ∧ d = '-' := by simpa using both
    exact single ⟨before, after, by simpa using same.symm⟩

theorem Solid.single {runs : List (List Char)} (solid : Solid runs) :
    (dashed runs).IsChain fun c d => c ≠ '-' ∨ d ≠ '-' := by
  induction runs with
  | nil => exact .nil
  | cons run others ih =>
      obtain ⟨⟨some, inRun⟩, solid⟩ := List.forall_mem_cons.mp solid
      have alone : run.IsChain fun c d => c ≠ '-' ∨ d ≠ '-' := by
        refine (List.pairwise_of_forall_mem_list fun c listed _ _ => ?_).isChain
        exact .inl (ne_dash_of_isRunChar (inRun c listed))
      cases others with
      | nil => simpa [dashed] using alone
      | cons next others =>
          obtain ⟨nextSome, nextInRun⟩ := solid next List.mem_cons_self
          rw [dashed_cons run (List.cons_ne_nil _ _), List.isChain_append, List.isChain_cons]
          refine ⟨alone, ⟨?_, ih solid⟩, ?_⟩
          · intro first isFirst
            rw [head?_dashed others nextSome] at isFirst
            exact .inr (ne_dash_of_isRunChar (nextInRun first (List.mem_of_mem_head? isFirst)))
          · intro last isLast _ _
            exact .inl (ne_dash_of_isRunChar (inRun last (List.mem_of_getLast? isLast)))

theorem spelling_isNormal (text : List Char) : IsNormal (spelling text) where
  ne_nil := spelling_ne_nil text
  chars := spelling_chars text
  front := head?_spelling text
  back := by
    rw [spelling_eq]
    split
    · simp
    · exact (solid_runs text).getLast?
  single := by
    rw [spelling_eq, ← isChain_iff_single]
    split
    · exact .singleton _
    · exact (solid_runs text).single

/-- Characters are written as they stand if no dash comes first or behind another. -/
theorem writeDashed_eq_append {text : List Char} (written : List Char)
    (chars : ∀ c ∈ text, isIdentChar c = true) (front : written = [] → text.head? ≠ some '-')
    (single : (written.head?.toList ++ text).IsChain fun c d => c ≠ '-' ∨ d ≠ '-') :
    writeDashed written text = text.reverse ++ written := by
  induction text generalizing written with
  | nil => rfl
  | cons c rest ih =>
      obtain ⟨shown, chars⟩ := List.forall_mem_cons.mp chars
      have kept : ¬ (c = '-' ∧ (written = [] ∨ written.head? = some '-')) := by
        rintro ⟨rfl, rfl | behindDash⟩
        · exact front rfl rfl
        · rw [behindDash] at single
          simp at single
      have later := ih (c :: written) chars (by simp) (List.isChain_append.mp single).2.1
      simpa [writeDashed, shown, kept] using later

theorem IsNormal.spelling_eq {text : List Char} (normal : IsNormal text) :
    spelling text = text := by
  have written : writeDashed [] text = text.reverse := by
    have all := writeDashed_eq_append [] normal.chars (fun _ => normal.front)
      ((isChain_iff_single text).mpr normal.single)
    simpa using all
  have trimmed : text.reverse.dropWhile (· == '-') = text.reverse := by
    refine List.dropWhile_eq_self_iff.mpr fun some isDash => normal.back ?_
    rw [← List.head?_reverse, List.head?_eq_getElem?, List.getElem?_eq_getElem some,
      beq_iff_eq.mp isDash]
  rw [spelling, written, trimmed]
  split
  · next nothing => exact absurd (List.reverse_eq_nil_iff.mp nothing) normal.ne_nil
  · exact List.reverse_reverse _

theorem dropAliasMark_eq_self {text : List Char} (noMark : text.head? ≠ some aliasMark) :
    dropAliasMark text = text := by
  rw [dropAliasMark.eq_def]
  split
  · exact absurd rfl noMark
  · rfl

/-- A normal text is a component as it stands, if romanizing keeps it. -/
theorem IsNormal.component_eq {romanize : String → String} {text : String}
    (normal : IsNormal text.toList) (kept : romanize text = text) :
    component romanize text = text := by
  have noMark : text.toList.head? ≠ some aliasMark := by
    intro marked
    have shown := normal.chars _ (List.mem_of_mem_head? marked)
    revert shown
    decide
  rw [component, dropAliasMark_eq_self noMark, String.ofList_toList, kept, normal.spelling_eq,
    String.ofList_toList]

theorem component_isNormal (romanize : String → String) (part : String) :
    IsNormal (component romanize part).toList := by
  rw [component, String.toList_ofList]
  exact spelling_isNormal _

/-- A component is what the runs of the romanized text make, with one dash between two of them and
none at either end. If romanizing keeps identifiers, components are the texts that are their own
component. -/
theorem component_runs (romanize : String → String) (part : String) :
    let text := (romanize (String.ofList (dropAliasMark part.toList))).toList
    (component romanize part).toList =
        (if runs text = [] then ['_'] else ['-'].intercalate (runs text)) ∧
      IsNormal (component romanize part).toList ∧
      ((∀ name : String, (∀ c ∈ name.toList, isIdentChar c = true) → romanize name = name) →
        component romanize (component romanize part) = component romanize part ∧
          ∀ name, component romanize name = name ↔ IsNormal name.toList) := by
  intro text
  refine ⟨?_, component_isNormal romanize part, fun kept => ⟨?_, fun name => ⟨?_, ?_⟩⟩⟩
  · rw [component, String.toList_ofList]
    exact spelling_eq text
  · have normal := component_isNormal romanize part
    exact normal.component_eq (kept _ normal.chars)
  · intro same
    exact same ▸ component_isNormal romanize name
  · intro normal
    exact normal.component_eq (kept _ normal.chars)

end AtomicCss.Ident

namespace AtomicCss.Text

open Ident in
theorem romanize_of_isIdentChar {text : String}
    (shown : ∀ c ∈ text.toList, isIdentChar c = true) : romanize text = text := by
  have plain : ∀ c ∈ text.toList, isPlainStart c = true := by
    intro c listed
    have bounds := toNat_of_isIdentChar (shown c listed)
    simp only [isPlainStart, decide_eq_true_eq]
    omega
  rw [romanize, List.takeWhile_eq_self_iff.mpr plain, List.dropWhile_eq_nil_iff.mpr plain]
  exact (congrArg String.ofList (List.append_nil _)).trans String.ofList_toList

end AtomicCss.Text

namespace AtomicCss.Ident

/-- Signs, blanks and dashes between two runs all come to one dash. -/
theorem component_runs_signs :
    let part := "$1.5rem -- _x (50%)"
    (∀ name : String, (∀ c ∈ name.toList, isIdentChar c = true) → Text.romanize name = name) ∧
      component Text.romanize part = "1-5rem-_x-50" ∧
      component Text.romanize "1-5rem-_x-50" = "1-5rem-_x-50" := by
  intro part
  have kept : ∀ name : String, (∀ c ∈ name.toList, isIdentChar c = true) →
      Text.romanize name = name := fun name => Text.romanize_of_isIdentChar
  obtain ⟨spelled, -, fixed⟩ := component_runs Text.romanize part
  have same : component Text.romanize part = "1-5rem-_x-50" := by
    rw [← String.toList_inj, spelled]
    decide +kernel
  exact ⟨kept, same, same ▸ (fixed kept).1⟩

end AtomicCss.Ident
