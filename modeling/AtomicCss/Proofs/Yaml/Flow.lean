import AtomicCss.Proofs.Yaml.Scalars
import AtomicCss.Yaml.Layout
import Mathlib.Data.List.TakeWhile

/-!
# Layouts of one line between brackets

Between brackets no blocks open or close, so each step of a layout takes one token off the text
that is ahead. The only thing put in elsewhere is the mark of a key, in front of the name before
a colon, and only if the name is still close enough to be a key.
-/

set_option autoImplicit false

namespace AtomicCss

namespace Yaml

def skipSpaces (text : List Char) : List Char := text.dropWhile (· == ' ')

theorem skipSpaces_cons {c : Char} (solid : c ≠ ' ') (rest : List Char) :
    skipSpaces (c :: rest) = c :: rest :=
  List.dropWhile_cons_of_neg (by simpa using solid)

theorem skipBlanks_eq_skipSpaces {text : List Char} (printable : ∀ c ∈ text, IsPrintable c) :
    Json.skipBlanks text = skipSpaces text := by
  rw [Json.skipBlanks, skipSpaces]
  induction text with
  | nil => rfl
  | cons c rest ih =>
      have isPrintable := printable c List.mem_cons_self
      have same : Json.isBlank c = (c == ' ') := by
        rw [Json.isBlank, isPrintable.beq_eq_false '\t' (by decide),
          isPrintable.beq_eq_false '\n' (by decide), isPrintable.beq_eq_false '\r' (by decide),
          Bool.or_false, Bool.or_false, Bool.or_false]
      rw [List.dropWhile_cons, List.dropWhile_cons, same,
        ih fun c listed => printable c (List.mem_cons_of_mem _ listed)]

theorem Cursor.skipFrom_spaces {text : List Char} (printable : ∀ c ∈ text, IsPrintable c)
    (noComment : (skipSpaces text).head? ≠ some '#') (inFlow keyAllowed : Bool) (place : Place) :
    ∃ behind : Place, Cursor.skipFrom inFlow keyAllowed false place text =
        (⟨behind, skipSpaces text⟩, keyAllowed) ∧ place.column ≤ behind.column := by
  induction text generalizing place with
  | nil => exact ⟨place, rfl, Nat.le_refl _⟩
  | cons c rest ih =>
      have isPrintable := printable c List.mem_cons_self
      rw [Cursor.skipFrom, isBreak_of_isPrintable isPrintable, if_neg Bool.false_ne_true]
      by_cases isSpace : c = ' '
      · subst isSpace
        obtain ⟨behind, skipped, later⟩ :=
          ih (fun c listed => printable c (List.mem_cons_of_mem _ listed)) noComment
            (place.after ' ')
        rw [Place.column_after isPrintable] at later
        exact ⟨behind, skipped, Nat.le_of_succ_le later⟩
      · rw [skipSpaces_cons isSpace] at noComment ⊢
        refine ⟨place, ?_, Nat.le_refl _⟩
        have notComment : c ≠ '#' := fun same => noComment (congrArg some same)
        rw [beq_eq_false_iff_ne.mpr isSpace, beq_eq_false_iff_ne.mpr notComment,
          isPrintable.beq_eq_false '\t' (by decide), isPrintable.beq_eq_false '\ufeff' (by decide)]
        rfl

namespace Layout

/-- A layout inside so many brackets, in front of a text or of blanks before it. No block is
open, and no key is wanted. -/
structure IsAt (layout : Layout) (depth : Nat) (ahead : List Char) : Prop where
  printable : ∀ c ∈ ahead, IsPrintable c
  ahead : skipSpaces layout.cursor.rest = skipSpaces ahead
  columns : layout.columns = []
  count : layout.count = layout.tokens.length
  depth : layout.outerKeys.length = depth
  key : ∀ key ∈ layout.key, key.required = false
  outerKeys : ∀ key, some key ∈ layout.outerKeys → key.required = false

/-- Such a layout behind the first character of its line. -/
structure IsInside (layout : Layout) (depth : Nat) (ahead : List Char) : Prop
    extends layout.IsAt depth ahead where
  inside : 0 < layout.column

/-- The tokens that a layout ends with, in whatever number of steps. -/
def Yields (layout : Layout) (tokens : List Token) : Prop :=
  ∃ steps, layout.tokens? steps = some tokens

variable {layout : Layout} {depth : Nat} {ahead : List Char}

theorem IsAt.printable_rest (isAt : layout.IsAt depth ahead) :
    ∀ c ∈ layout.cursor.rest, IsPrintable c := by
  intro c listed
  have split : layout.cursor.rest.takeWhile (· == ' ') ++ skipSpaces layout.cursor.rest =
      layout.cursor.rest := List.takeWhile_append_dropWhile
  rw [← split] at listed
  rcases List.mem_append.mp listed with isSpace | behind
  · have space := List.mem_takeWhile_imp isSpace
    rw [eq_of_beq space]
    exact ⟨by decide, by decide⟩
  · have inAhead : c ∈ skipSpaces ahead := isAt.ahead ▸ behind
    exact isAt.printable c (List.dropWhile_sublist _ |>.subset inAhead)

theorem refresh?_of_not_required {key : Option PendingKey}
    (free : ∀ pending ∈ key, pending.required = false) (place : Place) :
    ∃ kept, PendingKey.refresh? place key = some kept ∧ (kept = none ∨ kept = key) := by
  cases key with
  | none => exact ⟨none, rfl, .inl rfl⟩
  | some pending =>
      rw [PendingKey.refresh?, free pending rfl]
      split
      · exact ⟨some pending, rfl, .inr rfl⟩
      · exact ⟨none, rfl, .inl rfl⟩

theorem mapM_refresh? {keys : List (Option PendingKey)}
    (free : ∀ key, some key ∈ keys → key.required = false) (place : Place) :
    ∃ kept, keys.mapM (PendingKey.refresh? place) = some kept ∧ kept.length = keys.length ∧
      ∀ key, some key ∈ kept → key.required = false := by
  induction keys with
  | nil => exact ⟨[], rfl, rfl, nofun⟩
  | cons key rest ih =>
      obtain ⟨later, mapped, length, laterFree⟩ :=
        ih fun key listed => free key (List.mem_cons_of_mem _ listed)
      have keyFree : ∀ pending ∈ key, pending.required = false := by
        rintro pending rfl
        exact free pending List.mem_cons_self
      obtain ⟨kept, refreshed, same⟩ := refresh?_of_not_required keyFree place
      refine ⟨kept :: later, ?_, ?_, ?_⟩
      · rw [List.mapM_cons, refreshed, mapped]
        rfl
      · rw [List.length_cons, List.length_cons, length]
      · intro pending listed
        rcases List.mem_cons.mp listed with here | inLater
        · subst here
          rcases same with missing | same
          · cases missing
          · exact keyFree pending same.symm
        · exact laterFree pending inLater

theorem closeBlocks_of_nil (closes : Nat → Bool) (none : layout.columns = []) :
    layout.closeBlocks closes = layout := by
  rw [closeBlocks, none]
  split
  · rfl
  · cases layout
    cases none
    rfl

/-- Between two tokens a layout moves over the blanks and forgets at most a possible key. -/
theorem IsAt.advance? (isAt : layout.IsAt depth ahead)
    (noComment : (skipSpaces ahead).head? ≠ some '#') :
    ∃ moved, layout.advance? = some moved ∧ moved.IsAt depth (skipSpaces ahead) ∧
      moved.cursor.rest = skipSpaces ahead ∧ layout.column ≤ moved.column ∧
      moved.tokens = layout.tokens ∧ moved.keyAllowed = layout.keyAllowed ∧
      (moved.key = none ∨ moved.key = layout.key) := by
  rw [← isAt.ahead] at noComment
  obtain ⟨place, skipped, later⟩ := Cursor.skipFrom_spaces isAt.printable_rest noComment
    layout.inFlow layout.keyAllowed layout.cursor.place
  obtain ⟨key, refreshed, same⟩ := refresh?_of_not_required isAt.key place
  obtain ⟨outerKeys, mapped, length, free⟩ := mapM_refresh? isAt.outerKeys place
  rw [isAt.ahead] at skipped
  refine ⟨{ layout with cursor := ⟨place, skipSpaces ahead⟩, key, outerKeys }, ?_, ?_, rfl, later,
    rfl, rfl, same⟩
  · rw [Layout.advance?, skipped]
    simp only [Option.bind_eq_bind, refreshed, mapped, Option.bind_some]
    exact congrArg some (closeBlocks_of_nil _ isAt.columns)
  · exact {
      printable := fun c listed => isAt.printable c ((List.dropWhile_sublist _).subset listed)
      ahead := rfl
      columns := isAt.columns
      count := isAt.count
      depth := length.trans isAt.depth
      key := by
        intro pending isKey
        rcases same with missing | same
        · rw [missing] at isKey
          cases isKey
        · rw [same] at isKey
          exact isAt.key pending isKey
      outerKeys := free }

theorem Yields.step {moved : Layout} {tokens : List Token} (yields : layout.Yields tokens)
    (advanced : layout.advance? = some moved) (notEnd : moved.cursor.rest ≠ []) :
    ∃ taken, moved.takeToken? = some taken ∧ taken.Yields tokens := by
  obtain ⟨steps, run⟩ := yields
  cases steps with
  | zero => cases run
  | succ steps =>
      rw [tokens?, advanced] at run
      dsimp only at run
      rw [if_neg (by simpa using notEnd)] at run
      cases isTaken : moved.takeToken? with
      | none =>
          rw [isTaken] at run
          cases run
      | some taken =>
          rw [isTaken] at run
          exact ⟨taken, rfl, steps, run⟩

theorem IsAt.dropKey? (isAt : layout.IsAt depth ahead) :
    layout.dropKey? = some { layout with key := none } := by
  have free := isAt.key
  rw [Layout.dropKey?]
  cases isKey : layout.key with
  | none =>
      cases layout
      cases isKey
      rfl
  | some pending => simp [free pending isKey]

theorem IsAt.saveKey? (isAt : layout.IsAt depth ahead) :
    layout.saveKey? = some { layout with
      key := if layout.keyAllowed then some ⟨layout.cursor.place, layout.count, false⟩
        else layout.key } := by
  rw [Layout.saveKey?]
  split
  · rw [isAt.dropKey?]
    simp [isAt.columns]
  · rfl

section Marks

variable {c : Char} {more : List Char}

theorem IsAt.behind (isAt : layout.IsAt depth (c :: more))
    (here : layout.cursor.rest = c :: more) :
    layout.cursor.advance 1 = ⟨layout.cursor.place.after c, more⟩ ∧
      0 < (layout.cursor.place.after c).column ∧ ∀ d ∈ more, IsPrintable d := by
  refine ⟨?_, ?_, fun d listed => isAt.printable d (List.mem_cons_of_mem _ listed)⟩
  · rw [Cursor.advance, here]
    rfl
  · rw [Place.column_after (isAt.printable c List.mem_cons_self)]
    exact Nat.succ_pos _

/-- The key that is kept in mind when a token is taken is not wanted. -/
theorem IsAt.savedKey (isAt : layout.IsAt depth ahead) :
    ∀ key ∈ (if layout.keyAllowed then
        some ⟨layout.cursor.place, layout.count, false⟩ else layout.key : Option PendingKey),
      key.required = false := by
  split
  · rintro key ⟨⟩
    rfl
  · exact isAt.key

theorem IsAt.inFlow (isAt : layout.IsAt (depth + 1) ahead) : layout.inFlow = true := by
  obtain ⟨key, outerKeys, outer⟩ := List.exists_cons_of_length_eq_add_one isAt.depth
  rw [Layout.inFlow, outer]
  rfl

theorem IsAt.openFlow? (isAt : layout.IsAt depth (c :: more))
    (here : layout.cursor.rest = c :: more) (token : Token) :
    ∃ taken, layout.openFlow? token = some taken ∧ taken.IsInside (depth + 1) more ∧
      taken.tokens = token :: layout.tokens ∧ taken.keyAllowed = true := by
  obtain ⟨advanced, inside, printable⟩ := isAt.behind here
  rw [Layout.openFlow?, isAt.saveKey?]
  refine ⟨_, rfl, ?_, rfl, rfl⟩
  simp only [take, advanced]
  exact {
    printable := printable
    ahead := rfl
    columns := isAt.columns
    count := congrArg (· + 1) isAt.count
    depth := congrArg (· + 1) isAt.depth
    key := nofun
    outerKeys := by
      intro key listed
      rcases List.mem_cons.mp listed with saved | outer
      · exact isAt.savedKey key saved.symm
      · exact isAt.outerKeys key outer
    inside := inside }

theorem IsAt.closeFlow? (isAt : layout.IsAt (depth + 1) (c :: more))
    (here : layout.cursor.rest = c :: more) (token : Token) :
    ∃ taken, layout.closeFlow? token = some taken ∧ taken.IsInside depth more ∧
      taken.tokens = token :: layout.tokens := by
  obtain ⟨advanced, inside, printable⟩ := isAt.behind here
  obtain ⟨key, outerKeys, outer⟩ := List.exists_cons_of_length_eq_add_one isAt.depth
  rw [Layout.closeFlow?, isAt.dropKey?]
  simp only [Option.bind_eq_bind, Option.bind_some, outer, take, advanced]
  refine ⟨_, rfl, ?_, rfl⟩
  have free := isAt.outerKeys
  rw [outer] at free
  exact {
    printable := printable
    ahead := rfl
    columns := isAt.columns
    count := congrArg (· + 1) isAt.count
    depth := by
      have length := isAt.depth
      rw [outer] at length
      exact Nat.succ.inj length
    key := by
      rintro pending rfl
      exact free pending List.mem_cons_self
    outerKeys := fun pending listed => free pending (List.mem_cons_of_mem _ listed)
    inside := inside }

theorem IsAt.takeComma? (isAt : layout.IsAt depth (c :: more))
    (here : layout.cursor.rest = c :: more) :
    ∃ taken, layout.takeComma? = some taken ∧ taken.IsInside depth more ∧
      taken.tokens = .comma :: layout.tokens ∧ taken.keyAllowed = true := by
  obtain ⟨advanced, inside, printable⟩ := isAt.behind here
  rw [Layout.takeComma?, isAt.dropKey?]
  refine ⟨_, rfl, ?_, rfl, rfl⟩
  simp only [take, advanced]
  exact {
    printable := printable
    ahead := rfl
    columns := isAt.columns
    count := congrArg (· + 1) isAt.count
    depth := isAt.depth
    key := nofun
    outerKeys := isAt.outerKeys
    inside := inside }

theorem openBlock_of_inFlow (inFlow : layout.inFlow = true) (token : Token)
    (column position : Nat) : layout.openBlock token column position = layout := by
  rw [openBlock, inFlow]
  rfl

/-- Behind a name a colon puts the mark of a key before it, if the key is still possible. -/
theorem IsAt.takeColon? (isAt : layout.IsAt (depth + 1) (c :: more))
    (here : layout.cursor.rest = c :: more) {name : Token} {before : List Token}
    (behindName : layout.tokens = name :: before)
    (saved : ∀ key ∈ layout.key, key.position = before.length) :
    ∃ taken keyMark, layout.takeColon? = some taken ∧ taken.IsInside (depth + 1) more ∧
      (keyMark = [] ∨ keyMark = [Token.key]) ∧
      taken.tokens = .value :: name :: (keyMark ++ before) := by
  obtain ⟨advanced, inside, printable⟩ := isAt.behind here
  have inFlow := isAt.inFlow
  rw [Layout.takeColon?]
  cases isKey : layout.key with
  | none =>
      rw [openBlock_of_inFlow inFlow, inFlow]
      simp only [Bool.not_true, Bool.false_and, Bool.false_eq_true, if_false, take, advanced]
      refine ⟨_, [], rfl, ?_, .inl rfl, congrArg (Token.value :: ·) behindName⟩
      exact {
        printable := printable
        ahead := rfl
        columns := isAt.columns
        count := congrArg (· + 1) isAt.count
        depth := isAt.depth
        key := isAt.key
        outerKeys := isAt.outerKeys
        inside := inside }
  | some key =>
      have later : layout.count - key.position = 1 := by
        rw [isAt.count, behindName, saved key isKey, List.length_cons]
        omega
      dsimp only
      rw [openBlock_of_inFlow]
      · simp only [take, emitAt, later, behindName, advanced]
        refine ⟨_, [.key], rfl, ?_, .inr rfl, rfl⟩
        exact {
          printable := printable
          ahead := rfl
          columns := isAt.columns
          count := by simp [emit, isAt.count, behindName]
          depth := isAt.depth
          key := nofun
          outerKeys := isAt.outerKeys
          inside := inside }
      · exact inFlow

theorem IsInside.takeQuoted? (isInside : layout.IsInside depth ('"' :: more))
    (here : layout.cursor.rest = '"' :: more) {units : List Json.TextUnit} {rest : List Char}
    (read : Json.readUnits more = some (units, rest)) {taken : Layout}
    (isTaken : layout.takeQuoted? readDouble = some taken) :
    ∃ text, Json.textOf? units = some text ∧ taken.IsInside depth rest ∧
      taken.tokens = .scalar false text :: layout.tokens ∧
      (layout.keyAllowed = true → ∀ key ∈ taken.key, key.position = layout.tokens.length) := by
  have isAt := isInside.toIsAt
  obtain ⟨advanced, inside, printable⟩ := isAt.behind here
  rw [Layout.takeQuoted?, takeInline?, isAt.saveKey?] at isTaken
  simp only [Option.bind_eq_bind, Option.bind_some, advanced, Option.bind_eq_some_iff,
    Option.map_eq_some_iff] at isTaken
  obtain ⟨⟨token, behind⟩, ⟨⟨closed, remaining⟩, readToo, isToken⟩, same⟩ := isTaken
  cases isToken
  cases same
  obtain ⟨chars, areChars, ends, written, column⟩ :=
    readDouble_units printable read (Partial.isOnLine_start inside) readToo
  subst ends
  have isText : closed.text = String.ofList chars := by
    rw [Partial.text, written]
    simp [Partial.start, Partial.letters, Gap.folded]
  refine ⟨closed.text, ?_, ?_, rfl, ?_⟩
  · rw [Json.textOf?, areChars, isText]
    rfl
  · exact {
      printable := fun c listed => printable c ((Json.readUnits_suffix read).subset listed)
      ahead := rfl
      columns := isAt.columns
      count := congrArg (· + 1) isAt.count
      depth := isAt.depth
      key := isAt.savedKey
      outerKeys := isAt.outerKeys
      inside := column }
  · intro allowed key isKey
    change key ∈ (if layout.keyAllowed = true then _ else _) at isKey
    rw [if_pos allowed] at isKey
    cases isKey
    exact isAt.count

theorem IsInside.takePlain? {word rest : List Char} {mark : Char}
    (isInside : layout.IsInside (depth + 1) (word ++ rest))
    (here : layout.cursor.rest = word ++ rest) (plain : ∀ c ∈ word, isPlainChar c = true)
    (stops : skipSpaces rest = mark :: more) (isMark : isFlowMark mark = true) :
    ∃ taken, layout.takePlain? = some taken ∧ taken.IsInside (depth + 1) rest ∧
      taken.tokens = .scalar true (String.ofList word) :: layout.tokens := by
  have isAt := isInside.toIsAt
  obtain ⟨done, read, onLine, written⟩ := readPlain_word plain stops isMark layout.floor
    (Partial.isOnLine_start isInside.inside) rfl
  have isText : done.text = String.ofList word := by
    rw [Partial.text, written]
    simp [Partial.start]
  rw [Layout.takePlain?, isAt.saveKey?]
  simp only [Option.bind_eq_bind, Option.bind_some]
  -- the key that is saved has no part in how the scalar is read
  change ∃ taken, (readPlain layout.inFlow layout.floor (.start layout.cursor.place)
    layout.cursor.rest).bind _ = some taken ∧ _
  rw [isAt.inFlow, here, read, Option.bind_some]
  refine ⟨_, rfl, ?_, by rw [isText]; rfl⟩
  have solid : mark ≠ ' ' := by
    rcases isFlowMark_cases isMark with rfl | rfl | rfl | rfl | rfl <;> decide
  exact {
    printable := fun c listed => isAt.printable c (List.mem_append_right word listed)
    ahead := by rw [stops, skipSpaces_cons solid]
    columns := isAt.columns
    count := congrArg (· + 1) isAt.count
    depth := isAt.depth
    key := isAt.savedKey
    outerKeys := isAt.outerKeys
    inside := onLine.column }

theorem opensMarker_of_ne {mark c : Char} (other : c ≠ mark) (rest : List Char) :
    opensMarker mark (c :: rest) = false := by
  rw [opensMarker.eq_def]
  split
  · next same =>
      cases same
      simp [other]
  · rfl

theorem takeToken?_openSequence (here : layout.cursor.rest = '[' :: more) :
    layout.takeToken? = layout.openFlow? .flowSequence := by
  rw [takeToken?, here]
  simp [opensMarker_of_ne]

theorem takeToken?_openMapping (here : layout.cursor.rest = '\x7b' :: more) :
    layout.takeToken? = layout.openFlow? .flowMapping := by
  rw [takeToken?, here]
  simp [opensMarker_of_ne]

theorem takeToken?_closeSequence (here : layout.cursor.rest = ']' :: more) :
    layout.takeToken? = layout.closeFlow? .flowSequenceEnd := by
  rw [takeToken?, here]
  simp [opensMarker_of_ne]

theorem takeToken?_closeMapping (here : layout.cursor.rest = '\x7d' :: more) :
    layout.takeToken? = layout.closeFlow? .flowMappingEnd := by
  rw [takeToken?, here]
  simp [opensMarker_of_ne]

theorem takeToken?_comma (here : layout.cursor.rest = ',' :: more) :
    layout.takeToken? = layout.takeComma? := by
  rw [takeToken?, here]
  simp [opensMarker_of_ne]

theorem takeToken?_quote (here : layout.cursor.rest = '"' :: more) :
    layout.takeToken? = layout.takeQuoted? readDouble := by
  rw [takeToken?, here]
  simp [opensMarker_of_ne]

theorem takeToken?_colon (here : layout.cursor.rest = ':' :: more)
    (inFlow : layout.inFlow = true) : layout.takeToken? = layout.takeColon? := by
  rw [takeToken?, here, inFlow]
  simp [opensMarker_of_ne]

theorem takeToken?_plain (here : layout.cursor.rest = c :: more) (inside : 0 < layout.column)
    (inFlow : layout.inFlow = true) (plain : isPlainChar c = true)
    (negative : c = '-' → ∃ digit rest, more = digit :: rest ∧ digit.isDigit = true) :
    layout.takeToken? = layout.takePlain? := by
  have notFirst : (layout.column == 0) = false :=
    beq_eq_false_iff_ne.mpr (Nat.pos_iff_ne_zero.mp inside)
  have other (mark : Char) (isMark : isPlainChar mark = false) : c ≠ mark :=
    beq_eq_false_iff_ne.mp (beq_of_isPlainChar plain mark isMark)
  have solid : endsWord (c :: more) = false := by
    rw [endsWord, isBlank_of_isPlainChar plain, isBreak_of_isPlainChar plain]
    rfl
  have blankBehind : c = '-' → endsWord more = false ∧ more.head?.any isBlank = false := by
    intro isDash
    obtain ⟨digit, rest, rfl, isDigit⟩ := negative isDash
    have digitPlain := isPlainChar_of_isDigit isDigit
    rw [endsWord, List.head?_cons, Option.any_some, isBlank_of_isPlainChar digitPlain,
      isBreak_of_isPlainChar digitPlain]
    exact ⟨rfl, rfl⟩
  have noDash : (c == '-' && endsWord more) = false := by
    by_cases isDash : c = '-'
    · rw [(blankBehind isDash).1, Bool.and_false]
    · rw [beq_eq_false_iff_ne.mpr isDash, Bool.false_and]
  have starts : startsPlain true (c :: more) = true := by
    rw [startsPlain, solid, beq_of_isPlainChar plain '?' (by decide),
      beq_of_isPlainChar plain ':' (by decide), isFlowMark_of_isPlainChar plain]
    by_cases isDash : c = '-'
    · simp [isDash, (blankBehind isDash).2]
    · simp [isDash]
      and_intros <;> exact other _ (by decide)
  rw [takeToken?, here, notFirst, inFlow]
  simp only [Bool.false_and, Bool.false_eq_true, if_false]
  split
  · next same => exact absurd (List.cons.inj same).1 (other '[' (by decide))
  · next same => exact absurd (List.cons.inj same).1 (other '\x7b' (by decide))
  · next same => exact absurd (List.cons.inj same).1 (other ']' (by decide))
  · next same => exact absurd (List.cons.inj same).1 (other '\x7d' (by decide))
  · next same => exact absurd (List.cons.inj same).1 (other ',' (by decide))
  · next same => exact absurd (List.cons.inj same).1 (other '*' (by decide))
  · next same => exact absurd (List.cons.inj same).1 (other '&' (by decide))
  · next same => exact absurd (List.cons.inj same).1 (other '!' (by decide))
  · next same => exact absurd (List.cons.inj same).1 (other '\'' (by decide))
  · next same => exact absurd (List.cons.inj same).1 (other '"' (by decide))
  · next same =>
      cases same
      rw [noDash, starts, beq_of_isPlainChar plain '?' (by decide),
        beq_of_isPlainChar plain ':' (by decide), beq_of_isPlainChar plain '|' (by decide),
        beq_of_isPlainChar plain '>' (by decide)]
      rfl
  · next same => cases same

end Marks

/-- The next token of a layout in front of a character. -/
theorem IsAt.next {more : List Char} {c : Char} {tokens : List Token}
    (isAt : layout.IsAt depth ahead) (starts : skipSpaces ahead = c :: more) (noComment : c ≠ '#')
    (yields : layout.Yields tokens) :
    ∃ moved taken, IsAt moved depth (c :: more) ∧ moved.cursor.rest = c :: more ∧
      moved.tokens = layout.tokens ∧ layout.column ≤ moved.column ∧
      (moved.keyAllowed = layout.keyAllowed ∧ (moved.key = none ∨ moved.key = layout.key)) ∧
      moved.takeToken? = some taken ∧ taken.Yields tokens := by
  have noMark : (skipSpaces ahead).head? ≠ some '#' := by
    rw [starts]
    exact fun same => noComment (Option.some.inj same)
  obtain ⟨moved, advanced, movedAt, here, later, sameTokens, sameAllowed, sameKey⟩ :=
    isAt.advance? noMark
  rw [starts] at movedAt here
  obtain ⟨taken, isTaken, takenYields⟩ := yields.step advanced (by rw [here]; simp)
  exact ⟨moved, taken, movedAt, here, sameTokens, later, ⟨sameAllowed, sameKey⟩, isTaken,
    takenYields⟩

theorem IsInside.next {more : List Char} {c : Char} {tokens : List Token}
    (isInside : layout.IsInside depth ahead) (starts : skipSpaces ahead = c :: more)
    (noComment : c ≠ '#') (yields : layout.Yields tokens) :
    ∃ moved taken, IsInside moved depth (c :: more) ∧ moved.cursor.rest = c :: more ∧
      moved.tokens = layout.tokens ∧ moved.keyAllowed = layout.keyAllowed ∧
      (moved.key = none ∨ moved.key = layout.key) ∧ moved.takeToken? = some taken ∧
      taken.Yields tokens := by
  obtain ⟨moved, taken, movedAt, here, sameTokens, later, ⟨sameAllowed, sameKey⟩, isTaken,
    takenYields⟩ := isInside.toIsAt.next starts noComment yields
  exact ⟨moved, taken, ⟨movedAt, Nat.lt_of_lt_of_le isInside.inside later⟩, here, sameTokens,
    sameAllowed, sameKey, isTaken, takenYields⟩

end Layout

end Yaml

end AtomicCss
