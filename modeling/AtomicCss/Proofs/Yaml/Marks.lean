import AtomicCss.Proofs.Json.Grammar
import AtomicCss.Proofs.Json.Numerals
import AtomicCss.Proofs.Yaml.Flow
import AtomicCss.Yaml.Node

/-!
# Tokens of JSON texts

A JSON text on one line is also laid out between brackets, so its tokens are marks and scalars
in the order of the text. Only the mark in front of a name depends on more: it is missing where
the name goes on for longer than a key may.
-/

set_option autoImplicit false

namespace AtomicCss.Yaml

/-- A scalar stands for a tree without parts, a numeral among those that are given. -/
inductive Denotes (given : String → Prop) : Json → Scalar → Prop where
  | null : Denotes given .null ⟨true, "null", none⟩
  | yes : Denotes given (.bool true) ⟨true, "true", none⟩
  | no : Denotes given (.bool false) ⟨true, "false", none⟩
  | number (numeral : Json.Numeral) :
      given (String.ofList numeral.spelled) →
      Denotes given numeral.value ⟨true, String.ofList numeral.spelled, none⟩
  | string (text : String) : Denotes given (.string text) ⟨false, text, none⟩

theorem Denotes.among {all given : String → Prop} {document : Json} {scalar : Scalar}
    (denotes : Denotes all document scalar) (among : scalar.plain = true → given scalar.text) :
    Denotes given document scalar := by
  cases denotes with
  | null => exact .null
  | yes => exact .yes
  | no => exact .no
  | number numeral _ => exact .number numeral (among rfl)
  | string text => exact .string text

mutual

/-- Tokens stand for a tree. -/
inductive Marks : Json → List Token → Prop where
  | scalar {document : Json} {scalar : Scalar} :
      Denotes (fun _ => True) document scalar → Marks document [.scalar scalar.plain scalar.text]
  | emptyArray : Marks (.array []) [.flowSequence, .flowSequenceEnd]
  | array {items : List Json} {marks : List Token} :
      MarksItems items marks → Marks (.array items) (.flowSequence :: marks)
  | emptyObject : Marks (.object []) [.flowMapping, .flowMappingEnd]
  | object {members : List (String × Json)} {marks : List Token} :
      MarksMembers members marks → Marks (.object members) (.flowMapping :: marks)

/-- Tokens stand for the items of an array that has some, up to its closing bracket. -/
inductive MarksItems : List Json → List Token → Prop where
  | last {item : Json} {marks : List Token} :
      Marks item marks → MarksItems [item] (marks ++ [.flowSequenceEnd])
  | cons {item : Json} {rest : List Json} {marks others : List Token} :
      Marks item marks → MarksItems rest others →
      MarksItems (item :: rest) (marks ++ .comma :: others)

/-- Tokens stand for the members of an object that has some, up to its closing brace. -/
inductive MarksMembers : List (String × Json) → List Token → Prop where
  | last {name : String} {value : Json} {keyMark marks : List Token} :
      keyMark = [] ∨ keyMark = [.key] → Marks value marks →
      MarksMembers [(name, value)]
        (keyMark ++ .scalar false name :: .value :: (marks ++ [.flowMappingEnd]))
  | cons {name : String} {value : Json} {rest : List (String × Json)}
      {keyMark marks others : List Token} :
      keyMark = [] ∨ keyMark = [.key] → Marks value marks → MarksMembers rest others →
      MarksMembers ((name, value) :: rest)
        (keyMark ++ .scalar false name :: .value :: (marks ++ .comma :: others))

end

/-! ## What the reader takes and what the layout takes -/

/-- What is found at a value: wherever the reader takes one, the layout takes its tokens. -/
def ReadsValue (steps : Nat) : Prop :=
  ∀ {text rest : List Char} {document : Json} {depth : Nat} {layout : Layout}
    {tokens : List Token} {mark : Char} {more : List Char},
    Json.readValue steps text = some (document, rest) → layout.IsInside (depth + 1) text →
    Json.skipBlanks rest = mark :: more → isFlowMark mark = true → layout.Yields tokens →
    ∃ marks behind, Marks document marks ∧ Layout.IsInside behind (depth + 1) rest ∧
      behind.tokens = marks.reverse ++ layout.tokens ∧ behind.Yields tokens

/-- What is found at items up to the closing bracket. -/
def ReadsItems (steps : Nat) : Prop :=
  ∀ {text rest : List Char} {items : List Json} {depth : Nat} {layout : Layout}
    {tokens : List Token},
    Json.readItems steps text = some (items, rest) → layout.IsInside (depth + 1) text →
    layout.Yields tokens →
    ∃ marks behind, MarksItems items marks ∧ Layout.IsInside behind depth rest ∧
      behind.tokens = marks.reverse ++ layout.tokens ∧ behind.Yields tokens

/-- What is found at members up to the closing brace. A key may begin before the first one. -/
def ReadsMembers (steps : Nat) : Prop :=
  ∀ {text rest : List Char} {members : List (Option String × Json)} {depth : Nat}
    {layout : Layout} {tokens : List Token},
    Json.readMembers steps text = some (members, rest) → layout.IsInside (depth + 1) text →
    layout.keyAllowed = true → layout.Yields tokens →
    ∃ named marks behind, members = named.map (fun member => (some member.1, member.2)) ∧
      MarksMembers named marks ∧ Layout.IsInside behind depth rest ∧
      behind.tokens = marks.reverse ++ layout.tokens ∧ behind.Yields tokens

section Reads

variable {steps depth : Nat} {layout : Layout} {text rest more : List Char} {tokens : List Token}

theorem reads_plain {word : List Char} {mark : Char} (isInside : layout.IsInside (depth + 1) text)
    (starts : skipSpaces text = word ++ rest) (plain : ∀ c ∈ word, isPlainChar c = true)
    (opens : ∃ first others, word = first :: others ∧
      (first = '-' → ∃ digit behind, others = digit :: behind ∧ digit.isDigit = true))
    (stops : Json.skipBlanks rest = mark :: more) (isMark : isFlowMark mark = true)
    (yields : layout.Yields tokens) :
    ∃ taken, Layout.IsInside taken (depth + 1) rest ∧
      taken.tokens = .scalar true (String.ofList word) :: layout.tokens ∧ taken.Yields tokens := by
  obtain ⟨first, others, isWord, negative⟩ := opens
  have isPlain : isPlainChar first = true := plain first (by rw [isWord]; exact List.mem_cons_self)
  have noComment : first ≠ '#' :=
    beq_eq_false_iff_ne.mp (beq_of_isPlainChar isPlain '#' (by decide))
  have startsFirst : skipSpaces text = first :: (others ++ rest) := by rw [starts, isWord]; rfl
  obtain ⟨moved, taken, movedInside, here, sameTokens, -, -, isTaken, takenYields⟩ :=
    isInside.next startsFirst noComment yields
  have behindDash : first = '-' →
      ∃ digit behind, others ++ rest = digit :: behind ∧ digit.isDigit = true := by
    intro isDash
    obtain ⟨digit, behind, rfl, isDigit⟩ := negative isDash
    exact ⟨digit, behind ++ rest, rfl, isDigit⟩
  rw [Layout.takeToken?_plain here movedInside.inside movedInside.toIsAt.inFlow isPlain
    behindDash] at isTaken
  rw [← startsFirst, starts] at movedInside here
  have printable : ∀ c ∈ rest, IsPrintable c := fun c listed =>
    movedInside.printable c (List.mem_append_right word listed)
  rw [skipBlanks_eq_skipSpaces printable] at stops
  obtain ⟨behind, isBehind, behindInside, behindTokens⟩ :=
    movedInside.takePlain? here plain stops isMark
  cases isBehind.symm.trans isTaken
  exact ⟨taken, behindInside, by rw [behindTokens, sameTokens], takenYields⟩

theorem isPlainChar_of_isAlpha {c : Char} (isAlpha : c.isAlpha = true) : isPlainChar c = true := by
  simp [isPlainChar, Char.isAlphanum, isAlpha]

theorem reads_word {document : Json} {mark : Char} (word : List Char)
    (isInside : layout.IsInside (depth + 1) text) (starts : skipSpaces text = word ++ rest)
    (notEmpty : word ≠ []) (letters : word.all Char.isAlpha = true)
    (isWord : Marks document [.scalar true (String.ofList word)])
    (stops : Json.skipBlanks rest = mark :: more) (isMark : isFlowMark mark = true)
    (yields : layout.Yields tokens) :
    ∃ marks behind, Marks document marks ∧ Layout.IsInside behind (depth + 1) rest ∧
      behind.tokens = marks.reverse ++ layout.tokens ∧ behind.Yields tokens := by
  rw [List.all_eq_true] at letters
  have plain : ∀ c ∈ word, isPlainChar c = true :=
    fun c listed => isPlainChar_of_isAlpha (letters c listed)
  have opens : ∃ first others, word = first :: others ∧
      (first = '-' → ∃ digit behind, others = digit :: behind ∧ digit.isDigit = true) := by
    obtain ⟨first, others, rfl⟩ := List.exists_cons_of_ne_nil notEmpty
    refine ⟨first, others, rfl, ?_⟩
    rintro rfl
    exact absurd (letters '-' List.mem_cons_self) (by decide)
  obtain ⟨taken, takenInside, takenTokens, takenYields⟩ :=
    reads_plain isInside starts plain opens stops isMark yields
  exact ⟨_, taken, isWord, takenInside, takenTokens, takenYields⟩

theorem isPlainChar_of_mem_spelled (numeral : Json.Numeral) :
    ∀ c ∈ numeral.spelled, isPlainChar c = true := by
  have unsigned : ∀ c ∈ numeral.unsigned, isPlainChar c = true := by
    intro c listed
    rcases numeral.mem_unsigned listed with isDigit | isMark
    · exact isPlainChar_of_isDigit isDigit
    · simp only [List.mem_cons, List.not_mem_nil, or_false] at isMark
      rcases isMark with rfl | rfl | rfl | rfl | rfl <;> rfl
  intro c listed
  rw [Json.Numeral.spelled] at listed
  split at listed
  · rcases List.mem_cons.mp listed with rfl | inRow
    · rfl
    · exact unsigned c inRow
  · exact unsigned c listed

theorem opens_spelled (numeral : Json.Numeral) :
    ∃ first others, numeral.spelled = first :: others ∧
      (first = '-' → ∃ digit behind, others = digit :: behind ∧ digit.isDigit = true) := by
  obtain ⟨digit, rest, isDigit, -, isSpelled⟩ := numeral.exists_spelled_eq
  cases isNegative : numeral.negative with
  | true =>
      rw [isNegative] at isSpelled
      exact ⟨'-', digit :: rest, isSpelled, fun _ => ⟨digit, rest, rfl, isDigit⟩⟩
  | false =>
      rw [isNegative] at isSpelled
      refine ⟨digit, rest, isSpelled, ?_⟩
      rintro rfl
      exact absurd isDigit (by decide)

theorem reads_opening {bracket : Char} {token : Token} (noComment : bracket ≠ '#')
    (takes : ∀ {moved : Layout} {behind : List Char},
      moved.cursor.rest = bracket :: behind → moved.takeToken? = moved.openFlow? token)
    (isAt : layout.IsAt depth text) (starts : skipSpaces text = bracket :: more)
    (yields : layout.Yields tokens) :
    ∃ taken, Layout.IsInside taken (depth + 1) more ∧ taken.tokens = token :: layout.tokens ∧
      taken.keyAllowed = true ∧ taken.Yields tokens := by
  obtain ⟨moved, taken, movedAt, here, sameTokens, -, -, isTaken, takenYields⟩ :=
    isAt.next starts noComment yields
  obtain ⟨opened, isOpened, openedInside, openedTokens, allowed⟩ := movedAt.openFlow? here token
  rw [takes here, isOpened] at isTaken
  cases isTaken
  exact ⟨taken, openedInside, by rw [openedTokens, sameTokens], allowed, takenYields⟩

theorem reads_closing {bracket : Char} {token : Token} (noComment : bracket ≠ '#')
    (takes : ∀ {moved : Layout} {behind : List Char},
      moved.cursor.rest = bracket :: behind → moved.takeToken? = moved.closeFlow? token)
    (isInside : layout.IsInside (depth + 1) text) (starts : Json.skipBlanks text = bracket :: more)
    (yields : layout.Yields tokens) :
    ∃ taken, Layout.IsInside taken depth more ∧ taken.tokens = token :: layout.tokens ∧
      taken.Yields tokens := by
  rw [skipBlanks_eq_skipSpaces isInside.printable] at starts
  obtain ⟨moved, taken, movedInside, here, sameTokens, -, -, isTaken, takenYields⟩ :=
    isInside.next starts noComment yields
  obtain ⟨closed, isClosed, closedInside, closedTokens⟩ := movedInside.toIsAt.closeFlow? here token
  rw [takes here, isClosed] at isTaken
  cases isTaken
  exact ⟨taken, closedInside, by rw [closedTokens, sameTokens], takenYields⟩

theorem reads_comma (isInside : layout.IsInside depth text)
    (starts : Json.skipBlanks text = ',' :: more) (yields : layout.Yields tokens) :
    ∃ taken, Layout.IsInside taken depth more ∧ taken.tokens = .comma :: layout.tokens ∧
      taken.keyAllowed = true ∧ taken.Yields tokens := by
  rw [skipBlanks_eq_skipSpaces isInside.printable] at starts
  obtain ⟨moved, taken, movedInside, here, sameTokens, -, -, isTaken, takenYields⟩ :=
    isInside.next starts (by decide) yields
  obtain ⟨behind, isBehind, behindInside, behindTokens, allowed⟩ :=
    movedInside.toIsAt.takeComma? here
  rw [Layout.takeToken?_comma here, isBehind] at isTaken
  cases isTaken
  exact ⟨taken, behindInside, by rw [behindTokens, sameTokens], allowed, takenYields⟩

theorem reads_quoted (isInside : layout.IsInside depth text)
    (starts : Json.skipBlanks text = '"' :: more) {units : List Json.TextUnit}
    (read : Json.readUnits more = some (units, rest)) (yields : layout.Yields tokens) :
    ∃ name taken, Json.textOf? units = some name ∧ Layout.IsInside taken depth rest ∧
      taken.tokens = .scalar false name :: layout.tokens ∧
      (layout.keyAllowed = true → ∀ key ∈ taken.key, key.position = layout.tokens.length) ∧
      taken.Yields tokens := by
  rw [skipBlanks_eq_skipSpaces isInside.printable] at starts
  obtain ⟨moved, taken, movedInside, here, sameTokens, sameAllowed, -, isTaken, takenYields⟩ :=
    isInside.next starts (by decide) yields
  rw [Layout.takeToken?_quote here] at isTaken
  obtain ⟨name, isName, takenInside, takenTokens, saved⟩ :=
    movedInside.takeQuoted? here read isTaken
  rw [sameTokens] at takenTokens saved
  rw [sameAllowed] at saved
  exact ⟨name, taken, isName, takenInside, takenTokens, saved, takenYields⟩

theorem reads_colon (isInside : layout.IsInside (depth + 1) text)
    (starts : Json.skipBlanks text = ':' :: more) {name : Token} {before : List Token}
    (behindName : layout.tokens = name :: before)
    (saved : ∀ key ∈ layout.key, key.position = before.length) (yields : layout.Yields tokens) :
    ∃ taken keyMark, Layout.IsInside taken (depth + 1) more ∧
      (keyMark = [] ∨ keyMark = [Token.key]) ∧
      taken.tokens = .value :: name :: (keyMark ++ before) ∧ taken.Yields tokens := by
  rw [skipBlanks_eq_skipSpaces isInside.printable] at starts
  obtain ⟨moved, taken, movedInside, here, sameTokens, -, sameKey, isTaken, takenYields⟩ :=
    isInside.next starts (by decide) yields
  have stillSaved : ∀ key ∈ moved.key, key.position = before.length := by
    rcases sameKey with missing | same
    · rw [missing]
      exact nofun
    · rwa [same]
  obtain ⟨behind, keyMark, isBehind, behindInside, isKeyMark, behindTokens⟩ :=
    movedInside.toIsAt.takeColon? here (sameTokens.trans behindName) stillSaved
  rw [Layout.takeToken?_colon here movedInside.toIsAt.inFlow, isBehind] at isTaken
  cases isTaken
  exact ⟨taken, keyMark, behindInside, isKeyMark, behindTokens, takenYields⟩

theorem readsValue_emptyArray (isAt : layout.IsAt depth text)
    (starts : skipSpaces text = '[' :: more) (ends : Json.skipBlanks more = ']' :: rest)
    (yields : layout.Yields tokens) :
    ∃ marks behind, Marks (.array []) marks ∧ Layout.IsInside behind depth rest ∧
      behind.tokens = marks.reverse ++ layout.tokens ∧ behind.Yields tokens := by
  obtain ⟨opened, openedInside, openedTokens, -, openedYields⟩ :=
    reads_opening (by decide) Layout.takeToken?_openSequence isAt starts yields
  obtain ⟨closed, closedInside, closedTokens, closedYields⟩ :=
    reads_closing (by decide) Layout.takeToken?_closeSequence openedInside ends openedYields
  exact ⟨_, closed, .emptyArray, closedInside, by rw [closedTokens, openedTokens]; rfl,
    closedYields⟩

theorem readsValue_array (items : ReadsItems steps) (isAt : layout.IsAt depth text)
    (starts : skipSpaces text = '[' :: more) (yields : layout.Yields tokens) {list : List Json}
    (read : Json.readItems steps more = some (list, rest)) :
    ∃ marks behind, Marks (.array list) marks ∧ Layout.IsInside behind depth rest ∧
      behind.tokens = marks.reverse ++ layout.tokens ∧ behind.Yields tokens := by
  obtain ⟨opened, openedInside, openedTokens, -, openedYields⟩ :=
    reads_opening (by decide) Layout.takeToken?_openSequence isAt starts yields
  obtain ⟨marks, behind, areMarks, behindInside, behindTokens, behindYields⟩ :=
    items read openedInside openedYields
  exact ⟨_, behind, .array areMarks, behindInside, by simp [behindTokens, openedTokens],
    behindYields⟩

theorem readsValue_emptyObject (isAt : layout.IsAt depth text)
    (starts : skipSpaces text = '\x7b' :: more) (ends : Json.skipBlanks more = '\x7d' :: rest)
    (yields : layout.Yields tokens) :
    ∃ marks behind, Marks (.object []) marks ∧ Layout.IsInside behind depth rest ∧
      behind.tokens = marks.reverse ++ layout.tokens ∧ behind.Yields tokens := by
  obtain ⟨opened, openedInside, openedTokens, -, openedYields⟩ :=
    reads_opening (by decide) Layout.takeToken?_openMapping isAt starts yields
  obtain ⟨closed, closedInside, closedTokens, closedYields⟩ :=
    reads_closing (by decide) Layout.takeToken?_closeMapping openedInside ends openedYields
  exact ⟨_, closed, .emptyObject, closedInside, by rw [closedTokens, openedTokens]; rfl,
    closedYields⟩

theorem readsValue_object (members : ReadsMembers steps) (isAt : layout.IsAt depth text)
    (starts : skipSpaces text = '\x7b' :: more) (yields : layout.Yields tokens)
    {list : List (Option String × Json)}
    (read : Json.readMembers steps more = some (list, rest)) :
    ∃ marks behind, Marks (Json.objectValue list) marks ∧ Layout.IsInside behind depth rest ∧
      behind.tokens = marks.reverse ++ layout.tokens ∧ behind.Yields tokens := by
  obtain ⟨opened, openedInside, openedTokens, allowed, openedYields⟩ :=
    reads_opening (by decide) Layout.takeToken?_openMapping isAt starts yields
  obtain ⟨named, marks, behind, rfl, areMarks, behindInside, behindTokens, behindYields⟩ :=
    members read openedInside allowed openedYields
  rw [Json.objectValue_named]
  exact ⟨_, behind, .object areMarks, behindInside, by simp [behindTokens, openedTokens],
    behindYields⟩

end Reads

theorem readsItems_succ {steps : Nat} (value : ReadsValue steps) (items : ReadsItems steps) :
    ReadsItems (steps + 1) := by
  intro text rest list depth layout tokens read isInside yields
  rw [Json.readItems] at read
  obtain ⟨⟨item, behindItem⟩, readItem, read⟩ := Option.bind_eq_some_iff.mp read
  dsimp only at read
  split at read
  · next starts =>
      cases read
      obtain ⟨marks, behind, areMarks, behindInside, behindTokens, behindYields⟩ :=
        value readItem isInside starts (by decide) yields
      obtain ⟨closed, closedInside, closedTokens, closedYields⟩ :=
        reads_closing (by decide) Layout.takeToken?_closeSequence behindInside starts behindYields
      exact ⟨_, closed, .last areMarks, closedInside, by simp [closedTokens, behindTokens],
        closedYields⟩
  · next starts =>
      obtain ⟨⟨others, remaining⟩, readOthers, same⟩ := Option.bind_eq_some_iff.mp read
      cases same
      obtain ⟨marks, behind, areMarks, behindInside, behindTokens, behindYields⟩ :=
        value readItem isInside starts (by decide) yields
      obtain ⟨passed, passedInside, passedTokens, -, passedYields⟩ :=
        reads_comma behindInside starts behindYields
      obtain ⟨otherMarks, closed, areOthers, closedInside, closedTokens, closedYields⟩ :=
        items readOthers passedInside passedYields
      exact ⟨_, closed, .cons areMarks areOthers, closedInside,
        by simp [closedTokens, passedTokens, behindTokens], closedYields⟩
  · cases read

theorem readsMembers_succ {steps : Nat} (value : ReadsValue steps)
    (members : ReadsMembers steps) : ReadsMembers (steps + 1) := by
  intro text rest list depth layout tokens read isInside allowed yields
  rw [Json.readMembers] at read
  split at read
  · next startsName =>
      obtain ⟨⟨units, behindName⟩, readName, read⟩ := Option.bind_eq_some_iff.mp read
      dsimp only at read
      split at read
      · next startsColon =>
          obtain ⟨⟨part, behindPart⟩, readPart, read⟩ := Option.bind_eq_some_iff.mp read
          dsimp only at read
          obtain ⟨name, named, isName, namedInside, namedTokens, saved, namedYields⟩ :=
            reads_quoted isInside startsName readName yields
          obtain ⟨keyed, keyMark, keyedInside, isKeyMark, keyedTokens, keyedYields⟩ :=
            reads_colon namedInside startsColon namedTokens (saved allowed) namedYields
          split at read
          · next ends =>
              cases read
              obtain ⟨marks, behind, areMarks, behindInside, behindTokens, behindYields⟩ :=
                value readPart keyedInside ends (by decide) keyedYields
              obtain ⟨closed, closedInside, closedTokens, closedYields⟩ :=
                reads_closing (by decide) Layout.takeToken?_closeMapping behindInside ends
                  behindYields
              refine ⟨[(name, part)], _, closed, by rw [isName]; rfl, .last isKeyMark areMarks,
                closedInside, ?_, closedYields⟩
              rw [closedTokens, behindTokens, keyedTokens]
              rcases isKeyMark with rfl | rfl <;> simp
          · next goesOn =>
              obtain ⟨⟨others, remaining⟩, readOthers, same⟩ := Option.bind_eq_some_iff.mp read
              cases same
              obtain ⟨marks, behind, areMarks, behindInside, behindTokens, behindYields⟩ :=
                value readPart keyedInside goesOn (by decide) keyedYields
              obtain ⟨passed, passedInside, passedTokens, passedAllowed, passedYields⟩ :=
                reads_comma behindInside goesOn behindYields
              obtain ⟨otherNamed, otherMarks, closed, rfl, areOthers, closedInside, closedTokens,
                closedYields⟩ := members readOthers passedInside passedAllowed passedYields
              refine ⟨(name, part) :: otherNamed, _, closed, by rw [isName]; rfl,
                .cons isKeyMark areMarks areOthers, closedInside, ?_, closedYields⟩
              rw [closedTokens, passedTokens, behindTokens, keyedTokens]
              rcases isKeyMark with rfl | rfl <;> simp
          · cases read
      · cases read
  · cases read

theorem readsValue_succ {steps : Nat} (items : ReadsItems steps) (members : ReadsMembers steps) :
    ReadsValue (steps + 1) := by
  intro text rest document depth layout tokens mark more read isInside stops isMark yields
  rw [Json.readValue, skipBlanks_eq_skipSpaces isInside.printable] at read
  split at read
  · next starts =>
      cases read
      exact reads_word ['n', 'u', 'l', 'l'] isInside starts (by decide) rfl (.scalar .null) stops
        isMark yields
  · next starts =>
      cases read
      exact reads_word ['t', 'r', 'u', 'e'] isInside starts (by decide) rfl (.scalar .yes) stops
        isMark yields
  · next starts =>
      cases read
      exact reads_word ['f', 'a', 'l', 's', 'e'] isInside starts (by decide) rfl (.scalar .no) stops
        isMark yields
  · next starts =>
      rw [← skipBlanks_eq_skipSpaces isInside.printable] at starts
      obtain ⟨⟨units, behindQuote⟩, readQuoted, same⟩ := Option.bind_eq_some_iff.mp read
      cases same
      obtain ⟨text, taken, isText, takenInside, takenTokens, -, takenYields⟩ :=
        reads_quoted isInside starts readQuoted yields
      refine ⟨[.scalar false text], taken, ?_, takenInside, takenTokens, takenYields⟩
      rw [Json.textValue, isText]
      exact .scalar (.string text)
  · next starts =>
      split at read
      · next ends =>
          cases read
          exact readsValue_emptyArray isInside.toIsAt starts ends yields
      · obtain ⟨⟨list, remaining⟩, readItems, same⟩ := Option.bind_eq_some_iff.mp read
        cases same
        exact readsValue_array items isInside.toIsAt starts yields readItems
  · next starts =>
      split at read
      · next ends =>
          cases read
          exact readsValue_emptyObject isInside.toIsAt starts ends yields
      · obtain ⟨⟨list, remaining⟩, readMembers, same⟩ := Option.bind_eq_some_iff.mp read
        cases same
        exact readsValue_object members isInside.toIsAt starts yields readMembers
  · obtain ⟨numeral, starts, rfl⟩ := Json.exists_numeral_of_readNumber read
    obtain ⟨taken, takenInside, takenTokens, takenYields⟩ :=
      reads_plain isInside starts (isPlainChar_of_mem_spelled numeral) (opens_spelled numeral)
        stops isMark yields
    exact ⟨_, taken, .scalar (.number numeral trivial), takenInside, takenTokens, takenYields⟩

/-- Whatever the reader takes of a text on one line, the layout takes its tokens. -/
theorem reads (steps : Nat) : ReadsValue steps ∧ ReadsItems steps ∧ ReadsMembers steps := by
  induction steps with
  | zero =>
      refine ⟨?_, ?_, ?_⟩
      · intro _ _ _ _ _ _ _ _ read
        cases read
      · intro _ _ _ _ _ _ read
        cases read
      · intro _ _ _ _ _ _ read
        cases read
  | succ steps ih =>
      obtain ⟨value, items, members⟩ := ih
      exact ⟨readsValue_succ items members, readsItems_succ value items,
        readsMembers_succ value members⟩

/-! ## Whole texts -/

theorem lines_of_isPrintable {text : List Char} (printable : ∀ c ∈ text, IsPrintable c) :
    lines text = text := by
  induction text with
  | nil => rfl
  | cons c rest ih =>
      have isPrintable := printable c List.mem_cons_self
      have later := ih fun c listed => printable c (List.mem_cons_of_mem _ listed)
      rw [lines.eq_def]
      split
      · next same => cases same
      · next same =>
          cases same
          exact absurd (isPrintable.beq_eq_false '\r' (by decide)) (by decide)
      · next same =>
          cases same
          exact absurd (isPrintable.beq_eq_false '\r' (by decide)) (by decide)
      · next same =>
          cases same
          exact absurd (isPrintable.beq_eq_false '\u0085' (by decide)) (by decide)
      · next same =>
          cases same
          rw [later]

theorem isAt_start {text : List Char} (printable : ∀ c ∈ text, IsPrintable c) :
    (Layout.start text).IsAt 0 text where
  printable := printable
  ahead := rfl
  columns := rfl
  count := rfl
  depth := rfl
  key := nofun
  outerKeys := nofun

theorem Layout.Yields.ends {layout : Layout} {depth : Nat} {ahead : List Char}
    {tokens : List Token} (isAt : layout.IsAt depth ahead) (ends : skipSpaces ahead = [])
    (yields : layout.Yields tokens) : tokens = layout.tokens.reverse := by
  have noComment : (skipSpaces ahead).head? ≠ some '#' := by rw [ends]; exact nofun
  obtain ⟨moved, advanced, movedAt, here, -, sameTokens, -, -⟩ := isAt.advance? noComment
  obtain ⟨steps, run⟩ := yields
  cases steps with
  | zero => cases run
  | succ steps =>
      rw [tokens?, advanced] at run
      dsimp only at run
      rw [if_pos (by rw [here, ends]; rfl), closeBlocks_of_nil _ movedAt.columns,
        movedAt.dropKey?] at run
      cases run
      rw [sameTokens]

/-- A tree with parts of its own. -/
def IsCollection (document : Json) : Prop :=
  (∃ items, document = .array items) ∨ ∃ members, document = .object members

theorem not_isCollection_value (numeral : Json.Numeral) : ¬ IsCollection numeral.value := by
  rcases numeral.value_cases with ⟨number, same⟩ | same <;> rw [same] <;>
    rintro (⟨items, same⟩ | ⟨members, same⟩) <;> cases same

theorem reads_collection {steps depth : Nat} {text rest : List Char} {document : Json}
    {layout : Layout} {tokens : List Token}
    (read : Json.readValue steps text = some (document, rest))
    (isCollection : IsCollection document) (isAt : layout.IsAt depth text)
    (yields : layout.Yields tokens) :
    ∃ marks behind, Marks document marks ∧ Layout.IsInside behind depth rest ∧
      behind.tokens = marks.reverse ++ layout.tokens ∧ behind.Yields tokens := by
  cases steps with
  | zero => cases read
  | succ steps =>
      rw [Json.readValue, skipBlanks_eq_skipSpaces isAt.printable] at read
      split at read
      · cases read
        rcases isCollection with ⟨items, same⟩ | ⟨members, same⟩ <;> cases same
      · cases read
        rcases isCollection with ⟨items, same⟩ | ⟨members, same⟩ <;> cases same
      · cases read
        rcases isCollection with ⟨items, same⟩ | ⟨members, same⟩ <;> cases same
      · obtain ⟨⟨units, behindQuote⟩, -, same⟩ := Option.bind_eq_some_iff.mp read
        cases same
        rw [Json.textValue] at isCollection
        split at isCollection <;>
          rcases isCollection with ⟨items, same⟩ | ⟨members, same⟩ <;> cases same
      · next starts =>
          split at read
          · next ends =>
              cases read
              exact readsValue_emptyArray isAt starts ends yields
          · obtain ⟨⟨list, remaining⟩, readItems, same⟩ := Option.bind_eq_some_iff.mp read
            cases same
            exact readsValue_array (reads steps).2.1 isAt starts yields readItems
      · next starts =>
          split at read
          · next ends =>
              cases read
              exact readsValue_emptyObject isAt starts ends yields
          · obtain ⟨⟨list, remaining⟩, readMembers, same⟩ := Option.bind_eq_some_iff.mp read
            cases same
            exact readsValue_object (reads steps).2.2 isAt starts yields readMembers
      · obtain ⟨numeral, -, rfl⟩ := Json.exists_numeral_of_readNumber read
        exact absurd isCollection (not_isCollection_value numeral)

/-- The tokens of a text that holds an array or an object. -/
theorem marks_of_ofChars? {text : List Char} (printable : ∀ c ∈ text, IsPrintable c)
    {document : Json} (read : Json.ofChars? text = some document)
    (isCollection : IsCollection document) {tokens : List Token}
    (isYaml : Token.ofChars? text = some tokens) : Marks document tokens := by
  have yields : (Layout.start text).Yields tokens := by
    rw [Token.ofChars?, lines_of_isPrintable printable] at isYaml
    split at isYaml
    · exact ⟨_, isYaml⟩
    · cases isYaml
  rw [Json.ofChars?] at read
  split at read
  · next found rest readAll =>
      split at read
      · next isEnd =>
          cases read
          obtain ⟨marks, behind, areMarks, behindInside, behindTokens, behindYields⟩ :=
            reads_collection readAll isCollection (isAt_start printable) yields
          have ends : skipSpaces rest = [] := by
            rw [← skipBlanks_eq_skipSpaces behindInside.printable]
            exact List.isEmpty_iff.mp isEnd
          have same := behindYields.ends behindInside.toIsAt ends
          rw [behindTokens] at same
          simp only [Layout.start, List.append_nil, List.reverse_reverse] at same
          rw [same]
          exact areMarks
      · cases read
  · cases read

end AtomicCss.Yaml
