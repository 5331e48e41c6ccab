/-!
# Hangul

ASCII spellings of Hangul. A syllable is put together from an initial consonant, a vowel and
a final consonant, and its code point tells which they are; single letters are in a table.
-/

set_option autoImplicit false

namespace AtomicCss.Text

/-- The initial consonants in the order of their syllables. -/
def hangulInitials : List String :=
  ["g", "gg", "n", "d", "dd", "r", "m", "b", "bb", "s", "ss", "", "j", "jj", "c", "k", "t", "p",
   "h"]

/-- The vowels, which come round for each initial consonant. -/
def hangulVowels : List String :=
  ["a", "ae", "ya", "yae", "eo", "e", "yeo", "ye", "o", "wa", "wae", "oe", "yo", "u", "weo",
   "we", "wi", "yu", "eu", "yi", "i"]

/-- The final consonants, which come round for each vowel; the first is none at all. -/
def hangulFinals : List String :=
  ["", "g", "gg", "gs", "n", "nj", "nh", "d", "l", "lg", "lm", "lb", "ls", "lt", "lp", "lh", "m",
   "b", "bs", "s", "ss", "ng", "j", "c", "k", "t", "p", "h"]

/-- The code point of the first syllable. -/
def firstHangulSyllable : Nat := 0xAC00

/-- The spelling of a syllable by its place among the syllables. -/
def hangulSyllable? (place : Nat) : Option String := do
  let initial ← hangulInitials[place / (hangulVowels.length * hangulFinals.length)]?
  let vowel ← hangulVowels[place / hangulFinals.length % hangulVowels.length]?
  let final ← hangulFinals[place % hangulFinals.length]?
  return initial ++ vowel ++ final

/-- The spelling of a character that is a syllable. -/
def hangulSpelling? (c : Char) : Option String :=
  if firstHangulSyllable ≤ c.toNat then hangulSyllable? (c.toNat - firstHangulSyllable) else none

/-- The spellings with the single letters that have them. -/
def hangulLetterSpellings : List (String × String) :=
  [("a", "ᅡㅏￂ"), ("a-o", "ᅶ"), ("a-u", "ᅷ"), ("ae", "ᅢㅐￃ"), ("aeu", "ᆣ"), ("b", "ᄇᅄᆸㅂﾲ"),
   ("bb", "ᄈㅃﾳ"), ("bbN", "ᄬㅹ"), ("bc", "ᄨ"), ("bch", "ퟩ"), ("bd", "ᄠㅳퟣ"), ("bg", "ᄞㅲ"),
   ("bh", "ꥴ"), ("bj", "ᄧㅶퟨ"), ("bk", "ꥳ"), ("bl", "ᇣ"), ("blp", "ퟤ"), ("bm", "ퟥ"), ("bN", "ᄫㅸ"),
   ("bn", "ᄟ"), ("bp", "ᄪᇤ"), ("bs", "ᄡᆹㅄﾴ"), ("bsb", "ᄤ"), ("bsd", "ퟧ"), ("bsg", "ᄢㅴ"),
   ("bsj", "ᄦ"), ("bss", "ᄥ"), ("bst", "ᄣㅵꥲ"), ("bt", "ᄩㅷ"), ("c", "ᄎᅉᆾㅊﾺ"), ("ch", "ᅓᅔᅕ"),
   ("ck", "ᅒ"), ("d", "ᄃᅂᆮㄷﾧ"), ("db", "ꥡퟏ"), ("dch", "ퟓ"), ("dd", "ᄄㄸﾨ"), ("dg", "ᄗᇊ"),
   ("dj", "ꥣퟒ"), ("dl", "ᅞ"), ("dm", "ꥠ"), ("ds", "ꥢퟐ"), ("dsg", "ퟑ"), ("dt", "ퟔ"), ("e", "ᅦㅔￇ"),
   ("eo", "ᅥㅓￆ"), ("eo-eu", "ᅼ"), ("eo-o", "ᅺ"), ("eo-u", "ᅻ"), ("eu", "ᅳㅡￚ"), ("eu-eu", "ᆖ"),
   ("eu-u", "ᆕ"), ("eua", "ힹ"), ("eue", "ힻ"), ("eueo", "ힺ"), ("euo", "ힼ"), ("g", "ᄀᅁᆨᇬㄱﾡ"),
   ("gb", "ᇻ"), ("gch", "ᇼ"), ("gd", "ᅚ"), ("gg", "ᄁᆩㄲﾢ"), ("gh", "ᇾ"), ("gk", "ᇽ"), ("gl", "ᇃ"),
   ("gn", "ᇺ"), ("gs", "ᆪㄳﾣ"), ("gsg", "ᇄ"), ("h", "ᄒᇂㅎꥷﾾ"), ("hb", "ᇸ"), ("hh", "ᅘㆅ"),
   ("hl", "ᇶ"), ("hm", "ᇷ"), ("hn", "ᇵ"), ("hs", "ꥻ"), ("i", "ᅵㅣￜ"), ("i-a", "ᆘ"), ("i-eu", "ᆜ"),
   ("i-o", "ᆚ"), ("i-U", "ᆝ"), ("i-u", "ᆛ"), ("i-ya", "ᆙ"), ("ii", "ퟄ"), ("ioi", "ퟁ"),
   ("iyae", "ힾ"), ("iyao", "ힽ"), ("iye", "ퟀ"), ("iyeo", "ힿ"), ("iyo", "ퟂ"), ("iyu", "ퟃ"),
   ("j", "ᄌᅈᅍᅎᅐᆽㅈﾸ"), ("jb", "ퟷ"), ("jj", "ᄍᅏᅑㅉퟹﾹ"), ("jjh", "ꥸ"), ("jpp", "ퟸ"), ("k", "ᄏᆿㅋﾻ"),
   ("kh", "ᇯ"), ("l", "ᆯꥶ"), ("lb", "ᆲㄼꥩﾬ"), ("lbd", "ퟙ"), ("lbh", "ᇔ"), ("lbp", "ퟚ"),
   ("lbs", "ᇓㅫ"), ("ld", "ᇎㅪꥦ"), ("lg", "ᆰㄺꥤﾪ"), ("lgh", "ퟖ"), ("lgs", "ᇌㅩ"), ("lh", "ᆶퟝ"),
   ("lj", "ꥭ"), ("lk", "ᇘꥮ"), ("lkk", "ꥥퟕ"), ("ll", "ᇐ"), ("llk", "ퟗ"), ("lm", "ᆱㄻꥨﾫ"),
   ("lmg", "ᇑ"), ("lmh", "ퟘ"), ("lms", "ᇒ"), ("ln", "ᇍ"), ("lng", "ퟛ"), ("lp", "ᆵㄿﾯ"),
   ("lpp", "ꥪ"), ("lQ", "ᇙㅭ"), ("lqh", "ퟜ"), ("ls", "ᆳㄽꥬﾭ"), ("lss", "ᇖ"), ("lt", "ᆴㄾﾮ"),
   ("lth", "ᇏ"), ("ltt", "ꥧ"), ("lv", "ꥫ"), ("lZ", "ᇗㅬ"), ("m", "ᄆᅃᆷㅁﾱ"), ("mb", "ᄜᇜㅮ"),
   ("mbs", "ퟡ"), ("mc", "ᇠ"), ("md", "ꥰ"), ("mg", "ᇚꥯ"), ("mh", "ᇡ"), ("mj", "ퟢ"), ("ml", "ᇛ"),
   ("mm", "ퟠ"), ("mN", "ᄝᇢㅱ"), ("mn", "ퟞ"), ("mnn", "ퟟ"), ("ms", "ᇝㅯꥱ"), ("mss", "ᇞ"),
   ("mZ", "ᇟㅰ"), ("N", "ᅌᇰㆁ"), ("n", "ᄂᆫㄴﾤ"), ("nb", "ᄖ"), ("nch", "ퟌ"), ("nd", "ᄕᇆㅦ"),
   ("ng", "ᄓᆼᇅ"), ("ngh", "ퟶ"), ("ngm", "ퟵ"), ("ngng", "ㆀ"), ("nh", "ᅝᆭㄶﾦ"), ("nj", "ᅜᆬㄵﾥ"),
   ("nl", "ퟋ"), ("NN", "ᇮ"), ("nn", "ᄔᇿㅥ"), ("Ns", "ᇱㆂ"), ("ns", "ᅛᇇㅧ"), ("nt", "ᇉ"),
   ("NZ", "ᇲㆃ"), ("nZ", "ᇈㅨ"), ("o", "ᅩㅗￌ"), ("o-e", "ᆀ"), ("o-eo", "ᅿ"), ("o-o", "ᆂ"),
   ("o-u", "ᆃ"), ("o-ye", "ᆁ"), ("oa", "ퟅ"), ("oe", "ᅬㅚퟆￏ"), ("ooi", "ힱ"), ("oya", "ᆦ"),
   ("oyae", "ᆧ"), ("oyeo", "ힰ"), ("p", "ᄑᅋᇁㅍﾽ"), ("pb", "ᅖᇳ"), ("ph", "ᇥꥺ"), ("pN", "ᅗᇦᇴㆄ"),
   ("pp", "ퟦ"), ("ps", "ퟺ"), ("pt", "ퟻ"), ("Q", "ᅙᇹㆆ"), ("qq", "ꥼ"), ("r", "ᄅㄹﾩ"), ("rh", "ᄚㅀﾰ"),
   ("rN", "ᄛ"), ("rn", "ᄘ"), ("rNp", "ᇕ"), ("rr", "ᄙ"), ("s", "ᄉᄵᄼᄾᅅᆺㅅﾵ"), ("sb", "ᄲᇪㅽ"),
   ("sbg", "ᄳ"), ("sc", "ᄷ"), ("sch", "ퟰ"), ("sd", "ᄯᇨㅼ"), ("sg", "ᄭᇧㅺ"), ("sh", "ᄻퟲ"),
   ("sj", "ᄶㅾퟯ"), ("sk", "ᄸ"), ("sl", "ᇩ"), ("sm", "ᄱퟪ"), ("sn", "ᄮㅻ"), ("sp", "ᄺ"), ("sr", "ᄰ"),
   ("ss", "ᄊᄽᄿᆻᇭㅆﾶ"), ("ssb", "ꥵ"), ("ssd", "ퟭ"), ("ssg", "ퟬ"), ("sss", "ᄴ"), ("st", "ᄹퟱ"),
   ("sv", "ퟫ"), ("sz", "ퟮ"), ("t", "ᄐᅊᇀㅌﾼ"), ("tl", "ᇋ"), ("tt", "ꥹퟍ"), ("ttb", "ퟎ"),
   ("U", "ᆞㆍ"), ("u", "ᅮㅜￓ"), ("u-a", "ᆉ"), ("u-ae", "ᆊ"), ("U-eo", "ᆟ"), ("u-eo-eu", "ᆋ"),
   ("U-i", "ᆡㆎ"), ("U-u", "ᆠ"), ("u-u", "ᆍ"), ("u-ye", "ᆌ"), ("uii", "ힶ"), ("UU", "ᆢ"),
   ("uyeo", "ힵ"), ("wa", "ᅪㅘￍ"), ("wae", "ᅫㅙￎ"), ("we", "ᅰㅞￕ"), ("weo", "ᅯㅝￔ"), ("wi", "ᅱㅟￖ"),
   ("ya", "ᅣㅑￄ"), ("ya-o", "ᅸ"), ("ya-yo", "ᅹ"), ("yae", "ᅤㅒￅ"), ("yau", "ᆤ"), ("ye", "ᅨㅖￋ"),
   ("yeo", "ᅧㅕￊ"), ("yeo-o", "ᅽ"), ("yeo-u", "ᅾ"), ("yeoya", "ᆥ"), ("yi", "ᅴㅢￛ"), ("yi-u", "ᆗ"),
   ("yo", "ᅭㅛￒ"), ("yo-i", "ᆈㆉ"), ("yo-o", "ᆇ"), ("yo-ya", "ᆄㆇ"), ("yo-yae", "ᆅㆈ"),
   ("yo-yeo", "ᆆ"), ("yoa", "ힲ"), ("yoae", "ힳ"), ("yoeo", "ힴ"), ("yu", "ᅲㅠￗ"), ("yu-a", "ᆎ"),
   ("yu-e", "ᆐ"), ("yu-eo", "ᆏ"), ("yu-i", "ᆔㆌ"), ("yu-u", "ᆓ"), ("yu-ye", "ᆒㆋ"),
   ("yu-yeo", "ᆑㆊ"), ("yuae", "ힷ"), ("yuo", "ힸ"), ("Z", "ᅀᅆᇫㅿ"), ("zb", "ퟳ"), ("zv", "ퟴ")]

end AtomicCss.Text
