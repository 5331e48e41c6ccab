/-!
# Yi syllables

ASCII spellings of the syllables of Yi and of the parts that its syllables are sorted by. The
last letter of a syllable tells its tone.
-/

set_option autoImplicit false

namespace AtomicCss.Text

/-- The spellings with the characters that have them. -/
def yiSpellings : List (String × String) :=
  [("a", "ꀊ"), ("ap", "ꀋ"), ("at", "ꀈ"), ("ax", "ꀉ"), ("ba", "ꀠ"), ("bap", "ꀡ"), ("bat", "ꀞ"),
   ("bax", "ꀟ"), ("bba", "ꁠ"), ("bbap", "ꁡ"), ("bbat", "ꁞ"), ("bbax", "ꁟ"), ("bbe", "ꁪ"),
   ("bbep", "ꁫ"), ("bbex", "ꁩ"), ("bbi", "ꁘ"), ("bbie", "ꁜ"), ("bbiep", "ꁝ"), ("bbiet", "ꁚ"),
   ("bbiex", "ꁛ"), ("bbip", "ꁙ"), ("bbit", "ꁖ"), ("bbix", "ꁗ"), ("bbo", "ꁧ"), ("bbop", "ꁨ"),
   ("bbot", "ꁥ"), ("bbox", "ꁦ"), ("bbu", "ꁮ"), ("bbuo", "ꁣ"), ("bbuop", "ꁤ"), ("bbuox", "ꁢ"),
   ("bbup", "ꁯ"), ("bbur", "ꁱ"), ("bburx", "ꁰ"), ("Bbut", "꒛"), ("bbut", "ꁬ"), ("bbux", "ꁭ"),
   ("bby", "ꁴ"), ("bbyp", "ꁵ"), ("bbyt", "ꁲ"), ("bbyx", "ꁳ"), ("be", "ꀪ"), ("bep", "ꀫ"),
   ("bex", "ꀩ"), ("bi", "ꀘ"), ("bie", "ꀜ"), ("biep", "ꀝ"), ("biet", "ꀚ"), ("biex", "ꀛ"),
   ("bip", "ꀙ"), ("bit", "ꀖ"), ("bix", "ꀗ"), ("bo", "ꀧ"), ("bop", "ꀨ"), ("bot", "ꀥ"),
   ("box", "ꀦ"), ("bu", "ꀮ"), ("buo", "ꀣ"), ("buop", "ꀤ"), ("buox", "ꀢ"), ("bup", "ꀯ"),
   ("Bur", "꒥"), ("bur", "ꀱ"), ("burx", "ꀰ"), ("but", "ꀬ"), ("bux", "ꀭ"), ("by", "ꀴ"),
   ("byp", "ꀵ"), ("byr", "ꀷ"), ("byrx", "ꀶ"), ("byt", "ꀲ"), ("byx", "ꀳ"), ("ca", "ꊸ"),
   ("cap", "ꊹ"), ("cat", "ꊶ"), ("cax", "ꊷ"), ("ce", "ꋂ"), ("cep", "ꋃ"), ("cex", "ꋁ"),
   ("cha", "ꍣ"), ("chap", "ꍤ"), ("chat", "ꍡ"), ("chax", "ꍢ"), ("Che", "꓃"), ("che", "ꍯ"),
   ("chep", "ꍰ"), ("chet", "ꍭ"), ("chex", "ꍮ"), ("cho", "ꍫ"), ("chop", "ꍬ"), ("chot", "ꍩ"),
   ("chox", "ꍪ"), ("chu", "ꍲ"), ("chuo", "ꍧ"), ("chuop", "ꍨ"), ("chuot", "ꍥ"), ("chuox", "ꍦ"),
   ("chup", "ꍳ"), ("chur", "ꍵ"), ("churx", "ꍴ"), ("chux", "ꍱ"), ("chy", "ꍸ"), ("chyp", "ꍹ"),
   ("chyr", "ꍻ"), ("chyrx", "ꍺ"), ("chyt", "ꍶ"), ("chyx", "ꍷ"), ("ci", "ꊰ"), ("cie", "ꊴ"),
   ("ciep", "ꊵ"), ("ciet", "ꊲ"), ("ciex", "ꊳ"), ("Cip", "꒾"), ("cip", "ꊱ"), ("cit", "ꊮ"),
   ("cix", "ꊯ"), ("co", "ꊿ"), ("cop", "ꋀ"), ("cot", "ꊽ"), ("cox", "ꊾ"), ("cu", "ꋆ"),
   ("cuo", "ꊻ"), ("Cuop", "꒽"), ("cuop", "ꊼ"), ("cuox", "ꊺ"), ("cup", "ꋇ"), ("cur", "ꋉ"),
   ("curx", "ꋈ"), ("cut", "ꋄ"), ("cux", "ꋅ"), ("Cy", "꒼"), ("cy", "ꋌ"), ("Cyp", "꒔"),
   ("cyp", "ꋍ"), ("cyr", "ꋏ"), ("cyrx", "ꋎ"), ("Cyt", "꒣"), ("cyt", "ꋊ"), ("cyx", "ꋋ"),
   ("da", "ꄉ"), ("dap", "ꄊ"), ("dat", "ꄇ"), ("dax", "ꄈ"), ("dda", "ꄿ"), ("ddap", "ꅀ"),
   ("ddat", "ꄽ"), ("ddax", "ꄾ"), ("dde", "ꅉ"), ("ddep", "ꅊ"), ("ddex", "ꅈ"), ("ddi", "ꄸ"),
   ("ddie", "ꄻ"), ("ddiep", "ꄼ"), ("ddiex", "ꄺ"), ("ddip", "ꄹ"), ("ddit", "ꄶ"), ("ddix", "ꄷ"),
   ("ddo", "ꅆ"), ("ddop", "ꅇ"), ("ddot", "ꅄ"), ("ddox", "ꅅ"), ("ddu", "ꅍ"), ("dduo", "ꅂ"),
   ("dduop", "ꅃ"), ("dduox", "ꅁ"), ("ddup", "ꅎ"), ("Ddur", "꒤"), ("ddur", "ꅐ"), ("ddurx", "ꅏ"),
   ("ddut", "ꅋ"), ("ddux", "ꅌ"), ("de", "ꄒ"), ("dep", "ꄓ"), ("dex", "ꄑ"), ("di", "ꄂ"),
   ("die", "ꄅ"), ("diep", "ꄆ"), ("diex", "ꄄ"), ("dip", "ꄃ"), ("dit", "ꄀ"), ("dix", "ꄁ"),
   ("do", "ꄏ"), ("dop", "ꄐ"), ("dot", "ꄍ"), ("dox", "ꄎ"), ("Du", "꒹"), ("du", "ꄖ"), ("duo", "ꄌ"),
   ("duox", "ꄋ"), ("dup", "ꄗ"), ("dur", "ꄙ"), ("durx", "ꄘ"), ("dut", "ꄔ"), ("dux", "ꄕ"),
   ("e", "ꀔ"), ("ex", "ꀓ"), ("fa", "ꃓ"), ("fap", "ꃔ"), ("fat", "ꃑ"), ("fax", "ꃒ"), ("fi", "ꃏ"),
   ("fip", "ꃐ"), ("fit", "ꃍ"), ("fix", "ꃎ"), ("fo", "ꃖ"), ("fop", "ꃗ"), ("fox", "ꃕ"),
   ("fu", "ꃚ"), ("fup", "ꃛ"), ("fur", "ꃝ"), ("furx", "ꃜ"), ("fut", "ꃘ"), ("fux", "ꃙ"),
   ("fy", "ꃠ"), ("fyp", "ꃡ"), ("fyt", "ꃞ"), ("fyx", "ꃟ"), ("Ga", "꒡"), ("ga", "ꇤ"), ("gap", "ꇥ"),
   ("gat", "ꇢ"), ("gax", "ꇣ"), ("ge", "ꇰ"), ("Gep", "꒗"), ("gep", "ꇱ"), ("get", "ꇮ"),
   ("gex", "ꇯ"), ("gga", "ꈜ"), ("ggap", "ꈝ"), ("ggat", "ꈚ"), ("ggax", "ꈛ"), ("gge", "ꈨ"),
   ("ggep", "ꈩ"), ("gget", "ꈦ"), ("ggex", "ꈧ"), ("ggi", "ꈖ"), ("ggie", "ꈘ"), ("ggiep", "ꈙ"),
   ("ggiex", "ꈗ"), ("ggit", "ꈔ"), ("ggix", "ꈕ"), ("ggo", "ꈤ"), ("Ggop", "꒖"), ("ggop", "ꈥ"),
   ("ggot", "ꈢ"), ("ggox", "ꈣ"), ("ggu", "ꈬ"), ("Gguo", "꒦"), ("gguo", "ꈠ"), ("gguop", "ꈡ"),
   ("gguot", "ꈞ"), ("gguox", "ꈟ"), ("ggup", "ꈭ"), ("ggur", "ꈯ"), ("ggurx", "ꈮ"), ("ggut", "ꈪ"),
   ("ggux", "ꈫ"), ("gi", "ꇜ"), ("gie", "ꇠ"), ("giep", "ꇡ"), ("giet", "ꇞ"), ("giex", "ꇟ"),
   ("gip", "ꇝ"), ("git", "ꇚ"), ("gix", "ꇛ"), ("go", "ꇬ"), ("gop", "ꇭ"), ("Got", "꒶"),
   ("got", "ꇪ"), ("gox", "ꇫ"), ("gu", "ꇴ"), ("guo", "ꇨ"), ("guop", "ꇩ"), ("guot", "ꇦ"),
   ("guox", "ꇧ"), ("gup", "ꇵ"), ("gur", "ꇷ"), ("gurx", "ꇶ"), ("gut", "ꇲ"), ("gux", "ꇳ"),
   ("ha", "ꉳ"), ("hap", "ꉴ"), ("hat", "ꉱ"), ("hax", "ꉲ"), ("he", "ꉾ"), ("hep", "ꉿ"),
   ("hex", "ꉽ"), ("hie", "ꉰ"), ("hiex", "ꉯ"), ("hit", "ꉮ"), ("hla", "ꆠ"), ("hlap", "ꆡ"),
   ("hlat", "ꆞ"), ("hlax", "ꆟ"), ("hle", "ꆩ"), ("hlep", "ꆪ"), ("hlex", "ꆨ"), ("hli", "ꆙ"),
   ("hlie", "ꆜ"), ("hliep", "ꆝ"), ("hliex", "ꆛ"), ("hlip", "ꆚ"), ("hlit", "ꆗ"), ("hlix", "ꆘ"),
   ("hlo", "ꆦ"), ("hlop", "ꆧ"), ("hlox", "ꆥ"), ("hlu", "ꆭ"), ("hluo", "ꆣ"), ("hluop", "ꆤ"),
   ("hluox", "ꆢ"), ("hlup", "ꆮ"), ("hlur", "ꆰ"), ("hlurx", "ꆯ"), ("hlut", "ꆫ"), ("hlux", "ꆬ"),
   ("hly", "ꆳ"), ("hlyp", "ꆴ"), ("hlyr", "ꆶ"), ("hlyrx", "ꆵ"), ("hlyt", "ꆱ"), ("hlyx", "ꆲ"),
   ("hma", "ꂚ"), ("hmap", "ꂛ"), ("hmat", "ꂘ"), ("hmax", "ꂙ"), ("hmi", "ꂓ"), ("hmie", "ꂖ"),
   ("hmiep", "ꂗ"), ("hmiex", "ꂕ"), ("hmip", "ꂔ"), ("hmit", "ꂑ"), ("hmix", "ꂒ"), ("Hmo", "꒭"),
   ("hmo", "ꂡ"), ("hmop", "ꂢ"), ("hmot", "ꂟ"), ("hmox", "ꂠ"), ("hmu", "ꂥ"), ("hmuo", "ꂝ"),
   ("hmuop", "ꂞ"), ("hmuox", "ꂜ"), ("hmup", "ꂦ"), ("hmur", "ꂨ"), ("hmurx", "ꂧ"), ("hmut", "ꂣ"),
   ("hmux", "ꂤ"), ("hmy", "ꂪ"), ("hmyp", "ꂫ"), ("hmyr", "ꂭ"), ("hmyrx", "ꂬ"), ("hmyx", "ꂩ"),
   ("hna", "ꅲ"), ("hnap", "ꅳ"), ("hnat", "ꅰ"), ("hnax", "ꅱ"), ("hne", "ꅺ"), ("hnep", "ꅻ"),
   ("hnex", "ꅹ"), ("hni", "ꅪ"), ("hnie", "ꅮ"), ("hniep", "ꅯ"), ("hniet", "ꅬ"), ("hniex", "ꅭ"),
   ("hnip", "ꅫ"), ("hnit", "ꅨ"), ("hnix", "ꅩ"), ("hnop", "ꅸ"), ("hnot", "ꅶ"), ("hnox", "ꅷ"),
   ("hnuo", "ꅵ"), ("hnuox", "ꅴ"), ("hnut", "ꅼ"), ("ho", "ꉻ"), ("hop", "ꉼ"), ("hot", "ꉹ"),
   ("hox", "ꉺ"), ("huo", "ꉷ"), ("huop", "ꉸ"), ("huot", "ꉵ"), ("huox", "ꉶ"), ("hxa", "ꉐ"),
   ("hxap", "ꉑ"), ("hxat", "ꉎ"), ("hxax", "ꉏ"), ("hxe", "ꉛ"), ("hxep", "ꉜ"), ("hxex", "ꉚ"),
   ("hxi", "ꉈ"), ("hxie", "ꉌ"), ("hxiep", "ꉍ"), ("hxiet", "ꉊ"), ("hxiex", "ꉋ"), ("hxip", "ꉉ"),
   ("Hxit", "꒙"), ("hxit", "ꉆ"), ("hxix", "ꉇ"), ("hxo", "ꉘ"), ("Hxop", "꒿"), ("hxop", "ꉙ"),
   ("hxot", "ꉖ"), ("hxox", "ꉗ"), ("Hxuo", "꒟"), ("hxuo", "ꉔ"), ("hxuop", "ꉕ"), ("hxuot", "ꉒ"),
   ("hxuox", "ꉓ"), ("i", "ꀂ"), ("ie", "ꀆ"), ("iep", "ꀇ"), ("iet", "ꀄ"), ("iex", "ꀅ"),
   ("ip", "ꀃ"), ("it", "ꀀ"), ("ix", "ꀁ"), ("ji", "ꏢ"), ("jie", "ꏦ"), ("jiep", "ꏧ"),
   ("jiet", "ꏤ"), ("jiex", "ꏥ"), ("jip", "ꏣ"), ("jit", "ꏠ"), ("jix", "ꏡ"), ("jji", "ꐚ"),
   ("Jjie", "꒷"), ("jjie", "ꐞ"), ("jjiep", "ꐟ"), ("jjiet", "ꐜ"), ("jjiex", "ꐝ"), ("jjip", "ꐛ"),
   ("jjit", "ꐘ"), ("jjix", "ꐙ"), ("jjo", "ꐥ"), ("jjop", "ꐦ"), ("jjot", "ꐣ"), ("jjox", "ꐤ"),
   ("jju", "ꐩ"), ("jjuo", "ꐡ"), ("jjuop", "ꐢ"), ("jjuox", "ꐠ"), ("jjup", "ꐪ"), ("jjur", "ꐬ"),
   ("jjurx", "ꐫ"), ("Jjut", "꒪"), ("jjut", "ꐧ"), ("jjux", "ꐨ"), ("Jjy", "꒵"), ("jjy", "ꐯ"),
   ("jjyp", "ꐰ"), ("jjyt", "ꐭ"), ("jjyx", "ꐮ"), ("Jo", "꒳"), ("jo", "ꏮ"), ("jop", "ꏯ"),
   ("jot", "ꏬ"), ("jox", "ꏭ"), ("ju", "ꏲ"), ("juo", "ꏪ"), ("juop", "ꏫ"), ("juot", "ꏨ"),
   ("juox", "ꏩ"), ("jup", "ꏳ"), ("jur", "ꏵ"), ("jurx", "ꏴ"), ("jut", "ꏰ"), ("jux", "ꏱ"),
   ("jy", "ꏸ"), ("jyp", "ꏹ"), ("jyr", "ꏻ"), ("jyrx", "ꏺ"), ("jyt", "ꏶ"), ("jyx", "ꏷ"),
   ("ka", "ꈁ"), ("kap", "ꈂ"), ("kat", "ꇿ"), ("kax", "ꈀ"), ("Ke", "꓆"), ("ke", "ꈌ"), ("kep", "ꈍ"),
   ("ket", "ꈊ"), ("kex", "ꈋ"), ("ki", "ꇺ"), ("kie", "ꇽ"), ("kiep", "ꇾ"), ("kiex", "ꇼ"),
   ("kip", "ꇻ"), ("Kit", "꒒"), ("kit", "ꇸ"), ("kix", "ꇹ"), ("ko", "ꈈ"), ("kop", "ꈉ"),
   ("kot", "ꈆ"), ("kox", "ꈇ"), ("ku", "ꈐ"), ("kuo", "ꈄ"), ("kuop", "ꈅ"), ("kuox", "ꈃ"),
   ("kup", "ꈑ"), ("kur", "ꈓ"), ("kurx", "ꈒ"), ("kut", "ꈎ"), ("kux", "ꈏ"), ("la", "ꇁ"),
   ("lap", "ꇂ"), ("lat", "ꆿ"), ("lax", "ꇀ"), ("le", "ꇌ"), ("lep", "ꇍ"), ("lex", "ꇋ"),
   ("Li", "꒑"), ("li", "ꆹ"), ("Lie", "꒻"), ("lie", "ꆽ"), ("liep", "ꆾ"), ("liet", "ꆻ"),
   ("liex", "ꆼ"), ("lip", "ꆺ"), ("lit", "ꆷ"), ("lix", "ꆸ"), ("lo", "ꇉ"), ("lop", "ꇊ"),
   ("lot", "ꇇ"), ("lox", "ꇈ"), ("lu", "ꇐ"), ("luo", "ꇅ"), ("luop", "ꇆ"), ("luot", "ꇃ"),
   ("luox", "ꇄ"), ("lup", "ꇑ"), ("lur", "ꇓ"), ("lurx", "ꇒ"), ("lut", "ꇎ"), ("lux", "ꇏ"),
   ("ly", "ꇖ"), ("lyp", "ꇗ"), ("Lyr", "꒚"), ("lyr", "ꇙ"), ("lyrx", "ꇘ"), ("lyt", "ꇔ"),
   ("lyx", "ꇕ"), ("ma", "ꂷ"), ("map", "ꂸ"), ("mat", "ꂵ"), ("max", "ꂶ"), ("me", "ꃂ"),
   ("mex", "ꃁ"), ("mga", "ꈴ"), ("mgap", "ꈵ"), ("mgat", "ꈲ"), ("mgax", "ꈳ"), ("mge", "ꈾ"),
   ("mgep", "ꈿ"), ("mgex", "ꈽ"), ("mgie", "ꈱ"), ("mgiex", "ꈰ"), ("mgo", "ꈻ"), ("mgop", "ꈼ"),
   ("mgot", "ꈹ"), ("mgox", "ꈺ"), ("mgu", "ꉂ"), ("mguo", "ꈷ"), ("mguop", "ꈸ"), ("mguox", "ꈶ"),
   ("mgup", "ꉃ"), ("mgur", "ꉅ"), ("mgurx", "ꉄ"), ("mgut", "ꉀ"), ("mgux", "ꉁ"), ("Mi", "꒘"),
   ("mi", "ꂰ"), ("mie", "ꂳ"), ("miep", "ꂴ"), ("miex", "ꂲ"), ("mip", "ꂱ"), ("mit", "ꂮ"),
   ("mix", "ꂯ"), ("mo", "ꂿ"), ("Mop", "꒜"), ("mop", "ꃀ"), ("mot", "ꂽ"), ("mox", "ꂾ"),
   ("mu", "ꃅ"), ("muo", "ꂻ"), ("muop", "ꂼ"), ("muot", "ꂹ"), ("muox", "ꂺ"), ("mup", "ꃆ"),
   ("mur", "ꃈ"), ("murx", "ꃇ"), ("mut", "ꃃ"), ("mux", "ꃄ"), ("my", "ꃋ"), ("myp", "ꃌ"),
   ("myt", "ꃉ"), ("myx", "ꃊ"), ("na", "ꆅ"), ("nap", "ꆆ"), ("nax", "ꆄ"), ("nba", "ꁿ"),
   ("nbap", "ꂀ"), ("nbat", "ꁽ"), ("nbax", "ꁾ"), ("nbi", "ꁸ"), ("NBIE", "꓅"), ("nbie", "ꁻ"),
   ("nbiep", "ꁼ"), ("nbiex", "ꁺ"), ("nbip", "ꁹ"), ("nbit", "ꁶ"), ("nbix", "ꁷ"), ("nbo", "ꂃ"),
   ("nbop", "ꂄ"), ("nbot", "ꂁ"), ("nbox", "ꂂ"), ("nbu", "ꂇ"), ("nbup", "ꂈ"), ("nbur", "ꂊ"),
   ("nburx", "ꂉ"), ("nbut", "ꂅ"), ("nbux", "ꂆ"), ("nby", "ꂍ"), ("nbyp", "ꂎ"), ("nbyr", "ꂐ"),
   ("nbyrx", "ꂏ"), ("nbyt", "ꂋ"), ("nbyx", "ꂌ"), ("nda", "ꅙ"), ("ndap", "ꅚ"), ("ndat", "ꅗ"),
   ("ndax", "ꅘ"), ("nde", "ꅠ"), ("ndep", "ꅡ"), ("ndex", "ꅟ"), ("ndi", "ꅓ"), ("ndie", "ꅖ"),
   ("ndiex", "ꅕ"), ("ndip", "ꅔ"), ("ndit", "ꅑ"), ("ndix", "ꅒ"), ("ndo", "ꅝ"), ("ndop", "ꅞ"),
   ("ndot", "ꅛ"), ("ndox", "ꅜ"), ("ndu", "ꅤ"), ("ndup", "ꅥ"), ("ndur", "ꅧ"), ("ndurx", "ꅦ"),
   ("ndut", "ꅢ"), ("ndux", "ꅣ"), ("ne", "ꆏ"), ("nep", "ꆐ"), ("nex", "ꆎ"), ("nga", "ꉢ"),
   ("ngap", "ꉣ"), ("ngat", "ꉠ"), ("ngax", "ꉡ"), ("nge", "ꉬ"), ("ngep", "ꉭ"), ("ngex", "ꉫ"),
   ("ngie", "ꉞ"), ("ngiep", "ꉟ"), ("ngiex", "ꉝ"), ("ngo", "ꉩ"), ("ngop", "ꉪ"), ("ngot", "ꉧ"),
   ("ngox", "ꉨ"), ("nguo", "ꉦ"), ("nguot", "ꉤ"), ("nguox", "ꉥ"), ("ni", "ꅿ"), ("nie", "ꆂ"),
   ("niep", "ꆃ"), ("niex", "ꆁ"), ("nip", "ꆀ"), ("nit", "ꅽ"), ("nix", "ꅾ"), ("nji", "ꐳ"),
   ("njie", "ꐷ"), ("njiep", "ꐸ"), ("njiet", "ꐵ"), ("njiex", "ꐶ"), ("njip", "ꐴ"), ("njit", "ꐱ"),
   ("njix", "ꐲ"), ("njo", "ꐽ"), ("njop", "ꐾ"), ("njot", "ꐻ"), ("njox", "ꐼ"), ("nju", "ꑀ"),
   ("njuo", "ꐺ"), ("njuox", "ꐹ"), ("njup", "ꑁ"), ("njur", "ꑃ"), ("njurx", "ꑂ"), ("njux", "ꐿ"),
   ("njy", "ꑆ"), ("njyp", "ꑇ"), ("njyr", "ꑉ"), ("njyrx", "ꑈ"), ("njyt", "ꑄ"), ("njyx", "ꑅ"),
   ("no", "ꆌ"), ("nop", "ꆍ"), ("not", "ꆊ"), ("nox", "ꆋ"), ("nra", "ꎖ"), ("nrap", "ꎗ"),
   ("nrat", "ꎔ"), ("nrax", "ꎕ"), ("nre", "ꎝ"), ("nrep", "ꎞ"), ("nret", "ꎛ"), ("nrex", "ꎜ"),
   ("nro", "ꎙ"), ("nrop", "ꎚ"), ("nrox", "ꎘ"), ("nru", "ꎡ"), ("nrup", "ꎢ"), ("nrur", "ꎤ"),
   ("nrurx", "ꎣ"), ("nrut", "ꎟ"), ("nrux", "ꎠ"), ("nry", "ꎧ"), ("nryp", "ꎨ"), ("nryr", "ꎪ"),
   ("nryrx", "ꎩ"), ("nryt", "ꎥ"), ("nryx", "ꎦ"), ("nu", "ꆓ"), ("nuo", "ꆈ"), ("nuop", "ꆉ"),
   ("nuox", "ꆇ"), ("nup", "ꆔ"), ("nur", "ꆖ"), ("nurx", "ꆕ"), ("nut", "ꆑ"), ("nux", "ꆒ"),
   ("nyi", "ꑌ"), ("nyie", "ꑐ"), ("nyiep", "ꑑ"), ("nyiet", "ꑎ"), ("nyiex", "ꑏ"), ("Nyip", "꒓"),
   ("nyip", "ꑍ"), ("nyit", "ꑊ"), ("nyix", "ꑋ"), ("nyo", "ꑗ"), ("Nyop", "꒧"), ("nyop", "ꑘ"),
   ("nyot", "ꑕ"), ("nyox", "ꑖ"), ("nyu", "ꑛ"), ("nyuo", "ꑓ"), ("nyuop", "ꑔ"), ("nyuox", "ꑒ"),
   ("nyup", "ꑜ"), ("nyut", "ꑙ"), ("nyux", "ꑚ"), ("nza", "ꋶ"), ("nzap", "ꋷ"), ("nzat", "ꋴ"),
   ("nzax", "ꋵ"), ("nze", "ꋽ"), ("nzex", "ꋼ"), ("nzi", "ꋯ"), ("nzie", "ꋲ"), ("nziep", "ꋳ"),
   ("nziex", "ꋱ"), ("nzip", "ꋰ"), ("nzit", "ꋭ"), ("nzix", "ꋮ"), ("nzop", "ꋻ"), ("nzox", "ꋺ"),
   ("nzu", "ꋿ"), ("nzuo", "ꋹ"), ("nzuox", "ꋸ"), ("Nzup", "꒴"), ("nzup", "ꌀ"), ("nzur", "ꌂ"),
   ("nzurx", "ꌁ"), ("nzux", "ꋾ"), ("nzy", "ꌅ"), ("nzyp", "ꌆ"), ("nzyr", "ꌈ"), ("nzyrx", "ꌇ"),
   ("nzyt", "ꌃ"), ("nzyx", "ꌄ"), ("o", "ꀑ"), ("Op", "꒩"), ("op", "ꀒ"), ("ot", "ꀏ"), ("ox", "ꀐ"),
   ("pa", "ꁁ"), ("pap", "ꁂ"), ("pat", "ꀿ"), ("pax", "ꁀ"), ("pi", "ꀺ"), ("pie", "ꀽ"),
   ("piep", "ꀾ"), ("piex", "ꀼ"), ("pip", "ꀻ"), ("pit", "ꀸ"), ("pix", "ꀹ"), ("po", "ꁈ"),
   ("pop", "ꁉ"), ("pot", "ꁆ"), ("pox", "ꁇ"), ("pu", "ꁌ"), ("puo", "ꁄ"), ("puop", "ꁅ"),
   ("puox", "ꁃ"), ("pup", "ꁍ"), ("pur", "ꁏ"), ("purx", "ꁎ"), ("Put", "꒞"), ("put", "ꁊ"),
   ("pux", "ꁋ"), ("py", "ꁒ"), ("pyp", "ꁓ"), ("pyr", "ꁕ"), ("pyrx", "ꁔ"), ("Pyt", "꒬"),
   ("pyt", "ꁐ"), ("pyx", "ꁑ"), ("qi", "ꏾ"), ("qie", "ꐂ"), ("qiep", "ꐃ"), ("qiet", "ꐀ"),
   ("qiex", "ꐁ"), ("qip", "ꏿ"), ("qit", "ꏼ"), ("qix", "ꏽ"), ("qo", "ꐊ"), ("qop", "ꐋ"),
   ("Qot", "꒐"), ("qot", "ꐈ"), ("qox", "ꐉ"), ("qu", "ꐎ"), ("quo", "ꐆ"), ("quop", "ꐇ"),
   ("quot", "ꐄ"), ("quox", "ꐅ"), ("qup", "ꐏ"), ("qur", "ꐑ"), ("qurx", "ꐐ"), ("qut", "ꐌ"),
   ("qux", "ꐍ"), ("qy", "ꐔ"), ("qyp", "ꐕ"), ("qyr", "ꐗ"), ("qyrx", "ꐖ"), ("qyt", "ꐒ"),
   ("qyx", "ꐓ"), ("ra", "ꏈ"), ("rap", "ꏉ"), ("rat", "ꏆ"), ("rax", "ꏇ"), ("re", "ꏒ"),
   ("rep", "ꏓ"), ("rex", "ꏑ"), ("ro", "ꏏ"), ("rop", "ꏐ"), ("rot", "ꏍ"), ("rox", "ꏎ"),
   ("rra", "ꍽ"), ("rrax", "ꍼ"), ("rre", "ꎆ"), ("rrep", "ꎇ"), ("rret", "ꎄ"), ("rrex", "ꎅ"),
   ("rro", "ꎂ"), ("rrop", "ꎃ"), ("rrot", "ꎀ"), ("rrox", "ꎁ"), ("rru", "ꎊ"), ("rruo", "ꍿ"),
   ("rruox", "ꍾ"), ("rrup", "ꎋ"), ("rrur", "ꎍ"), ("rrurx", "ꎌ"), ("rrut", "ꎈ"), ("rrux", "ꎉ"),
   ("rry", "ꎐ"), ("rryp", "ꎑ"), ("rryr", "ꎓ"), ("rryrx", "ꎒ"), ("rryt", "ꎎ"), ("rryx", "ꎏ"),
   ("ru", "ꏖ"), ("ruo", "ꏋ"), ("ruop", "ꏌ"), ("ruox", "ꏊ"), ("rup", "ꏗ"), ("rur", "ꏙ"),
   ("rurx", "ꏘ"), ("rut", "ꏔ"), ("rux", "ꏕ"), ("ry", "ꏜ"), ("ryp", "ꏝ"), ("ryr", "ꏟ"),
   ("ryrx", "ꏞ"), ("ryt", "ꏚ"), ("ryx", "ꏛ"), ("sa", "ꌒ"), ("sap", "ꌓ"), ("sat", "ꌐ"),
   ("sax", "ꌑ"), ("se", "ꌜ"), ("sep", "ꌝ"), ("sex", "ꌛ"), ("sha", "ꎭ"), ("shap", "ꎮ"),
   ("Shat", "꓀"), ("shat", "ꎫ"), ("shax", "ꎬ"), ("she", "ꎸ"), ("shep", "ꎹ"), ("shet", "ꎶ"),
   ("shex", "ꎷ"), ("sho", "ꎴ"), ("Shop", "꓂"), ("shop", "ꎵ"), ("shot", "ꎲ"), ("shox", "ꎳ"),
   ("shu", "ꎼ"), ("shuo", "ꎰ"), ("shuop", "ꎱ"), ("shuox", "ꎯ"), ("shup", "ꎽ"), ("Shur", "꒺"),
   ("shur", "ꎿ"), ("shurx", "ꎾ"), ("shut", "ꎺ"), ("shux", "ꎻ"), ("Shy", "꒰"), ("shy", "ꏂ"),
   ("shyp", "ꏃ"), ("shyr", "ꏅ"), ("shyrx", "ꏄ"), ("shyt", "ꏀ"), ("shyx", "ꏁ"), ("si", "ꌋ"),
   ("sie", "ꌎ"), ("siep", "ꌏ"), ("siex", "ꌍ"), ("sip", "ꌌ"), ("sit", "ꌉ"), ("six", "ꌊ"),
   ("so", "ꌙ"), ("sop", "ꌚ"), ("sot", "ꌗ"), ("sox", "ꌘ"), ("ssa", "ꌳ"), ("ssap", "ꌴ"),
   ("ssat", "ꌱ"), ("ssax", "ꌲ"), ("sse", "ꌺ"), ("ssep", "ꌻ"), ("ssex", "ꌹ"), ("Ssi", "꒕"),
   ("ssi", "ꌬ"), ("ssie", "ꌯ"), ("ssiep", "ꌰ"), ("ssiex", "ꌮ"), ("ssip", "ꌭ"), ("ssit", "ꌪ"),
   ("ssix", "ꌫ"), ("sso", "ꌷ"), ("ssop", "ꌸ"), ("ssot", "ꌵ"), ("ssox", "ꌶ"), ("ssu", "ꌾ"),
   ("ssup", "ꌿ"), ("ssut", "ꌼ"), ("ssux", "ꌽ"), ("ssy", "ꍂ"), ("ssyp", "ꍃ"), ("ssyr", "ꍅ"),
   ("ssyrx", "ꍄ"), ("ssyt", "ꍀ"), ("ssyx", "ꍁ"), ("su", "ꌠ"), ("suo", "ꌕ"), ("suop", "ꌖ"),
   ("suox", "ꌔ"), ("sup", "ꌡ"), ("sur", "ꌣ"), ("surx", "ꌢ"), ("sut", "ꌞ"), ("sux", "ꌟ"),
   ("sy", "ꌦ"), ("syp", "ꌧ"), ("syr", "ꌩ"), ("syrx", "ꌨ"), ("syt", "ꌤ"), ("syx", "ꌥ"),
   ("ta", "ꄣ"), ("tap", "ꄤ"), ("Tat", "꒠"), ("tat", "ꄡ"), ("tax", "ꄢ"), ("te", "ꄮ"),
   ("tep", "ꄯ"), ("tex", "ꄭ"), ("ti", "ꄜ"), ("tie", "ꄟ"), ("tiep", "ꄠ"), ("tiex", "ꄞ"),
   ("tip", "ꄝ"), ("tit", "ꄚ"), ("tix", "ꄛ"), ("to", "ꄫ"), ("top", "ꄬ"), ("tot", "ꄩ"),
   ("tox", "ꄪ"), ("Tu", "꒨"), ("tu", "ꄲ"), ("tuo", "ꄧ"), ("tuop", "ꄨ"), ("tuot", "ꄥ"),
   ("tuox", "ꄦ"), ("tup", "ꄳ"), ("tur", "ꄵ"), ("turx", "ꄴ"), ("tut", "ꄰ"), ("tux", "ꄱ"),
   ("uo", "ꀍ"), ("uop", "ꀎ"), ("uox", "ꀌ"), ("va", "ꃬ"), ("vap", "ꃭ"), ("vat", "ꃪ"),
   ("vax", "ꃫ"), ("Vep", "꒱"), ("vep", "ꃳ"), ("vex", "ꃲ"), ("vi", "ꃤ"), ("vie", "ꃨ"),
   ("viep", "ꃩ"), ("viet", "ꃦ"), ("viex", "ꃧ"), ("vip", "ꃥ"), ("vit", "ꃢ"), ("vix", "ꃣ"),
   ("vo", "ꃰ"), ("vop", "ꃱ"), ("vot", "ꃮ"), ("vox", "ꃯ"), ("vu", "ꃶ"), ("vup", "ꃷ"),
   ("Vur", "꒯"), ("vur", "ꃹ"), ("vurx", "ꃸ"), ("vut", "ꃴ"), ("vux", "ꃵ"), ("vy", "ꃼ"),
   ("vyp", "ꃽ"), ("vyr", "ꃿ"), ("vyrx", "ꃾ"), ("vyt", "ꃺ"), ("vyx", "ꃻ"), ("wa", "ꊂ"),
   ("wap", "ꊃ"), ("wat", "ꊀ"), ("wax", "ꊁ"), ("we", "ꊋ"), ("wep", "ꊌ"), ("wex", "ꊊ"),
   ("Wo", "꒸"), ("wo", "ꊈ"), ("wop", "ꊉ"), ("wox", "ꊇ"), ("wu", "ꀕ"), ("wuo", "ꊅ"),
   ("wuop", "ꊆ"), ("wuox", "ꊄ"), ("xi", "ꑟ"), ("xie", "ꑣ"), ("xiep", "ꑤ"), ("xiet", "ꑡ"),
   ("xiex", "ꑢ"), ("xip", "ꑠ"), ("xit", "ꑝ"), ("xix", "ꑞ"), ("xo", "ꑩ"), ("xop", "ꑪ"),
   ("xot", "ꑧ"), ("xox", "ꑨ"), ("xuo", "ꑦ"), ("xuox", "ꑥ"), ("xy", "ꑭ"), ("xyp", "ꑮ"),
   ("xyr", "ꑰ"), ("xyrx", "ꑯ"), ("xyt", "ꑫ"), ("xyx", "ꑬ"), ("yi", "ꑳ"), ("yie", "ꑷ"),
   ("yiep", "ꑸ"), ("yiet", "ꑵ"), ("yiex", "ꑶ"), ("yip", "ꑴ"), ("Yit", "꒮"), ("yit", "ꑱ"),
   ("yix", "ꑲ"), ("Yo", "꒝"), ("yo", "ꑿ"), ("yop", "ꒀ"), ("yot", "ꑽ"), ("yox", "ꑾ"), ("yu", "ꒃ"),
   ("yuo", "ꑻ"), ("yuop", "ꑼ"), ("yuot", "ꑹ"), ("yuox", "ꑺ"), ("yup", "ꒄ"), ("yur", "ꒆ"),
   ("yurx", "ꒅ"), ("yut", "ꒁ"), ("yux", "ꒂ"), ("yy", "ꒉ"), ("yyp", "ꒊ"), ("yyr", "ꒌ"),
   ("yyrx", "ꒋ"), ("yyt", "ꒇ"), ("yyx", "ꒈ"), ("Za", "꒲"), ("za", "ꊖ"), ("zap", "ꊗ"),
   ("zat", "ꊔ"), ("zax", "ꊕ"), ("ze", "ꊠ"), ("zep", "ꊡ"), ("zex", "ꊟ"), ("zha", "ꍈ"),
   ("zhap", "ꍉ"), ("zhat", "ꍆ"), ("zhax", "ꍇ"), ("zhe", "ꍓ"), ("zhep", "ꍔ"), ("zhet", "ꍑ"),
   ("zhex", "ꍒ"), ("zho", "ꍏ"), ("zhop", "ꍐ"), ("zhot", "ꍍ"), ("zhox", "ꍎ"), ("zhu", "ꍗ"),
   ("zhuo", "ꍋ"), ("zhuop", "ꍌ"), ("zhuox", "ꍊ"), ("zhup", "ꍘ"), ("zhur", "ꍚ"), ("zhurx", "ꍙ"),
   ("zhut", "ꍕ"), ("zhux", "ꍖ"), ("zhy", "ꍝ"), ("zhyp", "ꍞ"), ("zhyr", "ꍠ"), ("zhyrx", "ꍟ"),
   ("zhyt", "ꍛ"), ("zhyx", "ꍜ"), ("zi", "ꊏ"), ("zie", "ꊒ"), ("ziep", "ꊓ"), ("ziex", "ꊑ"),
   ("zip", "ꊐ"), ("zit", "ꊍ"), ("zix", "ꊎ"), ("zo", "ꊝ"), ("zop", "ꊞ"), ("Zot", "꒫"),
   ("zot", "ꊛ"), ("zox", "ꊜ"), ("zu", "ꊤ"), ("zuo", "ꊙ"), ("zuop", "ꊚ"), ("zuox", "ꊘ"),
   ("Zup", "꒢"), ("zup", "ꊥ"), ("Zur", "꓁"), ("zur", "ꊧ"), ("zurx", "ꊦ"), ("zut", "ꊢ"),
   ("zux", "ꊣ"), ("zy", "ꊪ"), ("zyp", "ꊫ"), ("zyr", "ꊭ"), ("zyrx", "ꊬ"), ("zyt", "ꊨ"),
   ("zyx", "ꊩ"), ("zza", "ꋚ"), ("zzap", "ꋛ"), ("zzat", "ꋘ"), ("zzax", "ꋙ"), ("zze", "ꋠ"),
   ("zzep", "ꋡ"), ("zzex", "ꋟ"), ("zzi", "ꋒ"), ("zzie", "ꋖ"), ("zziep", "ꋗ"), ("Zziet", "꓄"),
   ("zziet", "ꋔ"), ("zziex", "ꋕ"), ("zzip", "ꋓ"), ("zzit", "ꋐ"), ("zzix", "ꋑ"), ("zzo", "ꋝ"),
   ("zzop", "ꋞ"), ("zzox", "ꋜ"), ("zzu", "ꋣ"), ("zzup", "ꋤ"), ("zzur", "ꋦ"), ("zzurx", "ꋥ"),
   ("zzux", "ꋢ"), ("zzy", "ꋩ"), ("zzyp", "ꋪ"), ("zzyr", "ꋬ"), ("zzyrx", "ꋫ"), ("zzyt", "ꋧ"),
   ("zzyx", "ꋨ")]

end AtomicCss.Text
