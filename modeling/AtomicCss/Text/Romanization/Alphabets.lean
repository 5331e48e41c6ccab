/-!
# Letters of other alphabets

ASCII spellings of the letters of alphabets with vowels of their own: Greek, Cyrillic,
Armenian, Georgian, Coptic and Glagolitic, and beside them Ogham, Runic and Mongolian.
-/

set_option autoImplicit false

namespace AtomicCss.Text

/-- The spellings with the Greek letters that have them. -/
def greekSpellings : List (String × String) :=
  [("&", "Ϗϗ"), ("'", "\u0374᾽᾿῀῁῍῎῏῝῞῟῭\u1fee\u1fef\u1ffd῾"), (",", "͵"), ("-", "΄"),
   (";", "\u0387"), ("?", "\u037e"), ("A", "ΆΑἈἉἊἋἌἍἎἏᾈᾉᾊᾋᾌᾍᾎᾏᾸᾹᾺ\u1fbbᾼ𝚨𝛢𝜜𝝖𝞐"),
   ("a", "άαἀἁἂἃἄἅἆἇὰ\u1f71ᾀᾁᾂᾃᾄᾅᾆᾇᾰᾱᾲᾳᾴᾶᾷ𝛂𝛼𝜶𝝰𝞪"), ("B", "Β𝚩𝛣𝜝𝝗𝞑"), ("b", "βϐ𝛃𝛽𝜷𝝱𝞫"), ("c", "ϲ"),
   ("CH", "Ϭ"), ("Ch", "𝚾𝛸𝜲𝝬𝞦"), ("ch", "ϭ𝛘𝜒𝝌𝞆𝟀"), ("D", "Δ𝚫𝛁𝛥𝛻𝜟𝜵𝝙𝝯𝞓𝞩"), ("d", "δ𝛅𝛛𝛿𝜕𝜹𝝏𝝳𝞉𝞭𝟃"),
   ("E", "ΈΉΕΗἘἙἚἛἜἝἨἩἪἫἬἭἮἯᾘᾙᾚᾛᾜᾝᾞᾟῈ\u1fc9Ὴ\u1fcbῌ𝚬𝚮𝛦𝛨𝜠𝜢𝝚𝝜𝞔𝞖"),
   ("e", "έήεηϵ϶ἐἑἒἓἔἕἠἡἢἣἤἥἦἧὲ\u1f73ὴ\u1f75ᾐᾑᾒᾓᾔᾕᾖᾗῂῃῄῆῇ𝛆𝛈𝛜𝜀𝜂𝜖𝜺𝜼𝝐𝝴𝝶𝞊𝞮𝞰𝟄"), ("F", "Ϥ"),
   ("f", "ϥ"), ("G", "ΓϪ𝚪𝛤𝜞𝝘𝞒"), ("g", "γϫ𝛄𝛾𝜸𝝲𝞬"), ("H", "ͰϨ"), ("h", "ͱϩ"),
   ("I", "ΊΐΙΪἸἹἺἻἼἽἾἿῘῙῚ\u1fdb𝚰𝛪𝜤𝝞𝞘"), ("i", "ͺίιϊἰἱἲἳἴἵἶἷὶ\u1f77\u1fbeῐῑῒ\u1fd3ῖῗ𝛊𝜄𝜾𝝸𝞲"),
   ("J", "Ϳ"), ("j", "ϳ"), ("K", "Κ𝚱𝛫𝜥𝝟𝞙"), ("k", "κϰ𝛋𝛞𝜅𝜘𝜿𝝒𝝹𝞌𝞳𝟆"), ("Kh", "ΧϦ"), ("kh", "χϧ"),
   ("Ks", "Ξ"), ("L", "Λ𝚲𝛬𝜦𝝠𝞚"), ("l", "λ𝛌𝜆𝝀𝝺𝞴"), ("M", "Μ𝚳𝛭𝜧𝝡𝞛"), ("m", "μ𝛍𝜇𝝁𝝻𝞵"),
   ("N", "Ν𝚴𝛮𝜨𝝢𝞜"), ("n", "ν𝛎𝜈𝝂𝝼𝞶"),
   ("O", "ΌΏΟΩὈὉὊὋὌὍὨὩὪὫὬὭὮὯᾨᾩᾪᾫᾬᾭᾮᾯῸ\u1ff9Ὼ\u1ffbῼ𝚶𝛀𝛰𝛺𝜪𝜴𝝤𝝮𝞞𝞨"),
   ("o", "οωόώὀὁὂὃὄὅὠὡὢὣὤὥὦὧὸ\u1f79ὼ\u1f7dᾠᾡᾢᾣᾤᾥᾦᾧῲῳῴῶῷ𝛐𝛚𝜊𝜔𝝄𝝎𝝾𝞈𝞸𝟂"), ("P", "Π𝚷𝛱𝜫𝝥𝞟"),
   ("p", "πϖ𝛑𝛡𝜋𝜛𝝅𝝕𝝿𝞏𝞹𝟉"), ("Ph", "Φ𝚽𝛷𝜱𝝫𝞥"), ("ph", "φϕ𝛗𝛟𝜑𝜙𝝋𝝓𝞅𝞍𝞿𝟇"), ("Ps", "Ψ𝚿𝛹𝜳𝝭𝞧"),
   ("ps", "ψ𝛙𝜓𝝍𝞇𝟁"), ("Q", "ϘϞ"), ("q", "ϙϟ"), ("R", "ΡῤῥῬ𝚸𝛲𝜬𝝦𝞠"), ("r", "ρϱ𝛒𝛠𝜌𝜚𝝆𝝔𝞀𝞎𝞺𝟈"),
   ("r-", "ϼ"), ("S", "ͲΣϺϽ𝚺𝛴𝜮𝝨𝞢"), ("s", "ͳͻςσϹϻ𝛓𝛔𝜍𝜎𝝇𝝈𝞁𝞂𝞻𝞼"), ("S-", "ϾϿ"), ("s-", "ͼͽ"),
   ("Sh", "ϢϷ"), ("sh", "ϣϸ"), ("Sp", "Ϡ"), ("sp", "ϡ"), ("St", "Ϛ"), ("st", "ϛ"),
   ("T", "Τ𝚻𝛵𝜯𝝩𝞣"), ("t", "τ𝛕𝜏𝝉𝞃𝞽"), ("TH", "ϴ"), ("Th", "Θ𝚯𝚹𝛩𝛳𝜣𝜭𝝝𝝧𝞗𝞡"), ("th", "θϑ𝛉𝛝𝜃𝜗𝜽𝝑𝝷𝞋𝞱𝟅"),
   ("Ti", "Ϯ"), ("ti", "ϯ"), ("U", "ΎΥΫϒϓϔὙὛὝὟῨῩῪ\u1feb"),
   ("u", "ΰυϋύὐὑὒὓὔὕὖὗὺ\u1f7bῠῡῢ\u1fe3ῦῧ"), ("W", "ͶϜ𝟊"), ("w", "ͷϝ𝟋"), ("X", "𝚵𝛯𝜩𝝣𝞝"),
   ("x", "ξ𝛏𝜉𝝃𝝽𝞷"), ("Y", "𝚼𝛶𝜰𝝪𝞤"), ("y", "𝛖𝜐𝝊𝞄𝞾"), ("Z", "Ζ𝚭𝛧𝜡𝝛𝞕"), ("z", "ζ𝛇𝜁𝜻𝝵𝞯")]

/-- The spellings with the letters of the other alphabets that have them. -/
def easternSpellings : List (String × String) :=
  [(" // ", "჻"), (" 3 ", "\u1885"), (" 333 ", "\u1886"), ("!", "՜"), ("\"", "Ҍҍ"),
   ("'", "ЪЬъьԦԧ՚ჸჺჾ\u18a9ᲆᲸᲺᲾ"), ("*1.000.000*", "\u0489"), ("*100.000*", "\u0488"),
   ("*1000*", "҂"), ("+", "᛭"), (",", "՝"), ("-", "\u0487֊\u180e\u180fᡃ"), (".", "՟᛫"),
   ("/", "՛"), ("1/2", "⳽"), ("10000000", "\ua670"), ("100000000", "\ua671"),
   ("1000000000", "\ua672"), ("17", "ᛮ"), ("18", "ᛯ"), ("19", "ᛰ"), ("900", "Ⳁⳁ"), (":", "։᛬"),
   ("<", "ՙ᚛"), (">", "᚜"), ("?", "՞"), ("@", "ӘәӚӛ"), ("`", "Ӏ"), ("A", "АӒԐԘԱႠᲐⰀⰭⲀ"),
   ("a", "аӐӑӓԑԙՠաაᚐᚨᛆᛷᠠᢇᢗⰰⱝⲁⴀ\u2df6𞀀𞀰𞁋𞁑"), ("ac", "ᚪ"), ("Ae", "ӔჍᲽ"), ("ae", "ӕჽᚫᛅᛸⴭ"),
   ("B", "БԲႡᲑⰁ"), ("b", "бբბᚁᛒᛓᠪᡋⰱⴁ\u2de0𞀁𞀱𞁒"), ("bh", "ᢨ"), ("C", "ႼⰜⳚⳜ"), ("c", "წᚉᚳᛍᢋᢜⱌⳛⳝ𞀜"),
   ("C`", "Ⴚ"), ("c`", "ც"), ("Cch", "Ꚇ"), ("cch", "ꚇ"), ("Ch", "ЧҼӋӴՃႽᲩⰝⰯ"),
   ("ch", "чҽӌӵճჭᚕᠴᡂᡒᡱⱍⱟⴙ\u2df1𞀝𞁅𞁣"), ("Ch'", "ҶҸҾՉᲭ"), ("ch'", "ҷҹҿչⴝ"), ("Ch`", "Ⴙ"),
   ("ch`", "ჩ"), ("CS", "⳪"), ("cy", "ᢣ"), ("D", "ДԀԴႣᲓⰄⲆ"), ("d", "дԁդდᚇᛑᛞᠳᡑᡩᢑᲁⰴⲇⴃ\u2de3𞀄𞀴𞁕"),
   ("Dch", "Ԭ"), ("dch", "ԭ"), ("dd", "ᢎ"), ("ddh", "ᢟ"), ("Dg", "Ꙣ"), ("dg", "ꙣ"), ("dh", "ᢡ"),
   ("Dj", "ЂԂⰌⳘꙈ"), ("dj", "ђԃⰼⳙ\u2df8ꙉ𞀌"), ("Dram", "֏"), ("Dw", "Ꚁ"), ("dw", "ꚁ"),
   ("Dz", "ЅӠԆՁᲫⰇꙂꙄ"), ("dz", "ѕӡԇձᡜⰷⴛꙃꙅ𞁊𞁩"), ("Dzh", "ЏԪ"), ("dzh", "џԫ𞁪"), ("Dzw", "Ꚃ"),
   ("dzw", "ꚃ"), ("Dzz", "Ꚉ"), ("dzz", "ꚉ"), ("E", "ЄЕЭѢѦӬԵԷԸႤჁჇᲔᲱⰅⰡⰤⰥⲈⲎⲶꙘ"),
   ("e", "еэѣѧӭեէըეჱჷᚓᛂᛖᛶᠡᡄᡝᲇⰵⱑⱔⱕⲉⲏⲷⴄⴡⴧ\u2df7\u2dfa\u2dfdꙙ𞀅𞀡𞀤𞀵𞁈𞁖"), ("ear", "ᛠ"), ("ee", "ᠧ"),
   ("eo", "ᛇ"), ("ew", "և"), ("F", "ФѲՖᲶⰗⲪ"), ("f", "фѳֆჶᚃᚠᠹᡫᡶⱇⲫ\u2df4\ua69e𞀗𞁂𞁠"),
   ("G", "ГԳႢᲒᲹⰃⲄ"), ("g", "гգგჹᚌᚵᚷᚸᛄᠭᡎᡘᡤᡬⰳⲅⴂ\u2de2𞀃𞀳𞁔𞁧"), ("G'", "ҐҒҔႶ"), ("g'", "ґғҕღ"),
   ("Gh", "ӶՂᲦ"), ("gh", "ӷղᢚⴖ"), ("Gj", "Ѓ"), ("gj", "ѓ"), ("H", "ҺӾՀჀᢁᲰⰘⰢⳊⳌⳎⳐⳒⳔ"),
   ("h", "һӏӿհֈჰᚆᚺᚻᚼᚽᠾᡙᡥᡭⱈⱒⳋⳍⳏⳑⳓⳕⴠ\u2def𞀘𞁐"), ("Hw", "Ꚕ"), ("hw", "ꚕ"), ("I", "ІЍИЙӢӤԻႨᲘⰉⰋⰠⰬⲒꙆ"),
   ("i", "ийіѝӣӥիიᚔᛁᛵᠢᡅᡞᡳᢈⰹⰻⱐⱜⲓⴈꙇ\ua675\ua676𞀉𞀊𞀋𞀠𞀸𞁌𞁙𞁨𞂏"), ("Ia", "ЯꙖ"), ("ia", "я\u2dfcꙗ"),
   ("Ie", "ЀѤѨӖꙒꙜ"), ("ie", "ѐєѥѩӗꙓꙝ\ua674\ua69f"), ("In", "Ꙟ"), ("in", "ꙟ"), ("Io", "ЁѬ"),
   ("io", "ёѭ\u2dff"), ("ior", "ᛡ"), ("Iu", "Ю"), ("iu", "ю"), ("iy", "ᡟ"), ("J", "ЈՋႿᲯⰊⳖⳭ"),
   ("j", "јջჯᛃᠵᡓᡪⰺⳗⳮⴟ𞁍"), ("Je", "Ⱗ"), ("je", "ⱗ𞀧"), ("Jh", "Ҋ"), ("jh", "ҋᢝ"), ("Jo", "ⰦⰩ"),
   ("jo", "ⱖⱙ"), ("Ju", "Ⱓ"), ("ju", "ⱓ"), ("jy", "ᡚ"), ("K", "КԿႩᲥⰍⲔⲸ"),
   ("k", "кկკᚲᚴᛱᠺᡗᡣᡴᢉⰽⲕⲹⴕ\u2de6𞀍𞀹𞁚"), ("K'", "ҚҜҞҠӃՔᲙ"), ("k'", "қҝҟҡӄքⴉ"), ("K`", "Ⴕ"),
   ("k`", "ქ"), ("Kh", "ХҨԽᲮⲬ"), ("kh", "хҩխⲭⴞ𞁃𞁡"), ("Kh'", "Ҳ"), ("kh'", "ҳ"), ("kha", "ᠻ"),
   ("KhR", "⳩"), ("Kj", "Ќ"), ("kj", "ќ"), ("Ks", "Ѯ"), ("ks", "ѯ"), ("L", "ЛԒԠԮԼႪᲚⰎⲖ"),
   ("l", "лԓԡԯլლᚂᛚᛛᠯⰾⲗⴊ\u2de7𞀎𞀺𞁛"), ("Lg", "Ꙥ"), ("lg", "ꙥ"), ("Lh", "Ӆ"), ("lh", "ӆᡀᢪ"),
   ("Lj", "ЉԈ"), ("lj", "љԉ"), ("Lkh", "Ԕ"), ("lkh", "ԕ"), ("M", "МՄႫᢄᲛⰏⰮⲘ"),
   ("m", "мմმᚋᛗᛘᛙᠮᡏᢀⰿⱞⲙⴋ\u2de8𞀏𞀻"), ("me", "ﬔ"), ("Mg", "Ꙧ"), ("mg", "ꙧ"), ("Mh", "Ӎ"),
   ("mh", "ӎ"), ("mi", "ﬕ"), ("mkh", "ﬗ"), ("mn", "ﬓ"), ("MR", "⳥"), ("N", "НԢՆႬᲜⰐⲚⲺⲼ"),
   ("n", "нԣնნჼᚅᚾᚿᛀᠨⱀⲛⲻⲽⴌ\u2de9𞀐"), ("N'", "ҢӇ"), ("n'", "ңӈ"), ("Ng", "ҤⳞ"),
   ("ng", "ҥᚍᚶᛜᛝᠩᡊᡢᢊᢛⳟ"), ("Nh", "Ӊ"), ("nh", "ӊ"), ("Nj", "ЊԊ"), ("nj", "њԋ"), ("nn", "ᢏ"),
   ("Ny", "ԨⳠ"), ("ny", "ԩᡛⳡ"), ("O", "ОѠѪѺѼӦӨӪՈՕႭᠥᡈᲝᲵⰑⰙⰨⲞⲰⲾꙌꙚꙨꚚ"),
   ("o", "оѡѫѻѽӧөӫոօოᚑᚩᚬᚭᚮᛟᛴᠣᡆᲂⱁⱉⱘⲟⲱⲿⴍⴥ\u2dea\u2dfeꙍꙛꙩꙮ\ua67bꚛ𞀑𞀨𞀼𞁎𞁜"), ("OE", "Ⴥ"), ("oe", "ჵᚯ"),
   ("Oi", "Ꙕ"), ("oi", "ꙕ"), ("on", "ᚰ"), ("Oo", "ꙪꙬꚘ"), ("oo", "ᛳꙫꙭꚙ"), ("Ot", "Ѿ"),
   ("ot", "ѿ"), ("P", "ПՊႮᲤⰒⰚⲠ"), ("p", "пպპᚘᚚᛈᛔᛕᠫᡌᡦᢒⱂⱊⲡⴔ\u2deb𞀒𞀽𞁝"), ("P'", "ҦՓᲞ"),
   ("p'", "ҧփⴎ"), ("P`", "Ⴔ"), ("p`", "ფ"), ("Ph", "Ԥ"), ("ph", "ԥᚗᢓ"), ("PR", "⳦"),
   ("Ps", "ѰⲮ"), ("ps", "ѱⲯ"), ("Q", "ҀԚԞႷᲴ"), ("q", "ҁԛԟყᚊᛩᠬᡍ"), ("Q'", "Ყ"), ("q'", "ⴗ"),
   ("qu", "ᛢᛣᛤ"), ("R", "РՐႰᲠⰓⲢ"), ("r", "рրრᚏᚱᠷᡰᡵⱃⲣⴐ\u2dec𞀓𞀾"), ("R'", "Ҏ"), ("r'", "ҏ"),
   ("Rh", "Ռ"), ("rh", "ռ"), ("Rkh", "Ԗ"), ("rkh", "ԗ"), ("S", "СՍႱᲡⰔⲤ"),
   ("s", "сսსᚄᛊᛋᛌᛥᠰᲃⱄⲥⴑ\u2ded𞀔𞀿𞁞𞁫"), ("S'", "Ҫ"), ("s'", "ҫ"), ("Sh", "ШՇႸᲨⰞⳂⳄⳆⳫ"),
   ("sh", "шշშᛲᠱᡧⱎⳃⳅⳇⳬⴘ\u2df2𞀞𞁆𞁤"), ("Shch", "Щ"), ("shch", "щ\u2df3"), ("Sht", "Ⱋ"),
   ("sht", "ⱋ𞀛"), ("Shw", "Ꚗ"), ("shw", "ꚗ"), ("Sj", "Ԍ"), ("sj", "ԍ"), ("ss", "ᢔᢢ"),
   ("St", "Ⲋ"), ("st", "ⲋ\u2df5"), ("STRS-", "⳧"), ("T", "ТՏႲᲗⰕⲦꚊ"),
   ("t", "тտტᚈᛏᛐᠲᡐᡨᢐᢘᢠᲄᲅⱅⲧⴇ\u2deeꚋ𞀕𞁀"), ("T'", "ҬԹᲢ"), ("t'", "ҭթⴒ"), ("T`", "Ⴇ"), ("t`", "თ"),
   ("Tch", "Ꚓ"), ("tch", "ꚓ"), ("Th", "ⰪⲐ"), ("th", "ᚖᚦᚧⱚⲑ𞀪"), ("Tj", "Ԏ"), ("tj", "ԏ"),
   ("TR", "⳨"), ("Ts", "ЦԾᲪꙠ"), ("ts", "цծᠼᡔᡮⴚ\u2df0ꙡ𞁄𞁢"), ("Ts'", "ՑᲬ"), ("ts'", "ցⴜ"),
   ("Tsh", "Ћ"), ("tsh", "ћ"), ("Tss", "Ꚑ"), ("tss", "ꚑ"), ("Tsw", "Ꚏ"), ("tsw", "ꚏ"),
   ("tt", "ᢌ"), ("tta", "ᢞ"), ("tth", "ᢍ"), ("Tts", "Ҵ"), ("tts", "ҵ"), ("Tw", "Ꚍ"), ("tw", "ꚍ"),
   ("U", "ЎУҮӮӰӲႳᠦᡉᡠᲣⰖⰟⰫⲨꙊ"), ("u", "уўѸѹүӯӱӳუᚒᚢᠤᡇᡡᢦᲈⱆⱏⱛⲩⴓ\u2df9ꙋ\ua677𞀖𞀟𞁁𞁏𞁟𞁭"), ("U'", "Ұ"),
   ("u'", "ұ"), ("V", "ВՎႥᲕⰂⲂ"), ("v", "вվვᚡᲀⰲⲃⴅ\u2de1𞀂𞀲𞁓"), ("vn", "ﬖ"), ("W", "ԜՒჃᢃᲳᲿⳢ"),
   ("w", "ԝւჳჿᚥᚹᠸᡖⳣⴣ"), ("X", "ӼႾᢂⲜⳈⳲ"), ("x", "ӽხᚙᛪᡸⲝⳉⳳⴤ"), ("Xh", "ӺჄ"), ("xh", "ӻჴ"),
   ("Y", "ЫѴѶӸՅჂᲲᲷꙐ"), ("y", "ыѵѷӹյჲᚤᠶᡕᢧⴢꙑ\ua679𞁇𞁦𞁬"), ("Yi", "Ї"), ("yi", "ї"), ("yo", "𞀦𞀩"),
   ("yr", "ᚣᛦᛧᛨ"), ("yu", "\u2dfb𞀣𞁉"), ("Z", "ЗӞԶႦᲖⰈⲌꙀ"), ("z", "зӟզზᚎᛉᛎᠽᡯᢖᢥⰸⲍⴆ\u2de5ꙁ𞀈𞀷𞁘"),
   ("Z'", "ҘႻ"), ("z'", "ҙძ"), ("Zh", "ЖӁӜԺႯᲟⰆ"), ("zh", "жӂӝժჟᡁᡲᡷᢕᢙᢤⰶⴏ\u2de4𞀆𞀶𞁗"), ("Zh'", "Җ"),
   ("zh'", "җ"), ("Zhw", "Ꚅ"), ("zhw", "ꚅ"), ("Zj", "Ԅ"), ("zj", "ԅ"), ("zr", "ᠿ")]

end AtomicCss.Text
