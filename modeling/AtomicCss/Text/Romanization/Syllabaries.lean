/-!
# Syllables

ASCII spellings of characters that stand for a syllable: kana, bopomofo, and the syllables
of Ethiopic, Cherokee, Vai, Bamum, Mende, Linear B and the Canadian scripts.
-/

set_option autoImplicit false

namespace AtomicCss.Text

/-- The spellings with the characters that have them. -/
def syllableSpellings : List (String × String) :=
  [(" ", "፡"), ("'", "ᐞ"), ("'a", "አ"), ("'aa", "ኣ"), ("'e", "እ"), ("'ee", "ኤ"), ("'i", "ኢ"),
   ("'o", "ኦ"), ("'u", "ኡ"), ("'wa", "ኧ"), (",", "፣"), ("-", "ᣟ"), ("-oa", "ⶊ"), (".", "።"),
   ("//", "፨"), ("0", "ꛯ"), ("10+", "፲"), ("10,000+", "፼"), ("100+", "፻"), ("20+", "፳"),
   ("30+", "፴"), ("40+", "፵"), ("50+", "፶"), ("60+", "፷"), ("70+", "፸"), ("80+", "፹"),
   ("90+", "፺"), (":", "፥፦"), (";", "፤"), ("?", "፧ᐩ"), ("`a", "ዐ"), ("`aa", "ዓ"), ("`e", "ዕ"),
   ("`ee", "ዔ"), ("`i", "ዒ"), ("`o", "ዖ"), ("`u", "ዑ"), ("A", "ㄚ"),
   ("a", "Ꭰᐊᖳぁあァア㋐ꕉꕊꚠꭰｧｱ𐀀𐠀𛀂𛀃𛀄𛀅𞠣"), ("a2", "𐁀"), ("a3", "𐁁"), ("aa", "ᐋ"), ("aai", "ᐂ"),
   ("aay", "ᢲ"), ("ah", "ㆿ"), ("AI", "ㄞ"), ("ai", "ᐜ"), ("AINN", "ㆮ"), ("AM", "ㆰ"), ("AN", "ㄢ"),
   ("an", "ᐮ𞠬"), ("ANG", "ㄤ"), ("ANN", "ㆩ"), ("AU", "ㄠ"), ("au", "𐁂"), ("AUNN", "ㆯ"),
   ("ay", "ᢱ"), ("B", "ㄅ"), ("b", "ᖯ"), ("b'", "ꬭ"), ("b'a", "ꬫ"), ("b'e", "ꬨꬬ"), ("b'i", "ꬪ"),
   ("b'o", "ꬮ"), ("b'u", "ꬩ"), ("ba", "በばバꕑꕒ𞠜"), ("baa", "ባ"), ("Bang", "ꘗ"),
   ("be", "ብべベꔆꔇꗩꗪ𞠞𞠟"), ("bee", "ቤ"), ("bi", "ቢびビꔫꔬ𞠛"), ("bo", "ቦぼボꕷꕸꗂꗃ𞠠𞠡"), ("boa", "ⶅ"),
   ("BU", "ㆠ"), ("bu", "ቡぶブꖜꖝ𞠝"), ("bwa", "ቧ"), ("bwe", "ᎄᎆ𞟴"), ("bwi", "ᎅᎇ𞟳"), ("C", "ㄘ"),
   ("c", "ᐨᒡᣗ"), ("ca", "ቸᒐꕦ"), ("caa", "ቻᒑ"), ("caai", "ᒊ"), ("ce", "ችᒉꔚꗿ"), ("cee", "ቼ"),
   ("CH", "ㄔ"), ("ch", "ⶭ"), ("ch'", "ⶽꬥ"), ("ch'a", "ⶻꬣ"), ("ch'e", "ⶸⶼꬠꬤ"), ("ch'i", "ⶺꬢ"),
   ("ch'o", "ⶾꬦ"), ("ch'oa", "ⶐ"), ("ch'u", "ⶹꬡ"), ("cha", "ጨᙦⶫ"), ("chaa", "ጫ"),
   ("che", "ጭᙣⶨⶬ"), ("chee", "ጬᙤ"), ("chi", "ጪᙥⶪ𛁢𛁣𛁤𛁥𛁦𛁧𛁨"), ("cho", "ጮᙢⶮ"), ("choa", "ⶇ"),
   ("chu", "ጩᙡⶩ"), ("chwa", "ጯ"), ("ci", "ቺᒋꔿ"), ("cii", "ᒌ"), ("co", "ቾᒍꖋꗗ"), ("coo", "ᒎᒏ"),
   ("cu", "ቹꖰ"), ("cwa", "ቿᒜᒝ"), ("cwaa", "ᒞᒟᒠ"), ("cwe", "ᒒᒓ"), ("cwi", "ᒔᒕ"), ("cwii", "ᒖᒗ"),
   ("cwo", "ᒘᒙ"), ("cwoo", "ᒚᒛ"), ("D", "ㄉ"), ("d-oa", "ⶍ"), ("da", "ደᏓだダꕜꕝꕠꮣ𐀅𞠿"), ("daa", "ዳ"),
   ("Dang", "ꘚ"), ("dda", "ዸ"), ("ddaa", "ዻ"), ("dde", "ዽ"), ("ddee", "ዼ"), ("ddi", "ዺ"),
   ("ddo", "ዾ"), ("ddu", "ዹ"), ("ddwa", "ዿ"), ("de", "ድᏕでデꔐꔑꔔꗵꗶꗹꮥ𐀆𞡁"), ("dee", "ዴᑓ"),
   ("dh", "ꬍ"), ("dha", "ꬋ"), ("dhe", "ꬌ"), ("dhi", "ꬊ"), ("dho", "ꬎ"), ("dhu", "ꬉ"),
   ("di", "ዲᏗᑔぢヂꔵꔶꔹꮧ𐀇𞠾"), ("dl", "ㆹ"), ("dla", "Ꮬᘭꮬ"), ("dle", "ᘪ"), ("dlee", "ᘫ"), ("dli", "ᘬ"),
   ("dlo", "ᘩ"), ("dlu", "ᘨ"), ("do", "ዶᏙどドꖁꖂꖅꗍꗎꗑꘫꮩ𐀈𞡂𞡃"), ("doa", "ⶌ"), ("Dong", "ꘛ"),
   ("Doo", "ꘞ"), ("du", "ዱᏚづヅꖦꖧꖪꮪ𐀉𞡀"), ("dv", "Ꮫꮫ"), ("dwa", "ዷ"), ("dwe", "𐁃"), ("dwo", "𐁄"),
   ("dz", "ꬕ"), ("dza", "ᙍꬓ"), ("dze", "ᙊꬔ"), ("dzee", "ᙋ"), ("dzi", "ᙌꬒ"), ("dzo", "ᙉꬖ"),
   ("dzu", "ᙈꬑ"), ("E", "ㄜ"), ("e", "Ꭱᐁᖰぇえェエꔀꔁꗡꗢꚤꭱｪｴ𐀁𐠁𛀀𛀁𛀏𛀐𛀑𛀒𛀓𞠥𞠦"), ("EE", "ㆤ"), ("ee", "ᐈ"),
   ("EH", "ㄝ"), ("EI", "ㄟ"), ("ei", "𞠩"), ("EN", "ㄣ"), ("en", "ᐫ𞠭"), ("ENG", "ㄥ"), ("ENN", "ㆥ"),
   ("ER", "ㄦ"), ("F", "ㄈ"), ("f", "ᕝ"), ("fa", "ፈᕙꕘꘐ𞡛"), ("Faa", "ꘘ"), ("faa", "ፋᕚ"),
   ("faai", "ᕔ"), ("fan", "𞡢"), ("fe", "ፍᕓꔌꗱꛋ𞡝𞡞"), ("fee", "ፌ"), ("Feng", "ꘓ"), ("fi", "ፊᕕꔱ𞡚"),
   ("fii", "ᕖ"), ("fo", "ፎᕗꕽꗉ𞡟𞡠"), ("fom", "ꛙ"), ("foo", "ᕘ"), ("fu", "ፉꖢꛘ𛂰𛂱𛂲𞡜"), ("fua", "𞡡"),
   ("fwa", "ፏ"), ("fwaa", "ᕛᕜ"), ("fwe", "ᎈᎊ𞟼"), ("fwi", "ᎉᎋ𞟻"), ("fya", "ፚ"), ("G", "ㄍ"),
   ("g", "ㆻ"), ("ga", "ገᎦᗴがガꕭꭶ𞢄"), ("gaa", "ጋᣯ"), ("gba", "ꕗ𞢧"), ("gbe", "ꔋꗯꗰ𞢩𞢪"), ("gbi", "ꔰ𞢦"),
   ("gbo", "ꕼꗇꗈ𞢫𞢬"), ("gbu", "ꖡ𞢨"), ("ge", "ግᎨᗱげゲꔠꘆꘇꭸ𞢆"), ("gee", "ጌᗲ"), ("gga", "ጘ"),
   ("ggaa", "ጛ"), ("gge", "ጝ"), ("ggee", "ጜ"), ("ggi", "ጚ"), ("ggo", "ጞ"), ("ggu", "ጙ"),
   ("gha", "ᗉ"), ("ghe", "ᗆ"), ("ghee", "ᗇ"), ("ghi", "ᗈ"), ("gho", "ᗅ"), ("ghu", "ᗄ"),
   ("gi", "ጊᎩᗳぎギꕅꭹ𞢃"), ("GN", "ㄬ"), ("go", "ጎᎪᗰごゴꖑꗝꭺ"), ("goa", "ጏ"), ("goo", "ᣬᣮ"), ("GU", "ㆣ"),
   ("gu", "ጉᎫᗯぐグꖶꭻ𞢅"), ("guan", "𞢈"), ("guei", "𞢇"), ("gv", "Ꭼꭼ"), ("gw", "ㆼ"), ("gwa", "ጐᣰ"),
   ("gwaa", "ጓ"), ("gwe", "ጕ𞟹"), ("gwee", "ጔ"), ("gwi", "ጒ𞟸𞟺"), ("gwo", "ᣭ"), ("gy", "ⷝ"),
   ("gya", "ⷛ"), ("gye", "ⷘⷜ"), ("gyi", "ⷚ"), ("gyo", "ⷞ"), ("gyu", "ⷙ"), ("H", "ㄏㆷ"),
   ("h", "ᑋᕻᕼꘌ"), ("ha", "ሀᎭᕹᗃはハㇵ㋩ꕌꕍꭽﾊ𛂞𛂟𛂠𛂡𛂢𛂣𛂤𛂥𛂦𛂧𛂨𞡩"), ("haa", "ሃᕺ"), ("han", "𞡲"),
   ("he", "ህᎮᕴᗀへヘㇸ㋬ꔂꗤꗥꭾﾍ𛂳𛂴𛂵𛂶𛂷𛂸𛂹𞡫𞡬"), ("hee", "ሄᐶ"), ("hei", "𞡯"), ("hen", "𞡴"), ("hha", "ሐ"),
   ("hhaa", "ሓ"), ("hhe", "ሕ"), ("hhee", "ሔ"), ("hhi", "ሒ"), ("hho", "ሖ"), ("hhu", "ሑ"),
   ("hhwa", "ሗ"), ("hi", "ሂᎯᐷᕵᗁひヒㇶ㋪ꔦꔧꭿﾋ𛂩𛂪𛂫𛂬𛂭𛂮𛂯𞡨"), ("hii", "ᕶ"), ("hin", "𞡱"), ("hk", "ᕽ"),
   ("hna", "Ꮏꮏ"), ("ho", "ሆᎰᕷᗂほホㇹ㋭ꕳꖽꖾꮀﾎ𛂺𛂻𛂼𛂽𛂾𛂿𛃀𛃁𞡭𞡮"), ("hoa", "ሇ"), ("hon", "𞡵"), ("hoo", "ᕸ"),
   ("hou", "𞡰"), ("hu", "ሁᎱふフㇷ㋫ꖗꖘꮁﾌ𞡪"), ("huan", "𞡶"), ("hun", "𞡳"), ("hv", "Ꮂꮂ"), ("hwa", "ᗛ"),
   ("hwe", "ᗘ𞟨𞟪"), ("hwee", "ᗙ"), ("hwi", "ᗚ𞟩𞟫"), ("hwo", "ᗗ"), ("hwu", "ᗖ"), ("hy", "ⷕ𞟥"),
   ("hya", "ⷓ𞟣"), ("hye", "ⷐⷔ𞟠𞟤"), ("hyi", "ⷒ𞟢"), ("hyo", "ⷖ𞟦"), ("hyu", "ⷑ𞟡"), ("I", "ㄧ"),
   ("i", "Ꭲᐃᐉᖱぃいィイㄭ㋑ꔤꔥꚩꭲｨｲ𐀂𐠂𛀆𛀇𛀈𛀉𞠢"), ("ii", "ᐄ"), ("IM", "ㆬ"), ("in", "ᐬ𞠪𞠫"), ("INN", "ㆪ"),
   ("INNN", "ㆳ"), ("IR", "ㆨ"), ("IU", "ㄩ"), ("J", "ㄐ"), ("ja", "ጀᘛꕧ𐀊𐠅𞡌"), ("jaa", "ጃ"),
   ("je", "ጅᘗꔛꘀ𐀋𞡎𞡏"), ("jee", "ጄᘘ"), ("JI", "ㆢ"), ("ji", "ጂᘙᘚꕀ𞡋"), ("jja", "ᘡ"), ("jje", "ᘞ"),
   ("jjee", "ᘟ"), ("jji", "ᘠ"), ("jjo", "ᘝ"), ("jju", "ᘜ"), ("jo", "ጆᘖꖌꗘ𐀍𐠈𞡐𞡑𞡒"), ("joa", "ⶎ"),
   ("Jong", "ꘟ"), ("joo", "ᣱ"), ("ju", "ጁᘔᘕꖱ𐀎𞡍"), ("jwa", "ጇ"), ("jwe", "ᣲ"), ("K", "ㄎㆶ"),
   ("k", "ᐠᒃᣖ"), ("k-y", "ⷅ"), ("k-ya", "ⷃ"), ("k-ye", "ⷀⷄ"), ("k-yi", "ⷂ"), ("k-yo", "ⷆ"),
   ("k-yu", "ⷁ"), ("ka", "ከᎧᑲᖿかゕカヵ㋕ꕪꕫꘑꚡꭷｶ𐀏𐠊𛀗𛀘𛀙𛀚𛀛𛀜𛀝𛀞𛀟𛀠𛀡𛀢𞠁"), ("kaa", "ካᑳ"), ("kaai", "ᑬ"),
   ("kah", "ᒈ"), ("kay", "ᢸ"), ("ke", "ክᑫᖼけゖケヶ㋘ꔞꘃｹ𐀐𐠋𛀲𛀳𛀴𛀵𛀶𛀷𞠃𞠄"), ("kee", "ኬ"), ("keh", "ᒅ"),
   ("ken", "ꛒ"), ("Keng", "ꘔ"), ("ket", "ꚻ"), ("kha", "ᗺ"), ("khe", "ᗷ"), ("khee", "ᗸ"),
   ("khi", "ᗹ"), ("kho", "ᗶ"), ("khu", "ᗵ"), ("ki", "ኪᑭᖽきキ㋖ꕃꛥｷ𐀑𐠌𛀣𛀤𛀥𛀦𛀧𛀨𛀩𛀪𞠀"), ("kih", "ᒆ"),
   ("kii", "ᑮ"), ("kk", "ᘁ"), ("kka", "ᘀ"), ("kke", "ᗽ"), ("kkee", "ᗾ"), ("kki", "ᗿ"),
   ("kko", "ᗼ"), ("kku", "ᗻ"), ("ko", "ኮᑯᖾこコ㋙ꖏꗛꛟｺ𐀒𐠍𛀸𛀹𛀺𛀻𛄲𛅕𞠅𞠆"), ("koa", "ኯ"), ("koh", "ᒇ"),
   ("koo", "ᑰᑱ"), ("koto", "ヿ"), ("kpa", "ꕔꕕ𞢠"), ("kpe", "ꔉꗬꗭ𞢢𞢣"), ("kpi", "ꔮ𞢟"),
   ("kpo", "ꕺꗅ𞢤𞢥"), ("kpu", "ꖟ𞢡"), ("ku", "ኩくクㇰ㋗ꖴꚣｸ𐀓𐠎𛀫𛀬𛀭𛀮𛀯𛀰𛀱𞠂"), ("kua", "𞠇"), ("Kung", "ꘜ"),
   ("kux", "ꛄ"), ("kw", "ᒄㆽ"), ("kwa", "ኰᑾᑿ"), ("kwaa", "ኳᒀᒁᒂ"), ("kway", "ᢹ"), ("kwe", "ኵᑴᑵ𞟶"),
   ("kwee", "ኴ"), ("kwi", "ኲᑶᑷ𞟵𞟷"), ("kwii", "ᑸᑹ"), ("kwo", "ᑺᑻ"), ("kwoo", "ᑼᑽ"), ("kxa", "ኸ"),
   ("kxaa", "ኻ"), ("kxe", "ኽ"), ("kxee", "ኼ"), ("kxi", "ኺ"), ("kxo", "ኾ"), ("kxu", "ኹ"),
   ("kxwa", "ዀ"), ("kxwaa", "ዃ"), ("kxwe", "ዅ"), ("kxwee", "ዄ"), ("kxwi", "ዂ"), ("ky", "ⷍ"),
   ("kya", "ⷋ"), ("kye", "ⷈⷌꚺ"), ("kyi", "ⷊ"), ("kyo", "ⷎ"), ("kyu", "ⷉ"), ("L", "ㄌ"),
   ("l", "ᐪᓪᓫᓬᣳ"), ("la", "ለᎳᓚᕍᘧꕞꚪꮃ𐠏𞠷"), ("laa", "ላᓛᣢ"), ("laai", "ᓔ"), ("lay", "ᢽ"),
   ("le", "ልᎴᓓᕄᘤꔒꗷꚮꮄ𐠐𞠹𞠺𞠽"), ("lee", "ሌᘥ"), ("lh", "ᖦ"), ("lha", "ᖤᘳ"), ("lhaa", "ᖥ"),
   ("lhe", "ᘰ"), ("lhee", "ᘱ"), ("lhi", "ᖠᘲ"), ("lhii", "ᖡ"), ("lho", "ᖢᘯ"), ("lhoo", "ᖣ"),
   ("lhu", "ᘮ"), ("li", "ሊᎵᓕᘦꔷꛜꮅ𐠑𞠶"), ("lii", "ᓖ"), ("lo", "ሎᎶᓗᕊᘣꖃꗏꛞꮆ𐠒𞠻𞠼"), ("loa", "ⶀ"),
   ("loo", "ᓘᓙᣡ"), ("lu", "ሉᎷᘢꖨꛍꮇ𐠓𞠸"), ("lv", "Ꮈꮈ"), ("lwa", "ሏᓦᓧ"), ("lwaa", "ᓨᓩ"),
   ("lwe", "ᓜᓝ"), ("lwi", "ᓞᓟ"), ("lwii", "ᓠᓡ"), ("lwo", "ᓢᓣ"), ("lwoo", "ᓤᓥ"), ("M", "ㄇ"),
   ("m", "ᒻᒼᒾᒿᣘꚳ"), ("ma", "መᎹᒪᘍまマ㋮ꕮꘪꛣꮉﾏ𐀔𐠔𛃂𛃃𛃄𛃅𛃆𛃇𛃈"), ("maa", "ማᒫ"), ("maai", "ᒤ"), ("man", "𞠕"),
   ("may", "ᢺ"), ("mba", "ꕓ𞢔"), ("mbe", "ꔈꗫ𞢖𞢗𞢘𞢜"), ("mben", "ꛠ"), ("mbi", "ꔭ𞢓"),
   ("mbo", "ꕹꗄ𞢙𞢚𞢝𞢞"), ("mbu", "ꖞ𞢕"), ("mbuu", "𞢛"), ("me", "ምᎺᒣᘊめメ㋱ꔡꘈꚯꮊﾒ𐀕𐠕𛃔𛃕𛃖"), ("mee", "ሜᘋ"),
   ("men", "ꛢ𞠗"), ("mgba", "ꕖ"), ("mgbe", "ꔊꗮ"), ("mgbi", "ꔯ"), ("mgbo", "ꕻꗆ"), ("mgbu", "ꖠ"),
   ("mh", "ᒽ"), ("mi", "ሚᎻᒥᘌみミ㋯ꕆꛎꮋﾐ𐀖𐠖𛃉𛃊𛃋𛃌𛃍𛃎𛃏"), ("mii", "ᒦ"), ("min", "𞠔"),
   ("mo", "ሞᎼᒧᘉもモ㋲ꖒꗞꮌﾓ𐀗𐠗𛃗𛃘𛃙𛃚𛃛𛃜"), ("moa", "ⶁ"), ("mon", "𞠘"), ("moo", "ᒨᒩ"),
   ("mu", "ሙᎽᘈむムㇺ㋰ꖷꚵꮍﾑ𐀘𐠘𛃐𛃑𛃒𛃓"), ("muan", "𞠙"), ("muen", "𞠚"), ("mun", "𞠖"), ("mv", "Ᏽᏽ"),
   ("mwa", "ሟᒶᒷ"), ("mwaa", "ᒸᒹᒺ"), ("mwe", "ᎀᎂᒬᒭ𞟮"), ("mwi", "ᎁᎃᒮᒯ𞟭"), ("mwii", "ᒰᒱ"),
   ("mwo", "ᒲᒳ"), ("mwoo", "ᒴᒵ"), ("mya", "ፙ"), ("N", "ㄋ"), ("n", "ᐣᐥᓐᣙんンﾝ𛄝𛄞𛅧"),
   ("na", "ነᎾᓇᖻᘇなナ㋤ꕯꛛꮎﾅ𐀙𐠙𛁾𛁿𛂀𛂁𛂂𛂃𛂄𛂅𛂆"), ("naa", "ናᓈ"), ("naai", "ᓁ"), ("nah", "Ꮐꮐ"), ("nan", "𞡤"),
   ("nay", "ᢼ"), ("nda", "ꕡꚱ𞢯"), ("nde", "ꔕꗺ𞢱𞢲"), ("ndi", "ꔺ𞢮"), ("ndo", "ꖆꗒ𞢳𞢴"), ("ndu", "ꖫ𞢰"),
   ("ne", "ንᏁᓀᖸᘄねネ㋧ꔢꘉꮑﾈ𐀚𐠚𛂒𛂓𛂔𛂕𛂖𛂗𛂘"), ("nee", "ኔᘅ"), ("nen", "𞡦"), ("NG", "ㄫ"), ("ng", "ᓑᖕꘋ"),
   ("nga", "ᖓꕋꛕ"), ("ngaa", "ᖔ"), ("ngaai", "ᖎ"), ("ngai", "ᙰ"), ("nge", "ꗣ"), ("ngen", "𞢉"),
   ("NGG", "ㆭ"), ("ngga", "ꕬꛔ𞡸"), ("nggaa", "𞡾"), ("ngge", "ꔟꘄꘅ𞡺𞡻𞢀"), ("nggi", "ꕄ𞡷"),
   ("nggo", "ꖐꗜ𞡼𞡽𞢁𞢂"), ("nggu", "ꖵ𞡹"), ("nggua", "𞡿"), ("ngi", "ᖏ"), ("ngii", "ᖐ"),
   ("ngkwen", "ꛓ"), ("ngo", "ᖑꖼ"), ("ngon", "𞢊"), ("ngoo", "ᖒ"), ("nguan", "𞢋"), ("ngwa", "ጟ"),
   ("ngwe", "ⶓⶕ"), ("ngwi", "ⶔⶖ"), ("nh", "ᓒ"), ("ni", "ኒᏂᓂᖹᘆにニ㋥ꕇꛏꮒﾆ𐀛𐠛𛂇𛂈𛂉𛂊𛂋𛂌𛂍𛂎"), ("Nii", "ꘖ"),
   ("nii", "ᓃ"), ("nin", "𞡣"), ("nja", "ꕨ𞢵"), ("nje", "ꔜꘁꛆ𞢷"), ("njem", "ꚲ"), ("nji", "ꕁ"),
   ("njo", "ꖍꗙ𞢸"), ("nju", "ꖲ𞢶"), ("njue", "ꚾ"), ("nn", "ㄯ"), ("nng", "ᖖ"), ("nnga", "ᙵ"),
   ("nngaa", "ᙶ"), ("nngi", "ᙱ"), ("nngii", "ᙲ"), ("nngo", "ᙳ"), ("nngoo", "ᙴ"),
   ("no", "ኖᏃᓄᖺᘃのノ㋨ꖓꗟꮓﾉ𐀜𐠜𛂙𛂚𛂛𛂜𛂝"), ("noa", "ⶈ"), ("non", "𞡧"), ("noo", "ᓅᓆ"), ("noy", "ᢻ"),
   ("nsha", "ꛃ"), ("nte", "ꛇ"), ("nu", "ኑᏄᘂぬヌㇴ㋦ꖸꚽꮔﾇ𐀝𐠝𛂏𛂐𛂑"), ("nue", "ꚼ"), ("nun", "𞡥"),
   ("nv", "Ꮕꮕ"), ("nwa", "ኗᓋᓌ𐁅"), ("nwaa", "ᓍᓎᓏ"), ("nwe", "ᓉᓊ"), ("nwi", "ᣆᣇ"), ("nwii", "ᣈᣉ"),
   ("nwo", "ᣊᣋ"), ("nwoo", "ᣌᣍ"), ("nya", "ኘꕰ"), ("nyaa", "ኛ"), ("nyan", "𞣁"), ("nye", "ኝꔣꘊ"),
   ("nyee", "ኜ"), ("nyen", "𞣃"), ("nyi", "ኚꕈꚨ"), ("nyin", "𞣀"), ("nyo", "ኞꖔꗠ"), ("nyoa", "ⶉ"),
   ("nyon", "𞣄"), ("nyu", "ኙꖹ"), ("nyun", "𞣂"), ("nywa", "ኟ"), ("O", "ㄛ"),
   ("o", "Ꭳᐅᖲぉおォオㄮ㋔ꕱꕲꖺꖻꚧꭳｫｵ𐀃𐠃𛀔𛀕𛀖𞠧𞠨"), ("oe", "ㆾ"), ("OM", "ㆱ"), ("on", "ᐭ"), ("ONG", "ㆲ"),
   ("ONN", "ㆧ"), ("OO", "ㆦ"), ("oo", "ᐆᐇ"), ("OU", "ㄡ"), ("oy", "ᢰ"), ("P", "ㄆㆴ"), ("p", "ᑉᑊᗮᣔ"),
   ("p'oa", "ⶑ"), ("pa", "ፐᐸᗭぱパꕐꚫ𐀞𐠞𞢍"), ("paa", "ፓᐹ"), ("paai", "ᐰ"), ("pay", "ᢵ"),
   ("pe", "ፕᐯᗪぺペꔅꗨꛊ𐀟𐠟𞢏𞢐"), ("pee", "ፔᗫ"), ("pha", "ጰ"), ("phaa", "ጳ"), ("phe", "ጵ"),
   ("phee", "ጴ"), ("phi", "ጲ"), ("pho", "ጶ"), ("phu", "ጱ"), ("phwa", "ጷ"), ("pi", "ፒᐱᗬぴピꔪꛝ𐀠𐠠𞢌"),
   ("pii", "ᐲ"), ("po", "ፖᐳᗩぽポꕶꗁ𐀡𐠡𞢑𞢒"), ("poa", "ⶒ"), ("poo", "ᐴᐵ"), ("poy", "ᢴ"), ("pte", "𐁇"),
   ("pu", "ፑᗨぷプꖛꛈ𐀢𐠢𞢎"), ("pu2", "𐁆"), ("pue", "ꛗ"), ("pux", "ꛅ"), ("pwa", "ፗᑄᑅ"),
   ("pwaa", "ᑆᑇᑈ"), ("pwe", "ᎌᎎᐺᐻ𞟾"), ("pwi", "ᎍᎏᐼᐽ𞟽"), ("pwii", "ᐾᐿ"), ("pwo", "ᑀᑁ"),
   ("pwoo", "ᑂᑃ"), ("pwoy", "ᢶ"), ("Q", "ㄑ"), ("q", "ᖅ"), ("qa", "ቀᖃ𐀣"), ("qaa", "ቃᖄ"),
   ("qaai", "ᕾ"), ("qai", "ᙯ"), ("qe", "ቅ𐀤"), ("qee", "ቄ"), ("qha", "ቐ"), ("qhaa", "ቓ"),
   ("qhe", "ቕ"), ("qhee", "ቔ"), ("qhi", "ቒ"), ("qho", "ቖ"), ("qhu", "ቑ"), ("qhwa", "ቘ"),
   ("qhwaa", "ቛ"), ("qhwe", "ቝ"), ("qhwee", "ቜ"), ("qhwi", "ቚ"), ("qi", "ቂᕿ𐀥"), ("qii", "ᖀ"),
   ("qo", "ቆᖁ𐀦"), ("qoa", "ቇ"), ("qoo", "ᖂ"), ("qu", "ቁ"), ("qua", "Ꮖꮖ"), ("que", "Ꮗꮗ"),
   ("qui", "Ꮘꮘ"), ("quo", "Ꮙꮙ"), ("quu", "Ꮚꮚ"), ("quv", "Ꮛꮛ"), ("qwa", "ቈ"), ("qwaa", "ቋ"),
   ("qwe", "ቍ𞟱"), ("qwee", "ቌ"), ("qwi", "ቊ𞟰𞟲"), ("R", "ㄖ"), ("r", "ᕐᕑᕒᣴ"),
   ("ra", "ረᕋᖍᗏらラㇻ㋶ꕟﾗ𐀨𐠣𛃭𛃮𛃯𛃰𞢭"), ("ra2", "𐁈"), ("raa", "ራᕌ"), ("raai", "ᕅ"), ("ray", "ᣅ"),
   ("re", "ርᕂᕃᖊᗌれレㇾ㋹ꔓꗸꚥꛑﾚ𐀩𐠤𛃾𛃿𛄀𛄁"), ("ree", "ሬᗍ"), ("ren", "ꛡ"), ("ri", "ሪᕆᖋᗎりリㇼ㋷ꔸꚬﾘ𐀪𐠥𛃱𛃲𛃳𛃴𛃵𛃶𛃷"),
   ("rie", "ꚭ"), ("rii", "ᕇ"), ("ro", "ሮᕈᖌᗋろロㇿ㋺ꖄꗐﾛ𐀫𐠦𛄂𛄃𛄄𛄅𛄆𛄇"), ("ro2", "𐁊"), ("roa", "ⶂ"),
   ("roo", "ᕉ"), ("ru", "ሩᗊるルㇽ㋸ꖩꛌﾙ𐀬𐠧𛃸𛃹𛃺𛃻𛃼𛃽"), ("rux", "ꛐ"), ("rwa", "ሯᣓ"), ("rwaa", "ᕎᕏ"),
   ("rwe", "ᣎᣠ"), ("rwi", "ᣏ"), ("rwii", "ᣐ"), ("rwo", "ᣑ"), ("rwoo", "ᣒ"), ("rya", "ፘ"),
   ("S", "ㄙ"), ("s", "Ꮝᐢᔅᔆᔈᔋᣚᣵꮝ"), ("sa", "ሰᏌᓴᙓさサ㋚ꕢꮜｻ𐀭𐠨𛀼𛀽𛀾𛀿𛁀𛁁𛁂𛁃𞠯"), ("saa", "ሳᓵ"), ("saai", "ᓮ"),
   ("say", "ᢿ"), ("scwa", "ᔏ"), ("se", "ስᏎᓭᙐせセ㋝ꔖꗻꮞｾ𐀮𐠩𛁒𛁓𛁔𛁕𛁖𞠱𞠲"), ("see", "ሴᙑ"), ("SH", "ㄕ"),
   ("sh", "ᐡᔥᙚᣛⶥ"), ("sha", "ሸᔕᖚᙙⶣꕣ"), ("shaa", "ሻᔖ"), ("shay", "ᣁ"), ("she", "ሽᔐᖗᙖⶠⶤꔗꗼ"),
   ("shee", "ሼᙗ"), ("shi", "ሺᔑᖘᙘⶢㇱꔼꚶ𛁄𛁅𛁆𛁇𛁈𛁉"), ("shii", "ᔒ"), ("sho", "ሾᔓᖙᙕⶦꖈꗔꛖ"), ("shoa", "ⶄ"),
   ("shoo", "ᔔᣫ"), ("shoy", "ᣀ"), ("shu", "ሹᙔⶡꖭꛀ"), ("shux", "ꚸ"), ("shwa", "ሿᔡᔢ"),
   ("shwaa", "ᔣᔤ"), ("shwe", "ᔗᔘᣪ"), ("shwi", "ᔙᔚ"), ("shwii", "ᔛᔜ"), ("shwo", "ᔝᔞ"),
   ("shwoo", "ᔟᔠ"), ("shwoy", "ᣂ"), ("si", "ሲᏏᓯᙒしシ㋛ꔻꚷꮟｼ𐀯𐠪𞠮"), ("sia", "𞠵"), ("sii", "ᓰ"),
   ("sk", "ᔉ"), ("skw", "ᔊ"), ("skwa", "ᔎ"), ("so", "ሶᏐᓱᙏそソ㋞ꖇꗓꘒꮠｿ𐀰𐠫𛁗𛁘𛁙𛁚𛁛𛁜𛁝𞠳𞠴"), ("soa", "ⶃ"),
   ("soo", "ᓲᓳ"), ("soy", "ᢾ"), ("spwa", "ᔌ"), ("stwa", "ᔍ"), ("su", "ሱᏑᙎすスㇲ㋜ꖬꚴꮡｽ𐀱𐠬𛁊𛁋𛁌𛁍𛁎𛁏𛁐𛁑𞠰"),
   ("sux", "ꚹ"), ("sv", "Ꮢꮢ"), ("sw", "ᔇ"), ("swa", "ሷᔀᔁ"), ("swaa", "ᔂᔃᔄ"), ("swe", "ᓶᓷ"),
   ("swi", "ᓸᓹ"), ("swii", "ᓺᓻ"), ("swo", "ᓼᓽ"), ("swoo", "ᓾᓿ"), ("sza", "ሠ"), ("szaa", "ሣ"),
   ("sze", "ሥ"), ("szee", "ሤ"), ("szi", "ሢ"), ("szo", "ሦ"), ("szu", "ሡ"), ("szwa", "ሧ"),
   ("T", "ㄊㆵ"), ("t", "ᐟᑦᣕ"), ("t'oa", "ⶏ"), ("ta", "ተᏔᑕたタ㋟ꕚꚰꮤﾀ𐀲𐠭𛁞𛁟𛁠𛁡𞡅"), ("ta2", "𐁋"),
   ("Taa", "ꘙ"), ("taa", "ታᑖ"), ("taai", "ᑍ"), ("tay", "ᢷ"), ("te", "ትᏖᑌてテ㋢ꔎꗳꚦꮦﾃ𐀳𐠮𛁮𛁯𛁰𛁱𛁲𛁳𛁴𛁵𛁶𞡇𞡈"),
   ("tee", "ቴ"), ("th", "ᒢᕪᖟᖮᙾꬅ"), ("tha", "ጠᕦᖞᖬᗡꕛꬃ"), ("thaa", "ጣᕧᖭ"), ("the", "ጥᕞᕟᖛᖧᗞꔏꗴꬄ"),
   ("thee", "ጤᗟ"), ("thi", "ጢᕠᕡᖜᖨᗠꔴꬂ"), ("thii", "ᕢᕣᖩ"), ("tho", "ጦᕤᖝᖪᗝꖀꗌꬆ"), ("thoo", "ᕥᖫ"),
   ("thu", "ጡᗜꖥꬁ"), ("thwa", "ጧᙼᣤ"), ("thwaa", "ᕨᕩᙽ"), ("thwe", "ᙷᣣ"), ("thwi", "ᙸ"),
   ("thwii", "ᙹ"), ("thwo", "ᙺ"), ("thwoo", "ᙻ"), ("ti", "ቲᏘᑎちチ㋠ꔳꛤꮨﾁ𐀴𐠯𞡄"), ("tii", "ᑏ"),
   ("Ting", "ꘕ"), ("tla", "Ꮭᘿꮭ"), ("tle", "Ꮮᘼꮮ"), ("tlee", "ᘽ"), ("tlha", "ᖉᘹ"), ("tlhe", "ᖆᘶ"),
   ("tlhee", "ᘷ"), ("tlhi", "ᖇᘸ"), ("tlho", "ᖈᘵ"), ("tlhu", "ᘴ"), ("tli", "Ꮯᘾꮯ"), ("tlo", "Ꮰᘻꮰ"),
   ("tloo", "ᣩ"), ("tlu", "Ꮱᘺꮱ"), ("tlv", "Ꮲꮲ"), ("tlwe", "ᣨ"), ("to", "ቶᑐとトㇳ㋣ꕿꗋﾄ𐀵𐠰𛁷𛁸𛁹𛁺𛁻𛁼𛁽𞡉𞡊"),
   ("toa", "ⶆ"), ("Tong", "ꘝ"), ("too", "ᑑᑒ"), ("ts'oa", "ፇ"), ("tsa", "ጸᏣᙠꮳ"), ("tsaa", "ጻ"),
   ("tse", "ጽᏤᙝꮴ"), ("tsee", "ጼᙞ"), ("tsi", "ጺᏥᙟꮵ"), ("tso", "ጾᏦᙜꮶ"), ("tsu", "ጹᏧᙛꮷ𛁩𛁪𛁫𛁬𛁭"),
   ("tsv", "Ꮸꮸ"), ("tswa", "ጿ"), ("tta", "ᑪᗧ"), ("tte", "ᑧᗤ"), ("ttee", "ᗥ"), ("tth", "ᕯ"),
   ("ttha", "ᕮ"), ("tthaa", "ᣧ"), ("tthe", "ᕫ"), ("tthi", "ᕬ"), ("ttho", "ᕭ"), ("tthoo", "ᣦ"),
   ("tthwe", "ᣥ"), ("tti", "ᑨᗦ"), ("tto", "ᑩᗣ"), ("ttsa", "ᙬ"), ("ttse", "ᙩ"), ("ttsee", "ᙪ"),
   ("ttsi", "ᙫ"), ("ttso", "ᙨ"), ("ttsu", "ᙧ"), ("ttu", "ᗢ"), ("tu", "ቱっつッツ㋡ꖤｯﾂ𐀶𐠱𞡆"),
   ("twa", "ቷᑡᑢ"), ("twaa", "ᑣᑤᑥ"), ("twe", "ᑗᑘ𐁌"), ("twi", "ᑙᑚ"), ("twii", "ᑛᑜ"),
   ("two", "ᑝᑞ𐁍"), ("twoo", "ᑟᑠ"), ("tya", "ᕳ"), ("tye", "ᕰ"), ("tyi", "ᕱ"), ("tyo", "ᕲ"),
   ("tza", "ፀ"), ("tzaa", "ፃ"), ("tze", "ፅ"), ("tzee", "ፄ"), ("tzi", "ፂ"), ("tzo", "ፆ"),
   ("tzu", "ፁ"), ("U", "ㄨ"), ("u", "Ꭴぅうゥウ㋒㋓ꖕꖖꚢꭴｩｳ𐀄𐠄𛀊𛀋𛀌𛀍𛀎𞠤"), ("UNN", "ㆫ"), ("V", "ㄪ"),
   ("v", "Ꭵㆸꭵ"), ("va", "ቨヷꕙ𞢺"), ("vaa", "ቫ"), ("ve", "ቭヹꔍꗲ𞢼𞢽"), ("vee", "ቬ"), ("vi", "ቪヸꔲ𞢹"),
   ("vo", "ቮヺꕾꗊ𞢾𞢿"), ("vu", "ቩゔヴꖣ𞢻"), ("vwa", "ቯ"), ("w", "ᐝᐤᐧᙿᣜᣝ"),
   ("wa", "ወᏩᐗᐘᖷᗕゎわヮワ㋻ꕎꕏꛚꮹﾜ𐀷𐠲𛄈𛄉𛄊𛄋𛄌𞠉"), ("waa", "ዋᐙᐚᐛ"), ("way", "ᢳ"),
   ("we", "ውᏪᐌᐍᖴᗒゑヱ㋽ꔃꔄꗦꗧꮺ𐀸𐠳𛄒𛄓𛄔𛄕𛅑𛅥𞠋𞠌"), ("wee", "ዌᗓ"), ("wei", "𞠐"),
   ("wi", "ዊᏫᐎᐏᖵᗔゐヰ㋼ꔨꔩꮻ𐀹𐠴𛄍𛄎𛄏𛄐𛄑𛅐𛅤𞠈"), ("wii", "ᐐᐑ"), ("wo", "ዎᏬᐒᐓᖶᗑをヲ㋾ꕴꕵꖿꗀꮼｦ𐀺𐠵𛄖𛄗𛄘𛄙𛄚𛄛𛄜𛅒𛅦𞠍𞠎"),
   ("woa", "ዏ"), ("woo", "ᐔᐕᐖ"), ("wu", "ዉᏭᗐꖙꖚꛉꮽ𛄟𛄢𞠊"), ("wui", "𞠏"), ("wv", "Ꮾꮾ"), ("wva", "𞠒"),
   ("wve", "𞠓"), ("wvi", "𞠑"), ("X", "ㄒ"), ("xa", "ኀ𐠷"), ("xaa", "ኃ"), ("xe", "ኅ𐠸"),
   ("xee", "ኄ"), ("xi", "ኂ"), ("xo", "ኆ"), ("xoa", "ኇ"), ("xu", "ኁ"), ("xwa", "ኈ"),
   ("xwaa", "ኋ"), ("xwe", "ኍ"), ("xwee", "ኌ"), ("xwi", "ኊ"), ("y", "ᔾᔿᕀᣞㆺ"),
   ("ya", "የᏯᔭᘓゃやャヤ㋳ꕩꛂꮿｬﾔ𛃝𛃞𛃟𛃠𛃡𛃢𞡔"), ("yaa", "ያᔮ"), ("yaai", "ᔧ"), ("yay", "ᣄ"),
   ("ye", "ይᏰᏸᔦᘐꔝꘂ𛄡𞡖𞡗"), ("yee", "ዬᘑ"), ("yi", "ዪᏱᏹᔨᕁᘒꕂ𛄠𞡓"), ("yii", "ᔩ"),
   ("yo", "ዮᏲᏺᔪᘏょよョヨ㋵ꖎꗚꚿｮﾖ𛃧𛃨𛃩𛃪𛃫𛃬𞡘𞡙"), ("yoa", "ዯ"), ("yoo", "ᔫᔬ"), ("yori", "ゟ"), ("yoy", "ᣃ"),
   ("yu", "ዩᏳᏻᘎゅゆュユ㋴ꖳꛁｭﾕ𛃣𛃤𛃥𛃦𞡕"), ("yv", "Ᏼᏼ"), ("ywa", "ᔹᔺ"), ("ywaa", "ᔻᔼᔽ"), ("ywe", "ᔯᔰ"),
   ("ywi", "ᔱᔲ"), ("ywii", "ᔳᔴ"), ("ywo", "ᔵᔶ"), ("ywoo", "ᔷᔸ"), ("Z", "ㄗ"), ("z", "ᙆᙇ"),
   ("za", "ዘᙅざザꕤ𐀼𐠼"), ("zaa", "ዛ"), ("ze", "ዝᙂぜゼꔘꗽ𐀽"), ("zee", "ዜᙃ"), ("ZH", "ㄓ"), ("zh", "ⶵ"),
   ("zha", "ዠⶳꕥ"), ("zhaa", "ዣ"), ("zhe", "ዥⶰⶴꔙꗾ"), ("zhee", "ዤ"), ("zhi", "ዢⶲꔾ"),
   ("zho", "ዦⶶꖊꗖ"), ("zhu", "ዡⶱꖯ"), ("zhwa", "ዧ"), ("ZI", "ㆡ"), ("zi", "ዚᙄじジꔽ"),
   ("zo", "ዞᙁぞゾꖉꗕ𐀿𐠿"), ("zoa", "ⶋ"), ("zu", "ዙᙀずズꖮ"), ("zwa", "ዟ")]

end AtomicCss.Text
