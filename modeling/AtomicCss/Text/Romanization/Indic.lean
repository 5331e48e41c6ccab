/-!
# Letters with inherent vowels

ASCII spellings of the scripts of India and South-East Asia. A consonant is spelled without
the vowel that it carries; vowels that are written are spelled.
-/

set_option autoImplicit false

namespace AtomicCss.Text

/-- The spellings with the letters and marks that have them. -/
def indicSpellings : List (String × String) :=
  [(" * ", "๏༌"), (" +/ ", "༐"), (" -/ ", "༏"), (" . ", "෴"), (" / ", "।།၊"), (" // ", "॥๚༎။"),
   (" /// ", "๛"), (" /X/ ", "༓"), (" /XX/ ", "༒"), ("!", "\u17ce"),
   ("'", "\u093cऽ\u0951\u0952\u0953\u0954\u09bcঽ\u0a3c\u0abcઽ\u0afa\u0afb\u0afc\u0afd\u0afe"),
   ("'", "\u0aff\u0b3cଽఽಽഽ\u0e3a\u1037ៜᮺ"),
   ("+", "\u09d7\u0b56\u0b57\u0bd7௸\u0c55\u0c56\u0cd5\u0cd6\u0d57ๆໆ\u1b44"), ("+10+", "௰"),
   ("+100+", "௱"), ("+1000+", "௲"), (", ", "༔"),
   ("-", "\u09fe\u0b55௶௷௺\u0dd7་ဢ\u108d\u1715ᤀᥟᥰᥱᥲᥳᥴᦀᦁᧈᧉᨕᩋ\u1a7b\u1ac1\u1ac2\u1ac3\u1ac4"),
   ("-", "\u1ac5\u1ac6\u1ac7\u1ac8\u1ac9\u1acb\u1b34\u1baaᯀᯁ\u1be6\u1bf2\u1bf3ᰣᳺ"), ("-.5", "༳"),
   ("-1", "᧱"), ("-10", "᧺"), ("-11", "᧻"), ("-12", "᧼"), ("-13", "᧽"), ("-14", "᧾"),
   ("-15", "᧿"), ("-2", "᧲"), ("-3", "᧳"), ("-4", "᧴"), ("-5", "᧵"), ("-6", "᧶"), ("-7", "᧷"),
   ("-8", "᧸"), ("-9", "᧹"), ("-n", "ꩵ"), (".", "॰\u1a7f"), (".5", "༪"), ("/16", "৹"),
   ("0", "𑬉"), ("08", "᧠"), ("1", "୲୵౼႞᧚꠰꠳꩸𑿀"), ("1-", "৴᧡"), ("1-1-", "৸"), ("1.5", "༫"),
   ("1/2", "𐩈"), ("10", "𐩄𑿅"), ("10-", "᧪"), ("100", "൱𐩆𑁤𑇳"), ("1000", "൲𐩇𑁥𑇴"), ("11-", "᧫"),
   ("12", "൚𑿆"), ("12-", "᧬"), ("13-", "᧭"), ("14-", "᧮"), ("15", "𑿇"), ("15-", "᧯"),
   ("16", "൛𑿈"), ("160", "൴𑿑𑿒"), ("2", "୳୶౽൘꠱꠴꩹𑿁"), ("2-", "৵᧢"), ("2.5", "༬"),
   ("20", "൶𐩅𑁜𑇫𑜻𑱤𑿉𑿊"), ("240", "൵𑿓"), ("3", "୴୷౾꠲꠵"), ("3-", "৶᧣"), ("3.5", "༭"), ("30", "𑁝𑇬𑱥"),
   ("32", "൜𑿋"), ("4", "൙𑿂"), ("4-", "৷᧤"), ("4.5", "༮"), ("40", "൷𑁞𑇭𑱦𑿌"), ("48", "൝𑿍"),
   ("5", "𑬂𑬆𑿃"), ("5-", "᧥"), ("5.5", "༯"), ("50", "𑁟𑇮𑱧"), ("6", "𑬃"), ("6-", "᧦"), ("6.5", "༰"),
   ("60", "൸𑁠𑇯𑱨𑿎"), ("64", "൞𑿏"), ("7-", "᧧"), ("7.5", "༱"), ("70", "𑁡𑇰𑱩"), ("8", "𑬄𑿄"),
   ("8-", "᧨"), ("8.5", "༲"), ("80", "൳𑁢𑇱𑱪𑿐"), ("88", "᧰"), ("9", "𑬅𑬇𑬈"), ("9-", "᧩"),
   ("90", "𑁣𑇲𑱫"),
   (":", "\u1038\u1063\u1064\u1069\u106a\u106b\u106c\u106d\u1087\u1088\u1089\u108a\u108b"),
   (":", "\u108c\u108f\u109a\u109b"), ("?", "ॽ"), ("_", "᪫᭝꧇"), ("`", "อອ"), ("A", "𑿗𑿭"),
   ("a", "ऄअ\u094fॲॵঅਅઅଅஅఅಅഅඅะ\u0e31ະ\u0eb1ཨ\u0fb8အ\u102b\u1083\u109cᜀᜠᝀᝠឣ\u17b4\u17cb\u17d0"),
   ("a", "\u1920ᥣ\u1a61\u1a62\u1a63\u1a64ᬅᬆ\u1b35᭡ᮃ\u1c26ꠀ\ua823ꡝꢂꢃ\ua8b5\ua8eaꣾ\ua8ffꤢꦄ"),
   ("a", "\ua9b4ꨀ\uaa29\uaab0ꯑ\uabe5𐨀𑀅𑀆𑀸𑀹𑂃𑂄𑂰𑃢𑄃𑄧𑅅𑅐𑆃𑆄𑆳𑈀𑈁𑈬𑊀𑊰𑊱𑋠𑌅𑌆𑌾𑍰𑐀𑐁𑐵𑒁𑒂𑒰𑖀𑖁𑖯𑘀𑘁𑘰𑚀𑚁𑚭𑜠𑜡𑠀𑠁𑠬𑤀𑤁𑤰𑦠𑦡𑧑𑨀𑩐𑰀𑰁"),
   ("a", "𑰯𑴀𑴁𑴱𑵠𑵡𑶊𑻱𑼄𑼅𑼴𑼵"), ("a`", "\u17c8"),
   ("aa", "आ\u093eআ\u09beਆ\u0a3eઆ\u0abeଆ\u0b3eஆ\u0bbeఆ\u0c3eಆ\u0cbeആ\u0d3eආ\u0dcfาາ\u0f71"),
   ("aa", "\u102cឤ\u17b5\u17b6ᦱꪱ"), ("aae", "ඈ\u0dd1"), ("aai", "ᦻ"),
   ("ae", "ඇ\u0dd0แ\u17c2ᥦᦶ\u1a6f\ua927ꪵ"),
   ("ai", "ऐ\u0948ঐ\u09c8ਐ\u0a48ઐ\u0ac8ଐ\u0b48ஐ\u0bc8ఐ\u0c48ಐ\u0cc8ഐ\u0d48ඓ\u0ddbใไໄ\u1032"),
   ("ai", "\u1086\u109dឰ\u17c3\u1924ᥭᦺ\u1a71\u1a72ᬐ\u1b3f᭩ꢎ\ua8c0\ua94aꦍ\ua9bbꨄ\uaa30ꪼ\uaaed𑀐"),
   ("ai", "𑁃𑂊𑂶𑄭𑆎𑆽𑈅𑈱𑊷𑋦𑌐𑍈𑐋𑐿𑒌𑒻𑖋𑖹𑘋𑘺𑚇𑚳𑜩𑠇𑠴𑤷𑦫𑧛𑨇𑩗𑰋𑰹𑴈𑴼𑵨𑶑𑼏𑼿"), ("am", "ำຳ\uaabe"), ("an", "ꪽ"),
   ("ao", "ๅ\u1034"),
   ("au", "औ\u094cঔ\u09ccਔ\u0a4cઔ\u0accଔ\u0b4cஔ\u0bccఔ\u0c4cಔ\u0cccഔ\u0d4cඖ\u0ddeဪឳ\u17c5"),
   ("au", "\u1926ᬒ\u1b41ꢑ\ua8c3\ua94c\uaa31\uaaee\uaaef𑀒𑁅𑂌𑂸𑄯𑄲𑆐𑆿𑈇𑈳𑊹𑋨𑌔𑍌𑍗𑐍𑑁𑒎𑒾𑖍𑖻𑘍𑘼𑚉𑚵𑠉𑠶𑦭𑧝𑨈𑩘𑰍𑰻𑴋𑴿𑵫𑶔"),
   ("aue", "ᥬꪻ"), ("AUM", "ॐૐༀ"), ("av", "𑜧"), ("aw", "\ua92a"), ("ay", "ໃ"), ("B", "᳇"),
   ("b", "बॿবਬબବబಬബබบບབ\u0fa6ဗၜၝၿᜊᜪᝊᝪពᤒᥙᦔᦗᨅᨷ\u1a5dᬩᮘᯅᯆᰓꠛꡎꢨꤙꤷꦧꧽꨝꪚꪛꯕ𐨦𑀩𑂥𑃒𑅪𑆧𑈡𑈢𑊝𑋔𑋕𑌬𑐧𑒥𑖤𑘤𑚠𑜈𑜚𑠠𑤢𑧄𑨠𑩲𑪏𑰤𑲀"),
   ("b", "𑲠𑴢𑵮𑻤𑼨"), ("ba", "𑄝"), ("bb", "ਭᦢᦥ"),
   ("bh", "भভભଭభಭഭභຠ\u0f57\u0fa7ဘភᤓᬪᮽꠜꢩꦨꧤꧾꨞꯚ𐨧𑀪𑂦𑅫𑆨𑈣𑊟𑋖𑌭𑐨𑒦𑖥𑘥𑚡𑜘𑠡𑤣𑧅𑨡𑩳𑰥𑴣𑵯𑼩"), ("Bh.", "฿"),
   ("bha", "𑄞"), ("bl", "ᰔ"), ("C", "𑿖"),
   ("c", "चচਚચଚசచౘಚചචཅ\u0f95စၸចᤆᥡᨌᬘᮎᯡᰆꠌꡄꢗꤹꦕꨌꩄꩡꯆ𐨕𑀘𑂒𑃓𑅙𑆖𑈎𑊊𑋀𑌚𑐔𑒔𑖓𑘓𑚏𑝀𑠏𑤑𑦳𑨐𑩡𑰓𑱶𑲖𑴑𑵻𑻩𑼗"), ("ca", "𑄌"),
   ("cch", "จ"), ("ch", "छছਛછଛఛಛഛඡฉชซฌຈຉཆ\u0f96ဆឆᤇᨧᨩ᪭ᬙᰇꠍꡅꢘꦖꧡꨍꩢꩾꪊꪋꫢ𐨖𑀙𑂓𑅚𑆗𑈏𑊋𑋁𑌛𑐕𑒕𑖔𑘔𑚐𑜋𑠐𑤒𑦴𑨑𑩢𑰔𑱷𑲗𑴒𑵼𑼘"),
   ("cha", "𑄍"), ("chh", "ꪌꪍ"), ("D", "᳆"),
   ("d", "दॸॾদਦદଦదದദ൹දฎดຑດད\u0fa1ဒၻᜇᜧᝇᝧឌទᤍᥖᦎᦑᨉᨯᬟᬤᮓᯑᰌᱏꠒꠖꡊꢞꢣꤘꤴꦝꦢꧭꧻꨕꩨꪒꪓꫦꯗ𐨜𐨡𑀟𑀤𑂙𑂠𑃔𑅠𑅥𑆝𑆢𑈖𑈛𑊒𑊘𑋈𑋏𑌡𑌦𑌶𑌷𑐜𑐡"),
   ("d", "𑒛𑒠𑖚𑖟𑘚𑘟𑚖𑚛𑜓𑝃𑠖𑠛𑤘𑤝𑦺𑦿𑨖𑨛𑩨𑩭𑪍𑰚𑰟𑱼𑲜𑴘𑴝𑵸𑶂𑻧𑼞𑼣"), ("da", "𑄘"), ("dd", "डডਡડଡడಡഡඩཌ\u0f9cဍᦡᦤꡫ"),
   ("dda", "𑄓"), ("dddh", "\u095c"), ("ddh", "ढঢਢઢଢఢಢഢඪ\u0f4d\u0f9dဎឍ"), ("ddha", "𑄔"),
   ("dh", "धধਧધଧధಧധධຒຘ\u0f52\u0fa2ဓធᤎᬠᬥꠓꠗꢟꢤꦞꦣꧮꧼꨖꩩꩪꫧꯙ𐨝𐨢𑀠𑀥𑂛𑂡𑅡𑅦𑆞𑆣𑈗𑈝𑊔𑊙𑋋𑋐𑌢𑌧𑐝𑐢𑒜𑒡𑖛𑖠𑘛𑘠𑚗𑚜𑜔𑝄𑠗𑠜𑤙𑤞𑦻𑧀𑨗𑨜𑩩𑩮𑰛"),
   ("dh", "𑰠𑴙𑴞𑵹𑶃𑼟𑼤"), ("dha", "𑄙"), ("dz", "ཛ\u0fabꡒ𑨥𑩷𑲄𑲤"), ("dzh", "\u0f5c\u0fac𑨦"),
   ("e", "ऎए\u0946\u0947\u094e\u0955এ\u09c7ઍએ\u0ac7ଏ\u0b47எ\u0bc6ఎ\u0c46ಎ\u0cc6എ\u0d46එ\u0dd9"),
   ("e", "เເ\u0f7aဧဨ\u1031\u1035\u1074\u1084\u1085ឯ\u17c1\u1923\u1927ᥥᦵ\u1a19\u1a1bᩑ\u1a6eᬏ"),
   ("e", "\u1b3e\u1b42᭢᭧ᮆᮈ\u1ba6\u1ba8\u1be7\u1be8\u1be9\u1c2cꠄ\ua826ꡠꡦꢌꢍ\ua8be\ua8bf\ua929"),
   ("e", "\ua949ꦌ\ua9ba\ua9bcꨃ\uaa2eꫠ\uabe6𐨅𑀏𑁂𑁱𑁳𑂉𑂵𑃣𑃧𑄆𑄬𑅓𑆍𑆼𑇎𑈄𑈰𑊃𑊶𑋥𑌏𑍇𑐊𑐾𑒋𑒻𑖊𑖸𑘊𑘹𑚆𑚲𑜦𑠆𑠳𑤆𑤵𑦪𑧚𑧤𑨄𑩔𑰊𑰸𑲳𑴆𑴺𑵧𑶐"),
   ("e", "𑻵𑼎𑼾"), ("e*", "၏"), ("ea", "\ua94e"),
   ("ee", "ਏ\u0a47ஏ\u0bc7ఏ\u0c47ಏ\u0cc7ഏ\u0d47ඒ\u0dda\u0f7b"), ("ei", "ແ\uaa2c\uabe9𑅆"),
   ("eN", "ऍ\u0945\u0ac5"), ("eu", "ᮉ\u1ba9\ua94d𑽀"), ("f", "\u095e\u0a5eෆฝฟຝຟၾႎᥜᦚᦝᨺᨼᭈᮖᰑꡤꧨꩯꪠꪡ"),
   ("f-", "ꡰ"), ("fl", "ᰒ"),
   ("g", "गॻগ৻ਗગଗగಗഗගໞག\u0f92ဂၷᜄᜤᝄᝤគᤃᥐᦂᦅᨁ\u1accᬕᮌᯎᯏᰃꠉꡂꢔꤌꤱꦒꧩꨈꩁꩠꪆꪇꯒ𐨒𑀕𑂏𑃕𑅗𑆓𑈊𑈋𑊆𑊼𑊽𑌗𑐐𑒑𑖐𑘐𑚌𑜕𑜖𑠌𑤎𑦰𑨍𑩞𑪊𑰐𑱴𑲔"),
   ("g", "𑴎𑵶𑻡𑼔"), ("G.E.O.", "ੴ"), ("ga", "𑄉"), ("gg", "ꡥ"),
   ("gh", "घঘਘઘଘఘಘഘඝຆ\u0f43\u0f93ဃឃᤄᬖꠊꢕꦓꧠꧪꨉꯘ𐨓𑀖𑂐𑅘𑆔𑈌𑊈𑊾𑌘𑐑𑒒𑖑𑘑𑚍𑜗𑠍𑤏𑦱𑨎𑩟𑰑𑴏𑵷𑼕"), ("gha", "𑄊"),
   ("ghh", "\u095a\u0a5a"), ("ghw", "ၰ"), ("gl", "ᰄ"), ("gn", "ໟ"), ("gw", "ᦦᦨ"),
   ("H", "\u0903\u0983\u0a71\u0a83\u0b03ஃ\u0c03\u0c83\u0d03\u0d83\u0f7f\u17c7"),
   ("h", "हহ\u0a03ਹહହஹహಹೱೲഹහหฮຕຫຮཧྌ\u0f8d\u0f8e\u0f8f\u0fb7ဟ\u103eႁᜑᜱᝑហᤜ\u1939ᥑᦠᦣᨖᩁᩉᩌ\u1b04ᬳ᭪"),
   ("h", "\u1b82ᮠᯂᯃᯄ\u1bf1ᰝ\u1ce2\u1ce3\u1ce4\u1ce5\u1ce6\u1ce7\u1ce8ᳲᳳᳵᳶꠢꡜ\ua881ꢲ\ua8b4ꤟꥁ"),
   ("h", "\ua952\ua983ꦲꨨ\uaa4dꩭꪬꪭ\uaaf5ꯍ𐨏𐨱𑀂𑀃𑀳𑂂𑂯𑃞𑄂𑅱𑆂𑆲𑈪𑊦𑋞𑌃𑌹𑐴𑑅𑑡𑒯𑓁𑖮𑖾𑘮𑘾𑚩𑚬𑜑𑠪𑠸𑤭𑧎𑧟𑨱𑨹𑪂𑪅𑪗𑰮𑰾𑲎𑲮𑴬𑵁𑶇𑶖𑼃𑼲"),
   ("h-", "ꡯ"), ("ha", "𑄦𑪴"), ("haa", "𑪵"), ("hh", "ᥞ"), ("hi", "𑪰"), ("hii", "𑪱"), ("hk", "ꤋ"),
   ("hl", "ᰞ"), ("hm", "ໝꩶ"), ("hn", "ໜ𑐓"), ("hp", "ꤖ"), ("hs", "ꤏ"), ("ht", "ꤓ"), ("hu", "𑪲"),
   ("huu", "𑪳"),
   ("i", "इ\u093fই\u09bfਇ\u0a3fઇ\u0abfଇ\u0b3fஇ\u0bbfఇ\u0c3fಇ\u0cbfഇ\u0d3fൟඉ\u0dd2\u0e34\u0eb4"),
   ("i", "\u0f72\u0f80ဣ\u102d\u1033\u1071ᜁ\u1712ᜡ\u1732ᝁ\u1752ᝡ\u1772ឥ\u17b7\u1921ᥤᦲ\u1a17ᩍᩎ"),
   ("i", "\u1a65\u1a66ᬇᬈ\u1b36\u1b37᭦ᮄ\u1ba4ᯤ\u1bea\u1beb\u1c27ꠁ\ua824ꡞꢄꢅ\ua8b6\ua8b7ꤤ\ua947ꦅ"),
   ("i", "ꦆꦇ\ua9b6\ua9b7ꨁ\uaa2a\uaa2b\uaab2\uaaebꯏꯢ\uabe4𐨁𑀇𑀈𑀺𑀻𑂅𑂆𑂱𑂲𑃤𑄄𑄨𑄩𑅑𑆅𑆆𑆴𑆵𑈂𑈭𑈮𑉀𑊁𑊲𑊳𑋡𑋢𑌇𑌈𑌿𑍀𑐂𑐃𑐶𑐷𑒃"),
   ("i", "𑒄𑒱𑒲𑖂𑖃𑖰𑖱𑗘𑗙𑗚𑘂𑘃𑘱𑘲𑚂𑚃𑚮𑚯𑜢𑜣𑠂𑠃𑠭𑠮𑤂𑤃𑤱𑤲𑦢𑦣𑧒𑧓𑨁𑨉𑩑𑰂𑰃𑰰𑰱𑲱𑴂𑴃𑴲𑴳𑵢𑵣𑶋𑶌𑻳𑼆𑼇𑼶𑼷"), ("ia", "\uaab8"),
   ("ie", "\u17c0"),
   ("ii", "ई\u0940ঈ\u09c0ਈ\u0a40ઈ\u0ac0ଈ\u0b40ஈ\u0bc0ఈ\u0c40ಈ\u0cc0ഈ\u0d40ඊ\u0dd3\u0e35\u0eb5"),
   ("ii", "\u0f73\u0f81ဤ\u102eឦ\u17b8ᧀ"),
   ("j", "जॼজਜજଜஜజಜജජཇ\u0f97ဇជᤈᨍᬚᮏᯐᰈꠎꡆꢙꤡꤺꦗꧫꨎꩣꯖ𐨗𑀚𑂔𑃠𑅛𑆘𑈐𑈑𑊌𑊍𑋂𑋃𑌜𑐖𑒖𑖕𑘕𑚑𑜊𑠑𑤓𑦵𑨒𑩣𑰕𑱸𑲘𑴓𑶀𑻪𑼙"), ("ja", "𑄎"),
   ("jh", "झঝਝઝଝఝಝഝඣຌဈၛឈᤉᬛꠏꢚꦙꧢꧬꨏꩤꯓ𑀛𑂕𑅜𑆙𑋄𑌝𑐗𑒗𑖖𑘖𑚒𑜙𑠒𑦶𑩤𑰖𑴔𑶁𑼚"), ("jha", "𑄏"), ("jn", "ᤝ𑴯"),
   ("jny", "ඥᭌꦘ𑼳"), ("K", "᳅𑿚𑿝𑿢"),
   ("k", "कকਕકକகకಕകൿකกກཀ\u0f90ကၵᜃᜣᝃᝣកᤁ\u1930ᥠᦃᦆᧅᨀᨠᨣᬓᮊᮾᰀ\u1c2dꠇꡀꢒ\ua8ecꤊꤰꦏꨆꩀꪀꪁꯀꯛ𐨐𐨲𑀓𑂍𑃟𑅕𑆑𑈈𑊄𑊺𑌕𑍱𑐎𑒏"),
   ("k", "𑖎𑘎𑚊𑜀𑠊𑤌𑦮𑨋𑩜𑪋𑰎𑱲𑲒𑴌𑵱𑻠𑼒"), ("ka", "𑄇"),
   ("kh", "खখਖખଖఖಖഖඛขฃคฅฆຂຄཁ\u0f91ခၶខᤂᨡᨢᨤᨥᬔᮮᰂꠈꡁꢓꦑꨇꪂꪃꯈ𐨑𑀔𑂎𑅖𑆒𑈉𑊅𑊻𑌖𑐏𑒐𑖏𑘏𑚸𑜁𑠋𑤍𑦯𑨌𑩝𑰏𑱳𑲓𑴍𑵲𑼓"), ("kha", "𑄈"),
   ("khh", "\u0959\u0a59"), ("kl", "ᰁ"), ("Kon", "ꫛ"), ("KR", "៛"), ("ks", "𑨲𑪃𑴮"),
   ("kss", "\u0f69\u0fb9"), ("kw", "ᦧᦩ"), ("L", "ऌ\u0962\u09e2ଌఌಌഌඏ\u0ddfฦ\u0f78ၔ\u1058᳄"),
   ("l", "लळলਲઌલૡ\u0ae2\u0ae3ଲ\u0b62\u0b63லలఴ\u0c62\u0c63ಲ\u0ce2\u0ce3ലൖ\u0d62\u0d63ൽൾලลฬລຬ"),
   ("l", "\u0ebcལ\u0fb3လ\u1060ᜎᜮᝎᝮលឡᤗ\u1938ᥘᦜᦟᨒᩃᩊ\u1a56ᬮᮜ\u1ba3ᯞᯟᰜ\u1c2fꠟꡙꢊꢋꢭꢳ\ua8bc\ua8bdꤜꤾꦭ"),
   ("l", "ꧺꨤ\uaa35ꩊꩮꪨꪩꯂꯜ𐨫𑀍𑀎𑀮𑀴𑀵𑁀𑁁𑁵𑂪𑃘𑅮𑆋𑆌𑆬𑆭𑆺𑆻𑈧𑊣𑋚𑌌𑌲𑌳𑍡𑍢𑍣𑐈𑐉𑐮𑐼𑐽𑒉𑒊𑒪𑒷𑒸𑖈𑖉𑖩𑘈𑘉𑘩𑘯𑘷𑘸𑚥𑜎𑜝𑝆𑠥𑤨𑤮𑧉𑧏𑨬𑨽𑩚𑩽𑪇𑪒𑰈𑰩𑰶𑲋𑲫𑴧𑴭𑵵"),
   ("l", "𑵿𑻮𑼭"), ("l*", "၎"), ("la", "𑄣"), ("lae", "᧞ᩓ"), ("laev", "᧟"), ("le", "ᬍ\u1b3cꦊ𑼌"),
   ("leu", "ᮼ"), ("lh", "𑐯"), ("lha", "𑅄"), ("LL", "ॡ\u0963ৡ\u09e3ୡౡೡൡඐ\u0df3\u0f79ၕ\u1059"),
   ("ll", "\u0a33ળଳளళಳളළဠ"), ("lll", "ऴழೞഴ"), ("lng", "\u1a57"), ("lo", "᥀ᬎ\u1b3dꦋ𑼍"),
   ("lue", "ᩂᩄ"), ("ly", "ឭ"), ("lyy", "ឮ"), ("M", "௴\u0e4d\u0ecd\u0f7e\u17c6𑿙𑿜𑿯𑿰"),
   ("m", "\u0900मমৼ\u0a01ਮમମம\u0c00\u0c04మಀ\u0c81ಮ\u0cf3\u0d00\u0d01ഄമൔ\u0d81මมມམ\u0fa8မ"),
   ("m", "\u105fᜋᜫᝋᝫមᤔ\u1932\u1936ᥛᦖᦙᧄᨆᨾ\u1a5c\u1a74\u1b00ᬫᮙ\u1bacᮿᯔᯕᰕ\u1c2eᳩᳪᳫᳬᳮᳯᳰᳱꠝꡏ\ua880ꢪ"),
   ("m", "\ua8c5ꣲꣳꤗꤸ\ua980ꦩꨟꨠ\uaa4cꪢꪣꯃꯝ\uabea𐨎𐨨𑀀𑀁𑀫𑂀𑂁𑂧𑃖𑃨𑄀𑄁𑅬𑆀𑆁𑆩𑇏𑈤𑈴𑊠𑋗𑋟𑌀𑌁𑌂𑌮𑐩𑑃𑑄𑑈𑑟𑒧𑒿𑓀𑓅𑖦𑖼𑖽𑘦𑘽𑚢𑚫𑜉𑜪𑠢𑠷𑤤𑤻"),
   ("m", "𑤼𑧆𑧞𑨢𑨵𑨶𑨸𑩴𑪐𑪖𑰦𑰼𑰽𑲁𑲡𑲵𑲶𑴤𑵀𑵰𑶕𑻥𑼀𑼁𑼪"), ("m-", "ꣷ"), ("ma", "𑄟"), ("mb", "ඹᯣꥂꨡ"), ("mh", "𑐪"),
   ("ml", "ᰖ"), ("mm", "ꣴ"), ("mp", "ᨇ"),
   ("N", "\u0901\u0902\u0981\u0982\u0a02\u0a70\u0a81\u0a82\u0b01\u0b02\u0b82௳\u0c01\u0c02"),
   ("N", "\u0c82\u0d02\u0d82\u1036𑿕𑿦"),
   ("n", "नনਨનନநనౝನೝനഩൺൻනณนຎຓນན\u0fa3နၚ\u105eၮၺၼᜈᜨᝈᝨនᤊᤏ\u1931\u1934ᥢᦐᦓᧃᨊᨱᨶᬡᬦᮔᯉᯊᰍ\u1c30ꠘꡋꢖꢛꢠꢥ"),
   ("n", "\ua8edꤔꤵ\ua950ꦟꦤꧣꧧꧯꨗꨘꩆꩥꩫꪘꪙꫣꫨꯅꯉꯟꯡ𐨙𐨞𐨣𑀗𑀜𑀡𑀦𑀷𑂑𑂖𑂝𑂢𑃙𑃡𑅝𑅢𑅧𑆕𑆚𑆟𑆤𑈍𑈓𑈘𑈞𑊏𑊕𑊚𑊿𑋅𑋌𑋑𑌙𑌞𑌣𑌨𑍲𑐒𑐘𑐞𑐣𑒓𑒘𑒝𑒢𑖒𑖗𑖜𑖡𑘒𑘗"),
   ("n", "𑘜𑘡𑚎𑚓𑚘𑚝𑜃𑝅𑠎𑠓𑠘𑠝𑤐𑤕𑤚𑤟𑦲𑦷𑦼𑧁𑨘𑨝𑩪𑩯𑪎𑰒𑰗𑰜𑰡𑱽𑲝𑴐𑴕𑴚𑴟𑵺𑶄𑻢𑻨𑻫𑼠𑼥"), ("n*", "၌"), ("na", "𑄚"), ("nc", "ᨏ"),
   ("nd", "ඳᯢꥄꨙ"),
   ("ng", "ङঙਙઙଙஙఙಙങඞงງང\u0f94ငᜅᜥᝅᝥងᤅᥒᦄᦇᧂᨂᨦ\u1a58\u1a59\u1b01\u1b02ᬗ᭤\u1b80ᮍᯝ\u1bf0ᰅ\u1c34"),
   ("ng", "\u1c35\ua80bꡃꤍꤲ\ua94f\ua981ꦔꨊꨋꩂ\uaa43ꪈꪉ𑃗𑜂𑨏𑩠𑪌𑱵𑲕𑼖"), ("nga", "𑄋"), ("ngg", "ꥃ"),
   ("ngk", "ᨃ"), ("nh", "𑐤"), ("nj", "ꨒ"), ("nn", "णণਣણଣணణಣണණཎ\u0f9eဏណꡬ"), ("nna", "𑄕"),
   ("nndd", "ඬ"), ("nng", "ඟ"), ("nnn", "ऩன"), ("nny", "ည"), ("nr", "ᨋ"), ("Nueng", "ꫜ"),
   ("ny", "ञঞਞઞଞஞఞಞഞඤຍຽཉ\u0f99ဉញᨎᨬᨿᬜᮑᯠᰉꡇꤑꤻꦚꨐꨑꪐꪑ𑜐𑨓𑩥𑱹𑲙𑼛"), ("nya", "𑄐"), ("nyh", "𑐙"),
   ("nyj", "ඦꥅ"),
   ("o", "ऒओ\u093a\u093b\u094a\u094bॳॴও\u09cbઑઓ\u0acbଓ\u0b4bஒ\u0bcaఒ\u0c4aಒ\u0ccaഒ\u0d4aඔ"),
   ("o", "\u0ddcโ\u0ebbໂ༚\u0f7cဩ\u1062\u1067\u1072\u1925\u1928ᥨᥩᦷ\u1a1aᩒ\u1a6b\u1a6c\u1a70"),
   ("o", "\u1a73ᬑ\u1b40\u1b43ᮇ\u1ba7\u1bec\u1bed\u1c28\u1c29ꠅ\ua827ꡡꢏꢐ\ua8c1\ua8c2ꤥ\ua94bꦎ"),
   ("o", "\ua9b5ꨅ\uaa2fꪶꫡ\uabe3𐨆𑀑𑁄𑁲𑁴𑂋𑂷𑃦𑄮𑄱𑅔𑆏𑆾𑈆𑈲𑊸𑋧𑌓𑍋𑐌𑑀𑒍𑒼𑒽𑖌𑖺𑘌𑘻𑚈𑚴𑜨𑠈𑠵𑤉𑤸𑦬𑧜𑨅𑨆𑩕𑰌𑰺𑲴𑴉𑴽𑵪𑶓𑻶𑼐"),
   ("oa", "ᦸ\uaab7"), ("oai", "ᦾ"), ("oay", "ꩴ"), ("oe", "\u17beᥫꤣ𑩖"), ("oi", "ᦽ𑄰"),
   ("Om", "ௐꣽ𑶘"), ("om", "𑇄𑍐𑑉𑓇"), ("oN", "ऑ\u0949\u0ac9"),
   ("oo", "ਓ\u0a4bஓ\u0bcbఓ\u0c4bಓ\u0ccbഓ\u0d4bඕ\u0ddd༛\u0f7dឱឲ\u17c4"), ("ooo", "༜"),
   ("ou", "\uabe7"), ("ox", "༟"), ("oy", "\u1a6d"), ("P", "𑿛𑿞𑿟𑿡𑿥𑿬"),
   ("p", "पপਪપପபపಪപ൏පปປཔ\u0fa4ပᜉᜩᝉᝩបᤐ\u1935ᥚᦕᦘᧇᨄᨸᨻ\u1a5aᬧᮕᯇᯈᰎ\u1c31ꠙꡌꢦ\ua8eeꤕꤶꦥꨚꩇꪜꪝꯄꯞ𐨤𑀧𑂣𑃛𑅨𑆥𑈟𑊛"),
   ("p", "𑋒𑌪𑍴𑐥𑒣𑖢𑘢𑚞𑜆𑠞𑤠𑧂𑨞𑩰𑰢𑱾𑲞𑴠𑶅𑻣𑼦"), ("pa", "𑄛"),
   ("ph", "फফਫફଫఫಫഫඵผพภຜພཕ\u0fa5ဖၽផᤑᨹᨽᬨᰐꠚꡍꢧꦦꨜꪞꪟꯐ𐨥𑀨𑂤𑅩𑆦𑈠𑊜𑋓𑌫𑐦𑒤𑖣𑘣𑚟𑜇𑠟𑤡𑧃𑨟𑩱𑰣𑱿𑲟𑴡𑶆𑼧"), ("pha", "𑄜"),
   ("pl", "ᰏ"), ("pp", "ꨛ"), ("pw", "ၦ"), ("q", "\u0958ཫអᭅᮋꡢꦐ𑈿"),
   ("R", "ऋ\u0943ঋ\u09c3ઋ\u0ac3૱ଋ\u0b43ఋ\u0c43ಋ\u0cc3ഋ\u0d43ඍ\u0dd8ฤ\u0f76ၒ\u1056"),
   ("r", "रরਰરର\u0b44ரరౚರര\u0d44ൎർරรຣརཪཬ\u0fb2\u0fbcရ\u103cᜍᜟᜭᝍរ\u17ccᤖ\u192a\u1937ᨑ\u1a55"),
   ("r", "\u1acd\u1b03ᬭ᭥\u1b81ᮛ\u1ba2ᯒᯓᰛ\u1c25\u1c32ꠞꠠꡘꡱꡲꢈꢉꢬ\ua8ba\ua8bb\ua8efꤚꤽ\ua951\ua982ꦫ"),
   ("r", "ꦬ\ua9bfꨣ\uaa34ꩉꩳꩺꪦꪧꯔ𐨃𐨪𑀋𑀌𑀭𑀶𑀾𑀿𑂩𑃂𑃝𑅭𑅲𑆉𑆊𑆫𑆸𑆹𑈜𑈦𑈫𑉁𑊓𑊢𑊧𑋉𑋊𑋙𑌋𑌰𑍃𑍄𑍠𑐆𑐇𑐬𑐺𑐻𑒇𑒈𑒩𑒵𑒶𑖆𑖇𑖨𑖴𑖵𑘆𑘇𑘨𑘵𑘶𑚤𑚪𑜍𑜞𑜟𑠤𑠫𑠱𑠲𑤧"),
   ("r", "𑥁𑥂𑦦𑦧𑧈𑧐𑧖𑧗𑨫𑨺𑨼𑩙𑩼𑪆𑪑𑰆𑰇𑰨𑰴𑰵𑲊𑲪𑴦𑴶𑵇𑶈𑻭𑼂𑼬"), ("r'", "ৰ"), ("r*", "၍"), ("r`", "ৱ"), ("ra", "𑄢"),
   ("re", "ᬋ\u1b3aꦉ\ua9bd𑼊𑼺"), ("reu", "ᮻ"), ("rh", "\u095d\u09dd\u0b5d𑂚𑂜𑊨𑐭"),
   ("ro", "ᬌ\u1b3b𑼋"), ("RR", "\u0944ॠঌ\u09c4ৠ\u0ac4ૠୠ\u0c44ౠ\u0cc4ೠൠඎ\u0df2\u0f77ၓ\u1057"),
   ("rr", "ऱ\u09dcੜ\u0b5cறఱಱറ"), ("Rs", "৲৳௹꠸"), ("ry", "ឫ"), ("ryy", "ឬ"), ("S", "𑿫"),
   ("s", "सসਸસସஶஸసಸസසศษสຊຨຩສས\u0fb6သၥᜐᜰᝐᝰសᤚᤛᥔᦉᦌᨔᨨᨪᨫᩆᩇᩈ\u1a5eᬰᬱᬲᮞᯘᯙᯚᰠꠡꡛꢯꢰꢱꤎꤼꦯꦰꦱꨧꩬꪎꪏꫩꫪꯁ𐨭𐨮𐨯𑀰𑀱𑀲𑂬𑂭"),
   ("s", "𑂮𑃐𑅰𑆯𑆰𑆱𑈩𑊥𑋜𑋝𑌸𑐱𑐲𑐳𑒬𑒭𑒮𑖫𑖬𑖭𑘫𑘬𑘭𑚋𑚧𑚨𑜏𑠧𑠨𑠩𑤪𑤫𑤬𑧋𑧌𑧍𑨯𑨰𑪀𑪁𑪉𑪔𑰫𑰬𑰭𑲍𑲭𑴩𑴪𑴫𑶉𑻰𑼯𑼰𑼱"), ("s-", "᪢"), ("sa", "𑄥"),
   ("sh", "शশ\u0a36શଶశಶശශཤ\u0fb4ၐၡឝᤙᰡꡚꩿ𑨮𑩿𑪈𑪓𑲌𑲬"), ("sh-", "ꡮ"), ("shra", "𑪺"), ("shraa", "𑪻"),
   ("shri", "𑅶𑪶"), ("shrii", "𑪷"), ("shru", "𑪸"), ("shruu", "𑪹"), ("spa", "𑪿"), ("spe", "𑪼"),
   ("spi", "𑪽"), ("spu", "𑪾"), ("ss", "षষષଷஷషಷഷෂཥ\u0fb5ဿၑឞ"), ("sw", "ᦪᦫ"), ("sy", "ᭋᮯ"),
   ("t", "तতৎਤતତதతತതഺතฏตຏཏ\u0f9fᜆᜦᝆᝦដតᤋ\u1933ᥗᦏᦒᧆᨈᨭᨲᨴ\u1aceᬝᬢᮒᯖᯗᰊ\u1c33ᱍꠐꠔꡈꢜꢡꤒꤳꦛꦠꨓꩅꩦꪔꪕꫤꯇꯠ𐨚𐨟𐨴𑀝"),
   ("t", "𑀢𑂗𑂞𑃑𑅞𑅣𑆛𑆠𑈔𑈙𑊐𑊖𑋆𑋍𑌟𑌤𑐚𑐟𑒙𑒞𑖘𑖝𑘘𑘝𑚔𑚙𑜄𑜅𑝁𑠔𑠙𑤖𑤛𑦸𑦽𑨔𑨙𑩦𑩫𑰘𑰝𑱺𑲚𑴖𑴛𑵳𑵽𑻦𑼜𑼡"), ("ta", "𑄖"),
   ("th", "थথਥથଥథಥഥථฐฑฒถทธຐຖທཐ\u0fa0ထថᤌᨮᨰᨳᨵᩔ\u1a5bᬞᬣᰋᱎꠑꠕꡉꢝꢢꤞꦜꦡꨔꩧꪖꪗꫥꯊ𐨛𐨠𐨳𑀞𑀣𑂘𑂟𑅟𑅤𑆜𑆡𑈕𑈚𑊑𑊗𑋇𑋎𑌠𑌥𑐛𑐠𑒚𑒟𑖙𑖞"),
   ("th", "𑘙𑘞𑚕𑚚𑜌𑝂𑠕𑠚𑤜𑦹𑦾𑨕𑨚𑩧𑩬𑰙𑰞𑱻𑲛𑴗𑴜𑵴𑵾𑼝𑼢"), ("tha", "𑄗"), ("tr", "ᤞ𑴰"), ("ts", "ཙ\u0fa9ᭇᰗꡐ𑨣𑩵𑲂𑲢"),
   ("tsh", "ཚ\u0faaᰘꡑ𑨤𑩶𑲃𑲣"), ("tt", "टটਟટଟடటಟടටཊ\u0f9aဋတꡩ"), ("tta", "𑄑"),
   ("tth", "ठঠਠઠଠఠಠഠඨཋ\u0f9bဌឋꡪ"), ("ttha", "𑄒"), ("U", "𑿘𑿧"),
   ("u", "उ\u0941\u0956\u0957ॶॷউ\u09c1ਉ\u0a41ઉ\u0ac1ଉ\u0b41உ\u0bc1ఉ\u0c41ಉ\u0cc1ഉ\u0d41උ"),
   ("u", "\u0dd4\u0e38\u0eb8\u0f74ဥ\u102f\u1068\u1073ᜂ\u1713ᜢ\u1733ᝂ\u1753ᝢ\u1773ឧ\u17bb"),
   ("u", "\u1922ᥧᦳᦴ\u1a18ᩏᩐ\u1a69\u1a6aᬉᬊ\u1b38\u1b39᭣᭨ᮅ\u1ba5ᯥ\u1bee\u1bef\u1c2a\u1c2bꠃ"),
   ("u", "\ua825ꡟꢆꢇ\ua8b8\ua8b9\ua8eb\ua928\ua948ꦈ\ua9b8\ua9b9ꨂ\uaa2d\uaa32\uaab4\uaaecꯎ"),
   ("u", "\uabe8𐨂𑀉𑀊𑀼𑀽𑂇𑂈𑂳𑂴𑃥𑄅𑄪𑄫𑅒𑆇𑆈𑆶𑆷𑈃𑈯𑊂𑊴𑊵𑋣𑋤𑌉𑌊𑍁𑍂𑐄𑐅𑐸𑐹𑒅𑒆𑒳𑒴𑖄𑖅𑖲𑖳𑗛𑗜𑗝𑘄𑘅𑘳𑘴𑚄𑚅𑚰𑚱𑜤𑜥𑠄𑠅𑠯𑠰𑤄𑤅𑤳𑤴𑦤𑦥𑧔𑧕𑨂𑨃𑩒𑩓𑰄𑰅𑰲𑰳𑲲𑴄𑴅"),
   ("u", "𑴴𑴵𑵤𑵥𑶍𑶎𑻴𑼈𑼉𑼸𑼹"), ("ua", "\u17bdꪺ"), ("ue", "\u0e36ᥪᦹ\u1a67\u1a68\ua926\uaab3"),
   ("uea", "ꪹ"), ("uei", "ᦿ"), ("ui", "ᦼ"), ("uk", "ឨ"),
   ("uu", "ऊ\u0942ঊ\u09c2ਊ\u0a42ઊ\u0ac2ଊ\u0b42ஊ\u0bc2ఊ\u0c42ಊ\u0cc2ഊ\u0d42ඌ\u0dd6\u0e39\u0eb9"),
   ("uu", "\u0f75ဦ\u1030ឩ\u17bc"), ("uue", "\u0e37"), ("uuv", "ឪ"), ("V", "௵𑿠𑿣𑿨𑿱"),
   ("v", "वਵવଵவవವവව\u103d\u1082វᤘ\u192bᭉᮗᰟꢮ\ua8f0ꤠꪪꪫ𐨬𑀯𑂫𑃚𑅯𑆮𑈨𑊤𑋛𑌵𑍳𑐰𑒫𑖪𑘪𑚦𑠦𑤩𑧊𑨭𑨾𑩾𑰪𑴨𑵭𑻯"), ("va", "𑅇"),
   ("vh", "𐨵"), ("w", "ୱวວཝ\u0fad\u0fbaဝᜏᜯᝏᝯᥝᦛᦞᧁᨓᩅ᪠\u1abf\u1ac0ᬯᮝ\u1badᯋᯌᯍᰢꡓꡧꤝꥀꦮꨥ\uaa36ꯋ𑲅𑲥𑼮"),
   ("wa", "𑄤"), ("ww", "᪡"), ("X", "༑"), ("x", "༝ႀᭆᮟꡣꨦꩋꩱꪄꪅ"), ("xo", "࿎"), ("xx", "༞"),
   ("xxx", "࿏"),
   ("y", "यॺযਯ\u0a75યଯயయಯയൕයญยຢ\u0eb6ཡ\u0fb1\u0fbbယ\u103bᜌᜬᝌᝬយ\u17b9ᤕ\u1929ᥕᦊᦍᨐᩀᬬᮚ\u1ba1ᯛᯜᰚ"),
   ("y", "\u1c24ꡗꡨꢫꤛꤿꦪ\ua9beꨢ\uaa33ꩈꪤꪥꯌ𐨩𑀬𑂨𑃜𑆪𑈥𑊡𑋘𑌯𑐫𑒨𑖧𑘧𑚣𑠣𑤦𑥀𑧇𑨪𑨻𑩻𑰧𑲉𑲩𑴥𑵬𑻬𑼫"), ("y-", "ꡭ"),
   ("ya", "\u17bf𑄡"), ("yh", "𑾰"), ("yw", "ၯ"), ("yy", "\u095f\u09dfୟ\u0eb7\u17ba"),
   ("yya", "𑄠"), ("z", "\u095b\u0a5bౙཟ\u0fafၹᥓᦈᦋᭊᮐᰙꡕꤐꩲ𐨰𑤯𑨨𑩹𑲇𑲧"), ("zh", "ॹૹཞ\u0faeꡔ𑨧𑩸𑲆𑲦"),
   ("~", "ฯຯ")]

end AtomicCss.Text
