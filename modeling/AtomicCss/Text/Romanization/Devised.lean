/-!
# Letters of devised alphabets

ASCII spellings of the letters of alphabets that were devised for one language, such as N'Ko,
Lisu, Ol Chiki, Osage and Adlam, and of shorthand.
-/

set_option autoImplicit false

namespace AtomicCss.Text

/-- The spellings with the letters that have them. -/
def devisedSpellings : List (String × String) :=
  [("'", "ߑ"), ("-", "ᱧ"), ("-r", "𐑼"), ("1", "𖺔"), ("10", "𖭛"), ("100", "𖭜"), ("10000", "𖭝"),
   ("1000000", "𖭞"), ("100000000", "𖭟"), ("10000000000", "𖭠"), ("1000000000000", "𖭡"),
   ("2", "𖺕"), ("20", "𑣫"), ("3", "𖺖"), ("30", "𑣬"), ("40", "𑣭"), ("50", "𑣮"), ("60", "𑣯"),
   ("70", "𑣰"), ("80", "𑣱"), ("90", "𑣲"), ("A", "𐐁𐐂𐐈𐒰𑢡𖹄𖹍𞤀"), ("a", "ߊᱚᱟⴰꓮ𐐩𐐪𐐰𐑨𐒖𐓘𑣁𑫕𖩆𖫧𖹤𖹭𖽔𛱁𛱤𞄤𞊭𞋁𞓕𞤢"),
   ("aa", "𐑭𐒛𖽕𞄥𞋀"), ("aab", "𖬚"), ("aan", "𞋨"), ("aang", "𞋣"), ("aav", "𖬛"), ("ab", "𖬖"),
   ("ac", "𖩵"), ("ae", "𖽳𞊫𞊬"), ("aee", "𖽴"), ("ah", "𖽃"), ("ahh", "𖽖"), ("Ai", "𐒱𐒲𖹞"),
   ("ai", "ꓯ𐑲𐓙𐓚𖹾𖽹"), ("aib", "𖬊"), ("aiv", "𖬋"), ("am", "𛱦"), ("an", "𖽗𛱥𛱨"), ("ang", "𖽘𞋤"),
   ("aou", "𛱅"), ("aq", "𖩶"), ("ar", "𐑸"), ("au", "𐑬𖽻𞋖"), ("aub", "𖬄"), ("auv", "𖬅"),
   ("Av", "𖭬"), ("av", "𖬗"), ("Aw", "𐐍"), ("aw", "𐐵"), ("awb", "𖬎"), ("awc", "𖪉"), ("awq", "𖪊"),
   ("awv", "𖬏"), ("awx", "𖪋"), ("awz", "𖪈"), ("ax", "𖩷"), ("az", "𖩴"), ("B", "𐐒𑢷𖹐𞤄"),
   ("b", "ߓᱵⴱⴲꓑ𐐺𐑚𐒁𑣗𑫌𖩄𖪪𖫢𖬰𖹰𖼁𖾚𛰇𞄰𞊑𞋂𞓗𞤦"), ("bb", "ꓐ"), ("Bh", "𞤇"), ("bh", "𞤩"), ("Br", "𐒴"),
   ("br", "𐓜"), ("bri", "𖽅"), ("C", "𐓊𑢯𖹑"), ("c", "ߗߩᱪⵛꓞ𐒋𐓲𑣏𑫍𖪵𖫟𖬯𖹱𞄈𞋃𞓠"), ("Ch", "𐐕𐒵𐓌𞤕"),
   ("ch", "ꓛ𐐽𐑗𐓝𐓴𑫔𖩋𖪽𖬧𞊚𞤷"), ("Cim Cuam Tshooj", "𖭳"), ("Cim Hais Lus Ntog Ntog", "𖭲"),
   ("Cim Nres Tos", "𖭷"), ("Cim Pub Dawb", "𖭶"), ("Cim Txwv", "𖭴"), ("Cim Txwv Chwv", "𖭵"),
   ("D", "𐐔𐓍𑢱𑢴𖹙𞤁"), ("d", "ߘᱫᱰⴷⴸⴹⴺꓔ𐐼𐑛𐒆𐓵𑣑𑣔𑫄𖩅𖩊𖪱𖫞𖹹𖼋𖾔𛰈𞄏𞄶𞊓𞋄𞓜𞓡𞤣"), ("dd", "ꓓ𖼏"), ("Dh", "𐐜𞤍"),
   ("dh", "𐑄𐑞𐒊𖪼𖫗𛰒𛰓𞤯"), ("dj", "ⴶ"), ("dl", "𞄝"), ("dlh", "𖼛"), ("dlhy", "𖼝"), ("ds", "𛰍"),
   ("dz", "𖼸"), ("dzh", "𖼯𖼱"), ("dzyi", "𖽇"), ("dzz", "𖼫"), ("E", "𐐀𐐇𐒳𐒷𑢨𖹏𞤉"),
   ("e", "ߋߍᱮⴻⵦꓭꓱꓶ𐐨𐐯𐑧𐒗𐓛𐓟𑣈𑫖𖩘𖫫𖫬𖹯𖽝𛱇𞄪𞊦𞋛𞓤𞤫"), ("ea", "𖩖𖾅"), ("eb", "𖬈"), ("ec", "𖩽"), ("ee", "𐒜𛱋𛱎𞄫"),
   ("eeb", "𖬀"), ("eev", "𖬁"), ("eh", "𛱌𞊧"), ("Ei", "𐒸"), ("ei", "ꓰ𐑱𐓠𖽺"), ("en", "𖽞𛱧𞋧"),
   ("eng", "𖽟"), ("eo", "𞊨𞊩"), ("eq", "𖩾"), ("er", "𐑺𖽷𖽸𖾂"), ("err", "𖽵𖽶"), ("eu", "𛱒"),
   ("ev", "𖬉"), ("ex", "𖩿"), ("ez", "𖩼"), ("F", "𐐙𖹊𞤊"), ("f", "ߝⴼꓩ𐑁𐑓𐒍𑫓𖪻𖫓𖹪𖼇𖾙𖾟𛰄𞄕𞋍𞤬"), ("Faj", "𖮋"),
   ("fn", "𛰎"), ("G", "𐐘𐓑𑢫𖹉𞤘"), ("g", "ᱜⴳⴴꓗ𐑀𐑜𐒌𐓹𑣋𑫉𖪢𖫖𖬶𖹩𖼟𛰊𞄢𞄵𞊕𞋅𞓦𞤺"), ("Gb", "𞤞"), ("gb", "ߜ𖫝𞥀"),
   ("gg", "ꓖ"), ("gh", "ⵖⵗⵘ𖪷𖼨"), ("ghh", "𖼩"), ("gn", "ⵐ"), ("grs", "𛰾"), ("H", "𐐐𐒹𑢹𑢺𖹖𞤖"),
   ("h", "ߤᱦᱷⵀⵁⵂⵃꓦꓧ𐐸𐑣𐒔𐓡𑣙𑣚𑫈𖩉𖩜𖪭𖬟𖹶𖼦𛰀𞄄𞊞𞋚𞓙𞓞𞤸"), ("h-", "ꓨ"), ("Ham", "𖮉"), ("Hawj", "𖮃"), ("Hc", "𐓋"),
   ("hc", "𐓳"), ("Hch", "𐒶"), ("hch", "𐓞"), ("hh", "𖽄"), ("Hk", "𐒽"), ("hk", "𐓥"), ("hl", "𖬥𛰖"),
   ("Hli", "𖭥"), ("hn", "𖬩"), ("Hnub", "𖭨"), ("Hp", "𐓅"), ("hp", "𐓭"), ("Ht", "𐓉"), ("ht", "𐓱𖪯"),
   ("htt", "𖪸"), ("hw", "𖫚"), ("Hy", "𐒺"), ("hy", "𐓢"), ("I", "𐐆𐐌𐒻𑢦𖹋𞤋"),
   ("i", "ߌᱤⵉꓲ𐐮𐐴𐑦𐒘𐓣𑣂𑣆𑫗𖫭𖹫𖽡𛱆𛱉𛱍𛱏𛱣𞄦𞊡𞋜𞓚𞤭"), ("i-", "𐑾"), ("ia", "𑫛𖽢"), ("iab", "𖬔"), ("ian", "𖽣"),
   ("iang", "𖽤"), ("iav", "𖬕"), ("ib", "𖬂"), ("ic", "𖪁"), ("ie", "𖽦𛱈"), ("ig", "𖾄"), ("ih", "𞊢"),
   ("ii", "𐑰𖽧"), ("ing", "𖽩𞋥"), ("io", "𖽥"), ("iong", "𖾆"), ("iq", "𖪂"), ("ir", "𐑽"),
   ("iu", "𖽨𞊣𞊤"), ("iv", "𖬃"), ("ix", "𖪃"), ("iz", "𖪀"), ("J", "𐐖𑢮𖹎𞤔"),
   ("j", "ߖߨᱡⴵⵊⵋⵌ𐐾𐑡𐒃𑣎𖫙𖬲𖹮𛰕𛰛𛰣𛰤𞄲𞊝𞋐𞓖𞤶"), ("jm", "𛰟"), ("jms", "𛰭"), ("jn", "𛰰"), ("jns", "𛰱"),
   ("js", "𛰩𛰯"), ("K", "𐐗𐒼𑢬𖹌𞤑"), ("k", "ߞᱠⴽⴾⴿꓘ𐐿𐑒𐒏𐓤𑣌𑫁𑫝𖩌𖩙𖪠𖫑𖹬𖼞𖼠𖾘𛰅𞄎𞊔𞋔𞓢𞤳"), ("Kh", "𞤝"),
   ("kh", "𐒅𑫊𖩈𖪡𞋙𞤿"), ("Khab", "𖮈"), ("kk", "𛰔"), ("km", "𛰏"), ("Koo", "𖮂"), ("Kp", "𖹆𞤠"),
   ("kp", "𖫘𖹦𞥂"), ("krs", "𛰽"), ("Kwm", "𖮎"), ("Ky", "𐒾"), ("ky", "𐓦"), ("L", "𐐢𐒿𖹔𞤂"),
   ("l", "ߟᱞⵍꓡꓸ𐑊𐑤𐒐𐓧𑫂𑫡𖩍𖩚𖩛𖪮𖬞𖹴𖼖𖾕𖾜𛰆𞄉𞊠𞋈𞓒𞓪𞤤"), ("Lauj", "𖮀"), ("lh", "𖼘𛰗"), ("lhy", "𖼙"), ("Lis", "𖭿"),
   ("llh", "𞋟"), ("Los", "𖭰"), ("ly", "𖼗"), ("M", "𐐣𐓀𑢶𖹀𞤃"),
   ("m", "ߡᱢⵎꓟ𐑋𐑥𐒑𐓨𑣀𑣖𑫃𑫟𖩃𖩎𖪫𖬦𖬱𖹠𖼄𖼆𛰙𛰡𛱪𞄀𞄱𞊖𞋘𞓧𞤥"), ("mb", "𖫔"), ("mc", "𖪝"), ("Meej Tseeb", "𖭮"),
   ("mh", "𖼅"), ("ml", "𞄠"), ("mn", "𛰝"), ("mns", "𛰫"), ("mq", "𖪞"), ("ms", "𛰧"), ("Muas", "𖮄"),
   ("Mus", "𖭱"), ("mx", "𖪟"), ("mz", "𖪜"), ("N", "𐐤𐓁𑢰𑢳𖹛𞤐"),
   ("n", "ߒߠߣᱬᱱⵏꓠ𐑌𐑯𐒒𐓩𑣐𑣓𑫐𑫠𖩏𖪬𖫐𖬬𖹻𖼐𖼓𖽐𖽽𛰚𛰢𞄅𞊗𞋉𞓥𞓨𞤲"), ("nc", "𞄌"), ("nch", "𖬨"), ("Ng", "𐐥𑢠𑢪𖹗"),
   ("ng", "ᱝⵑꓥ𐑍𐑙𑣊𑫇𑫣𖩁𖪣𖹷𖼣𖼥𖽾𞊘𞋝𞓔"), ("ngh", "𖼤"), ("Nh", "𞤛"), ("nh", "𖪳𖼑𞤽"), ("nk", "𖬢𞄇"),
   ("nl", "𖬠"), ("nm", "𛰞"), ("nms", "𛰬"), ("nn", "𖼒𖼔"), ("nnh", "𖼕"), ("np", "𞄜"), ("npl", "𞄞"),
   ("nq", "𞄙"), ("Nqig", "𖭩"), ("nr", "𞄑"), ("ns", "𛰨"), ("nt", "𞄂"), ("nth", "𖬫"),
   ("nts", "𖬝𞄍"), ("Ntuj", "𖭫"), ("ntx", "𞄓"), ("Ny", "𑢭𞤙"), ("ny", "ߢߧ𑣍𖪨𖼬𞄐𞋩𞓘𞤻"), ("nyh", "𖼭"),
   ("O", "𐐃𐐄𐐉𐓂𑢩𖹝𞤌"), ("o", "ߏߐᱳⵧꓳꓷ𐐫𐐬𐐱𐑪𐒙𐓪𑣉𑫘𖩒𖫨𖫩𖹽𖽙𛱄𛱢𞄨𞊪𞋕𞓐𞤮"), ("oa", "𛱃"), ("ob", "𖬒"), ("oc", "𖩱"),
   ("Oe", "𖹚"), ("oe", "𖹺"), ("oey", "𖽠"), ("og", "𖾁"), ("Oi", "𐓃"), ("oi", "𐑶𐓫"), ("om", "𑣿"),
   ("on", "𛱩𞋦"), ("ong", "𞋢"), ("oo", "𐑷𐒝𖩑𖽚𞄩"), ("oob", "𖬌"), ("ooh", "𛱙"), ("oov", "𖬍"),
   ("oq", "𖩲"), ("or", "𐑹"), ("ou", "𐑴𖽼𛱛"), ("ov", "𖬓"), ("ow", "𛱂𛱚"), ("ox", "𖩳"), ("Oy", "𐐦"),
   ("oy", "𐑎"), ("oz", "𖩰"), ("P", "𐐑𐓄𑢸𖹇𞤆"), ("p", "ߔᱯⵒꓒ𐐹𐑐𐓬𑣘𑫀𑫜𖩐𖪧𖫥𖹧𖼀𖼂𛰂𞄚𞊐𞋊𞓑𞤨"), ("ph", "𑫑𖩇𖪩𞋇"),
   ("Phab", "𖮇"), ("pl", "𖼃𞄡"), ("plh", "𖬪"), ("pn", "𛰌"), ("Q", "𖹕𞤗"), ("q", "ⵇⵈꓹ𐒎𖹵𖼡𞄗𞤹"),
   ("qg", "𖼢"), ("qh", "𖬣"), ("R", "𐐡𑢻𑢼𖹜𞤈"), ("r", "ߙߚߪᱨᱲⵔⵕꓣꓼ𐑉𐑮𐒇𑣛𑣜𑫒𖩓𖩝𖪲𖬡𖹼𛰋𞄖𞄣𞊟𞋗𞓣𞤪"), ("rh", "𛰘"),
   ("rr", "ꓙ"), ("Rs", "𞋿"), ("rs", "𛰐"), ("rte", "𖽊"), ("S", "𐐝𐓆𑢽𑢾𖹁𞤅"),
   ("s", "ߛᱥⵙⵚꓢ𐑅𐑕𐒈𐓮𑣝𑣞𑫋𖪤𖫒𖬵𖹡𖼺𖾗𖾞𛰜𛰥𛰦𞄊𞄴𞊙𞋎𞓛𞤧"), ("Sh", "𐐟𐓇𞤡"), ("sh", "ꓫ𐑇𐑖𐒉𐓯𖩔𖪴𖼳𞋏𞥃"), ("sj", "𛰠"),
   ("sjs", "𛰮"), ("sk", "𛰿"), ("skr", "𛱀"), ("sm", "𛰼"), ("sn", "𛰻"), ("sp", "𛰴"), ("spr", "𛰵"),
   ("ss", "ꓤ𖼴𛰪"), ("st", "𛰲"), ("str", "𛰳"), ("syi", "𖽆"), ("T", "߿𐐓𐓈𑢲𑢵𖹈𞤚"),
   ("t", "ߕᱛᱴⵜⵝⵟꓕꓽ𐐻𐑑𐒂𐓰𑣒𑣕𑫎𑫞𖩀𖩞𖪰𖫡𖹨𖼊𖼍𖾖𖾝𛰃𞄃𞊒𞋋𞓝𞓩𞤼"), ("Tau", "𖭯"), ("tc", "ⵞ"), ("te", "𖽈"),
   ("Th", "𐐛"), ("th", "𐑃𐑔𑫏𖩕𖪹𛰑𞋌"), ("Third-stage Hli", "𖭦"), ("Thoj", "𖮅"), ("tlh", "𖼚"),
   ("tlhy", "𖼜"), ("tr", "𞋡"), ("trs", "𛰷"), ("ts", "𖪶𖼷𖼹𛰶𞄁𞋠"), ("Tsab", "𖮆"), ("tse", "𖽉"),
   ("tsh", "𖼮𖼰𖼲"), ("Tsheej", "𖭽"), ("tss", "𖼪"), ("Tswb", "𖮍"), ("tt", "𖼌𖼎"), ("tx", "𞄔"),
   ("Txheej Ceev", "𖭭"), ("U", "𐐅𐐊𐐋𐓎𑢧𖹒𞤓"), ("u", "ߎᱩⵓꓴꓵ𐐭𐐲𐐳𐑫𐑳𐒚𐓶𑣃𑣇𑫙𖫪𖹲𖽪𛱑𛱕𛱖𛱘𛱡𞄧𞊥𞋞𞓟𞤵"), ("ua", "𑫚𖽫"),
   ("uab", "𖬐"), ("uan", "𖽬"), ("uang", "𖽭"), ("uav", "𖬑"), ("ub", "𖬆"), ("uc", "𖪅"),
   ("uec", "𖪔"), ("uei", "𖽯"), ("uen", "𞋪"), ("ueq", "𖪖"), ("uex", "𖪗"), ("uez", "𖪕"),
   ("uh", "𛱗"), ("ui", "𖾇𛱊"), ("uic", "𖪍"), ("uiq", "𖪎"), ("uiuc", "𖪙"), ("uiuq", "𖪚"),
   ("uiux", "𖪛"), ("uiuz", "𖪘"), ("uix", "𖪏"), ("uiz", "𖪌"), ("un", "𛱔"), ("ung", "𖽰"),
   ("uog", "𖽿"), ("uq", "𖪆"), ("ur", "𐑻"), ("uu", "𐑵𖽮"), ("uv", "𖬇"), ("ux", "𖪇"), ("uz", "𖪄"),
   ("V", "𐐚𑢿𖹂𞤜"), ("v", "ⵠ𐑂𐑝𑣟𑫆𖫣𖬜𖬳𖹢𖼈𛰉𞄒𞄳𞋓𞤾"), ("Vaj", "𖮊"), ("vc", "𖩹"), ("vf", "𖼉"),
   ("Vos Lub", "𖭣"), ("vq", "𖩺"), ("vw", "𖾃"), ("Vwj", "𖮏"), ("vx", "𖩻"), ("vz", "𖩸"),
   ("W", "𐐎𐓏𑢢𖹃𞤏"), ("w", "ߥᱣᱶⵡⵯꓪ𐐶𐑢𐒓𐓷𑫢𖩗𖪦𖫛𖫠𖫦𖹣𖽂𖽜𛰸𞄬𞊜𞋒𞤱"), ("wa", "𛱜"), ("wb", "𖬘"), ("wei", "𛱟"),
   ("wh", "𛰹"), ("wi", "𛱞"), ("wo", "𖽛𛱝"), ("wow", "𛱠"), ("wr", "𛰺"), ("wv", "𖬙"), ("X", "𐓐𖹘"),
   ("x", "ⵅⵆꓻ𐒄𐓸𖪺𖬮𖹸𖼧𖾓𖾛𛰁𞄆𞋫"), ("Xiab", "𖭪"), ("xw", "𛱓"), ("xy", "𞄛"), ("Xyoo", "𖭤"),
   ("Xyooj", "𖮁"), ("Y", "𐐏𑢣𑢤𑢥𖹟𞤒"), ("y", "ߦᱭⵢꓬ𐐷𐑘𐒕𑣄𑣅𑫤𖩂𖪥𖫕𖫤𖬤𖹿𖽱𞄘𞊛𞋆𞓓𞤴"), ("Yaj", "𖮌"), ("ye", "𛱐"),
   ("Yeeg", "𖭾"), ("Yh", "𞤎"), ("yh", "𞤰"), ("yi", "𖽲"), ("Yu", "𐐧𖹓"), ("yu", "𐑏𖹳"),
   ("yui", "𖾀"), ("yuu", "𐑿"), ("Z", "𐐞𐓒𖹅𞤟"), ("z", "ⵣⵤⵥꓝ𐑆𐑟𐓺𑫅𖪾𖫜𖹥𖼻𞄋𞋑𞥁"), ("Zh", "𐐠𐓓"),
   ("zh", "ꓚ𐑈𐑠𐓻𖼵"), ("zs", "𖼼"), ("zsh", "𖼶"), ("Zwj Thaj", "𖭧"), ("zz", "ꓜ𖼽𖼿"), ("zzs", "𖼾"),
   ("zzsy", "𖽁"), ("zzy", "𖽀")]

end AtomicCss.Text
