/-!
# Consonant letters

ASCII spellings of Hebrew, Arabic, Syriac, Thaana and their forerunners. These scripts write
consonants; where vowels are written, as marks or letters, they are spelled as well.
-/

set_option autoImplicit false

namespace AtomicCss.Text

/-- The spellings with the letters and marks that have them. -/
def abjadSpellings : List (String × String) :=
  [("!", "܃܄"), ("\"", "״"), ("#", "۞"), ("%", "٪"), ("%0", "؉"), ("%00", "؊"), ("&", "۽"),
   ("'", "\u05bc׳أ\u0654\u0655ٱٲٳٵܐ\u0742ݞݟއࠀࠏࡏࡘ"), ("'a", "ﳷﴓ"), ("'d", "𐼧"), ("'h", "ځ"),
   ("'j", "ﰩﲺ"), ("'jm", "ﵵﷄ"), ("'m", "ﰪﲻ"), ("'ma", "ﵸ"), ("'mm", "ﵶﵷ"), ("'my", "ﶶ"),
   ("'u", "ٷ"), ("'w", "ٶ"), ("'y", "ٸﳸﴔ"), ("*", "٭܍"), ("+", "\u074a"), ("+m", "۾"),
   (",", "،٬܂܆܇"), ("-", "־\u05c4\u05c5א\u0603܅\u0711ࡰࡱࡲࡳࡴࡵࡶࡷࡸࡹࡺࡻࡼࡽࡾࡿࢀࢁࢂࢃ\u08ca\u08d0\u08d1"),
   ("-5", "𐼦"), ("-a", "ﱣ"), ("-w", "𐾷"), (".", "٫۔"), ("/", "܁"), ("//", "܀"), ("1", "𐡘𐣻𐤖𐫫𐽑"),
   ("10", "𐡛𐡾𐢭𐣽𐤗𐪞𐫭𐭜𐭼𐮭𐼢𐽒𐿉"), ("100", "𐡝𐢯𐣿𐤙𐫯𐭞𐭾𐮯𐼥𐽔𐿋"), ("1000", "𐡞𐭟𐭿"), ("10000", "𐡟"), ("2", "𐡙𐤚"),
   ("20", "𐡜𐡿𐢮𐣾𐤘𐪟𐫮𐭝𐭽𐮮𐼣𐽓𐿊"), ("3", "𐡚𐤛"), ("30", "𐼤"), ("4", "𐢫"), ("4rt", "؇"), ("5", "𐢬𐣼𐫬"),
   ("50", "𐩾"), (":", "׃"), (";", "؛܈"), ("?", "؟܉"), ("@", "\u05b0ةۃ\u06dd\u0747\u0748"),
   ("^", "۩"), ("_", "ﹳ"), ("`", "עعܥ\u0741ޢ"), ("A", "\u0733\u0734\u0735"),
   ("a", "\u05b2\u05b7\u05b8آ\u064e\u065e\u0670\u0730\u0731\u0732ݳ\u07a6\u081e\u081f\u0820"),
   ("a", "\u0821\u0822\u0823ࠤ\u0825ࡀ\u089eࢭ\u08e4\u08f5\ufb2e\ufb2fﯨﯩﹶﹷﺁﺂﺍﺎﻯﻰ𐴀𐴝𞸀𞺀"), ("a-", "ﳲ"),
   ("aa", "ݴ\u07a7ﱝﲐ"), ("aan", "ﴼﴽ"), ("ae", "ە"), ("Af", "؋"), ("Akbar", "ﷳ"), ("Alayhi", "ﷷ"),
   ("Allah", "ﷲ"), ("an", "\u064b\u08e7\u08f0ﹰﹱ"), ("ay", "\ufb1f"),
   ("b", "בبٮٻܒݐݓݕބࠁࡁࢠࢡ\ufb31\ufb4cﭒﭓﭔﭕﺏﺐﺑﺒ𐡁𐡡𐢂𐢃𐣡𐤁𐩨𐪈𐫁𐭁𐭡𐮁𐴁𐺁𐼂𐼃𐼱𐽱𐾲𐿡𞸁𞸜𞸡𞹡𞹼𞺁𞺡"), ("ba", "ﰉﱮ"),
   ("bh", "ڀܭࡦﭚﭛﭜﭝﰆﲝﲠﳢ𐫂"), ("bhy", "ﷂ"), ("bj", "ﰅﲜ"), ("bkh", "ﰇﲞ"), ("bkhy", "ﶞ"),
   ("bm", "ﰈﱬﲟﳡ"), ("bn", "ﱭ"), ("br", "ﱪ"), ("by", "ﰊﱯ"), ("bz", "ﱫ"), ("c", "ݖݘࢊ𐫝𐺆𐽽"),
   ("cbrt", "؆"), ("cch", "ڇ"), ("Ch", "ڿ"), ("ch", "چݮݼޗﭺﭻﭼﭽﭾﭿﮀﮁ𐴆𐺇"), ("ch-", "𐺈"),
   ("chh", "ࣁ"), ("D", "ضډڊڏڐۻ"),
   ("d", "דدڎۮܕܖݚޑޟࠃࡃﬢ\ufb33ﮈﮉﺩﺪﺽﺾﺿﻀ𐡃𐡣𐢅𐣣𐤃𐩳𐩵𐩹𐪓𐪕𐪙𐫅𐭃𐭣𐮃𐴊𐴋𐺋𐺔𐽸𐾴𐿣𞸃𞸙𞸹𞹙𞹹𞺃𞺙𞺣𞺹𞻱"), ("da", "ﴇﴣ"),
   ("dd", "ڈݙ"), ("ddh", "ڍ"), ("dh", "ذڌܯދࡖﮂﮃﮄﮅﮆﮇﰣﲵﺫﺬﻅﻆﻇﻈ𐫔𞸘𞺘𞺸"), ("dha", "ﱛﵮ"), ("dhm", "ﰨﲹﴻ"),
   ("dhy", "ﶫ"), ("dj", "ﰢﲴ"), ("dkh", "ﰤﲶ"), ("dkhm", "ﵯﵰ"), ("dm", "ﰥﲷ"), ("dr", "ﴐﴬ"),
   ("Dt", "ڋ"), ("dy", "ڄﴈﴤ"), ("dz", "ࢮ"), ("E", "\u0739"),
   ("e", "\u05b1\u05b5\u05b6\u0659\u065a\u065cٴ\u0736\u0737\u0738ݺ\u07ac\u081c\u081d\u08e3"),
   ("e", "\u08f4ﮤﮥﮮﮯﯤﯥﯦﯧ𐴠𐺩𐺱"), ("e'", "ﮰﮱ"), ("ee", "ݻ\u07a9"), ("ew", "𐺦"), ("ey", "\u07ad"),
   ("F", "ڡڢڣ"), ("f", "فڥݏݠݡފࠐࢤࢻﻑﻒﻓﻔ𐩰𐪐𐫜𐴉𐺙𐽃𞸐𞸞𞸰𞹰𞹾𞺐𞺰"), ("fa", "ﰱﱼ"), ("fh", "ﰮﲿ"), ("fj", "ﰭﲾ"),
   ("fkh", "ﰯﳀ"), ("fkhm", "ﵼﵽ"), ("fm", "ﰰﳁ"), ("fmy", "ﷁ"), ("fy", "ﰲﱽ"), ("G", "غڰڲڳڴ"),
   ("g", "גگܓܔݢݿގࠂࡂࢍࢰ\ufb32ﮒﮓﮔﮕﮖﮗﮘﮙ𐡂𐡢𐢄𐣢𐤂𐩴𐩶𐪔𐪖𐫃𐭂𐭢𐮂𐴒𐺟𐼄𐼲𐽲𐾳𐿢"), ("GH", "ڠ"), ("Gh", "ۼ"),
   ("gh", "ܮޣࣃﻍﻎﻏﻐ𐫄𞸛𞸻𞹛𞹻𞺛𞺻"), ("gha", "ﳹﴕ"), ("ghj", "ﰫﲼ"), ("ghm", "ﰬﲽ"), ("ghma", "ﵻ"),
   ("ghmm", "ﵹ"), ("ghmy", "ﵺ"), ("ghy", "ﳺﴖ"), ("gr", "ࣈ"), ("H", "حڂڅۂܚ"),
   ("h", "\u05c1הهھہۿܗހࠄࠇࡄࡇﬣ\ufb34ﮦﮧﮨﮩﮪﮫﮬﮭﺓﺔﺡﺢﺣﺤﻩﻪﻫﻬ𐡄𐡇𐡤𐡧𐢆𐢇𐢊𐣤𐣧𐤄𐤇𐩠𐩢𐩭𐪀𐪂𐪍𐫆𐫍𐭄𐭇𐭤𐭧𐮄𐮇𐴇𐺉𐺧𐼅𐼆𐼉𐼳𐼶𐾵𐾹𐿤𐿧𞸇𞸤𞸧𞹇"),
   ("h", "𞹤𞹧𞺄𞺇𞺧"), ("ha", "ﱓﳙﳿﴛ"), ("hh", "ޙ"), ("hj", "ﰗﱑﲩﳗ"), ("hjy", "ﶿ"), ("hm", "ﰘﱒﲪﳘ"),
   ("hma", "ﵛ"), ("hmj", "ﶓ"), ("hmm", "ﶔ"), ("hmy", "ﵚ"), ("hy", "ۀﱔﴀﴜ"),
   ("i", "\u05b4ײ\u0650\u0656\u073a\u073bݵ\u07a8ࠚ\u081bࠨ\u0829\u082aࡉ\u08e6\u08f6ﹺﹻ𐴞"),
   ("i'", "ﺉﺊﺋﺌ"), ("i'a", "ﯪﯫﯹﯺﯻﰃﱨ"), ("i'e", "ﯶﯷﯸ"), ("i'h", "ﰁﲘﲛﳠ"), ("i'j", "ﰀﲗ"),
   ("i'kh", "ﲙ"), ("i'm", "ﰂﱦﲚﳟ"), ("i'n", "ﱧ"), ("i'o", "ﯲﯳ"), ("i'r", "ﱤ"), ("i'u", "ﯰﯱﯴﯵ"),
   ("i'w", "ﯮﯯ"), ("i'y", "ﰄﱩ"), ("i'z", "ﱥ"), ("i-", "ﱢﳴ"), ("i-e", "ﯬﯭ"), ("ii", "ݶ"),
   ("in", "\u064d\u08e9\u08f2ﹴ"), ("in-", "ﱟ"), ("j", "جژݯݲޖࡡࢢࣅࣆﭲﭳﭴﭵﺝﺞﺟﺠ𐫋𐴅𐺐𞸂𞸢𞹂𞹢𞺂𞺢"),
   ("ja", "ﴁﴝ"), ("Jalla Jalaluhu", "ﷻ"), ("jh", "ﰕﲧ𐫌"), ("jha", "ﶦ"), ("jhy", "ﶾ"),
   ("jm", "ﰖﲨ"), ("jma", "ﶧ"), ("jmh", "ﵘﵙ"), ("jmy", "ﶥ"), ("jy", "ﴂﴞ"), ("K", "ګڬڮ"),
   ("k", "ךכػؼكڪܟݤކࠊࡊࢴﬤ\ufb3a\ufb3b\ufb4dﮎﮏﮐﮑﻙﻚﻛﻜ𐡊𐡪𐢎𐢏𐣪𐤊𐩫𐪋𐫐𐫑𐭊𐭪𐮉𐴑𐺝𐼋𐼸𐽷𐾻𐿪𞸊𞸪𞹪"), ("k-", "𐺞"),
   ("ka", "ﰷﰽﲀﲃ"), ("kd", "ࡗ"), ("kh", "חخکݎޚࣂﰹﳅﺥﺦﺧﺨ𐫒𐴈𞸗𞸷𞹗𞹷𞺗𞺷"), ("kha", "ﴃﴟ"), ("khh", "ﰚ"),
   ("khj", "ﰙﲫ"), ("khm", "ﰛﲬ"), ("khy", "ﴄﴠ"), ("kj", "ﰸﳄ"), ("kkh", "ﰺﳆ"), ("kl", "ﰻﲁﳇﳫ"),
   ("km", "ﰼﲂﳈﳬ"), ("kmm", "ﶻﷃ"), ("kmy", "ﶷ"), ("ky", "ﰾﲄ"), ("L", "ڵڶڷڸ"),
   ("l", "לلܠލࠋࡋࡨࡩࢦࣇﬥ\ufb3c\ufb3eﭏﻝﻞﻟﻠ𐡋𐡫𐢐𐢑𐣫𐤋𐩡𐪁𐫓𐭋𐭫𐮊𐴓𐺠𐼌𐼹𐽄𐾁𐾼𐿫𞸋𞸫𞹋𞺋𞺫"), ("l-", "ﻷﻸﻹﻺ"),
   ("la", "ﱃﲆﻵﻶﻻﻼ"), ("lh", "ޅﱀﳊﳍ"), ("lha", "ﶂ"), ("lhm", "ﶀﶵ"), ("lhy", "ﶁ"), ("lj", "ﰿﳉ"),
   ("ljj", "ﶃﶄ"), ("ljm", "ﶺﶼ"), ("ljy", "ﶬ"), ("lkh", "ﱁﳋ"), ("lkhm", "ﶅﶆ"), ("ll", "𐺰"),
   ("lm", "ﱂﲅﳌﳭ"), ("lmh", "ﶇﶈ"), ("lmy", "ﶭ"), ("ly", "ﱄﲇ"),
   ("m", "םמمܡݥݦމࠌࡌﬦﬧﻡﻢﻣﻤ𐡌𐡬𐢒𐢓𐣬𐤌𐩣𐪃𐫖𐭌𐭬𐮋𐴔𐴣𐺡𐼍𐼺𐽹𐾽𐿬𞸌𞸬𞹬𞺌𞺬"), ("ma", "ﱉﲈ"), ("mb", "ࢶ"), ("mh", "ﱆﳏ"),
   ("mhj", "ﶉ"), ("mhm", "ﶊ"), ("mhy", "ﶋ"), ("mj", "ﱅﳎ"), ("mjh", "ﶌ"), ("mjkh", "ﶒ"),
   ("mjm", "ﶍ"), ("mjy", "ﷀ"), ("mkh", "ﱇﳐ"), ("mkhj", "ﶎ"), ("mkhm", "ﶏ"), ("mkhy", "ﶹ"),
   ("mm", "ﱈﲉﳑ"), ("mmy", "ﶱ"), ("mp", "ࢷ"), ("Muhammad", "ﷴ"), ("mv", "ࢧ"), ("my", "ﱊ"),
   ("N", "ڱڹںڻڼڽ"),
   ("n", "ןנنܢݧݨݩނޱࠍࡍࡤࡥࢳࢽ\ufb40\ufb41ﭶﭷﭸﭹﮚﮛﮜﮝﮞﮟﮠﮡﮢﮣﻥﻦﻧﻨ𐡍𐡭𐡮𐢔𐢕𐣭𐤍𐩬𐪌𐫗𐭍𐭭𐮌𐴕𐺢𐼎𐼏𐼐𐼻𐽺𐾾𐿭𞸍𞸝𞸭𞹍𞹝𞹭𞺍𞺭"),
   ("na", "ﱏﲎ"), ("ng", "ڭݗݝݣࡠﯓﯔﯕﯖ𐴚"), ("nh", "ﱌﳓﳖﳯ"), ("nha", "ﶖ"), ("nhm", "ﶕ"), ("nhy", "ﶳ"),
   ("nj", "ࢉﱋﳒ"), ("nja", "ﶙ"), ("njh", "ﶸﶽ"), ("njm", "ﶗﶘ"), ("njy", "ﷇ"), ("nkh", "ﱍﳔ"),
   ("nm", "ﱎﲌﳕﳮ"), ("nma", "ﶛ"), ("nmy", "ﶚ"), ("nn", "ﲍ"), ("nr", "ࢹﲊ"), ("ny", "ڃۑݔޏࡢࢺﱐﲏ𐴛"),
   ("nz", "ﲋ"), ("o", "\u05b3\u05b9\u05ba\u05c7\u065b\u065d\u073f\u07ae\u082bﯙﯚﯠﯡ𐴡𐺥"),
   ("oa", "\u07af"), ("oe", "ۅۆ"), ("oo", "\u07ab"), ("oy", "ױ"),
   ("p", "ףפپܦܧݑݒޕࡐ\ufb43\ufb44\ufb4eﭖﭗﭘﭙ𐡐𐡱𐢘𐣰𐤐𐫛𐭐𐭯𐮎𐴂𐺂𐼔𐼾𐽼𐿁𐿰"), ("p-", "𐺃"), ("ph", "ڦࢾﭮﭯﭰﭱ"),
   ("Q", "ڧڨ\u0746"), ("q", "קقٯܩޤࠒࡒࢥࢵࢼࣄﻕﻖﻗﻘ𐡒𐡳𐢚𐣲𐤒𐩤𐪄𐫞𐭒𐺜𐿲𞸒𞸟𞸲𞹒𞹟𞹲𞺒𞺲"), ("qa", "ﰵﱾ"), ("qh", "ﰳﳂ𐫠"),
   ("qm", "ﰴﳃ"), ("qmh", "ﵾﶴ"), ("qmm", "ﵿ"), ("qmy", "ﶲ"), ("qy", "ﰶﱿ"), ("R", "ڒړڔڕږڗڙ"),
   ("r", "ר؈رۯܪݛݫރࠓࡓࡧࢪ\ufb48ﮌﮍﺭﺮ𐡓𐡴𐢛𐤓𐩧𐪇𐫡𐭓𐴌𐴍𐺍𐼘𐽀𐽾𐿂𐿳𞸓𞺓𞺳"), ("r-", "𐺎"), ("ra", "ﱜ"), ("Rasul", "ﷶ"),
   ("Rial", "﷼"), ("rr", "ڑ"), ("S", "صښڛڜڝڞܨ"),
   ("s", "סسܣܤݜݭݾސޞࠎࡎࡑࡪ\ufb2b\ufb2dﺱﺲﺳﺴﺹﺺﺻﺼ𐡎𐡑𐡯𐡲𐢖𐢙𐣮𐣱𐤎𐤑𐩦𐩪𐩮𐩯𐪆𐪊𐪎𐪏𐫘𐭎𐭑𐭮𐭰𐮍𐮏𐴏𐺅𐺑𐺓𐼑𐼕𐼖𐼗𐼼𐼿𐽻𐾿𐿮𐿱𞸎𞸑𞸮𞸱𞹎𞹑𞹮𞹱𞺎𞺑𞺮"),
   ("s", "𞺱"), ("sa", "ﳻﴅﴗﴡ"), ("Sh", "ۺ"),
   ("sh", "שشܫݰݽށޝࠔࡔ\ufb2a\ufb2c\ufb49ﰝﰠﲮﲱﳨﴱﴵﺵﺶﺷﺸ𐡔𐡵𐢜𐢝𐣴𐤔𐫢𐫣𐭔𐭱𐮐𐴐𐺒𐼙𐽁𐽅𐽿𐿃𐿴𞸔𞸴𞹔𞹴𞺔𞺴"), ("sha", "ﳽﴙ"),
   ("shh", "ﳪﴊﴦﴮﴲﴸﵤﵥ"), ("shhm", "ﵧﵨ"), ("shhy", "ﶪ"), ("shj", "ﴉﴥﴭﴷﵜ"), ("shjy", "ﵩ"),
   ("shkh", "ﴋﴧﴯﴹ"), ("shm", "ﳩﴌﴨﴰ"), ("shmkh", "ﵪﵫ"), ("shmm", "ﵬﵭ"), ("shr", "ﴍﴩ"),
   ("shy", "ﳾﴚﶩ"), ("sj", "ﰜﲭﴴ"), ("sja", "ﵞ"), ("sjh", "ﵝ"), ("skh", "ﰞﲯﲲﴶ"), ("skha", "ﶨ"),
   ("skhy", "ﷆ"), ("sl", "ݪ"), ("SL-M", "ﷵ"), ("slaallh'lyhwslm", "ﷺ"), ("sm", "ﰟﰡﲰﲳﳧ"),
   ("smh", "ﵟﵠ"), ("smj", "ﵡ"), ("smm", "ﵢﵣﵦﷅ"), ("sn-", "\u0601"), ("sr", "ﴎﴏﴪﴫ"),
   ("sy", "ﳼﴆﴘﴢ"), ("T", "طٽڟ"),
   ("t", "טתتټܛܜܬޓޠࠈࠕࡈࡕࡣࢋࢌࢣﬨ\ufb38\ufb4aﭦﭧﭨﭩ﯀﯁ﺕﺖﺗﺘﻁﻂﻃﻄ𐡈𐡕𐡨𐡶𐢋𐢞𐣨𐣵𐤈𐤕𐩩𐩷𐩻𐪉𐪗𐪛𐫎𐫤𐭈𐭕𐭨𐭲𐮑𐴃𐴄𐺕𐼚𐼛𐼜𐽂𐾀𐿄𐿨𐿵𞸈𞸕𞸵𞹨𞹵"),
   ("t", "𞺈𞺕𞺨𞺵"), ("t-", "𐺄"), ("ta", "ﰏﱴﳵﴑ"), ("th", "ثٿތޛࢿﭞﭟﭠﭡﭢﭣﭤﭥﰌﰦﲢﲥﲸﳤﺙﺚﺛﺜ𐫕𞸖𞸶𞹶𞺖𞺶"),
   ("tha", "ﰓﱺ"), ("thh", "ﳦ"), ("thj", "ﰑﵑﵒ"), ("thm", "ﰒﱸﲦﳥﵓ"), ("thn", "ﱹ"), ("thr", "ﱶ"),
   ("thy", "ﰔﱻ"), ("thz", "ﱷ"), ("tj", "ﰋﲡ"), ("tja", "ﶠ"), ("tjm", "ﵐ"), ("tjy", "ﶟ"),
   ("tkh", "ﰍﲣ"), ("tkha", "ﶢ"), ("tkhm", "ﵔ"), ("tkhy", "ﶡ"), ("tm", "ﰎﰧﱲﲤﳣﴳﴺ"), ("tma", "ﶤ"),
   ("tmh", "ﵖﵱﵲ"), ("tmj", "ﵕ"), ("tmkh", "ﵗ"), ("tmm", "ﵳ"), ("tmy", "ﵴﶣ"), ("tn", "ﱳ"),
   ("tr", "ﱰ"), ("ts", "ץצࠑࢯ\ufb46\ufb47"), ("tt", "ٹޘࢸ"), ("tth", "ٺࣀ"), ("ty", "ﰐﱵﳶﴒ"),
   ("tz", "ﱱ"),
   ("u", "\u05bb\u064f\u0657ۇ\u073c\u073d\u073eݸ\u07aa\u0826\u0827\u08e5\u08f1\u08f3\u08feﯗﯘﯛ"),
   ("u", "ﯜﯝﯢﯣﹸﹹ𐴟𐺣"), ("u'", "ﺅﺆ"), ("u-", "ﱡﳳ"), ("ud", "𐫈"), ("un", "\u064c\u08e8ﱞﹲ"),
   ("uu", "ݹ"), ("V", "װ"), ("v", "וڤۋވ\ufb35ﭪﭫﭬﭭﯞﯟ𐴜𐺚𐺛"), ("vo", "\ufb4b"), ("W", "\u0651ۄۊۏ"),
   ("w", "وܘޥࠅࡅࢫࢱﻭﻮ𐡅𐡥𐢈𐣥𐤅𐩥𐪅𐫇𐭅𐭥𐮅𐴖𐴗𐺤𐼇𐼴𐽳𐾶𐿥𞸅𞺅𞺥"), ("w'", "ؤ"), ("Wasallam", "ﷸ"), ("X", "\u0745"),
   ("x", "𐫟𐺊𐺘𐽵"), ("Y", "ۍێې"),
   ("y", "יؠؽؾؿيیےܝݷޔࠉࢆࢨࢩࢬ\ufb39ﯼﯽﯾﯿﻱﻲﻳﻴ𐡉𐡩𐢌𐢍𐣩𐤉𐩺𐪚𐫏𐭉𐭩𐮈𐴘𐴙𐺨𐼊𐼷𐽶𐾺𐿩𞸉𞸩𞹉𞹩𞺉𞺩"), ("y'", "ئۓ"), ("ya", "ﱙﲕ"),
   ("yh", "ܞﱖﳛﳞﳱ"), ("yhy", "ﶮ"), ("yi", "\ufb1d"), ("yj", "ﱕﳚ"), ("yjy", "ﶯ"), ("ykh", "ﱗﳜ"),
   ("ym", "ﱘﲓﳝﳰ"), ("ymm", "ﶜﶝ"), ("ymy", "ﶰ"), ("yn", "ﲔ"), ("yr", "ﲑ"), ("yu", "ۈۉ"),
   ("yy", "ﱚﲖ"), ("YYY", "ׯ"), ("yz", "ﲒ"), ("Z", "ظ"),
   ("z", "זزܙݬޒޜޡࠆࡆࢲ\ufb36ﺯﺰ𐡆𐡦𐢉𐣦𐤆𐩸𐩼𐪘𐪜𐫉𐭆𐭦𐮆𐴎𐺌𐺏𐺖𐼈𐼵𐽴𐾸𐿦𞸆𞸚𞹺𞺆𞺚𞺦𞺺"), ("zh", "ݍݱﮊﮋ𐫊"), ("zy", "𐿶"),
   ("\x7b", "܋"), ("|", "׀\u0749"), ("\x7d", "܌"), ("~", "ى܊")]

end AtomicCss.Text
