/-!
# Signs for words

ASCII spellings of hieroglyphs, cuneiform signs, hexagrams and of the ideographs of Tangut,
Khitan and Nushu: the reading of each, or its number in the list of its signs.
-/

set_option autoImplicit false

namespace AtomicCss.Text

/-- The spellings with the signs that have them. -/
def logographSpellings : List (String × String) :=
  [("1", "𒐬𒐴𒑘𒾐"), ("1/2", "𒑤"), ("1/3", "𒑚𒑝𒑥"), ("1/4", "𒑠𒑢𒑣"), ("1/6", "𒑡"), ("1/8", "𒑟"),
   ("11", "𘬐"), ("112", "𒿯"), ("114", "𒿰"), ("12", "𒾛"), ("13", "𒾜"), ("15", "𒾝"), ("166", "𘯙"),
   ("17", "𒾞"), ("19", "𒾟"), ("2", "𒐣𒐭𒐵𒑖𒑙𒾑𘬂"), ("2/3", "𒑛𒑞𒑦"), ("21", "𒾠"), ("216000", "𒐲"),
   ("227", "𘰛"), ("297", "𘮪"), ("3", "𒐤𒐮𒐯𒐶𒐷𒐺𒐻𒑗"), ("301", "𒿱𘮮"), ("302", "𒿲"), ("315", "𘯁"),
   ("321", "𘯍"), ("325", "𘯑"), ("327", "𘱓"), ("374", "𘲈"), ("4", "𒐰𒐸𒐼𒐽𒐾𒐿𒑓"), ("40", "𒑧"),
   ("400", "𘮔"), ("432000", "𒐳"), ("44", "𒾲"), ("46", "𒾳"), ("47", "𒾴"), ("5", "𒐱𒐹𒑔𒑕"),
   ("5/6", "𒑜"), ("50", "𒑨"), ("57", "𘭊"), ("6", "𒑀"), ("7", "𒑁𒑂𒑃"), ("75", "𒿎"), ("76", "𒿏"),
   ("8", "𒑄𒑅"), ("81", "𘭧"), ("89", "𘭱"), ("9", "𒑆𒑇𒑈𒑉"), ("91", "𘭳"), ("92", "𘭴"), ("98", "𘮅"),
   ("A", "𓄿"), ("a", "𓂝𗈪"), ("aA", "𓉻"), ("ab", "𓃁"), ("Aby", "𓃮"), ("aD", "𓎙"), ("ad", "𓆝"),
   ("aH", "𓉥"), ("aHA", "𓂚"), ("aHa", "𓊢"), ("Ams", "𓌄"), ("anx", "𓋹"), ("Apd", "𓅿"),
   ("apr", "𓐢"), ("aq", "𓅧"), ("arq", "𓍼"), ("aSA", "𓆈"), ("Atf", "𓋚"), ("Aw", "𓄫"),
   ("awt", "𓋿"), ("Ax", "𓅜"), ("Axt", "𓈌"), ("b", "𓃀"), ("bA", "𓅡"), ("ba", "𗫒"), ("baHi", "𓅤"),
   ("bAs", "𓎰"), ("bAw", "𓅢"), ("bd", "𓊺"), ("bdt", "𓇣"), ("bH", "𓄑"), ("Bi", "䷇䷕"), ("bi", "𗂸"),
   ("biA", "𓍄"), ("bit", "𓆤"), ("bnr", "𓇜"), ("Bo", "䷖"), ("bu", "𗃝"), ("bz", "𓆟"), ("Cha", "𝌐"),
   ("Chang", "𝌸"), ("Cheng", "𝍎"), ("chha", "𗀡"), ("cie", "𛋐"), ("Cong", "𝌘"), ("Cui", "䷬"),
   ("cya", "𛈚"), ("D", "𓆓"), ("d", "𓂧"), ("DA", "𓍑"), ("Da", "𝌔𝌲"), ("DaChu", "䷙"),
   ("DaGuo", "䷛"), ("Dam", "𓌁"), ("DaYou", "䷍"), ("DaZhuang", "䷡"), ("Db", "𓅙"), ("db", "𓄏"),
   ("DbA", "𓌥"), ("Dba", "𓂭"), ("DD", "𓆕"), ("dd", "𓊽"), ("DHwty", "𓁟"), ("di", "𗆕"),
   ("Ding", "䷱"), ("Dsr", "𓂦"), ("dSr", "𓅟"), ("dSrt", "𓋔"), ("Du", "𝌹"), ("Duan", "𝌢"),
   ("Dui", "䷹"), ("Dun", "䷠"), ("Dw", "𓈋"), ("dwAt", "𓇽"), ("dy", "𘌤"), ("dza", "𗪢"),
   ("dzew", "𗁂"), ("dzwy", "𗉑"), ("f", "𓆑"), ("Fa", "𝌭"), ("Feng", "䷶"), ("fnD", "𓂉"),
   ("Fu", "䷗"), ("ga", "𘴀"), ("Gan", "𝌍"), ("gb", "𓅬"), ("Ge", "䷰𝌛𝍋"), ("ge", "𗃉"), ("Gen", "䷳"),
   ("Geng", "𝌡"), ("ghi", "𗪺"), ("ghu", "𘴂"), ("ghwa", "𗂄"), ("gm", "𓅠"), ("Gou", "䷫"),
   ("grg", "𓍅"), ("Gu", "䷑"), ("Guai", "䷪"), ("Guan", "䷓"), ("GuiMei", "䷵"), ("gwi", "𘋹"),
   ("H", "𓎛"), ("h", "𓉔"), ("HA", "𓇉"), ("HAt", "𓄂"), ("hau", "𛉥"), ("Hb", "𓎱"), ("hb", "𓍁"),
   ("HD", "𓌉"), ("HDD", "𓌍"), ("HDt", "𓋑"), ("Heng", "䷟"), ("Hfn", "𓆐"), ("HH", "𓁨"),
   ("Hm", "𓍛"), ("Hmt", "𓍍"), ("Hn", "𓆰"), ("Hnmmt", "𓇶"), ("Hnqt", "𓏊"), ("Hp", "𓐑"),
   ("HqA", "𓋾"), ("HqAt", "𓌿"), ("Hr", "𓁷"), ("Htp", "𓊵"), ("Huan", "䷺"), ("Hui", "𝍈"),
   ("Hwt", "𓉗"), ("Hz", "𓎿"), ("i", "𓇋"), ("iAb", "𓋁"), ("iab", "𓎺"), ("iaH", "𓇹"), ("iAm", "𓆭"),
   ("iAt", "𓈏"), ("ib", "𓄣"), ("ibA", "𓏡"), ("id", "𓈞"), ("idr", "𓎩"), ("idt", "𓇲"), ("iH", "𓌤"),
   ("ii", "𓇍"), ("im", "𓐛"), ("imAx", "𓄪"), ("imi", "𓏶"), ("imnt", "𓋀"), ("in", "𓆛"),
   ("inb", "𓊅"), ("ini", "𓏎"), ("inpw", "𓁢"), ("iou", "𛈶"), ("ipt", "𓊒"), ("ir", "𓁹"),
   ("iry", "𓀸"), ("it", "𓌾"), ("iTi", "𓎁"), ("iw", "𓈀"), ("iwa", "𓄯"), ("iwn", "𓉺"), ("iz", "𓇩"),
   ("jew", "𘊧"), ("Ji", "𝍁"), ("Jian", "䷦䷴𝌼𝍍"), ("Jiang", "𝌩𝍓"), ("Jiao", "𝌕"), ("JiaRen", "䷤"),
   ("Jie", "䷻"), ("JiJi", "䷾"), ("Jin", "䷢𝌙𝌽"), ("Jing", "䷯"), ("Ju", "𝌬𝍀𝍑"), ("k", "𓎡"),
   ("kA", "𓂓"), ("Kan", "䷜"), ("kAr", "𓉬"), ("kha", "𘝸"), ("khan", "𗫱"), ("khang", "𛈋"),
   ("khu", "𛇰"), ("khwy", "𘑢"), ("km", "𓆎"), ("ko", "𗂀"), ("kp", "𓊶"), ("ku", "𘕒"), ("kua", "𛈙"),
   ("Kui", "䷥"), ("Kun", "䷁䷮𝌻"), ("Kuo", "𝌳"), ("kwar", "𗩒"), ("kwen", "𘇦"), ("kwy", "𘐰"),
   ("Le", "𝌝"), ("lha", "𘔇"), ("lhe", "𗁻"), ("lhi", "𘌋"), ("lho", "𗩪"), ("Li", "䷝𝌋𝌵"),
   ("li", "𗨢𘘗"), ("Lian", "𝌨"), ("Lin", "䷒"), ("liou", "𛇋"), ("lo", "𘐺"), ("lou", "𛈰"),
   ("Lu", "䷉䷷"), ("lu", "𘐁𛋗"), ("lwy", "𗃄"), ("ly", "𗁑"), ("M", "𓐝"), ("m", "𓅓"), ("mA", "𓌳"),
   ("mAa", "𓐙"), ("mAat", "𓁦"), ("mang", "𛋪"), ("mAw", "𓅶"), ("mD", "𓎆"), ("md", "𓌃"),
   ("mDAt", "𓏛"), ("mDH", "𓋜"), ("mDt", "𓎅"), ("Meng", "䷃𝍉"), ("mH", "𓎔"), ("Mi", "𝌦"),
   ("mi", "𓏇"), ("MingYi", "䷣"), ("mm", "𓅔"), ("mn", "𓏠"), ("mnD", "𓂑"), ("mnit", "𓋧"),
   ("mniw", "𓀦"), ("mnw", "𓁤"), ("mnx", "𓍊"), ("mnxt", "𓋲"), ("mr", "𓌸𓌻𓍋"), ("ms", "𓄟"),
   ("mSa", "𓀎"), ("msH", "𓆊"), ("msi", "𓁒"), ("msn", "𓎣"), ("mt", "𓂸"), ("mw", "𓈗"),
   ("mwt", "𓅐"), ("mxAt", "𓍝"), ("myr", "𗃳"), ("n", "𓈖"), ("Nan", "𝍔"), ("nar", "𘒺"),
   ("nb", "𓎟"), ("nbty", "𓅒"), ("nbw", "𓋞"), ("nD", "𓐩"), ("nDm", "𓇛"), ("nDs", "𓅪"),
   ("Nei", "𝍆"), ("ner", "𘅷"), ("new", "𗨔"), ("nfr", "𓄤"), ("nfw", "𓊡"), ("nguow", "𛋵"),
   ("nH", "𓅘"), ("niwt", "𓊖"), ("njie", "𛅺"), ("njing", "𛈔"), ("nm", "𓌰"), ("nmt", "𓌩"),
   ("nr", "𓆂"), ("ns", "𓄓"), ("nSmt", "𓆠"), ("nst", "𓎼"), ("nTr", "𓊹"), ("nw", "𓏌"),
   ("nxAxw", "𓌅"), ("nxn", "𓊔"), ("o", "𗃨"), ("p", "𓊪"), ("pA", "𓅮"), ("pan", "𘒘"), ("pAq", "𓆁"),
   ("pD", "𓌔"), ("pd", "𓌒"), ("pH", "𓄖"), ("pha", "𗂵"), ("pho", "𘜼"), ("Pi", "䷋"), ("pi", "𘐎"),
   ("pir", "𘐜"), ("pr", "𓉐"), ("pt", "𓇯"), ("pzD", "𓇷"), ("q", "𓈎"), ("qAb", "𓄲"), ("qd", "𓐪"),
   ("Qian", "䷀䷎"), ("Qin", "𝌧𝍕"), ("Qiong", "𝍊"), ("qiz", "𓀫"), ("qmA", "𓌙"), ("qn", "𓐖"),
   ("qnbt", "𓊋"), ("qrsw", "𓊭"), ("qs", "𓌟"), ("Qu", "𝍇"), ("r", "𓂋"), ("rdi", "𓏙"),
   ("rer", "𘚌"), ("rir", "𗨒𘐯"), ("rmi", "𓁿"), ("rnp", "𓆳"), ("rs", "𓌘"), ("rsw", "𓇔"),
   ("rtH", "𓍕"), ("Ruan", "𝌖"), ("Rui", "𝌓"), ("rw", "𓃭"), ("rwd", "𓌗"), ("rxyt", "𓅚"),
   ("S", "𓈙"), ("s", "𓋴"), ("SA", "𓆷"), ("sA", "𓐟"), ("sAb", "𓃥"), ("sAH", "𓃃"), ("sai", "𛊛"),
   ("sAq", "𓆌"), ("sbA", "𓇼"), ("sbk", "𓆋"), ("sbq", "𓂾"), ("Sd", "𓄞"), ("sd", "𓄢"),
   ("sDAw", "𓋨"), ("sDm", "𓄔"), ("se", "𘑣"), ("sf", "𓋵"), ("Shang", "𝌌"), ("Shao", "𝌊"),
   ("shar", "𗉾"), ("Shen", "𝍅"), ("Sheng", "䷭𝌫"), ("Shi", "䷆𝌚𝌠𝍂𝍄𝍐"), ("ShiKe", "䷔"),
   ("Shou", "𝌎𝌾"), ("shwo", "𘈝"), ("siA", "𓋷"), ("Sm", "𓈝"), ("sm", "𓇐"), ("Sma", "𓇗"),
   ("Sms", "𓌞"), ("Sn", "𓍲"), ("sn", "𓌢"), ("snD", "𓅾"), ("Sndyt", "𓋯"), ("snT", "𓍰"),
   ("snTr", "𓊸"), ("Snwt", "𓊚"), ("Sny", "𓁸"), ("Song", "䷅"), ("spAt", "𓈈"), ("spd", "𓇮"),
   ("spr", "𓄭"), ("Sps", "𓀻"), ("Spsi", "𓀼"), ("spt", "𓂎"), ("spty", "𓂏"), ("sr", "𓀙"),
   ("srqt", "𓆫"), ("Ss", "𓍱"), ("sS", "𓏞"), ("SsA", "𓄃"), ("sSm", "𓌫"), ("sSr", "𓎤"),
   ("St", "𓍢"), ("sT", "𓋫"), ("st", "𓊨"), ("sTA", "𓍬"), ("sTAw", "𓍮"), ("sti", "𓄝"),
   ("stp", "𓍉"), ("stX", "𓁣"), ("Styw", "𓆉"), ("Sui", "䷐𝌪"), ("Sun", "䷨"), ("Sw", "𓆄"),
   ("sw", "𓇓"), ("Swt", "𓋺"), ("Swty", "𓋛"), ("swy", "𘞗"), ("sxmty", "𓋗"), ("sxt", "𓇏"),
   ("sy", "𘙪"), ("Szp", "𓊏"), ("T", "𓍿"), ("t", "𒀸𓏏"), ("TA", "𓅷"), ("tA", "𓇾"), ("ta", "𘑏𘕸𘴁"),
   ("Tai", "䷊"), ("Tang", "𝌷"), ("Tao", "𝌶"), ("Tb", "𓋸"), ("tcing", "𛊀"), ("tcye", "𛊵"),
   ("tHn", "𓋣"), ("thon", "𗀶"), ("thu", "𗪄"), ("ti", "𓍘𘏚"), ("tm", "𓍃"), ("to", "𗨶"),
   ("Tong", "𝌑"), ("TongRen", "䷌"), ("tp", "𓁶"), ("tr", "𓆵"), ("tshi", "𘅳"), ("tshie", "𛊇"),
   ("tsiong", "𛉽"), ("tsiu", "𛊑"), ("txn", "𓉶"), ("tyw", "𓅂"), ("Tz", "𓋭"), ("u", "𗃭"),
   ("vang", "𛈈"), ("ve", "𗩡"), ("vy", "𗄞𘒸"), ("W", "𓏲"), ("w", "𓅱"), ("wA", "𓍯"), ("wa", "𓌡"),
   ("wab", "𓃂"), ("wAD", "𓇅"), ("wAH", "𓎝"), ("wAs", "𓌀"), ("wbA", "𓍏"), ("wD", "𓎗"),
   ("wDa", "𓐣"), ("wDAt", "𓂀"), ("wDb", "𓈄"), ("WeiJi", "䷿"), ("Wen", "𝌴"), ("wHa", "𓊠"),
   ("wHm", "𓄙"), ("wn", "𓃹"), ("wp", "𓄋"), ("wr", "𓅨"), ("wrrt", "𓌝"), ("wSA", "𓅰"),
   ("wSm", "𓆀"), ("wsr", "𓄊"), ("wsx", "𓋝"), ("wsxt", "𓉩"), ("Wu", "𝌟"), ("wu", "𘑨"),
   ("WuWang", "䷘"), ("ww", "𓅳"), ("wx", "𓋂"), ("wz", "𓊩"), ("X", "𓄡"), ("x", "𓐍"), ("XA", "𓆞"),
   ("xA", "𓆼"), ("xa", "𓈍"), ("xAst", "𓈉"), ("Xi", "𝌗𝌿"), ("Xian", "䷞𝌈𝌉𝌏"), ("XiaoChu", "䷈"),
   ("XiaoGuo", "䷽"), ("Xie", "䷧"), ("Xkr", "𓐬"), ("xm", "𓋉"), ("Xn", "𓄚"), ("xn", "𓅯"),
   ("Xnm", "𓎸"), ("Xnmw", "𓁠"), ("xnt", "𓏃"), ("xpr", "𓆣"), ("xprS", "𓋙"), ("xpS", "𓄗"),
   ("Xr", "𓌨"), ("xr", "𓀒"), ("Xrd", "𓀔"), ("xrp", "𓌂"), ("xrw", "𓊤"), ("xsf", "𓍙"), ("xt", "𓆱"),
   ("xtm", "𓋩"), ("Xu", "䷄"), ("Xun", "䷸𝍒"), ("y", "𓏭"), ("Yang", "𝍖"), ("Yi", "䷚䷩𝌜𝌣𝍃"),
   ("Ying", "𝌮𝌯"), ("Yong", "𝌺"), ("Yu", "䷏𝌰"), ("z", "𓊃"), ("zA", "𓅭𓎂"), ("Zao", "𝌱"),
   ("zb", "𓊄"), ("Zeng", "𝌒"), ("zH", "𓉲"), ("Zhen", "䷲"), ("Zheng", "𝌞"), ("Zhi", "𝍌𝍏"),
   ("zhi", "𗄋"), ("Zhong", "𝌆𝌥"), ("ZhongFu", "䷼"), ("Zhou", "𝌇"), ("Zhuang", "𝌤"),
   ("Zhun", "䷂"), ("zi", "𘑽"), ("zmA", "𓄥"), ("zmn", "𓍖"), ("zp", "𓊗"), ("zSn", "𓆸"),
   ("zSSt", "𓏣"), ("zw", "𓇳"), ("zwn", "𓌕"), ("zxnt", "𓉽"), ("zyr", "𘓊")]

end AtomicCss.Text
