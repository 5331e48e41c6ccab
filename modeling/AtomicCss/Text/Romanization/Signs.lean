/-!
# Numbers and signs

ASCII spellings of single numbers, punctuation, currencies, units and signs, and of letters
that serve as signs.
-/

set_option autoImplicit false

namespace AtomicCss.Text

/-- The spellings with the characters that have them. -/
def signSpellings : List (String × String) :=
  [("\n", "\u2028"), ("\n\n", "\u2029"),
   (" ", "\u00a0\u2000\u2001\u2002\u2003\u2004\u2005\u2006\u2007\u2008\u2009\u200a\u200b"),
   (" ", "\u202f\u205f"), (" 1/", "⅟"), (" 1/3 ", "⅓"), (" 1/5 ", "⅕"), (" 1/6 ", "⅙"),
   (" 1/8 ", "⅛"), (" 2/3 ", "⅔"), (" 2/5 ", "⅖"), (" 3/5 ", "⅗"), (" 3/8 ", "⅜"),
   (" 4/5 ", "⅘"), (" 5/6 ", "⅚"), (" 5/8 ", "⅝"), (" 7/8 ", "⅞"), ("!", "¡¬"), ("!!", "‼"),
   ("!?", "‽⁉"), ("\"", "¨“”‟"), ("$?", "¤"), ("%0", "‰"), ("%00", "‱"), ("'", "´‘’‛′"),
   ("''", "″"), ("'''", "‴"), ("''''", "⁗"), ("(", "⁽₍"), ("(1)", "⑴"), ("(1) ", "㈠㊀"),
   ("(10)", "⑽"), ("(10) ", "㈩㊉"), ("(11)", "⑾"), ("(12)", "⑿"), ("(13)", "⒀"), ("(14)", "⒁"),
   ("(15)", "⒂"), ("(16)", "⒃"), ("(17)", "⒄"), ("(18)", "⒅"), ("(19)", "⒆"), ("(2)", "⑵"),
   ("(2) ", "㈡㊁"), ("(20)", "⒇"), ("(3)", "⑶"), ("(3) ", "㈢㊂"), ("(4)", "⑷"), ("(4) ", "㈣㊃"),
   ("(5)", "⑸"), ("(5) ", "㈤㊄"), ("(6)", "⑹"), ("(6) ", "㈥㊅"), ("(7)", "⑺"), ("(7) ", "㈦㊆"),
   ("(8)", "⑻"), ("(8) ", "㈧㊇"), ("(9)", "⑼"), ("(9) ", "㈨㊈"), ("(]", "⁌"), ("(A)", "🄐"),
   ("(a)", "⒜㈕㉵"), ("(B)", "🄑"), ("(b)", "⒝㈅㉥"), ("(ba)", "㈓㉳"), ("(C)", "🄒"), ("(c)", "©⒞㈉㉩"),
   ("(ca)", "㈗㉷"), ("(Cai) ", "㈶㊖"), ("(D", "ↀ"), ("(D)", "🄓"), ("(d)", "⒟㈂㉢"), ("(da)", "㈐㉰"),
   ("(Dai) ", "㈹"), ("(E)", "🄔"), ("(e)", "⒠"), ("(F)", "🄕"), ("(f)", "⒡"), ("(G)", "🄖"),
   ("(g)", "⒢㈀㉠"), ("(ga)", "㈎㉮"), ("(H)", "🄗"), ("(h)", "⒣㈍㉭"), ("(ha)", "㈛㉻"), ("(Hu) ", "㈺"),
   ("(Huo) ", "㈫㊋"), ("(I)", "🄘"), ("(i)", "⒤"), ("(J)", "🄙"), ("(j)", "⒥㈈㉨"), ("(ja)", "㈖㉶"),
   ("(Ji) ", "㉀"), ("(Jian) ", "㈼㊬"), ("(Jin) ", "㈮㊎"), ("(ju)", "㈜"), ("(K)", "🄚"),
   ("(k)", "⒦㈊㉪"), ("(ka)", "㈘㉸"), ("(L)", "🄛"), ("(l)", "⒧"), ("(Lao) ", "㈸㊘"), ("(M)", "🄜"),
   ("(m)", "⒨㈄㉤"), ("(ma)", "㈒㉲"), ("(Mi) ", "㊙"), ("(Ming) ", "㈴㊔"), ("(Mu) ", "㈭㊍"),
   ("(N)", "🄝"), ("(n)", "⒩㈁㉡"), ("(na)", "㈏㉯"), ("(Nan) ", "㊚"), ("(Nu) ", "㊛"), ("(O)", "🄞"),
   ("(o)", "⒪"), ("(P)", "℗🄟"), ("(p)", "⒫㈌㉬"), ("(pa)", "㈚㉺"), ("(Q)", "🄠"), ("(q)", "⒬"),
   ("(Qi) ", "㈽㊭"), ("(R)", "🄡"), ("(r)", "®⒭㈃㉣"), ("(ra)", "㈑㉱"), ("(Ri) ", "㈰㊐"), ("(S)", "🄢"),
   ("(s)", "⒮㈆㉦"), ("(sa)", "㈔㉴"), ("(Shang) ", "㊤"), ("(She) ", "㈳㊓"), ("(Shi) ", "㊜"),
   ("(Shui) ", "㈬㊌"), ("(T)", "🄣"), ("(t)", "⒯㈋㉫"), ("(ta)", "㈙㉹"), ("(Te) ", "㈵㊕"),
   ("(Tu) ", "㈯㊏"), ("(U)", "🄤"), ("(u)", "⒰"), ("(V)", "🄥"), ("(v)", "⒱"), ("(W)", "🄦"),
   ("(w)", "⒲"), ("(X)", "🄧"), ("(x)", "⒳"), ("(Xia) ", "㊦"), ("(Xiang) ", "㊠"),
   ("(Xie) ", "㈿㊢㊯"), ("(Xiu) ", "㉁㊡"), ("(Xue) ", "㈻㊫"), ("(Y)", "🄨"), ("(y)", "⒴"),
   ("(Ye) ", "㊰"), ("(Yi) ", "㊩"), ("(Yin) ", "㊞"), ("(You) ", "㈲㊒㊝㊨"), ("(Yue) ", "㈪㊊"),
   ("(Z)", "🄩"), ("(z)", "⒵"), ("(Zheng) ", "㊣"), ("(Zhong) ", "㊥"), ("(Zhu) ", "㈱㈷㊑㊗㊟"),
   ("(Zi) ", "㈾㊮"), ("(Zong) ", "㊪"), ("(Zuo) ", "㊧"), (")", "⁾₎"), ("*", "·•※⁎⁓"), ("***", "⁂"),
   ("*>", "‣"), ("+", "†⁕⁺₊"), ("++", "‡"), ("+-", "±"), ("+10+", "〸"), ("+20+", "〹"),
   ("+30+", "〺"), (",", "¸‚"), (",,", "„"), ("-", "¯‐‑‒–‾⁀⁒⁙⁻₋"), ("--", "—―⁃"), ("-[", "⁅"),
   ("-C", "￠"), ("-key-", "⚿"), ("-OHu-", "㈞"), ("-OJeon-", "㈝"), ("-Sh", "⅏"), (".", "․‧"),
   ("..", "‥"), ("...", "…"), ("/", "÷⁄"), ("0", "⁰∅⍉⍬⓪⓿⦰⦱⦲⦳⦴⩇⩉〇𐆊🂿🃟🄋🄌"), ("0,", "🄁"),
   ("0.", "🄀"), ("0/3", "↉"), ("00", "🀱🁣"), ("01", "𐇐🀲🁤"), ("02", "𐇑🀳🁥"), ("03", "𐇒🀴🁦"),
   ("04", "𐇓🀵🁧"), ("05", "𐇔🀶🁨"), ("06", "𐇕🀷🁩"), ("07", "𐇖"), ("08", "𐇗"), ("09", "𐇘"),
   ("0h", "㍘"), ("1", "¹꜌꜑꜖𐅂𐅘𐅙𐅚𝈝𝍷𞲱"), ("1,", "🄂"), ("1.", "⒈"), ("1/10", "⅒"),
   ("1/2", "½𐅁𐅵𐅶𐹻𞲮𞴼"), ("1/3", "𐹽"), ("1/4", "¼𐅀𐆋𐹼𞲭"), ("1/6", "𞴽"), ("1/7", "⅐"), ("1/9", "⅑"),
   ("10", "㉈𐅉𐅐𐅗𐅠𐅡𐅢𐅣𐅤"), ("10.", "⒑"), ("100", "⯷𐄙𐅋𐅒𐅪𐹲𞲃𞴓"), ("1000", "𐄢𐅍𐅔𐅱𞲌𞴜"),
   ("10000", "𐄫𐅕𞲕𞲳𞴥𞴻"), ("100000", "𞲞𞲠𞲴"), ("10000000", "𞲡"), ("10c", "🃚"), ("10d", "㏩🃊"),
   ("10h", "㍢🂺"), ("10M", "㋉"), ("10s", "🂪"), ("11.", "⒒"), ("11d", "㏪"), ("11h", "㍣"),
   ("11M", "㋊"), ("12.", "⒓"), ("120P", "🆤"), ("12d", "㏫"), ("12h", "㍤"), ("12M", "㋋"),
   ("13.", "⒔"), ("13d", "㏬"), ("13h", "㍥"), ("14.", "⒕"), ("14d", "㏭"), ("14h", "㍦"),
   ("15.", "⒖"), ("15d", "㏮"), ("15h", "㍧"), ("15ma", "𝄸"), ("15mb", "𝄹"), ("16.", "⒗"),
   ("16d", "㏯"), ("16h", "㍨"), ("17", "𝈧"), ("17.", "⒘"), ("17d", "㏰"), ("17h", "㍩"),
   ("18", "𝈨"), ("18.", "⒙"), ("180", "☍"), ("18d", "㏱"), ("18h", "㍪"), ("19", "𝈩"),
   ("19.", "⒚"), ("19d", "㏲"), ("19h", "㍫"), ("1b", "🀢"), ("1d", "㏠"), ("1h", "㍙"), ("1M", "㋀"),
   ("1m", "🀇"), ("1p", "🀙"), ("1s", "🀐"), ("1z", "🀀"), ("2", "²↊꜋꜐꜕𐅛𐅜𐅝𐅞𝈞𞲲"), ("2,", "🄃"),
   ("2.", "⒉"), ("2/3", "𐅷𐹾"), ("20", "㉉𐄑𐹪𝍪𞱻𞴋"), ("20.", "⒛"), ("200", "𐄚𐹳𞲄𞴔"), ("2000", "𐄣𞲍𞴝𞴺"),
   ("20000", "𐄬𞲖𞴦"), ("200000", "𞲟"), ("20000000", "𞲢"), ("20d", "㏳"), ("20h", "㍬"),
   ("21d", "㏴"), ("21h", "㍭"), ("22", "𝄵"), ("22.2", "🆢"), ("22d", "㏵"), ("22h", "㍮"),
   ("23d", "㏶"), ("23h", "㍯"), ("24d", "㏷"), ("24h", "㍰"), ("25d", "㏸"), ("26d", "㏹"),
   ("27d", "㏺"), ("28d", "㏻"), ("29", "𝈯"), ("29d", "㏼"), ("2b", "🀣"), ("2c", "🃒"), ("2d", "㏡🃂"),
   ("2h", "㍚🂲"), ("2K", "🆝"), ("2M", "㋁"), ("2m", "🀈"), ("2ndScr", "🆜"), ("2p", "🀚"),
   ("2s", "🀑🂢"), ("2z", "🀁"), ("3", "³↋⏗꜊꜏꜔"), ("3,", "🄄"), ("3.", "⒊"), ("3/4", "¾𐅸𞲯"),
   ("30", "㉊𐄒𐅥𐹫𝈰𝍫𞱼𞴌"), ("300", "𐄛𐅫𐹴𞲅𞴕"), ("3000", "𐄤𞲎𞴞"), ("30000", "𐄭𞲗𞴧"), ("30d", "㏽"),
   ("31d", "㏾"), ("32", "𝈱"), ("3b", "🀥"), ("3c", "🃓"), ("3D", "🆛"), ("3d", "㏢🃃"), ("3h", "㍛🂳"),
   ("3M", "㋂"), ("3m", "🀉"), ("3p", "🀛"), ("3s", "🀒🂣"), ("3z", "🀂"), ("4", "⏘꜉꜎꜓𝈟"), ("4,", "🄅"),
   ("4.", "⒋"), ("40", "㉋𐄓𐹬𝍬𞱽𞴍"), ("400", "𐄜𐹵𞲆𞴖𞴸"), ("4000", "𐄥𞲏𞴟"), ("40000", "𐄮𞲘𞴨"),
   ("42", "𝈷"), ("43", "𝈸"), ("44", "𝄴"), ("45", "𝈹"), ("4b", "🀤"), ("4c", "🃔"), ("4d", "㏣🃄"),
   ("4h", "㍜🂴"), ("4K", "🆞"), ("4M", "㋃"), ("4m", "🀊"), ("4p", "🀜"), ("4s", "🀓🂤"), ("4z", "🀃"),
   ("5", "⏙꜈꜍꜒𐅃𐅈𐅏𐅟𐅳𝈠𝍸"), ("5,", "🄆"), ("5.", "⒌"), ("5.1", "🆠"), ("50", "㉌𐄔𐅄𐅊𐅑𐅦𐅧𐅨𐅩𐅴𐹭𝍭𞱾𞴎"),
   ("500", "𐄝𐅅𐅌𐅓𐅬𐅭𐅮𐅯𐅰𐹶𞲇𞴗"), ("5000", "𐄦𐅆𐅎𐅲𞲐𞴠"), ("50000", "𐄯𐅇𐅖𞲙𞴩"), ("5b", "🀦"), ("5c", "🃕"),
   ("5d", "㏤🃅"), ("5h", "㍝🂵"), ("5M", "㋄"), ("5m", "🀋"), ("5p", "🀝"), ("5s", "🀔🂥"), ("5z", "🀆"),
   ("6", "ↅ"), ("6,", "🄇"), ("6.", "⒍"), ("60", "㉍𐄕𐹮𝍮𞱿𞴏"), ("600", "𐄞𐹷𞲈𞴘𞴹"), ("6000", "𐄧𞲑𞴡"),
   ("60000", "𐄰𞲚𞴪"), ("60P", "🆣"), ("6b", "🀧"), ("6c", "🃖"), ("6d", "㏥🃆"), ("6h", "㍞🂶"),
   ("6M", "㋅"), ("6m", "🀌"), ("6p", "🀞"), ("6s", "🀕🂦"), ("6z", "🀅"), ("7", "⁊𝈡"), ("7,", "🄈"),
   ("7.", "⒎"), ("7.1", "🆡"), ("70", "㉎𐄖𐹯𝍯𞲀𞴐"), ("700", "𐄟𐹸𞲉𞴙"), ("7000", "𐄨𞲒𞴢"),
   ("70000", "𐄱𞲛𞴫"), ("7b", "🀨"), ("7c", "🃗"), ("7d", "㏦🃇"), ("7h", "㍟🂷"), ("7M", "㋆"),
   ("7m", "🀍"), ("7p", "🀟"), ("7s", "🀖🂧"), ("8", "𝈢"), ("8,", "🄉"), ("8.", "⒏"),
   ("80", "㉏𐄗𐹰𝍰𞲁𞴑"), ("800", "𐄠𐹹𞲊𞴚"), ("8000", "𐄩𞲓𞴣"), ("80000", "𐄲𞲜𞴬"), ("8b", "🀩"),
   ("8c", "🃘"), ("8d", "㏧🃈"), ("8F", "𝄣"), ("8G", "𝄟"), ("8h", "㍠🂸"), ("8K", "🆟"), ("8M", "㋇"),
   ("8m", "🀎"), ("8p", "🀠"), ("8s", "🀗🂨"), ("8va", "𝄶"), ("8vb", "𝄷"), ("9,", "🄊"), ("9.", "⒐"),
   ("90", "𐄘𐹱𝍱𞲂𞴒"), ("900", "𐄡𐹺𞲋𞴛"), ("9000", "𐄪𞲔𞴤"), ("90000", "𐄳𞲝𞴭"), ("9c", "🃙"),
   ("9d", "㏨🃉"), ("9h", "㍡🂹"), ("9M", "㋈"), ("9m", "🀏"), ("9p", "🀡"), ("9s", "🀘🂩"), (":", "⁏"),
   ("<", "‹"), ("<1>", "♳"), ("<2>", "♴"), ("<3>", "♵"), ("<4>", "♶"), ("<5>", "♷"),
   ("<6>", "♸"), ("<7>", "♹"), ("<<", "«"), ("=", "⁼₌"), (">", "›"), (">>", "»"), ("?", "¿"),
   ("?!", "⁈"), ("??", "⁇"), ("[)", "⁍"), ("[An]", "🉃"), ("[Bai]", "🉈"), ("[Ben]", "🉀"),
   ("[Da]", "🉅"), ("[Dao]", "🉆"), ("[Dian]", "🉄"), ("[Er]", "🉂"), ("[JIS]", "〄"), ("[San]", "🉁"),
   ("[Sheng]", "🉇"), ("]-", "⁆"), ("^", "‸⁁"), ("_", "‗‿⁐⁔⁖⁘⁚⁛⁝⁞␣︳︴﹍﹎﹏＿𝪇𝪈𝪉𝪊"), ("`", "‵"),
   ("``", "‶"), ("```", "‷"), ("A", "₳\u212bⒶ⮗㆖㆙㆝🄰🅐🅰🇦🜁🝪🩡"), ("a", "ₐℵ⍶⍺ⓐ𐆆𐆇🩨"), ("A-S", "⅍"),
   ("a.m.", "㏂"), ("a/c", "℀"), ("A/m", "㏟"), ("a/s", "℁"), ("Aa", "🗛"), ("aA", "🗚"),
   ("aaa", "🝛"), ("Ac", "🃑"), ("ACK", "␆"), ("acre", "㌈"), ("Ad", "🃁"), ("Admetos", "⯥"),
   ("AF", "🜅"), ("Ah", "🂱"), ("alpha", "㌁"), ("ampere", "㌂"), ("apartment", "㌀"),
   ("Apollon", "⯤"), ("AR", "🜆🜇"), ("are", "㌃"), ("As", "🂡"), ("As4S4", "🜻🜼"),
   ("Attribution", "🅯"), ("AU", "㍳"), ("B", "ℬⒷ♗㆗㆚㆞🄱🅑🅱🇧🨃🨌🨘🨡🨭🨶🩂"), ("b", "ℶ␢ⓑ♝♭𝄬𝄭𝄳𝇒𝇨𝇪🨒🨧🨼"),
   ("bar", "㍴"), ("barrel", "㌭"), ("bb", "𝄫"), ("BEL", "␇"), ("beta", "㌼"), ("Bq", "㏃"),
   ("BS", "␈"), ("BTC", "₿"), ("Bu", "🈨"), ("building", "㌱"), ("bushel", "㌴"), ("BXG", "㇃"),
   ("C", "₵ℂ℃ℭⅭ∁Ⓒ㆘㆛㆟𝄡𝇐𝇞🄫🄲🅒🅲🇨🩥"), ("c", "ⅽↄⓒ🩬"), ("C/", "¢"), ("C/kg", "㏆"), ("c/o", "℅"),
   ("c/u", "℆"), ("Cai", "🉥"), ("cal", "㎈"), ("calorie", "㌍"), ("CAN", "␘"), ("carat", "㌌"),
   ("case", "㌜"), ("cc", "㏄"), ("CC0", "🄍"), ("CD", "🄭"), ("cd", "㏅"), ("cent", "㌣"),
   ("centi", "㌢"), ("centime", "㌠"), ("ChamGo", "㉼"), ("Chu", "🈠"), ("Chui", "🈥"), ("CL", "₡℄"),
   ("cm", "㎝"), ("cm^2", "㎠"), ("cm^3", "㎤"), ("co-op", "㌞"), ("Co.", "㏇"), ("copyleft", "🄯"),
   ("CR", "␍"), ("Cr", "₢"), ("CreativeCommons", "🅭"), ("cruzeiro", "㌚"), ("Cupido", "⯠"),
   ("curie", "㌒"), ("cycle", "㌟"), ("D", "₫ⅅⅮ∇Ⓓ㆜㇔🄳🅓🅳🇩"), ("d", "ℸⅆⅾ∂ⓓ🆥"), ("D)", "ↁ"),
   ("D.C.", "𝄊"), ("D.S.", "𝄉"), ("D3", "⯸"), ("Da", "🈱"), ("da", "㍲"), ("dB", "㏈"),
   ("DC1", "␑"), ("DC2", "␒"), ("DC3", "␓"), ("DC4", "␔"), ("de", "🈓"), ("deg", "°"),
   ("DEL", "␡"), ("desi", "㌥"), ("DJ", "🆐"), ("dl", "㎗"), ("DLE", "␐"), ("dm", "㍷"),
   ("dm2", "㍸"), ("dm3", "㍹"), ("dn", "🝰"), ("dollar", "㌦"), ("dozen", "㌤"), ("Dr", "₯"),
   ("drss", "🝲"), ("Dui", "☱"), ("Duo", "🈕"), ("E", "ℇℰ∃∄∈∉∊∋∌∍⏨Ⓔ⧢🄴🅔🅴🇪🝗🩈🩊🩋🩍🩢"),
   ("e", "ₑₔ℮ℯⅇ⍷ⓔ🩉🩌🩩"), ("Earth", "♁"), ("earth", "☷"), ("ECU", "₠"), ("EM", "⍿␙"), ("ENQ", "␅"),
   ("EOT", "␄"), ("Er", "🈔"), ("erg", "㋍"), ("ESC", "␛"), ("escudo", "㌇"), ("ETB", "␗"),
   ("ETX", "␃"), ("EUR", "€"), ("eV", "㋎"), ("F", "℉ℱℲⒻ𝄢𝇑🄵🅕🅵🇫🜂"), ("f", "ⅎⓕ𝆑"), ("F8", "𝄤"),
   ("Fan", "🈣"), ("farad", "㌲"), ("FAX", "℻"), ("feet", "㌳"), ("FF", "₣␌"), ("fm", "㎙"),
   ("franc", "㌵"), ("FS", "␜"), ("Fu", "🉠"), ("G", "₲ℾ⅁Ⓖ𝄞🄶🅖🅶🇬🩠"), ("g", "℈ℊℷℽⓖ𐆈🩧"), ("G8", "𝄠"),
   ("gal", "㏿"), ("gallon", "㌎"), ("gamma", "㌏"), ("GB", "㎇"), ("Gen", "☶"), ("GHz", "㎓"),
   ("giga", "㌐"), ("GPa", "㎬"), ("gram", "㌘"), ("GS", "␝"), ("guilder", "㌓"), ("guinea", "㌑"),
   ("Gy", "㏉"), ("H", "ℋℌℍⒽ㇐🄷🅗🅷🇭🩣"), ("h", "ₕℎℏⓗ🩪"), ("ha", "㏊"), ("Hades", "⯡"), ("hall", "㍁"),
   ("HC", "🆦"), ("HDR", "🆧"), ("heart", "❤"), ("heaven", "☰"), ("hectare", "㌶"),
   ("heights", "㌪"), ("Heisei", "㍻"), ("hertz", "㌹"), ("HG", "㇖"), ("Hg", "㋌"), ("Hi-Res", "🆨"),
   ("hoka", "🈀"), ("hon", "㌿"), ("horn", "㍂"), ("Hou", "🈝"), ("HP", "㇇㏋"), ("HPA", "㍱"),
   ("HPWG", "㇌"), ("HRN", "₴"), ("HT", "␉𝆦"), ("HV", "🅊"), ("HXWG", "㇠"), ("HZ", "㇕"),
   ("Hz", "㎐"), ("HZG", "㇆"), ("HZT", "㇊"), ("HZW", "㇍"), ("HZWG", "㇈"), ("HZZ", "㇅"),
   ("HZZP", "㇋"), ("HZZZ", "㇎"), ("HZZZG", "㇡"), ("I", "ℐℑⅠ⌶Ⓘ𐆚🄸🅘🅸🇮"), ("i", "ⁱ℩ⅈⅰ⍳⍸ⓘ"),
   ("IC", "🆋"), ("II", "Ⅱ𐆙"), ("ii", "ⅱ"), ("III", "Ⅲ"), ("iii", "ⅲ"), ("IIS", "𐆘"), ("in", "㏌"),
   ("Inc.", "㍿"), ("inch", "㌅"), ("inf", "∞"), ("information source ", "ℹ"), ("inning", "㌄"),
   ("IU", "㍺"), ("IV", "Ⅳ"), ("iv", "ⅳ"), ("IX", "Ⅸ"), ("ix", "ⅸ"), ("J", "Ⓙ🄹🅙🅹🇯"), ("j", "ⅉⓙ"),
   ("Jc", "🃛"), ("Jd", "🃋"), ("Jh", "🂻"), ("Jiao", "🈘"), ("Jie", "🈖"), ("Js", "🂫"),
   ("Jupiter", "♃"), ("JuUi", "㉽"), ("K", "₭\u212aⓀ🄺🅚🅺🇰🨀🨉🨕🨞🨪🨳🨿"), ("k", "ₖⓚ♚𐆂🨏🨤🨹"),
   ("K.K.", "㏍"), ("kA", "㎄"), ("kai-ri", "㌋"), ("Kan", "☵"), ("kB", "㎅"), ("Kc", "🃞"),
   ("kcal", "㎉"), ("Kd", "🃎"), ("kg", "㎏"), ("Kh", "🂾"), ("kHz", "㎑"), ("kilo", "㌔"),
   ("kilogram", "㌕"), ("kilometer", "㌖"), ("kilowatt", "㌗"), ("KIS", "㉿"), ("kl", "㎘"),
   ("KM", "㏎"), ("km", "㎞"), ("km^2", "㎢"), ("km^3", "㎦"), ("knot", "㌩"), ("kOhm", "㏀"),
   ("koruna", "㌝"), ("kPa", "㎪"), ("krone", "㌛"), ("Kronos", "⯣"), ("Ks", "🂮"), ("kt", "㏏"),
   ("kV", "㎸"), ("kW", "㎾"), ("L", "₤ℒ⅂⅃Ⅼↆ∟Ⓛ🄻🅛🅻🇱"), ("l", "ₗℓⅼⓛ𐆃"), ("Lari", "₾"), ("LF", "␊"),
   ("Li", "☲"), ("Liao", "🈛"), ("lira", "㍒"), ("liter", "㍑"), ("lm", "㏐"), ("ln", "㏑"),
   ("log", "㏒"), ("Lossless", "🆩"), ("lt", "₶"), ("LTD", "㋏"), ("Lu", "🉡"), ("lx", "㏓"),
   ("M", "₻ℳⅯⓂ⛀⨇🄼🅜🅼🆭🇲🕅"), ("m", "ₘⅿⓜ⛂⩋𐆁𝆐🛉🝱"), ("m/s", "㎧"), ("m/s^2", "㎨"), ("m^2", "㎡"),
   ("m^3", "㎥"), ("mA", "㎃"), ("mach", "㍅"), ("Manat", "₼"), ("mansion", "㍇"), ("mark", "㍆"),
   ("Masu", "〼"), ("MB", "㎆🝫"), ("mb", "㏔"), ("MC", "🅪"), ("MD", "🅫"), ("mega", "㍋"),
   ("megaton", "㍌"), ("Meiji", "㍾"), ("Mercury", "☿"), ("meter", "㍍"), ("mg", "㎎"), ("Mho", "℧"),
   ("MHz", "㎒"), ("micro", "㍃"), ("microamp", "㎂"), ("microFarad", "㎌"), ("microgram", "㎍"),
   ("microliter", "㎕"), ("micron", "㍈"), ("microsecond", "㎲"), ("microvolt", "㎶"),
   ("microwatt", "㎼"), ("mil", "₥㏕"), ("mile", "㍄"), ("milli", "㍉"), ("millibar", "㍊"),
   ("ml", "㎖"), ("mm", "㎜"), ("mm^2", "㎟"), ("mm^4", "㎣"), ("MOhm", "㏁"), ("mol", "㏖"),
   ("MPa", "㎫"), ("MR", "🅬"), ("ms", "㎳"), ("MV", "㎹🅋"), ("mV", "㎷"), ("MW", "㎿"), ("mW", "㎽"),
   ("N", "₦ℕⓃ♘⯴㇏𝄥𝄦🄽🅝🅽🇳🨄🨆🨈🨍🨙🨛🨝🨢🨮🨰🨲🨷🩃🩅🩇"), ("n", "ⁿₙⓝ♞🜕🜖🝯🨇🨓🨜🨨🨱🨽🩆"), ("N2", "⯶"), ("nA", "㎁"),
   ("NAK", "⍻␕"), ("nano", "㌨"), ("NB", "🩐"), ("nb", "🩓"), ("Nc", "🃜"), ("Nd", "🃌"),
   ("Neptune", "♆⯉"), ("nF", "㎋"), ("Nh", "🂼"), ("NL", "␤"), ("nm", "㎚"), ("No", "№𐆎"),
   ("NonCommercial", "🄏"), ("NQ", "🩎"), ("nq", "🩑"), ("NR", "🩏"), ("nr", "🩒"), ("NS", "₪"),
   ("Ns", "🂬"), ("ns", "㎱"), ("NT", "𝆧"), ("NUL", "␀"), ("nV", "㎵"), ("nW", "㎻"),
   ("O", "Ⓞ◯◴◵◶◷￮🄾🅞🅾🇴"), ("o", "ₒℴ⍵⍹ⓞ⚬⧇𐆄"), ("o-o", "⚯"), ("o/o", "⚮"), ("Ohm", "\u2126"),
   ("ohm", "㌊"), ("OK", "✓"), ("oo", "⚭"), ("ounce", "㌉"), ("oV", "㍵"), ("oz", "℥"),
   ("ozss", "🝳"), ("P", "¶₱ℙℿ⅌∏∐Ⓟ♙❡㇒🄿🅟🅿🇵🨅🨎🨚🨣🨯🨸🩄"), ("p", "ₚ℘ℼⓟ𝆏🨔🨩🨾"), ("p.m.", "㏘"), ("PA", "🆌"),
   ("Pa", "㎩"), ("pA", "㎀"), ("page", "㌻"), ("parts", "㌬"), ("pc", "㍶"), ("PD", "㇛"),
   ("Ped", "𝆮"), ("Pei", "🈻"), ("pence", "㌺"), ("percent", "㌫"), ("peso", "㌷"), ("Pf", "₰"),
   ("pF", "㎊"), ("pfennig", "㌸"), ("PG", "㇢"), ("pH", "㏗"), ("piaster", "㌮"), ("pico", "㌰"),
   ("picul", "㌯"), ("PL", "⅊"), ("Pluto", "♇⯓⯔⯕⯖"), ("point", "㌽"), ("Poseidon", "⯧"),
   ("pound", "㍀"), ("PP", "⁋"), ("PPM", "㏙"), ("PPV", "🅎"), ("PR", "㏚"), ("projector", "📽"),
   ("PS", "£￡"), ("ps", "㎰"), ("PTE", "㉐"), ("Pts", "₧"), ("PublicDomain", "🅮"), ("pV", "㎴"),
   ("pW", "㎺"), ("PX-", "🆊"), ("PZ", "㇜"), ("Q", "ℚ℺Ⓠ♕⯵㇣🅀🅠🆀🇶🨁🨊🨖🨟🨫🨴🩀"), ("q", "ⓠ♛🨐🨥🨺"),
   ("Qc", "🃝"), ("Qd", "🃍"), ("QE", "🜀"), ("Qh", "🂽"), ("Qian", "🈜"), ("Qs", "🂭"),
   ("R", "ℛℜℝ℟Ⓡ♖🄬🅁🅡🆁🇷🝭🨂🨋🨗🨠🨬🨵🩁🩤"), ("r", "⍴ⓡ♜𝆌🨑🨦🨻🩫"), ("rad", "㎭"), ("rad/s", "㎮"),
   ("rad/s^2", "㎯"), ("Rb", "₽"), ("Reiwa", "㋿"), ("rem", "㍕"), ("roentgen", "㍖"), ("RS", "␞"),
   ("Rs", "₨₹"), ("ruble", "㍔"), ("rupee", "㍓"), ("Rx", "℞"),
   ("S", "⅀∑∫∬∭∮∯∰∱∲∳⎲⎳Ⓢ⨋⨍⨎⨏⨐⨑⨒⨓⨔⨕⨖⨗⨘⨙⨚⨛⨜㇑𝄋🅂🅢🆂🇸🩦"), ("s", "ₛⓢ𝆍🜔🩭"), ("SA", "🆍"), ("San", "🈪"),
   ("Saturn", "♄"), ("SD", "🅌"), ("SG", "㇚"), ("ShaoYang", "⚎"), ("ShaoYin", "⚍"),
   ("ShareAlike", "🄎"), ("Sheng", "🈢🈤"), ("shilling", "㌡"), ("Shou", "🈐🉢"), ("Shuang", "🈒"),
   ("Shuangxi", "🉤"), ("SHV", "🆪"), ("SI", "␏"), ("SM", "℠"), ("Sm", "₷"), ("SO", "␎"),
   ("SOH", "␁"), ("Som", "⃀"), ("SP", "␠㇓"), ("sqrt", "√"), ("sr", "㏛"), ("SS", "§🅍"),
   ("SSS", "🝜🝝"), ("SSSS", "⨌"), ("ST", "㇙"), ("STX", "␂"), ("SUB", "␚"), ("SV", "🜈🜉"),
   ("Sv", "㏜"), ("SW", "㇄"), ("SWG", "㇟"), ("SWZ", "㇘"), ("SYN", "␖"), ("Syouwa", "㍼"),
   ("SZ", "㇗"), ("SZWG", "㇉"), ("SZZ", "㇞"), ("T", "₮₸⊤Ⓣ㇀🅃🅣🆃🇹🝥🝧🝨🝩"), ("t", "ₜⓣ𐆉"),
   ("Taisyou", "㍽"), ("TaiYang", "⚌"), ("TaiYin", "⚏"), ("TEL", "℡"), ("THz", "㎔"),
   ("Tian", "🈗"), ("TL", "₺"), ("tm", "™"), ("TN", "㇝"), ("ton", "㌧"), ("Tou", "🈧"), ("tr", "𝆖"),
   ("U", "Ⓤ㉾🅄🅤🆄🇺"), ("u", "ⓤ"), ("UHD", "🆫"), ("um", "㎛"), ("Uranus", "♅⛢"), ("US", "␟"),
   ("V", "℣Ⅴ↷↺∀Ⓥ▼▽▾▿⯳𐆗🅅🅥🆅🇻🖔"),
   ("v", "ⅴ∨∪⊻⊽⋁⋃⋎⌄⍌⍖⍗⍱⏷ⓥ☟⛛⟱⤈⤋⤓⥕⥙⥝⥡⥥⥾⨃⨄⨆⩁⩂⩅⩌⩏⩐⩒⩔⩗⩛⩝⩡⩢⩣⬇⬎⬐⭍⭣⭭⭳⭽⮇⮋⮏⮛⮟⮦⮧⮮⮯⮶⮷⯆⯋⯯🖓🖗🖟🖡🖣🗥🗸🗹🜗🞃🠃🠇🠋🠓🠗🠛🠟"),
   ("v", "🠣🠧🠫🠯🠳🠷🠻🠿🡃🡇🡓🡣🡫🡳🡻🢃🢓🢗🢛🮷"), ("V/m", "㏞"), ("VB", "🝬"), ("VI", "Ⅵ"), ("vi", "ⅵ"),
   ("VII", "Ⅶ"), ("vii", "ⅶ"), ("VIII", "Ⅷ"), ("viii", "ⅷ"), ("VOD", "🆬"), ("volt", "㌾"),
   ("VT", "␋"), ("Vulcanus", "⯦"), ("W", "₩Ⓦ⨈￦🅆🅦🆆🇼🜄"), ("w", "ⓦ⟒⩊"), ("watt", "㍗"), ("Wb", "㏝"),
   ("WC", "🅏🆏"), ("Wen", "㉄㉆"), ("WG", "㇁"), ("won", "㌆"), ("WZ", "🄮"),
   ("X", "ⅩⓍ╳☓⛌⤧⤨⤩⤪⤫⤬⤭⤮⤯⤰⤱⤲⨂⨉⩆⩈𐆖🅇🅧🆇🇽🗙🮢🮪🮭"), ("x", "×ₓⅹ⊗⊠⋉⋊⌧ⓧ☒✕✖✗✘⨯⨰⨱⨲⨳⨴⨵⨶⨷⨻⮽⮾⮿𐆅𝄪🗴🗵🗶🗷🞩🞪🞫🞬🞭🞮"),
   ("XG", "㇂"), ("XI", "Ⅺ"), ("Xi", "🉣"), ("xi", "ⅺ"), ("XII", "Ⅻ"), ("xii", "ⅻ"), ("Xin", "🈟"),
   ("Xun", "☴"), ("Y", "⅄Ⓨ🅈🅨🆈🇾"), ("y", "ⓨ"), ("Y=", "¥￥"), ("Yan", "🈦"), ("YangYao", "⚊"),
   ("yard", "㍎㍏"), ("Yi", "🈩"), ("Ying", "🈙"), ("YinYao", "⚋"), ("You", "㉅🈫🈮"), ("yuan", "㍐"),
   ("Z", "ℤℨⓏ🅉🅩🆉🇿"), ("z", "ⓩ𝆎"), ("Zai", "🈞"), ("Zeus", "⯢"), ("Zhen", "☳"), ("Zheng", "㉇"),
   ("Zhong", "🈡🈭"), ("Zi", "🈑"), ("Zou", "🈰"), ("Zuo", "🈬"), ("|", "¦"), ("||", "‖"), ("~", "⁑")]

end AtomicCss.Text
