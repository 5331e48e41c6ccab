/-!
# Rarer ideographs

ASCII spellings of the ideographs beyond the common ones: radicals, ideographs of older or
regional use, and second forms of common ones. Most are read in Mandarin, others as in
Cantonese, Korean, Japanese or Vietnamese. Their readings run into what follows them, except
for the Korean ones.
-/

set_option autoImplicit false

namespace AtomicCss.Text

/-- The readings with the ideographs that have them. -/
def rareHanSpellings : List (String × String) :=
  [("A", "𠼞"), ("Aa", "㢌"), ("Aan", "䨃"), ("Ai", "㕌㗒㘷㝶㢊㤅㦈㱯㶼㾢㿄䀳䅬䑂䔽䝽䠹䨠䶣𠊎𠳳𡁍𡉓𡟓𡰽𡶃"),
   ("An", "㛺㜝㞄㟁㫨㱘㸩㽢䀂䅁䅖䜙䢿䬓䮗䯥𠉬𠰑𠽪𡎑𡪁𡪙𡯏𡹼𡽜"), ("Ang", "㭿㼜䀚䇦䒢䩕䭹䭺𠵫𠹃𡕉𡵙"),
   ("Ao", "㑃㕭㘬㘭㜜㜩㟼㠂㠗㤇㥿㩠㿰䐿䜒䥝䦋䫜䫨䮯䯠䴈䵅翶鿫\ufa82\ufa8a\ufa90𡊛𡏼𢁱"), ("Au", "䳼"),
   ("Ba", "⼋㔜㞎㭭㶚㸭㺴㿬䃻䆉䇑䎬䎱䟦䩗䩻䮂䰾䳊䶕𠛋𠵺𡚭𢃳𢇷"), ("Baa", "鿱"), ("Baan", "㿀"),
   ("Bai", "⽩㓦㔥㗑㠔㿟䒔䙓䢙䪹䳆\ufac9𠫛𡏯𡭢𢈕"), ("Ban", "㚘㪵㺆䃑䈲䉽䬳螁𠄯𠔯𠚼𠦒𠧫𠯘𠺚𡯘"),
   ("Bang", "㙃㨍㭋㮄㿶䂜䎧䖫䙖䧛䩷䰷𠨵𠬣𠲑𠳐𡽲𢁏𢄎"), ("Bao", "⼓㙅㙸㫧㲒㵡㻄㿺䈏䎂䤖䥤䨌䨔䪨䭋䳈䳰䴐佨藵𠅬𠣒𠣺𠤏𠹕𡂟𡉩𡧖𡶄"), ("Bat", "㧞"),
   ("Bay", "𠖤"), ("Be", "𡮌"), ("Bei", "⻉⾙㔨㗗㛝㣁㤳㫲㰆㶔㷶㸢㸬㸽㻗㽡㾱䋳䔒䟺䡶䥯䩀䰽禙\ufa35\ufa4b𠋭𠐡𠢥𡋭𢂏𢃍"),
   ("Ben", "㡷㤓㨧㮥㮺䬱\ufa7f"), ("Beng", "㑟㔙㷯䋽䑫䙀䨜䨻䩬䭰䳞揼\ufad7𠜳𠡮𡎾𡡈𡶤𡾛𢆸𢉁"),
   ("Bi", "⼔⽐⿐㓖㘠㘩㙄㠲㡀㡙㢰㢶㢸㧙㪏㪤㮿㯇㱸㳼㻫㻶㿫䀣䁹䃾䄶䉾䊧䋔䎵䏢䏶䕗䖩䘡䚜䟆䟤䠋䣥䧗䨆䩛䪐䫁䫾䬛䮠䮡䯗䵄萞\ufa80𠈺𠋯𠐌𠓷𠛡𠡂𠦈𠧅𠨘𠩿𠬈𠮃𠽩𡚁𡛗𡠚𡳄𡻞𡽶𢁽𢅩"),
   ("Bian", "⾤㝸㣐㦚㭓㲢㳎㳒㴜㵷㺹䁵䉸䒪䛒䟍䡢䪻炞\ufac0𠐈𠑟𠓫𠪂𠭹𠯴𠷖𡈯𡬯𡬲𡬸"), ("Biao", "⺣⾽㟽㠒㧼㯹㶾䁃䁭䅺䔸䙳䞄䮽飊𠔂𠚠𠬪𢅚"),
   ("Bie", "㔡㢼㿜䇷䋢䌘䏟䘷䠥䭱䳤𠍯𡐞𡘴𡙀𡙪𡷘𢆣"), ("Bik", "𠁆"), ("Bin", "㟗㯽㻞䐔䚔䧬䨈氞\ufa64𠴇𡦆𡦻𡧼"),
   ("Bing", "⺀⼎㓈㨀䔊䗒䴵\ufa70\ufa8f𠊧𠒝𠛥𠱛𡇤𡖛𡚛𡲍𡹾𢆩𢊜"), ("Biu", "䱪"),
   ("Bo", "⽨㗘㝿㞈㟑㩧㩭㪍㬍㬧㴾㶿㹀㼎㼟㼣䂍䃗䊿䌟䍸䑈䗚䙏䝛䞳䟛䢌䢪䥬䪇䪬䬪䭦䭯䮀䯋䰊䳁䵗䶈溊癷礡萡𠧛𠮭𠱀𠴸𠷺𠸳𠺣𡀖𡅂𡋯𡯳𡯷𢂍"), ("Bou", "鿻"),
   ("Bu", "⺊⼘㘵㙛㚴㨐㳍㻉㾟䀯䊇䋠䍌䏽䑰䒀䝵䪁䪔䬏䴺𠘁𠚉𠜙𡡐𢁻𢇴"), ("Bua", "𡝃"), ("Bui", "㮎𠀾"), ("Bun", "㶱"),
   ("Ca", "䃰䌨䵽"), ("Cai", "㒲㥒䌽䐆䞗䟀䠕䣋䰂䴭毝\ufa84𡣮"), ("Can", "㕘㛑㜗㣓㥇㦧㨻㱚㻮㽩㿊䅟䉔䏼䗝䗞䘉䙁䛹䝳䟃䣟䱗䳻儏爘𠠋𠡡𠫭𡆮𡛝𡞋"),
   ("Cang", "㵴㶓䅮䢢濸𠥐𡽴𡾻𡿄"), ("Cang ", "\uf9fa"), ("Cao", "⺾⺿⻀⾋㜖㯥䄚䎭䏆䐬䒃䒑\ufa5d\ufa5e𠀊𠹊𡮦"),
   ("Ce", "㥽㨲㩍䇲䈟䊂䔴𡍫"), ("Cek ", "\uf9fb"), ("Cen", "㞥㟥䅾䤁䨙䲋"), ("Ceng", "㣒㬝䁬䉕\ufa3b𠟂𡃆𡪠𡾓𢅋"),
   ("Ceon", "㻐"), ("Cha", "㛼㢉㢒㣾㤞㪯㫅㮑䁟䅊䒲䓭䕓䟕䡨䤩䶪𠁙𠝞𠞊𠽹𡋨𡌚𡝐𡝙𡨀𡵌"), ("Cha ", "\uf9fe"),
   ("Chai", "㑪㳗㼮㾹䐤䓱䘍䜺𡟭𡺵"), ("Cham", "𠝻"),
   ("Chan", "㙴㙻㚲㢆㢟㤐㦃㬄㯆㰫㶣㸥㹌㹽㺗㺥䀡䂁䊲䐮䑎䜛䠨䡲䣑䤘䤫䥀䧯䩶䪜䫮䱿䴼䵐𠁷𠋷𠐩𠑆𠑑𠑡𠣄𠹖𡍌𡎻𡖞𡖤𡝫𡮿𡶴𢁧"),
   ("Chang", "⻒⾿㙊㦂㫤䅛䗅䗉䠆䩨䮖䯴䱽䲝仩𠙁𠚊𡭿𢁝"), ("Chao", "㶤㷅䎐䏚䜈䫸䫿䰫𠰉𡏮𡡊𡯴𡻝𡼼𢁾"), ("Chat", "𠞠"),
   ("Che", "⻋⼬⾞㒤㔭㤴㥉㨋㬚㳧㵔㾝㿭䁤䋲䒆䚢䛸䜠䞣䧪䰩\ufa3c𡷖𢇛𢊏"), ("Chek ", "\uf9ff"),
   ("Chen", "⾂⾠㕴㥲㧱㫳㴴㽸䀼䆣䐜䑣䒞䜟䞋䟢䠳䢅䢈䢻䣅䤟䫈䫖𠋆𢆺"), ("Cheng", "㐼㓌㛵㞼㲂㼩䁎䄇䆑䆵䇸䕝䗀䚘䞓䟓䟫䧕䫆䮪鐣\ufa40\ufa8b𠏧𠕠𠳽𡝚𡤿𡽊"),
   ("Chey ", "\ufa00"),
   ("Chi", "⻭⻮⼻⾚⿒㒆㓼㔑㘜㙜㞴㞿㡿㢁㢋㢮㥡㮛㰞㱀㶴㷰㺈㽚䀸䇪䊼䑛䙙䜄䜉䜵䜻䞾䟷䠠䤲䧝䪧䮈䮻䰡䳵䶔䶵硳麶\ufac3𠛔𠝨𠞩𠡠𠧚𠧵𠭋𠮟𠻟𡂙𡉪𡌞𡎍𡖳𡚨𡣀𡳭𡼁𢂝𢇕"),
   ("Chong", "⾍㓽㤝㧤㮔㳘㹐䂌䆔䆹䌬䖝䘪䝑䡴䳯\ufa74𠑙𠖥𠝤𠟍𡿂"), ("Chou", "㐜㤽㦞㨨㮲㵞㿧䀺䌧䌷䓓䔏䪮䲖\ufa5c𠌪𠜋𠝽𠷎𠹝𠼡𠾉𡕐𡕪"),
   ("Chu", "㔘㕏㕑㗙㙇㛀㡡㤕㾥䅳䇍䊰䎌䎝䐍䖏䙘䜴䝙䟞䟣䠂䠧䢺䦌榋橻璴蟵𠁉𠇘𠧖𠰕𠿝𡐌𡝈𡳑𢅥𢊍"), ("Chua", "㔍䊬䫄䵵𠹐𠻦"), ("Chuai", "㪓㪜䦟䦤䦷䴝𠽶"),
   ("Chuan", "⼮⾇㯌㱛㼷䁣𠛖𠯀𠾮"), ("Chuang", "㡖㼽䃥䄝䆫䎫䚒䭚𠏨𠞮𠳹𡆪𡻯"), ("Chui", "㝽㷃䍋䞼𠄒𡍮"),
   ("Chun", "㖺㝄㝇㵮㸪㿤䏛䐏䓐䔚䞐䞺䡅䣨䣩䥎䦮䫃䮞䲠𡉐𡗥"), ("Chuo", "⻌⻍⻎⾡㚟㪬㲋䋘䓎\ufa66𡁇"), ("Chuong", "𡈩"),
   ("Ci", "㓨㗠㘂㘹㞖㢀㤵㩞䂣䈘䓧䗹䛐䧳䨏䭣䯸䰍䲭䲿䳄䳐\ufa81\ufaa2𠤫𠦐𠩆𠯂𡃸𡥎𡰾𢅜"), ("Ci ", "\uf9fc"), ("Cik", "㥻"),
   ("Cin", "䢴"), ("Cip ", "\uf9fd"), ("Coc", "﨏"), ("Con", "𡑳"),
   ("Cong", "㗰㜡㞱㥖㼻䈡䉘䐋䐫䒙䓗䕺䗓䡯䢨䳷茐𠂥𠕁𠙂𠢛𠤰𡅇𡟟𡦷𡵷𡹸𢃏𢊕"), ("Cou", "𢈾"), ("Cu", "㗤䃚䙯䛤䟟䠞䢐䣯䥄䥘𠑯𠛙𡄱𡘛𡝉𡞜𢄧𢈠"),
   ("Cuan", "㠝㸑"), ("Cui", "㜠㝮㯔㯜㱖㳃㵏㷪䃀䄟䆊䊫䙑䧽𠗚𠞿𠟓𠩪𢂕𢄸"), ("Cun", "⼨䍎䞭𠝕"), ("Cuo", "㟇㭫㽨㿷䂳䑘䠡䣜䰈䱜䴾𠦏"),
   ("Da", "⼤㙮㜓㟷㩉㾑㿯㿴䃮䌋䐛䪚䵣垯𠉤𠞈𠶫𠹥𡈐𡉑𡍲𡐿𡚻"), ("Daan", "䜥"), ("Daap", "䠌"),
   ("Dai", "⽍㐲㞭㯂㶡㻖䈆䒫䚞䚟䲦鮘\ufa8c\ufa95𠯈𠯪𠰺𠷂𡧹𢄔"), ("Dan", "㐤㕪㗖㠆㡺㲷㴷䃫䄡䉞䐷䒟䨢䨵䩥䭛䳉泹蓞鿕𠆛𠆶𠇋𠈰𠹆𡖓𡦨𡵕𢅒𢉑𢋃"),
   ("Dang", "㼕㽆䑗䓁䣊䣣䦒𡇈𡇵𡗍𡢈𡰨𡾕"), ("Dao", "⺈⺉⼑㠀㨶㿒䆃䊭䌦䧂艔𠐵𠴼𡄒𡒘"), ("Dat", "䃐"), ("De", "㝵㤫㥁㯖䙷䙸𠮊𠵨𡋩𡭂"),
   ("Den", "㩐"), ("Deng", "㔁㲪䒭䔲䙞䠬䮴䳾𡦔"),
   ("Di", "㓳㢩㣙㪆㫝㭽㰅㹍㼵䀿䂡䃅䊮䍕䏄䏑䐎䑭䑯䗖䢑䣌䧑䨀䨤䩘䩚䯼䴞䵠䶍枤𠍪𠐑𠒿𠕳𠚭𠥖𠨿𠫜𠽰𡄷𡒱𡚙𡚷𡛜𡰖𡽢𢅊𢉆"), ("Dian", "㓠㝪㞟㶘㸃㼭䍄䓦𠑘𠢣𠩷𠫉𠶧𡱇𡼓𢅝"),
   ("Diao", "㒛㓮㚋㢯㪕㹦䂏䂽䄪䉆䔙䘟䳂\ufab9𠄏𠚥𠚻𠤼𠥑𠶰𢁕𢄦𢆴"), ("Die", "㑙㥈㦅㦶㩸㩹㫼㬪㲲㲳㷸䞇䠟䪓䫕䳀䴑𠅗𠆙𠗛𠗨𠠯𠲷𡅥𡇓𡖐𡱷𡹭𡺑𡼄"),
   ("Din", "㽗"), ("Ding", "⿍㝎㣔㫀㴿䦺蝊"), ("Diu", "𠲍"), ("Doi", "𡑖"), ("Dong", "㑈㓊㖦㚵㢥㨂㼯䂢䍶䞒䰤䵔徚鿴𠄉𡀇"),
   ("Dou", "⽃⾖⾾㛒㞳㢄㨮㪷䄈䇺䕆䛠䬦\ufa26𠁁𠍄𠱑𠾇𡂛𡂝𡆏𡙬𡟳"), ("Du", "㓃㞘㱩㸿㾄䀾䈞䓯䙱䟻䢱䦠䩲䪅䫳䮷䲧𠉩𠠔𠠠𠣰𡍨𡎉𡝜𡰪𢉜"), ("Dua", "𠁂"),
   ("Duan", "㟨㫁㱭䠪𠡱"), ("Dui", "㙂㟋㠚㨃㬣㳔䂙䇏䜃䨴䨺䬈䭔䯟襨𠂤𠏮𠜑𠡒𠦗𠫨𡁨𡏩𡑈𡜥𡷋𡼻𢈹"), ("Dun", "䃦䔻䤜䪃碷𠎻𡆰𡼖"),
   ("Dung", "㫡"), ("Duo", "㖼㙍㙐㛆㛊㣞㥩㻔㻧䅜䐾䑨䒳䙃䙤䠤䤪䤻䩔䫂䯬䲊𠛫𡌭𡓉𡓷𡶲𡺇"),
   ("E", "⺞㓵㔩㖾㗁㟧㠋㣂㦍㧖㩵㮙㷈㼂䄉䆓䋪䑥䑪䕏䖸䛖䝈䞩䣞䩹䫷䱮䳗䳘䳬擜\ufacb\ufad8𠥍𠥕𠥜𠰜𠱥𠱫𠷸𡀾𡅅𡅡𡪑𡪗𡴯𡹣𡾙𢃲"), ("En", "䅰䬶䭓䭡𡟯𡵖𡷐"),
   ("Eng", "𡂍"), ("Er", "⼆⼉⽽⽿㒃㖇㚷㛅㢽㧫䋙䋩䌺䎟䎠䎶䏪䣵䮘趰𠚧𡦕𢀪𢄽"), ("Fa", "㕹㘺㛲䂲䇅䣹鍅𠞵𠲎"),
   ("Fan", "㕨㛯㠶㤆㴀㶗㸋㺕㼝㽹䀀䀟䉊䉒䊩䋣䋦䌓䐪䒦䕰䛀䡊䣲䪛䪤䫶䭵䮳舤鐢\ufa2a\ufa59\ufa9f𠆩𠒾𡁈𡗹𡜀𡤎𡶉𢇪"), ("Fang", "⼕⽅㑂㕫㤃㧍㯐䄱䢍䲱堏"),
   ("Fei", "⻜⾮⾶㔗㥱㩌㫵㵒㹃䆏䈈䉬䑔䒈䕁䕠䚨䛍䠊䤵䨽䨾䩁䰁𠏿𠮆𡌦"), ("Fen", "㤋㥹㬟㱵㷊㸮㿎䩿䴅哛豮\ufa7d𠛸𠵮𠻫𡊄𡊅𡨖𢁤𢅯𢊱"),
   ("Feng", "⻛⾵㐽㒥㛔㜂㠦㡝㦀㵯䀱䏎䒠䙜䟪䩼溄琒鎽霻𡨛𡵞𢇫"), ("Fong", "㵁"), ("Fou", "⽸𡜊"),
   ("Fu", "⻕⻖⽗⾩㓡㓫㕊㕮㖚㙏㚆㚕㜑㟊㠅㤔㤱㩤㪄㫙㬼㭪㲗㳇㷆㽬㾈䂤䃿䄮䋨䋹䌗䌿䍖䎔䑧䒄䒇䓏䓵䔰䕎䗄䘀䘠䝾䞜䞞䞯䞸䟔䟮䠵䡍䦣䨗䨱䩉䫍䫝䭮䭸䭻䮛䱐䳕䴸䵾嬔禣覄酜龲\ufa1b"),
   ("Fu", "\ufab7𠋩𠌽𠓗𠟌𠣾𠪻𠬝𠲽𡏪𡐝𡞪𡠞𡦄𡫺𡬇𡵛𢀼𢁀𢂀𢂆"), ("Fui", "䝇"), ("Ga", "𠁥𡉅𡯰𡯽𡼛"), ("Gaa", "㔔㔖"),
   ("Gaai", "㖎㾬"), ("Gai", "㕢㧉㮣㱾䀭䏗䐩䪱䬵𠌰𡒖𡧣𢅤"), ("Gan", "⼲⽢㓧㤌㶥㽏㿻䃭䇞䊻䤗䯎䲺䵟龩𠇵𠖫𡯋𡶑"),
   ("Gang", "⺱㟠㟵㧏㭎㼚㽘䚗䴚焹鿍𠵹𡇬"), ("Gao", "⾼㚏㚖㤒㵆㾸䆁䓘韟𡋟𡜲𡷥𡼗"), ("Gau", "䦰"),
   ("Ge", "⼽⾰⿀㖵㗆㠷㤎㦴㭘㵧㷴䈓䐙䔅䗘䘁䛿䧄䨣䪂䪺䫦櫊鿔𠛊𠯫𠲱𠸲𠹓𠺝𡟍𢆜"), ("Gei", "㡬㼄䘛"), ("Gen", "⾉㫔㮓䫀𠄣𠛵"),
   ("Geng", "㪅㹴㹹㾘䋁䌄䎴䢚䱍䱎䱭䱴椩焿𠡣𡍷𡩃"), ("Ging", "㥤"), ("Giong", "𠏳"), ("Giu", "㤭𡨹"), ("Goi", "㯼"),
   ("Gom", "𠁟"), ("Gon", "龫"), ("Gong", "⼯⼶⼸㓋㓚㔶㕬㤨㧬㫒㭟㯯㺬㼦䂬䂵䇨䍔䐵䔈䡗䢼䰸䱋䲲䳍慐𠇒𠌕𠞖𡔕𡚑𡟫𢀜𢁠"),
   ("Gou", "㗕㝅㝤㡚㨌㰏㺃㽛䃓䑦䔌䚌䝭䬲䯻𠛎𡖑𡗁𢄇"), ("Gu", "⻣⾕⾻⿎㑬㒴㚉㧽㯏㵈㼋㽽㾶䀇䀜䀦䀰䉉䍛䐨䐻䑩䓢䜼䧸䮩䵻䶜傦篐\ufa54𠑹𠷞𠻧𠽿𡗷𡷓𡽂"),
   ("Gua", "⽠㒷㧓㶽䈑䏦䒷䫚䯄䯏𠆣𠈥𠊰𠙼𠛒𠜵𠟗𠮠𠯑𠵯𡜁"), ("Guai", "㧔㾩䂯䂷䊽𠛕𠦬𡇸𡌪𡖪𡧩"),
   ("Guan", "㮡㴦䎚䏓䗆䗰䘾䙛䙮䚪䝺䤽䦎䩪䪀䲘\ufa2c\ufa6d\ufaa4𠬆𠴨𡅭𡠒𡭷𢇇𢉂"), ("Guang", "㤮㫛𠏤"),
   ("Gui", "⻤⻱⻲⻳⿁⿔㔳㧪㨳㪈㰪㲹㸵䁛䃽䅅䈐䌆䍯䐴䝿䞈䞨䠩䣀䤥䲅䳏\uface𠐽𠪑𠱓𡃩𡌲𡗤𡧭𡬂𡷺𡹙𢃯𢄊"), ("Gun", "⼁㙥㨰㯻䃂䎾䜇䵪𠃌𠞬𡈧𡘝𡻨𢃩"),
   ("Guo", "㕵㗻㳀㳡㶁㿆䂸䆐䙨䬎䴹𠋜𠜴𠩥𠿤𡇄𡓣𢃦𢅗"), ("Gwaan", "烪"), ("Gyun", "䳌"), ("Ha", "𡄟"), ("Haam", "㜟䘖"),
   ("Haau", "㘼"), ("Hai", "㜾㤥㧡㨟㰧㰩㱼㺔㾂䇋䠽䯐䱺\ufa45𠀅𠔑𠹛𡕗𡾨"),
   ("Han", "⺁⼚㑵㒈㖤㘎㘕㘚㟏㟔㢨㤷㨔㪋㮀㲦㵄㶰㸁㺖㺝㼨䈄䍐䍑䎏䎯䏷䓍䓿䕿䗙䗣䘶䛞䣻䤴䥁䧲䨡䫲䮧䶃丆兯爳\ufa47\ufa9a𠗴𠢇𠤮𠤾𠥴𠦊𠲒𠵸𠹄𠽦𠿑𡁀𡇜𡣔𡬖𡷛𡻡𢀵𢃗𢄜𢇞"),
   ("Hang", "㐔㤚㰠䀪䂫䘕䟘䣈䦭䲳𠡊𡕧"), ("Hang ", "\ufa08\ufa09"), ("Hao", "㘪㙱㚪㝀㞻㠙㩝㬔㬶䒵䚽䝞䝥䧚䧫䪽䯫毜𠚃𠢕𡐒𡚌𡚽𡠖𡥆𡽝"),
   ("Hap", "㮉"), ("Hat", "䇄"), ("Hau", "㷞"),
   ("He", "⽲㕡㗿㥺㪃㪉㬞㭱㮝㮫㰤㵑㷎㹇㿣㿥䃒䅂䏜䒩䕣䚂䞦䢔䫘䮤䳽䶅䶎穒靍\ufa2d\ufa36\ufa60\ufa78\ufad2𠀀𠗂𠘢𠚔𠡀𠧕𠰓𠳇𠳊𠵩𠶹𠶾𠻙𡇞𡇶𡫥𢄍𢅰𢇱"),
   ("Hei", "⿊㱄"), ("Hen", "㯊䓳"), ("Heng", "㔰㶇䬖䬝䯒涥𠔲𠧿𡧦"), ("Heoi", "㚎"), ("Hiu", "㺧"),
   ("Hoeng", "㴡"), ("Hon", "鿰"), ("Hong", "㖓㗢㢬㬴㶹䀧䃔䆖䆪䉺䎕䞑䡌䡏䧆䨎䩑䪦䫹䫺䲨𠐿𠪷𠲓𠳃𠹅𡇳𡵓𡺭𢂔"),
   ("Hou", "㖃㗋㤧㫗㬋㮢㸸㺅䂉䗔䙈䞀䞧䪷䫛䳧𠯜𠴣𠷋𡞥𡟑𡹵"),
   ("Hu", "⻁⼾⾌㕆㗅㦆㦌㧮㧾㨭㪶㫚㯛㳷㷤㸦㺀㺉㽇㾰䁫䇘䈸䉿䊀䊺䍓䎁䓤䕶䗂䚛䞱䠒䧼䨚䨼䩐䩴䪝䬍䭅䭌䭍䰧䴣䴯乥錿𠥰𠦪𠯳𠰛𠴱𡍐𡜂𡞠𡧥𡰅𡱽𡴱𡵘𡹹𡻮𡼘𢆰𢉢"),
   ("Hua", "㓰㕦㕲㕷㚌㟆㠏㦊㭉㳸䀨䇈䋀䔢䛡䱻䴳䶤撶蒊\ufaa3\ufab4𠝐𠤎𠳂𠿜𡁑𢄶"), ("Huai", "㜳㠢䃶"),
   ("Huan", "㕕㡲㣪㪱㬇㬊㵹㶎㹕㹖㼫㿪䀓䆠䈠䍺䒛䝠䠉䥧䦡䭴䯘䴉䴋䴟𠂄𠟼𠺐𠻍𡄤𡅱𡅻𡍦𡘍𡚊𡚜𡩂𡱌𡷗"),
   ("Huang", "⻩⿈㞷㠵㡃㤺㨪㬻㾮㿠䀮䁜䄓䅣䅿䊗䊣䌙䍿䐠䑟䞹䪄䮲䳨\ufab3𠂸𡉚𡜋𡡄𡧽𡿰𢁹𢇟"),
   ("Hui", "㑰㑹㜇㞀㞧㤬㥣㧑㨤㨹㩓㩨㫎㬩㱱㷄㷇㷐㹆㻅㾯䂕䃣䅏䌇䏨䕇䖶䛛䛼䜋䜐䝅䤧䧥䩈䫭屷懳璤\ufa3d\ufa6b\ufa7a𠍗𠓊𠧩𠯠𠲛𠽡𠿔𡋙𡏁𡒾𡜦𡢕𡥋𡭛𡯥𡰋𡹎𡹯𢀡𢄣𢅫𢊄𢊇"),
   ("Hun", "㑮㖧㥵㨡㮯䅙䅱䊐䎜䚠䛰䡣䧰䫟䮝䰟䴷𠉣𡇯𡨩"), ("Hung", "鿁"),
   ("Huo", "⽕㓉㖪㗲㘞㦎㦜㦯㨯㩇㯉㸌㺢䁨䂄䄀䄆䄑䉟䐸䣶䦝䨥䬉䰥䱛臒\ufa52𠙞𠯐𠵾𡄴𡓘𡪞𡯢𡿿𢃎𢋒"), ("Huo ", "\ufa0d"), ("Huou", "㹯"),
   ("Hwak ", "\ufa0b"), ("Hyen ", "\ufa0a"),
   ("I ", "\uf9dd\uf9de\uf9df\uf9e0\uf9e1\uf9e2\uf9e3\uf9e4\uf9e5\uf9e6\uf9e7\uf9e8\uf9e9"),
   ("I ", "\uf9ea"), ("Ik ", "\uf9eb\uf9ec"), ("Im ", "\uf9f4\uf9f5\uf9f6"),
   ("In ", "\uf9ed\uf9ee\uf9ef\uf9f0\uf9f1\uf9f2\uf9f3"), ("Ip ", "\uf9f7\uf9f8\uf9f9"),
   ("Jam", "㶩鿷"), ("Jeoi", "㽔"),
   ("Ji", "⺇⺔⺕⺛⼏⼰⼹㑧㒫㔕㗊㗱㘍㙨㙫㚡㚻㛷㞃㞆㞛㞦㠍㠎㠱㡭㡮㤂㥍㥛㦘㦸㧀㨈㫷㭲㮨㮷㰟㲅㲺㳵㴉㴕㸄㹄㻑㻷㽺㾊㾵䀈䁒䁶䂑䇫䋟䍤䐀䐕䐚䓽䕤䗁䗗䚐䛋䛴䜞䝸䞘䟇䟌䠏䢋䢳䣢䤒䦇䨖䩯䮺"),
   ("Ji", "䰏䲯䳭䶓䶩廭樭龭\ufa42\ufa75𠀷𠋻𠍃𠑃𠓞𠔋𠗏𠚽𠟣𠦫𠨕𠨠𠫷𠮯𠯉𠱨𠲹𠴩𠴫𠶻𠷌𠹋𠼻𠿉𠿠𡁪𡁰𡃃𡅺𡇟𡋚𡜱𡥞𡦊𡦪𡪱𡫀𡬄𡳮𡹪𡽉𡿙𢁂𢃺𢆻𢉗"),
   ("Jia", "㕅㚙㪴㮖㹢㿓䀫䂟䑝䕒䕛䛟䩡䴥鿼𠷉𠺢𡊠𡩚𡭘𡶥𢉤"),
   ("Jian", "⻅⾒㓺㔋㔓㡨㣤㦰㨴㨵㭴㯺㰄㳨㵎㶕䄯䅐䇟䉍䌑䌠䓸䔐䘋䚊䛓䟅䟰䤔䥜䧖䬻䭈䭠䮿䯡䵡䵤䶠䶢䶬橺𠊒𠍚𠏇𠐻𠫘𠹟𠼤𠽱𠿏𡄑𡄓𡅶𡑯𡬵𡭭𡾰𢃬𢆞𢆦"),
   ("Jiang", "㢡㯍㹔䁰䉃䋌䒂䗵䜫䞪䥒𠘌𠼢𡏞𡑶𡲣𡷍"), ("Jiao", "⻆⻇⾓㠐㩰㬭㭂㰾㲬㳅㶀㽱㽲䀊䂃䌭䍊䘨䚩䢒䥞䴔䶰䶷嬓櫵燞𠕧𠘣𠜅𠝑𠞰𠩏𡏭𡓖𡙎𡟠𡥈𡬋𢀌𢄺𢅎"),
   ("Jie", "⺋⼙㑘㓗㔚㘶㛃㝏㞯㠹㦢㨗㨩㫸㮞㮮㸅㼪㾏㿍䀷䀹䂝䂶䃈䅥䇒䌖䕙䕸䗻䛺䣠䥛䦈䯰䰺䱄䲙䲸媫掶\ufa56\ufaad\ufad4𠂈𠄍𠅂𠎿𠐉𠓢𠙤𠬮𠯙𠷟𡉷𡔣𡗦𡗲𡙣𡣯𡨲𡩣𡵒𡵚𡸎"),
   ("Jie", "𡽱𢈻"),
   ("Jin", "⻐⼱⽄⾦㝻㦗㧆㨷㬐㬜㯲㯸㱈㴆㶦㶳㹏㻱䀆䃡䆮䈥䈽䋮䌍䌝䑤䒺䗯䘳䝲䤐䤺䥆䫴䭙䶖琻砛\ufa58\ufa63\ufabf𠂟𠞱𠞾𠢱𠢵𠬶𠰇𠾤𠾬𡋤𡢳𡥧𡺽𢉅"),
   ("Jing", "㗡㘫㢣㣏㬌㶐䔔䜘䝼䪫䴖䵞燝\ufa1c\ufa1d\ufa9b\ufac8𠇹𠑱𠗊𠗌𠦋𠭉𠭗𠲮𠳬𠷐𡁔𢀖𢈴"), ("Jiong", "⺆⼌㓏㢠㤯㯋㷗㷡䌹䢛𠕕𠖷𢂶𢄗"),
   ("Jiu", "⺽⾅⾲㝌㠇㡱㩆㲃㸨㺩㺵䅢䆒䆶䊆䊘䛮䡂䬨䰗䳎欍汣𠃖𠃺𠕴𠖬𠙔𠚨𠛩𠜃𠜉𠠳𠣿𠴄𠿈𡆥𡚮𢀙"), ("Joek", "㒢"),
   ("Ju", "㖩㘌㘲㜘㞐㞫㠪㡹㥌㨿㩀㩴㪺㬬㮂㹼㽤䀠䃊䄔䅓䅕䈮䋰䎤䏱䕮䗇䛯䜯䝻䡞䢸䢹䣰䤎䪕䪶䰬䱟䱡䳔䴗䵕䶙啹烥爠菹𠉧𠋬𠙆𠚵𠜹𠟰𠤄𠨭𠮑𠰾𡉎𡒍𡕖𡢒𡥶𡨅𡨢𡫬𡱾𡳘𡶋𡸘𡸨𡿾"),
   ("Juan", "㢧㢾㪻㯞㷷䄅䅌䌸䖭䚈䡓䣺䳪\ufaa9𠔉𠡶𠢚𡘰𡡀𡫂𡱑𢋄"),
   ("Jue", "⼅㔃㔢㟲㤜㩱㭈㭾㰐㲄㵐㷾㸕㹟㻕䀗䁷䇶䏐䏣䐘䖼䘿䙠䝌䞵䞷䠇䡈䣤䦆䦼\ufa9e𠀔𠄌𠄑𠊬𠎮𠜾𠢤𠨊𠫃𠶸𡈅𡚠𡲗𡳾𡾜𢁪"),
   ("Jun", "㑺㒞㕙㖥㚬㝦㴫㻒㽙䇹䐃䕑䜭䝍𠀹𠣕𠨢𢉦"), ("Jung", "㯴"), ("Jyu", "㫇䚤䦸"), ("Jyut", "䄴䮅"), ("Ka", "䘔"),
   ("Kai", "㚊㪡䁗䒓䡷䤤\ufa3e𠢲𡙓𡳂𢋝"), ("Kan", "⼐㘛㙳䀍䖔䘓䳚𠝲𡶪𡸞𡺗"), ("Kang", "㝩㢜㱂㼹䆲䗧䡉𠻞𠾨𡐓𡵻𡻚"),
   ("Kao", "㸆䎋䐧䯌䯪𡭳"), ("Kay ", "\uf900"), ("Kayng ", "\uf901"),
   ("Ke", "㕉㕎㝓㞹㤩㪙㪼㵣㸯䆟䈖䌀䐦䙐䶗𠏀𠛳𠡜𠡤𠢹𠩧𠪒𠪟𠲙𠳭𠶲𠷄𡞢𡱼𡸡𡻘𢈈"), ("Ke ", "\uf902"), ("Ken", "㸧𠳁"),
   ("Keng", "㧶㰢䃘䡩䡰𠠷𡞚𡷨"), ("Ko ", "\uf903"), ("Koc ", "\uf905"), ("Kol ", "\uf904"),
   ("Kong", "㚚㤟㲁㸜䅝𠀝𢃐"), ("Kou", "⼝㓂㰯䁱䍍䳹𠛅𡠆𢂁𢄠"), ("Ku", "㗄㠸㩿㪂㱠㵠䂗䇢䉐䔯䧊䯇䵈謉𠠶𠺟𡀙𡑚𡑣𡗵𡞯𡶏𡼿"),
   ("Kua", "㐄㛻㡁䓙䠸䦚䯞舿𠇗𡇚𡕒𡗢𢄳"), ("Kuai", "㔞㙕㟴㧟㱮䈛䓒䭝䯤𠜐𠣲𡚅𡼾"), ("Kuan", "㯘䕀䥗䲌窽鑧"),
   ("Kuang", "㑌㾠䊯䒰䖱䯑䵃\ufa71𡶢𡾇"), ("Kui", "㒑㕟㙓㙺㚍㨒䕚䕫䖯䙆䙌䙡䟸䠑䤆䧶䫥䯓䯣䰎䳫𠊾𠣠𠿥𡌤𡐠𡓰𡤞"), ("Kul ", "\uf909"),
   ("Kum ", "\uf90a"), ("Kun", "㡓㩲㫻㱎䐊䖵䠅䪲堒尡潉熴𠚯𡖉𢈛"), ("Kuo", "㗥㾧䟯䦢䯺韕𠚳𠠎𡎒𡻙"),
   ("Kwi ", "\uf906\uf907"), ("Kyun ", "\uf908"), ("La", "㕇㡴㻋㻝䂰䃳䏀䓥䗶䱨䱫䶛𠾩𡅘𡉆𢃴𢉨"),
   ("La ", "\uf90e\uf95b"), ("Laai", "𡃤"), ("Laap", "㼃"), ("Lai", "㚓㥎㸊䂾䄤䅘䋱䓶䚅䠭䧒䲚𠎙𠘝𡂖𡃄𡓒𢅭"),
   ("Lak ", "\uf95c\uf95d"), ("Lam", "𠄻"), ("Lan", "㑣㘓㛦㜮㞩㦨㧛㨫㩜㰖㱫㳕䃹䆾䌫䍀䑌䦨䪍䰐囕爦𠓖𠓭𠼖𡒄𡓔𡮻𡽳𢅡𢉧𢊓"),
   ("Lan ", "\uf95e"), ("Lang", "㓪㙟㝗㟍㢃㫰㮾㱢㾿䆡䍚䕞䡙䯖䱶斏鿾\ufa2e\ufa92𠺘𠻴"),
   ("Lao", "⺹⽼㗦㞠㟉㟹㧯㨓㺐䃕䇭䕩䜎䝁䝤䲏䳓䵏朥珯硓粩耂躼𠈭𡂕𡑍𡬘"), ("Le", "㔹㖀㦡𡃖"),
   ("Lei", "⽾㑍㒍㒦㔣㙼㲕㴃㵢㵽㶟㹎㼍㿔䉂䉪䍣䐯䒹䛶䢮䣂䣦䨓䮑䴎\ufaae𠍆𠱤𡈶𡔇𡚗𡰠𡻭𡻱𡼊𡾋𡾖𡿉𡿛"), ("Leng", "㘄䉄䬋䮚"),
   ("Li", "⼒⽴⾥⾪㑦㒧㒿㓯㔏㕸㗚㘑㛤㟳㠟㠣㡂㤡㤦㦒㧰㬏㮚㯤㰀㰚㱹㴝㸚㹈㺡㻎㻺㼖㽁㽝㾐㾖㿛㿨䃯䄜䅄䅻䇐䉫䊍䊪䋥䍠䍥䍦䍽䓞䔁䔆䔉䔣䔧䕻䖥䖽䖿䗍䘈䙰䚕䟏䟐䡃䣓䣫䤙䤚䥶䧉䬅䬆䮋䮥䰛䰜"),
   ("Li", "䱘䲞䴡䴻䵓䵩䶘娳\ufa18𠌯𠘞𠘟𠚄𠛘𠛦𠝄𠞉𠞙𠞤𠠏𠠝𠠵𠢠𠩵𠪄𠪺𠫌𠭰𠻗𠼝𠾆𡃷𡆯𡤌𡥽𡫯𡮰𡯄𡳸𡸉𡾒𡿋𡿎𢄡"), ("Li ", "\uf962"),
   ("Lian", "㜃㜕㜻㝺㟀㡘㢘㥕㦁㪘㪝㯬㰈㰸㱨㶌㶑㺦㼑㼓䁠䃛䆂䌞䏈䙺䥥䨬䭑\ufa57\ufab0𠋖𠒵𠔨𠗳𡆕𡟤𢅏𢅖"), ("Liang", "㒳㔝㹁㾗䀶䁁䓣䝶䠃䣼䩫䭪煷𠓜𠯱𡑆𡮎"),
   ("Liao", "㙩㝋㡻㵳㶫䄦䉼䎆䑠䒿䜍䜮䢧䨅䩍叾曢爎藔𠐋𠖂𠨥𡻪𢄷𢊻"), ("Lie", "㤠㧜㬯㭞㭩㯿㲱㸹㼲㽟䁽䅀䉭䋑䜲䝓䟩䟹䪉䴕烮𠛱𠠗𡁓𡂏𡂩𡊻𡏵𡒏𡓍𡭣𡿩"),
   ("Lin", "㐭㔂㖁㝝㨆㷠䉮䕲䗲䚏䚬䢯䫐䫰䮼𠐼𠓮𡃦𡬜𡰚𡳞𡶱𡹇𡻫𡿠"),
   ("Ling", "㖫㡵㥄㦭㪮㬡㯪㱥㲆㸳㻏㾉䄥䈊䉁䉖䉹䌢䍅䔖䕘䖅䙥䚖䠲䡼䡿䧙䨩䯍䰱䳥䴇䴒䴫瀮蓤霗𠄖𠟨𠠢𠡭𠱠𠻠𠻱𠾥𡈍𡕮𡿡"), ("Lip", "䢂"),
   ("Liu", "㐬㙀㧕㶯㽌㽞䄂䉧䗜䚧䝀䬟䰘䱖䱞䶉桞\ufa97𠗽𠛓𠪐𠺕"), ("Lo", "囖"), ("Lo ", "\uf960"), ("Loeng", "鿄鿌鿶"),
   ("Long", "⻯⻰⿓㑝㙙㚅㛞㝫㟖㡣㢅㦕㰍㳥㴳䃧䆍䏊䙪䡁䥢䪊䮾𠮽𠱚𠾐𡃡𡦀𡬍𡬕𡱯"), ("Lou", "㔷㟺㡞㥪㪹㲎㺏䁖䄛䅹䝏䣚䫫䮫䱾鿲𠖛𠗩𠞭𠳴𡇭𡗆𡪅𡰌𢈢"),
   ("Lu", "⻧⿄⿅㓐㔧㔪㖨㛎㛬㜙㟤㠠㠥㢚㢳㦇㪐㪖㪭㫽㭔㭚㯝㯟㯭㱺㲶㻲㼾㾔㿖䃙䌒䍡䎑䎼䐂䔞䕡䘵䚄䟿䡎䡜䥨䩮䮉䰕䱚䲐䴪澛焒謢𠀽𠜈𠢬𠣊𠰷𠷈𠿛𡀔𡀿𡉴𡡎𡳴𡴆𡷏𡾅𢅞𢈚𢊩𢋡"),
   ("Luan", "㝈㡩㱍䖂䜌𠦨𡄹𡡗𡭸"), ("Lue", "㑼㔀㗉㨼䂮䌎䛚䤣𠢌𠼟"), ("Lun", "㖮㷍䈁䑳磮𠔕𠼩𡃝"), ("Lung", "㔫"),
   ("Luo", "㑩㒩㓢㞅㦬㩡㪾㰁㱻㴖㼈㽋㿚䀩䇔䈷䉓䊨䌱䌴䎊䯁洜罖𠉗𠏢𠜖𠶱𠻐𠻡𡁆𡆆𡤢𡿏𢅾"), ("Lyeng ", "\uf95f"), ("Lyul ", "\uf961"),
   ("Lyun", "龻"), ("Ma", "⻢⾺⿇㐷㑻㜫㦄㨸㾺䗫䣕䣖䧞䯦䳸遤𡻤𢉿𢋚"), ("Mai", "⻨⿆㜥㦟䁲䘑䚑䜕䥑䨪䨫䮮鿏鿺𠿆"),
   ("Man", "㐎㒼㗈㙢㛧㡢㬅㵘䅼䊡䐽䒥䕕䛲䜱䝡䝢䟂䡬䯶䰋𡢚𡻩"), ("Mang", "㝑㟌㟐㟿㡛㤶㬒㻊䁳䅒䈍䒎䓼䖟䵨𠈵𠮵𡅖𡘪𡩩𡩽𡵀"),
   ("Mao", "⽑⽭㒵㒻㚹㝟㡌㧇㧌㪞㫯㮘㲠㴘㺺㿞䀤䅦䋃䓮䡚䫉䭷乮𠔼𠤝𡜢𡹰𢂹𢅉"), ("Me", "嚒癦"),
   ("Mei", "㖝㙁㧠㭑㺳䀛䆀䉋䊈䍙䓺䜸䤂䰨䰪䵢\ufa44𠊉𠍨𠪃𡲭"), ("Men", "⻔⾨㥃㦖㱪㵍䊟䫒"),
   ("Meng", "㙹㜴㝱㠓㩚䀄䁅䇇䉚䏵䑃䑅䒐䓝䗈䙦䙩䟥䠢䤓䥂䥰䰒䲛䴌䴿䵆𠐁𠐧𠖆𠵼𡒯𡚔𡬆𡬌𢄐"),
   ("Mi", "⼍⽶⽷㜆㜷㝥㟜㠧㣆㥝㨠㫘㳴㳽㴵㵋㵥㸏㸓䁇䈿䉲䊳䋛䌏䌐䌕䍘䕳䕷䖑䛑䛧䣾䤉䤍䥸䭧䮭䱊䴢鿹𠞧𡄣𡇒𡊭𡓭𡝠𡬐𡲼𡾱𢆯𢇲"),
   ("Mian", "⼧⾯⿌㒙㝃㝰㤁㨺㮌㰃㴐㻰䀎䃇䏃䛉䤄䩄䫵䰓\ufa32\ufa33𡒳𡕢𡧍𡧒𡯫𢃮"), ("Miao", "㑤㦝䁧䖢𠋝𡡺"),
   ("Mie", "㒝㩢䁾䈼䌩䘊䩏𠺗𡖺𡞙𡟬"), ("Min", "⺠⻪⽫㞶㟩㟭㥸㨉㬆䁕䂥䃉䋋䝧䟨䡑䡻䪸䲄垊\ufa41𠊟"), ("Ming", "㝠㟰㫥䄙䆩䊅䒌䫤䳟𠋶𡥸"),
   ("Mit", "㓕"), ("Mo", "㱳㶬㷬㷵㹮䁼䁿䃺䏞䒬䘃䩋䬴䭩䮬䯢䱅䳮䴲䶸怽\ufa3a𠆮𠇱𠡞𠢓𠬛𠻚𡈗𡊉𡎡𡠜𡡉𡢜𡻟𡾉𢄏𢊗"), ("Mok", "㡍"),
   ("Mong", "䰶䱩龬"), ("Mou", "㭌䋷䍒䏬䗋䥐䥻䱕踎𠀱𠥨𢃱"), ("Mu", "⺟⺫⽊⽬㜈㟂㣎㧅㾇䀲䊾䑵䥈䱯朰𠺖𡵬"), ("Mui", "䔦"),
   ("Muoi", "𠦩"), ("N", "㕶𠮾"), ("Na", "㨥㵊䇱䈫䎎䏧䖓䖧䛔䟜䪏䫱𠌧𠕄𠱲𠴾𡤙𡰀𡷝𢇵"),
   ("Na ", "\uf90b\uf90c\uf90d\uf90f\uf910\uf911\uf912\uf913"), ("Nai", "㜨㮈㮏㲡㴎㾍䍲䘅䯮𠧤𡞫𡨵𡮙𢉓"),
   ("Nak ", "\uf914\uf915\uf916\uf917\uf918\uf919\uf91a"), ("Nam ", "\uf921\uf922\uf923\uf924"),
   ("Nan", "㓓㫱㬮㽖䈒䊖䔜䛁䶲\ufa68\ufac7𡆤𡆱𡆲"), ("Nan ", "\uf91b\uf91c\uf91d\uf91e\uf91f\uf920"),
   ("Nang", "㚂㶞䁸𠶬𡿝"), ("Nang ", "\uf928\uf929\uf92a\uf92b\uf92c"), ("Nao", "㑎㛴㞪㺁䃩䛝䜀䜧䴃𠊦𠡷𡍍𡽧𡾂𡿺𢅈𢉵"),
   ("Nap ", "\uf925\uf926\uf927"), ("Nay ", "\uf92d"), ("Nayng ", "\uf92e"), ("Ne", "⽧㕯䅞䎪䭆"),
   ("Nei", "㐻㨅㼏䲎𠑚𠑛𡣢𢁩𢅼"), ("Nen", "㜛㯎㶧𡞾"), ("Neng", "㲌㴰䏻𠹌𢆂"), ("Ngai", "𠏥"), ("Ngay", "𠿴"),
   ("Ngheo", "𠨪"), ("Ngo", "䞲"), ("Nhom", "𡃘"), ("Nhu", "𠶁"), ("Nhui", "𠓩"),
   ("Ni", "㞾㠜㥾㦐㩘㪒㲻㵫㹸䁥䕥䘌䘦䘽䛏䝚䦵䵑䵒聣鿭𠆵𠱘𠸺𠽬𡎳𡎿𡞭𡣁𡥦𡥨𡫸𡬗𢅟"), ("Nian", "㜤㞋㮟㲽䄭䄹䚓䧔䬯哖焾𠕟𠗋𠣇𠫺𡝟𡰫"), ("Niang", "䖆"),
   ("Niao", "⻦⿃㒟㜵㞙㠡㭤㳮䃵䙚䦊䮍𠒰𡘏𡝋𡝒𡠿"), ("Nie", "㖏㖕㖖㘝㘨㘿㙞㚔㜸㡪㩶㮆㴪㸎䂼䄒䇣䌜䌰䡾䯀䯅䯵䳖巕𠈊𠶿𡆣𡍤𡰆𡴎𡶫𡸣𡾦𡾲𡿖𡿗𢈸"),
   ("Nin", "㤛䋻䚾脌𠽝"), ("Ning", "㝕㣷㲰㿦䆨䔭䗿䭢倿澝𡫃"), ("Niu", "⺧⽜㖻㺲䂇䋴䏔䒜"),
   ("No ", "\uf92f\uf930\uf931\uf932\uf933\uf934\uf935\uf936\uf937\uf938\uf939\uf93a"),
   ("Nok ", "\uf93b\uf93c\uf93d\uf93e\uf93f\uf940"), ("Non ", "\uf941"), ("Nong", "㶶㺜䢉䵜𠘊"),
   ("Nong ", "\uf942\uf943\uf944\uf945"), ("Nou", "㜌㝹㳶䅶䘫䨲䰭𠲴𡝦𡨻𡭾𢉕𢉚"),
   ("Noy ", "\uf946\uf947\uf948\uf949"), ("Nu", "⼥㚢㵖䖡䘐䚼䶊𠴂"), ("Nuan", "㬉"), ("Nue", "䖈䖋䨋"),
   ("Nui", "𡍝"), ("Nuk ", "\uf952\uf953"), ("Num ", "\uf954"),
   ("Nung ", "\uf955\uf956\uf957\uf958\uf959"), ("Nuo", "㐡㑚㔮㖠㛂㡅㰙䚥\ufabd𠸱𠹈𡖔𡖫𡬥𡿊"),
   ("Nwu ", "\uf94a\uf94b\uf94c\uf94d\uf94e\uf94f\uf950\uf951"), ("O ", "\uf9b9"),
   ("Ou", "㒖㼴䉱䌂䌔䙔䥲藲𠙶𠢔𠥝𠴰𡂿𡈆𡩾"), ("Pa", "䔤䯲"), ("Paa", "𠌊"), ("Pai", "㭛㵺䖰䱝𠂢𠸁"),
   ("Pan", "㐴㢖㽃䃲䆺䰉䰔聁𠽲𡞟"), ("Pang", "㕩㥬㫄㻚䅭䏺䒍䠙䨦\ufad9𠗵𠦲𡅃"), ("Pao", "㘐㚿㯡㯱㲏䩝䫽䶌𠣳𡂘𡧙𡯈𡾌"),
   ("Pei", "㚰㟝㤄㧩㯁㳈㾦䊃䣙䫊𢁖"), ("Pen", "㖹𠺔𠽾𡺜"), ("Pen ", "\uf964"), ("Peng", "㛁㠮㥊㧸㱶㼞䄘䍬䡫䥋䦕䰃䴶蘕𡂫𡗗𡼜"),
   ("Pey ", "\uf963"), ("Pho ", "\ufa06"), ("Phok ", "\ufa07"),
   ("Pi", "⺪⽦⽪㓟㨢㨽㮰㯅㱟㳪㵨㼰㿙䏘䑀䑄䚰䚹䠘䡟䤏䤨䫌䫠䯱䰦䲹䴙䴽𠜱𠡄𠨸𠪮𠯔𠯭𠵬𠹦𡊝𡛘𡛡𡦟𡲮𡶌𡺮𢇳"), ("Pi ", "\uf968"),
   ("Pian", "⽚㓲㛹㸤㼐㾫䏒䮁鍂𠯯𠷊𡎚𢉞"), ("Piao", "㬓㵱㹾㼼䏇䕯䴩𠷻𡢱𡣋"), ("Pie", "⼃䥕𠟈𠢪"),
   ("Pin", "㡦㰋㺍䎙\ufa6a\ufacc𠐺𠮰𡛞"), ("Ping", "㵗㺸㻂䀻䈂䍈䓑䛣䶄\ufa39\ufab1𠗥𠗦𡊞𢆟"),
   ("Po", "㗶㛘㧊㨇㩯䄸䍨䎅䞟䣪䣮䥽䨰䪖䪙䯙𠰐𠰼𠵳𠷑𠾌𡊟𡶆𡼃𡽠𢂤"), ("Pou", "㕻㧵㰴䬌䯽䳝"), ("Pu", "⺙⽁㒒㬥㯷㲫㹒㺪䇚䈬䈻䑑䔕䗱䧤䮒䲕䴆贌𡜵𡰿𢈲"),
   ("Pwu ", "\uf966"), ("Pwul ", "\uf967"), ("Pyen ", "\uf965"),
   ("Qi", "⻫⻬⽓⿑㒅㖢㞓㞚㟓㟚㟢㠌㣬㥓㩻㩽㫓㬤㯃㯦㰗㱦䀙䁈䁉䄎䄢䄫䅤䅲䉻䋯䌌䎢䏅䏌䏠䏿䐡䑴䒗䒻䓅䓫䔇䔾䗩䙄䚉䚍䞚䟄䟚䡋䡔䢀䣛䥓䧵䩓䫏䫔䭫䭬䭶䭼䰇䰴䱈䲬䳢䶒䶞簯\ufa38"),
   ("Qi", "\ufa4e𠀁𠁭𠅚𠊔𠎰𠐾𠓪𠔶𠧒𠫸𠴹𡍪𡖾𡢖𡦍𡪵𡫁𡷞𡹉𡹓𡹘𡹩𡺓𡺸𡻧𡻰𡽼𢁒"), ("Qia", "㓞㓣㓤㡊㤉䁍䂒䨐䯊䶝拤𠕣𠜤𠜼𠝘𠝛𠳌𡘧𡤫"),
   ("Qian", "⽋㐸㗔㜞㟻㦮㦿㧄㨜㩃㩮㩷㪠㯠㸫㹂䀒䁮䇂䇜䈤䈴䉦䊴䑶䕭䖍䙴䞿䥅䪈䭤䵖䵛茾鎆鏲\ufad6𠀼𠊭𠋵𠑲𠔺𠠃𠢍𠬾𠳋𠷁𡒌𢁮𢂺𢃘𢃥𢋔"),
   ("Qiang", "⺦⽙㛨㩖㳾㾤䤌䵁嗴獇\ufab6𡠥𡬎𡸤𡺃𡺛𢈵"), ("Qiao", "㚁㚽㝯㡑㢗㤍㴥䀉䂪䂭䃝䆻䇌䎗䩌䫞䯨䱁䲾䵲犞\ufa9d𠏖𠿕𡌔𡩇𡰐𡰑𡺘𢄹"),
   ("Qie", "㓶㗫㚗㛍㛗㤲㥦㹤㼤㾀㾜䟙䤿䦧𠀃𠁠𠋧𠩂𠲵𡂠𡐤𡛠𡝍𡶐"), ("Qin", "㓎㕋㘦㝲㞬㢙㤈㩒㪁㮗㾛㾣䃢䈜䔷䜷䦦䰼鈫\ufa34𠓿𠔎𠖶𠘅𠜘𠦎𠻨𡫧𡵑𡹢"),
   ("Qing", "⻘⾭㩩㯳㵾㷫䋜䔛䞍䡖䨝䯧䲔櫦硘\ufa12\ufa91\ufabb𠑴𠗝𠨍𡄇𡄔𡲀"), ("Qiong", "㑋㒌㧭㮪㷀㼇䅃䆳䊄䓖䛪䠻𠌖𠤊𡊼𡞦𡦃𡸕𡺺"),
   ("Qiu", "㐀㕤㚱㛏㞗㟈㤹㥢㧨㭝㳋㷕㺫䆋䊵䎿䐐䜪䟬䟵䠓䠗䣇䤛䨂䲡蝤\ufa20𠀉𠗈𠰋𡊣𡲚𢈝"),
   ("Qu", "㖆㘗㜹㠊㣄㧁㫢㭕㯫㰦㲘㸖㻃䁦䂂䆽䈌䋧䒧䒼䓚䓛䖦䝣䞤䟊䠐䢗䧢䵶䶚粬衐𠇯𠍲𠏛𠣪𡟥𡡥𡱅𡱺𡲰𡳆"),
   ("Quan", "⺨⽝㒰㒽㟫䀬䄐䅚䊎䌯䑏䟒䠰奍闎\ufa72𠛮𠤹𠥙𡇮𡈉𡙅𡙐𡰝𡴔𡺟𡿨"), ("Que", "㕁㩁㰌㱋㱿㲉㴶㹱㾡䇎䍳䦬䧿䲵𠞗𠳞𡇱𡉉"), ("Qun", "㟒㪊㿏䭽𡈀"),
   ("Ran", "㒄㚩㜣㲯㸐㾆㿵䎃䒣䔳䕼䖄䣸䤡䫇䳿𠊌𠤀𠯍𠱞𡖝𡜉𡜫"), ("Rang", "䉴䑋"), ("Rao", "㑱㹛𠒸𡈦"),
   ("Ren", "⺅⼈㠴㣼㶵㸾䀔䇮䋕䌾䏕䛘䭃岃祍𠯄𠲏𡰥𢆉𢇦"), ("Reng", "㭁㺱䄧䚮𠧟𠮨𠯷𠯹"), ("Ri", "⺜⽇䒤𡆸𡉭"),
   ("Rong", "㘇㝐㣑㭜㲓㲝㲨㺎㼸䇀䇯䈶䘬䠜䡆䡥䢇䤊䩸𠌚𠞕𠰽𡊫𡊸𡖢𡦼𡫦𡭋"), ("Rou", "⺼⽱⾁㽥䐓䧷䰆𠠐𡗑"), ("Ru", "⼊㐵㦺㨎㹘㾒䄾䋈䞕䰰嶿𠟺𡄲𡜃𡜚𡫽𡮚"),
   ("Ruan", "㓴㮕㼱㽭䎡䓴䙇䞂䪭𠤦"), ("Ruc", "𡄍"), ("Rui", "㓹㢻㪫㲊䂱䄲䅑䇤䌼䓲䬐𡯒"), ("Run", "㠈䏰䦞𠷀"), ("Ruo", "䐞"),
   ("Sa", "㒎㚫㪪㽂䊛䙣䬃隡𠎷𠦃𠬙𠮿𠱡𠿓𡄳𡐥𡒁"), ("Sai", "㔟㗷㘔㢴㩙䈢䚡䰄𡬉"), ("Sak ", "\uf969\uf96a"), ("Sam", "㴱"),
   ("Sam ", "\uf96b"), ("San", "㤾㧲㪔㪚䈀䉈䊉䫅䫩厁壭毶𡙘𢁘"), ("Sang", "䘮䡦䫙槡𠓇𡕏𡠏𢀨"), ("Sao", "㛮㥰㲧㿋䕅𠋺"),
   ("Sat", "㺙"), ("Sau", "㖬㛢龵"), ("Sayk ", "\uf96c"), ("Sayng ", "\uf96d"),
   ("Se", "⾊㒊㥶㱇㵼㻭䉢䔼䨛濏穯𠎸𠟦𠟩𠢳𠵭𠽼𠿗𡫟𡵶𢀋𢃢"), ("Sek", "㸴"), ("Seng", "䒏\ufa31𡬙"), ("Sep ", "\uf96e"),
   ("Sey ", "\uf96f"), ("Sha", "㠺㰱㰼㲚㵤㸺䈉䝊䤬䬊\ufa96𠍽𠚺𡺧𢅑𢇗"), ("Shai", "㩄㬠㴓䵘𢄌"),
   ("Shan", "⼭⼺㚒㡎㣌㣣㨛㪎㪨㰑㴸㶒㺑䀐䄠䘰䚲䠾䡪䥇䦂䦅䱇䱉䴮鿃𠚹𠫹𠿞𡟨"), ("Shang", "䵰䵼贘𠼬"),
   ("Shao", "㪢㲈㸛䈰䈾䏴䒚䔠䙼䬰蕱\ufa77𠣫𠧙𠷃𡡏"), ("She", "⾆㓭㴇㵃䀅䄕䜓䞌䠶䤮䬷\ufa4c𠋞𠪣𠴯𠾏𡄢𢉃"),
   ("Shen", "⾝㑗㕥㚞㚨㜪㮱㰂㰮㵕㾕䅸䆦䯂䰠堔\ufa19\ufa87𠂧𠃫𠗿𠘆𠻝𡖬𡼬𢈇𢈯𢊖𢊲"), ("Sheng", "⽣㗂㮐㱡㼳㾪䁞䚇䞉䪿䱆䲼䴤\ufaa7𠇷𠓸𠓽𠴢𡞞𡨽"),
   ("Shi", "⺬⺭⻝⻞⻟⻠⼗⼠⼫⽒⽮⽯⽰⾗⾷㒾㔺㕜㖷㱁㳏㵓㸷㹝㹬㹷䁺䂖䂠䄷䈕䊓䌤䌳䏉䏡䒨䖨䗐䙾䛈䟗䤭䤱䦹䩃䭄䲽䴓䶡佦嵵煶籂\ufa61\ufab8𠀍𠁗𠇳𠓤𠘪𠡥𠥿𠩔𠯰𠰚𠰴𠷇𡀗𡂓𡅵"),
   ("Shi", "𡉸𡚼𡟕𡠋𡣪𡫵𡰯𡱁𡶈𡷈𡺔𢀕𢁓𢂑𢃰"), ("Shou", "⺘⻡⼿⾸㖟㝊㥅㧃䛵䭭𠈅𠱔𡭮"),
   ("Shu", "⽎⿉⿏㑐㒔㛸㜐㡏㣽㫹㯮㵂㶖㷂㸡㻿㼡㽰㾁䃞䉀䑕䘤䜹䝂䝪䞖䠼䢞䢤䨹䩱䱙䴰瀭糬蠴\ufa43\ufa5a\ufac2𠊪𠐊𠘧𠙎𠲌𠾢𡂡𡊍𡒒𡔪𡣈𡤽𡦛𡧔𡱆𢋂"),
   ("Shua", "㕞𠛚"), ("Shuai", "㲤䢦𠌭"), ("Shuan", "䧠𡭐"), ("Shuang", "㕠㦼䉶䌮䔪䗮䝄䫪鏯𠗾𡑽"),
   ("Shui", "⺡⺢⽔㥨㽷䬽䭨䳠𠻜𡯑𡱊𢇤"), ("Shun", "㥧䀢䀵䑞䴄"), ("Shuo", "㮶䀥䁻𠲾𠲿"),
   ("Si", "⺒⺯⺰⼛㒋㕽㚶㟃㠼㣈㭒㴲㸻㹑㺇㺨㽄䇁䇃䎣䏤䔮䞏䡳䦙䫢䲉俬\ufa2b𠀓𠋡𠖓𠭈𠳎𡡒𢊀"), ("Sim", "䁡"), ("Sim ", "\uf972"),
   ("Sin", "㷽"), ("Sin ", "\uf971"), ("Sip ", "\uf973"), ("Soeng", "龦"),
   ("Song", "㞞㣝㧐㨦㩳㮸䉥䛦䜬䢠䯳䯷𠳼𡇝𡷽𡾼"), ("Sou", "㛐㟬䈭䈹䉤䏂䐹䑹䗏䤹䩳䬒䮟䱸\ufa8e\ufac4𠋢𠌞𠌟𠘂𠝬𠪇𡠼𡣂"),
   ("Su", "㑉㑛㓘㔄㕖㜚㝛㢝㨞㪩㬘㯈㲞㴋㴑㴼䃤䅇䌚䎘䏋䑿䔎䛾䥔䲆𠐍𡎮𡖯𢋈"), ("Suan", "䝜𠥘"),
   ("Sui", "⼢㒸㞸㥞㴚㵦㻟㻪㻽䅗䉌䍁䔹䜔䠔䡵䢫䥙䧌䪎䭉䯝𠌱𠕸𠨌𠭥𡑞𡝓𡶣𡷼𡹖𡻕𢅕𢇥𢈼"), ("Suk", "䄣"), ("Sun", "㔼㦏䁚䐣𠣬"),
   ("Suo", "㛖㪽㮦䂹䅴䈗䐝䓾䔋䖛䞆䞽䣔䯯䵀𠈱𠋲𠗼𠘺𠝿𠞯𠩄𠱗𡩡𡱳"), ("Sway ", "\uf970"), ("Syu", "龧"), ("Syun", "𠊿"),
   ("T", "扌"), ("Ta", "㒓㗳㛥㣛㣵㧺㭼㯓㯚㳠㹺㺚㿹䂿䈋䈳䌈䍇䍝䎓䑜䑽䓠䜚䳴䵬䶀䶁闧鿎𠉂𠴲𠷍𡌩𢃕"), ("Taai", "㣖㤗"), ("Taam", "䏥"),
   ("Taap", "㲩"), ("Tai", "㑷㒗㘆㙵㣍㥭㬃㷘㸀䈚䑓䣭𡇷𡒢"), ("Tan", "㘱㛶㨏㫜㲜㲭㳩㴂㵅㷋㽎㽑䃪䆱䉡䊤䏙䐺䑙䕊䗊䜖䞡䦔\ufa37𠫶𠻪𡅄𡊨𢅀𢇧𢇰"),
   ("Tang", "㑽㒉㓥㙶㜍㭻㲥㼒㼺㿩䅯䉎䌅䕋䞶䟖䠀䣘䧜𠗶𠢃𠹔𡿓"), ("Tao", "㚐㣠㫦㹗䀞䄻䈱䑬䚯䛌䛬䤾䬞䵚\ufa79\ufaaf𠇏𠓝𠗆𠚜𠞞𠬢𡍒𡺫"),
   ("Te", "㥂㧹𠈸"), ("Teng", "䒅䕨䠮䲍䲢虅"), ("Thak ", "\ufa01\ufa02"), ("Thang ", "\ufa03"),
   ("Thayk ", "\ufa04"), ("Thong ", "\ufa05"), ("Ti", "㔸㖒㗣㡗㣢㬱㯩䅠䌡䎮䏲䔶䖙䙗䚣䛱䢰䨑䪆䬫䬾䯜䱱䴘䶏䶑朑𠞄𡥩𡰎𡲕𡲿𡸑"),
   ("Tian", "⽥㐁㖭㙉㥏㧂㬲㮇㶺䀖䄼䄽䋬䐌䑚䚶䟧䠄䡒䡘䥖䧃鿬\ufaa1\ufaab𠗘𡒧𡙒𢇶"), ("Tiao", "㟘㬸㸠䒒䖺䟭䠷䩦䯾䱔螩\ufaac𠛪𠤺𠧪𡠊𡯿𡳏𢈄"),
   ("Tie", "䥫䩞䴴䵿"), ("Tin", "䒶"), ("Ting", "㓅㹶㼗䅍䋼䗴䦐䯕䱓䵺𠄚𠕊𠘋𡈼𡔛"), ("To", "鿳鿸"),
   ("Tong", "㛚㠉㠽㣚㤏㪌㸗㼧㼿䂈䆚䮵䳋䴀䶱𠖄𡠙𡦜𢄟𢈉"), ("Tou", "⼇㓱㖣㢏㪗㳆㼥䕱䚵䞬䟝䬢䱏䵉𡇧𡷠"), ("Troi", "𠐞"),
   ("Tu", "⼟㟮㭸㻌㻠㻬㻯䅷䖘䛢䞮䠈䣄䣝䤅䩣䳜\ufa55𠊲𠞀𠟶𠫓𠫮𠳶𠸂𠻬𡇩𡸂𡺴"), ("Tuan", "㩛䊜䜝䝎䵊䵎䵯𡁴"),
   ("Tui", "㞂㞜㢈㢑㥆㱣㷟㾼㿉㿗䀃䅪𠺙𡯵𡷜𢉭𢊮"), ("Tun", "㖔㧷㩔㬿㹠㼊𠭿𡉒"), ("Tung", "㖰"),
   ("Tuo", "㟎㸰㸱㼠㾃䍫䓕䜏䡐䪑䭾䰿䴱𠈁𠰹𠴻𡐏𡛵𡩆𡹬𢄿"), ("Tuoi", "𢆫"), ("Twu ", "\uf95a"), ("Vao", "𠾷"),
   ("Ve", "𡲈"), ("Wa", "⽡㧚㼘䍪䎳䚴䠚䨟䯉䵷屲\ufa7b𠴺𠹁𡁌𡚟𡧗"), ("Waa", "㢐"), ("Wai", "㖞㗏䠿䴜䶐𠨃𠰻𡣺𡺨"),
   ("Wan", "㘤㜶㝴㸘㽜㿸䅋䑱䖤䗕䘎䘼䛃䛷䝹䩊䯈䯛䳃塆壪瞣𠒢𠝪𠠪𠣉𡆅𡇿𡤶𡩄𡸥𢀗"), ("Wang", "⺏⺐⺩⺲⺳⺴⺵⼪⽹㓁㲿㳹㴏䋄䋞䒽䤑䰣\ufa86\ufa93𠕿𡔞𡝝𡯁𡷢𢁶"),
   ("Wei", "⻙⼞⾱㕒㖐㙎㙔㙗㛱㞇㞑㟪㠕㣦㣲㥜㦣㨊㬙㭏㮃㱬㷉䃬䇻䈧䉠䊊䋿䍴䍷䑊䔺䗽䘙䙟䙿䜅䜜䝐䞔䡺䥩䦱䧦䪋䪘䫋䬑䬿䭳䮹䲁䴧䵋䵳墛屗嶶捤揻煀𠄿𠆟𠙕𠥎𠳿𠹤𡂗𡇦𡔱𡚈𡶎𡷕𡼱𢉝𢊯"),
   ("Wen", "⽂㗃㝧㡈㬈㼔䎹䎽䐇䘇䰚呚鎾駇\ufaa5𠐢𡁋"), ("Wen ", "\uf9c6"), ("Weng", "㘢㜲㮬㹙㺋䈵䐥䩺䱵攚𠰈𡍻𡩥𡻐"),
   ("Wo", "㠛㦱㧴㱧㹻䀑䁊䂺䠎䮸䰀𠪧𠷏𠿟𡁮𡎔𡑟𡖲"), ("Wong", "䶭"),
   ("Wu", "⺎⽆⽏㐅㐳㑄㒇㡔㣗㬳㮧㵲㷻㹳㻍㽾䃖䉑䍢䎸䑁䒉䓊䖚䛩䜑䟼䡧䦍䦜䨁䫓䮏䳇䳱鿉\ufa30𠒄𠘻𠛆𠞆𠥢𠯃𠵦𠼘𡈎𡈞𡬫𡯇𡵉𡷤𢁢𢃀𢄓𢋹"), ("Wu ", "\ufa0c"),
   ("Wun", "㛟"), ("Wun ", "\uf9c5"),
   ("Xi", "⻃⻄⼖⼣㑶㓾㔒㕃㕧㗩㗭㘊㙾㚀㚛㛓㛫㛭㜎㜯㠄㣟㤸㦦㦻㩗㪧㬛㭡㮩㯕㰥㰿㱆㱤㲸㴔㴧㶉㸍㺣㽯㾷㿇㿽䀌䁯䂀䈪䊠䏩䏮䐅䐖䐼䒁䒊䓇䖒䖷䙵䚫䛊䛥䜁䢄䧍䨳䫣䬣䭒䮎䲪䳶䵱䶋焁礂邜"),
   ("Xi", "\ufa15𠅤𠆱𠉢𠔃𠔍𠘕𠜗𠟊𠤴𠦌𠦜𠨚𠩺𠪙𠬬𠴭𠶨𠺒𡁱𡃢𡅕𡊑𡏛𡗞𡗳𡘐𡘡𡙋𡜧𡝧𡦎𡩤𡳚𡶯𡻎𢀊𢊚𢋼"),
   ("Xia", "㔠㗇㘡㙈㙤㰨㰰㰺㽠䖎䖖䘥䛅䠍䪗䫗虲鎼𠢆𠩘𠽫𡈮𡏘𡨄𡺷𢈙𢈤"),
   ("Xian", "㔾㘅㘋㛾㡉㡾㢺㦑㦓㧥㪇㫫㬎㬗㭠㭹㮭㯗㰊㰹㲔㳄㳭㵪㶍㷿㸝㺌㺤㽉㾾㿅㿌䁂䂅䃱䃸䄳䆎䉯䉳䊱䏹䐄䕔䗾䘆䙹䚚䜢䝨䢾䤼䥪䦘䦥䧋䧟䧮䨘䨷䩂䯭䯹䱤䲗䵇䵌䶟僲鑦𠏓𠏡𠓌𠚆𠛑𠜎𠠁𠫄𠯟"),
   ("Xian", "𠷢𠿢𡐖𡒓𡗏𡞣𡫹𡰲𡸃𡽗𡾮𡿤𢁗𢅮𢋮"), ("Xiang", "⾹㐮㗽㟄㟟䊑䐟䔗䖮䜶䢽䦳䬕䴂稥\ufa1a\ufa69\ufaca𠸮𡹷𢄵"),
   ("Xiao", "⺌⺍⼩㔅㕺㗛㚠㚣㤊㩋㪣㬵㮁㲖㵿㹲㺒䉰䊥䌃䎄䒕䒝䕧䟁䥵䨭䬘䴛𠈬𠏕𠑪𠴡𠴳𠹎𡟣𡣾𡥍𡦝𡦳𡧕𡯩𡱉𡷸𡼚"),
   ("Xie", "㐖㒠㓔㔎㕐㖑㖿㗨㙝㙦㙰㝍㞒㞕㡜㢵㣯㣰㥟㦪㨙㨝㩦㩪㭨㰔㰡㱔㳦㳿㴬㴮㴽㸉㽊㾚䀘䁋䉏䉣䊝䔑䕈䕵䙊䙎䙝䙽䚸䝱䡡䥱䥾䦏䦖䩤䩧䪥䲒䵦夑\ufad3𠅱𠑄𠖹𠗉𠨆𠲊𠸴𠿇𡀺𡃂𡄕𡗼𡛶𡞘"),
   ("Xie", "𡟩𡣹𡤋𡭥𡰢𡸔𡽖𢂐"), ("Xin", "⺖⺗⼼⾟㐰㔤㚯㛙㛛㜦㣺㭄㭢㾙䅽䒖䚱䛨䜗䜣𠑰𠷓𡈏𡌜𢋆"),
   ("Xing", "⾏㐩㓑㓝㙚㝭㣜㨘㷣㼛㼬䁄䂔䃏䓷䕟䗌䛭䣆䤯䰢䳙謃\ufa73\ufac5𠀦𠬋𡃳𡶭"), ("Xiong", "㐫㚾䧺焽𠓙𡨳𡪰𡬁"),
   ("Xiu", "㗜㱗㱙㳜㵻㹋㾋䏫䐰䗛䡭𡔨𡜨𡟞𡯐𢊒"), ("Xu", "㐨㑔㑯㕛㖅㗵㘧㜅㜿㞊㞰㥠㰭㳚㵰㷦㺷㽳䂆䅡䇓䈝䋶䍱䎉䏏䔓䘏䙒䛙䢕䣱䣴䦗䦽䧁䬄䱬䳳聓裇𠆐𠜄𠧰𠷙𠹘𠾫𡦁𡱣𡹲𢄼"),
   ("Xuan", "⽞㓩㔯㔵㘣㝁㦥㧋㧦㩊㯀㳙㳬㹡㻹㾌䀏䁔䁢䃠䆭䍗䍻䗠䚙䚭䝮䠣䧎䩙䩰䮄䲂䲻䳦𠗻𠣖𠥞𠵷𡈣𡈴𡬳𡾥𢂄𢈋"),
   ("Xue", "⽳⾎㕰㖸㗾㞽㰒㶅㻡㿱䆝䆷䋉䎀䒸䛎䤕䦑䨮䫼䬂䭥䱑辪"), ("Xum", "𠎊"), ("Xun", "㖊㜄㡄㢲㨚㰬㵌㽦䋸䖲䗼䘩䙉䛜䞊䠝䭀䵫嚑𠊫𠹀𡑎𡺕𡿼"),
   ("Ya", "⽛⾑㝞㧎㰳㳌㾎㿿䃁䄰䅉䆘䝟䢝䦪䪵䰲乛厑鐚𠄮𠋗𠜲𠮜𠵣𡇼𡴭𡶦𡷻𡸗𡹄"), ("Ya ", "\uf974"), ("Yaji", "萢"),
   ("Yak ", "\uf975\uf976"),
   ("Yan", "⻈⼴⾔㕣㖶㗴㘖㘙㚧㛪㝚㢂㢛㤿㦔㫃㫟㬫㭺㮒㰽㳂㶄㷔㷳㷼㸶㺂㿕㿼䀋䀽䁙䂩䂴䄋䅧䇾䉷䊙䌪䍾䎦䑍䓂䖗䗎䗡䗺䛳䜩䞁䞛䢥䢭䣍䤷䦲䨄䫡䲓䳛䳡䳺䴏䶫䶮焑熖\ufa7e𠆲𠍛𠘥𠛭𠝢𠰖"),
   ("Yan", "𠻤𡙶𡚇𡣽𡹶𢅠𢇈𢇘𢈂𢉘"), ("Yang", "⺶⺷⺸⽺㒕㔦㟅㦹㨾㬕㺊㿮䁑䄃䍩䑆䒋䖹䬗䬺䭐䱀䵮礢𠃓𠍵𠢴𠮴𡠘𡡂𡩶𡹕"),
   ("Yang ", "\uf977\uf978\uf979\uf97a\uf97b\uf97c\uf97d\uf97e"),
   ("Yao", "⺓⼳⽘㑸㑾㔽㙘㝔㞁㟱㢓㨱㫏㫐㴭㵸㹓㿑㿢䁏䁘䂚䆗䆙䆞䋂䌁䌊䌛䔄䖴䙅䚺䚻䛂䠛䢣䬙䯚䳩䴠䶧滧邎\ufa85𠌠𠍩𠏈𠑐𠕻𠟋𠢩𠣑𠹑𡆩𡔜𡛙𡝛𡝩𡢹𡣠𡨇𡩸𡶂𡺯𢂊𢅹𢆷𢆽𢈆𢊙𢋇"),
   ("Ye", "⻚⾴㖡㗼㙒㡋㥷㩎㪑㱉㱌㸣䁆䈎䊦䎨䓉䢡䤳䤶䥟䥡䥺䧨䭇䭎䭟䱒䲜亪璍\ufa2f\ufa62\ufabc𠀸𠄅𠟪𠥇𠱝𡀽𡁁𡑀𡛌𡛽𡽣𢀘𢉥"),
   ("Ye ", "\uf97f\uf980\uf981\uf982\uf983\uf984\uf985\uf986\uf987\uf988\uf989"),
   ("Yek ", "\uf98a\uf98b\uf98c\uf98d"), ("Yel ", "\uf99c\uf99d\uf99e\uf99f\uf9a0\uf9a1"),
   ("Yem ", "\uf9a2\uf9a3\uf9a4\uf9a5\uf9a6"),
   ("Yen ", "\uf98e\uf98f\uf990\uf991\uf992\uf993\uf994\uf995\uf996\uf997\uf998\uf999\uf99a"),
   ("Yen ", "\uf99b"),
   ("Yeng ", "\uf9a8\uf9a9\uf9aa\uf9ab\uf9ac\uf9ad\uf9ae\uf9af\uf9b0\uf9b1\uf9b2\uf9b3\uf9b4"),
   ("Yep ", "\uf9a7"), ("Yey ", "\uf9b5\uf9b6\uf9b7\uf9b8"),
   ("Yi", "⺂⺃⺄⻂⻏⼀⼄⼷⾐⾢㐌㐹㑊㑜㑥㓷㔴㕈㖂㘁㘈㙠㙪㙯㚤㚦㛄㛕㛳㜋㜒㝖㝣㞔㠖㠯㡫㡼㢞㣇㣻㥋㥴㦉㦤㦾㫊㰘㰝㰻㱅㱞㱲㲼㳑㳖㴁㴒㵝㵩㶠㹫㹭㺿㼢㽈㾨䃜䄁䄩䄬䄿䆿䇩䇵䇼䉗䉝䉨䋚䋵䌻"),
   ("Yi", "䎈䒾䓃䓈䓹䔟䔬䔱䕍䖁䖊䖌䗑䗟䗷䘝䘸䚷䝘䝝䝯䞅䢃䣡䣧䦴䧅䧇䧧䩟䪰䫑䬁䬥䬮䭂䭞䭲䭿䮊䯆䰙䰯䱌䲑䴊䴬䵝乊匇椬渏硛籎萟\ufa17\ufa25\ufa67\ufa83"),
   ("Yi", "\ufaa6𠂆𠄱𠅌𠈶𠍫𠍳𠏩𠐀𠓋𠗺𠚮𠛃𠜁𠡔𠡝𠤕𠤗𠤘𠥦𠨾𠩗𠩫𠪗𠬤𠮙𠯋𠰄𠲔𠲖𠲚𠲺𠲻𠶷𠼪𠽜𠿣𡄵𡄻𡉛𡊁𡊶𡍡𡜬𡥁𡬓𡱐𡷪𡻣𡼎𡾾𢀁𢂒𢂗𢂼𢄅𢇙𢇚𢇸𢈶𢊘"),
   ("Yin", "⼵⾳㐆㐺㒚㕂㖗㙬㝙㞤㡥㣧㥯㥼㦩㧈㧢㪦㱃㴈㶏㸒㹜㹞䄄䇙䌥䒡䓄䓰䕃䕾䖐䖜䚿䜾䡛䤃䨸䪩䲟䴦粌\ufa98𠃊𠖟𠪚𠽨𡇂𡈲𡋪𡐔𡓓𡓿𡖣𡩘𡸛𡼽𢂨𢉩𢋻"),
   ("Ying", "㑞㡕㢍㨕㲟㵬㶈㹚㹵㼆㿘䀴䁐䁝䃷䊔䑉䓨䕦䙬䚆䣐䤝䤰䦫䧹䨍䪯䬬䭊䭗䭘䴍䵴愥溋灜绬鶑𠊶𠝟𠠜𠮳𠸄𡀘𡁊𡂚𡃅𡄖𡎘𡺡𢄋"),
   ("Yo ", "\uf9ba\uf9bb\uf9bc\uf9bd\uf9be\uf9bf\uf9c0\uf9c1\uf9c2\uf9c3"),
   ("Yong", "⽤㐯㙲㜉㝘㞲㟾㦷㴄㴩㶲㷏㻾㽫䗤䗸䞻䧡砽\ufa76𠆌𠳀𠹍𡵜𢀍"), ("Yong ", "\uf9c4"),
   ("You", "⺑⼜⾣㒡㓜㕗㕱㗀㘥㚭㛜㤑㫍㮋㰶㱊㳊㳺㴗㶭㹨㺠㽕㾞䀁䅎䆜䍃䑻䒴䖻䚃䛻䞥䢊䢟䥳䬀䱂䳑孧牗蒏\ufa4f𠖋𠘳𠢢𠧠𠧴𠨦𠮫𡇀𡈙𡈰𡈵𡊧𡋧𡜳𡯉𡯙𡺒𡺖𢆶𢈓𢋣"),
   ("Yu", "⺺⺻⻗⻥⽟⽻⾀⾬⿂㑨㒁㒜㔱㙑㚜㚥㝢㝼㠘㠨㡰㣃㤢㤤㥔㥚㥥㦛㦽㧒㪀㬂㬰㰲㲾㳛㶛㷒㺄㺞㺮㻀㼌㼶㽣䁌䁩䂊䂛䃋䄏䄨䆰䈅䉛䋖䋭䍂䍞䏸䐳䔡䖇䗨䘘䘱䘻䛕䜡䜽䞝䢓䢖䢩䣁䣿䤋䥏䨒䨞䩒䩽"),
   ("Yu", "䫻䬔䮇䮙䰻䱷䲣䴁䵥艈\ufa1e\ufa88\ufa8d\ufabe𠀛𠇐𠊏𠋟𠎳𠏚𠕦𠧇𠫣𠱐𠸹𠽵𡁎𡂊𡇺𡈨𡋬𡑾𡒃𡒊𡔴𡨣𡨿𡬊𡬞𡷎𡻢𡿥𡿯𢊧𢋅"),
   ("Yu ", "\uf9c7\uf9c8\uf9c9\uf9ca\uf9cb\uf9cc\uf9cd\uf9ce\uf9cf\uf9d0"),
   ("Yuan", "㟶㠾㤪㥐㥳㭇㹉㾓䅈䏍䖠䛄䛇䡝䥉䦾䨊䩩䬇䬧䬼䱲䲮䳒䳣茒𠒜𠝳𠩠𡈒𡈓𡈛𡢊𡣬𡯱𡷡𢂱𢆀"),
   ("Yue", "⺝⽈⽉⿕㜧㜰㬦㰛㹊䆕䆢䋐䋤䖃䟑䟠䠯䡇䢁䢲䤦䥃䶳𠏃𠔠𠨲𠩉𠪶𠯲𠾲𠿋𡆦𡆽𡛟𡡕𢁞"), ("Yuk ", "\uf9d1\uf9d2\uf9d3"),
   ("Yul ", "\uf9d8\uf9d9\uf9da\uf9db"), ("Yun", "㚃㚺㛣㜏㞌㟦㩈䆬䇖䉙䚋䞫䢵䤞䨶䩵䪳䲰抣\ufab5𠈤𠚓𠣐𠱳𡅙𡖒𡢘𡲪𡽅"),
   ("Yun ", "\uf9d4\uf9d5\uf9d6\uf9d7"), ("Yung ", "\uf9dc"), ("Za", "㞉㦫䕹䞙䨿䪞偺𠂝𠯗𠷿𠽷𡁕"),
   ("Zaai", "㪰"), ("Zai", "㱰䏁䣬䮨䵧𠎶𡉄𡿧"), ("Zan", "㔆㜺㟛㣅㳫䍼䐶䬤䭕𠼗𡡖𢄤"), ("Zang", "㘸㮜鿇𡁧𡅆𢈜"),
   ("Zao", "㡟㯾㷮䖣䗢䜊䥣䲃栆𠙬𠴵𡌣𡐋𡨗𢄀"), ("Zat", "㑑"), ("Zau", "鿐"), ("Ze", "㖽㟙㣱㳁㳻㺓䇥䕉䕪䯔䰹䶦伬𠟻𠨻𡵗𡸈𡸦𡹨"),
   ("Zen", "㻸"), ("Zeng", "㽪䎖䙢䰝\ufa3f\ufa65\ufa89\ufac1𡡑𡾽"), ("Zeoi", "龨"), ("Zeon", "㑓"),
   ("Zha", "㗬㡸㦋㪥㱜㳐㴙㷢㾴䃎䄍䆛䋾䐒䕢䖳䛽䥷䮜䮢䱹䵙䶥𠍹𠓣𠝚𠢙𠢡𠭯𠯩𠰏𠽣𡎫𡗸𡟢𢄄"), ("Zhai", "㒀㡯㩟䍉䐱䔝𠏰𠑞𠞶𠵠𠷒𡅓𡍥𢋿"),
   ("Zhan", "㔊㜊㞡㟞㠭㣶㮵㺘㻵䁪䁴䆄䋎䎒䗃䘺䟋䡀䦓䩅䩆䩇䪌䱠䱳䱼䶨龪𠌲𠟉𠟧𡁳𡅹𡓦𡕁𡭞𡽻𢅺𢈽"), ("Zhang", "⻑⻓⾧㙣㽴䛫幥粀鏱\ufa94𠅹𠫝𡈠𡑄𡚹"),
   ("Zhao", "⺤⺥⽖㑿㕚㡽㷖㷹䃍䈃䈇䍜䍮䑲䝖䞴罀\ufa49𠕖𠕭𠟅𠠄𠻥𡖎𡱜𢁬"),
   ("Zhe", "㞏㡇㢎㪿㭙㭯㯙㯰㸙㸞䂞䇽䊞䎲䏳䐑䐲䓆䗪䜆䝃䝕䠦䩾䮰䵭乽\ufa5b\ufaaa\ufab2𠌮𠚱𠝝𠞃𠯓𠽻𠾀𡂭𡄡𡇠𡘭𡜯𡝊"),
   ("Zhen", "㐱㓄㖘㘰㣀㪛㮳㯢㱽㲀㴨㼉䀕䂦䂧䃌䈯䊶䏖䑐䝩䟴䠴䨯䪴䪾䫬䲴䳲鋴\ufa53\ufacd𠘱𠛶𠠹𠬓𠵧𠸸𡇑𡇖𡈿𡻈"),
   ("Zheng", "㡠㡧㬹㱏㽀䂻䆸䇰䈣䋊䋫䍵䡕䥌䥭䦛䦶䱢𠏫𠑅𠔻𠲜𡪺𢁿"),
   ("Zhi", "⼡⽀⽌⾄⾘⿋㕄㗌㗧㘉㙷㛿㜱㜼㝂㡳㡶㣥㥀㨁㨖㩼㫑㮹㯄㲍㲛㴛㴯㸟㽻㿃䄺䅩䆈䇛䇧䉅䉜䎺䏯䐈䐭䑇䓋䓌䓜䓡䕌䘭䚦䚳䛗䝰䝷䞃䞠䟈䟡䡹䣽䤠䥍䦯䧴䩢䬹䭁䱃䱥䲀䳅䵂䵹俧徔鸱"),
   ("Zhi", "\ufa4d\ufaa8𠊤𠊷𠋤𠍜𠓶𠘖𠚅𠦧𠮡𠰅𠼠𡀹𡁉𡂒𡂣𡈊𡌴𡍶𡏀𡏚𡑘𡖧𡖻𡙑𡠗𡠹𡮞𡰹𡱔𡸜𡽆𢃜𢄢𢄱𢅁𢇨𢊁"),
   ("Zhong", "㣫㲴㹣䇗䈺䝦䱰\ufa10\ufa7c𠊥𠛀𠱧𡖌𡥿𡰒𡻑𢁷𢃭"), ("Zhou", "⾈㑇㑳㛩㤘㥮㨄㫶㼙㾭䈙䋓䎇䎻䑼䓟䖞䛆䧓䩜䶇炿𠊣𠚴𠣘𠤍𠱙𡀑𡊡𢃸"),
   ("Zhu", "⺮⼂⽵㑏㔉㝉㤖㦵㧣㫂㵭㶆㹥㺛㾻㿾䃴䇠䇡䇬䌵䍆䎷䐗䐢䕽䘄䘚䘢䝒䝬䟉䠱䡤䣷䥮䪒䬡䭖䮱䰞\ufa16\ufa22\ufa46\ufa48\ufa51\ufa5f"),
   ("Zhu", "\ufa9c\ufaa0\ufaba\ufac6𠧀𠩈𠮌𠰍𠴦𠷅𡎺𡠟𡤗𡧨𡱱𡴅𡸌𡺐𡻌𡻠𢁼"), ("Zhua", "𡎬"),
   ("Zhuan", "䉵䏝䡱䧘磗篹𠊩𠨎𡇰𡢀𡤛𡭇𡰞𢂘"), ("Zhuang", "庒𠌴"), ("Zhui", "⾫㗓㚝㩾㮅㾽䄌䨨䶆𡑻𢊅"), ("Zhun", "㡒"),
   ("Zhuo", "㑁㒂㓸㣿㧳㧻㭬㹿㺟䂐䅵䆯䐁䓬䕴䟾䦃䪼䫎䮓䮕䶂棹窧𠡑𠭴𠿡𡷿𢁁"),
   ("Zi", "⼦⾃㜽㞨㠿㧗㧘㰣㰷㱴㺭㽧㾅㿳䅆䅔䆅䌶䎩䐉䔂䖪䘣䠖䣎䦻䰵崰荢鿊鿵\ufa99𠀢𠂔𠡸𡉗𡗈𡙛𡪒𡸟𡸪"), ("Zing", "㱐䒱"), ("Zo", "䶹"),
   ("Zoi", "㢤㦳"), ("Zong", "㙡㚇㢔㣭㨑㯶㷓㹅䁓䈦䊋䍟䑸䗥䙕䝋䰌潈𠏭𠕌𠡻𠵻𡕰𡞧𡵝"), ("Zou", "⾛㔌㔿㵵㻓䠫龰𠂑"),
   ("Zu", "⻊⾜㞺㰵㵀䔃䖕䚝䯿䱣\ufa50𠻏𡻬𢅪𢉺"), ("Zuan", "㸇䂎䌣䡽䤸䰖𡉺"), ("Zui", "㝡㠑㭰㰎䘒䘹䮔濢𠲋𠾋𠿘𡙭𡡔𡽁𡽛𢈡𢊛"),
   ("Zun", "䔿𠟃𠱜"), ("Zung", "䙂"), ("Zuo", "㑅㘀㘴㝾㤰㭮㵶㸲䋏䎰䔘䝫䞢䞰䟶\ufa4a𠂇𠱯𠹠𡪳𡯨𡹥𢂃"), ("Zyu", "㗟䏭")]

end AtomicCss.Text
