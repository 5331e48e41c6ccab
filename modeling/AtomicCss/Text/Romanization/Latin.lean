/-!
# Latin letters

ASCII spellings of Latin letters: letters with marks lose them, ligatures come apart, and
letters of phonetic scripts are spelled by their nearest sound. Letters in other shapes,
wide ones and those of mathematics, are spelled as themselves.
-/

set_option autoImplicit false

namespace AtomicCss.Text

/-- The spellings with the letters that have them. -/
def latinSpellings : List (String × String) :=
  [("!", "ǃ"), ("\"", "ʺ˝ˮ"), ("'", "ʹʼʿˈ˓ᴤᴥᵜ"), ("''", "˶"), ("'n", "ŉ"), ("+", "˖"),
   (",", "ˌ˛"), ("-", "ˉ˗˪˫˹˺˽\u1dd0\u1dd1\u1dd2\u1dfa"), (".", "ˑ˙"), ("/", "ˊˏ"), ("1", "˩"),
   ("2", "Ƨƨƻ˨"), ("3", "Ǝ˧Ꜫꜫ"), ("4", "˦Ꜭꜭ"), ("4-", "Ꜯꜯ"), ("5", "Ƽƽ˥"), ("6", "Ƅƅ"),
   (":", "ː˸"), ("<", "˂˱˿"), ("=", "˭"), (">", "˃˲"), ("?", "Ɂɂʔʕʖʡʢˀˁˤ"), ("@", "Əǝəɚʘ˚"),
   ("\\", "ˋˎ"), ("]]", "ʭ"), ("^", "Ʌʌ˄ˆ˔˰"), ("_", "ˍ˾"), ("_|", "˼"), ("`", "ʻʽʾ˒˴"),
   ("``", "˵"), ("A", "ÀÁÂÃÄÅĀĂĄǍǞǠǺȀȂȦȺᴬḀẠẢẤẦẨẪẬẮẰẲẴẶⱭⱯⱰꞺＡ𜳖𝐀𝐴𝑨𝒜𝓐𝔄𝔸𝕬𝖠𝗔𝘈𝘼𝙰"),
   ("a", "ªàáâãäåāăąǎǟǡǻȁȃȧɐɑɒ\u0363ᴀᵃᵄᵅᶏᶐᶛᶺ\u1dd3\u1de7\u1df2ḁẚạảấầẩẫậắằẳẵặⱥꞻꬰꭤａ𝐚𝑎𝒂𝒶𝓪𝔞𝕒𝖆𝖺𝗮𝘢𝙖"),
   ("a", "𝚊"), ("Aa", "Ꜳ"), ("aa", "ꜳ𐞀"), ("AE", "ÆǢǼ"), ("Ae", "ᴭꞚ"), ("ae", "æǣǽᴁᴂᵆ\u1dd4ꞛꬱ𐞃"),
   ("Ao", "Ꜵ"), ("ao", "\u1dd5ꜵ"), ("Au", "Ꜷ"), ("au", "ꜷ"), ("Av", "ꜸꜺ"), ("av", "\u1dd6ꜹꜻ"),
   ("Ay", "Ꜽ"), ("ay", "ꜽ"), ("B", "ƁƂɃʙᴮᴯḂḄḆꞖꞴＢ𜳗𝐁𝐵𝑩𝓑𝔅𝔹𝕭𝖡𝗕𝘉𝘽𝙱"),
   ("b", "ƀƃɓᴃᵇᵬᶀ\u1de8\u1de9ḃḅḇꞗꞵｂ𐞄𐞅𝐛𝑏𝒃𝒷𝓫𝔟𝕓𝖇𝖻𝗯𝘣𝙗𝚋"), ("C", "ÇĆĈĊČƇȻʗḈꞒꟄꟲＣ𜳘𝐂𝐶𝑪𝒞𝓒𝕮𝖢𝗖𝘊𝘾𝙲"),
   ("c", "çćĉċčƈȼɕ\u0368ᴄᶜᶝ\u1dd7ḉꞓꞔｃ𐞶𝐜𝑐𝒄𝒸𝓬𝔠𝕔𝖈𝖼𝗰𝘤𝙘𝚌𝼝"), ("C-", "Ꜿ"), ("c-", "ꜿ"), ("ch", "ᵡᵪ"),
   ("Con", "Ꝯ"), ("con", "ꝯ"), ("D", "ÐĎĐƉƊƋᴰḊḌḎḐḒꝹꟇＤ𜳙𝐃𝐷𝑫𝒟𝓓𝔇𝔻𝕯𝖣𝗗𝘋𝘿𝙳"),
   ("d", "ðďđƌƍȡɖɗ\u0369ᴅᴆᵈᵟᵭᶁᶑᶞ\u1dd8\u1dd9ḋḍḏḑḓẟꝺꟈｄ𐞋𐞌𐞍𝐝𝑑𝒅𝒹𝓭𝔡𝕕𝖉𝖽𝗱𝘥𝙙𝚍𝼥"), ("d-", "ꝱ"),
   ("db", "ȸ"), ("DZ", "ǄǱ"), ("Dz", "ǅǲ"), ("dZ", "ʤ"), ("dz", "ǆǳʣʥꭦ𐞇𐞈𐞉"), ("dzh", "𐞊𝼒𝼙"),
   ("E", "ÈÉÊËĒĔĖĘĚƐȄȆȨɆʚᴱᴲḔḖḘḚḜẸẺẼẾỀỂỄỆꞫＥ𐞎𜳚𝐄𝐸𝑬𝓔𝔈𝔼𝕰𝖤𝗘𝘌𝙀𝙴"),
   ("e", "èéêëēĕėęěȅȇȩɇɘɛɜɝɞ\u0364ᴇᴈᵉᵊᵋᵌᶒᶓᶔᶕᶟ\u1deaḕḗḙḛḝẹẻẽếềểễệⱸⱻꬲꬳꬴｅ𐞏𝐞𝑒𝒆𝓮𝔢𝕖𝖊𝖾𝗲𝘦𝙚𝚎"),
   ("Et", "Ꝫ"), ("et", "ꝫ"), ("F", "ƑɸḞꝻꞘꟳꟻＦ𜳛𝐅𝐹𝑭𝓕𝔉𝔽𝕱𝖥𝗙𝘍𝙁𝙵"),
   ("f", "ƒᵠᵩᵮᶂᶠᶲ\u1debḟⱷꜰꝼꞙꬵｆ𝐟𝑓𝒇𝒻𝓯𝔣𝕗𝖋𝖿𝗳𝘧𝙛𝚏"), ("ff", "ﬀ"), ("ffi", "ﬃ"), ("ffl", "ﬄ"),
   ("fi", "ﬁ"), ("fl", "ﬂ"), ("fN", "ʩ"), ("fn", "𐞐𝼀"),
   ("G", "ĜĞĠĢƓƔǤǦǴʛˠᴳḠꝽꞠꞬꟐＧ𜳜𝐆𝐺𝑮𝒢𝓖𝔊𝔾𝕲𝖦𝗚𝘎𝙂𝙶"),
   ("g", "ĝğġģǥǧǵɠɡɢɣᴦᵍᵞᵧᵷᵹᶃᶢ\u1dda\u1ddbḡꞡꟑꬶｇ𐞒𐞓𐞔𝐠𝑔𝒈𝓰𝔤𝕘𝖌𝗀𝗴𝘨𝙜𝚐𝼁𝼂"),
   ("H", "ĤĦȞʜᴴḢḤḦḨḪⱧⱵꜦꞪꟵꟸＨ𜳝𝐇𝐻𝑯𝓗𝕳𝖧𝗛𝘏𝙃𝙷"), ("h", "ĥħȟɦɧʮʯʰʱ\u036aḣḥḧḩḫẖⱨⱶꜧꞕꟶꭜｈ𐞕𐞖𐞗𝐡𝒉𝒽𝓱𝔥𝕙𝖍𝗁𝗵𝘩𝙝𝚑"),
   ("HV", "Ƕ"), ("hv", "ƕ"), ("I", "ÌÍÎÏĨĪĬĮİƖƗǏȈȊɪᴵḬḮỈỊꞮꞼꟾＩ𜳞𝐈𝐼𝑰𝓘𝕀𝕴𝖨𝗜𝘐𝙄𝙸"),
   ("i", "ìíîïĩīĭįıǐȉȋɨɩ\u0365ᴉᵎᵢᵻᵼᶖᶤᶥᶦᶧḭḯỉịꞽꟷｉ𝐢𝑖𝒊𝒾𝓲𝔦𝕚𝖎𝗂𝗶𝘪𝙞𝚒𝚤𝼚"), ("ia", "ꭠ"), ("ie", "ꭡ"),
   ("IJ", "Ĳ"), ("ij", "ĳ"), ("J", "ĴɈᴶꞲＪ𜳟𝐉𝐽𝑱𝒥𝓙𝔍𝕁𝕵𝖩𝗝𝘑𝙅𝙹"), ("j", "ĵǰȷɉɟʄʝʲᴊᶡᶨⱼｊ𐞘𝐣𝑗𝒋𝒿𝓳𝔧𝕛𝖏𝗃𝗷𝘫𝙟𝚓𝚥"),
   ("K", "ĶƘǨᴷḰḲḴⱩꞢꞰＫ𜳠𝐊𝐾𝑲𝒦𝓚𝔎𝕂𝕶𝖪𝗞𝘒𝙆𝙺"), ("k", "ķĸƙǩʞᴋᵏᶄ\u1ddcḱḳḵⱪꞣｋ𝐤𝑘𝒌𝓀𝓴𝔨𝕜𝖐𝗄𝗸𝘬𝙠𝚔𝼃𝼐"),
   ("K-", "ꝀꝂꝄ"), ("k-", "ꝁꝃꝅ"), ("L", "ĹĻĽĿŁȽʟᴸḶḸḺḼⱠⱢꝆꞀꞭＬ𜳡𝐋𝐿𝑳𝓛𝔏𝕃𝕷𝖫𝗟𝘓𝙇𝙻"),
   ("l", "ĺļľŀłƚƛȴɫɬɭˡᴌᴧᴫᶅᶩᶪᶫ\u1ddd\u1dde\u1decḷḹḻḽⱡꝇꞁꞎꬷꬸꬹꭝꭞｌ𐞛𐞜𐞝𝐥𝑙𝒍𝓁𝓵𝔩𝕝𝖑𝗅𝗹𝘭𝙡𝚕𝼄𝼑𝼓𝼦"), ("L-", "Ꝉ"),
   ("l-", "ꝉꝲ"), ("LJ", "Ǉ"), ("Lj", "ǈ"), ("lj", "ǉ"), ("LL", "Ỻ"), ("ll", "ỻ"), ("ls", "ʪ𐞙"),
   ("lZ", "ɮ"), ("lz", "ʫ𐞚"), ("lzh", "𐞞𐞟𝼅"), ("M", "ᴹḾṀṂⱮꟽꟿＭ𜳢𝐌𝑀𝑴𝓜𝔐𝕄𝕸𝖬𝗠𝘔𝙈𝙼"),
   ("m", "ɱ\u036bᴍᵐᵯᶆᶬ\u1ddfḿṁṃꟺꬺｍ𝐦𝑚𝒎𝓂𝓶𝔪𝕞𝖒𝗆𝗺𝘮𝙢𝚖"), ("m-", "ꝳ"),
   ("N", "ÑŃŅŇƝǸȠᴺᴻṄṆṈṊꞐꞤＮ𜳣𝐍𝑁𝑵𝒩𝓝𝔑𝕹𝖭𝗡𝘕𝙉𝙽"),
   ("n", "ñńņňƞǹȵɲɳɴᴎᵰᵸᶇᶮᶯᶰ\u1de0\u1de1ṅṇṉṋꞑꞥꬻｎ𝐧𝑛𝒏𝓃𝓷𝔫𝕟𝖓𝗇𝗻𝘯𝙣𝚗𝼧"), ("n-", "ꝴ"), ("NG", "ŋ"),
   ("Ng", "Ꝿ"), ("ng", "Ŋᵑꝿꬼ𝼇𝼔"), ("NJ", "Ǌ"), ("Nj", "ǋ"), ("nj", "ǌ"),
   ("O", "ÒÓÔÕÖØŌŎŐƆƟƠǑǪǬǾȌȎȪȬȮȰɷᴼṌṎṐṒỌỎỐỒỔỖỘỚỜỞỠỢꝌꞶꟀＯ𜳤𝐎𝑂𝑶𝒪𝓞𝔒𝕆𝕺𝖮𝗢𝘖𝙊𝙾"),
   ("o", "ºòóôõöøōŏőơǒǫǭǿȍȏȫȭȯȱɔɵ˳\u0366ᴏᴐᴑᴒᴓᴖᴗᵒᵓᵔᵕᶗᶱ\u1ded\u1df3ṍṏṑṓọỏốồổỗộớờởỡợⱺꝍꞷꟁꬽꬾꬿꭥｏ𐞢𐞤𝐨"),
   ("o", "𝑜𝒐𝓸𝔬𝕠𝖔𝗈𝗼𝘰𝙤𝚘𝼛"), ("O-", "Ꝋ"), ("o-", "ꝋ"), ("OE", "Œɶ"), ("Oe", "Ꞝ"),
   ("oe", "œᴔꞝꟹꭀꭁꭂꭢ𐞣"), ("OI", "Ƣ"), ("oi", "ƣ"), ("Oo", "Ꝏ"), ("oo", "ꝏꭃꭄ"), ("OU", "Ȣ"),
   ("Ou", "ᴽ"), ("ou", "ȣᴕ"), ("P", "ƤᴾṔṖⱣꟼＰ𜳥𝐏𝑃𝑷𝒫𝓟𝔓𝕻𝖯𝗣𝘗𝙋𝙿"),
   ("p", "ƥᴘᴨᵖᵱᵽᶈ\u1deeṕṗｐ𝐩𝑝𝒑𝓅𝓹𝔭𝕡𝖕𝗉𝗽𝘱𝙥𝚙"), ("P-", "ꝐꝒꝔ"), ("p-", "ꝑꝓꝕ"), ("ps", "ᴪ"),
   ("Q", "ꟴＱ𜳦𝐐𝑄𝑸𝒬𝓠𝔔𝕼𝖰𝗤𝘘𝙌𝚀"), ("q", "Ɋɋʠꞯｑ𐞥𐞹𝐪𝑞𝒒𝓆𝓺𝔮𝕢𝖖𝗊𝗾𝘲𝙦𝚚𝼊"), ("Q-", "ꝖꝘ"), ("q-", "ꝗꝙ"),
   ("qc", "𐞸𝼋𝼌"), ("qp", "ȹ"), ("R", "ŔŖŘȐȒɌʀʁ˞ᴿṘṚṜṞⱤꝚꝜꞂꞦＲ𜳧𝐑𝑅𝑹𝓡𝕽𝖱𝗥𝘙𝙍𝚁"),
   ("r", "ŕŗřȑȓɍɹɺɻɼɽɾɿʳʴʵʶ\u036cᴙᴚᴩᵣᵨᵲᵳᶉ\u1dca\u1de2\u1de3ṙṛṝṟⱹꝛꝝꝵꝶꞃꞧꭅꭆꭇꭉꭋꭌꭨｒ𐞦𐞧𐞨𐞩𐞪𝐫𝑟𝒓𝓇𝓻𝔯𝕣𝖗𝗋𝗿"),
   ("r", "𝘳𝙧𝚛𝼈𝼕𝼖𝼨"), ("rr", "ꭈꭊ"), ("S", "ŚŜŞŠȘʃʅʆṠṢṤṦṨⱾꝬꞄꞨꟅꟉꟖꟘＳ𜳨𝐒𝑆𝑺𝒮𝓢𝔖𝕊𝕾𝖲𝗦𝘚𝙎𝚂"),
   ("s", "śŝşšſșȿʂˢᵴᶊᶳ\u1de4\u1de5ṡṣṥṧṩẛẜẝꜱꝭꞅꞩꟊꟗꟙｓ𐞺𝐬𝑠𝒔𝓈𝓼𝔰𝕤𝖘𝗌𝘀𝘴𝙨𝚜𝼞𝼩"), ("SH", "Ʃ"),
   ("sh", "ƪᶋᶘᶴ\u1defꭍ"), ("Ss", "ẞ"), ("ss", "ß"), ("st", "ﬅﬆ"),
   ("T", "ŢŤŦƬƮȚȾᵀṪṬṮṰꞆꞱＴ𜳩𝐓𝑇𝑻𝒯𝓣𝔗𝕋𝕿𝖳𝗧𝘛𝙏𝚃"), ("t", "ţťŧƫƭțȶʇʈ\u036dᴛᵗᵵᶵṫṭṯṱẗⱦꞇｔ𐞯𝐭𝑡𝒕𝓉𝓽𝔱𝕥𝖙𝗍𝘁𝘵𝙩𝚝𝼉𝼍𝼪"),
   ("t-", "ꝷ"), ("tC", "ʨ"), ("Th", "Þ"), ("th", "þᵺᶿꟓ"), ("Th-", "ꝤꝦ"), ("th-", "ꝥꝧ"),
   ("tS", "ʧ"), ("ts", "ƾʦꭧ𐞫𐞬𐞭"), ("tsh", "𐞮𝼗𝼜"), ("Tz", "Ꜩ"), ("tz", "ꜩ"),
   ("U", "ÙÚÛÜŨŪŬŮŰŲƯǓǕǗǙǛȔȖɄʊᵁṲṴṶṸṺỤỦỨỪỬỮỰꞸꞾＵ𜳪𝐔𝑈𝑼𝒰𝓤𝔘𝕌𝖀𝖴𝗨𝘜𝙐𝚄"),
   ("u", "µùúûüũūŭůűųưǔǖǘǚǜȕȗɤʉ\u0367ᴜᴝᴞᵘᵙᵤᵾᵿᶙᶶᶷᶸ\u1df0\u1df4ṳṵṷṹṻụủứừửữựꞹꞿꭎꭏꭒꭟｕ𐞑𝐮𝑢𝒖𝓊𝓾𝔲𝕦𝖚𝗎𝘂𝘶𝙪"),
   ("u", "𝚞"), ("u-", "ꝸ"), ("Ue", "Ꞟ"), ("ue", "ᵫꞟ"), ("ui", "ꭐꭑ"), ("uo", "ꭣ"),
   ("V", "Ʋ˅ˇ˕˘ˬ˯ṼṾỼⱽꝨＶ𜳫𝐕𝑉𝑽𝒱𝓥𝔙𝕍𝖁𝖵𝗩𝘝𝙑𝚅"), ("v", "ʋ\u036eᴠᵛᵝᵥᵦᶌᶹṽṿỽⱱⱴꝩｖ𐞰𝐯𝑣𝒗𝓋𝓿𝔳𝕧𝖛𝗏𝘃𝘷𝙫𝚟"),
   ("V-", "Ꝟ"), ("v-", "ꝟ"), ("Vy", "Ꝡ"), ("vy", "ꝡ"), ("W", "ŴƜǷɯɰᵂẀẂẄẆẈⱲꟂＷ𜳬𝐖𝑊𝑾𝒲𝓦𝔚𝕎𝖂𝖶𝗪𝘞𝙒𝚆"),
   ("w", "ŵƿʍʷᴟᴡᵚᶭ\u1df1ẁẃẅẇẉẘⱳꟃꟕꭩｗ𝐰𝑤𝒘𝓌𝔀𝔴𝕨𝖜𝗐𝘄𝘸𝙬𝚠"), ("WW", "ʬ"), ("X", "˟ẊẌꞳＸ𜳭𝐗𝑋𝑿𝒳𝓧𝔛𝕏𝖃𝖷𝗫𝘟𝙓𝚇"),
   ("x", "ˣ\u036fᶍẋẍꭓꭔꭕꭖꭗꭘꭙｘ𝐱𝑥𝒙𝓍𝔁𝔵𝕩𝖝𝗑𝘅𝘹𝙭𝚡𝼎"), ("Y", "ÝŶŸƱƳȜȲɎɥʏẎỲỴỶỸỾꞍＹ𜳮𝐘𝑌𝒀𝒴𝓨𝔜𝕐𝖄𝖸𝗬𝘠𝙔𝚈"),
   ("y", "ýÿŷƴȝȳɏʎʸᶣẏẙỳỵỷỹỿꭚｙ𐞠𐞡𐞲𝐲𝑦𝒚𝓎𝔂𝔶𝕪𝖞𝗒𝘆𝘺𝙮𝚢𝼆"), ("YR", "Ʀ"),
   ("Z", "ŹŻŽƵȤʒʓẐẒẔⱫⱿꝢꟆＺ𜳯𝐙𝑍𝒁𝒵𝓩𝖅𝖹𝗭𝘡𝙕𝚉"), ("z", "źżžƶȥɀʐʑᴢᵶᶎᶻᶼᶽ\u1de6ẑẓẕⱬꝣｚ𝐳𝑧𝒛𝓏𝔃𝔷𝕫𝖟𝗓𝘇𝘻𝙯𝚣"),
   ("ZH", "ƷƸǮ"), ("zh", "ƹƺǯᴣᶚᶾ𝼘"), ("|", "ǀ"), ("|=", "ǂ"), ("|_", "˻"), ("||", "ǁ"),
   ("~", "˜˷")]

end AtomicCss.Text
