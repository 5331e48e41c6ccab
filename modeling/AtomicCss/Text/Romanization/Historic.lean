/-!
# Letters of alphabets of the past

ASCII spellings of the letters of alphabets that are found in inscriptions and manuscripts:
those of Asia Minor, Italy, Persia and the Caucasus, Gothic, Old Permic, Old Turkic and Old
Hungarian.
-/

set_option autoImplicit false

namespace AtomicCss.Text

/-- The spellings with the letters that have them. -/
def historicSpellings : List (String × String) :=
  [("-5", "𐦽"), ("1", "𐏑𐳺"), ("10", "𐏓𐳼"), ("100", "𐋳𐏕𐧒𐳾"), ("1000", "𐧛𐳿"), ("10000", "𐧤"),
   ("100000", "𐧭"), ("11", "𐦼"), ("2", "𐏒"), ("20", "𐋫𐏔𐧊"), ("200", "𐋴𐧓"), ("2000", "𐧜"),
   ("20000", "𐧥"), ("200000", "𐧮"), ("30", "𐋬𐧋"), ("300", "𐋵𐧔"), ("3000", "𐧝"), ("30000", "𐧦"),
   ("300000", "𐧯"), ("40", "𐋭𐧌"), ("400", "𐋶𐧕"), ("4000", "𐧞"), ("40000", "𐧧"), ("400000", "𐧰"),
   ("5", "𐳻"), ("50", "𐋮𐧍𐳽"), ("500", "𐋷𐧖"), ("5000", "𐧟"), ("50000", "𐧨"), ("500000", "𐧱"),
   ("60", "𐋯𐧎"), ("600", "𐋸𐧗"), ("6000", "𐧠"), ("60000", "𐧩"), ("600000", "𐧲"), ("70", "𐋰𐧏"),
   ("700", "𐋹𐧘"), ("7000", "𐧡"), ("70000", "𐧪"), ("700000", "𐧳"), ("80", "𐋱"), ("800", "𐋺𐧙"),
   ("8000", "𐧢"), ("80000", "𐧫"), ("800000", "𐧴"), ("90", "𐋲𐍁"), ("900", "𐋻𐍊𐧚"), ("9000", "𐧣"),
   ("90000", "𐧬"), ("900000", "𐧵"), ("_", "𐎞𐏐𐬺"), ("A", "𐕰𐲀𐲁"),
   ("a", "𐊀𐊙𐊠𐊧𐌀𐌰𐍐𐍶𐎀𐎠𐔀𐔰𐖗𐤠𐤵𐦀𐦠𐬀𐬁𐬂𐬃𐬄𐬅𐰀𐰁𐰂𐳀𐳁"), ("B", "𐕱𐕲𐲂"), ("b", "𐊂𐊃𐊩𐌁𐌱𐍑𐎁𐔁𐔱𐖘𐖙𐤡𐦆𐦇𐦦𐬠𐰉𐰊𐰋𐰌𐳂"),
   ("ba", "𐎲"), ("bash", "𐱈"), ("BG", "𐏎"), ("bh", "𐬡"), ("BU", "𐏏"), ("C", "𐕳𐲄"),
   ("c", "𐌂𐌜𐍤𐍭𐔂𐔹𐕂𐕉𐕊𐕋𐕖𐕠𐖚𐤹𐬗𐰱𐰲𐰳𐳄"), ("c-", "𐕌𐕟"), ("ca", "𐎨"), ("Ch", "𐕴𐲩"), ("ch", "𐔃𐖛𐳩"),
   ("Cs", "𐲆"), ("cs", "𐳆"), ("D", "𐕵𐲇"), ("d", "𐊅𐊢𐊬𐌃𐌳𐍓𐍷𐎄𐎏𐔄𐔳𐖜𐤣𐦝𐦷𐬛𐰑𐰒𐰓𐳇"), ("d-", "𐕁"),
   ("da", "𐎭"), ("Dh", "𐕶"), ("dh", "𐔆𐖝𐬜"), ("di", "𐎮"), ("du", "𐎯"), ("dz", "𐍘"), ("dzh", "𐍖"),
   ("E", "𐕸𐲉𐲊𐲋"), ("e", "𐊁𐊚𐊺𐋏𐌄𐌴𐍔𐍱𐔇𐔈𐔴𐔶𐖟𐤤𐤶𐦁𐦡𐬆𐬇𐬈𐬉𐰅𐳉𐳊𐳋"), ("Ei", "𐕷"), ("ei", "𐖞"), ("F", "𐕹𐲌"),
   ("f", "𐌚𐍆𐍫𐔉𐕔𐖠𐤱𐬟𐳌"), ("fa", "𐎳"), ("G", "𐕺𐲍"), ("g", "𐊄𐋀𐋁𐌲𐍒𐎂𐎙𐔊𐔲𐕘𐖡𐤢𐬔𐬕𐰍𐰎𐰏𐰐𐳍"), ("ga", "𐎥"),
   ("gh", "𐔥𐔦𐬖"), ("gj", "𐔋"), ("gu", "𐎦"), ("Gy", "𐲎"), ("gy", "𐳎"), ("H", "𐕼𐕽𐲏"),
   ("h", "𐊛𐌇𐌷𐎃𐎅𐎈𐔌𐕆𐖣𐖤𐦒𐦮𐬵𐳏"), ("ha", "𐏃"), ("hw", "𐍈"), ("I", "𐌠𐕾𐲐𐲑"),
   ("i", "𐊆𐊹𐋅𐌉𐌝𐌹𐍙𐎛𐎡𐔍𐔼𐖥𐤦𐦂𐦢𐬌𐬍𐰃𐰄𐳐𐳑"), ("ie", "𐍲"), ("Ij", "𐕿"), ("ij", "𐖦"), ("IMN", "𐦿"),
   ("J", "𐖀𐲒"), ("j", "𐌾𐔎𐕃𐕑𐕕𐖧𐬘𐳒"), ("j-", "𐕏"), ("ja", "𐍴𐍵𐎩"), ("ji", "𐎪"), ("ju", "𐍳"),
   ("K", "𐖁𐲓𐲔"), ("k", "𐊋𐊔𐊼𐊽𐋠𐌊𐌺𐍚𐎋𐔏𐕄𐕣𐖨𐤨𐦖𐦲𐬐𐰚𐰛𐰜𐰝𐳓𐳔"), ("ka", "𐎣"), ("kh", "𐌙𐍬𐔧"), ("ku", "𐎤"),
   ("L", "𐌣𐖂𐲖"), ("l", "𐊍𐊣𐊦𐋎𐌋𐌻𐍛𐎍𐔐𐔾𐖩𐤩𐤷𐦐𐦬𐬮𐰞𐰟𐰠𐳖"), ("l-", "𐕅"), ("la", "𐎾"), ("Ll", "𐖃"),
   ("ll", "𐔑𐖪"), ("lt", "𐰡"), ("Ly", "𐲗"), ("ly", "𐳗"), ("M", "𐖄𐲘"), ("m", "𐊎𐊐𐊪𐌌𐌼𐍜𐎎𐔒𐖫𐤪𐦉𐦨𐬨𐬩𐰢𐳘"),
   ("ma", "𐎶"), ("Mb", "𐲃"), ("mb", "𐋊𐋋𐋌𐋍𐳃"), ("mi", "𐎷"), ("Mp", "𐲡"), ("mp", "𐳡"), ("mu", "𐎸"),
   ("N", "𐖅𐲙"), ("n", "𐊏𐊑𐊳𐊵𐌍𐌽𐍝𐍹𐎐𐔓𐔔𐕎𐖬𐤫𐤸𐦊𐦋𐦩𐬥𐬧𐰣𐰤𐰥𐳙"), ("n-", "𐔿𐬦"), ("na", "𐎴"), ("Nc", "𐲅"),
   ("nc", "𐰨𐰩𐳅"), ("Nd", "𐲈"), ("nd", "𐊾𐔅𐳈"), ("ne", "𐦌𐦍𐦪"), ("ng", "𐋄𐬢𐰬𐰭𐰮"), ("ng-", "𐬣"),
   ("ngv", "𐬤"), ("Nj", "𐖆"), ("nj", "𐔕𐖭"), ("Nk", "𐲕"), ("nk", "𐳕"), ("Nt", "𐲧"), ("nt", "𐰦𐰧𐳧"),
   ("nu", "𐎵"), ("Ny", "𐲚"), ("ny", "𐰪𐰫𐳚"), ("O", "𐖇𐲛𐲜𐲝𐲞𐲟"), ("o", "𐊫𐌏𐍉𐍞𐍩𐍪𐔖𐕈𐕒𐖮𐤬𐦃𐦣𐬊𐬋𐰆𐰇𐰈𐳛𐳜𐳝𐳞𐳟"),
   ("ot", "𐱇"), ("P", "𐖈𐲠"), ("p", "𐊓𐊡𐊷𐌐𐍀𐍟𐎔𐔗𐕗𐕢𐖯𐦈𐦧𐬞𐰯𐰰𐳠"), ("pa", "𐎱"), ("ph", "𐌘"), ("Q", "𐖉"),
   ("q", "𐊌𐊨𐌒𐌵𐎖𐔘𐕍𐖰𐤲𐦗𐦳𐰴𐰵𐰶𐰷𐰸𐰹"), ("R", "𐖊𐲢𐲣"), ("r", "𐊕𐊥𐋉𐌓𐌛𐍂𐍠𐎗𐔙𐕙𐖱𐤭𐦎𐦏𐦫𐬭𐰺𐰻𐰼𐳢𐳣"), ("ra", "𐎼"),
   ("RMT", "𐦾"), ("rr", "𐔚"), ("ru", "𐎽"), ("S", "𐖌𐲤"), ("s", "𐊖𐊰𐊸𐌔𐌟𐍃𐍡𐍺𐎌𐎒𐎕𐎝𐔛𐔽𐕐𐕚𐕝𐖳𐤮𐤳𐦓𐦔𐦯𐦰𐬯𐰽𐰾𐳤"),
   ("sa", "𐎿𐏂"), ("se", "𐦕𐦱"), ("Sh", "𐖍"), ("sh", "𐊮𐊯𐌎𐌑𐍥𐔜𐖴𐬱𐬴𐰿𐱀𐱁𐱂"), ("sh-", "𐬳"), ("sha", "𐏁"),
   ("shch", "𐍦"), ("Sz", "𐲥"), ("sz", "𐳥"), ("T", "𐖎𐲦"), ("t", "𐊗𐊘𐊭𐊶𐋇𐌕𐌯𐍄𐍢𐎉𐎘𐎚𐔝𐔸𐕜𐖵𐤯𐤴𐦘𐦙𐦴𐬙𐬝𐱃𐱄𐱅𐱆𐳦"),
   ("t-", "𐕓"), ("ta", "𐎫"), ("te", "𐦚𐦛𐦵"), ("Th", "𐖏"), ("th", "𐊉𐌈𐌸𐔞𐖶𐬚"), ("tha", "𐎰"),
   ("to", "𐦜𐦶"), ("Tprus", "𐲱"), ("tprus", "𐳱"), ("ts", "𐌮"), ("tu", "𐎬"), ("Ty", "𐲨"),
   ("ty", "𐳨"), ("U", "𐖐𐲪𐲫𐲬𐲭"), ("u", "𐊒𐊲𐌖𐌞𐌿𐍣𐎜𐎢𐔟𐕞𐖷𐤰𐬎𐬏𐳪𐳫𐳬𐳭"), ("Us", "𐲲"), ("us", "𐳲"),
   ("V", "𐌡𐖑𐲮"), ("v", "𐌅𐍮𐔠𐕛𐖸𐤥𐬬𐳮"), ("va", "𐎺"), ("vi", "𐎻"), ("w", "𐊇𐊿𐍅𐎆𐦅𐦥"), ("X", "𐌢𐖒"),
   ("x", "𐊜𐊴𐌗𐍇𐔡𐕀𐕇𐖹𐦑𐦭𐬑"), ("x-", "𐬒"), ("xa", "𐎧"), ("XS", "𐏋"), ("xv", "𐬓"), ("Y", "𐖔"),
   ("y", "𐊊𐊤𐊻𐋈𐋐𐌭𐍧𐍨𐎊𐔢𐔺𐕡𐖻𐤧𐦄𐦤𐬪𐬫𐰖𐰗𐰘𐰙"), ("ya", "𐎹"), ("Z", "𐖕𐲯"), ("z", "𐊈𐋂𐋃𐌆𐌶𐍗𐍸𐎇𐎑𐔣𐔵𐔷𐔻𐖼𐬰𐰔𐰕𐳯"),
   ("za", "𐏀"), ("zh", "𐍕𐔤𐬲"), ("Zs", "𐲰"), ("zs", "𐳰")]

end AtomicCss.Text
