/-!
# Pictographs

ASCII spellings of pictographs: the name of each. A space ends the name.
-/

set_option autoImplicit false

namespace AtomicCss.Text

/-- The names with the pictographs that have them. -/
def pictographSpellings : List (String × String) :=
  [(" Qala ", "ﷱ"), (" Salla ", "ﷰﷹ"), ("+1 ", "👍"), ("-1 ", "👎"), ("100 ", "💯"), ("1234 ", "🔢"),
   ("1st place medal ", "🥇"), ("2nd place medal ", "🥈"), ("3rd place medal ", "🥉"),
   ("8ball ", "🎱"), ("[S] ", "🄪"), ("a ", "ﱠ"), ("ab ", "🆎"), ("abacus ", "🧮"), ("abc ", "🔤"),
   ("abcd ", "🔡"), ("accept ", "🉑"), ("accordion ", "🪗"), ("adhesive bandage ", "🩹"),
   ("adult ", "🧑"), ("aerial tramway ", "🚡"), ("airplane ", "✈"), ("airplane arriving ", "🛬"),
   ("airplane departure ", "🛫"), ("airplane small ", "🛩"), ("alarm clock ", "⏰"),
   ("alembic ", "⚗"), ("alien ", "👽"), ("alternate oneway left way traffic ", "⛕"),
   ("ambulance ", "🚑"), ("amphora ", "🏺"), ("anatomical heart ", "🫀"), ("anchor ", "⚓"),
   ("angel ", "👼"), ("anger ", "💢"), ("anger right ", "🗯"), ("angry ", "😠"), ("anguished ", "😧"),
   ("ant ", "🐜"), ("apple ", "🍎"), ("aquarius ", "♒"), ("aries ", "♈"),
   ("arrow double down ", "⏬"), ("arrow double up ", "⏫"), ("arrow down small ", "🔽"),
   ("arrow heading down ", "⤵"), ("arrow heading up ", "⤴"), ("arrow up small ", "🔼"),
   ("arrows clockwise ", "🔃"), ("arrows counterclockwise ", "🔄"), ("art ", "🎨"),
   ("articulated lorry ", "🚛"), ("astonished ", "😲"), ("athletic shoe ", "👟"), ("atm ", "🏧"),
   ("atom ", "⚛"), ("auto rickshaw ", "🛺"), ("avocado ", "🥑"), ("axe ", "🪓"), ("baby ", "👶"),
   ("baby bottle ", "🍼"), ("baby chick ", "🐤"), ("baby symbol ", "🚼"), ("back ", "🔙"),
   ("bacon ", "🥓"), ("badger ", "🦡"), ("badminton ", "🏸"), ("bagel ", "🥯"),
   ("baggage claim ", "🛄"), ("baguette bread ", "🥖"), ("ballet shoes ", "🩰"), ("balloon ", "🎈"),
   ("ballot box ", "🗳"), ("ballot box with check ", "☑"), ("bamboo ", "🎍"), ("banana ", "🍌"),
   ("banjo ", "🪕"), ("bank ", "🏦"), ("bar chart ", "📊"), ("barber ", "💈"), ("baseball ", "⚾"),
   ("basket ", "🧺"), ("basketball ", "🏀"), ("basketballer ", "⛹"), ("bat ", "🦇"), ("bath ", "🛀"),
   ("bathtub ", "🛁"), ("battery ", "🔋"), ("beach ", "🏖"), ("beach umbrella ", "⛱"),
   ("beans ", "🫘"), ("bear ", "🐻"), ("bearded person ", "🧔"), ("beaver ", "🦫"), ("bed ", "🛏"),
   ("bee ", "🐝"), ("beer ", "🍺"), ("beers ", "🍻"), ("beetle ", "🐞🪲"), ("beginner ", "🔰"),
   ("bell ", "🔔"), ("bell pepper ", "🫑"), ("bellhop ", "🛎"), ("bento ", "🍱"),
   ("beverage box ", "🧃"), ("bicyclist ", "🚴"), ("bike ", "🚲"), ("bikini ", "👙"),
   ("billed cap ", "🧢"), ("biohazard ", "☣"), ("bird ", "🐦"), ("birthday ", "🎂"),
   ("bison ", "🦬"), ("biting lip ", "🫦"), ("black circle ", "⚫"), ("black draughts king ", "⛃"),
   ("black flag ", "⚑🏴"), ("black heart ", "❥🖤"), ("black joker ", "🃏"),
   ("black large square ", "⬛"), ("black nib ", "✒"), ("black pushpin ", "🖈"),
   ("black skull and crossbones ", "🕱"), ("black square button ", "🔲"),
   ("blond haired person ", "👱"), ("blossom ", "🌼"), ("blowfish ", "🐡"), ("blue book ", "📘"),
   ("blue car ", "🚙"), ("blue circle ", "🔵"), ("blue heart ", "💙"), ("blue square ", "🟦"),
   ("blueberries ", "🫐"), ("blush ", "😊"), ("boar ", "🐗"), ("boat ", "⛵"), ("bomb ", "💣"),
   ("bone ", "🦴"), ("book ", "📖🕮"), ("bookmark ", "🔖"), ("bookmark tabs ", "📑"), ("books ", "📚"),
   ("boom ", "💥"), ("boomerang ", "🪃"), ("boot ", "👢"), ("bouquet ", "💐"), ("bow ", "🙇"),
   ("bow and arrow ", "🏹"), ("bowl of hygieia ", "🕏"), ("bowl with spoon ", "🥣"),
   ("bowling ", "🎳"), ("boxing glove ", "🥊"), ("boy ", "👦"), ("brain ", "🧠"), ("bread ", "🍞"),
   ("breast feeding ", "🤱"), ("bricks ", "🧱"), ("bride with veil ", "👰"),
   ("bridge at night ", "🌉"), ("briefcase ", "💼"), ("briefs ", "🩲"), ("broccoli ", "🥦"),
   ("broken heart ", "💔"), ("broom ", "🧹"), ("brown circle ", "🟤"), ("brown heart ", "🤎"),
   ("brown square ", "🟫"), ("bubble tea ", "🧋"), ("bubbles ", "🫧"), ("bucket ", "🪣"),
   ("bug ", "🐛"), ("bulb ", "💡"), ("bullettrain front ", "🚅"), ("bullettrain side ", "🚄"),
   ("burrito ", "🌯"), ("bus ", "🚌"), ("busstop ", "🚏"), ("bust in silhouette ", "👤"),
   ("busts in silhouette ", "👥"), ("butter ", "🧈"), ("butterfly ", "🦋"), ("cactus ", "🌵"),
   ("cake ", "🍰"), ("calculator ", "🖩"), ("calendar ", "📆🗓"), ("call me hand ", "🤙"),
   ("calling ", "📲"), ("camel ", "🐫"), ("camera ", "📷"), ("camera flash ", "📸"),
   ("camping ", "🏕"), ("cancer ", "♋"), ("candle ", "🕯"), ("candy ", "🍬"), ("canned food ", "🥫"),
   ("canoe ", "🛶"), ("capital abcd ", "🔠"), ("capricorn ", "♑"), ("car ", "🚗"),
   ("car sliding ", "⛐"), ("card file box ", "🗃"), ("card index ", "📇"),
   ("carousel horse ", "🎠"), ("carpentry saw ", "🪚"), ("carrot ", "🥕"), ("cartwheeling ", "🤸"),
   ("castle ", "⛫"), ("cat ", "🐱"), ("cat2 ", "🐈"), ("cd ", "💿"), ("chains ", "⛓"),
   ("chair ", "🪑"), ("champagne ", "🍾"), ("chart ", "💹"), ("chart with downwards trend ", "📉"),
   ("chart with upwards trend ", "📈"), ("checkered flag ", "🏁"), ("checkmark ", "✔"),
   ("cheese ", "🧀"), ("cherries ", "🍒"), ("cherry blossom ", "🌸"), ("chess pawn ", "♟"),
   ("chestnut ", "🌰"), ("chicken ", "🐔"), ("child ", "🧒"), ("children crossing ", "🚸"),
   ("chipmunk ", "🐿"), ("chocolate bar ", "🍫"), ("chopsticks ", "🥢"), ("christmas tree ", "🎄"),
   ("church ", "⛪"), ("cinema ", "🎦"), ("circled crossing lanes ", "⛒"), ("circus tent ", "🎪"),
   ("city sunset ", "🌆🌇"), ("cityscape ", "🏙"), ("cl ", "🆑"), ("clap ", "👏"), ("clapper ", "🎬"),
   ("classical building ", "🏛"), ("climbing ", "🧗"), ("clinking glasses ", "🥂"),
   ("clipboard ", "📋"), ("clock1 ", "🕐"), ("clock10 ", "🕙"), ("clock1030 ", "🕥"),
   ("clock11 ", "🕚"), ("clock1130 ", "🕦"), ("clock12 ", "🕛"), ("clock1230 ", "🕧"),
   ("clock130 ", "🕜"), ("clock2 ", "🕑"), ("clock230 ", "🕝"), ("clock3 ", "🕒"),
   ("clock330 ", "🕞"), ("clock4 ", "🕓"), ("clock430 ", "🕟"), ("clock5 ", "🕔"),
   ("clock530 ", "🕠"), ("clock6 ", "🕕"), ("clock630 ", "🕡"), ("clock7 ", "🕖"),
   ("clock730 ", "🕢"), ("clock8 ", "🕗"), ("clock830 ", "🕣"), ("clock9 ", "🕘"),
   ("clock930 ", "🕤"), ("closed book ", "📕"), ("closed lock with key ", "🔐"),
   ("closed umbrella ", "🌂"), ("cloud ", "☁"), ("cloud lightning ", "🌩"), ("cloud rain ", "🌧"),
   ("cloud snow ", "🌨"), ("clown face ", "🤡"), ("clubs ", "♣"), ("coat ", "🧥"),
   ("cockroach ", "🪳"), ("cocktail ", "🍸"), ("coconut ", "🥥"), ("coffee ", "☕"),
   ("coffin ", "⚰"), ("coin ", "🪙"), ("cold face ", "🥶"), ("cold sweat ", "😰"), ("comet ", "☄"),
   ("compass ", "🧭"), ("compression ", "🗜"), ("computer ", "💻"), ("computer mouse ", "🖱"),
   ("confetti ball ", "🎊"), ("confounded ", "😖"), ("confused ", "😕"), ("construction ", "🚧"),
   ("construction site ", "🏗"), ("construction worker ", "👷"), ("control knobs ", "🎛"),
   ("convenience store ", "🏪"), ("cookie ", "🍪"), ("cool ", "🆒"), ("cop ", "👮"), ("coral ", "🪸"),
   ("corn ", "🌽"), ("couch and lamp ", "🛋"), ("couple ", "👫"), ("couple with heart ", "💑"),
   ("couplekiss ", "💏"), ("cow ", "🐮"), ("cow2 ", "🐄"), ("cowboy hat face ", "🤠"),
   ("crab ", "🦀"), ("crayon ", "🖍"), ("credit card ", "💳"), ("crescent moon ", "🌙"),
   ("cricket ", "🦗"), ("cricket game ", "🏏"), ("crocodile ", "🐊"), ("croissant ", "🥐"),
   ("cross ", "✝"), ("crossed fingers ", "🤞"), ("crossed flags ", "🎌"), ("crossed swords ", "⚔"),
   ("crown ", "👑"), ("cruise ship ", "🛳"), ("crutch ", "🩼"), ("cry ", "😢"),
   ("crying cat face ", "😿"), ("crystal ball ", "🔮"), ("cucumber ", "🥒"), ("cup ", "⛾"),
   ("cup with straw ", "🥤"), ("cupcake ", "🧁"), ("cupid ", "💘"), ("curling stone ", "🥌"),
   ("curly loop ", "➰"), ("currency exchange ", "💱"), ("curry ", "🍛"), ("cursing face ", "🤬"),
   ("custard ", "🍮"), ("customs ", "🛃"), ("cut of meat ", "🥩"), ("cyclone ", "🌀"),
   ("dagger ", "🗡"), ("dancer ", "💃"), ("dancers ", "👯"), ("dango ", "🍡"),
   ("dark sunglasses ", "🕶"), ("dart ", "🎯"), ("dash ", "💨"), ("date ", "📅"),
   ("deaf person ", "🧏"), ("deciduous tree ", "🌳"), ("deer ", "🦌"), ("department store ", "🏬"),
   ("desert ", "🏜"), ("desktop ", "🖥"), ("desktop window ", "🗔"), ("detective ", "🕵"),
   ("diamond shape with a dot inside ", "💠"), ("diamonds ", "♢♦"), ("disappointed ", "😞"),
   ("disappointed relieved ", "😥"), ("disguised face ", "🥸"), ("dividers ", "🗂"),
   ("diving mask ", "🤿"), ("diya lamp ", "🪔"), ("dizzy ", "💫"), ("dizzy face ", "😵"),
   ("dna ", "🧬"), ("do not litter ", "🚯"), ("document ", "🖹"), ("dodo ", "🦤"), ("dog ", "🐶"),
   ("dog2 ", "🐕"), ("dolls ", "🎎"), ("dolphin ", "🐬"), ("donkey ", "🫏"), ("door ", "🚪"),
   ("dotted line face ", "🫥"), ("doubled female sign ", "⚢"), ("doubled male sign ", "⚣"),
   ("doughnut ", "🍩"), ("dove ", "🕊"), ("dragon ", "🐉"), ("dragon face ", "🐲"), ("dress ", "👗"),
   ("dromedary camel ", "🐪"), ("drooling face ", "🤤"), ("drop of blood ", "🩸"),
   ("droplet ", "💧"), ("drum ", "🥁"), ("duck ", "🦆"), ("dumpling ", "🥟"), ("dvd ", "📀"),
   ("eagle ", "🦅"), ("ear ", "👂"), ("ear of rice ", "🌾"), ("ear with hearing aid ", "🦻"),
   ("earth africa ", "🌍"), ("earth americas ", "🌎"), ("earth asia ", "🌏"), ("egg ", "🥚"),
   ("eggplant ", "🍆"), ("eject ", "⏏"), ("electric plug ", "🔌"), ("elephant ", "🐘"),
   ("elevator ", "🛗"), ("elf ", "🧝"), ("email ", "📧"), ("empty nest ", "🪹"), ("end ", "🔚"),
   ("envelope ", "✉"), ("envelope with arrow ", "📩"), ("euro ", "💶"), ("european castle ", "🏰"),
   ("european post office ", "🏤"), ("evergreen tree ", "🌲"), ("exploding head ", "🤯"),
   ("expressionless ", "😑"), ("eye ", "👁"), ("eyeglasses ", "👓"), ("eyes ", "👀"),
   ("face holding back tears ", "🥹"), ("face with bags under eyes ", "🫩"),
   ("face with diagonal mouth ", "🫤"), ("face with head bandage ", "🤕"),
   ("face with open eyes and hand over mouth ", "🫢"), ("face with peeking eye ", "🫣"),
   ("face with thermometer ", "🤒"), ("facepalm ", "🤦"), ("factory ", "🏭"), ("fairy ", "🧚"),
   ("falafel ", "🧆"), ("fallen leaf ", "🍂"), ("family ", "👪"), ("farsi ", "☫"),
   ("fast forward ", "⏩"), ("fax ", "📠"), ("fearful ", "😨"), ("feather ", "🪶"), ("feet ", "🐾"),
   ("female sign ", "♀"), ("fencer ", "🤺"), ("ferris wheel ", "🎡"), ("ferry ", "⛴"),
   ("field hockey ", "🏑"), ("file cabinet ", "🗄"), ("file folder ", "📁"), ("film frames ", "🎞"),
   ("fingerprint ", "🫆"), ("fire ", "🔥"), ("fire engine ", "🚒"), ("fire extinguisher ", "🧯"),
   ("firecracker ", "🧨"), ("fireworks ", "🎆"), ("first quarter moon ", "🌓"),
   ("first quarter moon with face ", "🌛"), ("fish ", "🐟"), ("fish cake ", "🍥"),
   ("fishing pole and fish ", "🎣"), ("fist ", "✊"), ("fist left ", "🤛"), ("fist right ", "🤜"),
   ("flag white ", "🏳"), ("flags ", "🎏"), ("flamingo ", "🦩"), ("flashlight ", "🔦"),
   ("flat shoe ", "🥿"), ("flatbread ", "🫓"), ("fleur de lis ", "⚜"), ("floppy disk ", "💾"),
   ("flower playing cards ", "🎴"), ("flushed ", "😳"), ("flute ", "🪈"), ("fly ", "🪰"),
   ("flying disc ", "🥏"), ("flying saucer ", "🛸"), ("fog ", "🌫"), ("foggy ", "🌁"),
   ("folding hand fan ", "🪭"), ("fondue ", "🫕"), ("foot ", "🦶"), ("football ", "🏈"),
   ("footprints ", "👣"), ("fork and knife ", "🍴"), ("fork knife plate ", "🍽"),
   ("fortune cookie ", "🥠"), ("fountain ", "⛲"), ("four leaf clover ", "🍀"), ("fox face ", "🦊"),
   ("frame photo ", "🖼"), ("free ", "🆓"), ("fried egg ", "🍳"), ("fried shrimp ", "🍤"),
   ("fries ", "🍟"), ("frog ", "🐸"), ("frowning ", "😦"), ("frowning person ", "🙍"), ("fu ", "🖕"),
   ("fuelpump ", "⛽"), ("full moon ", "🌕"), ("full moon with face ", "🌝"), ("game die ", "🎲"),
   ("garlic ", "🧄"), ("gear ", "⚙"), ("gem ", "💎"), ("gemini ", "♊"), ("genie ", "🧞"),
   ("ghost ", "👻"), ("gift ", "🎁"), ("gift heart ", "💝"), ("ginger root ", "🫚"),
   ("giraffe ", "🦒"), ("girl ", "👧"), ("globe with meridians ", "🌐"), ("gloves ", "🧤"),
   ("goal net ", "🥅"), ("goat ", "🐐"), ("goggles ", "🥽"), ("golf ", "⛳"), ("golfer ", "🏌"),
   ("goose ", "🪿"), ("gorilla ", "🦍"), ("gram ton ", "㌙"), ("grapes ", "🍇"), ("graveyard ", "⛼"),
   ("green apple ", "🍏"), ("green book ", "📗"), ("green circle ", "🟢"), ("green heart ", "💚"),
   ("green salad ", "🥗"), ("green square ", "🟩"), ("grey heart ", "🩶"), ("grimacing ", "😬"),
   ("grin ", "😁"), ("grinning ", "😀"), ("guard ", "💂"), ("guide dog ", "🦮"), ("guitar ", "🎸"),
   ("gun ", "🔫"), ("hair pick ", "🪮"), ("haircut ", "💇"), ("hamburger ", "🍔"), ("hammer ", "🔨"),
   ("hammer pick ", "⚒"), ("hammer sickle ", "☭"), ("hamsa ", "🪬"), ("hamster ", "🐹"),
   ("hand ", "✋"), ("hand over mouth ", "🤭"), ("hand splayed ", "🖐"),
   ("hand with index finger and thumb crossed ", "🫰"), ("handbag ", "👜"), ("handball ", "🤾"),
   ("handshake ", "🤝"), ("harp ", "🪉"), ("hatched chick ", "🐥"), ("hatching chick ", "🐣"),
   ("headphones ", "🎧"), ("headstone ", "🪦"), ("hear no evil ", "🙉"), ("heart decoration ", "💟"),
   ("heart exclamation ", "❣"), ("heart eyes ", "😍"), ("heart eyes cat ", "😻"),
   ("heart hands ", "🫶"), ("heartbeat ", "💓"), ("heartpulse ", "💗"), ("hearts ", "♥"),
   ("hedgehog ", "🦔"), ("helicopter ", "🚁"), ("helmet with cross ", "⛑"), ("herb ", "🌿"),
   ("hibiscus ", "🌺"), ("high brightness ", "🔆"), ("high heel ", "👠"), ("hiking boot ", "🥾"),
   ("hindu temple ", "🛕"), ("hippopotamus ", "🦛"), ("hocho ", "🔪"), ("hole ", "🕳"),
   ("honey pot ", "🍯"), ("hook ", "🪝"), ("horse ", "🐴"), ("horse racing ", "🏇"),
   ("hospital ", "🏥"), ("hot face ", "🥵"), ("hot pepper ", "🌶"), ("hotdog ", "🌭"),
   ("hotel ", "🏨"), ("hotsprings ", "♨"), ("hourglass ", "⌛"), ("hourglass flowing sand ", "⏳"),
   ("house ", "🏠"), ("house abandoned ", "🏚"), ("house with garden ", "🏡"), ("houses ", "🏘"),
   ("hugs ", "🤗"), ("hushed ", "😯"), ("hut ", "🛖"), ("hyacinth ", "🪻"), ("ice cream ", "🍨"),
   ("ice cube ", "🧊"), ("ice hockey ", "🏒"), ("ice skate ", "⛸"), ("icecream ", "🍦"),
   ("id ", "🆔"), ("identification card ", "🪪"), ("ideograph advantage ", "🉐"), ("imp ", "👿"),
   ("inbox tray ", "📥"), ("incoming envelope ", "📨"), ("index pointing at the viewer ", "🫵"),
   ("inf ", "♾"), ("innocent ", "😇"), ("iphone ", "📱"), ("island ", "🏝"),
   ("jack o lantern ", "🎃"), ("japan ", "🗾"), ("japanese castle ", "🏯"),
   ("japanese goblin ", "👺"), ("japanese ogre ", "👹"), ("jar ", "🫙"), ("jeans ", "👖"),
   ("jellyfish ", "🪼"), ("jigsaw ", "🧩"), ("joy ", "😂"), ("joy cat ", "😹"), ("joystick ", "🕹"),
   ("jp bank ", "⛻"), ("juggling ", "🤹"), ("kaaba ", "🕋"), ("kangaroo ", "🦘"), ("key ", "🔑🗝"),
   ("keyboard ", "⌨"), ("keyboard and mouse ", "🖦"), ("keycap ten ", "🔟"), ("khanda ", "🪯"),
   ("kick scooter ", "🛴"), ("kimono ", "👘"), ("kiss ", "💋"), ("kissing ", "😗"),
   ("kissing cat ", "😽"), ("kissing closed eyes ", "😚"), ("kissing heart ", "😘"),
   ("kissing smiling eyes ", "😙"), ("kite ", "🪁"), ("kiwifruit ", "🥝"),
   ("kneeling person ", "🧎"), ("knot ", "🪢"), ("koala ", "🐨"), ("koko ", "🈁"),
   ("lab coat ", "🥼"), ("label ", "🏷"), ("lacrosse ", "🥍"), ("ladder ", "🪜"), ("lantern ", "🏮"),
   ("large blue diamond ", "🔷"), ("large orange diamond ", "🔶"), ("last quarter moon ", "🌗"),
   ("last quarter moon with face ", "🌜"), ("laughing ", "😆"), ("leafless tree ", "🪾"),
   ("leafy green ", "🥬"), ("leaves ", "🍃"), ("ledger ", "📒"), ("left luggage ", "🛅"),
   ("leftwards hand ", "🫲"), ("leftwards pushing hand ", "🫷"), ("leg ", "🦵"), ("lemon ", "🍋"),
   ("leo ", "♌"), ("leopard ", "🐆"), ("level slider ", "🎚"), ("libra ", "♎"),
   ("light blue heart ", "🩵"), ("light rail ", "🚈"), ("link ", "🔗"), ("lion ", "🦁"),
   ("lips ", "👄🗢"), ("lipstick ", "💄"), ("lizard ", "🦎"), ("llama ", "🦙"), ("lobster ", "🦞"),
   ("lock ", "🔒"), ("lock with ink pen ", "🔏"), ("lollipop ", "🍭"), ("long drum ", "🪘"),
   ("loop ", "➿"), ("lotion bottle ", "🧴"), ("lotus ", "🪷"), ("lotus position ", "🧘"),
   ("loud sound ", "🔊"), ("loudspeaker ", "📢"), ("love hotel ", "🏩"), ("love letter ", "💌"),
   ("love you gesture ", "🤟"), ("low battery ", "🪫"), ("low brightness ", "🔅"),
   ("luggage ", "🧳"), ("lungs ", "🫁"), ("lying face ", "🤥"), ("mag ", "🔍"), ("mag right ", "🔎"),
   ("mage ", "🧙"), ("magic wand ", "🪄"), ("magnet ", "🧲"), ("mahjong ", "🀄"), ("mailbox ", "📫"),
   ("mailbox closed ", "📪"), ("mailbox with mail ", "📬"), ("mailbox with no mail ", "📭"),
   ("male sign ", "♂"), ("male sign with stroke ", "⚦"),
   ("male sign with stroke horizontal ", "⚩"), ("male sign with stroke vertical ", "⚨"),
   ("mammoth ", "🦣"), ("man ", "👨"), ("man dancing ", "🕺"), ("man in suit ", "🕴"),
   ("man in tuxedo ", "🤵"), ("man with gua pi mao ", "👲"), ("man with turban ", "👳"),
   ("mango ", "🥭"), ("mantelpiece clock ", "🕰"), ("manual wheelchair ", "🦽"), ("map ", "🗺"),
   ("maple leaf ", "🍁"), ("maracas ", "🪇"), ("martial arts uniform ", "🥋"), ("mask ", "😷"),
   ("massage ", "💆"), ("mate ", "🧉"), ("meat on bone ", "🍖"), ("mechanical arm ", "🦾"),
   ("mechanical leg ", "🦿"), ("medal ", "🏅"), ("medical symbol ", "⚕"), ("mega ", "📣"),
   ("melon ", "🍈"), ("melting face ", "🫠"), ("memo ", "📝"), ("menorah ", "🕎"), ("mens ", "🚹"),
   ("merperson ", "🧜"), ("metal ", "🤘"), ("metro ", "🚇"), ("microbe ", "🦠"),
   ("microphone ", "🎙🎤"), ("microscope ", "🔬"), ("military helmet ", "🪖"),
   ("military medal ", "🎖"), ("milk glass ", "🥛"), ("milky way ", "🌌"), ("minibus ", "🚐"),
   ("minidisc ", "💽"), ("mirror ", "🪞"), ("mirror ball ", "🪩"), ("mobile phone off ", "📴"),
   ("money mouth face ", "🤑"), ("money with wings ", "💸"), ("moneybag ", "💰"), ("monkey ", "🐒"),
   ("monkey face ", "🐵"), ("monocle face ", "🧐"), ("monorail ", "🚝"), ("moon ", "🌔"),
   ("moon cake ", "🥮"), ("moose ", "🫎"), ("mortar board ", "🎓"), ("mosque ", "🕌"),
   ("mosquito ", "🦟"), ("motor scooter ", "🛵"), ("motorboat ", "🛥"), ("motorcycle ", "🏍"),
   ("motorized wheelchair ", "🦼"), ("motorway ", "🛣"), ("mount fuji ", "🗻"), ("mountain ", "⛰"),
   ("mountain bicyclist ", "🚵"), ("mountain cableway ", "🚠"), ("mountain railway ", "🚞"),
   ("mountain snow ", "🏔"), ("mouse ", "🐭"), ("mouse trap ", "🪤"), ("mouse2 ", "🐁"),
   ("movie camera ", "🎥"), ("moyai ", "🗿"), ("mrs claus ", "🤶"), ("muscle ", "💪"),
   ("mushroom ", "🍄"), ("musical keyboard ", "🎹"), ("musical note ", "🎵"),
   ("musical score ", "🎼"), ("mute ", "🔇"), ("nail care ", "💅"), ("name badge ", "📛"),
   ("nauseated face ", "🤢"), ("nazar amulet ", "🧿"), ("necktie ", "👔"),
   ("negative squared cross mark ", "❎"), ("nerd ", "🤓"), ("nest with eggs ", "🪺"),
   ("nesting dolls ", "🪆"), ("networked computers ", "🖧"), ("neutral face ", "😐"), ("new ", "🆕"),
   ("new moon ", "🌑"), ("new moon with face ", "🌚"), ("newspaper ", "📰🗞"), ("ng ", "🆖"),
   ("nib ", "✑"), ("night with stars ", "🌃"), ("ninja ", "🥷"), ("no bell ", "🔕"),
   ("no bicycles ", "🚳"), ("no entry ", "⛔"), ("no entry sign ", "🚫"), ("no good ", "🙅"),
   ("no mobile phones ", "📵"), ("no mouth ", "😶"), ("no pedestrians ", "🚷"), ("no piracy ", "🕲"),
   ("no smoking ", "🚭"), ("non potable water ", "🚱"), ("None ", "🈚"), ("nose ", "👃"),
   ("notebook ", "📓"), ("notebook with decorative cover ", "📔"), ("notepad ", "🗒"),
   ("notes ", "🎶"), ("nut and bolt ", "🔩"), ("o ", "⭕"), ("ocean ", "🌊"), ("octopus ", "🐙"),
   ("oden ", "🍢"), ("off ", "⭘"), ("office ", "🏢"), ("oil ", "🛢"), ("ok ", "🆗"),
   ("ok hand ", "👌"), ("ok hand sign ", "🖏"), ("ok woman ", "🙆"), ("old pc ", "🖳"),
   ("older adult ", "🧓"), ("older man ", "👴"), ("older woman ", "👵"), ("olive ", "🫒"),
   ("om symbol ", "🕉"), ("on ", "⏽🔛"), ("oncoming automobile ", "🚘"), ("oncoming bus ", "🚍"),
   ("oncoming police car ", "🚔"), ("oncoming taxi ", "🚖"), ("one piece swimsuit ", "🩱"),
   ("onion ", "🧅"), ("open file folder ", "📂"), ("open hands ", "👐"), ("open mouth ", "😮"),
   ("ophiuchus ", "⛎"), ("orange ", "🍊"), ("orange book ", "📙"), ("orange circle ", "🟠"),
   ("orange heart ", "🧡"), ("orange square ", "🟧"), ("orangutan ", "🦧"),
   ("orthodox cross ", "☦"), ("otter ", "🦦"), ("outbox tray ", "📤"), ("owl ", "🦉"), ("ox ", "🐂"),
   ("oyster ", "🦪"), ("package ", "📦"), ("page facing up ", "📄"), ("page with curl ", "📃"),
   ("pager ", "📟"), ("paintbrush ", "🖌"), ("palm down hand ", "🫳"), ("palm tree ", "🌴"),
   ("palm up hand ", "🫴"), ("palms up together ", "🤲"), ("pancakes ", "🥞"), ("panda face ", "🐼"),
   ("paperclip ", "📎"), ("paperclips ", "🖇"), ("parachute ", "🪂"), ("park ", "🏞"),
   ("parrot ", "🦜"), ("part alternation mark ", "〽"), ("partly sunny ", "⛅"),
   ("partying face ", "🥳"), ("passport control ", "🛂"), ("pause button ", "⏸"),
   ("pea pod ", "🫛"), ("peace ", "☮"), ("peach ", "🍑"), ("peacock ", "🦚"), ("peanuts ", "🥜"),
   ("pear ", "🍐"), ("pen ", "🖊🖋"), ("pen envelope ", "🖆"), ("pencil ", "✎✏✐🖉"),
   ("penguin ", "🐧"), ("pensive ", "😔"), ("people hugging ", "🫂"), ("performing arts ", "🎭"),
   ("persevere ", "😣"), ("person with crown ", "🫅"), ("petri dish ", "🧫"), ("pick ", "⛏"),
   ("pickup truck ", "🛻"), ("pie ", "🥧"), ("pig ", "🐷"), ("pig nose ", "🐽"), ("pig2 ", "🐖"),
   ("pill ", "💊"), ("pinata ", "🪅"), ("pinched fingers ", "🤌"), ("pinching hand ", "🤏"),
   ("pineapple ", "🍍"), ("ping pong ", "🏓"), ("pink heart ", "🩷"), ("pisces ", "♓"),
   ("pizza ", "🍕"), ("placard ", "🪧"), ("place of worship ", "🛐"), ("play pause ", "⏯"),
   ("playground slide ", "🛝"), ("pleading face ", "🥺"), ("plunger ", "🪠"), ("point down ", "👇"),
   ("point left ", "👈"), ("point right ", "👉"), ("point up 2 ", "👆"), ("police car ", "🚓"),
   ("poodle ", "🐩"), ("poop ", "💩"), ("popcorn ", "🍿"), ("post office ", "🏣"),
   ("postal horn ", "📯"), ("postbox ", "📮"), ("potable water ", "🚰"), ("potato ", "🥔"),
   ("potted plant ", "🪴"), ("pouch ", "👝"), ("poultry leg ", "🍗"), ("pound ", "💷"),
   ("pouring liquid ", "🫗"), ("pouting cat ", "😾"), ("pouting face ", "🙎"), ("power ", "⏻⏼"),
   ("pray ", "🙏"), ("prayer beads ", "📿"), ("pregnant man ", "🫃"), ("pregnant person ", "🫄"),
   ("pregnant woman ", "🤰"), ("pretzel ", "🥨"), ("prince ", "🤴"), ("princess ", "👸"),
   ("printer ", "🖨"), ("probing cane ", "🦯"), ("punch ", "👊"), ("purple circle ", "🟣"),
   ("purple heart ", "💜"), ("purple square ", "🟪"), ("purse ", "👛"), ("pushpin ", "📌"),
   ("put litter in its place ", "🚮"), ("rabbit ", "🐰"), ("rabbit2 ", "🐇"), ("raccoon ", "🦝"),
   ("racecar ", "🏎"), ("racehorse ", "🐎"), ("radio ", "📻"), ("radio button ", "🔘"),
   ("radioactive ", "☢"), ("rage ", "😡"), ("railway car ", "🚃"), ("railway track ", "🛤"),
   ("rain ", "⛆"), ("rainbow ", "🌈"), ("raised back of hand ", "🤚"), ("raised eyebrow ", "🤨"),
   ("raised hands ", "🙌"), ("raising hand ", "🙋"), ("ram ", "🐏"), ("ramen ", "🍜"), ("rat ", "🐀"),
   ("razor ", "🪒"), ("receipt ", "🧾"), ("record button ", "⏺"), ("recycle ", "♻"),
   ("recycled pap ", "♼"), ("recycling ", "♺"), ("red circle ", "🔴"), ("red envelope ", "🧧"),
   ("red square ", "🟥"), ("relieved ", "😌"), ("reminder ribbon ", "🎗"), ("repeat ", "🔁"),
   ("repeat one ", "🔂"), ("restroom ", "🚻"), ("revolving hearts ", "💞"), ("rewind ", "⏪"),
   ("rhinoceros ", "🦏"), ("ribbon ", "🎀"), ("rice ", "🍚"), ("rice ball ", "🍙"),
   ("rice cracker ", "🍘"), ("rice scene ", "🎑"), ("right speaker ", "🕨"),
   ("rightwards hand ", "🫱"), ("rightwards pushing hand ", "🫸"), ("ring ", "💍"),
   ("ring buoy ", "🛟"), ("ringed planet ", "🪐"), ("robot ", "🤖"), ("rock ", "🪨"),
   ("rocket ", "🚀"), ("rofl ", "🤣"), ("roll of paper ", "🧻"), ("roller coaster ", "🎢"),
   ("roller skate ", "🛼"), ("rolling eyes ", "🙄"), ("rooster ", "🐓"), ("root vegetable ", "🫜"),
   ("rose ", "🌹"), ("rosette ", "🏵"), ("rotating light ", "🚨"), ("round pushpin ", "📍"),
   ("rowboat ", "🚣"), ("rugby football ", "🏉"), ("runner ", "🏃"),
   ("running shirt with sash ", "🎽"), ("sa ", "🈂"), ("safety pin ", "🧷"), ("safety vest ", "🦺"),
   ("sagittarius ", "♐"), ("sake ", "🍶"), ("salt ", "🧂"), ("saluting face ", "🫡"),
   ("sandal ", "👡"), ("sandwich ", "🥪"), ("santa ", "🎅"), ("sari ", "🥻"), ("satellite ", "📡"),
   ("satellite orbital ", "🛰"), ("sauna person ", "🧖"), ("sauropod ", "🦕"), ("saxophone ", "🎷"),
   ("scales ", "⚖"), ("scarf ", "🧣"), ("school ", "🏫"), ("school satchel ", "🎒"),
   ("scissors ", "✀✁✂✃✄"), ("scorpion ", "🦂"), ("scorpius ", "♏"), ("scream ", "😱"),
   ("scream cat ", "🙀"), ("screwdriver ", "🪛"), ("scroll ", "📜"), ("seal ", "🦭"), ("seat ", "💺"),
   ("see no evil ", "🙈"), ("seedling ", "🌱"), ("selfie ", "🤳"), ("sesquiquadrate ", "⚼"),
   ("sewing needle ", "🪡"), ("shaking face ", "🫨"), ("shallow pan of food ", "🥘"),
   ("shamrock ", "☘"), ("shark ", "🦈"), ("shaved ice ", "🍧"), ("sheep ", "🐑"), ("shell ", "🐚"),
   ("shield ", "🛡"), ("shinto shrine ", "⛩"), ("ship ", "🚢"), ("shirt ", "👕"), ("shoe ", "👞"),
   ("shopping bags ", "🛍"), ("shopping cart ", "🛒"), ("shorts ", "🩳"), ("shovel ", "🪏"),
   ("shower ", "🚿"), ("shrimp ", "🦐"), ("shrug ", "🤷"), ("shushing face ", "🤫"),
   ("signal strength ", "📶"), ("six pointed star ", "🔯"), ("skateboard ", "🛹"), ("ski ", "🎿"),
   ("skier ", "⛷"), ("skull ", "💀"), ("skull-crossbones ", "☠"), ("skunk ", "🦨"), ("sled ", "🛷"),
   ("sleep ", "⏾"), ("sleeping ", "😴"), ("sleeping bed ", "🛌"), ("sleepy ", "😪"),
   ("slight frown ", "🙁"), ("slight smile ", "🙂"), ("slot machine ", "🎰"), ("sloth ", "🦥"),
   ("small blue diamond ", "🔹"), ("small orange diamond ", "🔸"), ("small red triangle ", "🔺"),
   ("small red triangle down ", "🔻"), ("smile ", "😄"), ("smile cat ", "😸"), ("smiley ", "😃"),
   ("smiley cat ", "😺"), ("smiling face with tear ", "🥲"),
   ("smiling face with three hearts ", "🥰"), ("smiling imp ", "😈"), ("smirk ", "😏"),
   ("smirk cat ", "😼"), ("smoking ", "🚬"), ("snail ", "🐌"), ("snake ", "🐍"),
   ("sneezing face ", "🤧"), ("snowboarder ", "🏂"), ("snowman ", "☃⛄⛇"), ("soap ", "🧼"),
   ("sob ", "😭"), ("soccer ", "⚽"), ("socks ", "🧦"), ("softball ", "🥎"), ("soon ", "🔜"),
   ("sos ", "🆘"), ("sound ", "🔉"), ("space invader ", "👾"), ("spades ", "♠"),
   ("spaghetti ", "🍝"), ("sparkler ", "🎇"), ("sparkles ", "✨"), ("sparkling heart ", "💖"),
   ("speak no evil ", "🙊"), ("speaker ", "🔈"), ("speaking head ", "🗣"), ("speech balloon ", "💬"),
   ("speech left ", "🗨"), ("speedboat ", "🚤"), ("spider ", "🕷"), ("spider web ", "🕸"),
   ("splatter ", "🫟"), ("spock hand ", "🖖"), ("sponge ", "🧽"), ("spoon ", "🥄"), ("squid ", "🦑"),
   ("stadium ", "🏟"), ("staff of hermes ", "⚚"), ("standing person ", "🧍"),
   ("star and crescent ", "☪"), ("star of david ", "✡"), ("star struck ", "🤩"), ("stars ", "🌠"),
   ("station ", "🚉"), ("statue of liberty ", "🗽"), ("steam locomotive ", "🚂"),
   ("stethoscope ", "🩺"), ("stew ", "🍲"), ("stocks ", "🗠"), ("stop button ", "⏹"),
   ("stop sign ", "🛑"), ("stopwatch ", "⏱"), ("straight ruler ", "📏"), ("strawberry ", "🍓"),
   ("stuck out tongue ", "😛"), ("stuck out tongue closed eyes ", "😝"),
   ("stuck out tongue winking eye ", "😜"), ("stuffed flatbread ", "🥙"), ("sun with face ", "🌞"),
   ("sunflower ", "🌻"), ("sunglasses ", "😎"), ("sunrise ", "🌅"),
   ("sunrise over mountains ", "🌄"), ("superhero ", "🦸"), ("supervillain ", "🦹"),
   ("surfer ", "🏄"), ("sushi ", "🍣"), ("suspension railway ", "🚟"), ("swan ", "🦢"),
   ("sweat ", "😓"), ("sweat drops ", "💦"), ("sweat smile ", "😅"), ("sweet potato ", "🍠"),
   ("swimmer ", "🏊"), ("symbols ", "🔣"), ("synagogue ", "🕍"), ("syringe ", "💉"), ("t rex ", "🦖"),
   ("taco ", "🌮"), ("tada ", "🎉"), ("takeout box ", "🥡"), ("tamale ", "🫔"),
   ("tanabata tree ", "🎋"), ("taurus ", "♉"), ("taxi ", "🚕"), ("tea ", "🍵"), ("teapot ", "🫖"),
   ("teddy bear ", "🧸"), ("telephone ", "☎☏🕿"), ("telephone receiver ", "📞"),
   ("telescope ", "🔭"), ("tennis ", "🎾"), ("tent ", "⛺"), ("test tube ", "🧪"),
   ("thermometer ", "🌡"), ("thinking ", "🤔"), ("thong sandal ", "🩴"), ("thought balloon ", "💭"),
   ("thread ", "🧵"), ("thunder cloud rain ", "⛈"), ("ticket ", "🎟🎫"), ("tiger ", "🐯"),
   ("tiger2 ", "🐅"), ("timer ", "⏲"), ("tipping hand person ", "💁"), ("tired face ", "😫"),
   ("toilet ", "🚽"), ("tokyo tower ", "🗼"), ("tomato ", "🍅"), ("tongue ", "👅"),
   ("toolbox ", "🧰"), ("tools ", "🛠"), ("tooth ", "🦷"), ("toothbrush ", "🪥"), ("top ", "🔝"),
   ("tophat ", "🎩"), ("tornado ", "🌪"), ("track next ", "⏭"), ("track previous ", "⏮"),
   ("trackball ", "🖲"), ("tractor ", "🚜"), ("traffic light ", "🚥"), ("train ", "🚋"),
   ("train2 ", "🚆"), ("tram ", "🚊"), ("transgender symbol ", "⚧"),
   ("triangular flag on post ", "🚩"), ("triangular ruler ", "📐"), ("trident ", "🔱"),
   ("triumph ", "😤"), ("troll ", "🧌"), ("trolleybus ", "🚎"), ("trophy ", "🏆"),
   ("tropical drink ", "🍹"), ("tropical fish ", "🐠"), ("truck ", "🚚"), ("trumpet ", "🎺"),
   ("tulip ", "🌷"), ("tumbler glass ", "🥃"), ("turkey ", "🦃"), ("turtle ", "🐢"), ("tv ", "📺"),
   ("twisted rightwards arrows ", "🔀"), ("two button mouse ", "🖰"), ("two hearts ", "💕"),
   ("two men holding hands ", "👬"), ("two women holding hands ", "👭"), ("u5272 ", "🈹"),
   ("u5408 ", "🈴"), ("u55b6 ", "🈺"), ("u6307 ", "🈯"), ("u6708 ", "🈷"), ("u6709 ", "🈶"),
   ("u6e80 ", "🈵"), ("u7533 ", "🈸"), ("u7981 ", "🈲"), ("u7a7a ", "🈳"), ("umbrella ", "☂☔"),
   ("unamused ", "😒"), ("underage ", "🔞"), ("unicorn ", "🦄"), ("unlock ", "🔓"), ("up ", "🆙"),
   ("upside down ", "🙃"), ("urn ", "⚱"), ("v ", "✌"), ("vampire ", "🧛"),
   ("vertical traffic light ", "🚦"), ("vhs ", "📼"), ("vibration mode ", "📳"),
   ("video camera ", "📹"), ("video game ", "🎮"), ("violin ", "🎻"), ("virgo ", "♍"),
   ("volcano ", "🌋"), ("volleyball ", "🏐"), ("vomiting face ", "🤮"), ("vs ", "🆚"),
   ("waffle ", "🧇"), ("walking ", "🚶"), ("waning crescent moon ", "🌘"),
   ("waning gibbous moon ", "🌖"), ("warning ", "⚠"), ("wastebasket ", "🗑"), ("watch ", "⌚"),
   ("water buffalo ", "🐃"), ("water polo ", "🤽"), ("watermelon ", "🍉"), ("wave ", "👋"),
   ("waxing crescent moon ", "🌒"), ("wc ", "🚾"), ("weary ", "😩"), ("wedding ", "💒"),
   ("weightlifter ", "🏋"), ("whale ", "🐳"), ("whale2 ", "🐋"), ("wheel ", "🛞"),
   ("wheel of dharma ", "☸"), ("wheelchair ", "♿"), ("white check mark ", "✅"),
   ("white circle ", "⚪"), ("white club ", "♧"), ("white flag ", "⚐"), ("white flower ", "💮"),
   ("white heart ", "♡🤍"), ("white king ", "♔"), ("white large square ", "⬜"),
   ("white spade ", "♤"), ("white square button ", "🔳"), ("white sun cloud ", "🌥"),
   ("white sun rain cloud ", "🌦"), ("white sun small cloud ", "🌤"), ("wilted flower ", "🥀"),
   ("wind blowing face ", "🌬"), ("wind chime ", "🎐"), ("window ", "🪟"), ("wine glass ", "🍷"),
   ("wing ", "🪽"), ("wink ", "😉"), ("wireless ", "🛜"), ("wolf ", "🐺"), ("woman ", "👩"),
   ("woman with headscarf ", "🧕"), ("womans clothes ", "👚"), ("womans hat ", "👒"),
   ("womens ", "🚺"), ("wood ", "🪵"), ("woozy face ", "🥴"), ("worm ", "🪱"), ("worried ", "😟"),
   ("wrench ", "🔧"), ("wrestling ", "🤼"), ("writing hand ", "✍🖎"), ("X ", "〓"), ("x ", "❌"),
   ("x ray ", "🩻"), ("yarn ", "🧶"), ("yawning face ", "🥱"), ("yellow circle ", "🟡"),
   ("yellow heart ", "💛"), ("yellow square ", "🟨"), ("yen ", "💴"), ("yin yang ", "☯"),
   ("yo yo ", "🪀"), ("yum ", "😋"), ("zany face ", "🤪"), ("zap ", "⚡"), ("zebra ", "🦓"),
   ("zipper mouth ", "🤐"), ("zombie ", "🧟"), ("zzz ", "💤")]

end AtomicCss.Text
