/-!
# Ideographs

ASCII spellings of ideographs: the Mandarin reading of each, without its tone. A space ends
the reading, since ideographs are words of their own.
-/

set_option autoImplicit false

namespace AtomicCss.Text

/-- The readings with the ideographs that have them. -/
def hanSpellings : List (String × String) :=
  [("A ", "吖啊嗄錒锕阿"), ("Ai ", "伌佁僾叆呆哀哎唉啀嗳嘊噯埃塧壒娾嫒嬡嵦愛懓懝挨捱敱敳昹暧曖欸毐濭爱瑷璦皑皚皧瞹矮砨硋碍礙艾蔼薆藹譪诶賹躷銰鎄鑀锿隘霭靄靉馤騃鴱"),
   ("Akutsu ", "圷"), ("Ama ", "塰"),
   ("An ", "侒俺儑匎唵啽垵埯堓媕安岸峎峖庵按揞晻暗案桉氨洝犴玵痷盦盫罯腌腤荌菴萻葊蓭誝諳谙銨錌铵闇隌雸鞌鞍馣鮟鵪鶕鹌黬黯"), ("Ang ", "卬岇昂昻枊盎軮醠雵骯"),
   ("Ao ", "傲凹厫嗷嗸坳垇奡奥奧媪媼嫯岙嶅嶴廒慠懊扷抝拗摮擙敖柪梎滶澳熬爊狕獒獓璈磝翱翺聱芺蔜螯袄襖詏謷謸軪遨鏊鏖镺隞驁骜鰲鳌鷔鼇"), ("Appare ", "遖"),
   ("Aragane ", "砿"), ("Asari ", "鯏"),
   ("Ba ", "仈八叐叭吧哵坝坺垻墢壩妭岜巴弝扒把抜拔捌朳欛灞炦爸犮猈玐疤秡笆粑罢罷羓胈芭茇菝覇詙豝跋軷釟鈀鈸钯钹霸靶颰馛魃鲃鼥"),
   ("Bai ", "佰兡呗唄庍拜拝捭掰摆擺敗白百矲稗粨粺絔蛽襬贁败"), ("Ban ", "伴办半坂姅岅怑扮扳拌搬攽斑斒昄朌板湴版班瓣瘢癍秚粄絆绊舨般虨蝂螌褩辦辬鈑鉡钣闆阪靽頒颁"),
   ("Bang ", "傍垹塝帮幇幚幫捠梆棒榜浜牓磅稖綁縍绑膀艕蚌蜯謗谤邦邫鎊镑鞤"),
   ("Bao ", "保儤刨勹勽包堡堢報嫑孢宝宲寚寳寶忁怉报抱暴曓煲爆犦珤瓟窇笣緥胞苞菢葆蕔虣袌褒褓褴襃豹賲趵鉋鑤铇闁雹靌飽饱駂骲鮑鲍鳵鴇鸔鸨"),
   ("Bei ", "伓俻倍偝偹備僃北卑备孛岥庳悖悲惫愂憊揹昁杯桮梖椑焙牬犕狈狽珼琲痺盃碑禆糒紴綼背萆蓓藣被褙貝贝軰輩辈邶郥鄁鉳鋇錃鐾钡鞴韛鵯鹎"),
   ("Ben ", "倴坌夲奔奙捹撪本桳楍泍渀犇畚笨苯輽逩錛锛"), ("Beng ", "伻嘣埲塴崩嵭搒槰泵玤琫甭祊綳繃绷菶蠯誁跰蹦迸逬鏰镚閍鞛"),
   ("Bi ", "佊佖俾偪匕吡咇哔啚嗶坒堛壁夶奰妣妼婢嬖屄币幣庇廦弊弻弼彃彼必怭愊愎敝斃朼枈柀柲梐楅檘比毕毖毙毴沘湢滗滭潷煏熚狴獘獙珌璧畀畢疕疪痹皀皕睤睥碧秕稫笔筆筚箄箅箆篦篳粃粊"),
   ("Bi ", "縪罼聛腷臂芘苾荜荸蓖蓽蔽薜蚍蜌螕袐裨襞襣觱詖诐豍貏貱賁贔贲赑跸蹕躃躄逼避邲鄙鄨鄪鉍鎞鏎鐴铋閇閉閟闭陛鞸韠颷飶饆馝駜驆骳髀魓魮鮅鰏鲾鵖鷝鷩鼊鼻"),
   ("Bian ", "便匥匾卞变変弁徧忭惼扁抃揙昪汳汴煸牑猵玣甂砭碥稨窆笾箯籩糄編緶缏编艑苄藊蝙褊覍變貶贬辡辧辨辩辫辮辯边辺遍邉邊釆鍽閞鞭鯾鯿鳊鴘"),
   ("Biao ", "俵儦墂婊幖彪标標檦滮瀌熛爂猋瘭磦穮脿臕表裱褾覅諘謤贆錶鏢鑣镖镳颩颮飆飇飈飍飑飙飚驫骉髟鰾鳔麃麅"), ("Bie ", "別别彆徶憋莂虌蛂蟞襒蹩鱉鳖鼈龞"),
   ("Bin ", "傧儐宾彬摈擯斌椕槟檳殡殯汃滨濒濱瀕瑸璸矉穦繽缤膑臏蠙豩豳賓賔邠鑌镔霦顮馪驞髌髕髩鬂鬓鬢"),
   ("Bing ", "丙並仌併倂偋傡兵冫冰寎并幷怲抦掤摒昞昺柄栟栤梹棅氷炳病眪禀秉稟窉竝絣苪蛃邴鈵鉼陃靐鞞餅餠饼鮩"),
   ("Bo ", "亳伯侼僰剝剥勃博哱啵嚗壆孹嶏嶓帛愽懪拨挀挬搏撥播擘敀柏柭栢桲檗欂泊波泺浡渤煿牔犻猼玻瓝疈癶盋砵碆礴箔箥簙簸簿糪繴缽胉脖膊舶艊苩菠葧蔔薄蘗蚾袚袯襏襮誖謈譒豰跛踄踣蹳"),
   ("Bo ", "郣鉑鉢鋍鎛鑮钵铂镈餑餺饽馎馞駁駊駮驋驳髆髉鮁鮊鱍鲅鲌鵓鹁"), ("Boku ", "濹"), ("Bora ", "鮱"), ("Bou ", "媬"),
   ("Bu ", "不佈卜卟吥咘哺埔埗埠峬布庯怖悑惚扑捕捗晡步歨歩篰荹蔀补補逋部郶鈽錻钚钸餔餢鮬鳪鵏"), ("Ca ", "嚓囃擦橴礤"),
   ("Cai ", "倸埰婇寀彩才採材棌溨犲猜睬睵綵縩纔菜蔡裁財财跴踩采"), ("Can ", "傪参參叄叅喰嬠嬱惨惭慘慙慚憯朁残殘湌澯灿燦璨粲蓡薒蝅蠶蠺謲飡餐驂骖黪黲"),
   ("Cang ", "仓仺伧倉傖凔嵢欌沧滄舱艙苍蒼藏螥賶鑶鶬鸧"), ("Cao ", "嘈嶆愺懆撡操曹曺槽漕糙肏艚艸艹草蓸螬褿襙鄵鏪騲"), ("Cay ", "夈"),
   ("Ce ", "侧側冊册厕厠嫧廁恻惻憡拺敇测測畟矠笧策筞筴箣粣茦萗蓛遪頙"), ("Cem ", "岾"), ("Cen ", "埁岑嵾梣梫橬涔猠畠笒"),
   ("Ceng ", "层層嶒曽曾碀竲蹭鄫"), ("Cha ", "侘偛刹剎叉嗏垞奼姹嫅察岔嵖扠挿插揷搽杈查査槎檫汊疀痄碴秅紁肞臿艖茶衩訍詧詫诧蹅銟鍤鑔锸镲靫餷馇"),
   ("Chai ", "侪儕喍囆差拆柴瘥祡芆茝虿蠆袃豺釵钗"),
   ("Chan ", "丳产僝儃儳冁刬剗剷劖嚵囅婵嬋孱嵼巉幝幨廛忏惉懴懺搀摌攙旵梴棎欃毚浐湹滻潹潺澶瀍瀺灛煘燀獑產産硟磛禪簅緾繟繵纏纒缠羼艬蒇蕆蝉蟬蟾袩裧襜誗諂譂讇讒谄谗躔辿鄽酁鋋鋓"),
   ("Chan ", "鏟鑱铲镵閳闡阐韂饞馋骣"),
   ("Chang ", "仧伥倀倡偿僘償兏厰唱嘗嚐场場塲娼嫦尝常廠徜怅悵敞昌昶晿暢椙氅淐焻猖琩瑺瓺甞畅畼罉肠腸膓苌菖萇裮裳誯鋹鋿錩鏛锠長镸长閶阊韔鬯鯧鱨鲳鲿鼚"),
   ("Chao ", "仦仯吵嘲巐巢巣弨怊抄晁樔欩潮炒煼眧窲罺耖觘訬謿超轈鄛鈔钞麨鼂鼌"), ("Che ", "伡俥偖勶唓坼屮彻徹扯掣撤撦澈烲爡瞮砗硨硩聅莗蛼褄車轍车辙迠"),
   ("Chen ", "儬儭嚫塵墋夦宸尘屒忱愖捵敐晨曟棽榇樄櫬沈沉煁琛疢瞋硶碜磣祳臣茞莀莐蔯薼藽螴衬襯訦諃諶謓讖谌谶賝贂趁趂趻踸軙辰迧郴鈂鍖陈陳霃鷐麎齓齔龀"),
   ("Cheng ", "丞乗乘侱偁呈噌城埕埥堘塍塖塣娍宬峸庱徎悜惩憆憕懲成承挰掁揨撐撑晟枨棖棦椉橕橙檉泟洆浈浾湞澂澄瀓爯牚珵珹琤盯睈瞠秤称程稱穪窚竀筬絾緽脀脭荿虰蛏蟶裎誠诚赪赬逞郕"),
   ("Cheng ", "酲鋮鏿铖阷靗頳饓騁騬骋"),
   ("Chi ", "乿侈侙倁傺勅匙叱叺吃呎哆哧啻喫嗤噄坻垑墀姼媸尺岻弛彨彲彳彽徥徲恀恜恥慗憏懘抶拸持搋摛敕斥杘栻欫欼歭歯殦池汦泜淔灻炽烾熾瓻痓痴痸瘛癡眙眵瞝离竾笞筂箈箎篪粎絺翄翅翤"),
   ("Chi ", "耛耻茌茬荎蚇蚩蚳螭袳裭褫觢訵誃誺謘貾赤赿趍趩跮踅踟迟遅遟遫遲郗鉓鉹銐飭饎饬馳驰骴魑鶒鷘黐齒齝齿"), ("Chidori ", "鵆"),
   ("Chihaya ", "襅"), ("Chiisai ", "琑"), ("Chong ", "充冲嘃埫宠寵崇崈徸忡憃憧揰摏沖浺漴珫痋种翀舂茧茺虫蝩蟲衝褈蹖銃铳隀"),
   ("Chou ", "丑丒仇侴俦偢儔吜嚋婤嬦帱幬怞惆愁懤抽搊杻杽栦椆殠焘燽燾犨犫畴疇瘳皗瞅矁稠筹篘簉籌紬絒綢绸臭臰菗薵裯詶讎讐踌躊酧酬醜醻雔雠霌霔魗"),
   ("Chu ", "亍俶傗储儊儲処出刍初厨处岀幮廚怵憷拀搐敊斣斶曯杵椘楚楮橱檚櫉櫥欪歜泏滀滁濋犓琡畜矗础礎竌竐篨耝耡臅芻荲蒢蒭蕏藸處蜍褚觸豖貙趎踀蹰躇躕遚鄐鉏鋤锄閦除雏雛鶵黜齣齭齼"),
   ("Chuai ", "揣膗踹"), ("Chuan ", "串伝传傳僢喘圌堾巛川暷椽歂氚汌瑏穿腨舛舩船諯賗輲遄釧钏"),
   ("Chuang ", "刅创刱剏剙創噇幢床怆愴戧摐摤橦漺牀牎牕獊疒疮瘡窓窗窻闖闯"), ("Chui ", "倕吹垂埀捶搥棰槌湷炊箠篅腄菙錘鎚锤陲顀龡"),
   ("Chun ", "偆唇媋惷憌旾春暙椿櫄浱淳湻滣瑃睶箺純纯脣膥莼萅萶蒓蓴蠢踳醇醕陙鯙鶉鶞鹑"),
   ("Chuo ", "啜嚽娖婥惙戳擉歠涰犳珿畷磭綽繛绰腏諁趠輟辍辵辶逴酫醊鎈鑡齪齹龊"),
   ("Ci ", "佌佽偨凪刺刾垐嬨庛慈朿柌次此泚濨玼珁瓷甆疵皉磁礠祠糍紪絘茨莿薋蚝蛓螆蠀詞词赼趀趑跐辝辞辤辭雌飺餈髊"), ("Cis ", "嗭"),
   ("Cong ", "丛从匆叢囪囱婃孮従徖從忩怱悤悰慒憁暰枞棇樅樬樷欉淙漎漗潀灇焧燪爜琮瑽璁瞛篵緫繱聡聦聪聰苁葱蓯蔥藂蟌誴謥賨賩錝鍐鍯鏓鏦騘驄骢"),
   ("Cou ", "傶凑楱湊腠輳辏"), ("Cu ", "促噈塶徂憱梀槭殂猝瘄瘯簇粗縬脨蔟觕豠趗踧蹙蹴醋麁麄麤鼀"), ("Cuan ", "劗巑撺攛櫕殩汆熶爨窜竄篡簒蹿躥鋑鑹镩"),
   ("Cui ", "伜倅催凗啐啛嗺墔崔忰悴慛摧榱槯毳淬漼焠獕琗璀疩瘁皠磪竁竴粋粹紣綷翆翠脃脆脺膬膵臎萃趡鏙顇"), ("Cun ", "刌吋存寸忖拵村澊皴籿袸邨"),
   ("Cuo ", "剉剒厝嵯嵳挫措搓撮歵瑳痤睉矬磋縒脞莝莡蒫蓌蔖虘蹉逪遳醝銼錯锉错鹺鹾齚齰"), ("Cwul ", "乼"),
   ("Da ", "匒呾哒噠墶大妲怛打搭撘溚炟畗畣瘩眔笪答繨耷荅荙薘蟽褟褡詚达迖逹達鐽靼鞑韃"),
   ("Dai ", "代傣叇呔埭岱帒带帯帶廗待怠懛戴柋歹歺殆汏瀻獃玳瑇甙簤紿緿绐艜袋襶貸贷跢蹛軚軩迨逮霴靆黛黱"),
   ("Dan ", "丹亶伔但僤儋刐勯匰单単啖啗啿單噉噡嚪妉媅帎弹弾彈惮憚憺担掸撢撣擔旦暺柦殚氮沊淡潬澸澹狚玬瓭甔疍疸瘅癉癚眈砃窞箪簞紞耼耽聃聸胆腅膽舕萏蛋蜑衴襌觛誕诞躭郸鄲酖鉭钽霮"),
   ("Dan ", "頕饏馾駳髧鴠黕黵"), ("Dang ", "儅党凼噹圵垱壋婸宕嵣当愓挡擋攩档檔欓氹潒澢灙珰璗璫瓽當盪瞊砀碭礑筜簜簹艡荡菪蕩蘯蟷裆襠譡讜谠趤逿鐺铛闣雼黨"),
   ("Dao ", "倒刀刂到噵壔导導岛島嶋嶌嶹幍忉悼捣捯搗擣朷檤氘瓙盗盜祷禂禱稲稻纛翿舠菿衜衟蹈軇道釖隝隯魛鱽"), ("De ", "嘚得徳德恴惪淂的脦鍀锝"),
   ("Dekaguramu ", "瓧"), ("Deng ", "僜凳噔墱嬁嶝戥朩櫈灯燈璒登瞪磴竳等簦覴豋蹬邓鄧鐙镫隥霯"), ("Deshiguramu ", "瓰"),
   ("Di ", "仢仾低偙僀呧哋唙啇啲嘀嚁地坔坘埊埞堤墆墑墬奃娣嫡嶳帝底廸弟弤怟慸抵拞掋摕敌敵旳杕柢梊梑棣楴樀氐涤渧滌滴潪焍牴狄玓甋眡睇砥碲磾祶禘笛第篴籴糴締缔羝翟聜肑腣苖茋荻菂菧"),
   ("Di ", "蒂蔋蔐蔕藡虳蝃螮袛覿觌觝詆諦诋谛豴趆踶蹢軑軧轪迪递逓遞遰邸釱鉪鍉鏑镝阺靮鞮頔馰骶鸐"), ("Dia ", "嗲"),
   ("Dian ", "佃傎典厧嚸坫垫墊壂奌奠婝婰嵮巅巓巔店惦扂掂攧敁敟槇槙橂殿淀滇澱点玷琔琠电甸痁痶瘨癜癫癲碘磹簟蕇蜔踮蹎鈿钿阽電靛顚顛颠點齻"),
   ("Diao ", "伄凋刁叼吊奝屌弔彫扚掉汈琱瘹瞗碉窎窵竨莜蓧藋虭蛁訋調调貂釕釣銱鋽鑃钌钓铞雕魡鮉鯛鲷鳭鵰鼦"),
   ("Die ", "叠喋垤堞峌嵽恎惵戜挕昳曡氎爹牃牒瓞畳疉疊眣眰碟絰绖耊耋聑胅臷艓苵蜨蝶褋褺詄諜谍趃跌跕蹀迭镻鰈鲽"),
   ("Ding ", "丁仃叮啶奵娗婈定嵿帄庰忊椗檙濎玎疔矴碇碠磸腚萣薡訂订酊釘錠鐤钉锭靪頂顁顶飣饤鼎鼑"), ("Diou ", "銩"), ("Diu ", "丟丢乣铥"),
   ("Dojou ", "鯲"), ("Dong ", "东倲働冬冻凍动動咚垌埬墥娻嬞岽崠崬懂戙挏昸東栋棟氡氭洞涷眮笗箽胨胴腖苳菄董蝀霘駧鯟鶇鸫鼕"),
   ("Dou ", "兜兠吺唗唞抖敨斗枓枡梪橷毭浢痘窦竇篼脰荳蔸蚪豆逗郖鋀閗闘阧陡餖饾鬥鬦鬪鬬鬭"),
   ("Du ", "儥凟匵厾喥嘟堵妒妬嬻帾度暏杜椟櫝殬殰毒涜渎渡瀆牍牘犊犢独獨琽瓄皾督睹碡秺笃篤簬簵肚荰蝳螙蠧蠹裻覩読讀讟读豄賭贕赌都醏錖鍍鑟镀闍阇靯韇韣韥騳髑黩黷"),
   ("Duan ", "偳剬塅媏断斷椴段毈煅瑖短碫端簖籪緞缎腶葮褍躖鍛鍴锻"), ("Dui ", "兊兌兑垖堆塠对対對嵟怼憝憞懟濧瀩痽碓磓祋綐薱譈轛鐓鐜镦队陮隊頧"),
   ("Dun ", "伅吨噸囤墩墪墫崸庉弴惇扽撉撴敦沌潡燉犜盹盾砘礅蜳趸踲蹲蹾躉逇遁遯鈍钝頓顿驐鶨"),
   ("Duo ", "亸凙刴剁剟剫咄哚嚉嚲垛垜埵堕墮墯多夛夺奪奲尮崜嶞悳惰憜挅挆掇敓敚敠敪朵朶柁柮桗椯毲炧炨痑痥綞缍舵莌裰襗趓跥跺踱躱躲鈬鍺鐸铎锗陊陏飿饳鬌鮵"),
   ("E ", "俄偔僫卾厄吪呃呝咢咹哦噁噩圔垩堊堨堮妸妿娥娿婀婐屙岋峉峨峩崿嶭恶悪惡愕戹扼搤搹枙櫮涐湂珴琧痾皒睋砐硆硪磀胺腭苊莪萼蕚蚅蛾蝁覨訛詻誐誒諤譌讍讹谔豟貖軛軶轭迗遌遏鄂鈋鈳"),
   ("E ", "鍔鑩钶锷閼阏阨阸隲頞頟額顎颚额餓餩饿騀魤魥鰐鱷鳄鵝鵞鶚鹅鹗齶"), ("Ebi ", "蛯螧"), ("Eburi ", "杁"), ("Ei ", "珱"),
   ("El ", "乻"), ("Em ", "欕"), ("En ", "奀恩摁蒽"), ("Ena ", "褜"),
   ("Er ", "二佴侕儿児兒刵咡唲尒尓尔峏弍弐栭栮樲檽毦洏洱爾珥眲而耏耳聏胹荋薾衈袻誀貮貳贰輀轜迩邇鉺铒陑隭餌饵駬髵鮞鲕鴯鸸"), ("Eri ", "魞"),
   ("Es ", "旕"), ("Eso ", "鱛"), ("Fa ", "乏伐佱傠发垡姂彂栰橃沷法灋珐琺疺発發瞂砝筏罚罰罸茷蕟藅閥阀髪髮"),
   ("Fan ", "僠凡凢凣勫反噃墦奿嬎嬏帆幡忛憣旙旛杋柉梵棥樊橎氾汎泛滼瀪瀿烦煩燔犭犯璠瓪畈番盕矾礬笲笵範籓籵緐繁繙羳翻膰舧范蕃薠藩蘩蠜襎訉販贩蹯軓軡軬轓返鄤釩鐇钒颿飜飯飰饭魬鱕"),
   ("Fan ", "鷭"), ("Fang ", "仿倣匚坊埅妨房放方旊昉昘枋汸淓牥瓬眆紡纺肪舫芳蚄訪访趽邡鈁钫防髣魴鰟鲂鳑鴋鶭"),
   ("Fei ", "俷剕匪厞吠奜妃婓屝废廃廢悱扉斐昲曊朏杮棐榧櫠沸淝渄濷狒猆疿痱癈砩篚緋绯翡肥肺胇腓芾菲萉蕜蜚蜰蟦裶誹诽費费鐨镄霏靅非靟飛飝飞餥馡騑騛鯡鲱鼣"),
   ("Fen ", "份偾僨兝分吩坆坋坟墳奋奮妢岎帉幩弅忿愤憤昐朆枌梤棻棼橨氛汾濆瀵炃焚燌燓獖玢砏秎粉粪糞紛纷羒羵翂肦膹芬蒶蕡蚠蚡衯訜豶轒酚鈖鐼隫雰餴饙馚馩魵鱝鲼鳻黂黺鼖鼢"),
   ("Feng ", "丰仹俸偑僼冯凤凨凬凮唪堸堼夆奉妦寷封峯峰崶捀摓枫桻楓檒沣沨浲渢湗漨灃烽焨煈熢犎猦甮疯瘋盽砜碸篈綘縫缝艂莑葑蘴蜂蠭覂諷讽豐賵赗逢鄷酆鋒鏠锋靊風飌风馮鳯鳳鴌麷"),
   ("Fo ", "仏佛坲"), ("Fou ", "剻否哹椱殕竎紑缶缹缻芣裦雬鴀"),
   ("Fu ", "乀乶付伏伕俌俘俛俯偩傅冨冹凫刜副匐呋呒咈咐嘸嚩圑坿垘复夫妇妋姇娐婏婦媍孚孵富尃岪峊巿帗幅幞府弗弣彿復怤怫懯払扶抚拂拊捬撫敷斧旉暊服枎枹柎柫栿桴棴榑氟泭洑浮涪滏澓炥"),
   ("Fu ", "烰焤父玞玸琈甫甶畉畐癁盙砆祓祔福秿稃稪符笰筟箙簠粰糐紨紱紼絥綍綒緮縛绂绋缚罘罦翇肤胕脯腐腑腹膚艀艴芙苻茀茯荴莆莩菔萯葍蕧虙蚥蚨蚹蛗蜅蜉蝜蝠蝮衭袝袱複褔覆訃詂諨讣豧"),
   ("Fu ", "負賦賻负赋赙赴趺跗踾輔輹輻辅辐邞郙郛鄜釜釡鈇鉘鉜鍑鍢阜阝附陚韍韨頫颫馥駙驸髴鬴鮄鮒鯆鰒鲋鳆鳧鳬鳺鴔鵩鶝麩麬麱麸黻黼"), ("Fumoto ", "梺"),
   ("Ga ", "嘎嘠尕尜尬玍錷"), ("Gai ", "丐乢侅匃匄垓姟峐忋戤摡改晐概槩槪溉漑瓂畡盖祴絠胲荄葢蓋該该豥賅賌赅郂鈣钙陔隑"), ("Gake ", "垳"),
   ("Gan ", "乹乾亁仠倝凎凲坩尲尴尶尷嵅干幹忓感擀攼敢旰杆柑桿榦橄檊汵泔涻淦澉灨玕甘疳皯盰矸秆稈竿筸簳粓紺绀肝芉苷虷蜬衦詌贑贛赣赶趕迀骭鱤鳡鳱"),
   ("Gang ", "冈冮刚剛堈堽岗岡崗戅戆戇掆杠棡槓港焵牨犅碙笐筻綱纲缸罁罓罡肛舡鋼鎠钢"),
   ("Gao ", "叝吿告夰搞暠杲槁槔槹橰檺櫜滜煰皋皐睾祮祰禞稾稿筶篙糕縞缟羔羙膏臯菒藁藳誥诰郜鋯锆餻高髙鯌鷎鼛"),
   ("Ge ", "个佮個割匌各呄咯哥哿嗝嗰噶圪塥愅戈戓戨挌搁搿擖擱敋格槅歌渮滒牁牫牱獦疙笴箇肐胳膈臵舸茖葛虼蛒裓觡諽謌輵轕郃鉻鎘鎶铬镉閣閤阁阖隔革鞷韐韚骼鮯鰪鴚鴿鸽麧齃"),
   ("Gei ", "給给"), ("Gem ", "咁"), ("Gen ", "亘亙刯剆根艮茛跟"),
   ("Geng ", "哽埂堩峺庚挭揯搄更梗浭畊秔稉粳絙絚綆緪縆绠羮羹耕耿莄菮賡赓郠骾鯁鲠鶊鹒"), ("Gomi ", "埖"),
   ("Gong ", "供公共功匑厷塨宫宮工巩幊廾弓恭愩拱拲攻杛栱汞玜珙疘碽穬竔篢糼羾肱蚣蛬觥觵貢贡躬躳釭銾鋛鞏髸魟龏龔龚"), ("Gori ", "鮴"),
   ("Gou ", "傋冓勾坸垢够夠姤媾岣彀搆撀构枸構沟溝煹狗玽笱篝緱缑耇耈耉耩芶苟茩蚼褠覯觏訽詬诟豿購购遘鈎鉤钩雊鞲韝骺"),
   ("Gu ", "估僱凅古呱咕唂唃嘏固堌夃姑嫴孤尳崓崮怘愲扢故杚柧梏棝榖榾橭毂沽泒淈濲瀔焸牯牿狜痼皷皼盬瞽祻稒穀笟箍箛糓縎罛罟羖股脵臌苽菇菰蓇薣蛄蛊蛌蠱觚詁诂谷軱轂辜酤鈲鈷錮钴锢雇"),
   ("Gu ", "頋顧顾餶馉骨鮕鯝鲴鴣鶮鶻鸪鹘鼓鼔"), ("Gua ", "冎刮剐剮劀卦叧啩坬寡懖括挂掛栝桰歄煱瓜瘑筈絓緺罣罫聒胍脶腡葀蜗蝸褂詿诖趏踻适銽頢颳騧髺鴰鸹"),
   ("Guai ", "乖叏夬怪恠拐旝枴柺癐箉"),
   ("Guan ", "丱倌关冠官悹悺惯慣掼摜棺樌毌泴涫潅灌爟琯瓘痯瘝癏盥矔礶祼窤筦管罆罐脘舘蒄覌観觀观謴貫贯輨遦錧鏆鑵関闗關雚館馆鱞鱹鳤鸛鹳"),
   ("Guang ", "侊僙光咣垙姯広廣桄櫎洸灮炗炚炛烡犷獷珖胱臦臩茪輄逛銧黆"),
   ("Gui ", "亀佹傀刽刿劊劌匦匭匮匱厬圭垝妫姽媯嫢嬀宄嶡巜帰庋庪归恑摫攰攱昋晷暩桂椝槻槼櫃歸氿溈溎潙炔珪瑰璝瓌癸皈祪窐筀簋胿膭蓕蛫蟡袿襘規规觤詭诡貴贵跪軌轨邽郌閨闺陒鞼鬶鬹鬼"),
   ("Gui ", "鮭鱥鲑龜龟"), ("Gun ", "丨掍棍滚滾璭睴磙緄绲蓘蔉衮袞袬裩輥辊鮌鯀鲧"),
   ("Guo ", "啯嘓囯囶囻国圀國埚堝墎崞帼幗惈慖掴摑果椁槨淉漍濄猓簂粿綶聝腂腘膕菓虢蜾蝈蟈裹輠过過郭鈛鍋鐹锅餜馃馘"), ("Ha ", "丷哈垪蛤"),
   ("Haai ", "嚡"), ("Haba ", "掵"), ("Habaki ", "鈨鎺"), ("Hagi ", "蘒"),
   ("Hai ", "亥咍嗐嗨孩害氦海烸蓜酼醢頦颏餀饚駭骇骸"), ("Hal ", "乤"), ("Hama ", "濵"), ("Hameru ", "扖"),
   ("Han ", "佄傼函凾厂厈含哻唅喊圅垾娢娨嫨寒屽崡悍憨憾扞捍撼攌旱晗晘晥暵梒汗浛浫涆涵淊漢澏瀚炶焊焓熯猂琀甝皔睅筨罕翰肣莟菡蔊蚶蛿蜭螒譀谽豃豻貋邗邯酣釬銲鋎鋡閈闬雗韓韩頇頷顄"),
   ("Han ", "顸颌颔馠馯駻鬫魽鶾鼾"), ("Hang ", "吭夯斻杭桁汻沆肮航苀蚢貥迒酐頏颃魧"),
   ("Hao ", "侾傐儫勂号哠嗥嘷噑嚆嚎壕好峼恏悎昊昦晧暤暭曍椃毫浩淏滈澔濠瀥灏灝獆獋獔皓皜皞皡皥秏籇耗聕蒿薃薅號蠔諕譹豪郝鄗鎬镐顥颢鰝"), ("Haraka ", "鰚"),
   ("Hashi ", "槗"), ("Hata ", "簱籏"), ("Hatahata ", "鰰鱩"), ("Haze ", "枦"), ("Hazou ", "楾"),
   ("He ", "何佫俰劾厒合呵咊和哬啝喝嗃嗬壑姀峆廅惒抲敆暍曷柇核楁毼河涸滆澕焃煂熆熇爀狢癋皬盇盉盍盒碋礉禾秴篕紇纥翮翯耠荷菏萂蒚蚵蝎螛蠚袔褐覈訶訸詥诃貈貉賀贺赫釛鉌閡闔阂隺靎靏"),
   ("He ", "鞨頜餲魺鲄鶡鶴鸖鹖鹤齕龁龢"), ("Hei ", "幤潶黑黒"), ("Hekutogura ", "瓸"), ("Hen ", "佷哏很恨拫狠痕詪鞎"),
   ("Heng ", "亨哼啈姮恆恒悙揘撔楻横橫澋珩絎绗脝蘅衡誙諻鐄鑅韹鴴鸻黉黌"), ("Hesaki ", "舮"), ("Hi ", "暃"), ("Hie ", "薭"),
   ("Hitoe ", "褝"), ("Hokuso ", "樮"),
   ("Hong ", "仜叿吰呍哄唝嗊垬妅娂宏宖峵嵤弘彋揈晎汯泓洪浤渱渹潂澒灴烘焢玒硔硡竑竤篊粠紅紘紭綋红纮翃翝耾舼苰荭葒葓蕻薨虹触訇訌讧谹谼谾軣輷轟轰鈜鉷鋐鍙鍧閎閧闳霟鞃顭鬨鴻鸿"),
   ("Horo ", "縨袰"), ("Hou ", "侯候厚后吼喉垕堠帿後洉犼猴瘊睺矦篌糇缿翭葔豞逅郈鄇銗鍭餱鮜鯸鱟鲎鲘齁"), ("Hoy ", "栃"),
   ("Hu ", "乎乕互冱冴匢匫呼唬唿啒喖嘑嘝嚛囫垀壶壷壺婟媩嫭嫮寣岵峘帍幠弖弧忽怙戶户戸戽扈抇护搰摢擭斛昈昒曶枑楛楜槲槴欻歑沍沪泘浒湖滬滸滹瀫灳烀烼焀煳熩狐猢琥瑚瓠瓳祜笏箶簄糊絗"),
   ("Hu ", "綔縠胡苸萀葫蔛蔰虍虎虖虝蝴螜衚觳謼護軤轷鄠醐鍸雐頀頶餬鬍魱鰗鳸鵠鶘鶦鹄鹕"),
   ("Hua ", "划劃化华哗嘩婳嫿嬅崋摦杹桦槬樺滑澅狯猾画畫畵磆繣舙花芲華蕐蘳螖觟話諣譁譮话釫錵鏵铧驊骅鷨"), ("Huai ", "佪咶壊壞孬徊怀懐懷槐櫰淮瀤竵耲蘹蘾褢褱諙踝"),
   ("Huan ", "唍唤喚喛嚾垸奂奐嬛宦寏寰嵈幻患愌懁懽捖换換擐桓梙梡槵欢歓歡洹涣渙漶澴烉焕煥犿狟獾环瑍環瓛痪瘓睆糫緩繯缓缳羦肒荁萈萑藧讙豢豲貆貛輐轘还逭還酄鍰鐶锾镮闤阛雈驩鬟鰀"),
   ("Huan ", "鴅鵍"),
   ("Huang ", "偟兤凰喤嚝堭塃墴媓宺崲巟幌徨怳恍惶愰慌撗晃晄曂朚榥湟滉潢炾煌熀熿獚瑝璜癀皇皝皩磺穔篁簧肓艎荒葟蝗蟥衁詤謊谎趪軦遑鍠鎤锽隍餭騜鰉鱑鳇鷬黃黄"),
   ("Hui ", "会僡儶匯卉咴喙嘒噅噕噧嚖囘回囬圚婎媈嬇寭幑廆廻廽彗彙彚徽恚恛恢恵悔悝惠慧憓拻挥揮撝晖晦暉暳會槥橞檓櫘殨毀毁毇汇泋洃洄湏滙潓濊瀈灰烠烣烩煇燬燴獩璯痐瞺禈秽穢篲絵繐"),
   ("Hui ", "繢繪绘缋翙翚翬翽芔茴荟蔧蕙薈藱虺蚘蛔蛕蜖蝰螝蟪袆褘詯詼誨諱譓譭譿讳诙诲豗賄贿輝辉迴逥鏸鐬闠阓隓隳靧韢頮顪颒餯饖鮰鰴麾"),
   ("Hun ", "俒倱圂堚婚忶惛惽慁昏昬棔棞楎殙浑涽混渾溷焝珲琿睔睧睯繉荤葷觨諢诨轋閽阍顐餛餫馄魂鯶鼲"),
   ("Huo ", "伙佸剨劐咟嗀嚄嚯嚿夥奯彟彠惑或捇掝攉旤曤楇檴沎活湱濩瀖火獲瓁癨眓矆矐矱砉硅礊祸禍秮秳穫耯臛艧获萿藿蠖謋讗豁貨货邩鈥鍃鑊钬锪镬閄雘霍霩靃韄騞鱯鳠鸌鹱"),
   ("Hwa ", "婲"), ("Hyeng ", "灐"), ("Ikaruga ", "鵤"), ("Ikenie ", "犠"), ("Iong ", "硧"),
   ("Ip ", "込"), ("Iri ", "圦"), ("Irori ", "鈩"), ("Ishiyumi ", "釻"), ("Isuka ", "鶍"),
   ("Ji ", "丌丮乩亟亼伋伎佶偮僟兾冀几击刉刏剂剞剤劑勣卙即卽及叽吉咭哜唧喞嗘嘰嚌圾坖垍基堲塈塉墼妀妓姞姫姬嫉季寂寄尐屐岌峜嵆嵇嵴嶯己幾庴彐彑彶忌忣急悸惎愱懻戟戢技挤掎揤撃撠擊"),
   ("Ji ", "擠擮旡既旣暨曁朞机极枅梞棘楫極槉樍機橶檕檝檵櫅殛毄汲泲洁洎济済湒漃漈潗激濈濟瀱焏犄犱狤猤玑玘璣璾畸畿疾痵瘈瘠癠皍瞡矶磯礏祭禝禨积稘稩稷稽穄穊積穖穧笄笈筓箕箿簊籍粫"),
   ("Ji ", "紀級継績繼级纪继绩罽羁羇羈耤耭聻肌脊膌臮芨芰茍茤莋葪蒺蓟蓻蔇蕀蕺薊蘎蘮蘻虀虮蛣蝍螏蟣裚褀襀襋覉覊覬觊觙觭計記誋諅譏譤计讥记賫賷赍跡跻跽踖踦蹐蹟躋躸輯轚辑迹郆鈒鈘銈"),
   ("Ji ", "銡鍓鏶鐖鑇鑙钑际際隮集雞雦雧霁霵霽鞊鞿韲飢饑饥驥骥髻鬾魕魝魢鮆鯚鯽鰶鰿鱀鱭鱾鲚鲫鳮鴶鵋鶏鶺鷄鸄鸡鹡麂麡齌齎齏齑"),
   ("Jia ", "乫仮价伽佳価假傢價加叚唊嗧嘉圿埉夹夾婽嫁家岬幏徦恝戛戞扴拁斚斝架枷梜椵榎榢槚檟毠泇浃浹犌猳玾珈甲痂瘕硈稼笳耞胛腵舺荚莢葭蛱蛺袈袷裌豭貑賈贾跏跲迌迦郏郟鉀鉫鉿鋏鎵"),
   ("Jia ", "钾铗铪镓鞂鞈頬頰颊餄饸駕驾鴐鵊麚"),
   ("Jian ", "件侟俭俴俿倹偂健僣僭儉兼冿减剑剣剪剱劍劎劒劔囏囝坚堅堿奸姦姧寋尖廌建弿徤惤戋戔戩戬拣挸捡揀揃搛撿擶旔暕枧柬栫梘检検椷楗榗槛樫檢檻櫼歼殲毽洊涧渐減湔湕溅漸澗濺瀐"),
   ("Jian ", "瀳瀸瀽煎熞熸牋牮犍猏玪珔瑐监監睑睷瞼硷碊碱磵礛笕笺筧简箋箭篯簡籛糋絸緘縑繝繭缄缣翦肩腱臶舰艦艰艱荐菅菺葌蒹蔪蕑蕳薦藆虃螹蠒裥襇襉襺見覵覸见諌諓諫謇謭譼譾谏谫豜"),
   ("Jian ", "豣賎賤贱趝趼践踐踺蹇釼鉴鋻鍳鍵鏩鐗鐧鑑鑒鑬鑯鑳锏键間閚间靬鞬鞯韀韉顅餞餰饯馢騝鬋魐鰎鰔鰜鰹鲣鳒鳽鵳鶼鹣鹸鹻鹼麉"),
   ("Jiang ", "僵匞匠壃夅奖奨奬姜将將嵹弜弶摪摾桨槳橿殭江洚浆滰漿犟獎瓨畕畺疅疆礓糡糨絳繮绛缰翞膙茳葁蒋蔃蔣薑螀螿袶襁講謽讲豇酱醤醬降韁顜鱂鳉"),
   ("Jiao ", "交佼侥僥僬儌剿劋勦叫呌嘂嘄嘦噍噭嚼姣娇嫶嬌孂峤峧嶕嶠徺徼憍憿挍挢捁搅摷撟撹攪敎教敫敽敿斠晈暞曒椒浇湬滘漅漖潐澆灚烄焦煍燋狡珓璬皎皦皭矫矯礁穚窌窖筊糹絞繳绞缴脚"),
   ("Jiao ", "腳膠膲臫芁茭茮蕉藠虠蛟蟂蟜蟭角訆詨譑譥賋跤踋較轎轿较郊醮醶釂鉸鐎铰餃饺驕骄鮫鱎鲛鴵鵁鷍鷦鷮鹪"),
   ("Jie ", "丯介借倢偈偼傑刦刧刼劫劼卩卪吤唶喈喼嗟堦堺姐婕媎媘孑屆届岊岕崨嵥巀幯庎徣悈戒截拮捷接掲揭搩擑擳昅杰栉栨桀桔械椄楐楬楶榤檞櫛櫭湝滐潔瀄煯犗犵玠琾瑎界畍疖疥癤皆睫砎"),
   ("Jie ", "碣秸稭竭節紒結繲结羯脻腉艥节芥莭菨葜蓵薢藉蚧蜐蝔蠘蠞蠽街衱袺褯解觧訐詰誡誱謯讦诘诫趌踕躤迼鉣鍻鎅鐑阶階頡颉飷騔魀魪鮚鲒鶛"),
   ("Jin ", "仅今伒侭僅僸儘凚劤卺噤嚍埐堇墐妗嫤嬧尽嶜巹巾惍慬搢斤晉晋暜枃槿歏殣津浕浸溍漌濅濜烬燼珒琎瑧瑨瑾璡璶瘽盡矜祲禁筋紟紧緊縉缙肵荕荩菫菳蓳藎衿襟覲觐觔謹谨賮贐赆近进進"),
   ("Jin ", "金釒錦钅锦靳饉馑鹶黅齽"),
   ("Jing ", "丼井京亰俓倞傹儆兢净凈刭剄劲勁坕坙境妌婙婛婧宑巠弪弳径徑憬憼擏敬旌旍景晶暻曔桱梷汬泾浄涇淨濪瀞烃烴燛猄獍璟璥痉痙睛穽竞竟竧竫競竸箐精経經经聙肼胫脛腈茎荆荊莖菁"),
   ("Jing ", "葏葝蟼誩警踁迳逕鏡镜阱靓靖静靚靜頚頸颈驚鯨鲸鵛鶁鶄麖麠黥鼱"), ("Jiong ", "侰僒冂冋冏囧坰垧埛幜扃泂澃炅炯烱煚煛熲皛窘絅綗蘏蘔褧迥逈顈颎駉駫"),
   ("Jiu ", "丩久乆九僦勼匓匛匶厩咎啾奺媨就廄廏廐慦捄揂揪揫救旧朻柩柾桕樛殧湫灸牞玖疚究糺糾紤纠臼舅舊舏萛觓赳轇酒醔镹阄韭韮鬏鬮鯦鳩鷲鸠鹫麔齨"),
   ("Ju ", "举侷俱倨倶具冣凥刟剧劇勮匊句咀埧埾壉姖娵婅婮寠局居屦屨岠岨崌巈巨弆怇怚惧愳懼抅拒拘拠挙挶据掬據擧昛柜梮椇椈椐榉榘橘檋櫸欅歫毩毱沮泃泦洰涺淗澽炬焗焣犋犑狊狙琚疽眗矩"),
   ("Ju ", "秬窭窶竘筥箤簴粔粷絇罝耟聚腒舉艍苣苴莒菊葅蒟蘜虡蚷蜛蝺袓裾詎諊讵貗趄趜跔跙距跼踘踙踞踽蹫躆躹輂遽邭郹鄓醵鉅鋦鋸鐻钜锔锯閰陱雎鞠鞫颶飓駏駒駶驧驹鮈鮔鴡鵙鵴鶋鶪鼳齟龃"),
   ("Juan ", "倦剶劵勌勬卷埢姢娟巻帣慻捐捲朘桊涓淃狷獧瓹眷睊睠絹绢罥羂臇菤蠲裐鄄錈鎸鐫锩镌韏飬鬳鵑鹃"),
   ("Jue ", "亅倔傕僪决刔劂勪厥噘噱孒孓屩屫崛崫嵑嶥弡彏憠憰戄抉挗捔掘撅撧攫斍柽桷橛橜欔欮殌氒決潏焆焳熦爑爝爴爵獗玃玦玨珏瑴疦瘚矍矡砄絕絶绝臄芵蕝蕨蚗蟨蟩蠼覐覚覺觉觖觼訣譎诀"),
   ("Jue ", "谲谻貜赽趹蹶蹷躩逫鈌鐍鐝钁镢鱊鱖鳜鴂鴃鷢龣"),
   ("Jun ", "俊儁军君呁均姰寯峻懏捃攈攟晙桾殾汮浚濬焌珺畯皲皸皹睃碅竣箘箟莙菌葰蔨蚐蜠袀覠軍郡鈞銁銞钧隽雋頵餕馂駿骏鮶鲪鵘麇麏麕"), ("Jung ", "繌"),
   ("Ka ", "佧咔咖胩鉲髂"), ("Kaakeru ", "缼"), ("Kago ", "筺"),
   ("Kai ", "凯凱剀剴勓嘅垲塏奒开忾恺愒愷愾慨揩暟楷欬炌炏烗痎礚蒈輆鍇鎧鐦铠锎锴開闓闿颽"), ("Kajika ", "鮖"), ("Kaka ", "嬶"),
   ("Kakesu ", "鵥"), ("Kaki ", "硴"), ("Kal ", "乲"), ("Kamakiri ", "蟐"), ("Kamishimo ", "裃"),
   ("Kan ", "侃偘冚刊勘坎埳堪塪墈崁嵁惂戡栞欿歁歞看瞰矙砍磡竷莰衎輡轗闞阚顑龕龛"), ("Kang ", "亢伉匟囥嫝嵻康忼慷扛抗摃槺漮炕犺砊穅粇糠躿邟鈧鏮钪閌闶鱇"),
   ("Kao ", "丂尻拷攷栲槀洘烤燺犒稁考薧銬铐靠髛鮳鲓鷱"), ("Kari ", "猟"), ("Kase ", "綛"), ("Kasei ", "桛"),
   ("Kashi ", "槝"), ("Kasugai ", "銯鎹"), ("Kasuri ", "緕"), ("Katsura ", "楿蘰"), ("Kazari ", "錺"),
   ("Kazunoko ", "鯑"),
   ("Ke ", "克刻剋勀勊可咳喀嗑坷垎堁壳娔客尅岢峇嶱恪愘愙揢搕敤柯棵榼樖殼氪渇渴溘炣犐珂疴瞌碦磕礍科稞窠簻緙缂胢苛萪薖蝌衉課课趷軻轲醘顆颗騍骒髁"), ("Kek ", "巪"),
   ("Kel ", "乬"), ("Ken ", "啃垦墾恳懇掯椦珢硍肎肯肻裉褃豤錹齗齦龂龈"), ("Keng ", "劥坈坑奟妔挳摼牼硁硜硻銵鍞鏗铿阬"), ("Kep ", "迲"),
   ("Kes ", "唟"), ("Kesa ", "畩"), ("Kewashii ", "嵜"), ("Ki ", "怾"), ("Kikuitadaki ", "鶎"),
   ("Kinu ", "紦"), ("Ko ", "侤"), ("Koc ", "廤"), ("Kohaze ", "鞐"), ("Kong ", "倥埪孔崆恐悾控涳硿空箜錓鞚鵼"),
   ("Koraeru ", "怺"), ("Kou ", "佝冦剾劶口叩宼寇彄怐扣抠摳敂滱瞉窛筘簆纐芤蔲蔻袧釦鷇"), ("Kouji ", "糀"),
   ("Ku ", "俈刳哭喾嚳圐堀库庫扝挎挧枯桍焅瘔矻秙窟絝绔胐苦袴裤褲趶跍軲轱郀酷顝骷"), ("Kua ", "侉咵垮夸姱恗胯荂誇跨銙錁锞骻"),
   ("Kuai ", "侩儈凷呙哙噲块塊墤廥快擓桧檜欳浍澮獪禬筷糩脍膾蒯郐鄶駃鬠鱠鲙"), ("Kuan ", "宽寛寬欵款歀窾臗髋髖"),
   ("Kuang ", "俇儣况劻匡匩卝哐圹壙夼岲恇懬懭抂旷昿曠框況洭爌狂眖眶矌矿硄礦筐絖纊纩誆誑诓诳貺贶躀軭邝邼鄺鉱鑛鵟黋"),
   ("Kui ", "刲喟喹嘳夔奎媿尯岿巋愦愧憒戣揆撌晆暌楏楑槶樻櫆湀溃潰煃犪盔睽瞆瞶窥窺篑簣籄聧聩聭聵腃茥葵蒉蔮蕢藈蘬蘷虁虧跬蹞躨逵鄈鍨鍷鐀鑎闚頍頯餽饋馈馗騤騩骙魁"),
   ("Kuji ", "籖"), ("Kume ", "粂"), ("Kun ", "困坤堃壸壼婫崐崑悃惃捆昆晜梱涃焜猑琨瑻睏硱祵稇稛綑菎蜫裈裍褌貇醌錕锟閫閸阃騉髠髡髨鯤鲲鵾鹍齫"),
   ("Kunugi ", "椚椡檪"), ("Kuo ", "姡廓彉彍扩拡挄擃擴漷濶蛞闊阔鞟鞹"), ("Kura ", "峅"), ("Kutabireru ", "萙"),
   ("Kwi ", "櫷"), ("Kwu ", "夻"), ("Kyou ", "鱜"), ("Kyuu ", "恷"),
   ("La ", "亽剌啦喇嚹垃拉揦揧攋柆楋爉瓎瘌磖翋腊臈臘菈藞蝋蝲蠟辢辣邋鑞镴鞡鬎鯻"),
   ("Lai ", "來俫倈勑唻娕婡孻崃崍庲徕徠来梾棶櫴涞淶濑瀨瀬猍琜癞癩睐睞筙箂籁籟莱萊藾襰賚賴赉赖逨郲錸铼頼顂騋鯠鵣鶆麳"), ("Lam ", "冧"),
   ("Lan ", "儖兰厱啉嚂囒壈壏婪嬾孄孏岚嵐幱懒懢懶拦揽擥攔攬斓斕栏榄欄欖欗浨滥漤澜濫瀾灆灠灡烂燗燣燷爁爛爤璼瓓礷篮籃籣糷繿纜缆葻蓝藍蘫蘭襕襤襴覧覽览譋讕谰躝醂鑭钄镧闌阑韊顲"),
   ("Lang ", "俍勆唥啷埌塱嫏崀廊朖朗朤桹榔樃欴浪烺狼琅瑯硠稂筤艆莨蒗蓈蓢蜋螂誏踉躴郎郞鋃锒閬阆"),
   ("Lao ", "佬僗劳労勞咾哰唠嘮嫪崂嶗恅憥憦捞撈栳橑橯浶涝澇牢狫痨癆磱窂簩老耢耮荖蟧軂轑醪銠鐒铑铹髝"), ("Le ", "乐仂勒叻哷忇扐捋楽樂氻泐玏砳竻簕肋艻阞韷頱餎饹鰳鳓"),
   ("Lei ", "傫儡儽厽嘞垒埒壘壨嫘擂攂樏檑櫐櫑欙泪洡涙淚漯灅瓃畾瘣癗磊磥礌礧礨禷类累絫縲纇纍纝缧罍羸耒蕌蕾藟蘱蘲蘽虆蠝誄讄诔轠酹銇錑鐳鑘鑸镭雷靁頛頪類颣鸓鼺"),
   ("Leng ", "倰冷堎塄崚愣棱楞稜薐踜"),
   ("Li ", "丽例俐俚俪傈儮儷兣凓刕利剓剺劙力励勵历厉厘厤厯厲吏呖哩唎唳喱嚟嚦囄囇坜塛壢娌婯嫠孋孷屴岦峛峢峲巁廲悡悧悷慄戻戾搮攊攡攦攭斄暦曆曞朸李枥栎栗栛栵梨梩梸棃棙樆櫔櫟櫪欐"),
   ("Li ", "欚歴歷氂沥沴浬涖溧漓漦澧濿瀝灕爄爏犁犂犛犡狸猁珕理琍瑮璃瓅瓈瓑瓥疠疬痢癘癧皪盠盭睝矋砅砬砺砾磿礪礫礰礼禮禲秝穲立笠筣篥篱籬粍粒粚粝粴糎糲綟縭纅缡罹脷艃苈苙茘荔莅莉"),
   ("Li ", "菞蒞蓠蔾藜藶蘺蚸蛎蛠蜊蜧蝷蟍蟸蠇蠡蠣蠫裏裡褵詈謧讈豊貍赲跞躒轢轣轹逦邌邐郦酈醨醴里釐鉝鋫鋰錅鏫鑗锂隶隷隸離雳雴靂靋驪骊鬁鬲鯉鯬鱧鱱鱳鱺鲡鲤鳢鳨鴗鵹鷅鷑鸝鹂麗麜黎黧"),
   ("Lia ", "俩倆"),
   ("Lian ", "亷僆劆匲匳嗹噒堜奁奩奱媡嫾嬚帘廉怜恋慩憐戀摙敛斂梿楝槤櫣歛殓殮浰涟湅溓漣潋澰濂濓瀲炼煉熑燫琏瑓璉磏稴簾籢籨練縺纞练羷翴联聫聮聯脸膦臁臉莲莶萰蓮蔹薕薟蘝蘞螊蠊裢"),
   ("Lian ", "裣褳襝覝謰譧蹥连連鄻錬鍊鎌鏈鐮链镰鬑鰊鰱鲢"), ("Liang ", "両两亮兩凉哴唡啢喨墚悢惊掚晾梁椋樑涼湸粮粱糧綡緉脼良蜽裲諒谅輌輛輬辆辌量鍄駺魉魎"),
   ("Liao ", "了僚嘹嫽寥寮尞尥尦屪嵺嶚嶛廖廫憀憭摎撩敹料暸漻潦炓熮燎爒獠璙疗療瞭窷簝繚缭聊膋膫蓼蟟豂賿蹘蹽辽遼鄝鐐镣镽顟飂飉髎鷚鷯鹨鹩"),
   ("Lie ", "儠冽列劣劽咧埓姴巤挒捩擸洌浖烈煭犣獵睙聗脟茢蛚蛶裂趔躐迾颲鬛鬣鮤鱲鴷"),
   ("Lin ", "临亃僯凛凜厸吝壣崊嶙廩廪恡悋惏懍懔撛斴晽暽林橉檁檩淋潾澟瀶焛燐獜琳璘甐疄痳癛癝瞵矝碄磷箖粦粼綝繗罧翷臨菻蔺藺蹸躏躙躪轔轥辚遴邻鄰鏻閵隣霖驎鱗鳞麐麟"),
   ("Ling ", "令伶凌刢另呤囹坽夌姈孁岭岺嶺彾拎掕昤朎柃棂櫺欞泠淩澪灵炩燯爧狑玲琌瓴皊睖砱碐祾秢竛笭紷綾绫羚翎聆舲苓菱蔆蕶蘦蛉衑袊裬詅跉軨輘酃醽鈴錂铃閝阾陵零霊霛霝靈領领駖魿"),
   ("Ling ", "鯪鲮鴒鸰鹷麢齡齢龄龗"),
   ("Liu ", "六刘劉嚠坴塯媹嬼嵧廇懰旈旒柳栁桺榴橊橮沠流浏溜澑瀏熘珋琉瑠瑬璢畂畄留畱疁瘤癅硫磂綹绺罶羀翏蒥蓅藰蟉裗蹓遛鉚鋶鎏鎦鏐鐂铆锍镏镠雡霤飀飅飗飹餾馏駠駵騮驑骝鬸鰡鶹鹠麍"),
   ("Long ", "儱咙哢嚨垄垅壟壠屸嶐巃巄徿拢挵攏昽曨朧栊梇櫳泷湰滝漋瀧爖珑瓏癃眬矓砻硦礱礲窿竉竜笼篭簼籠聋聾胧茏蕯蘢蠪蠬衖襱豅贚躘鏧鑨陇隆隴霳靇鸗龍龒龓龙"),
   ("Lou ", "剅喽嘍塿娄婁屚嵝嶁廔慺搂摟楼樓漏熡甊瘺瞜篓簍耧耬艛蒌蔞蝼螻謱軁遱鏤镂陋鞻髅髏鷜"),
   ("Lu ", "侓侣侶偻僂僇儢剹勎勠勴卢卤吕呂噜嚕嚧圥垆垏塷壚娽寽屡屢履峍嵂庐廘廬彔录律慮戮挔捛掳摝撸擄擼攎曥栌梠椂榈樐樚橹櫓櫖櫚櫨氀氯泸淕淥渌溇滤滷漉漊潞濾瀂瀘炉熝爈爐獹率玈琭"),
   ("Lu ", "璐璷瓐甪瘘瘻盝盧睩矑硉硵碌磟磠祣祿禄稆稑穋穞穭箓箻簏簶籙籚粶絽綠緑縷纑绿缕罏胪膂膐膔膟膢臚舻艣艪艫芦菉葎蓾蔍蕗藘蘆虂虏虑虜螰蠦褛褸觮觻賂赂趢路踛蹗輅轆轤轳辂辘逯郘"),
   ("Lu ", "醁鋁錄録錴鏀鏕鏴鐪鑢鑥鑪铝镥閭闾陆陸露顱颅馿騄騼驢驴髗魯魲鯥鱸鲁鲈鵦鵱鷺鸕鸬鹭鹵鹿麓黸"),
   ("Luan ", "乱亂卵圝圞娈孌孪孿峦巒挛攣曫栾欒滦灓灤癴癵羉脔臠薍虊釠銮鑾鵉鸞鸾"), ("Lue ", "圙掠撂擽略畧稤鋝鋢锊"),
   ("Lun ", "仑伦侖倫囵圇埨婨崘崙惀抡掄沦淪溣碖稐絯綸纶耣腀菕蜦論论踚輪轮錀陯鯩"),
   ("Luo ", "倮儸啰嗠囉峈摞攞曪椤欏氇氌洛濼烙犖猡玀珞瘰癳砢硌笿箩籮絡纙络罗羅臝荦萝落蓏蔂蘿螺蠃袼裸覙覶覼躶逻邏酪鎯鏍鑼锣镙雒饠駱騾驘骆骡鮥鴼鵅鸁"), ("Lv ", "旅"),
   ("M ", "呣"), ("Ma ", "亇傌吗唛嗎嘛嘜妈媽嫲嬤嬷帓杩榪溤犘犸獁玛瑪痲睰码碼祃禡罵蔴蚂螞蟆蟇鎷閁馬駡马骂鰢鷌麻麿"),
   ("Mai ", "买佅劢勱卖嘪埋売眿脉荬蕒薶蝐買賣迈邁霢霾鷶麥麦"), ("Mal ", "唜"), ("Mama ", "墹壗"),
   ("Man ", "僈墁姏嫚屘幔悗慢慲摱曼槾満满滿漫澫澷熳獌璊瞒瞞矕縵缦蔄蔓蛮螨蟎蠻襔謾谩蹒蹣鏋鏝镘顢颟饅馒鬗鬘鮸鰻鳗"),
   ("Mang ", "吂哤壾娏尨忙恾掹擝杗杧氓汒浝漭牤牻狵痝盲盳硥硭笀芒茫茻莽莾蘉蛖蟒蠎邙釯鋩铓駹鼆"),
   ("Mao ", "兞冃冇冐卯堥夘媌媢嫹峁帽懋戼旄昴暓枆柕楙毛毷泖渵牦猫瑁皃眊瞐矛笷罞耄艒芼茂茅茆萺蓩蝥蟊袤覒貌貓貿贸軞鄮酕錨锚髦髳鶜"), ("Masu ", "桝"),
   ("Mate ", "鮲"), ("Matsu ", "枩"), ("Me ", "么"),
   ("Mei ", "凂呅堳塺妹媄媒媚媺嬍寐嵄嵋徾挴攗昧枚栂梅楣楳槑毎每沒没沬浼渼湄湈煝煤燘猸玫珻瑂痗眉眛睂睸祙禖篃美脄脢腜苺莓葿蝞袂跊郿酶鋂鎂鎇镁镅霉韎鬽魅鶥鹛黣黴"),
   ("Men ", "们們悶懑懣扪捫暪樠焖燜穈菛虋鍆钔門閅门闷"),
   ("Meng ", "儚冡勐夢夣孟幪懜懞懵曚朦梦橗檬氋溕濛猛獴瓾甍甿盟瞢矇矒礞艋艨苎莔萌萠蒙蕄虻蜢蝱蠓鄳鄸錳锰雺霥霿靀饛鯍鯭鸏鹲"),
   ("Mi ", "侎冖冞冪咪嘧塓孊宓宻密峚幂幎幦弥弭彌戂擟攠敉榓樒檷櫁汨沵泌洣淧淿渳滵漞濔濗瀰灖熐爢猕獼瓕眫眯瞇祕祢秘簚籋米糜糸縻罙羃脒葞蒾蔝蔤藌蘪蘼蜜蠠覓覔覛觅詸謎謐谜谧迷醚醾醿"),
   ("Mi ", "釄銤镾靡鸍麊麋麛鼏"), ("Mian ", "丏偭免冕勉勔喕娩婂媔嬵宀愐棉檰櫋汅沔湎眄眠矈矊矏糆絻綿緜緬绵缅腼臱芇葂蝒醎面靣麪麫麵麺"),
   ("Miao ", "劰喵妙庙庿廟描杪淼渺玅眇瞄秒竗篎緢緲缈苗藐邈鱙鶓鹋"), ("Mie ", "乜吀咩哶孭幭懱搣櫗滅灭礣篾羋芈蔑薎蠛衊覕鑖鱴鴓"),
   ("Min ", "僶冺刡勄姄岷崏忞忟怋悯愍慜憫抿捪敃敏敯旻旼暋民泯渑湣潣澠珉琘瑉痻皿盿砇碈笢簢緍緡缗罠苠鈱錉鍲閔閩閺闵闽鰵鳘黽黾"),
   ("Ming ", "佲冥凕名命姳嫇慏明暝朙榠洺溟猽眀眳瞑茗蓂螟覭詺鄍酩銘铭鳴鸣"), ("Miriguramu ", "瓱"), ("Miu ", "謬谬"),
   ("Mo ", "万劘嗼嘿嚜嚤嚰圽塻墨妺嫫嫼寞尛帞庅慔懡抹抺摩摸摹擵昩暯末枺模橅歾歿殁沫洦湐漠瀎爅瘼皌眜眽瞙砞磨礳秣粖糢絈縸纆耱脈膜茉莈莫蓦藦蘑蛨蟔衇袹謨謩谟貃貊貘鄚銆鏌镆陌霡靺饃"),
   ("Mo ", "饝馍驀髍鬕魔魩麼麽默黙"), ("Mok ", "凩"), ("Moku ", "杢"), ("Momiji ", "椛"),
   ("Mou ", "侔冒劺哞愗某洠牟眸瞀瞴繆缪蛑蟱謀谋踇鉾鍪鴾麰"),
   ("Mu ", "亩仫募坶墓姆姥峔幕幙恈慕拇暮木楘母毣毪氁沐炑牡牧牳狇獏畆畒畝畞畮目睦砪穆胟苜莯蚞譕鉧鉬钼雮霂鞪鶩鹜"), ("Muro ", "榁"),
   ("Muroaji ", "鰘"), ("Mushiru ", "挘毟毮"), ("Mutsu ", "鱫"), ("Mwun ", "匁"), ("Mye ", "旀"),
   ("Myeng ", "椧"), ("N ", "煾"), ("Na ", "乸哪嗱妠拏拿捺笝納纳肭蒳衲袦誽豽貀軜那鈉鎿钠镎雫靹魶"), ("Nagi ", "彅"),
   ("Nai ", "乃倷奈奶妳嬭廼摨柰榒氖渿熋疓耐艿萘螚褦迺釢錼鼐"), ("Namazu ", "魸"), ("Nan ", "侽南喃囡奻娚婻戁揇暔枏枬柟楠湳男畘罱腩莮萳蝻諵赧难難"),
   ("Nang ", "乪儾嚢囊囔攮曩欜灢饢馕齉"), ("Nao ", "匘呶垴堖夒嫐峱嶩巎巙怓恼悩惱憹挠撓桡橈淖猱獶獿瑙硇碯繷脑腦詉譊鐃铙閙闹髐鬧"), ("Nata ", "屶"),
   ("Nawa ", "縄"), ("Nay ", "匂"), ("Ne ", "吶呐袮訥讷"), ("Nei ", "內内娞氝脮腇餒馁鮾鯘"), ("Nen ", "嫩嫰黁齳"),
   ("Neng ", "嬣能薴"), ("Nerau ", "躵"), ("Ng ", "嗯"), ("Ngaak ", "鈪"),
   ("Ni ", "伱伲你倪儗儞匿呢坭埿堄妮婗嫟嬺孴尼屔屰嶷怩惄愵抳拟擬旎昵暱柅氼泥淣溺狋狔猊痆睨禰秜籾糑縌胒腻膩臡苨薿蚭蜺觬貎跜輗迡逆郳鈮鉨铌隬霓馜鯓鯢鲵鷁鷊鹝鹢麑齯"),
   ("Nian ", "卄唸埝姩年廿念拈捻撚撵攆涊淰碾秊秥簐粘艌跈蹨躎輦辇鮎鯰鲇鲶黏鼰齞"), ("Niang ", "娘嬢孃酿醸釀"),
   ("Niao ", "嫋嬝嬲尿樢脲茑蔦袅裊褭鳥鸟"),
   ("Nie ", "啮喦嗫噛嚙囁囓圼孼孽嵲帇惗捏揑摰敜枿棿槸櫱涅湼疌篞糱糵聂聶臬臲苶菍蘖蠥踂踗蹑躡鈢鉩錜鎳鑈鑷钀镊镍闑陧隉顳颞齧"), ("Nin ", "囜您拰"),
   ("Ning ", "佞侫儜凝咛嚀寍寕寗寜拧擰柠橣檸泞濘狞獰甯矃聍聹鑏鬡鸋"), ("Nio ", "鳰"), ("Niou ", "汼"),
   ("Niu ", "妞忸扭炄牛狃紐纽莥衂鈕钮靵"), ("Noboru ", "曻"), ("Nong ", "侬儂农哝噥弄挊檂欁浓濃癑禯秾穠脓膿蕽襛農辳醲鬞齈"),
   ("Nou ", "啂槈獳羺耨譨譳鎒鐞"), ("Noy ", "脳"), ("Nu ", "伮努女奴孥弩怒恧抐搙朒砮笯籹胬蒘衄釹钕駑驽鴑"), ("Nuan ", "偄暖渜煖煗餪"),
   ("Nuc ", "莻"), ("Nude ", "橳"), ("Nue ", "婩疟瘧硸虐謔谑"), ("Nukamiso ", "粏"), ("Nung ", "燶"),
   ("Nuo ", "傩儺娜愞懦懧挪挼捼掿搦搻梛橠砈砹稬穤糥糯諾诺蹃逽郍"), ("O ", "筽"), ("Obiyaakasu ", "脋"), ("Odoshi ", "縅"),
   ("Oki ", "澚"), ("Ol ", "乯"), ("On ", "鞰"), ("Oozutsu ", "熕"), ("Ori ", "槞"), ("Oroshi ", "颪"),
   ("Otoko ", "郒"), ("Ou ", "偶吘吽呕嘔塸怄慪櫙欧歐殴毆沤漚熰瓯甌眍瞘耦腢膒蕅藕謳讴鏂鴎鷗鸥齵"), ("Pa ", "啪夿妑帊帕怕杷潖爬琶皅筢耙舥葩蚆袙趴跁"),
   ("Pai ", "俖俳哌徘拍排棑汖派湃牌猅篺簰簲蒎輫鎃"), ("Pal ", "浌"),
   ("Pan ", "冸判叛坢奤媻幋拚搫攀柈槃沜泮溿潘瀊炍牉畔畨盘盤盼眅砙磐磻縏蒰蟠袢襻詊跘鋬鎜鑻鞶頄頖"),
   ("Pang ", "乓厐厖嗙嫎庞庬彷徬旁滂炐篣耪肨胖胮膖舽蒡螃覫逄雱霶騯髈龎龐"), ("Pao ", "匏咆垉奅庖抛拋泡炮炰爮狍疱皰砲礟礮脬袍跑軳靤鞄髱麭齙龅"),
   ("Pei ", "伂佩呸啡垺培妚姵娝岯帔怌斾旆昢柸毰沛浿珮琣碚笩肧胚苝衃裴裵賠赔轡辔邳配醅阫陪陫霈馷"), ("Pen ", "呠喯喷噴歕湓瓫盆翉翸葐"),
   ("Peng ", "倗傰匉嘭埄堋塜塳弸彭怦恲憉抨挷捧掽朋梈棚椖椪樥淎淜漰澎烹甏痭皏砰硑硼碰磞稝竼篷纄膨芃蓬蟚蟛踫軯輣錋鑝閛韸韼駍驡髬髼鬅鬔鵬鹏"), ("Phas ", "巼"),
   ("Phos ", "喸"), ("Phwung ", "闏"),
   ("Pi ", "丕仳伾僻劈匹啤噼噽嚭圮坏坯埤壀媲嫓屁崥庀怶悂憵批披抷揊擗旇朇枇榌毗毘淠渒潎澼濞炋焷犤狉狓玭琵甓疋疲痞癖皮砒磇礔礕秛秠笓紕纰罴羆翍耚肶脴脾腗膍苉苤蚽蜱螷諀譬豼豾貔辟"),
   ("Pi ", "郫釽鈈鈚鈹鉟銔銢錍铍闢阰陴隦霹駓髲魾鮍鲏鴄鷿鸊鼙"), ("Pian ", "偏囨媥楄楩片犏篇翩胼腁萹覑諚諞谝貵賆蹁輧頨駢騈騗騙骈骗骿鶣"),
   ("Piao ", "僄剽勡嘌嫖彯徱慓摽旚殍淲漂犥瓢皫瞟票竂篻縹缥翲膘蔈薸藨蚫螵醥闝顠飃飄飘驃骠魒"), ("Pie ", "丿嫳撆撇暼氕瘪癟瞥鐅"),
   ("Pin ", "品嚬姘娦嫔嬪拼榀涄牝獱琕礗聘薲蘋貧贫頻顰频颦"),
   ("Ping ", "乒俜凭凴呯坪娉屏屛帡帲幈平慿憑枰泙洴焩玶瓶甁甹砯竮箳簈缾聠胓艵苹荓萍蓱蚲蛢評评軿郱頩鮃鲆鵧"),
   ("Po ", "叵嘙坡婆尀岶廹朴櫇泼溌潑炇烞狛珀癹皤破砶笸粕蒪蔢迫鄱酦醗醱釙鉕鏺钋钷陂頗颇魄"), ("Pou ", "剖勏咅哣婄廍抔抙捊掊棓犃瓿裒錇锫"),
   ("Ppwun ", "兺"), ("Pu ", "仆僕匍噗圃圤墣抪撲擈攴普曝柨樸檏毞氆浦溥潽濮瀑烳獛璞痡瞨穙箁纀舖舗菐菩葡蒱蒲襆襥誧諩譜谱蹼轐酺醭鋪鏷鐠铺镤镨陠"),
   ("Pwu ", "巬巭"), ("Pyeng ", "塀鋲"),
   ("Qi ", "七乞亓亝企倛僛其凄剘启呇呮咠唘唭啓啔啟嘁噐器圻埼墄墘夡奇契妻娸婍屺岂岐岓崎帺弃徛忔忯悽愭慼慽憇憩懠戚掑摖攲敧斉斊旂旗晵暣期杞柒栔栖桤桼棄棊棋棨棲榿槣檱櫀欺歧气気氣"),
   ("Qi ", "汔汽泣淇淒湆湇漆濝炁猉玂琦琪璂甈畁畦疷盀盵矵砌碁碕碛碶磎磜磧磩礘祁祈祺禥竒粞粸綥綦綨綮綺緀緝纃绮缉罊翗耆脐臍艩芑芞芪荠萁萋萕葺蕲薺藄蘄蚑蚔蚚蛴蜝蜞蟿蠐衹裿訖諆諬諿"),
   ("Qi ", "讫豈起跂踑軝迄迉邔郪鄿釮錡錤鏚锜闙霋頎顣颀騎騏騹骐骑鬐鬿魌鮨鯕鰭鲯鳍鵸鶀鶈鸂麒鼜齊齐"), ("Qia ", "匼卡圶帢恰掐殎洽跒酠"),
   ("Qian ", "仟仱佥倩傔僉儙兛刋前千圱圲堑塹壍奷婜媊孯岍岒嵌嵰幵忴悓悭愆慊慳扦扲拑拪掔掮揵搴撁撖攐攑攓杄棈椠榩槏槧檶櫏欠欦歉歬汘汧浅淺漧潛潜濳灊燂牵牽瓩皘竏竓签箝篏篟簽籤粁"),
   ("Qian ", "綪縴繾缱羟羥肷膁臤芊芡茜葥蒨蔳虔蚈蜸褰諐謙譣譴谦谴谸輤迁遣遷釺鈐鉗鉛銭鋟錢鐱钎钤钱钳铅锓阡雂韆顩騚騫骞鬜鬝鬵鰬鵮鹐黔黚"),
   ("Qiang ", "丬傸勥呛唴嗆墏墙墻嫱嬙嶈廧強强彊戕戗抢搶斨枪椌槍樯檣溬漒炝熗爿牄牆猐玱瑲矼磢篬繈繦羌羗羫羻腔蔷薔蘠蜣謒跄蹌蹡軖錆鎗鏘鏹锖锵镪"),
   ("Qiao ", "乔侨俏僑僺劁喬嘺墝墽峭嵪嶣巧帩幧悄愀憔撬撽敲桥樵橇橋燆癄瞧硗硚磽礄窍竅簥繑翘翹荞蕎藮誚譙诮谯趫趬跷踍蹺蹻躈郻鄡鄥釥鍫鍬鏒鐈鐰锹陗鞒鞘鞽韒頝顦骹髚髜"),
   ("Qie ", "且切匧妾怯悏惬愜挈朅沏洯淁癿穕窃竊笡箧篋緁聺茄藒蛪踥鍥锲鯜"),
   ("Qin ", "亲侵勤厪吢吣唚嗪噙坅媇嫀寑寖寝寢寴嵚嶔庈廑懃懄抋捦揿搇撳擒斳昑曋檎欽沁澿瀙珡琴琹禽秦綅耹芩芹菣菦蚙螓螼蠄衾親誛赺赾鈙钦靲顉駸骎鮼鳹鵭"),
   ("Qing ", "倾傾凊剠勍卿啨圊夝寈庆庼廎情慶掅擎晴暒樈檠檾殑殸氢氫氰汫淸清漀狅甠碃磘磬罄蜻請謦请軽輕轻郬鑋靑青靘頃顷鯖鲭"),
   ("Qiong ", "儝匔卭宆惸桏棾橩焪焭煢熍琼璚瓊睘瞏穷穹窮竆笻筇芎苘茕藑藭蛩赹跫輁邛銎"), ("Qiou ", "湭"),
   ("Qiu ", "丘丠俅厹叴唒囚坵媝崷巯巰恘扏搝朹梂楸殏毬求汓泅浗渞煪犰玌球璆皳盚秋秌穐篍糗紌絿緧肍脙艽苬莍萩蓲虬虯蚯蛷蝵螑蟗蠤裘觩訄訅賕赇趥逎逑遒邱酋釓釚銶钆鞦鞧鮂鯄鰌鰍鰽鱃鳅"),
   ("Qiu ", "鶖鹙鼽龝"),
   ("Qu ", "伹佉佢凵刞劬匤匷区區厺去取呿坥娶屈岖岴嶇忂憈懅戵抾敺斪曲朐欋氍浀淭渠湨灈璖璩痀癯瞿砠磲祛竬筁籧紶翑翵胊胠臞菃葋蕖蘧蛆蛐螶蟝蠷衢袪覰覷覻觑詓詘誳诎豦趋趣趨躣躯軀軥鑺"),
   ("Qu ", "镼閴闃阒阹駆駈驅驱髷魼鰸鱋鴝鶌鸜鸲麮麯麴麹黢鼁鼩齲龋"),
   ("Quan ", "佺全券劝勧勸呟啳圈圏奆姾婘孉峑巏弮恮悛惓拳搼权棬権權汱泉洤湶烇牶牷犈犬玔琄瑔甽畎痊硂筌箞絟絭綣縓绻荃荈葲虇蜷蠸觠詃詮诠踡輇辁醛銓鐉铨顴颧駩騡鬈鰁鳈鷤齤"),
   ("Que ", "却卻咑埆塙墧寉崅悫愨慤搉榷殻毃灍燩琷瘸皵硞确碏確碻礐礭缺舭蒛趞闋闕阕阙雀鵲鹊"), ("Qun ", "囷夋宭峮帬杶漘羣群蝽裙裠踆輴逡錞鰆"),
   ("Ran ", "冄冉呥嘫姌媣染橪然燃珃繎肰苒蚒蚦蚺蛅衻袇袡襽髥髯"), ("Rang ", "儴勷嚷壌壤懹攘瀼爙獽瓤禳穣穰蘘譲讓让躟鬤"),
   ("Rao ", "娆嬈扰擾繞绕荛蕘蛲蟯襓遶隢饒饶"), ("Ratsu ", "溂"), ("Re ", "喏惹渃热熱"),
   ("Ren ", "人亻仁仞仭任刃刄壬妊姙屻忈忍忎恁扨朲杒栠栣梕棯牣秂秹稔紉紝絍纫纴肕腍芢荏荵衽袵訒認认讱賃赁軔軠轫鈓銋靭靱韌韧飪餁饪魜鴹鵀"), ("Reng ", "仍扔礽芿辸陾"),
   ("Ri ", "囸日氜衵釰鈤馹驲"), ("Ro ", "粐"), ("Rong ", "傇冗媶宂容嵘嶸戎搑曧栄榕榮榵毧氄溶烿熔爃狨瑢穁絨縙绒羢肜茙茸荣蓉蝾融螎蠑褣軵鎔镕駥髶鰫鴧鷛"),
   ("Rou ", "媃宍揉柔楺沑渘煣瑈瓇禸粈糅肉脜腬葇蝚蹂輮鍒鍕鞣韖騥鰇鶔"),
   ("Ru ", "乳侞傉儒入嗕嚅如媷孺帤挐擩曘桇汝洳渪溽濡燸筎縟缛肗臑茹蓐蕠薷袽褥襦辱邚鄏醹銣铷顬颥鱬鴽"), ("Ruan ", "堧壖媆撋朊瑌瓀盶碝礝緛耎腝蝡蠕軟輭软阮"),
   ("Rui ", "叡壡惢枘桵橤汭瑞甤睿緌繠芮蕊蕋蕤蘂蘃蚋蜹銳鋭锐"), ("Run ", "橍润潤犉瞤膶閏閠闰"), ("Ruo ", "偌叒婼弱楉焫爇箬篛若蒻鄀鰙鰯鶸"),
   ("S ", "恖"), ("Sa ", "仨卅摋撒攃櫒洒灑脎萨薩趿鎝靸颯飒馺"), ("Saai ", "嘥"), ("Sai ", "僿嗮噻塞愢揌毢穝簺腮賽赛顋鰓鳃"),
   ("Sakaki ", "榊"), ("Sakenomoto ", "酛"), ("Sako ", "逧"),
   ("San ", "三仐伞俕傘叁嘇弎攕散橵毵毿氵潵犙糁糂糝糣糤繖虄鏾鐁閊閐饊馓鬖"), ("Sang ", "丧喪嗓峠搡桑桒磉褬鎟顙颡"),
   ("Sao ", "喿埽嫂慅扫掃掻搔氉溞瘙矂繅缫臊艘颾騒騷骚鰠鰺鱢鳋"), ("Sarake ", "瓼"), ("Sasara ", "簓"), ("Sasou ", "哘"),
   ("Sayng ", "栍"), ("Se ", "啬嗇懎歮歰涩澀澁濇瀒瑟璱穑穡繬翜色譅趇轖銫铯閪雭飋"), ("Segare ", "躮"), ("Sei ", "彁"),
   ("Seki ", "碵"), ("Sem ", "繊"), ("Sen ", "敾曑森椮槮歚甧穼篸縇蔘襂"), ("Senchigura ", "甅"),
   ("Seng ", "僧鬙"), ("Sey ", "笹"), ("Sha ", "乷倽傻儍厦唦唼啑啥喢帴帹廈杀桬榝樧歃殺沙煞猀痧砂硰箑粆紗纱翣莎萐蔱裟訯鎩铩閯霎髿魦鮻鯊鯋鲨"),
   ("Shachi ", "鯱"), ("Shai ", "晒曬筛篩繺閷"), ("Shaku ", "癪"),
   ("Shan ", "傓僐删刪剼善墠墡姍姗嬗山幓彡扇挻掞搧摲擅晱杉檆汕潸澘灗烻煽熌狦珊疝睒磰禅穇笘縿繕缮羴羶脠膳舢芟苫蟮蟺衫覢訕謆譱讪贍赡赸跚軕邖鄯醦釤銏鐥钐閃闪陕陝陿饍騸骟鱓鱔鳝"),
   ("Shang ", "丄上伤傷商墒姠尙尚慯扄晌殇殤滳漡熵蔏螪蠰觞觴謪賞赏銄鑜鬺"), ("Shao ", "佋劭勺卲哨娋少弰捎旓杓梢潲烧焼燒牊玿睄稍竰筲紹綤绍艄莦蛸袑輎邵韶颵髾"),
   ("She ", "佘厍厙奢射弽慑慴懾捨揲摂摄攝檨欇涉渉滠灄猞社舌舍蔎虵蛇蛥蠂設譇设賒賖赊赦輋鉈鍦铊韘騇麝"),
   ("Shen ", "什伸侁侺兟吲呻哂妽姺娠婶嬸审宷審屾峷弞愼慎扟抻昚柛椹氠涁深渖渗滲瀋燊珅甚申瘆瘎瘮眒眘瞫矤矧砷神籶籸紳绅肾胂脤腎葚葠薓蜃裑覾訠訷詵諗讅诜谂谉身邥鉮鋠頣頥駪魫鯵鲹"),
   ("Shen ", "鵢"), ("Sheng ", "偗剩剰勝升呏圣墭声嵊憴斘昇晠榺殅泩湦溗焺牲狌珄琞生甡甥畻盛省眚笙箵繩绳聖聲胜苼蕂譝貹賸鉎阩陞陹鱦鵿鼪"),
   ("Shi ", "世丗乨乭亊事仕使侍兘兙冟势勢十卋卶叓史呞呩嗜噬埘塒士失奭妛始嬕实実室宩寔實尸屍屎峕崼市师師式弑弒忕恃戠戺拭拾揓施时旹是昰時枾柹柿榯氏浉湁湜湤湿溡溮溼澨濕炻烒狮獅"),
   ("Shi ", "瑡眂眎睗矢石示礻祏竍竕笶筮箷簭絁翨舐舓莳葹蒒蒔蓍虱蚀蝕蝨褷襫襹視视試詩誓諟諡謚識识试诗谥豉豕貰贳軾轼逝遈適遾邿釈释釋釶鈟鈰鉂鉃鉇鉐鉽銴铈食飠飾餙餝饣饰駛驶鯴鯷鰣"),
   ("Shi ", "鰤鲥鲺鳀鳲鳾鶳鸤鼫鼭齛"), ("Shibui ", "渋"), ("Shide ", "椣"), ("Shigi ", "鴫"),
   ("Shiira ", "鱪鱰"), ("Shikato ", "聢"), ("Shikimi ", "梻"), ("Shime ", "乄"), ("Shinshi ", "籡"),
   ("Shitamizu ", "氺"), ("Shitsuke ", "躾"), ("Sho ", "墸"),
   ("Shou ", "兽収受售垨壽夀守寿手授掱收橸涭熟狩獸璹痩瘦綬绶艏荍鏉首"),
   ("Shu ", "书侸倏倐儵凁叔埱塾墅姝婌孰尌尗属屬庶庻忄恕戍抒掓摅摴攄数數暑曙書术束杸枢树梳樗樜樞樹橾殊殳沭淑漱潄潻澍濖焂疎疏癙盨秫竖竪紓絉綀纾署舒荗菽蒁蔬薥薯藷虪蜀術袕裋襡襩"),
   ("Shu ", "豎贖赎跾踈軗輸输述鉥錰鏣钃陎鮛鵨鶐鸀黍鼠鼡"), ("Shua ", "刷唰耍誜"), ("Shuai ", "卛咰孈帅帥摔甩縗繂缞蟀衰"),
   ("Shuan ", "拴栓涮閂闩"), ("Shuang ", "双塽孀孇慡樉欆灀爽礵縔艭雙霜騻驦骦鷞鸘鹴"), ("Shui ", "娷帨水涗涚睡瞓祱稅税蛻蜕裞誰谁"),
   ("Shun ", "吮揗楯橓瞚瞬舜蕣賰順顺鬊"), ("Shuo ", "哾妁揱搠朔槊欶洬烁爍獡矟硕碩芍蒴說説说鎙鑠铄"), ("Shuu ", "駲"),
   ("Si ", "丝亖伺似佀俟偲儩兕凘厮厶司咝嗣嘶噝四姒娰媤孠寺巳廝思撕斯杫柶楒榹死汜泀泗泤洍涘澌瀃灬燍牭磃祀禗禠禩私竢笥簛籭絲緦纟缌罳耜肂肆蕬蕼虒蛳蜤螄蟖蟴覗貄賜赐釲鈻鉰鋖颸飔飤"),
   ("Si ", "飼饲駟騦驷鷥鸶"), ("Sik ", "篒"), ("Sin ", "噺"), ("Sip ", "辻"), ("So ", "囎螦"), ("Sok ", "続"),
   ("Soko ", "椢"), ("Sol ", "乺"), ("Soma ", "杣"),
   ("Song ", "倯傱凇娀宋崧嵩嵷庺怂悚愯慫憽捒松枀柗梥楤檧淞濍硹竦耸聳菘蜙訟誦讼诵送鍶锶頌颂餸駷鬆"), ("Sonoko ", "蔶"), ("Sori ", "艝轌"),
   ("Sou ", "傁叜叟嗖嗽嗾廀廋捜搜摉摗擞擻櫢溲滫獀瘶瞍籔膄蒐蓃薮藪螋鄋醙鎪锼颼飕餿馊騪"), ("Souke ", "笽"),
   ("Su ", "俗傃僳嗉囌塐塑夙嫊宿愫愬憟栜榡樕橚櫯殐泝涑溯溸溹潥玊珟璛甦碿稣穌窣簌粛粟素縤肃肅膆苏蓿蔌藗蘇蘓蜶觫訴誎謖诉谡趚速遡遬酥鋉餗驌骕鯂鱐鷫鹔"),
   ("Suan ", "匴狻痠祘笇筭算蒜酸"), ("Subashiri ", "鯐"), ("Suberu ", "辷"), ("Suei ", "湪"), ("Sugi ", "杦"),
   ("Sui ", "亗倠哸埣夊嬘岁嵗巂攵旞檅檖歲歳毸浽滖澻濉瀡煫熣燧璲瓍眭睟睢砕碎祟禭穂穗穟綏繀繸绥膸芕荽荾虽襚誶譢谇賥遀遂邃鐆鐩隋随隧隨雖鞖髄髓"),
   ("Sukesou ", "鯳"), ("Sukumo ", "粭糘蒅"), ("Sun ", "孙孫愻损損搎榫槂狲猻笋筍箰簨荪蓀蕵薞鎨飧飱"),
   ("Suo ", "傞唆唢嗍嗦嗩娑所挱挲摍摵擌暛桫梭樎洓溑琐瑣璅瘷簑簔索縮缩莏蓑褨趖蹜逤鎍鎖鎻鏁鏼锁"), ("Susa ", "苆"), ("Swu ", "獣"),
   ("Sya ", "仒"), ("Ta ", "亣他嗒嚃嚺塌塔墖她它崉挞搨撻榙榻橽毾沓涾溻澾濌狧獭獺祂禢羍誻譶跶踏蹋蹹躂躢遝遢錔鎉鑉闒闥闼阘鞜鞳鮙鰨鳎龖龘"),
   ("Tafu ", "椨"), ("Tai ", "儓冭台囼坮太夳嬯孡忲态態抬擡旲曃檯汰泰溙炱炲燤籉肽胎臺舦苔菭薹跆邰酞鈦钛颱駘骀鮐鲐"), ("Tako ", "凧"),
   ("Tamo ", "櫤"),
   ("Tan ", "倓傝僋叹啴嗿嘆嘽嘾坍坛坦埮墰墵壇壜婒忐怹惔憛憳憻抩探摊擹攤昙曇榃橝檀歎毯湠滩潭灘炭璮痰瘫癱碳禫緂罈罎膻舑舚艢菼藫袒襢覃談譚譠谈谭貚貪賧贉贪赕郯醈醓醰錟鐔锬镡餤驔"),
   ("Tan ", "黮"),
   ("Tang ", "伖倘偒傏傥儻劏唐啺嘡坣堂塘帑惝戃搪摚摥曭棠榶樘橖汤淌湯溏漟烫煻燙爣瑭矘磄禟篖糃糖糛羰耥膅膛蓎薚蝪螗螳赯趟踼蹚躺鄌醣鎕鎲鏜鐋钂铴镋镗闛隚鞺餹饄鶶鼞"),
   ("Tani ", "渓礀"), ("Tao ", "匋叨咷啕垰套嫍嵶弢慆掏搯桃梼槄檮洮涛淘滔濤瑫祹絛綯縚縧绦绹翢萄蜪裪討詜謟讨轁迯逃醄鋾錭陶鞀鞉鞱韜韬飸饀饕駣騊鼗"),
   ("Tap ", "畓"), ("Tara ", "樰膤"), ("Tasuki ", "襷"), ("Tatamu ", "疂"), ("Tatsu ", "燵"),
   ("Tay ", "垈"), ("Tazuna ", "幉"), ("Te ", "忑忒慝棏特蚮蟘貣鋱铽鴏"), ("Ten ", "壥鵈"),
   ("Teng ", "儯幐滕漛疼籐籘縢腾膯蕛藤螣誊謄邆駦騰驣鰧鼟"), ("Tha ", "咜"), ("Thon ", "瓲"),
   ("Ti ", "体俤倜偍剃剔厗啼嗁嚏嚔媂媞屉屜崹悌悐惕惖惿挮掦提揥替梯歒殢涕漽珶瑅睼碮禔禵稊籊綈緹绨缇罤荑薙蝭褅褆謕趧趯踢蹄蹏躰軆迏逖逷遆醍銻鍗鐟锑隄題题騠骵體髢髰鬀鬄鮷鵜鶗鶙鷈"),
   ("Ti ", "鷉鹈鼶"), ("Tian ", "倎兲唺嗔塡填天婖屇忝恬悿掭搷晪殄沗沺淟添湉煔璳甛甜田畋畑盷睓窴胋腆舔菾蚕覥觍賟酟錪鍩锘闐阗靔靝靦頲颋餂鷆鷏黇"),
   ("Tiao ", "佻嬥宨岧岹庣恌挑旫晀朓条條樤眺祒祧窕窱笤粜糶絩聎脁芀苕萔蓨蜩覜誂趒跳迢鋚鎥鞗髫鮡鰷鲦齠龆"), ("Tie ", "呫帖怗萜蛈貼贴鉄銕鋨鐡鐵铁锇飻餮驖鴩"),
   ("Ting ", "亭侹停厅厛听圢婷嵉庁庭廰廳廷挺朾桯梃楟榳汀涏渟烶珽町甼筳綎耓耵聤聴聼聽脡艇艼莛葶蜓蝏誔諪邒鋌铤閮霆鞓鯅鼮"), ("Toan ", "檲"),
   ("Tochi ", "杤"), ("Todo ", "魹"), ("Toki ", "鵇"), ("Tomo ", "鞆"), ("Ton ", "獤"),
   ("Tong ", "仝佟侗僮勭同哃嗵姛峂峒峝庝彤恫恸慟憅捅晍曈朣桐桶樋氃浵潼炵烔熥燑爞犝狪獞痌痛瞳砼硐秱穜童筒筩粡絧統綂统罿膧艟茼蓪蕫蘣衕詷迵通酮鉖鉵銅铜餇鮗鮦鲖鼨"),
   ("Toride ", "塁"), ("Totemo ", "迚"), ("Tou ", "亠偷偸匬坄头妵婾媮投斢牏紏透酘鈄鍮钭陦頭骰黈"), ("Tsuchi ", "汢"),
   ("Tsugumi ", "鶫"), ("Tsuki ", "欟"), ("Tsukusu ", "殫殱"), ("Tsumekanmuri ", "爫"),
   ("Tsuraneru ", "聨"),
   ("Tu ", "兎兔凃凸吐唋図图圕圖圗土圡堍堗塗宊屠峹嵞嶀庩廜徒怢捈捸揬梌涂涋湥潳瑹痜瘏禿秃稌突筡腯芏荼菟葖蒤跿途酴釷鈯鋵鍎钍馟駼鵚鵵鶟鷋鷵鼵"),
   ("Tuan ", "剸团団團彖慱抟摶槫湍漙煓猯畽疃糰褖貒鏄鷻黗"), ("Tui ", "俀僓娧尵弚推橔煺穨腿蓷藬蘈蹆蹪退隤頹頺頽颓駾骽魋"),
   ("Tun ", "吞呑啍噋坉屯忳旽暾朜氽涒炖焞臀臋芚褪訰豘豚軘霕飩饨魨鲀"),
   ("Tuo ", "仛佗侂侻咃唾坨堶妥媠嫷岮庹彵托扥拓拕拖挩捝撱杔柝椭楕槖橐橢毤毻汑沰沱沲涶牠狏矺砣砤碢箨籜紽脫脱萚蘀袉袥託詑讬跅跎軃迱酡阤陀陁鞁飥饦馱馲駄駝駞騨驒驝驮驼魠鮀鰖鴕鵎"),
   ("Tuo ", "鸵鼉鼍鼧"), ("Twul ", "乧"), ("Ugui ", "鯎"), ("Uk ", "厼"), ("Un ", "繧"), ("Usagi ", "莵"),
   ("Ushihen ", "牜"), ("Utsubo ", "笂"), ("Utsuke ", "躻"), ("Uys ", "夞"),
   ("Wa ", "佤劸咓哇嗗嗢娃娲婠媧徍挖搲攨洼淴溛漥瓦畖穵窪聉腽膃蛙袜襪邷韈韤鼃"), ("Wai ", "咼喎外懀歪"), ("Waku ", "枠"),
   ("Wan ", "丸仴倇刓剜卍卐埦婉完宛帵弯彎忨惋抏挽捥晚晩晼梚椀汍浣湾潫澣灣烷玩琓琬畹皖盌睌睕碗紈綄綩綰纨绾翫脕腕芄莞菀萖萬蜿蟃豌貦贎踠輓鋄鋔錽鎫鞔頑顽鯇鲩"),
   ("Wang ", "亡亾仼兦妄尢尣尩尪尫彺往徃忘忹惘旺暀望朢枉棢汪瀇王網网罒罔莣菵蚟蛧蝄誷輞辋迋迬魍"), ("Wata ", "絋"),
   ("Wei ", "为亹伟伪位倭偉偎偽僞儰卫危叞味唯喂喡喴囗囲围圍圩壝委威娓婔媁媙媦嬒寪尉尾峗峞崣崴嵔嵬巍帏帷幃徫微徻惟愄愇慰揋斖暐未桅梶椲椳楲欈沩洈洧浘涠渨渭湋溦溾潍潿濰濻瀢炜為"),
   ("Wei ", "烓煒煟煨熭燰爲犚犩猥猬玮琟瑋畏痏痿癓矀硊硙碨磈磑維緭緯纬维罻胃腲艉芛苇苿荱菋萎葦葨葳蒍蓶蔚蔿薇薉薳藯蘤蘶蜲蜼蝛蝟螱衛衞褽覣覹詴諉謂讆讏诿谓贀踓躗躛軎轊违逶違鄬醀"),
   ("Wei ", "錗鍏鍡鏏闈闱隇隈隗霨霺韋韑韙韡韦韪頠颹餧餵骩骪骫魏鮇鮠鮪鰃鰄鲔鳂鳚"),
   ("Wen ", "伆刎吻呡問塭妏彣抆揾搵文昷桽殟汶渂温溫炆熓玟珳琝瑥璺瘒瘟瞃稳穏穩紊紋纹聞肳脗芠莬蚉蚊螡蟁豱輼轀辒閿闅闦问闻阌雯馧馼魰鰛鰮鳁鳼鴍鴖鼤"),
   ("Weng ", "勜嗡塕奣嵡暡浻滃瓮甕瞈罋翁聬蓊螉鎓霐鶲鹟齆"), ("Wo ", "偓卧唩喔婑嬳幄我捰捾握斡楃沃涡涴涹渥渦濣焥猧窝窩肟臥莴萵蒦踒齷龌"),
   ("Wu ", "乌五仵伍侮俉倵儛兀剭务務勿午卼吳吴吾呉呜唔啎嗚圬坞垭塢墲奦妩娒娪娬婺媉嫵寤屋屼岉嵍嵨巫庑廡弙忢忤怃悞悟悮憮戊扤捂摀敄无旿晤杇杌梧橆歍武毋汙汚污沕洖洿浯溩潕烏焐無熃"),
   ("Wu ", "物牾玝珷珸瑦璑甒痦矹碔祦禑窏窹箼粅腛膴舞芜芴茣莁蕪蘁蜈螐誈誣誤诬误躌迕逜遻邬郚鄔鋈鋘鋙鎢钨铻阢隖雾霚霧靰騖骛鯃鰞鴮鵐鵡鷡鹀鹉麌鼯鼿齀"),
   ("Xi ", "习係俙傒僁僖兮凞匸卌卥厀吸呬咥唏唽喜喺嘻噏嚊嚱囍墍壐夕奚娭媐媳嬆嬉屃屓屖屣屭嵠嶍嶲巇希席徆徙徯忚忥怬怷怸恄恓息悉悕惁惜憘憙戏戯戱戲扱扸捿携擕攜敼昔晞晰晳暿曦析枲桸"),
   ("Xi ", "棤椞椺榽槢樨橀檄欯欷歖歙氥汐洗浠淅溪滊漇漝潝潟澙烯焈焟焬煕熂熄熈熙熹熺熻燨爔牺犀犔犧狶猎獥玺琋璽瓗瘜皙盻睎睳瞦矖矽硒磶禊禧稀稧穸窸簁糦系細綌縘縰繋繥繫纚细绤羲習翕"),
   ("Xi ", "翖肸肹膝舃舄舾莃菥葈葸蒠蒵蓆蓰蕮薂虩蜥螅螇蟋蟢蠵衋袭裼襲西覀覡覤觋觹觽觿諰謑謵譆谿豀豨豯貕赥赩趘蹊蹝躧郄郋郤鄎酅酾醯釃釳釸錫鎎鎴鏭鑴钖锡闟阋隙隟隰隵雟霫霼飁餼饩騱"),
   ("Xi ", "騽驨鬩鰼鱚鳛鵗黊黖鼷齂"),
   ("Xia ", "丅下侠俠傄冾匣吓呷嚇夏夓峡峽懗搳敮暇柙欱炠烚煆煵狎狭狹珨瑕疜疨睱瞎硖硤碬磍祫笚筪縀縖罅翈舝芐蕸虾蝦谺赮轄辖遐鍜鎋鏬閕閜陜霞颬騢魻鰕鶷黠"),
   ("Xian ", "仙仚伣俔僊僩僴先冼县咞咸哯唌啣嗛嘕垷奾姭娊娴娹婱嫌嫺嫻嬐孅宪尟尠屳岘峴崄嶮幰廯弦忺憪憲憸掀掺搟摻撊攇显晛暹杴枮橌櫶毨氙涀涎澖瀗灦烍燅燹狝猃献獫獮獻玁现珗現甉痃"),
   ("Xian ", "痫癇癎癣癬県睍瞯瞷礆礥祅祆禒秈筅箲籼粯糮絃絤綫線縣纎纖纤线缐羡羨羬胘腺臔臽舷苋苮莧葴蓒藓藖蘐蘚蚬蚿蛝蜆衔衘袨褼襳訮誢諴豏賢贒贤赻跣跹蹮躚輱轞酰銑銛銜鋧錎鍁鍌铣"),
   ("Xian ", "铦锨閑閒闲限陥险陷険險霰韅韯韱顕顯餡馅馦鮮鱻鲜鷳鷴鷼鹇鹹麲鼸齴"),
   ("Xiang ", "乡享亯佭像厢向响啌嚮塂奛嶑巷庠廂忀恦想晑曏栙橡欀湘珦瓖相祥箱絴緗纕缃翔膷芗萫葙薌蚃蟓蠁襄襐詳详象跭郷鄉鄊鄕鐌鑲镶闀闂響項项飨餉饗饟饷香驤骧鮝鯗鱌鱶鲞麘"),
   ("Xiao ", "俲傚効呺咲哓哮啋啸嘋嘐嘨嘯嘵嚣嚻囂娎婋孝宯宵小庨彇恔憢撨效敩斅斆晓暁曉枭枵校梟櫹歊歗毊洨消涍潇潚瀟灱灲烋焇熽獢痚痟皢硝硣穘窙笅笑筱筿箫箾篠簘簫綃绡翛肖胶膮萧萷"),
   ("Xiao ", "蕭藃虈虓蟏蟰蠨訤誟誵謏踃逍郩酵銷销霄鞩驍骁髇魈鮹鴞鸮"),
   ("Xie ", "些亵伳偕偰写冩劦勰协協卨卸叶嗋垥塮奊妎媟寫屑屟屧嶰廨徢恊愶慀懈拹挟挾揳搚撷擷斜斺旪暬楔榍榭歇泄泻洩渫澥瀉瀣灺焎熁燮燲爕猲獬疶祄禼籺糏紲絏絜絬綊緤緳纈绁缬缷翓胁脅"),
   ("Xie ", "脇脥膎葉薛薤藛蝢蟹蠍蠏血衸衺褉褻襭諧謝谐谢躞躠邂邪鋣鞋鞢鞵韰駴骱齘齥龤"),
   ("Xin ", "伈伩信俽兓卂噷囟妡嬜孞廞心忻惞攳新昕杺樳欣歆炘焮煡盺脪舋芯莘薪衅襑訢訫軐辛邤鄩釁鈊鋅鑫锌阠顖馨馸騂骍"),
   ("Xing ", "侀倖兴刑坓型垶姓娙婞嬹幸形性悻惺擤星曐杏洐涬渻濴烆煋猩瑆皨睲硎筕篂緈胻腥臖興荇莕蛵行觪觲邢郉醒鈃鉶銒鋞鍟钘铏陉陘雽餳饧馫鮏鯹"),
   ("Xiong ", "兄兇凶匈哅夐忷恟敻汹洶熊胷胸訩詗詾讻诇賯赨雄"), ("Xiou ", "璓"),
   ("Xiu ", "休俢修咻嗅嘼岫峀庥朽樇溴烌珛琇秀糔綇綉繍繡绣羞脩臹茠蓚袖褎褏貅銝銹鎀鏅鏥鏽锈饈馐髤髹鵂鸺齅"),
   ("Xu ", "伵侐俆偦冔勖勗卹叙吁呴喣嘘噓垿墟壻姁婿媭嬃嬬幁序徐怴恤慉戌揟敍敘旭旮旯旴昫晇朂栩楈槒欨欰歔歘殈汿沀洫湑溆漵潊烅煦珝珬疞盢盱瞁瞲稰稸窢籲糈絮緒緖縃繻續绪续聟胥芧蒣蓄"),
   ("Xu ", "蕦藇藚虗虚虛蝑訏許訹詡諝譃许诩谞賉鄦酗醑銊鑐需須頊须顼驉鬚魆魖魣鱮"),
   ("Xuan ", "伭佡儇吅咺喧埍塇妶媗嫙宣弲怰悬愃愋懸揎旋昍昡晅暄暅暶梋楥楦檈泫渲漩潠炫烜煊玄玹琁瑄璇璿眩眴睻矎碹禤箮絢縼繏绚翧翾萱蔙蕿藼蜁蝖蠉衒誸諠諼譞讂谖贙軒轩选選鉉鋗鍹鏇"),
   ("Xuan ", "铉镟鞙颴駽鶱鹮"), ("Xue ", "乴削吙吷坹学學屵岤峃嶨斈桖泬泶澩烕燢穴茓蒆觷謞趐辥雤雪靴鞾鱈鳕鷽鸴"),
   ("Xun ", "伨侚偱勋勛勲勳噀噚坃埈埙塤壎壦奞寻尋峋巡巺巽廵徇循恂挦撏旬曛杊枔栒桪槆橁殉毥汛洵浔潃潯灥焄熏燖燻爋狥獯珣璕畃矄紃纁臐荀荨蔒蕁蕈薫薰蘍蟳訊訓訙詢训讯询賐迅迿逊遜郇"),
   ("Xun ", "醺鑂陖韗顨馴駨驯鱏鱘鲟鵔鵕"),
   ("Ya ", "丫亚亜亞伢俹劜厊压厓呀哑唖啞嚈圠圧埡堐壓娅婭孲岈崕崖庌庘押挜掗揠枒桠椏氩氬涯漄牙犽猚猰玡痖瘂砑稏窫笌聐芽蕥蚜衙襾訝讶軋轧迓錏铔雃雅鴉鴨鵶鸦鸭齖齾"),
   ("Yadoru ", "舎"), ("Yagate ", "軅軈"), ("Yai ", "睚"), ("Yama ", "圸"), ("Yamashina ", "嵙"),
   ("Yan ", "严乵俨偃偐偣傿儼兖兗剡剦匽厌厣厭厳厴咽唁啱喭噞嚥嚴埏堰塩墕壛壧夵奄妍妟姲姶姸娫娮嫣嬊嬮嬿孍宴岩崦嵃嵒嵓嶖巌巖巗巘巚广延弇彥彦恹愝懕懨戭扊抁掩揅揜敥昖晏暥曣曮棪椻"),
   ("Yan ", "椼楌檐檿櫩沇沿淹渰渷湺滟演漹灎灔灧灩炎烟焉焔焰焱煙燄燕爓牪狿猒珚琂琰甗癌盐眼研砚硏硯硽碞礹筵篶簷綖罨胭臙艳艶艷莚菸萒葕蔅蔫虤蜒蝘衍裺褗覎觃觾言訁詽諺讌讞讠谚谳豓"),
   ("Yan ", "豔贋贗赝躽遃郔郾鄢酀酓酽醃醼釅鈆閆閹閻闫阉阎隁隒雁顃顏顔颜餍饜騐験騴驗驠验魇魘鰋鳫鴈鴳鶠鷃鷰鹽麙麣黡黤黭黶鼴鼹龑"), ("Yana ", "簗"),
   ("Yang ", "仰佒佯傟养劷勨咉坱垟央姎岟崵徉怏恙慃懩扬抰揚攁敭旸昜暘杨柍样楊様樣殃氧氱泱洋漾瀁炀炴烊煬玚珜瑒疡痒瘍癢眏眻禓秧紻羊羏羕胦蛘蝆詇諹輰鉠鍚鐊阦阳陽霷鞅颺飏養餋駚鰑"),
   ("Yang ", "鴦鸉鸯"),
   ("Yao ", "仸倄偠傜吆咬喓嗂垚堯夭妖姚婹媱宎尧尭岆峣崤崾嶢嶤幺徭愮抭揺搖摇暚曜杳枖柼楆榚榣殀殽淆溔烑熎燿爻猇猺獟珧瑤瑶眑矅穾窅窈窑窔窯窰筄耀肴腰舀艞苭药葯葽蓔薬藥蘨袎要覞訞"),
   ("Yao ", "謠謡讑谣趭軺轺遙遥邀銚鑰钥铫闄靿顤颻飖餆餚騕鰩鳐鷂鷕鹞鼼齩"), ("Yari ", "鑓"), ("Yasashi ", "誮"),
   ("Yashinau ", "羪"),
   ("Ye ", "业也亱倻偞僷冶吔啘嘢噎埜墷壄夜峫嶪嶫忦捓揶擛擨擪擫晔曄曅曗曵枼枽椰楪業殗殜液漜澲烨煠燁爗爷爺琊瑘皣瞱瞸耶蠮謁譺谒邺鄴野釾鍱鎁鎑鐷铘靥靨頁页餣饁馌驜鵺鸈"),
   ("Yi ", "一乁乂义乙亄亦亿仡以仪伇伊伿佚佾侇依俋倚偯儀億兿冝凒刈劓劮勚勩匜医吚呓呭呹咦咿唈嗌噫囈圛圯垼埶埸墿壱壹夁夷奕姨嫕嫛嬄嬑嬟宐宜宧寱寲屹峄峓崺嶧嶬已巸帟帠幆庡廙异弈弋"),
   ("Yi ", "弌弬彛彜彝彞役忆怈怡怿恞悒悘悥意憶懌懿扅扆扡抑抴挹捙掖掜揖撎攺敡斁旑旖易晲晹暆曀曎曳杙杝枍枱枻柂栘栧桋棭椅椸榏槷檍檥檹欭欹歋歝殔殪殹毅毉汉沂沶泆洂洟洢浂浥浳湙溢溰"),
   ("Yi ", "漪潩澺瀷炈焲熠熤熪熼燚燡燱猗獈玴珆瑿瓵異疑疫痍痬瘗瘞瘱癔益眤眱睪瞖矣礒祎禕秇移稦穓竡竩笖簃緆縊繄繶繹绎缢羛羠義羿翊翌翳翼肄肊肔胣胰腋膉臆舣艗艤艺芅苅苐苡苢萓蓺薏藙"),
   ("Yi ", "藝蘙虉蚁蛜蛡蛦蜴螔螘螠蟻衣衤衪袘袣袲裔裛褹襼觺訑訲訳詍詒詣誼謻譩譯議讉讛议译诒诣谊豙豛豷貤貽贻跇跠軼輢轙轶迆迤迻逘逸遗遺邑郼酏醫醳醷釔釴鈠鈶鉯銥鎰鏔鐿钇铱镒镱阣陭"),
   ("Yi ", "隿霬靾鞥頉頤顊顗顡颐飴餏饐饴饻駅驛驿骮鮧鯣鳦鴺鶂鶃鷖鷧鷾鸃鹥黓黟黳齮齸"), ("Yian ", "曕"), ("Yiao ", "鴁"), ("Yie ", "潱"),
   ("Yin ", "乚侌冘凐印吟唫喑噖噾嚚囙因圁垔垠垽堙堷夤姻婣婬寅尹峾崟崯嶾廕廴引愔慇慭憖憗懚摿斦朄栶檃檭檼櫽歅殥殷氤泿洇洕淫淾湚湮溵滛濥濦烎犾狺猌璌瘖瘾癊癮碒磤禋秵窨筃紖絪緸縯"),
   ("Yin ", "纼胤苂茚茵荫荶蒑蔩蔭蘟蚓螾蟫裀訔訚訡誾諲讔趛鄞酳釿鈏鈝銀銦铟银闉阥阴陰陻隂隐隠隱霒霠霪靷鞇音韽韾飮飲饮馻駰骃鮣鰥鳏鷣黫"),
   ("Ying ", "偀僌営嘤噟嚶塋婴媖媵嫈嬰嬴孆孾巆巊应廮影応應摬撄攍攖映暎朠桜梬楧楹樱櫻櫿浧渶溁滎滢潁潆濙濚瀅瀛瀠瀯瀴煐熒營瑛瑩璄璎瓔甇甖瘿癭盁盈矨硬碤礯穎籝籯縈纓缨罂罃罌膡膺"),
   ("Ying ", "英茔荥荧莹莺萤营萦萾蓥藀蘡蛍蝇蝧蝿螢蠅蠳褮覮謍譍譻賏贏赢迎郢鍈鎣鐛鑍锳霙鞕韺頴颍颕颖鴬鶧鶯鷪鷹鸎鸚鹦鹰"), ("Yingl ", "緓"),
   ("Yo ", "哟唷喲"), ("Yofune ", "艠"),
   ("Yong ", "佣俑傛傭勇勈咏喁嗈噰埇塎墉壅嫆嫞嬫嵱庸廱彮恿悀惥愑愹慂慵拥搈擁柡栐槦永泳涌湧滽澭瀜灉牅用甬痈癕癰禜臃苚蕹蛹詠踊踴邕郺鄘醟鏞镛雍雝顒颙饔鯒鱅鲬鳙"),
   ("You ", "丣亴优佑侑偤優卣又友右呦唀嚘囮囿姷宥尤岰峟峳幼幽庮忧怣怮悠憂懮攸斿有柚栯梄楢槱櫌櫾沋油泑浟游湵滺瀀牖牰犹狖猶猷由疣祐禉秞穃糿纋羐羑耰聈肬苃莠莤莸蕕蚰蚴蜏蝣訧誘诱"),
   ("You ", "貁輏輶迶逌逰遊邮郵鄾酉酭釉鈾銪铀铕駀魷鮋鯈鱿鲉鴢麀黝鼬"),
   ("Yu ", "与予于亏亐伃伛余俁俞俣俼偊傴兪哊唹喅喐喩喻噊噢噳圄圉圫域堉堣堬墺妤妪娛娯娱媀嫗嬩宇寓寙屿峪峿崳嵎嵛嶎嶼庽庾彧御忬悆悇惐愈愉愚慾懙戫扜扵揄敔斔斞於旟昱杅桙棛棜棫楀楡"),
   ("Yu ", "楰榆櫲欎欝欤欥欲歈歟歶毓毹毺汩浴淢淤淯渔渝湡滪漁澞澦灪焴煜燏燠爩狱狳獄獝玉玗玙琙瑀瑜璵畬畭畲瘀瘉瘐癒盂盓睮矞砡硢硲礇礖礜祤禦禹禺秗稢稶穥穻窊窬窳竽箊篽籅籞紆緎緰繘"),
   ("Yu ", "纡罭羭羽聥聿肀育腧腴臾舁舆與艅芋芌茟茰萭萮萸蒮蓣蓹蕍蕷薁蘌蘛虞虶蜟蜮蝓螤螸衧裕褕覦觎誉語諛諭謣譽语谀谕豫貐踰軉輍輿轝迂迃逳逾遇遹邘郁鄃鄅酑醧釪鈺銉鋊錥鍝鐭钰閾阈陓"),
   ("Yu ", "隃隅隩雓雨雩霱預预飫餘饇饫馀馭騟驈驭骬髃鬰鬱鬻魊魚鮽鰅鱼鳿鴥鴪鵌鵒鷠鷸鸆鸒鹆鹬黦齬龉龥"),
   ("Yuan ", "傆元円冤剈原厡厵员員噮囦园圆圎園圓圜垣塬夗妧妴媛媴嫄嬽寃岏怨悁惌愿掾援杬棩榞榬橼櫞沅淵渁渆渊渕湲源溒灁爰猨猭猿獂瑗眢禐笎箢緣縁缘羱肙芫苑萲葾蒝蒬薗蚖蜎蜵蝝蝯螈"),
   ("Yuan ", "衏袁裫裷褑褤謜貟贠轅辕远逺遠邍邧鋺鎱院願駌騵魭鳶鴛鵷鶢鶰鸢鸳鹓黿鼋鼘鼝"),
   ("Yue ", "刖哕噦妜岄岳嶽恱悅悦戉抈捳曰曱月枂樾泧瀹爚狘玥礿禴箹篗籆籥籰粤粵約约蘥蚎蚏越跀跃躍軏鈅鉞钺閱閲阅鸑鸙龠"), ("Yuki ", "裄"),
   ("Yun ", "云傊允勻匀喗囩夽奫妘孕恽惲愠愪慍抎昀晕暈枟榅榲橒殒殞氲氳沄涢溳澐煴熅熉熨狁玧畇眃磒秐筠筼篔紜緷緼縕縜纭缊耘耺腪芸荺蒀蒕蒷蕓蕰蕴薀藴蘊蝹褞賱贇赟輑运運郓郧鄆鄖酝醖"),
   ("Yun ", "醞鈗鋆阭陨隕雲霣韞韫韵韻饂鶤"), ("Yuri ", "岼"), ("Yuru ", "閖"), ("Z ", "鰦"),
   ("Za ", "匝咂囐嶻帀抸杂沞砸磼蓙襍迊鉔雑雜雥韴魳鮺鲝"), ("Zai ", "侢傤儎再哉在宰崽扗栽渽災灾烖縡賳載载酨"),
   ("Zan ", "倃儧儹兂咱喒噆囋寁拶撍攅攒攢昝暂暫桚欑沯濽灒瓉瓒瓚礸禶穳簪簮糌襸讃讚賛贊赞趱趲鄼酂酇錾鏨鐕"),
   ("Zang ", "匨塟奘弉牂羘脏臓臜臟臢臧葬蔵賍賘贓贜赃銺駔驵髒"), ("Zao ", "傮凿唕唣噪慥早枣梍棗澡灶燥璪皁皂竃竈糟繰缲艁薻藻蚤譟趮蹧躁造遭醩鑿髞"),
   ("Ze ", "仄则則啧嘖夨崱帻幘庂択择捑擇昃昗汄沢泽溭澤皟瞔稄笮箦簀耫舴荝萴蠈蠌諎謮責賾责赜迮鰂鲗"), ("Zei ", "戝賊贼鱡"), ("Zen ", "怎譖譛谮"),
   ("Zeng ", "増增憎橧熷璔甑矰磳繒缯罾譄贈赠驓"),
   ("Zha ", "乍偧剳劄厏吒咋咤哳喳奓宱扎抯挓揸搾摣札柤柵栅楂榨樝渣溠灹炸牐猹甴皶皻眨砟箚簎紥紮膪苲蚱蚻蜡蠿觰詐譗诈醡鍘铡閘闸霅鮓鲊齄齇"),
   ("Zhai ", "债債宅寨捚摘斋斎榸瘵砦礋窄鉙飵齋"),
   ("Zhan ", "佔偡占厃嫸展崭嶃嶄嶘嶦战戦戰拃搌斩斬旃旜栈栴桟棧椫椾榐樿橏毡氈氊沾湛琖皽盏盞瞻站綻绽菚薝蘸虥虦覘覱觇詀詹譫讝谵趈蹍蹔輚輾轏辗邅醆鉆霑顫颤颭飐飦饘驏驙魙鱣鳣鸇鹯"),
   ("Zhang ", "丈仉仗傽墇嫜嶂帐帳幛张張彰慞扙掌暲杖樟涨涱漲漳獐璋痮瘬瘴瞕礃章粻緔绱胀脹蔁蟑賬账遧鄣障鞝餦騿鱆麞"),
   ("Zhao ", "兆召垗妱巶找招旐昭曌朝枛柖櫂沼炤照燳狣瑵盄着瞾窼笊箌罩羄肁肇肈菬詔诏赵趙釗鉊鍣钊雿駋鵫"),
   ("Zhe ", "乇厇哲啠啫喆嗻嚞埑嫬悊折摺晢晣柘檡歽浙烢瓋砓磔禇籷者耴蔗虴蜇螫蟅褶襵詟謫謺讁讋讘谪赭踷輒輙辄这這遮銸鮿鷓鸅鹧"),
   ("Zhen ", "侦侲偵圳堻塦媜嫃寊帪弫抌抮挋振揁揕搸敒敶斟昣晸朕枕栕栚桢桭楨榛樼殝溱潧澵獉珍珎瑊瑱甄畛疹眕眞真眹砧碪磌祯禎禛稹笉箴籈紾絼縝縥缜聄胗臻蒖蒧蓁薽蜄袗裖診誫诊貞賑贞"),
   ("Zhen ", "赈軫轃轸辴遉酙針鉁錱鍼鎭鎮针镇阵陣震靕駗鬒鱵鴆鸩黰"),
   ("Zheng ", "争佂埩姃峥崝崢帧幀征徰徴徵怔愸抍拯挣掙掟撜政整正氶炡烝爭狰猙症癥眐睁睜筝箏篜糽聇蒸証諍證证诤踭郑鄭鉦鋥錚鏳钲铮锃鬇鴊"),
   ("Zhi ", "之侄値值偫傂儨制劕劧卮厎厔只吱咫址坁坧垁埴執墌夂妷姪娡嬂寘峙崻巵帋帙帜幟庢庤彘徏徝志忮恉慹憄懥懫执扺抧挃指挚掷搘搱摭摯擲擿支旘旨晊智枝枳柣栀栺桎梔梽植椥楖榰樴櫍"),
   ("Zhi ", "止殖汁汥沚治洔洷淛淽滍滞滯漐潌炙熫犆狾猘璏瓆瓡畤疐疧疻痔痣直知砋礩祇祉祑祗祬禃秓秖秩秪秲秷稙稚稺穉窒筫紙紩絷綕緻縶織纸织置翐聀职職肢胑胝胵脂腟膣膱至致臸芖芝芷藢"),
   ("Zhi ", "蘵蛭蛰蜘螲蟄蟙衼袟袠製褁襧覟觗觯觶訨誌豑豒豸貭質贄质贽趾跖跱踬踯蹠躑躓軄軹輊轵轾迣郅酯釞銍鋕鑕铚锧阯陟隻雉馶馽駤騭騺驇骘鯯鳷鴙鴟鴲鵄鷙鸷黹鼅"),
   ("Zhong ", "中乑仲伀众偅冢刣喠堹塚妐妕媑尰幒彸忠忪柊歱汷泈湩潨炂煄狆盅眾祌種筗籦終緟终肿腫舯茽蔠蚛螽衆衳衶衷諥踵蹱重鈡銿鍾鐘钟锺鴤"),
   ("Zhou ", "伷侜僽冑周呪咒咮啁喌噣妯宙州帚徟昼晝晭洀洲淍烐珘甃疛皱皺盩睭矪箒籀籒籕粙粥紂縐繇纣绉肘胄脽舟荮菷葤詋譸诪賙赒軸輈輖轴辀週郮酎銂駎騆鯞鵃鸼"),
   ("Zhu ", "丶主伫佇住侏劚助劯嘱囑坾壴孎宁宔寧嵀拄斸朮朱杼柱柷株槠樦橥櫧櫫欘殶注洙渚潴濐瀦灟炢炷烛煑煮燭爥猪珠疰瘃眝瞩矚砫硃祝祩秼窋竚竹竺笁笜筑筯箸築篫紵紸絑纻罜羜翥舳苧茱"),
   ("Zhu ", "茿莇著蓫蛀蛛蝫蠋蠩蠾袾註詝誅諔諸诛诸豬貯贮趉跓跦躅軴逐邾鉒銖鋳鑄铢铸陼飳馵駐駯驻鮢鯺鱁鴸麆麈鼄"), ("Zhua ", "抓挝撾檛爪膼髽"),
   ("Zhuai ", "拽跩"), ("Zhuan ", "专僎叀啭囀堟塼嫥孨専專撰灷瑑瑼甎砖磚竱篆篿籑縳耑腞膞蒃蟤襈譔賺贃赚跧転轉转鄟顓颛饌馔鱄鷒"),
   ("Zhuang ", "壮壯壵妆妝娤庄撞桩梉樁焋状狀粧糚荘莊装裝"), ("Zhui ", "坠墜娺惴桘椎沝甀硾礈窡笍綴縋缀缒膇諈譵贅赘追錐鑆锥隹餟騅骓鴭鵻鵽"),
   ("Zhun ", "准凖埻宒棆準稕窀綧肫衠諄谆迍隼鶽"), ("Zhung ", "瘇"),
   ("Zhuo ", "丵倬剢劅卓叕啄啅圴妰彴拙捉撯擆擢斀斫斮斱斲斵晫桌梲棁棳椓槕櫡汋泎浊浞涿濁濯灂灼炪烵焯琢琸硺禚穛穱篧籗籱絀绌罬茁蠗諑謶诼踔酌鋜錣鐯鐲镯鷟"),
   ("Zi ", "仔倳兹剚吇呰呲咨啙嗞姉姊姕姿子孖字孜孳孶嵫恣扻杍栥梓椔榟淄渍湽滋滓漬澬牸玆甾眥眦矷禌秄秭秶稵笫籽粢紎紫緇缁耔胏胔胾自芓茈茊茡茲菑葘虸訾訿諮谘貲資赀资趦輜輺辎鄑釨鈭"),
   ("Zi ", "錙鍿鎡锱镃頾頿髭鯔鲻鴜鶅鶿鷀鹚鼒齍齜龇"),
   ("Zong ", "倊倧偬傯堫宗嵏嵕嵸总惣惾愡捴揔搃摠昮朡棕椶熜熧猔猣疭瘲碂磫稯粽糉糭綜緃総緵縂縦縱總纵综翪腙艐葼蓗蝬豵踨踪蹤鑁騌騣骔鬃鬉鬷鯮鯼"),
   ("Zou ", "奏媰掫揍棷棸箃緅菆諏謅诌诹走赱邹郰鄒鄹陬騶驟驺骤鯫鲰黀齱齺"), ("Zu ", "俎卆卒哫崒崪捽族爼珇祖租稡組组蒩詛诅足踤踿蹵鎐鏃镞阻靻"),
   ("Zuan ", "揝攥籫繤纂纉纘缵躜躦鑚鑽钻饡"), ("Zui ", "厜嘴噿嶉嶊嶵晬最栬槜樶檇檌洅璻祽絊纗罪羧脧蕞蟕襊觜辠酔酻醉鋷錊"),
   ("Zun ", "僔噂壿尊嶟捘撙樽燇繜罇譐遵銌鐏鱒鳟鷷"), ("Zuo ", "佐作侳做咗唑唨嘬坐夎岝岞左座怍昨柞椊毑祚秨稓筰糳繓胙葃葄袏酢鈼阼"), ("Zusa ", "橲")]

end AtomicCss.Text
