import Quartz.Charset.Table

/-!
# `Quartz.Charset.Big5`: the double-byte set of traditional Chinese

Ideographs, letters and symbols, with the extensions in common use. A row
has a hundred and fifty-seven cells, the first sixty-three of them for the
second bytes below `7F`.
-/

set_option autoImplicit false

namespace Quartz.Charset.Big5

/-- The rows of the table. -/
def rows : List String :=
  ["䏰䰲䘃䖦䕸𧉧䵷䖳𧲱䳢𧳅㮕䜶=䱇䱀𤊿𣘗𧍒𦺋𧃒䱗𪍑䝏䗚䲅𧱬䴇䪤䚡𦬣爥𥩔𡩣𣸆$^晍囻 綕夝𨮹㷴霴𧯯寛𡵞媤㘥𩺰嫑#4$H杮薓𩥅瑡k㡵𡵓𣚞𦀡㻬𥣞㫵竼龗𤅡𨤍𣇪𠪊𣉞䌊蒄龖鐯䤰蘓墖靊鈘秐!F晠,t袝瑌篅枂稬剏遆㓦珄𥶹瓆鿇垳䤯呌䄱𣚎堘穲𧭥讏䚮𦺈䆁𥶙箮𢒼鿈𢓁72鿉蔄𣖻䂴鿊䓡𪷿拁灮鿋",
    "㇀0000𠄌㇅𠃑𠃍㇆0𠃋𡿨㇈𠃊㇉000𠄎㇍0ĀÁǍÀĒÉĚÈŌÓǑÒ Ế 1Êfáǎàɑēéaèríǐìōóǒòūúǔùǖ111ü ế 1êɡ⏚0",
    "𪎩𡅅 攊  丽滝鵎釟  𧜵撑会=!d%fMWw务6!wB!g6*K声C2Z1学g0#I&Y%m斉(L5!E济+d电纤7=<7?V缷+9!9药视&eS+z06琑糼緍楆竉刧    醌碸酞肼 贋胶𠧧  肟黇䳍鷉r䰾𩷶𧀎鸊𪄳㗁 溚舾甙 䤑马R龙禇𨑬𡷊𠗐𢫦两!A亀6g[!0㑌侽㹈倃!i㑽EA円夅凛P8争剹F匧㗇厩㕑厰㕓参!E㕭4#]咓?@4FNX:4㖘唿㖥I嗗㗅",
    "𧶄唥 𠱂𠴕𥄫喐𢳆㧬𠍁蹆𤶸𩓥䁓𨂾睺𢰸㨴䟕𨅝𦧲𤷪擝𠵼𠾴𠳕.4撍蹾𠺖𠰋+O𢲩𨉖𤓓 𠵆𩩍𨃩䟴𤺧𢳂骲㩧𩗴㿭㔆𥋇𩟔𧣈𢵄鵮頕 䏙𦂥撴哣𢵌𢯊𡁷㧻𡁯𦛚k𧦠擪𥁒𠱃蹨𢆡𨭌𠜱 䠋𠆩㿺塳𢶍 𤗈𠓼𦂗𠽌𠶖啹䂻*@ 䪴𢩦𡂝膪飵𠶜捹㧾𢝵跀嚡摼㹃 𪘁𠸉𢫏&g 𡃈𣧂㦒!X𨊛㕸𥹉𢃇噒𠼱𢲲𩜠㒼氽𤸻  𧕴𢺋𢈈𪙛𨳍𠹺𠰴𦠜羓𡃏𢠃$9㗻𥇣𠺌#O𠺪㾓𠼰𠵇𡅏𠹌 !C𠮩%W+n!a㿹𢚖搲𠾭",
    "𣏴𧘹𢯎𠵾0𢱑3㨘𠺘𡃇𠼮𪘲𦭐𨳒𨶙𨳊閪哌苄喹 𩻃鰦骶𧝞𢷮煀腭胬尜𦕲脴㞗卟𨂽醶𠻺𠸏!L!h㗝𤷫㘉𠳖嚯𢞵𡃉𠸐!L&m𡅈𨈇𡑕𠹹𤹐𢶤婔𡀝0𡃵0垜𠸑𧚔𨋍𠾵𠹻𥅾㜃𠾶&7𥋘𪊽𤧚𡠺𤅷𨉼墙剨㘚𥜽箲孨䠀*m鼧䧧鰟鮍𥭴𣄽嗻㗲嚉丨夂𡯁屮靑𠂆乛!D㔾尣*o!W㣺扌)u歺氵4.G%w丬犭𤣩罒礻,i(1𦉪㓁 𦍋耂!b𦘒+5卝衤见𧢲讠%5钅#A6!M𨸏韦!s!=?!i𩠐鱼%[黄歯龜丷𠂇阝户钢",
    "倻淾𩱳龦㷉袏𤅎灷峵䬠𥇍㕙𥴰愢𨨲辧釶熑朙玺𣊁𪄇㲋𡦀䬐磤琂冮𨜏䀉橣𪊺䈣蘏𠩯稪𩥇𨫪靕灍匤𢁾鏴盙𨧣龧矝亣$P傼丯#6龨吴綋墒m𡶶庒6#w𢜒斋𣏹椙#x𣱣泿 爀𤔅玌㻛𤨓嬕璹讃𥲤𥚕窓篬糃%a苸(v龩袐龪躹龫迏蕟駠鈡龬𨶹𡐿䁱䊢娚   顨杫䉶圽 藖𤥻芿𧄍䲁𦵴嵻𦬕𦾾龭0宖龯曧繛湗秊㶈䓃𣉖𢞖䎚%T 峕𣬚諹屸㴒𣕑嵸龲煗䕘𤃬𡸣䱷㥸㑊𠆤𦱁諌侴𠈹妿腬顖𩣺弻",
    "𠮟 𢇁𨥭䄂䚻𩁹㼇龳𪆵䃸㟖䛷𦱆䅼𨚲𧏿䕭㣔𥒚䕡䔛䶉䱻#I䗪㿈𤬏㙡䓞䒽䇭崾9=㷼㠏嶤D㠠G幂!_!L!B㤈;Z=惗!J峥㦉憷1E㦸戬!H!9b㧸嚱㨃揢H;!7㩋擀崕嘡龟㪗斆㪽旿!8㫲暒㬢朖㭂枤!@㭘桊i㭲㭱9椉i牜楤j榅㮼槖㯝橥>橱@㯬檙㯲檫9NQ!ooX!od㳋洂3O!?㳯涤<!H2@!A𨧀溻V滚齿滨0j?㵆𣽁澁l㵪:熷岙㶊瀬㶑灐3J?9𠌥䏁㗱𠻘",
    "𣻗垾𦻓焾𥟠㙎榢𨯩孴穉𥣡𩓙穥G𥦬窻窰A0燑𦒍䇊竚2<䇯咲𥰁笋y笩𥌎𥳾箢筯莜𥮴𦱿篐萡箒 𥴠㶭𥱥蒒篺 j𥳁籄n𤢂粦晽𤕸糉糇N籴!c1 $u䔝𦹄絝𦻖璍綉Q焵綳 𤁗𦀩緤㴓緵𡟹緥𨍭 𦄡h繮S䌫鑬縧#g05礶𦋐駡羗𦍑羣𡙡𠁨䕜𣝦䔃𨌺翺𦒉 耈D A𪂇𦳃耻0T𢜔䦉𦘦𣷣𦛨朥肧𨩈脇B墰𢛶汿𦒘𤾸擧𡒊舘𡡞橓𤩥_䑺舩𠬍𦩒𣵾俹𡓽蓢荢𦬊𤦧𣔰𡝳𣷸芪椛芳䇛",
    "蕋苐y𠸖𡞴㛁𣅽𣕚艻!Ke𣺋𦶣𦬅!v𣗎㶿茝嗬莅䔋𦶥莬 V㑾𦻔橗蕚㒖𦹂𢻯葘𥯤葱㷓䓤檧葊𣲵祘 𦮖)m𦹃蓞 莑䒠蒓!5𥲑䉀𥳀䕃蔴嫲𦺙䔧蕳䔖枿蘖𨘥E藁𧂈蘂𡖂𧃍䕫䕪蘨㙈𡢢号𧎚虾#A𪃸蟮𢰧螱Xd噡虬桖䘏衅0𧗠𣶹𧗤衞m䙛袴0揁装睷𧜏覇2  LD𨨥觧𧤤%Q誜瞓釾誐𧩙竩𧬺𣾏䜓𧬸煼謌B𥐰$8謿<0誩𤩺讐:誯𡛟䘕衏.a𧵔j貫㜥𧵓賖𧶘T贒贃𡤐賛灜贑𤳉㻐",
    "趩𨀂𡀔𤦊㭼𨆼𧄌竧躭8<鋔輙C𨍥𨐒辥+T𪊟𠩐辳䤪𨧞𨔽𣶻廸𣉢迹𪀔𨚼𨔁𢌥㦀𦻗逷𨔼𧪾遡𨕬𨘋邨𨜓郄𨛦邮 酧㫰醩J粬𨤳𡺉鈎沟鉁P𥖹 𨫆𣲛𨬌𥗛𠴱錬n𨫡#X炏嫃𨫢2䥥鉄𨯬|𨯿鍳#6躼閅P鐦%2濶䊹𢙺𨛘𡉼𣸮䧟氜陻J䅬隣𦻕懚隶磵𨫠隽双䦡𦲸𠉴𦐐𩂯e𤫑𡤕𣌊霱虂霶䨏䔽w𤫩灵孁霛 𩇕靗孊𩇫靟鐥僐𣂷4鞉EA<1A=𥑬韮琜𩐳 韵𩐝𧥺䫑頴頳GJ㬎𧅵㵑𠘰𤅜",
    "𥜆飊颷@飇䫿𦴧𡛓喰飡45鍸餹𤨩䭲𩡗𩤅駵F^騐w𥜥㛄𩂱𩯕髠1𩬅髴䰎鬔H𨘀倴鬴𦦨㣃𣁽魐魀𩴾婅𡡣鮎𤉋鰂鯿<𩹨鷔𩾷&HH𪃡q𪇟鵾4𪄴鸎梈鷄𢅛𪆓!q𡤻𪈳鴹𪂹&h麐483䴴麪4𤍤黁㭠㧥*y伲㞾𨰫鼂5䮖鐤𦶢鼗 Q嚟嚊齅馸𩂋韲葿齢6竜龎爖䮾𤥵u煷𤧸𤍈𤩑玞𨯚𡣺禟𨥾𨸶鍩!n𨩄鋬!yy𨥬𤒹爗㻫睲)]烐𤑳𤏸煾𡟯炣𡢾𣖙㻇𡢅𥐯𡟸㜢𡛻$A㛡𡝴𡣑𥽋㜣𡛀坛𤨥𡏾𡊨",
    "𡏆#>蔃𣚦 葕𤦔𧅥𣸱𥕜𣻻𧁒䓴𣛮𩦝𦼦柹㜳㰕&?塬𡤢栐䁗𣜿𤃡𤂋!h𦰡哋&@𦚱嚒𠿟𠮨(<鏆𨬓鎜仸儫㠙𤐶亼𠑥𠍿佋n𥙑婨𠆫𠏋㦙𠌊#X㐵伩𠋀𨺳𠉵諚𠈌亘働o侢伃𤨎𣺊佂#:mD俌H!W僼    湶𣖕𣸹!j浲𡢄𣺉冨J𠗠䓝𠒣𠒒𠒑赺𨪜𠜎剙z𠡳勡 䙺熌𤎌𠰠𤦬𡃤槑𠸝 㻞璙琔q玘䮎𤪼𤂍叐㖄爏𤃉喴𠍅响𠯆圝鉝雴鍦埝垍坿㘾壋&;𨩆𡛺!Y𡜐娬妸銏婾!5娒𥥆𡧳𡡡𤊕㛵洅瑃娡𥺃",
    "媁𨯗𠐓鏠璌𡌃焅䥲鐈𨧻鎽㞠尞!d%x幈𡦖𡥼𣫮廍孏𡤃0㜁𡢠㛝𡛾㛓脪𨩇𡶺𣑲𨦨弌1𡤧𡞫婫𡜻孄蘔𧗽衠恾𢡠𢘫忛㺸𢖯>𩂈𦽳懀𠀾7𢘛憙憘恵𢲛!P𤛔𩅍摱𤙥𢭪㨩𢬢𣑐𩣪𢹸挷𪑛撶挱揑𤧣𢵧护𢲡搻#~楲㯴𣂎𣊭𤦉𣊫唍𣋠𡣙𩐿曎𣊉𣆳㫠䆐𥖄𨬢𥖏𡛼𥕛𥐥磮𣄃𡠪𣈴㑤𣈏𣆂𤋉暎𦴤晫䮓昰𧡰𡷫晣𣋒>昞𥡲㣑𣠺𣞼㮙𣞢𣏾瓐㮖枏𤘪梶栞㯄檾㡣𣟕𤒇樳N![k𡤒攑,2%l㯗橺歗𣿀𣲚鎠鋲𨯪𨫋",
    "銉𨀞𨧜鑧涥$i𤧬 𣽿㶏渄𤀼娽渊塇洤硂焻𤌚𤉶烱$bf<𤞏𤜥兹𤪤𠗫瑺𣻸𣙟𤩊𤤗𥿡㼆㺱𤫟𨰣𣼵悧㻳瓌琼鎇琷䒟𦷪䕑疃㽣𤳙𤴆㽘畕#l𪗆㬙瑨𨫌𤦫𤦎㫻)^𤩎㻿𤧅𤣳釺圲鍂𨫣𡡤僟𥈡𥇧睸𣈲眎0!P𤚗𣞁㩞𤣰琸!G㺿𤪺<䃈𤪖𦆮錇𥖁砞!S碈y珐祙𧝁𥛣䄎 蒖禥樭𣻺稺秴䅮𡛦䄲鈵秱𠵌𤦌𠊙𣶺𡝮㖗啫㕰$=𠇔𠰍竢婙𢛵𥪯𥪜娍𠉛磰娪𥯆竾䇹籝?䈑𥮳*J𥺦糍𤧹𡞰粎籼a檲緜Z緓$~𦉡",
    "𦅜𧭈綗𥺂䉪𦭵𠤖柖𠁎𣗏埄𦐒𦏸𤥢翝笧𠠬𥫩(1笌𥸎駦虅驣樜𣐿㧢𤧷𦖭騟𦖠蒀𧄧𦳑䓪脷䐂胆rh𦞴飃𦩂艢2𦩑葓𦶧蘐𧈛媆䅿𡡀嬫𡢡嫤𡣘蚠蜨𣶏蠭𧐢娂衮佅袇gV!c襍𥚃襔𧞅𧞄𨯵𨯙𨮜𨧹㺭蒣䛵䛏㟲訽訜𩑈彍鈫𤊄旔焩烄𡡅鵭貟y𧷜妚矃姰䍮㛔踪!a𤰉輰I䋴汘+Y𢌡䢛潹溋𡟚鯩㚵𤤯邻 啱䤆醻鐄𨩋䁢𨫼鐧𨰝M蓥訫閙=閗閖𨴴瑅㻂𤣿$F𤏪㻧𣈥随𨻧𨹦𨹥㻌𤧭!o𣿮琒!=㻼靁𩂰",
    "桇䨝𩂓𥟟 鍨𨦉(t𨬯𦎾銺嬑譩䤼珹𤈛鞛靱&4𠼦巁𨯅𤪲頟𩓚鋶𩗗釥䓀𨭐𤩧𨭤飜𨩅㼀鈪䤥萔餻A𧬆㷽馛䭯馪驜𨭥𥣈檏騡嫾騯𩣱䮐𩥈馼䮽䮗鍽塲𡌂堢𤦸𡓨硄𢜟𣶸棅㵽鑘㤧慐𢞁&W愇鱏3W鰵鰐魿!4𩸭鮟𪇵𪃾鴡䲮𤄄鸘䲰鴌𪆴𪃭5𩤯鶥蒽𦸒&:𦮂藼䔳𦶤𦺄𦷰萠&;𦸀𣟗𦁤秢𣖜𣙀䤭𤧞㵢鏛銾!n𠊿碹鉷&C俤㑀遤𥕝砽F!F硋𡝗𣇉𤥁㚚佲濚濙 t吔𤆵垻$;垊鴖埗焴㒯𤆬燫𦱀𤾗 𡞵𨩉",
    "愌嫎娋䊼𤒈㜬䭻𨧼鎻鎸𡣖𠼝葲𦳀𡐓𤋺𢰦𤏁妔𣶷𦝁綨𦅛𦂤𤦹𤦋𨧺鋥珢㻩璴𨭣𡢟㻡𤪳櫘珳7㻖𤨾!:𡟙𤩦𠎧𡐤𤧥瑈𤤖炥𤥶銄珦鍟𠓾錱𨫎𨨖鎆𨯧𥗕䤵𨪂煫𤥃𠳿嚤𠘚𠯫𠲸唂秄𡟺緾𡛂𤩐𡡒䔮鐁㜊𨫀𤦭妰𡢿𡢃𧒄媡㛢𣵛㚰鉟婹𨪁𡡢鍴㳍𠪴䪖㦊僴㵩㵌𡎜煵䋻𨈘渏𩃤䓫浗𧹏灧沯㳖𣿭𣸭渂#X㵯𠏵畑㚼㓈䚀㻚䡱姄鉮䤾轁𨰜𦯀堒埈㛖𡑒烾𤍢𤩱𢿣𡊰𢎽梹楧𡎘𣓥𧯴𣛟𨪃𣟖𣏺𤲟樚𣚭𦲷萾䓟䓎",
    "𦴦Z𦲂+R漗𧄉茽𡜺菭𦲀,~𡟛妉#G𡞳婡?𡤅𤇼㜭姯𡜼㛇熎鎐暚𤊥婮娫𤊓樫𣻹𧜶𤑛𤋊焝𤉙𨧡侰𦴨峂𤓎𧹍𤎽樌𤉖𡌄炦!q𤏩㶥泟勇𤩏繥姫+:㷳彜𤩝𡟟綤萦咅𣫺𣌀𠈔坾𠣕𠘙㿥𡾞𪊶瀃𩅛嵰玏糓𨩙𩐠俈翧狍r𧫴猸0𥛶獁6㺩𧬘遬燵𤣲珡臶㻊県㻑沢国琙40㻢=35瓓㼎t畂Z4J㽼痈C㿀癍㿗癴㿜発𤽜熈嘣覀塩䀝睃䀹条䁅㗛瞘䁪4属瞾<売砘点砜䂨砹=9D葈𥔵礳栃礲䄃",
    "䄉禑7辻稆込䅧窑䆲窼艹䇄竏;䇏両筢9>簒8䉠I类P䊌粸䊔糭输烀𠳏総4緐緽%i5犟䎗耠4笹耮2R㷌垴炠肷a䏭脌猪脎3畠脔䐁㬹腖20䐓堺腼7䐥膓䐭膥埯臁R!T䒏芦艶!8=V䒰荗险榊萅烵葤惣蒈䔄蒾RFGWI䔻蕯0!T䕷虲OOl际螋䘆@袮!5TRy𧥧訩>!@O%U!gMY䞘塟跃䟭仮踺嗘%4蹱嗵躰䠷軎C184辷981!K駄䢭飠鈓䤞鈨_Bu銮@",
    "鋣7708upX䥅;麿鐗匁鐝?@䥪鑔T锭!Y䦧间n䧥枠䨤靀䨵鞲?噔䫤惨颹䬙飱塄餎:冴餜J:J4䭰駅䮝騼鬏窃魩G!@C2䱭鰠㝯𡯂鵉鰺)P噐鶓Y2k银辶鹻麬4;8铜黢>6竈齄𠂔𠊷#7椚铃妬𠓗塀铁㞹𠗕o!E𡚺块煳𠫂:#@呪吆𠯋咞𠯻oGAF惧𠲍噺𠲵W?!frE楕鰯螥𠸄9𠻗𠾐𠼭𠹳尠𠾼帋𡁜𡁏V朞𡁻<=㙇𡂿C!@;卤蒭𡋣!v𡌶讁𡕷𡘙%b3乸炻𡠭$@",
    "𡨭G&Ruk𡻈拃𡻕o熘桕𢁅槩㛈𢉼$^R*q$J𢥏苽𢥧[$E覥𢫨辠𢬎鞸𢬿顇(M𢱌 k^𥯨𢴈9𢶷𢶕𢹂$5!<!Kb)E𣏞徱晈![𧩹𣕧!p 𤦺 𣘚#J 𠍆墵朎&w𣪧𧙗𥿢𣸑𣺹𧗾𢂚䣐&U𤄙𨪚𤋮N𤀻*:!F𤩅𠗊凒𠘑妟𡺨㮾𣳿𤐄𤓖垈𤙴㦛𤜯𨗨𩧉㝢𢇃譞𨭎 𤠒#7#h爉𤫀𠱸奥𤺥𤾆𠝹軚𥀬劏圿煱𥊙%8𣽊𤪧喼𥑆W𦭒 㑳𥔿𧘲𥕞䜘𥕢3(8𤤿𥡝偦㓻𣏌 𥤃䝼𨥈𥪮𥮉!a𡶐垡煑 𦄂𧰒遖𦆲𤾚譢𦐂w",
    "嵛𦯷 𦒄𡤜諪𤧶𦒈𣿯𦔒䯀𦖿#D𢜛鑥𥟡憕娧晉 嚹𤔡𦛼乪𤤴陖涏𦲽㘘襷𦞙𦡮𦐑.b !M筂𩃀𠨑𦤦 B穅 𦧺騦𦨭㙟𦑩𠀡禃𦨴#u崬𣔙 𦮝䛐𦲤画补𦶮墶㜜𢖍𧁋%:㱔𧊀4銁𢅺𧊋錰𧋦𤧐氹钟𧑐𠻸蠧裵𢤦𨑳𡞱溸𤨪𡠠㦤㚹  䔿暶𩲭𩢤襃𧟌!p囖䃟𡘊㦡𣜯𨃨𡏅熭荦𧧝𩆨 䲷𧂯𨦫𧧽<#O(2𤅺筃祾𨀉澵𪋟樃𨌘厢𦸇鎿栶靝𨅯𨀣𦦵𡏭𣈯𨁈嶅𨰰𨂃圕頣𨥉嶫𤦈斾槕叒𤪥𣾁㰑朶𨂐!Hi𡾡𨅏",
    "𨆉U!O#:X!?㗊𨑨𨚪䣺揦𨥖砈鉕𨦸䏲𨧧䏟𨧨$a!r姸𨰉 ,g#u S[㷷𩅞𤫊运犏嚋𩓧#P𩖰7%2%W𩥉P!=!I#4𩵚p纟𩻸Z䲤镇𪊓熢𪋿䶑递𪗋䶜𠲜达嗁辺𢒰边𤪓䔉繿潖檱仪㓤𨬬𧢝㜺躀𡟵𨀤𨭬𨮙𧨾𦚯㷫𧙕𣲷𥘵*b亚𥺁𦉘嚿𠹭踎孭𣺈𤲞揞 𡟶!i攰嘭𥱊吚𥌑㷆𩶘䱽嘢嘞罉𥻘奵𣵀蝰东𠿪𠵉𣚺脗鵞贘瘻鱅癎$n鍅吲腈%g嘥脲)r肽嗪祢噃吖𠺝㗎嘅嗱曱𨋢㘭甴嗰喺咗啲𠱁!9廐𥅈𠹶𢱢",
    "𠺢麫絚嗞𡁵抝靭咔賍燶酶揼掹t啩𢭃鱲𢺳冚㓟𠶧冧)2唞唓癦踭𦢊疱肶蠄螆$D膶(=𡃁䓬猄𤜆宐茋𦢓噻𢛴𧴯𤆣𧵳𦻐𧊶酰𡇙鈈𣳼𪚩𠺬|牦𡲢䝎𤿂𧿹𠿫䃺鱝攟𢶠䣳𤟠𩵼𠿬𠸊 𧖣𠿭 𦁈𡆇熣纎鵐业丄㕷嬍沲卧㚬*q卽㚥𤘘墚𤭮舭呋+U𥪕𠥹 㩒𢑥獴𩺬䴉鯭𣳾𩼰䱛𤾩𩖞𩿞葜𣶶𧊲𦞳𣜠挮紥𣻷𣸬㨪逈勌㹴㙺䗩𠒎癀嫰𠺶硺𧼮墧䂿噼鮋嵴癔𪐴麅䳡 㟻愙𣃚𤏲 噝𡊩垧𤥣𩸆刴𧂮㖭 鵼",
    "籖鬹埞𡝬屓擓𩓐𦌵𧅤蚭𠴨𦴢𤫢𠵱 凾𡼏嶎霃𡷑麁遌笟鬂峑箣扨挵髿篏鬪籾 籂s鰕篼鬉 鰛𤤾齚啳寃俽麘俲(E㸆勑坧偖妷.p韈鶫轜呩鞴%D鞺匬愰椬叚鰊#F䰻陁榀傦畆𡝭駚剳 酙隁酜 酑𨺗捿𦴣櫊嘑醎畺抅𠏼獏籰𥰡𣳽 𤤙盖鮝个𠳔莾衂 届槀 坺刟巵从氱𠇲伹咜m劚趂㗾 㗳 歒酼龥鮗頮!j&s麨麄煺笔 毺蠘罸 嘠𪙊蹷齓 跔!_鸜踁抂𨍽踨|竓𤩷稾磘泪詧瘇",
    "𨩚鼦泎蟖痃𪊲硓咢贌狢!s謭猂瓱賫𤪻蘯徺袠䒷 𡠻𦸅 詾𢔛 惽癧髗(D鍮鮏蟵  賷猬霡鮰㗖犲䰇籑饊𦅙慙䰄麖慽 坟慯$:戹 㩜懢厪𣏵捤栂㗒嵗𨯂迚𨸹 僙𡵆礆匲阸𠼻䁥 矾 糂𥼚糚稭聦聣絍甅瓲覔舚朌聢𧒆聛瓰脃眤覉𦟌畓𦻑螩T臈螌)I(;譃眫瓸蓚㘵榲趦 覩 涹蟁𤀑瓧㷛煶悤#F㳑 恷 罱𨬭 惩䭾删㰘𣳇𥻗𧙖𥔱𡥄𡋾𩤃𦷜)]峁𦆭𨨏𣙷𠃮𦡆𤼎䕢嬟𦍌齐麦𦉫",
    "　，、0．‧；：4！︰…‥﹐00·﹔000#S–︱—︳╴︴J（0︵0#s1︷0〔0︹0【0︻0《0︽0〈0︿0「0﹁0『0﹃0D00000‘020〝0‵′＃23※§〃○3△▲Kg★◇◆□■L▼㊣℅¯￣＿ˍ﹉020﹋0B00＋1×O±√＜1＝≦0≠∞c>﹢0000#F∩0!_∠∟⊿㏒㏑∫26∴♀1⊕3↑1←1301↘!q∣／",
    "＼∕﹨＄￥〒￠0％J℃5﹩00㏕㎜00_㎡㎎0d°兙12兝31嗧瓩糎▁00000006▎▍▌▋▊▉┼┴┬┤├▔─1!w┌333!901╯═=;╡!e01◤╱00０000000000Ⅰ000000000〡00000000十20Ａ00000000000000000000000006000000000000000000000",
    "ｗ000Α00000000000000001000000700000000000000001000000ㄅ000000000000000000000000000000000000˙ˉ0ˇ3␀00000000000000000000000000000001€",
    "一!=丁1oIX5]儿U5!YO0!~!^[J!P三1丈1P<,T久2F乞_B(v刃#Ex!jI+2&9YA!0&J01寸FBEh$o7;00:!X!p<7+0丑丐不O28A尹予83互1=N什2205今0仄(V允U50公Z!C?00#A20FR>升卅HUv及2壬l1太2孔少BEd%=!k!hD0心戈]D2)m!<?<D[#YGO欠qF!686cT.L%w;4;A1!5王丙",
    "世丕且3RA1乎以付仔000;0仙4(>兄t0Q|0凸A!z功!J0@5仟半卉G占>卮|c古>召1叩叨C司叵叫另37叱台句7=)l囚外G2r1&L]尼%d巧左K0!T8!iF弗必戊x0扒扑+Jp$K本未01.K!Ns氐W8汀氾犯玄4$V9a6806000!<#@皮@^#;6@$J!h穴!;丞0b0E_:1亥!>9?伊:伍20伏仲34仰2939光兇兆1O",
    "共KR!K刑0刎7!q!IH匠!40!|5同吊5吁9各<名合吃:吆;)Z回囝!:地在4圬2圩&]0L0!0奸:好她8妁&C0^0宅3!UK!G$hW!T年式;忙忖戎戌02!7扛托)j早旨30#S0Ec朴朱3次rF氖v汗150汐4;汛汍0.7牟牝.6竹%2!i缶!8bs185P!0910$Z688?>3~3;虫&B;F#j阡串!Z位1佇?6伴V何估O0伽伺伸:@似9L",
    "作3伯N伶R3佈A&_克1Wp0!R判40刨!g助01![!41吝?吞O否W吧N呃吳D呂君=P吹1吸吮60吠K3吱含吟<)J5囤6!C6址<均6圾A坏圻%l~!C妒E妞4妙妖妍F妓妊J%p孜孚0完宋3尬C0尿尾!602岌$bP!g庇2!Q<Jt形D1!C忌:忍S快<忪戒我!WB抖技扶B扭L扼1批扳N扯X扮V抓抑抆)?1攸旱#Q!O李000:杖7杉杆I",
    "杓3步!N!WKj沁60沅E汪?E汰K汨]沒汽5汲;汴A汶F63沂灶50灸&W牡牠!H狂玖%N甫;0$M!Q#B&K秀禿究系(1$D肓9肘2肚G%uR芋1見v]谷>>w赤;r#FN辛DA3迅迄巡邑@7邦那酉!a5防阮2阪1並_LG?2<0佯]侍佳;佬^例來侃佰4B佩AJ佾@1佺&G兒2C=其1tom券刷2到刮7:!a劻卒1卓卑D@00!A叔2味1",
    "咖呸L咀呻呷<=咆呼C呱4E=呢5R命@(C!m坷坪坩坡4坤G%X奉奇0奄?!N妻H妹妮R姆9姍始7姊妯3N姅%R4季c2官3宙1!c]居0!U岡F岩151$h1帖帕5帑!KQ店4底0!D_01!;0彿彼!E2L念9?4J5怖C怕;511怛&h戕Y戾1ny2拄抿2抹H8披W0拋拈抨D押C8拇5抵T抱V拖0拆抬Q(G!MDmI易昌昆昂;昀>5昊",
    "昇#T朋!FM9東Z杳3?E林杯0>9松A杵T枓杼杪7欣r0G!x7泣4:沱JH河90沼U沫Y泓沸;油7沮X泅[沿治U泛泊沬r泜泖9炕炎3炊>%K0:?N1!;=:狗狐玩玨玟;玥%P!D疙0#8m_1#?G$D10!l秈空穹!e&q罔g羋!^肺肥肢>股9肩:肪4$9H>芳芝芙C?芟I花芬芥98芣<=芷,BR初表軋#Q5近#22邱4#_9,Q8阜S阿阻8",
    "陂![^!N;亟=0$6侵侯?P俑俏=促侶Q6俊<侮Q俄係G俎?侷%Xj冑>剎剃62剌剋則!d1勃勁!0ySNp咬C咨U哉咸咦<C哂咽咪F23咯咫59咩咧G囿!g8D2垢[垮垓%z契奏奎1!p姘V姣4J姥4姚;J姻$qi2室客2!@|0屍屋!r峒#sU7帟!BR5!8=TgR待40徇4徉!m:24怎ITR恨恢恆恃X恫恪恤&J拜i按拼拭C拮>9拱5",
    "拯括A拴L挂政5!JATr7映67星88昤曷#V染M柔某K架枯u柩5柄<枴U:枸F>D枰X8柝柒,CH2^L4w泉qV洪F津洌T洞洗S10洶洛泵s洧@洩46洎L+v>炳炬2炭:炮炤%Dq牯4!Y狠0玷B玻玲J珀玳$jBQ界1畋!D疤0疢0癸=00o盆盃1k盹相@1盾盼:矜UA砌0$<2祈祇!V0F0秋穿1!b竽%8!i2紀8紇約1缸!:羿t",
    "耐耍3T胖>胚胃07D胛胎?5胝#e]苧K1苣苛:M若L6苒4I?苜苔苑<苓;?F+@X1虺&@M#d!7c訂0(r1赴赳p#g軌#r迦迢7迥7迫迤3#03郁1!l酊!g閂限陋00#c6!FQ5=風b3首2乘!?倌0E俯f倥俸倩倖倆e借倚倒們俺5CC俱_個=倘俳修n倪俾倫倉$vW0冢Z凌准4!o5剔61匪!9O厝q#WW唁e哼哥<C哺I哩3員W哮哪",
    "哦p唇哽A&a0埂A埋埃u#Tw01娑632娛娓姬c25娥娌娉$e#;宰22宴宮63宸!0|3屐峭?峻峪峨75:峴#Hn師!d1座!n!E徑徐恙91恐4G恩5DJ悚悍6悌悅@%i拳D拿~挾振U捂38捉挺E挽挪0挨T捌&i0!4W3!a65晃>晌晅晁書K01#XF?框<根8A栩!n栗d4栽柴!@桀格6株J栓4X+?殉]!P30氦氤泰!^Z消涇浦A海浙i",
    "浬L浮浚I浩R涊浹;浥^*w=;烙烈6$mo!g狹3狸狷!s!KK珮珠9珞$y8畜畚留!I61疲09疼疹8疸皋TI20!?真07矩v砧@砝F2砥7砠砟B#q祐?祟祖7祝祗2!n秣3租62秘窄3!5笆:%0!|紗紋紊E1純紐441納;1缺Td翅翁tA耕3耗U1胱@胰D胭6A胸胳D能<胼胯#L臬C?I0舨3!s!TV1荊茸G草茵茴J茲6茶茗X茱茨J",
    "虔eO蚓@4蚌F蚜&A690衽衹%W訐討訌8訊<訓2訏1豈a豹W0起$8U1軏#0!44迷8迺迴>追7迸邕!0郝4!T配酌!p4釗4釙,U院0陡陛16陘5!A飢馬#J_|<9乾&i2停假偃8=偉K@偎6O側2偏倏!D偭#=h!?!^4!G6勘動j匏9U0匾!i曼商S啦啄I2啃6唱T問5唯d唸售]唬f唳=E%i2圉域U4堆埠3E7b執1#uq娶:7L3婀",
    "娼U婚婆3#t!;寅寄寂宿6r專將!=屜0崇崆7<崖;崑G崔4:2崗巢!:帶帳3!d0庶庵8![1OD彩1[14徘8徠徜#1S悉F7R悴a悽7悻悵V悼K惕惆H悸Q惇$V0扈$[6捲S;2捷捧掘A捱g掉掃G捫l掄3@7:排掏掀捻捩捨A&P敖救7敗啟敏8敕敔w斛@R旋01!s晚93晦晞曹勗望$i]梢梓Q桿桶j梧梗H梃p梭梆梅>8:梟1梂)<!l",
    "毫0n$f]f淙液^淌GF淺:淇3涯Q涮_J涸n淵淅<w涵T@淘A6淮淨淆淄涪q涿V*T?0烽烯$Qo3猜猛猖猓5!R!b4球2現>瓠E0T5r0畢=Nt0疵D2皎u盒8!@6眼眶11$4硃:#e24!r窒2!o7笛@符笙4?$g4粕絆絃]紮:23細2@累B紲紱&y!E羚a13y]聆#7脖<7脩6脤舂b1舶2$X?莘荸Y莖V莫莒莊8莉F荷30",
    "莆P):彪蛇蛀蚶=蚵@4蚱蚯I%Bz袈R袒3袍袋#V規訪訝51;設訟訛6豉@~2貫貨1貧赧赦!<趺#o3$=逍<逗;速逝逐481透B逖4途部4?!>![V釦釣35釩,K陪:陳4陰310陬!8Y雩章竟頂0+M%C%H9UE傢傍傅C傑傀E11最凱!e10剩!Y勝勛!cz&C4V啼=B喘喂I=喔喇3喃_單喟唾!X喚P喬4啾:Q喙$w#p堪9堤;0堡堝2壹0!J",
    "婷R婿B8;孳孱!E富6寐i0U#i3崴B巽w帽22j!0廁01弼彭k0徨#w?悲3Yk6惺J惰:惴!X惱L惶B愀A#[Y$]掌r揀X揉揆64@提@揖F0捶!b揪換![揚N$h7敢0]斐N普131景Q智3晷!k0O朝&J棕:棘棗]棟E森棧A棒O棣棋1o4椎棉@!x棻款欺2!?殖Ubn0氬&p8K渡@d湊渠4渣減o湘渤aG渭渦x渴H渺測F渝P!q",
    "溉渙dD湄]湩湟)F0;9無Dg焜#~g犀猶猥>猩#_琪8琢2?0琴琯琛:1#K0t番痢痛7痙痘51登0I皓PW!W短!T>2%V稈2稅稀!|窗窖~竣!J<筆911筍筋31$Q5絞結G絕紫r3絡4絢=2善翔0evb腕腔腋5腎脹<脾=6P舒9&:I菸D菠菅u菁]12!G萊菰K菌菽菲菊!R萎萄菜Z菔:(S!h蛙C蛔68蛐=$|!N0袱覃B註T評8証4",
    "詔6詐詆訴5訶O&xP貯<貳93費4貴2貶8貸越超趁|>跋>跑跌>跆$8軸3辜!v6週6進3鄂郵C郾!I1!Nt0=鈉D鈍2鈇9+y閏開51閒閎#J3隋陽706陲Al3雄10W2韌h01飧24飩8飭馮馭黃93亂傭7傲0A傾催:3傯G%p剷5!F6勤勢0!0)<8嗓B嗎=嗇9A0:嗚6嗅0N嗉$L0$N塑6塗2塔F塌P塊G塒塋#j$]72媾媽媼",
    "媳>媲)C5幌幹!4廈yv!71$o意h感想W惹76u慌慄8愾愴愧愍愆愷#80&^Z搞;2?搬搏<搔損X搖0搆$ib@#5暉暇0=暄C暍!Z(h業楚L楠楔P椰!6楊M2楞楓U<楝5楛&YZ!2殿CY(|<S溶;源<Y滅溥溘S溺溫U準5W?溪溧<(q:?煤煉M煜?煦煌H煞煆Q煖#2G#3=猿猾$4瑚瑕9瑞瑁琿I10#h1!l痰@痲痱84痴痳#90睛?睦睞4",
    "睹睪1睜82睢!p碎Q碗0碌碉硼D1硿#I41萬禽!C稚5稔:稞!e0筷x筠=筧$M11經絹G綁=絛置罩07f羨群聖1]肄#;腰7腥84腫=0腦舅q蒂葷落萱s葦4葉R葛萼萵[153葆虞虜2!~I蜈蜇蜀蛾蛻6023$R!j裔42裘43裊:裒覜v!l60試26F詼詣l話C詭詢;詬<1訾Y&gW貉p資0賄貲@賂2#j跟8636跪跤1躲!55軾;",
    "辟B運遊8遂A逼H遐遇7過遍3逾2鄒4!9酪酩!D!RO鈸42鈾L鉋H鉑鈴D3鉅鈹5J+4#N隔0g雋雉0雷3雹零!DM1!~01頊7頌#>飴80馳馱2$0&u%Q!p4<僧6僥僖F僚僕像1O僎J!]!u!t劂匱厭嗾1J嘗嗽F嘆230嗷N8嘈7嗶#p圖$b84?墊塹;塽!dW夢1u奩%042嫗嫖1:!v!M8寡301寢1察]!9#p2幛7幕1幔!c2ckYx%F",
    "愿;[慢0慟慚慘L截(4摘摔!4摸摟J摑E搴h=#E^e旖暢5暝*@;榕[榮T構榛K3榫8K槍榭N榦L榣%^2#5*A演滾D滴dD漠;漏漂O滿滯FZ6漲漣漕E3!=漪滬D滲滌Z(t4煽<熄=爾!83獄;#b瑣65瑭甄!q!z瘍瘋瘉9盡1瞄睽1睡$c碟7;碩碣#90禍種2!]窩s1管箕箋筵Q5箔箏X箇箄$830#K綰綜P0綠Y綴網綱8綢L綵2維T緇綬",
    "罰!T0翟!c聚肇腐_>膈1腿2!IB<<9艋(U蒿6蓄蒙4C蒜^蒸7B蒐[D蓊(L蜜N蜢2>蜘l蜷蜩&7>裴4裸4裨a裯%o誌A4認C誓@5誥2誘誑8<&0R貌v賑0赫]趕!K#f輒2輓!t遠遘36遙43遝遛鄙鄘5!;2酷酴#R74B銖鉻G8;鉼D*Q60閣1閤#C2際雌5]靼8!UP0颯1!616餉駁#<0e!?0%j1鳳&6!c>億儀僻僵3850儅凜",
    "劇003劊!J厲(S<嘹嘲<嘴嘩Y噎8L嘶嘯0墀N增D墜A墩墦奭%T嫻?嫵F嬈#4寬審1!]0$;嶔幢幟1!e廚4廝5廠!LXu徵%y慧6慝慕憂慼慰慫BX憐J憎M憚9憔I!d摩59TC撈7O撥撓1C撒K播撫撚A撙8@敵10$9暫8暱+h樟槨HL標槽S樓樊槳>2槭S$B歎!:P0+ol7潑D潔a潭潛L潮O潺潰潤b潘滕!~潠潟熟<4熨牖t獎8瑩Q璃",
    "瑾1#M瘠8瘟41瘡0皚OY瞎瞇44瞋$C磅確?碾F碼C$r稼3稽稷3!X窮#M3B箴A0篁箠[#L#dC緯;緘C緝:緣線3:綞jH6%41gil$x002膚膘+uU蔚蓮m0蔓蔑A蔡蔔蓬h蓿6(S蝴1蝠5A蝨蝙蝗蝌6#V1褐複:01褊%jE談諄誕e諸課F諂調誰U諍誶2Q$t1M!X賞7賤70賢0賜=賡!pa3!l踐<4踏I踟1踞躺!G輛39輦3輜1",
    "輥$G4遨49鄰鄭鄧9!:11醃$E銻銷b銬g鋁銳8E鋇X銲*<3$V101!;鞍鞋3!v9頜颳!;8餒5駝駐>駛駑3駒6骷f0gM魄b魯%O2鴃%^D?墨齒儒5儔儐4!OYb劑1!D噙A=噩噤C噪器噥;噯噬噢C壁墾8壅奮%gFs寰M+2(?憑G憊r憶7;懈!L(l擁9撻0M擄2擂:撿B1撾整$U2暹:2暸,0樸1NA橘樹:M橡橋橇樵Y橈#_M!r,h澱澡",
    "濃澤L澧;<澹澶澦澠C&w:61燈<熹D:2燃0獨$76璘6璞sY0#u31盧盥瞠瞞05$F磚A磧禦積0穆5穋!S#mg築J篛57篦#=0$76縈B7縞縝縉6$lhm0翮i%C膩膨!7<!40*2>蕈O0蕃5S蕪蕞螃K螞3融衡褪7褥5褡!m覦$CC諫5>諜:6?20諷諭525$r1U!E$S踱2=踹踵#T輯8輳!Y辦遵遴3遲9遺鄴!B%FE鋸j錯錢鋼^錄E",
    "錐E錡錕H錙(y#:01Zh24霍5霏!009a!|72頷頭;頤#:G餞餛5餚駭駢>骸3n髭j!M%<=21鴒8%u黔龍>優償1@&0,D嚀?嚅17壕壓壑壎(9嬪嬤!:尷屨$W嶺2嶸幫彌!U&y懂4N懋!K1(q擊=7?擦54擢:!y0$Y曖,UC檄M檜n檣橾H檐?歜!6[]濘H濟0濛863澀!P濡7濕H1&d營>燦燥7燬7燠!9@#x1$:6璦1%V療9盪瞳瞪5瞬",
    "瞧5q#V2磴磯A禧2穗!L$K5篾篷D篠#N糜13糟糙3$T?7縷縲@縫A縱C繁縴4>縵9縯#c翳8!Y0聰聯3$V臃膺7臀膿膽;膾YP!L*z薄蕾M薑2J薛薇P薊虧蟀@螳N蟆螫?螺=2$s褶=褸4!S$e811謊E謝謄;$4谿c!k2購賸2趨蹉1蹈1#H輾32輿$C遽6邁0邀鄹!N醞醜%id錨|鍊J鍋錘!J鍬鍛D鍚鍔(M00闈闆#96Mu1!fb!W!T!c騁",
    "駿%g鮫鮪2%F3$Os>黜0黛!G<叢)?H壙壘(7.:(]!4)M擲;7擺0擷斷#sy,8檬F檻檸9檮0歟Hf.o1濾7濺F瀏&Y01燸%7獵$5G!:$D1癒$n1瞻0$U禮穡0穠!H0$i簧2簞4簡糧$p08繚6繒6#=翹1職聶$Z1j,p薩S2藉薰9薹薦蟯蟬5蟠%^[q$7@謬謫#s贅$W92蹤蹟蹕!O!m3$=邃4#q0S%|鎊;;@鎮鎬3鎘1鎗闔1闐4#[雜雙12u!c2",
    "鞭!0!81題14!K!h0餽餮![!M髁q2x魎魍!a鯉c鯈鯀%I;2%8dF儳嚥壞02*T龐廬*G4懶懵*L>&>曝櫥櫝櫚櫓瀛38瀚2瀕2&[6zy獸1$F<H疇疆癟1$i$U!|穫穩&B0簸4簷8繫1;繩0#i繳$F2羸臘藩藝<藕>0A&q97蟹4$e襟襖7&PJ識證@譎0譆B%g1$u蹲D蹶蹬=蹴轔轎!C邊0#t醮鏡鏑=鏃4C0鏖;鏍:;鏗@&a隴^v霧i!_N!G",
    "願2!E!m3騖2#B鯨鯧鯖4%f鵡@鵪1#t4麓P勸,[>嚶嚴7壤(32i!]&@.D1*_攔4&:p,p瀾瀰1&K$n$W%K2)M31礫%T^$Y籃9糯0辮繽繼5罌耀&G!p,@藹G藺;4蘇2&w0$R!:m%0譬警8譟;贏贍%4躁3躂*sF鐘鐃鏽&Q$R%L!r饑!;!g46騵&K鰍(Ckbv_3齡儷0囁囀1夔+N$d.D1攝攜!]$W櫻8櫺殲灌&<!p瓖瓔%M$m籐纏續#~蘗E蘚&v蠢蠡蠟$N1!5%o",
    "護5%N$z2躋轟!4&x(K414鐸鐲鐫%o$Y0露響!L顥#@#<驃驀騾!u!i魑鰭鰥%B4=鶸#3!6Yr90儼儻囈1囉孿巔巒%4)=*f權!;灑6*i$g疊#2癬+=)9籟.4聽$e襲襯!q%<%N0%21轡&T*=<0)w0!i韁顫#8#N驍!iw$2鰱<鰻%P3鼴g齪Y囌巖.?*d7攪%z.9瓚竊%R籣1纓2纔+D.k6&_+O邐邏鑣鑠3*E#U#;#L0驗髓0髑%;2鱖%G麟!9囑壩攬灞癱0$h罐g蠶2X*r讒",
    "讖艷贛釀)6)d5靄!f顰驟鬢e#U%R0!f0!n!T齲廳欖灣籬1蠻%=躡*a)=鑰顱#;%0|,T灤矚讚鑷+H(p2纜讜*O釅)D0鑼鱷0(V豔鑿鸚爨驪鬱)v2籲①000000000:000000000ⅰ000000000丶8uJ)nCD$Qn卩|夊(M(2⼳广!Y!@@攴无疒#2辵隶¨ˆヽ0ゝ0〃仝々00#C［1✽ぁ00000000000000000000000",
    "す0000000000000000000000000000000000000000000000000000000000=0000000000000000000000000000000000000000000000000000000000000000000000000000000000000А00000ЁD0000",
    "Л00000000000000000000000000Kж0000000000000000000000000⇧↸0㇏𠃌乚𠂊刂䒑龰冈龱𧘇                                        ￢1＇＂㈱№:゛0⺀310011076071211751731016064   ʃɐ:ɔPœøŋʊɪ",
    "乂I,D#s!L万4ju囗兀屮*F丏+n与O!I^6仈冘$g!T|+]&PX)p巿旡殳Hw爿丱:仨仜<仡仝仚*s#^_圢0&aG宁2!rXh屳%I庀1$J戉v氕P<氿氻犮1玊禸肊阞伎9C仵N仱>价@D伂2L伓伄仴M(v!F刉6!z匢匟]l!a)f囟~圪9&us奼8奻2奷7&D尕?!;屺02$d!z>!bG!>!E忔忏(d15扡4扢扙6扚:,5旮$S朹朸2机4朼朳氘];9汏汊9汋",
    "汌.:&Z!:0玎%T$X穵网*h33艽1,y*r邙邗02邔阢1阠2佖伻V佉9@伾X佒<佁F伭5;Q冏Y!G12!p0!?!>>K0吰6吪Y呅吙28吘TA呁吨吤R(~囧囥!@36坉16%li!J妘7妗妎C妐妏G妡&Z3!z1!G1岈2岉8岊岆<1$NY3!a庉2庈4弅G!?彶!@忑忐L忨54忡2忣F忯734忴戺x8104抇扱9扺扰@6扷5扲1)O旰3旳旲2$S1",
    "杙杕杌杈D杍<杋毐x0!B汧3H63汱汯汩沚汭I=6汦<汥EB灴5&V!@犽52狁犺:玕1玓0玒町甹!?0#:)H耴!E3肐19&a芏芅821芊芃0豸+G辿邟13邞8邠阰阨6阭丳$h佼8佽26佶佴D侄佷佌z佪_佹7佸G;侔9侒侂B佫2冞M1![刲0B刱!o!20匼!:1#A呿1?咂5呫>3呥67呦V呯呡呠g呣3呤(j1!Z2坭坫5坰59坵5坳0坢",
    "坨D%Gh!T4D姎妲I姁妶56B妱;27妴B%S2]1屄2!K岤岠D岯岨3岟39岢7岧岝7@岰岦$t帔4#]弢00_]彾彽!E6w怦怙H怋X怊<K怚3=怢怍2M怓怑怌怉B&eX!T6L抾抪;C抮4抯;抩67攽!OB!2旼7=昈旻771昅旽C昐#4C!_杬Q3杶4L枆构杴H枌杺T枑7枃杽3杸0J,<!?歾!Dn!Z!=泫2泙沶M沭i沷H泂沺82V4",
    "泒:沴沊B沀!B泀!T泍泇沰x泏I泑,n3炅=炆炄<4炂G炃&T!P狋<狉B狒15狌4玤玡;玦玢玠;玝$C:!;0甾!2;#es盱盰4#Q3矹1矺矷$N礿!j穸2!d%2!l*y!>N肣D肵肭$v!dO芫芚芘2I芧6=芞K芴芨芡7H芤N芶芢,y虯虭0豖+r迋7迍8迕1邲1邯3邰阹3阼阺8俍俅=侲F1俁B7俙侻侳W俇>侺5侹b剄4![1!_nJ厖2厘#p咡;咥Y",
    "哃茍咷咮W咶>0咠呰!0咢K呲!P咰*F垞04垌:5垛垔3垏9;垚垕$bHu!r姞?A姱姝L2姼姶姤=4姛=91姠M姴姭%s屌!h7峌:峋?2峚峉峇2;峓0峏峈峆7@H#OW00帠3!p庤庢庛71!FVW_怷1JM恞恅=恇1A恌恀1L怤OC=7&A0!pm挋拵H挃拫=E挌拸拶9B0拺J拻拰敁1!KD![昡@2昜9昢@昫>昝F4昮朏0柁柲柈枺",
    "柜枻l柘柀枷=U柤柟枵G枳s柶柮柣柂枹DH8枲y柆V柌枮g柛N柉0柃V柋+S!>1aO17o0#U;洭洟L2洒洊泚!=洄DP洚洑洀LT洁FN洃;浀洇H;洈I洉6,R炟N炱炰炡B0炩%P70Q32牮!@I32狟:狦狣玅v珂5珅玹玶玵玴f玿7玾42玸B#o1oH0!C2癹zs眃004盷3盺#;0M:0砅:砏砎砉砃?$:1祋祅祄!u种16秎窀",
    "穾!7^0$|籸0500!f4紁罘h羍羾x604R胘胇H胑胈胂=胅M胙2胊:胉57>胍$5Q!WtT苹=苨G苕!I苫苖M苬苡@2F苻苶苰苪苤苠I苳苭,5虴7虳&;<H2衩$m訄2+a(H迡<迠#_邽1E郅邾83郈#Z釓陔陏11陊3倞倅1;>=倛俵俴n3倬俶0O436=倯1倎$Oi冓f凄025!w剚剒;0剕<!Op!t%@哢d唒哧;哤e哿43哫U唅哱",
    "唊哻哷0哠]唃7&c0埌!J埕埒垺;垽垼垸垶878垹7$Pk娙娖F0娕娏7娊CD$<j5宬!;!7屔!|B峮258峹#~帨!d5庪1!k弰f#D恚<恁!E悈悀A悁K悃A5悗悇D悎%C扆拲Mu挬G0挶<揤挹A捊挼挩G挴S捔4挭I挳V捑挸N捀7&o敆!d旃0旂!lD晇9朒0#Z栚^栲07?3栖J栜H栫11N桄栴栝栒1A15N栺栥栠*M2欭32h肂殈!B毤",
    "毨毣毢4m$X浣0A洍!8涒浘9:1Q涍!F浿6浞8浠f浰;浟RE洯hR浾13洖!Q浻1浵J+B烓烑;烋缹烢烗烒;1烔烍烅00B烎B$de牷牶!n狺狴9狶狳75珓5;珖玼Z珣5珜珒8珔8珚珗0?#D0D0[i3!5@疻8痀疿疶3皊n!8眛眐2眒@眑33074#J8砢B砯砨5砫砡79砪6#q6祏<祓祒祑!~0秠=秭秪秜1秝窆2窅50窊窇!5g",
    "笄>笅9笈13笉8$u<粊1粈4粅紞紝紑紎9紖紓;紒紏紌罜4罞1罝罛j羒翃翂翀!:W耹胺胲6胵;胻4#O]舥茳茭F茙g茥荖茿1茦茜5O;茛>茈c@茖=茠F茯茩M荅66茞=N茧P*L虒!45蚖蚍3<蚇?蚆4>蚅O蚙75蚕2蚎>蚐3%g0X70衲=衱=衯C衾衴7%N豇?SX貣赶1l1趶#i1#y迵<迿迻8迼迶郖9郙08郟5郘2郗47!P",
    "酎0!j<釚陜2!A飣&i!4乿&^偪偡偞1偓偋AD偈4偁I偊G倕_I91偣0偆偀]4偗偑%7剫1剬1!L勓!>!S&F0唼@2唴唪V@唶唵唰Q啅唌Ub啎唹>唭=4:%w圇#BH埢C埜G;埭?:埸B埳埏g埮埣>埥6埡堎埼C埧I:埱埩6L堄$[#R婘婕A婞娸娵g婐>56婓@婗婃I婒婄F婈u娾>娹BS婩婇94婂I#d孮!7寀屙崞崋A崚5崌K崍H崥崏",
    "崰崒@崟>#^帴!a24庲0!g1!G徖8#95悆g悰9H0惏D惙3惈悱Y悷B悿39惀(IbT掂捽o掞>掝掗C掎捯G8据p捵V捭p捼W挻!H捸<掁?掍捰&P!^!|晡晛晙25朘$d=8;桭0o梫楖桯c8梩桵桴m梏桷J桼桫6g梀桱<L梖梋D梉J桸2E梌梊桽)E欳30!=殏殍0殌氪%N涫8涳湴涬l淢涷n淔[淈G淟淖涾V淜0淛H淊涽_2涺J淂<淉",
    "淐Q淓Y淗淍E涻+5B烷O烴G烰C烳L烼26<焀烸烶D焂;$s牻02猝猗猇96猊猈狿?>!N!R1珵>琁珽9琀珺12<琋珴C$_畣!O3痏痋04痐皏皉y!J眯眭301眳9眥E眵#a9硉3硊1砦N:#b210祣7祡!>n秸秶0!|4窐笵A笴笥:笢1>笘A笝C笫1125笚8$t3粖<!v7紸紶3:紬紩G5紾0:紻紨罣a60羛^0120翇7翉!:",
    "耞耛[聃4脘<脙1A脟<脞2脕A脝4#=V舳6舴舲q#jB4莍荺荳莤荴J莁C3荵ND荽58@莛>莋荾V9莈>H荿V莇V荶S)K虖!M蚷:蛁3蚺蚰G蚹蚳4C蚴606蚽0%Lf;B袢7袚袑?袟袘>袙1袗<7袌6袎#B!82觕!?訧4訞谹1P0OW赽赻赹r5趹51#e5軝軜軗80$F逋5:逌D郯郪53郲0郔F0郩!Q11酓1釬7釱14釤D釪",
    "釫;釨5,7;1#B陭陫5陯!4靪!~飥馗傛傕傔9傋G傃81>偨c傒傂4兟!Y$A匑!w2&WF喥7啷噅喢喓喈6U喁Q喒A啽>I啿E;喎%6#k=堙48堣4埵!7堥堜堛G;堶堮:堸堭堬>#t$Q媔:婺W媞婸]婼X6媕H娷|5<媃7M婻1>?媏39$P寍寋8寑寊3mS#U;W嵁9崿崵K嵎6崳6G崽崱W嵂崹?崸3崲394#M幁#e!2徥5#l悹BE惎惄!4",
    "惲G;愅惵M惸31惁qD4愐惿46$B$ML掰MF26揃撝揳揊EE揕L2!P揟掾N揜揄C揓揂44揋揈W揗1攲d2敤敜;敥V@0?Q1晼晬>4晱7晪7!s&x棓椄棜!2棬棪6M棖P棫棤AL椐棳棡U棌k!L梴!A棯棆!2棸棐棽棼棨R椊<棎棈D07=棑d棔D[?棇(I13欼!<21殕Wb10l&9y0渟Yn渼07L渫C1KE渜FG湀@渻渃Z_",
    "湨湜4渱渨g@湫渹渢=RA渧!5湤B湕S湒C渵0S)R焞@烻b2焣1焢?焟8A焛#~>]0犆犅5!k猋T猢>1猧:猭猦猣A猌#p琬3琫琖36;3琤琣琝;琠A瓻co畬!_痚64痝14痗皕皒w!P0睄8睅43睋0!v=!X30硜@3硪31硩硨硞3祴祳祲祰!v7稃8稄!y|竤!J笻8331筀G筅粢粞9粡絘F絣絓2@2絏M絜>絒1D絑=絎&]0U",
    "罦k羠0e!^聏0胾胔!S67腏腇脽?脺臦7800:g01e茻!xYY菀WY菧菤G菶I菆1R菣莿q菝7菘V菡菋27N菉o5菞b萆菂菳菕T菇9HX菃X1菄f菗:h菛R)f93蛓?蛚?蛝=蛜?蛩蛗@蛑$z=衕!IL袹袸7袾袶5袷5袲~裉覕2覗u觚0!W詍訹O詀F0詄0<詈8詊12豟Q貀i3貰8貵趄趀8~跓跍跇>5跏53跈>跅#x72",
    "軹軦7軥?軧0=軫5軬7軩$G6逯鄆U鄄郿郼;郹15鄀6鄅鄃!B2酟2酠鈁8J鈃F;鈏鈌鈀A釿釽8鈄R鈂I7鈙鈗鈅@+[A閌3#E陾90隃隀q5雃]雰靬3靮頇颩q鳦黹亃0a&t16傮E5傴C僂傰@傺傱I僉傶1#m剺剸20+=G嗌3嗋嗊B嗀C嗄T喿B喍q5<嗖嗈Y嗍;嗂$U$BD塤塏塍塉U塕塎>塙;塛堽U=!o&8嫄6媺媸媱3媰>8媻:",
    "媷89媴1F媹媐$I10uC$A嵣嵊J<嵬嵞9嵧嵢!r!C幎幊2幋!^6廆4廇!]!S徭$M!60愫I愶愲愮G愯O愩F戠酨戣1戤%Y[揫T1搉F3>?搟搕2P搷搢0搌I9搨H搵搯搊?U搥1搋揧cB搡搎$dRp暆58暐暋暊>暔晸朠楦楟椸EC>椿5T椹8D1P楈0椵f椳9W棰!l椴d楀^楄a楘楁b楌椻?椷T楏1椲O椯!0椼&w歅歃歂5歁!>嗀毻0",
    "毹毷0(zj滈溏滀溟溓0;@7<;溽3溞Z溷溰L溦X溲;4H滘溙溒溎溍F溡M溳L滊溗F溣)0<煒@煠煁K4?5煪煡煂E煃7T煟煐2煄8<#Cm犌4犐犎猼5猻猺59獉#I506瑑5瑀>0瑎瑂366!qM瓾瓽O!@畷榃痯O瘃痷6痼痹痸G痻痶痭77皙KW睕90睒33>睧睔4C!W碇B碔碏碄@碅0J碃硹O碀E硻#O5祽祹!|60稒4稕<稓",
    "稛稐!w窢窞|!_筤86筩8筥=筱筰筡F筶筣$R1粯綈綆綀<絿5絺C絻7絼?7綄絽D&H罫罧03i羥1c0t$F腠F腜<腛6?朡腞G腧7腄L舝[艄艀12)8萿FO2E蒍葥葑葀u葧萰L_葚葙J葳葝蔇葞萷2萴u葃d萲B萩菙!V萯B萭a@萹D葌5L!:蒎萻;萶萳dE葄萫d葔I葐)G蜄蛷D蛺蛖N!<蛸E蜉蜁蛶F蜅&>裋10?裛裚裌3覅Es5觤",
    "觡觠1觜9!t?詿詡訿g:1詵=誁詴5%z>豊J豤1O貄0v赨0W趌10趍50趐1!B跠;4跮跐H跣跢4:跫8輆軿1輀410輂8$J逿44逽鄐鄍114鄔鄋2!D0鉈9鈰9[鈳a鉞T鈮K鉆V鉬鉏@67鈶Z>鈱R>鉐Q鉎4鉌9鈲+c閜1閛#E0隑5f[2雸雵!b30靲頏頍0颬y2馯2馰4#F骫魛%G2鳧%Q!a僦僔2@:僛>僝6僓H3僯僣僠",
    "凘劀0!L1t厬(R嘕嘌5嗼B<嘁A嘂嗺R嘄嗿嗹(g塼C7墆墁塿塴F塺<9墎塶;5塻H墏!S!Q$tA嫥嫕D嫚B嫫7嫢嫠嫛@嫞嫝嫙>嫟!|!M2!d#m嶀嵽8嵺6嵷B嶉嶈嵾嵼@嵹5幘0幓!i廑5廎=廕3廒1!T彃[v$y愨HLB1慒0N慬C慴慔U慛9愻^慡慖戩戧3&mQ=1F1摲09摵摦o摎c摞摜摋7<摐^搿摬摫摙;A#J斠#O暠暟!J朄M(f4B",
    "榠]榖I榬?榑7榎H榍KD榯?4榽榤_榹@榚d榳榓F榡榞j榗榐a榵榥P%<2歋!700R0i滎V滱AQ滸n滻b漉t漙0<漘R漒滭L[l滹滮nB漰;漵滫K6d漅滽滶r漜滼m漟漍@漈H(=8熉熀4熂<煻:熁E牄>s犕犓獃93獌#d@瑱3瑲瑧6!v10!^B!j瘈38瘑瘊9皸瞁睼8瞂睮A睯>4$2碪9碭碨硾碫碞6碠;碢1#B禊0:禕禔禓",
    "禗禈9禐稫N稰稯稨稦!f20q!~C箊6箐5箍箌>箎箅B劄箙:箂$<3粼粺#;?:綣6F緀4綝緎緄140綯9綖U綟67綩綡W%b!S01翞uh聜$0膆膃35膌膋!n(Y<蒡蒟JC蓂蒬1蒫=蒴<;蒪蒚FN蒝9C蒢蒔b4蒛=5蒨]蒘MH蒠f蓔蓒8蒰蒑&=蜳蜣4r蝀蜮蜞2蜙1W蜬D蜾7蜠A蜪2>蜒W蜱3<蜦0@蜤蜚E蜑&S裧9073裮=裶4",
    "裰裬裫覝3覟覞z1觨誫誙誋6誏6%_Z0!P賏7趖!W踂跿=跽<踃3踆踅跾13#Z0輎輍鄣鄜31鄟鄝鄚9鄡鄛!C酲6酳$5銤鉶T鉺U銔E銍H銚@鉹M鉿Sz銎銂B<鉽:H銊銆5<=鉾8Q銝銋鈭隞2!B!=T靺34鞀1靻8鞁靿~韍x颭0!8餀6!z馜V馹1馺7馽9#8a3!;0P0魟%J02%j僿3儰僸=0僶7<0僽<%90!I勯+O噂9嘵;8噉噆A",
    "噚噀嘳9嘬A嘸嘪?圚%I墝C墠2;墬墥墡!B&m嫴8嫷嫶<嫸9嫹75嬅9$[$5嶗7嶒?嶓1:嶜4嶚3幩幝2幜緳廛22!L!M&F憃慹g憰憢憉A憓K憭憟憒G憡憍慦|!^摮1U9撅A4撏撋撊1F撟摨x撘敶3敹1f0#P暰暩84暪4+G5@槥BL槱槤k槿槬槢h1槾X槲槮U槷槧!=樈槦DA槼槫M樄C<樏槶_樇槴Q$>!8殣殢3!?氀毿2+5漦!<8n澒",
    "澍澉2潢潏e潚k潶潬E潕L潒潐6l澓潝漀!E9A潧X潓g潩EE潣C潪@熲熯熛D熠熚>;熝7熞5熡8熜:;#31獘獒;00獝獛5獚獙8#s10璆璁瑽72瑼瑹!s甇![瘥瘞瘙3瘜6瘚=瘛!e00皛#@1瞉瞈$H碻C磌4磎5磈磃04禚6禠禜5禛歶稹!]1窳#RC箾箬Q箯9@箵#^23糋#z緛>緧緗9Q緺緦?緱緰緮緟%Oe3羭o翫翪1翦1聤2$?膟",
    "膞膕<膙膗!ch3艒艐艎2)_F蔏蔀X蔎蔉3A蔊L蔜蓻_蓺=3蓴e蓲R蓷蓫78E蓪蓩蔖蓾Y蔝@蔂蓽P蓶j蔦蓧07蓯9N7?蔋=E$6#B<0B!N蝳蝘蝔6蝒>蝚蝑<>蝪蝐蝎@蝝A蝬=蝮蝜8蝏[蝵蝢41#?褅67褋;00褆?褑褎褉覢1覣y2觬#1諆誸J諑20誻K誾14B諃誺2K$h>q!:賟賙>賚29趠趜4趛!i21踤9踕5踖踑7<0",
    "踔踒5踓8踗2輬輤輘152輖0$_遰遯遧3鄯鄫鄩07鄦7!;03醁01醀$S鋃0鋀H銶HQ鋟鋘@鋗5鋌R鋂U鋊鋈5G鋍7鋉F鋞8鋑1銵[鋆銴)T_閫21#B隢雓a2霂!<_3鞈w韏~頝82頨頠頛;!o!:飺F210餕駜駍130駎駉<1駋;駌#5h髫7髲髱!9魃S<魱魦?魵魰魨魤7%H鳺21鳷?鴀鳹1<鴅鴄%7!4k0儜儓32儑凞$Y叡(f噠=",
    "噳噦噣94噞H圜圛%e墽;墿墺7墼9嬗115嬔嬓嬐5A嬚5嬞寯%u4嶩嶧=嶰嶮嶪嶨9嶭14幧0幦8!^廧廦1廥!J!U&N:憖^憴A懁:憺4憸憌+A擖擐擏擉撽撉iGG擙!>!0敼U#t暾1903暽暻暺A!;*Ra橉M樲e樾N?8橛橑樨a樻31X橤橐橏4J橩橠樼Q橖橕橍0橆#]歔1!520L毇l氃2,RM澣S澼A濈潞!J澽澞[澨!@澥8;澬澪T澿澸",
    "澢V澫Q澯2澰燅燂熿熸M燀098燊燇7熽J熼9C0犝0獩獦04獥5獪#cJ5璔璒2;!N!Y瘯瘭3;瘳8瘵瘲瘰!oZ瞚23瞜瞛60瞕3瞗$I;磥4磞4磛50:磟0禤穄3穇!S1窵窱5#u43篝篕?篚=@篔E篢篜>篘6#A12糐0$D>縗縌B0縓縎=縕47縋36縍6@縤#mg0罺fmj耩r$H膦7:膵膫4膬7膲4膧z!G00*@蕅U蕍5=蕘",
    "蕀5M蕁P蕄<蕇K蔾LE蕎O6蕕A蕠[蕦蕝蕔@6#E1虤$:螏7螓螒螈螁D1蝹=K螅:0;螄?7螚螉%M79褭0褧9褢6褣;褬褟觱#=1?10諝f諤諟@諈E26F諯;%N0貐!I賮2賰2!]1f1!p:踸74踶503踰>!b!]輮6輲6輷輴$E21:!Xh10!A醐0醍1%P錞錈F錆8!O錸3錛7錒錁t錭錎錍鋋!6鋺Z錓鋹鋷l錂Q鋿Y?錵錪錔錌",
    "錋鋾:錀鋻J)2@閾閹0閶8閵7#:Zf6霐!m鞗鞔!@7l頯2#@餟71!Y!4駬駥駤;駣6駩駧骹5骴6j3髹髷k|41魼1魻6@鮒鮐魺J魽:%U鴗8鴞鴔D鴝鴘9鴐85$l麆0V麭W0SGZ儦儥儢1儠8&8,J嚌0嚆嚄嚃噾3噿1壖壔壏2(2嬥<嬣8嬧嬦8嬮|!Z0&2幬幪$W徻&u憵6Z懠4懤3懞*R擩擣7擤3斁斀eS#F,f8檁S檉E檛5檞檇;檎",
    "檕檃T檤檑橿V檚檅65歛!6!@,n澩z濔>濜@濧濦濞C濝45&f?燨9燤;燢%I獮0#vJ璫璐I23璥9!E00甏!Y癃40癇!At瞵瞫64瞶瞴瞱瞨w#Q94磻0磲B磹45禫禨穜穛穖1穔5!H10$G9篲=篿篻B篴F篳>6簃簁篸48篰0N簊糨$H>5縳顈縸縪N繀6縩R縰:縶=縺#Yi罾罽![翲i%G87臊臅1膼臩!V艚1*h薀>G薕:薋G蕻X薚3",
    "蕷4<G蕺蕸蕗f7薆6;3薁P薂5薅蕹蕶Q薐>虨$Y螪2G螰螬<螵6螮J蟃蟂9螷螯D5螴18螸4P螲%;褳812@褷:!O1覮s0#y謘謖謑謅5F謏22謇5謈謆E謓6$8P1豱豯U貔!I!Z蹎蹍5蹐蹌蹇#J轀$H遾鄸!F7醛醙51醝2&n鎃[鍤鍖鍇d鍘3I鍉60><Q鍌M>鍗鍕鍒鍏Q53鍡鍞43H鍎:(E闀8闃1閷#E1隬!X霟霘4霙!e6鞜",
    "鞞鞝g韔L!425顉顅顃#050餪8餲餯餭3餰!L:馡!E駺駴21駸駶410駼6骾o髽3髼!0!6=鮞鮛:鮡3鮤鮆K鮠>%<=U鴶鴮016鴰D鵂0鴾鴷8鴽翵鴭麊麉3RGAP3T鼣鼢a!0儱儭0嚘3嚗22嚙)c&9$00$Y幭0懘6=02懪5懫懖B*W4擽擸81擼!|v#M0曘櫅檹3S櫆檺檶0?檴檭歞!Oq瀇40瀁3>瀎濿0濻Z濼濷B&d燿燹9燽$|",
    "璸7璵;璾璶46!6甓$L7癙癐232!0F^矂瞺$H<60礉61礑禭禬穟%u<簙6簟=簝81簢2:繜繐5<繘9繟繑>繗繓$e羳s0!a$_0臐!s艞+LA藀2藂薳179藄薿;2藈藅薱4K!6薸薷6虩%6蟦蟢蟛?蟪蟥蟟C蟤蟔7蟓I蟘:螤b1W蟴蟨蟝$y襋3襌襆90襉&N謧謣?謰4A謯<1謱謥A謦?謮謤F1謺#VbS貘貗!K5贂贀$_5蹠蹗蹖761",
    "蹛蹚6蹝;蹔#@002&JA02!N醥17醪&x鎌5T鎛1鎉M鎎K鎞7鎕鎈@5鎍S鎑P鎤3;鎣1闒0闑#0S2巂雟雘4u霢2!k1鞨2鞤5鞢2a1韖1Q!:00!J!m餼餺騏騋騉3騄<騊騅1騆髀K[鬄0S;D1魋鯇鯆鯃鮿1鮵2J鮶=鮹3%W鵓鵏鵊@鵋=鵖鵌:鵒1:鵘1$7麌!7Q鼀E>5鼪鼩鼨S8儴0$d!E厴*81嚦021壚2壛f嬽00([幰",
    "徿懻*M8攍攉21!Z!>旝#O櫧櫠櫌47櫋C櫜櫐J櫏櫍@!f!4!@瀙=瀠瀖D瀡005瀗<瀜=&O爊爇爂2犥0犤犣犡瓋瓅璷;!7$M$l0矄矱#z礛5礜礗6!v穧0&88簹簬>糬糪%D繵2繰6繯:繲1繨#1罊h2羷u0!^$b臕!s艡1+~5藭藙76藚藗D55藘63藜藑N藦8藞3蠀蟺8蟶0A2蠋蠆蟼;蟿:蠂$c襚0襗9襜襘4襙^^覶o$]譈1譀B2譔譋9",
    "譑譂?4#:c豶S!P01趬趪2趫蹭:蹳蹪4;v!t轑轏02!E%D鄿!U醭鏞鏇7鏂G鏐X鏬鏌<鎩l鏊9I鏣鏕鏄9鏀AD%N!A0#Tw10霨霦!q3鞶V00!a顙3顗!L颽颻2!n饇饃!G0!W騕?騝6騛6騠6騣騞騜騔髂x鬊3鬌Z鯪0鯠鯞51鯢=鯔2D鯜鯙;鯕;鯚%U98鶄3鵱>鵸=40鵽鵫80鵰鵩K鵳76鵯957鵨#z麑^k鼭B0;800匷+q",
    "嚵嚳壣(9(X0#u0忀0懹*_攖攕攓旟#W曣0櫳櫰櫪櫨@櫱櫮0瀼瀵瀯7瀴瀱@瀸6瀺瀹6瀻瀳=&?0!x獽獼$A&^皪C^矌10矍T$6礣30礤4!m穮穬0!n$U籈1籇籅糮%E22纀$=t!^$e臙a!A0,d藿1藾L蘀藶=4蘅6藽蠙蠐05蠓2$P2!7m$l9譝:譣115趮躆1躄轙轖0轕21$6酃酁!Z醵醲0鐋7鏻T鐏4鏾F鐐G鐙鐍鏵:鏷?67鐒鏺>鏸A鏿",
    "鏼?鏶J鐆&E1闟$R0!n1q0!F10顟!F0!r饎:饌饋7騲1騱騬騪;騩49騭!~2髆y1鬑#H鰈鯷=<鯸w鰇6鰆@鰔鰉%N鶙:鶝鶒5鶐:4鶔7=鶗9鶚75鶞4K鶩鶖?0#@1麚z黤2黦y鼮齛4齞齝齙g儺儹$b劗.A嚽0孈孇([3#p*M*_欂櫼6櫸7灃05灈0灅0&D爚爙$h%Q$V$i礭3礯*f籓糲%P纇02纆6罍!R!Y%e.PA蘦蘟3蘜蘙=6蘡蘠8蘞6",
    "蠩蠝蠛43蠜>N#q襩4襫!s%7譸譅d0%M3趯躎躌轞轛1&V酄0!X(]鐻鐶鐩C鐼鐰8鐪<鐬C鐱%l闤闣$U4!iQ!g!I飆飀!|饖#138驄驂驁騺4!rw10鬖SG鰫鰝鰜?鰣40鰤鰡%N鶶54524鶾6鷃鶻鶵H鶹0鶬K鶱鶭N鶳I鶲鹺Q~2黭]鼘1FLF齤]亹囆囅5)2&G0巕巑#o攡攠5攢欋欈0#R.]00灒&90!n獿瓘瓕3瓗%No(_!c穰0&S4籙1籚",
    "糴糱%X罏g臞!q,t0蘳蘬53&c蠨蠦3蠥$O!2覾l%;5讂3讅譿%N%8躔5躒躐50轠1&R*F3鑊03鑇鑅20鑆*:韣!k顩!F!m6#A40驌2驈1驉8驐!dxA?J魕#?1鰿4鰹鰳=鰼鰷鰴鰲:鰶%]鷒;鷚鷋4;鷑=9鷙鷘鷖N鷕7麶it鼳鼲?XY<儽$_壨壧!o&H(b蠯彏)>10*f攥!U$X.;0欏毊灛灚&5$c玁1)y$g籧籦纕艬,y5蘹2蘱92&_1蠮4$F襴襳!o",
    "讌1讋讈豅贙%7轤轣(0)2鑕7鑗6韄0j驖2鬞00$55鱐鱊2鱋93鱌1%e鷷鷯鷣7<鷤A鷡<鷦;鷰鷢97鷳鷨4黂=Q0BEK鼷鼶<;Q齰齮0囓囍孎#m攭%x0.:灟1灝2&0)D9)|$f!c禶)@纗#@)p虃&b蠷蠵E+?0*J00躝*b醽4)5鑨0(S!E靃3!dM(P![!h#X3鱦鱢鱞1%Z鷾8鸃2鸅鸀07鷿鷽6麠!bW]00囔攮!n欘0欗2灢%|!h矘0$c*q1!o纚",
    "纘2纙+=0.z00*r01襻!h%Q0*M躤躣鑮鑭111)b#w#;*J5鱭%V12鸏2鸑!t!8Cm齸2齺齹圞灦籯蠼趲#B*^)=3鑶鑵驠鱴鱳鱱3%W鸓#1C!~灨灥糷虪&A蠽1+U#L&zO靋#v0!<!yy驤10鬤*21$4戇欞爧虌躨钂钀0驩驨鬮)w爩虋讟钃鱹麷癵驫&|%[灩0麤齾齉~碁銹裏墻恒粧嫺╔A╗8;╣╚>╝╒A╕8;╡╘>╛╓A╖8;╢╙>╜║═L01╯S",
    "𠕇鋛𠗟𣿅蕌䊵珯况㙉𤥂𨧤鍄𡧛苮𣳈砼杄拟𤤳𨦪𠊠𦮳𡌅侫𢓭倈𦴩𧪄𣘀𤪱𢔓 𠍾徤𠎀𠍇滛𠐟 儁㑺儎顬㝃萖𤦤𠒇兠𣎴兪𠯿𢃼𠋥𢔰𠖎𣈳𡦃宂蝽𠖳𣲙冲5鴴凉51㳜凓𤪦决^$c凭菍椾𣜭彻刋JE!]剗lT;簕蕂勠蘍𦬓 𨫞啉滙𣾀𠥔𣿬匳 𠯢泋𡜦栛珕恊㺪㣌𡛨燝䒢卭6𨚫卾 𡖖!a矦厓𨪛厠:2玧𥝲㽙玜叁3汉义埾叙㪫𠮏叠𣿫𢶣叶𠱷吓灹唫晗浛呭𦭓𠵴啝咏D䞦𡜍𠻝㶴𠵍",
    "𨦼𢚘啇䳭启琗喆R 𡣗𤀺䕒𤐵暳𡂴嘷曍𣊊暤8噍1磱囱鞇叾*C囯园𨭦㘣𡉏坆𤆥汮.2坂㚱𦱾埦𡐖堃𡑔𤍣堦𤯵塜!2㕡壠壜𡈼壻*E坃𪅐𤉸鏓㖡够梦㛃湙𡘾娤啓𡚒蔅姉𠵎𦲁𦴪𡟜姙𡟻𡞲𦶦浱𡠨𡛕姹𦹅媫婣㛦𤦩 㜈媖瑥嫓𦾡𢕔㶅𡤑㜲𡚸広勐孶斈孼𧨎䀄䡝𠈄寕慠𡨴𥧌𠖥寳宝䴐尅𡭄尓珎尔𡲥𦬨屉䣝岅!H5嶋𡷹m崐7]𡺤岺#k苼㠭𤤁𢁉#x芇㠶,7帮檊 幺𤒼𠳓厦亷 厨𡝱帉#9𨒂",
    "廹1㢠廼栾鐛弍𠇁弢㫞䢮𡌺强𦢈𢏐 𢑱彣鞽𦹮彲鍀𨨶徧嶶㵟𥉐𡽪𧃸𢙨釖𠊞𨨩怱暅𡡷㥣.y㘹垐𢞴祱㹀悞 D𤦂<𧩓璤僡媠慤萤慂慈𦻒憁凴𠙖憇宪𣾷𢡟懓𨮝𩥝懐㤲𢦀𢣁怣$<,m掋𠄘担𡝰拕𢸍捬𤧟㨗搸揸𡎎𡟼 澊𢸶頔𤂌𥜝擡3鑻㩦携㩗敍漖𤨨𤨣斅敭敟𣁾斵𤥀䬷旑䃘𡠩无2忟𣐀昘𣇷0晄𣆤0晋𠹵晧𥇦晳 𡸽𣈱𨗴𣇈𥌓矅𢣷馤朂𤎜𤨡㬫槺𣟂 杧杢𤇍𩃭柗䓩栢湐鈼栁𣏦𦶠桝",
    "𣑯槡Y𨫟楳棃𣗍椁椀㴲㨁𣘼㮀枬%m𨩊䋼椶!F㮡𠏉荣傐槹𣙙𢄪橅𣜃檝㯳枱*X𩆜㰍欝𠤣惞欵n𢟍溵𣫛𠎵𡥘㝀吡𣭚毡𣻼毜!?𢒋𤣱𦭑汚舦汹𣶼䓅𣶽𤆤𤤌𤤀𣳉㛥㳫𠴲鮃𣇹𢒑羏样𦴥𦶡y涖浜#n!l𤥿𤂅𦹲蔳𦽴凇  萮𨬡 𣸯瑓𣾂秌湏媑𣁋濸㜍澝𣸰滺𡒗𤀽䕕鏰潄G㵎潴𩅰㴻澟𤅄濓𤂑𤅕𤀹𣿰𣾴%C凟𤅖0𤅀𦇝灋bX炁z808䄄㷨熴熖𤉷焫I媈煊 岜𤍥煏鍢𤋁焬𤑚𤨧𤨢熺𨯨炽$T",
    "鑂爕夑鑃爤鍁𥘅爮A𤥴梽牕1㹕𣁄栍漽+; 猫𤠣𨠫䣭𨠄猨5珏玪𠰺𦨮珉!d𤇢𡛧𤨤昣㛅𤦷𤦍!R珷M椃𤨦琹𠗃㻗 𢢭瑠𨺲瑇珤!v莹瑬㜰瑴鏱樬璂䥓𤪌𤅟𤩹𨮏孆𨰃𡢞瓈𡦈甎 ?𨻙𡩋寗𨺬鎅畍畊L6𤾂㼄𤴓疎瑝$DE!2YT癏O6𦏵皐臯㟸𦤑𦤎皡3AD𦾟葢𥂝𥅽𡸜眞7I撯𥈠睘𣊬瞯𨥤3𡛁矴 𡍶𤨒棊碯G;隥礮𥗠磗!A碱𧘌辸袄𨬫𦂃𢘜禆褀椂禀𥡗禝𧬹礼!Q渪𧄦㺨秆𩄍秔"]

/-- The character at a row and a cell, both counted from zero. -/
def char? : Nat → Nat → Option Char := Table.char? rows

end Quartz.Charset.Big5
