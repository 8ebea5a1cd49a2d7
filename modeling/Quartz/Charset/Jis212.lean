import Quartz.Charset.Table

/-!
# `Quartz.Charset.Jis212`: the supplementary set of Japanese

Rarer kanji and accented letters in rows of ninety-four cells. The
three-byte sequences of EUC-JP read through this table.
-/

set_option autoImplicit false

namespace Quartz.Charset.Jis212

/-- The rows of the table. -/
def rows : List String :=
  ["",
    "              ˘ˇ¸˙3¯˛˚～΄0        ¡4H                                      ºª©4™¤№",
    "",
    "",
    "",
    "                                                                Ά100O Ό 1L Ώ    L000Jΐkς:ϋΰM",
    "                                 Ђ000000000010                                   r000000000010",
    "",
    "Æy E ; >Ŀ :ØŒ CÞ                7Zðf9149ŀ81øœßŧþ",
    "ÁÀ3ÂoǍĀ3ÅÃr13Çr3ÉÈ2ÊĚĖĒ5 313Ġ3ÍÌ2ÎǏİĪ3Ĩ;123Ļ73ŅÑ1Ò3ÔǑŐŌÕŔ3Ŗ313Ş5ŢÚÙ2ÛŬǓŰŪ7ŮŨǗ3ǙǕŴÝŸŶ23Ż",
    "áà3âPǎā3åãS13çS3éè2êěėē5ǵĝ1 13íì2îǐ ī3ĩ;123ļ73ņñ1ò3ôǒőōõŕ3ŗ313ş5ţúù2ûŭǔűū7ůũǘ3ǚǖŵý1ŷ23ż",
    "",
    "",
    "",
    "",
    "丂1065<30322004:022981640:035=805A99<904005611170001042052001D2^伳111121150105111636112500020201",
    "侅3011110021030B41100010301010012931=19010022211123020003461101:0020311200315010202220倻u1013300",
    "傒00140100007408022202411203301211105143342002000僲M6110004303011100208743110641G406294319:11102",
    "凈61001253283002902<010195802683;10112004780061241610001170007050010123113212140432001302108260",
    "匌4142010510010021260039卋=15116046443054043325032101012249201420150=<@665014120=0251>311011105:",
    "咁112033305214010202510036320A9126510003202006D0620400351022061021021H10315010002;084<112210120",
    "嗓302236<85212000006B3211110010010121114910002231102>022083020060001003136630030囌0;2011200008囫1",
    "囶0904214340121000301103080050504?210210000100110001218721010001垕A002;490325705101324014003030埡",
    "堌0=20050546592010491220?3200500010103162003270A墼55401111323069A040500虁夝310360210832;0511001171",
    "奯220210>01321742500023214103124:003026010128370030:4020122C010334841159202<4222210014440012103",
    "嫄116:13443606206>L嬙11337:890537950<0001213310101A02011042130;1600005>128>:603221011120R0150300",
    "屭230400090142:1010237104>16:峗F201<464H崣010924312021<嵑7嵊D000152280301141700031306343309334巎9063",
    "巩>0665410260=帨928<4幉7412019100001?:2C102114190065廋220106165F3005:20300032011314110301523324202",
    "彯2102120:31650443徤72006;200140000920500100020231:225020144851:600242105359<0231132112403102705",
    "悻23130002040311032<2230442130000101213704030017302D1;55202001061403030104212:02300;0560001041懥",
    "懬01A102;16310311=3400153001131781362?000E1:2023049603?7170505012221@02702240001302300329050320",
    "捸301212253030351600=332521006344150120?05113511103040471;3100050001001950617170060111112136900",
    "擄400011031<030224133123004301212023242810531611:063>233472242227300:250413116@1103400330330206",
    "昞20001200011015昷840314晎8001030!~晪00A晳19晷0014晼>0021600020383025301043104638201;:1645231@:6103707",
    "杦515145290112101D002500k柀101208412449130!?栔4318栧4010017340418102?20000230005111=111411303389232",
    "棐012220721000203040082050120I112262348370001023007030<4318301211701182840:2801118101;134223371",
    "樴23205020310020482261:2120115910055300280062櫈3330050624300904020150053253202504363243142632147",
    "歾32A330104020017030404293612062515210330116560031410303:01121410>11411019001:01032@11=36100011",
    "泚136110131?2230116;00汧洮01722G6013170;54901100A17213143130641101235031533I34:321070201310002400",
    "湢04:71?5566502173001301200K10:11631108110:20402240漭Q100310202053@04302002100134040005004058101",
    "濚3906432024005982;42126030008070灎E061607230=00002864022B61000137E80000302>1:110068300204142111",
    "煨@641457041<010640026062201K51600932214634307001800210311124220150202443047<40229251280165=050",
    "狾31013140404312034024015921314000501101015123011071211031001203017112015021022022331201:011001",
    "珿00222680811000000000762010313045430021020=030015000500120012100020102313802324102043103450026",
    "甒3080221046230002305114601=170000023:1013251?5400215107420022410176100201122010210004102340120",
    "瘺1=癀0100319354070012<360750010100000012?333101546513304223533310110155400400230320320023041001",
    "睤22131005223706003424230138457023400313130232902302;30090141;020313911010313;3;4438碝0043302000",
    "碻11700213010=磛3004370<磶020365391100411332051140030312320:1166101<04100012046013123261201441320",
    "秠124013635031014352253110302009010380220104122725112030402912861310922129<010426108<:331001000",
    "笱28100566:312021203<44104421462012030004221910100<17102001120001210109144013410120;3:籑00500000",
    "籡13130116208074915950200242003130011028219=300510026042323:00105043131010712571031001012003405",
    "綞70282018000050081V緢2030133020=7031402603013284016115610252034524022332120缼缻100302720700310006",
    "罱;000:11004044033267202450;3312310272007012001101600031511301101113K31633;65=1703<0>41210107<0",
    "胰10220347:003113243441812154805003179>膄004271223;316?臃143051310226030020103102;304023059158000",
    "艋20145323566110010210322111040102000311122110694451131216050105010x茛100109001232104002502300H7",
    "荽101116410201008012A006150028荓!y1;1024434133莭!f9;10121103100133012520113033<01871004125201140323",
    "蓜:240004j蓺01403411;130001203301868000022200000016390011130210234410121<100300024202薭Z140514525",
    "藿030701005012251<1110213;020003200004225002B3411144004310010050011;021213211蚈!V1060132002044011",
    "蜨5010601001217:4320910870000001032110041234002380160036020122005013141411220048蠒00310010840112",
    "蠺14112000223011120347714G1002071?2019000020072870031946005010013500700230311202524200400721214",
    "襻00;323050204:30004G0000<311312231401710108111140251501211130420030331=00100200224301301571403",
    "誶032421006100151<3300525045:10謊R2645000019004譍@498102122051140610谸030611131102021豙901103510427",
    "貇34105107D0:02136賕3336320121050115843y321@2134203800540222111440001322011:0143趼d01832004521900",
    "踣20912000320910046000206201007006056124010341304140401027127;510510軭B1406050051011103005000250",
    "轃37100002406g20200>0151043012101:2035230423133;2<05逪105027307>14304334;22011410014002:10016>邾4",
    "郄010<1002015郒S郫303900300142310011114鄢031401210101053063310052256400511033210025241300100024001",
    "釂01=021035030100000511120200010131021305000150021010011110202200160202031004004000010018002034",
    "銙5030102323110001000010002000121100201001110311813015432060001201108010?0060021013501102100101",
    "鍺2100051011222222101128003鎩G20001000055210230A鏷0101301303005007>0100063鐽512118322114210010A钃#C0",
    "镾53300>0014210713216101400050200031f031005413000103@11008<56010100047432140024036?7嶲雘120095187",
    "霃13@01300481=1630510107323420021108;0010302912020100110120110100102200301韛52:12201<2>頍05151122",
    "頫200101頥H5226002010701031n1013201032223D1100282;40830020022303500003000304004053010100j1169002",
    "馹02135904011820033033030060304711002504101>驁250012216|1102100212011215112003033011250130210000",
    "鬄020100011321035415001102:20800322110110000411005030001001103520701230040201015051604151203330",
    "鯹0210183141001130200006300531003030020112100350鱜>鱨511213!O;41A鴂>50300@0100518鴽403280:3鵢23004503",
    "鵼1401320301000881123322331090002300411121209;鸂4610020220!A00310001606122533100200@1299424001002",
    "黸62055000110100323303101210101110000;100012090300001142A00011062001"]

/-- The character at a row and a cell, both counted from zero. -/
def char? : Nat → Nat → Option Char := Table.char? rows

end Quartz.Charset.Jis212
