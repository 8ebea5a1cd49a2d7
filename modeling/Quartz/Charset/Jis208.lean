import Quartz.Charset.Table

/-!
# `Quartz.Charset.Jis208`: the double-byte set of Japanese

Kanji, kana, Latin, Greek and Cyrillic letters and symbols in rows of
ninety-four cells, with the vendor extensions in common use. Both double-byte
charsets of Japanese read their pairs through this table.
-/

set_option autoImplicit false

namespace Quartz.Charset.Jis208

/-- The rows of the table. -/
def rows : List String :=
  ["　00，1・：03！゛0´｀¨＾￣＿ヽ0ゝ0〃仝々00#C―‐／＼Q∥｜…‥‘020（0〔0［1M1〈000000000＋1±UO＝≠＜1≦0∞E♂♀°′0℃￥＄￠0％＃23E§☆★○3◎◇",
    "◆□■B▲:▼※〒→←01〓           ∈2!_0⊂0∪∩        ∧0￢⇒1[2           L!i!Q∂4!>≒G0√R∝G∫0       Å‰♯♭♪†0¶    ◯",
    "               ０000000000       70000000000000000000000000      60000000000000000000000000",
    "ぁ0000000000000000000000000000000000000000000000000000000000000000000000000000000000",
    "ァ0000000000000000000000000000000000000000000000000000000000000000000000000000000000000",
    "Α00000000000000001000000        700000000000000001000000",
    "А00000ЁD0000000000000000000000000               000000Kж0000000000000000000000000",
    "─1937└7?┤?7━1;37┗;?┫??┠>┨>7┝B┥B9",
    "",
    "",
    "",
    "",
    "①0000000000000000000Ⅰ000000000 ㍉㌔=Z㌘>㌃bJ5㌍H㌣7N㌻!E00㎎0d㎡        ㍻〝1№㏍℡㊤0000㈱06$H㍽㍼≒>∫2∑8!o∠∟⊿∵∩0",
    "",
    "",
    "亜唖娃阿哀愛&z姶逢葵茜穐悪*x渥旭葦芦鯵梓圧斡扱宛姐虻飴絢!@鮎或粟袷安*m.i,9%i闇%~杏以Tr!4偉囲夷委威&u惟_!E易)~為畏P移,]q胃+A.j(v違T医井?域育郁磯一壱溢逸稲茨芋鰯允印$PS&l姻引飲淫胤.^",
    "院=_$^吋右宇烏羽迂雨卯鵜窺丑碓臼渦嘘唄欝蔚鰻姥厩浦瓜閏噂云運雲荏餌叡&B嬰.V映曳#_.I泳e瑛(D+|頴英衛&r鋭液疫#m駅悦謁越閲榎厭円園#l#b(G+8$5+wz沿演%2!jt燕$m縁艶!?)R遠&h鴛塩於汚甥凹央f往!@",
    "押+4.E#K!q王翁襖鴬鴎%n岡沖荻億屋憶臆桶牡乙%Y+t恩温穏音下化仮!K伽!H佳*n$R嘉*G%j#CZ科暇#cI,A$j,c+M禍禾!b$N花YX!W華菓,>+B嘩貨+4!L霞蚊俄峨我牙)n臥芽.V賀雅餓駕介~解回$o!d廻#>n!N恢$qq拐(@",
    "魁晦械海*:界$=絵芥蟹開#Q貝凱劾外咳害$f.g概.B碍蓋,7該鎧骸浬馨蛙垣柿蛎鈎劃嚇各廓拡&E+y核+y獲確%i覚g,D%P&W閣#?革学$P楽額0掛笠樫!8梶鰍潟割*l恰(S活渇滑葛褐轄且鰹叶椛#m鞄株兜竃蒲釜%h噛鴨栢茅#z",
    "粥刈苅瓦乾#S冠寒刊勘>巻喚(g%t%^;r(n6患感s!?換%?(F!f棺款D#R)W!Y潅環!L&8W竿管!d&5$P翰肝&6$;観#g&L還,x$E閑@陥$q$X舘丸含岸#b玩(z#>岩翫贋雁$Sr3企<.x喜器%J$P%z寄岐%4!V$Q.7+B旗:$@%d棄",
    "機帰毅!6!J畿,t季稀*A徽規!m(s起$X!5飢#z#|亀&j!g妓&v戯!5(C欺犠*2,a義蟻)M議掬菊鞠吉吃喫桔&q詰砧杵黍却客脚虐逆丘久!fy及!R宮+[急救&Y求_!U,@,6究g!>級糾!L旧牛去居%[拒=h渠虚許,W鋸漁禦魚亨20",
    "供4$4!Z競共!i$a匡!B!P%y)c.s強B#3PL)>教橋(M狂Z矯胸<#Q+<郷)v.3$[#Q仰)y尭暁)x局曲(Z玉桐粁僅勤.x巾錦斤欣I琴禁k%F(V芹#a衿襟&G近&m吟銀九&F,Z区狗玖.h苦躯駆19具愚虞喰空偶寓遇隅串櫛釧屑屈",
    "掘窟沓靴轡窪熊隈粂栗繰桑鍬勲#w薫訓群軍郡卦袈祁係#J$V兄啓&G珪型%~形Q#?#O慧q&v!l$5#Q&@渓畦稽)J!5|繋#n,Nk+y*|!?#Q,B頚鶏芸迎鯨劇戟(;激隙桁傑欠$])f穴)h血&P月件$F倦n#e券Z+:$k#D)S.C)Du#I!c",
    "検#[牽^!f研!?絹県肩見%F&6&]%I*S*F&H%v.z元(3C幻弦減!Y玄!^絃舷言#H限乎%u古!|(U)c%K(d庫弧*R*N(A湖狐糊袴股o*P(5.N+W.d雇%X鼓五互!_.P#O吾娯後D#L梧&T瑚.<語5護醐乞鯉交佼b!N倖$6R$6It厚x]",
    "后$~&5!5&H&D8a工1?!e:FL!E$=#H$Np控%L昂p更!]校!Z$7(k洪n港!R甲$X&R&@(xTBu!7(;考肯1腔j航#v行D)F%?!>,y酵#J砿鋼)4降%p%L$B(:剛!4$O@壕拷濠豪*6麹克#>&|)?穀酷鵠$u獄漉腰甑忽惚骨狛込",
    "此頃今困!X$]%T恨$b.]昆根梱混痕紺艮魂些佐叉$@嵯![7査沙瑳,:詐鎖裟坐座挫債催再最哉,@妻&b,d)p$W栽*w(l(L采犀砕@$J斎細菜裁載際剤在材罪財冴坂阪堺榊肴咲崎埼碕鷺作)z咋搾&W#:柵窄策&9錯桜鮭笹匙冊刷",
    "察拶%pg札殺薩雑皐鯖捌錆鮫皿晒三(f*k山惨,U散*=燦&Q産算)w蚕讃$[酸餐斬#M残仕仔!Jt)G%v史&^#F士始姉e$T#K%mX%du)v支孜斯=Z%m,pH!x獅祉私*xPA+m!D#?視詞:試U!F&FD雌飼歯事似!5&0字寺慈%q+7",
    "次,U治爾(V#e)y!]而V%o)6辞汐鹿式識鴫竺軸宍雫七叱執$=%P室悉湿!k疾質実蔀篠偲柴芝屡蕊縞舎写射捨赦斜煮社紗)z謝,X遮蛇邪借)g尺杓灼%q酌釈$f若寂+e&5主取守手朱.n狩#E種腫趣,Z首儒)Q!w寿授樹綬需囚収!~",
    "宗!~%e修愁&j洲秀:+m#Y%=臭a(H,a#z讐)p輯#P#hP集醜什!s&c&i従(R柔汁&7獣縦重銃叔夙)2淑祝縮粛塾熟出術述俊峻春瞬*x舜駿准循旬+y殉(A準潤盾純巡遵醇順処f所.fw渚庶緒%X書薯w諸助#~女序#O恕鋤+v傷!L",
    "勝rV召#J!B唱#4+G!:!b$|!5818(A5!:!t*P4!;掌捷(g4Px#V#r%5E(^消!e~)p焦p.u$=$_礁!H!o#>笑%N!v+S+6蒋蕉*U!z#zLGN&[!a醤鉦#f!~([#J上丈Eh+6剰城!J!|嬢*W(d.N(:杖浄状)I穣蒸譲醸$k嘱&0飾",
    "拭植殖燭織職&h触食蝕辱尻伸信侵唇娠%u;心%C&N(X晋(z榛浸!]申!j$i神!l+C臣芯*<親!t身#>進%c震人6+8塵![尋甚尽腎訊迅陣#X笥諏須酢図厨逗吹+?帥推水.k睡粋+K衰遂酔%t7+m瑞髄崇!F数枢趨雛据杉&=菅頗雀裾",
    "澄摺寸世瀬畝是凄!V勢姓征性&V*pd星!9(U栖+C(y牲)9%t精,C声製!f#o誓g逝$x青6斉税脆隻席);$A,6!S%4石(1&m&^)X責赤!a!b碩切拙接摂折設窃$@説雪絶舌蝉仙(F&hL宣!CC&4.^P(@+YP泉浅洗染潜&_^旋穿#|線",
    "繊$a&?舛M+c詮(7#u(Z遷銭銑)~鮮前*x漸&k全禅繕+T糎噌&r.l措+J曽(4狙)B疎+vw!m)D!mS蘇.B阻遡鼠僧%F$ZE倉喪+:!E爽宋層匝惣?(@V挿掻操#j#^巣槍_漕燥争痩#],F糟#>綜)Q)t>#b!4$B)V走(h!P*k,0*7像増憎",
    "臓+X贈*Y促側&@#z息)f束測足(C俗属賊族続卒袖其揃存B尊損+:遜他多?汰詑唾)c%H惰$f柁舵楕陀+z!H体堆対耐岱%6$Y怠#y#7替泰&[胎腿$X袋.B+>]隊黛鯛代台大第醍題鷹滝$M卓&^宅托ud沢+C.H託鐸濁諾茸凧蛸只",
    "叩但達辰奪脱巽竪辿棚谷狸鱈樽誰丹単):$c担探旦歎(j!^炭短*C箪&~(Y!m蛋,u鍛団&Q弾断#7檀$8男談値知地弛$M智池痴.;置(]蜘遅馳築畜竹!<蓄逐秩窒茶嫡着中仲宙忠)i+u%m注虫&y%|酎%]駐樗瀦*E苧$s貯丁+;!i,k寵",
    "帖L!2!wPex懲#m,<!_潮)p)t&m聴脹n蝶+?L)5!R銚)i(b鳥勅捗直朕沈珍賃鎮)Q津墜椎槌追,H痛通塚栂掴槻佃漬柘辻蔦綴鍔椿潰坪%E嬬紬爪吊釣鶴亭低停H&;貞呈堤+l(Z底GyW$p抵!i!z梯,<碇#U!a締.|訂#2+T&<",
    "邸!Y釘鼎泥摘!n!w滴的笛適+^溺哲徹撤轍迭鉄典填天*m店添纏甜貼転顛点伝殿澱田電兎)N.:Q$X)@*s斗&2渡登菟賭*h#7鍍砥D努度土奴怒倒$K!6Pb*Q+:3#M宕$d!y*r&F%P+:桃!]R盗淘湯涛灯燈当痘,J&?:筒%<統到",
    "董#T!_.?#D$E&6&a;鐙(4%o&p闘働&u$:堂導憧*8洞瞳*s胴*Q道銅峠鴇匿得K涜特督(3篤毒独読栃(5凸突椴届鳶苫寅酉瀞噸屯.m敦沌豚遁頓呑曇鈍奈那内乍,H薙謎灘捺鍋楢馴縄畷南楠軟難汝二尼弐迩匂賑肉虹廿日乳)~",
    "如)I韮任妊忍認濡禰祢寧葱猫熱年%9+|#m燃粘乃廼之埜嚢悩濃納能e!p農覗蚤巴把播覇杷波!@琶破婆罵*y馬俳廃拝排&2杯盃牌背肺輩配倍培(p梅#<煤%Q買売賠陪這蝿秤矧萩伯*w#C拍柏泊白箔#O舶+D迫曝漠)r縛莫駁麦",
    "函箱硲+<肇筈櫨幡肌畑>八鉢溌発醗髪伐罰抜筏閥鳩噺&L蛤隼伴)|#t!g=帆搬$h&[氾?版!K$A$j繁般,h販範釆煩頒飯挽*m番%2&Y蕃%c匪V否妃庇#C$9%O_a)q比#F疲#J&P$J緋%d#|被誹&o,o非%5樋簸備尾+f枇.f琵眉美",
    "鼻柊稗匹疋髭彦膝菱肘弼!m畢筆逼桧姫媛紐百謬俵彪標氷)W瓢票表&Z豹廟描病秒苗錨鋲蒜蛭鰭品彬斌浜)E貧[頻敏瓶不付埠$N$>$i冨布府%2(7*B_普浮父符腐y#M譜$Gu!r阜W侮撫武舞葡#W部封楓風葺蕗伏+V復幅服",
    "福腹複!c淵弗+4沸仏物鮒分吻噴墳憤扮焚奮粉!9l雰文聞丙$_&m塀幣?弊柄並蔽閉陛米頁僻壁癖碧別瞥蔑箆偏変片篇編辺I!]便*K娩弁鞭保舗鋪圃捕歩甫補輔穂募墓慕戊暮母簿菩倣俸*N$D報#f宝$V峯i$p.0捧&D!_$U",
    "法;烹砲縫)?&B萌蓬蜂褒#f豊.q鋒飽鳳!]乏!6&Y&6坊(5帽%S0(=暴!K某#P冒紡,4#L謀%Db鉾,_吠頬北僕(^墨撲(Y牧睦)l釦勃没殆堀幌奔本翻凡盆摩磨魔+]埋&[昧$v.I哩槙幕膜枕鮪柾鱒桝亦$@又抹末沫迄侭繭麿万慢満",
    "漫蔓味未魅巳箕岬密蜜湊蓑稔脈妙粍民眠務夢無$A矛霧鵡椋婿娘冥(?!T明盟迷(x鳴姪牝滅免棉綿緬面麺摸模茂妄&H毛猛盲網(<蒙儲木黙目杢勿餅尤戻籾貰問悶紋門匁也+M夜爺耶野弥矢厄役約薬訳.o靖柳薮鑓愉愈油癒",
    "諭輸唯佑&F%U#R宥)d悠#0揖*t柚湧涌猶0&g.4裕&0遊v!H雄融夕予余与誉輿預傭幼妖容*@揚O擁曜(E!r*t%c)j,?窯羊!Z.^!d要%X)u(2陽(d慾#a欲$T#?翌_淀羅螺$A来莱頼雷洛絡落酪乱卵嵐欄濫藍!D+p利&S履李$]理!a",
    "痢裏A里離陸律率立葎掠略劉流$^琉$S*S.<隆竜龍侶慮.l虜了W僚両,V寮料)t涼猟*d$n(F)W良諒遼$V陵%[力緑倫+c林淋燐(:臨輪隣鱗麟瑠塁涙累類令!6!9冷#H嶺(9玲礼苓鈴隷nC麗齢暦歴列!p烈裂廉%:$H漣煉簾%n(R",
    "蓮連*J呂魯櫓炉賂$0露労婁廊i朗(<G浪%]+I!~篭老!a蝋郎六麓禄肋録論倭.t話歪賄脇惑枠鷲亙亘鰐詫藁蕨椀湾碗腕",
    "弌丐4D64522C1Y2豫亊舒弍于?001=22G仍仄1仂D6>仟GA!5估Z1佗佇^A68佻佩6P佯F?%:俔:俎92俑8俐C0d=倔E倥倅伜俶Z72俾俯Q倆l3會偕偐偈A偖E;7I傅^傲",
    "僉0傳>C767僣::僵C儁0C儕儔56H儷4儻30A兌7=竸兩03A1囘册冉51110=1冢6007冱0冰4773A4處凩3248568刎H2345E剄60A剔E9剩9;剽?6劒剱F8辨",
    "辧劬0>劵;;9642飭勠B120<1甸匍2匏548;11475卅丗卉3凖%@:4夘卻卷:C95厥815<簒雙叟曼燮叮叨4<6k2听0>吮7吩吝呎p呵H呟A5呰Q呻4呶=;咆p咢E咥6G3咨",
    "咫F咤I咼K<0X4哽哮哭<哢!;6R啌售]啅@0唸唳Yk喀咯喊D啻2I5?啼6U喇Pa嗅I嗄G7嗔o嗷N嗾嗽M嗹!91營嘴1嘲5b噤嘯l噪K嚀9E嚔嚏E87嚴=嚼41囀75213F:6囿44",
    "圈2154圖嗇$X9@0E圻4>I!;垈坡M99<B垤55B2=埒0f埖<W=3!9堡p塋T毀塒堽k;c墟;>S墻墸墮F=壑51壘<壜7壟?:壹100475:梦夥60455竒奕奐奎;奘9奠64奩",
    "奸8K佞|妣>CQ姜妍!00z娟娑:娉@U[婉娵0[7_Q1<嫂媽U嫗>2嫖S0@嬋:K嫐!>;741孀@340936212斈孺52RA:31:寐C1寢寞6545寳A1045<15?07474",
    "屐屏孱#I1乢屶2B42妛*Q?岶5岷=岾8A?C峺峭嶌峪P91t崟崛崑2=崚崙崘c5嵎嵋P62@嶄嶂O嶝>1>嶐V4<35巒34?62E>帙帑9J0<幃幀=8幔:21幇]03麼广PP057廏",
    "廖<廝廚06廡60241廰33545!8彜弋54B3:8631弯Q4017;53;徂彿:很8徇F徙徘774>IT忤C忱忝悳忿Qn怙怐H怎R怛怕E怦怏ZO恁X<恟恊恆6E恃P恂Y恫恙W;!>悃F",
    "悄F悖0悒D悋!:悸W惓悴忰悽8悵R!Y愕愆惶08惴58M惻惱K0h愾愨愧R愿愼愬7841^3慘00@8慯慥;慟慝慓QS憖憇T憔5憊6I2M懊應]懈懃2憺@罹懍H懣B3懴:懽懼11703戌76",
    "戞283110=<?4扛47C56找C02m抃@r拑抻C_拆擔拈C拌拊拂4抛]r拮2e挂5拯5!?挾>搜捏v掎掀Z捶掣掏掉EE捫捩!9Z揀5L揉8S揄!6M搆<B?#5搗@搏!<76摎攪撕撓A3撈c",
    "據擒擅1撻L擂^擧舉擠0抬擣;l擶擴擲75擽J3攅N攣7801收1畋效=敕敍:5敝D590變斛3;;;2旁2758旙60?%9昊昃旻%0昵0昴昜b晄4晁L晝620晟2=B45暉暄C4S暹?暾暼",
    "曄暸M35昿曦2641G6770霸朮@朶:朸朷>G1杙90T杰h杼杪Q枋J枡枅ag枴g枳e枸[柞柝4;枹D柆P)A栞W栩F<栲K!I栫]9C7O梏M梔8梛梃檮梹桴p梠I!9梍桾!g棊m棘y3棡Z棍",
    "棔B棕!E椒椄棗;q棹棠>h1椚8椡棆楹楷楜K楫楔Y楮椹j椽K椰楡楞楝S楪w榮Q榿1A榾?寨槊B榻7榧!k榑>榜榕NY9IH槿#Y槹槲槧M榱!Q槭V槫N7櫁樣樓橄樌!J樶q橇J橙<橈樸樢!R檍B檄M0",
    "檗蘗檻7櫂檸檳檬a櫑=檪_?@9蘖櫺G3鬱欟H欷盜欹飮歇歃568歔631F0503殃9:殕855032殱134947;<毫7毯麾氈:068氣j汕<7G:<沁I汾汨:N沐c泱泓沽I泅G沮2<",
    "沺PC泙@d衍洶洫A洸洙K洳洒洌!;_浤浚N浙d6濤涅!XK渊涵AN涸=U淞淌K淒淅d淙:淕D3np渮渙!=湟渾渣w渫z湍渟S渺C渤滿渝JyW溘滉溷K溽溯D溲Q0溏EL溟潁漑$>滬;5p滲n滯r滌",
    "漾漓滷!s潺潸8澀潯潛!|潭D潼潘e2濂潦|澣澡2D<澪d濕F濔3H濮濛]1濺F瀁=濾L瀚潴瀝瀘6@=瀲NAe炒Lq炬;炳炮烟烋A烙_烽N焙!0煕b煦煢煌9ER!P熄@B3Z熹4C燉:燎A;燧=6",
    "燹5=2:<4爬31802054<K93犁5:3;4A犲@2狄93?狠0G狷倏猗猊A猖6F猯猩猥H?0默獗B獨77獵5獺!2玳J玻4T8珞璢琅!N琥珸i7J琿O瑙瑁J<6瑣6;7<B8R44珱",
    "瓠23143瓰06瓷<甃161甍7甓:75?78畊畉A畆C>畤231:當?0畴E疉疂A527疣N疳?疵7疸3疱K痊769痞O0痼4痰9痲0G1瘉E7瘠001?瘰:;0癆E癘80500癧43",
    "癲313324227皓50E33007:8盒;2312蘯盻<眇眄T眤眞60眛K0>B=2睛9I睾睹D瞋5>瞞A525瞼0瞻;59216:=?5#b砠#X硅x硴A硼M碌FA碪4Q磆48碾碼84Q",
    "磧磚R磴B:礑7B礫DO祗7祚祕祓V4:B9齋禪3450>;A4秡1T4:06稟禀稱92稷;C穉G06龝穰83:>窕2窖BN窰5>竄窿邃竇2215竓50230362A<笊笆笳笘04F笨=I",
    "筺笄x笋p筅_筥>筧80筬1^箘6箍>箚箋6箏筝ka篁:2箴AF;W2篦篥!_簀6;篳3O簍篶簣32簟G簫A>籃@籏籀?764籖>68=<C8粢8粡6:粲粱粮:324糂E糒95鬻糯2113;",
    "紂I紕紊j5紮3<紵@絳絖絎S絨5絏C_綉絛c絽MN綮綣AA綽綫!v綢<緜綸綟@W46緞L緲緡S4H縡縒N縟縉1FSO縻縵39縷縲7繧繝繖7繙0N繪繩B繻7緕繽辮繿8025纐201纎<0缸1",
    "罅600103罔36070罧@93羃4羇479羝羚8;26羮71譱翅03:翔<4295飜耆耄6650246F耻>聆;51425:聲聰523141肅E肓6B冐肬^9胙3胄E胖b胯1Y=脣;K",
    "隋腆脾D腑胼!Y腮腥0=>41膀1M膕>膣腟cE648膸421膺>337臘臈A406B0220212225B1<舳<H艘4艚44艢510舮r505>4H芟K芬d1苟苒Q苳6莓范苻苹苞W苜茉苙",
    "茵茴茖K茱>茹F荅茯茫茗0!QD?莟2莖茣!O莇2荼h荳1Z莉N!0N菫菎^5菘b菁e?菠AJD萠莽!_蔆菻!V萪A#l蒄葷葫q葮C葩葆萬r9萵!y葢!;5蒟i蓍蒻N蓐蓁4?蒡!d蓿蓴R0C蔟蔕蔔蓼sR蕘蕈",
    "蕁蘂蕋9ZS薈8薊M蕭V6~薇D蕷6Ah薺D薹F477藜L@8蘋藾藺;K蘚E>=乕虔:79Q?50蚋0Y蚯D1蚰H$]蚫X9:2蛟蛛CR蜆1蜀2蛻E蜉3蛹@Y:蜷3蜥3蜚u蝟H蝌1U蝗@5蝙",
    "蝓?6蠅螢螟螂螯K螽2?雖螫H螳C蟆螻c2蟠^蠍蟾蟶0F蟒n4蠕<蠡?42蠧C8衂?6438E衾O衵7g衲?D袒K袙8袍F;>袱A0?303K8裼裴裨9A7褊8_褞640E2褻褶1C褝r襞",
    "襦襤8襪44264418487覦5227210I109<3:B訐訌>17@:I詒詆1c詭詬詢R誂1S誡誑C0誚8P8諂G@7諧諤<R諠1D諞諛謌謇B諡d謐68B鞫謦4B謨H:2譎證<4譚@",
    "譟<2482;130220谺6谿83114<9;176貅4205豼K戝貭貪B貲0貮7A賁R賣賚R賺0804贇7贍2齎贓賍v1!5531=GX趾趺D:跖跌>跋N0跟3H;0跿M0踐>R踵踰3E",
    "蹇123蹈@:蹠踪h蹕P蹲945躅躄6躊8躑24@躡:3E躱<622?7H軻軫B;輅?輒6輓82輛輌I<7輹;轂輾=轉轆784500g23917R:迢74!|迴@迹0F3;逍@逖逋K>逵3迸",
    "遏000逎j逾G15966隨遲?遽3邀9邉5H613郢1扈郛V?6H鄰I;1:139酲H醉醂O83醪:醴550714581釛P釵0W釿DG鈕鈑|鉗鉅3J鉈|鈿;4!0銖銓7鉚!Y銹銷aU鋺y錮",
    "錙8錚8F錵5P3K鍮鍖!>鎬0鎔TL0@鏥鏘鏃I鏐鏈Ke鐔鐓鐃38U鐫9鐡H6@鑄F41鑞;鈩鑰415鑚Q12鑿#Q42911067閧5>閻閹4;濶闃9闌8闔1543闢n650B92陋[陜1",
    "陝16;陬P:隕1B隧90隰3110D雋雉3襍雜霍雕S:11:霎2霏62:55830511靂6B3311勒靫57;靼4靺;430;;鞦鞣?0>212@@齏韲竟韶韵I頌[頤頡E588顋O30",
    "顱2顳f414=飃2R1G58138餝05餠;1>036饅:饋50饌8q0<70=R駛1駘駑K0208駸8=騅駢fA;=驂驀2騾F驍=驗722驤41驪r2;3>110902028髫25髱5",
    "髻:A142011000302A魃;魍026KN鮃=40707;;9鮹<810@鯢1鯔<!=鯲鯱鯰T鰔鰉9鰌鰆19鰊鰄Y鰛9鰤鰡>F鰲C鰾K56>1!S43H鴈鳫G2S鴦!m鴣鴟T鴕鴒^鴿鴾71",
    "鵝05鵑鵐8HF鶇S鵯:O948A鷁鶻鶸1;8鷂F鷓T鷦61=L02!;33362052麑;73>麪2靡黌100371黝2426410110090皷鼕;:A;71>齟00404齪<齲3N63",
    "堯槇遙瑤凜熙",
    "",
    "",
    "",
    "",
    "纊褜鍈銈蓜俉炻昱(n鋹曻彅丨仡J32eLk侊?侔h!W倢俿NWY偂!6!D僘!VIhP]X!k9IJT6L!2PNZ﨎咜咊N!:!k&@;vK埇﨏0增C!=w715pE%T!N甯寘Ca!lCja[﨑嵂Zz0F$TBb!4",
    "忞!cW4!8惕z惲NU愰!L!_!w$R!Ol擎!d昀DU昉T昞5p晗1晴晳U6A<jC朗杦!9桒柀pr!o﨓楨﨔榘y!2j橆橳:!H1#@!MLY汯!OY!g浯VERX淲9lR渧D!g澈澵o?1P!AU!H焄!<煆0凞燁l犱",
    "犾!J猪獷u;<<珒d珵琦3琩4cVE!F!R#aI1皛:益睆劯砡硎EE礰礼00禔福禛$9E靖竫箞精絈C!?綠e繒#C!>羽茁!ELw^!6!P蕓5A﨟薰蘒0蠇#<#kTq]FP諸諶!A[$t3M!H﨣軏﨤0遧![都鄕A釚",
    "釗6>0釤0P9鈊_5鈼A:鉑鈹]o鉷0!S鋗1鋐﨧鋕:鋓!6錡鋻﨨錞鋿M錂!R鍗|QGIhC2$M隆|隝A!h779113#P=飯0餧館馞驎!o2魵魲LQ9t$s鵫鶴鸙黑  ⅰ000000000￢1＇＂",
    "",
    "",
    "",
    "",
    "",
    "",
    "",
    "",
    "",
    "",
    "",
    "",
    "",
    "",
    "",
    "",
    "",
    "",
    "",
    "",
    "",
    "",
    "ⅰ000000000Ⅰ000000000￢1＇＂㈱№:#b纊褜鍈銈蓜俉炻昱(n鋹曻彅丨仡J32eLk侊?侔h!W倢俿NWY偂!6!D僘!VIhP]X!k9IJT6L!2PNZ﨎咜咊N!:!k&@;vK埇﨏0增C",
    "夋w715pE%T!N甯寘Ca!lCja[﨑嵂Zz0F$TBb!4V!cW4!8惕z惲NU愰!L!_!w$R!Ol擎!d昀DU昉T昞5p晗1晴晳U6A<jC朗杦!9桒柀pr!o﨓楨﨔榘y!2j橆橳:!H1#@!MLY汯!OY!g浯",
    "涖ERX淲9lR渧D!g澈澵o?1P!AU!H焄!<煆0凞燁l犱<!J猪獷u;<<珒d珵琦3琩4cVE!F!R#aI1皛:益睆劯砡硎EE礰礼00禔福禛$9E靖竫箞精絈C!?綠e繒#C!>羽茁!ELw^!6!P蕓5A﨟薰",
    "蘒0蠇#<#kTq]FP諸諶!A[$t3M!H﨣軏﨤0遧![都鄕A釚釗6>0釤0P9鈊_5鈼A:鉑鈹]o鉷0!S鋗1鋐﨧鋕:鋓!6錡鋻﨨錞鋿M錂!R鍗|QGIhC2$M隆|隝A!h779113#P=飯0餧館馞驎!o",
    "髜魵魲LQ9t$s鵫鶴鸙黑"]

/-- The character at a row and a cell, both counted from zero. -/
def char? : Nat → Nat → Option Char := Table.char? rows

end Quartz.Charset.Jis208
