import Quartz.Charset.Table

/-!
# `Quartz.Charset.Ksx1001`: the double-byte set of Korean

Syllables, hanja, letters and symbols in rows of ninety-four cells. The rows
of syllables hold the common ones, in the order of their codes.
-/

set_option autoImplicit false

namespace Quartz.Charset.Ksx1001

/-- The rows of the table. -/
def rows : List String :=
  ["　00·‥0¨〃\u00ad―∥＼∼‘020〔0〈000000000±UO≠30∞E°′0℃W￠03♂♀∠!i!Q∂4!>≒§※☆★○3◎◇◆□■B▲:▼→←010〓≪0√R∝G∫0∈2!_0⊂0∪∩∧0￢",
    "⇒1[2´～ˇ@4˚˙¸˛¡Mː∮∑∏¤℉‰◁◀▷▶♤♠031♣⊙*p▣◐0▒A02▧▦2♨☏☎=1¶†0$w11↖1♭♩01㉿㈜№㏇™㏂E℡€®",
    "！0000000000000000000000000000000000000000000000000000000000￦］00000000000000000000000000000000!j",
    "ㄱ000000000000000000000000000000000000000000000000000000000000000000000000000000000000000000000",
    "ⅰ000000000     Ⅰ000000000       Α00000000000000001000000        700000000000000001000000",
    "─1937└7?┤?7━1;37┗;?┫??┠>┨>7┝B┥B9┒┑8┙┖┕┎┍@010301020202020201010000000",
    "㎕00ℓ㎘[㎣000㎙000000000W㎍00o㎈0n㎧07000000000㎀0000e00000㎐0000Ω㏀0㎊00y㏅㎭00[㎩000㏝㏐2㏃5B㏆",
    "Æ9ªĦ ; <1ØŒºSŦŊ ㉠000000000000000000000000000ⓐ0000000000000000000000000①00000000000000½⅓0¼1⅛000",
    "æZðf91471øœßNŧŋŉ㈀000000000000000000000000000⒜0000000000000000000000000⑴00000000000000¹²0⁴:1000",
    "ぁ0000000000000000000000000000000000000000000000000000000000000000000000000000000000",
    "ァ0000000000000000000000000000000000000000000000000000000000000000000000000000000000000",
    "А00000ЁD0000000000000000000000000               000000Kж0000000000000000000000000",
    "",
    "",
    "",
    "가022000500000001000023701006023:1633C022015010002000337010060012070100323381802201120011050231",
    "괌011633820602370116338180220004001105023;06B8023701833C0220060116K0220150110310013150100320237",
    "깹100606_001370100602;21633:042K0211701100406;060C6337036K02360011057;0602370273370:K0211140011",
    "끝N023701160012000501000011002370100602374R01031040100500237010060237020233G0231501140033;S3370",
    "뇟80238116022070116C7K3370:06703602300501103133C0231501141001200003001000030023701006g001201040",
    "덧112102370100633;063G022011301111233CC7337018K02370116C7D6338116337460220150116K02207010005023",
    "땀01005002370100n023104010050023701006CS023<67CK3c023604RK33703R022070183370:337011602370100030",
    "래02370100602>1R0237010050023701160237010063<18023701163@J7337011633811602370116C7K023721602370",
    "륫160237011020M02370116021000050110210023701000506<R02315011040023701006023:0014K01031501163?0R",
    "묀38116338180012000501131033818K33C337283372T0220150100112000020000401132023701003202<V02201501",
    "벙0502207010060238100323G0013701163?7C702370:3G02200050113017;7K023<6337216023701T0231501100402",
    "빨150100500237010060>W022072006D60>0100R023703nKD6023721!?D63370V0237011601020005010032023701006",
    "샥23701163374600002010401004102370100602370100633<600131501132023<63372073370180237011602207011",
    "숯101C70237460237011606721602306011R0220600114101037020500237020KR02315020633cG02201503602?7C73",
    "쐴70:K0237036C7K3쓩60231400:337;02370116020010040010030102370100602324011310338:0201000500000011",
    "에0237011600131040000030003370107023001200111402370100602;2160237011602370116023005011602370206",
    "웩2370360237011602370111402351011000000033728023004001000310210015010005023701006021174633C0231",
    "점01105023701163370206K023150110030068116C06337011602@60230050116C7K0237018337;0237011R02201501",
    "징0201021124010060237010063@R023701006D6CS02370111406;7C73370O60237036C0RKK?21R0237030400211701",
    "찼00502370100631174R023701006023701163?73@60237011633<R3370116?;02370116C73G3370116337460237011",
    "치0220060116023701160237010060CR02207010060237011633701006K02370116023746D67CK0237011633<6D6023",
    "큄0116337;023703R023701160230601006023701006DR0231501006023701163?73G0237011413GK3>16K02370116C",
    "퉤K0237036337460220150183370:023701160013150100320237010060f02370100602370116337020678180237011",
    "퐈DR3G338180220150116DR3372833721633701T02370116023420116023701006DR023150116023701160237010063",
    "혤8:0234201132023:1602>160238116338180234221633746023<60237011602372160210006011323370360237011",
    "",
    "伽e假價%_$R!j!T#r嫁#C暇$20g+S珂&m稼苛X街袈%f(i#U#z#9駕刻$<!t恪#H殼珏脚覺G閣侃(^墾奸!R干6+D&f+|柬!w澗癎看&W#a#E#p肝&>2諫間乫喝曷渴碣竭葛褐蝎鞨勘坎堪嵌,~憾!G+7(F(J減甘疳#~瞰紺邯,M0龕",
    "匣岬甲胛鉀+N剛堈&A)Q!Z%X!g?慷江畺;糠!wm&H&5舡+f,[&G鋼+G鱇介[#b&S塏愷6Y,|槪漑疥皆!4箇芥蓋豈鎧&Q喀客坑更粳*G醵倨,>居%[拒据$o<渠(c祛距p車遽&5鋸乾件$r巾#J&y楗腱虔蹇鍵騫乞傑杰桀儉%<4檢",
    "瞼鈐黔劫怯迲偈憩揭擊+h檄激膈覡隔堅牽^甄絹#B肩見&V遣鵑抉決)f結&W訣兼慊箝謙鉗$8京#uz傾w%s;卿坰#a庚#E&Re*c敬#Q!0h%[涇*?!P,Y5T#](j!d竟F絅!2(YY脛(R警,Z#N,w.7d驚%F係啓)s#e季#1悸$]桂!R",
    "棨溪界#z磎$r)J$s@計誡%V階鷄古4!EV固)c%K尻(G.a攷=敲#|#]槁*=痼!x#<)M羔!S股#<$ZF#A&>(G!g&^賈辜,=,D%X(H.P哭斛$Z%U穀谷鵠困!X崑昆)7K滾琨袞鯤汨滑骨供&>4#|孔(h(BL([控%L珙空蚣貢鞏串寡戈果瓜",
    "科菓誇Z*w(=*>顆廓槨藿郭串冠官!8慣棺款灌琯瓘管,Z菅觀)w關+B刮恝(f适侊%w&E壙廣曠洸+X狂#b筐胱鑛卦掛罫乖傀塊!x怪#K%a槐魁宏紘,D轟交僑咬#N嬌(kv攪S)_橋狡,X$d絞(r%_,Y%I較z%4餃$U$Y丘久G!N#x%>%?",
    "區口1咎%>$d垢.:%x$L*m拘(P(>柩&O%=!ZU!:(2&H(6玖!Q,gY(d*J(a臼84苟衢)]&6%|$T邱%k!6駒!W)0#<&2國局菊鞠:麴君窘群裙軍郡堀.]掘窟宮+[穹d芎躬倦券勸!c,<拳!c權)E眷厥獗蕨蹶闕机,4潰詭.t饋句晷歸貴",
    "鬼龜叫+8奎揆槻珪.p(L:糾葵規赳)N閨勻.a畇筠菌鈞龜橘克#Nk戟棘極隙僅&Lo懃斤(l%~瑾筋芹$5覲%?近饉契今妗擒$B檎琴禁k芩衾0襟金錦伋及急扱汲級!0亘)V矜肯企<(?9.q!p圻基1#fb!0寄岐!b#1!q$Q)@+M;",
    "朞0n$p棄%S欺#7!>4$H玘!r3!<P畸6*C!R!650a箕$n綺&;!bV!C記$:#G$2錡2飢!S騎0!:.B緊佶吉拮桔金喫儺喇0娜懦懶拏_癩00000那樂0000諾酪000暖欄煖爛0難鸞捏Z南嵐枏&>湳濫男藍00",
    "納臘0衲囊+D廊0000乃來內奈柰耐冷女年撚秊念![(3捻寧寗努勞奴弩#7擄00瑙盧00000駑魯0000000000濃籠0膿農惱牢0腦賂0尿壘0000000嫩訥杻紐勒00000能菱0尼泥匿溺多茶",
    "丹!a!t單$m%g彖斷^檀$8(o短*C$2%x蛋&4鄲鍛撻澾,g疸達啖&d憺*[曇淡!^潭!0痰聃%2+z.W$G!w錟沓畓答踏遝唐)~!:幢,P(n.W當糖螳黨代垈坮%q)r岱%=$R);)9玳臺袋.B隊黛宅.G#J倒&[_圖#mQ,b!6!z!y#i#:#x挑掉!r.A",
    "棹&6*Wx滔#^燾盜睹禱!n萄覩+:#T!9%s@n都鍍*j$i毒.I牘y獨督(3篤)C讀墩惇敦旽暾沌焞燉豚頓乭突仝)[P#V$:憧東桐!s.T(5疼&d*s胴+e銅兜斗&2f痘竇荳讀豆,|頭屯臀芚遁]%V得嶝橙燈登等藤謄鄧騰喇懶拏癩羅",
    "蘿$~$A邏樂洛,i*F絡落諾酪駱丹亂卵欄=瀾&J蘭鸞剌辣嵐擥v欖濫籃(0藍,B!=拉臘蠟廊朗浪狼#W!N螂郞來崍(j萊冷掠略亮$[$f!D梁%H粮2e良諒.^)@侶%9%v$P廬(Y戾,2櫚濾礪藜蠣閭驢7.Bf力曆歷瀝礫轢靂憐!T*d漣",
    "煉+6練(R蓮輦#K*h冽!>!p洌,g裂廉斂殮濂簾獵令!6囹寧岺#N(9玲笭羚c聆逞鈴零!6領齡例澧禮醴隷勞怒撈k櫓潞瀘&e盧老蘆!:路#d露.R(b!_碌#A.6菉錄鹿C論壟弄朧瀧瓏籠.3儡瀨牢磊賂GI雷了僚寮)t料燎療$n聊蓼",
    "遼鬧龍壘$l屢樓,r$8瘻累#V蔞褸鏤(>劉旒柳%y,8$^$v琉!;#G瘤硫謬類六戮陸侖!y崙淪綸輪律%q栗率隆勒肋凜凌楞稜,M菱陵俚利$r![#M履.W李$]浬犁![理!a異痢籬*Nn,|裏A里3離鯉吝潾燐)T藺躪隣鱗麟林淋琳臨霖砬",
    "立!9$u摩瑪%@)V[馬魔+]寞(N漠膜&|邈万卍娩,T%4慢&H*m!w滿[$;瞞萬#5*i輓饅*7唜抹末沫茉襪靺亡妄忘0望網%Z+4茫!v輞$~埋&[媒$A昧$v#9+@煤罵買[,I魅脈貊陌驀.z孟氓猛盲盟萌冪覓免w$7棉,v眄K綿緬面麵滅",
    "蔑冥(?!T明!s(a溟皿瞑茗%c)i酩$2鳴袂侮&Q$P姆帽*Y*d0暮#p模%d=牟1&M*8矛耗(|x謀W$g木沐牧目睦)l鶩歿#a夢朦蒙卯墓#T廟描(<$B渺猫竗苗錨務巫,nLn拇&Q$8+o&z!I無)b$i繆舞#2(?誣貿霧鵡墨默們&j吻#b文",
    "汶紊0+I蚊門$r勿沕物味媚尾#[&n!F未%D楣渼7眉米美薇謎迷靡黴岷悶!;憫,O旻0民泯玟Y緡閔密蜜謐剝#K拍$E撲(Y*E(i珀璞箔#O%>+e舶+D迫雹)T伴半!g=拌$c攀!u.G*l(A班$j瘢盤G&AZ礬絆般蟠返頒飯勃拔&>渤$0",
    "發跋醱鉢髮!9倣!N坊(5(W幇#~)T*@!_7w%:&~滂磅.q,4膀舫!l&[&X,I#;邦防龐倍俳北培徘+:排杯湃)b盃背=裴0S,r輩配陪伯p帛柏!7白0魄幡樊煩!O,A磻繁蕃藩飜伐筏.6閥凡帆梵,4?!q犯範范法琺僻%E壁擘檗璧%g",
    "碧蘗闢$Z便卞弁變.36邊別瞥鱉)K丙&V$v屛幷昞K%B#O炳.c病秉#b輧餠#6保堡?,p普步%d$l#Q.|$J菩補f譜,c伏%~匐!0宓復服福腹%n&R複!c輹1馥(D本乶%:奉)D#<0捧棒烽熢琫縫蓬蜂逢)<鳳不付#e!z&>H%o!N+F$N$>",
    "孚J!;府復扶*B_浮$:,<符#g*8腐0x艀!=#^訃(tuD!]u*o#B.UW,@*O北分吩噴墳奔I忿%]扮,M汾焚盆粉!9l芬賁雰不佛弗!L+9崩朋&<硼繃鵬丕([(SDV妃婢.:悲憊扉_*X&d榧比100沸泌琵&2砒!c$G2)7$K翡肥",
    "脾!h菲*i&;&>譬$R.s非%5鼻嚬嬪.W斌檳#J%e(lS牝$S貧[頻憑氷聘騁乍m?i!I1r!D#n*45唆嗣#F士![娑&G>9巳g$q!h+A斜B柶4梭)Z#lm$O&S+2砂$?1O!E篩#|!?*U%?%9$F&c裟$t=謝%w!n辭#K飼#1麝削數朔索",
    "傘%J山散汕珊産!^算蒜酸霰乷撒殺煞薩三參杉%]渗芟(P+I揷澁鈒颯上)9G!4.<!H!Q孀尙峠$[!6EQ想桑橡湘爽2!d.M(D箱.8裳#O!c&[!a霜塞璽賽嗇塞穡)M色牲)95省笙墅!Z嶼序V徐恕抒#;&;$GwN#l棲犀&K筮&m!L%T",
    "胥$0,H西#b逝)S黍!7夕!<席);昔!C#k汐$x%R石碩蓆釋$c仙&^!b.Q嬋!|扇*x|渲+A([rrg%e+4.E!_$V&?h!j蘚&?詵+d(l銑%L饍(8卨屑楔+f!I#P舌,:,K#@!a雪齧剡暹殲纖蟾贍閃陝攝涉.z葉城&r&F性惺#d星o猩珹)nU筬",
    "聖K#A誠醒世勢歲%]稅$7&d說貰召嘯塑+Z!>1&>.s$F!u昭(]沼消#u$s!i#|+J!M疎!o笑篠z#CH蔬p!~.B逍!8!8&o韶騷俗屬束涑粟&Z謖&m*J孫(i損蓀遜飡率宋悚松淞訟!k送頌刷殺灑碎鎖衰釗修受嗽囚垂$~&2守#qD$h)h",
    "戍m$@!x#hq樹$T水#3漱)B#P!s!s璲$w$>(6穗!w&<綏L繡$@%C&u$by#^)8誰讐,S#Xp#7#xR隋K0]Y#V%F$@v叔塾夙孰~淑%A熟(Y!|肅+n巡%^R!|旬栒楯#2$9%d淳珣盾瞬,L&4脣#G#r%l!S詢!F醇%O順%f戌術述(L崇O",
    "嵩瑟膝蝨濕拾習褶k丞i(f&c!N承+~繩蠅陞侍,7*^,@媤%LE屍%m#]$5施!VB%4e猜矢$[翅蒔h視試2諡$wT埴寔*|$c(U植殖)R*i篒蝕識,Q食N伸x!D呻娠%P愼新晨燼*x.@紳.0!y%m薪S$8*H身#>辰迅失(Jq悉審Q,c沁",
    "沈深瀋甚芯諶什十拾雙氏亞#t%F啞娥)O我牙芽#;+J$^%|阿!j餓鴉!8堊岳#X!k(tc)X樂.8鄂鍔顎,m+]安$2按+<&f眼雁鞍顔+A斡謁,u閼唵岩$0庵暗癌菴闇壓押狎鴨仰央怏昻殃秧鴦厓$0*D崖愛曖涯碍艾隘靄厄扼#h液縊+7額",
    "櫻罌鶯!O也&I$~夜惹*>椰爺耶若野弱掠0約若%B!0#x躍亮佯兩0壤(6恙+w$A!9#y梁楊樣)t*7$n痒j,Q穰糧羊良襄諒讓釀陽量養圄御於漁瘀,Q語馭%e齬億憶抑檍臆偃堰彦焉言#H孼蘖俺$E嚴(g掩淹嶪業円予余勵00如廬",
    "旅歟#L濾璵.v礪與m#B輿M閭餘驪00亦力域役易曆0疫繹譯轢逆驛嚥%:&>V%M年延憐0捐挻撚椽+@g涎4!F#m漣烟!;R煉燃A璉硏O秊筵(E練縯聯衍軟輦00鉛鍊鳶列00悅涅烈熱裂0閱厭廉00染殮炎焰*A艶!@",
    "簾閻髥,C曄獵燁葉令0塋寧0嶸%q怜映!R)wd(a泳$F#Y濚pC#o!s%I玲瑛瑩瓔&a+|.Z羚0英詠迎鈴鍈零霙靈0乂&U例刈&F曳汭+S+6睿)o芮*pT禮裔%G#h#<醴銳隸霓#K五!]俉#7(m#D吳%_(_!<奧娛&6悟惡懊,7旿!I梧,^+O",
    "烏熬%^筽蜈,G鰲)a屋沃獄t鈺溫瑥%r._,W蘊兀壅擁瓮V$^翁邕雍(^渦瓦窩0臥蛙蝸(z婉$F>梡!C.x玩!NH碗緩&o$0l莞豌阮&P曰往旺%G汪王倭娃歪矮外.k!E猥畏了0僥#b堯#L!Ms&x寮0嶢拗$B!a!O料曜樂橈燎燿(<療",
    "窈V,CF%Z$s蓼蟯%J%W遙遼邀饒慾欲浴縟褥辱俑傭#8#~埇墉*q*@(a榕涌湧~)j)Z用3聳)Q%I踊鎔y龍于佑#s優(u2W宇!0!5愚!L旴牛$?瑀(Y(epW+C)C)Z+@!m迂!i郵#C隅!G0勖彧旭s&k煜稶郁頊云暈橒$O澐&f耘(w(r",
    "運隕!A#W蔚鬱亐熊雄元(3$E圓園!u*9X#M.z#e)A沅洹$<M,K#]#f苑袁轅#i阮院&c鴛月越鉞位#J!y(j,G)S威&u慰暐渭爲瑋緯胃+A!<蔿蝟#J褘&W違韋+z乳#l%9!<劉唯!^孺Z)c0p&OnX0)G$w&>杻柔5柳楡0+M!R流游溜",
    "濡+K0琉瑜由留癒硫0維.f萸裕&0rA+9A&u逾k酉!d%]類0堉戮毓肉X陸0允奫)Z崙0潤.X胤贇輪鈗+n律000聿戎瀜絨融隆垠恩慇殷誾銀.F乙吟淫蔭陰%;#I揖泣邑凝應膺鷹依!a#4宜意#>)y椅)L疑矣義)G*l(C!L(0",
    "議醫二!=T利0夷姨履已#wo怡易000爾%_理異!A痢移罹而V!5(4!T裏0貽貳邇里0飴G匿0瀷益翊1_謚人6+8$p吝咽因姻&7+F忍湮燐0絪茵藺蚓認隣靭9鱗0一$]S壹日溢逸+n馹任壬妊~恁林0稔臨荏賃入&L",
    "立00仍,G孕芿仔刺(E姉e$T64恣#3滋&;煮玆$t疵*M紫)f&R$A蔗藉諮&F雌作,I,m斫!a灼k%5綽芍酌雀鵲孱棧)=潺盞岑暫潛箴!Z蠶雜丈仗.^場!kc!a(r帳!5張.l*g杖)U!h!M.H*H狀獐$>章&4腸!K7%[#0蔣!Uj*O.K醬,v",
    "障再+2(6宰才材#;!:渽!z%b縡裁財(?齋2爭箏諍錚佇6&Q+D姐底.5杵&f樗(n$o狙!5(j箸%5苧菹!B%X.y貯&E%J邸雎齟勣#u嫡寂摘#k滴狄炙的,t笛$5&^%Y,G謫%W!~!a!b%C>!T+^佃f$<全?前L塡J#2)4|(]%x%M栓,Wx,T",
    "煎)^#^7H#o筌nQH)U詮輾:*7!8!s#W電$b@餞切截!R浙癤竊#D%n占岾&F漸%9粘霑鮎+F接摺蝶丁!xG%gH,~姃&D)2!Qy!n$G(L&rd!<晶1%>$m#o正汀%8Wfn%x!g)y!S$@睛#z#U!a!V精綎艇訂#6%l鄭L!r!r!J!8霆!4",
    "靜頂鼎制!?)w)4帝#P$p+:梯濟祭%w臍薺+9&h+B+?除f霽#]齊俎%0!i助,4弔!;.T#q#j!<曺曹S%8i#t漕!=&f!bt(W(g祖3!ip!Y&ow!I#z肇藻蚤,[!O)f#6%W|$y.m!~鳥族簇足鏃存尊卒拙猝倧宗從悰慫棕淙琮種*U!>!y+0",
    "踪:鍾!~佐坐左座挫罪主#bo做姝胄呪周%N+G宙州#J晝朱柱h注y#f$F#x*j%_籌紂Y!Z舟蛛+Vy)w#h輳#L#k3)~駐竹%d俊$:准埈.<#Z晙樽*^$?$Y#n.x竣蠢逡!8雋*u茁中仲衆重卽櫛楫)b葺增憎曾拯烝.I症繒蒸證%w之只",
    "咫地?志*k5$k支旨!v#qE,Z#Li(i知o#r=,m,4!D#?芝I.v+j識贄趾)@直*fM.2職唇嗔(x振#A晉1桭#|&V%Y%D珍瑨h畛!B#vl!Q(2.8C臻*u+^%[(n軫辰!f+q)B?!x侄叱姪嫉+F桎瓆#F.@窒膣蛭質#0迭斟$y什執潗緝輯",
    "鏶集徵懲澄且%<!k,U嗟嵯!c次r磋)[茶蹉!e遮捉#C着+:錯$S齪撰澯燦)Na竄$Q(G粲&S讚$s鑽餐k刹察擦札紮僭)b塹慘0懺,]站讒3倉G創)H娼廠!t%|.?昌Y!P*l滄!R猖*L窓脹#n%5#4債埰寀W+w.M砦綵菜$H采]冊柵策",
    "責凄妻悽處倜刺剔尺慽戚拓擲斥滌瘠脊蹠陟!@仟.y喘,<川擅泉$4玔穿舛,6賤#z(>$s闡o%]凸*;!x徹撤澈綴輟]鐵僉尖沾$@甛(w簽V詹x堞%X.m捷牒*y&N諜&M輒廳晴淸聽+:請靑鯖切剃替涕$]締諦逮_體初!F(@憔#>!;梢",
    "椒w樵炒!x硝礁<秒j肖&O!A!X&m貂#Q酢XR促囑燭矗蜀*9寸忖村邨叢塚,F悤憁)k總聰蔥銃撮催崔最墜抽#9椎!N樞.b皺*R芻$q諏)e追#ch!5$w7!f+7+Q&D丑畜祝%U!;築(<蓄蹙J!h#f春*[瑃出朮黜充忠沖蟲!OI悴膵萃",
    "贅取!G&h娶&h炊翠!^脆#5趣醉驟,>側仄厠惻測層侈値嗤峙%>&s梔.<#W熾痔O!Q,d^+tc$v(]蚩輜雉)v齒則!b飭親七柒漆侵寢枕沈#>琛砧針%W蟄秤|快他咤!~+f#E惰$f!g.u楕舵陀+g[倬*h&^坼度托拓擢%A$u濁].HE託",
    "鐸呑%m$c彈憚歎灘!9綻誕奪脫探眈耽貪塔搭榻宕(S湯糖蕩兌)0太怠#y殆#8!d笞胎&s跆)v颱宅擇澤撑!W兎)N*P討慟桶洞痛筒統通堆槌腿褪退頹偸套!9投透鬪慝特闖坡)q,Y把播|(T波!@爬&w破罷*w跛頗判坂板版(r販*>(B",
    "阪八(Y捌佩唄悖敗沛#2牌狽稗覇*W彭澎$n膨愎便!t扁片篇編&n遍鞭(C貶坪平枰萍評吠嬖+C!cW斃肺蔽閉陛佈,h71$z!X&v布怖抛E捕暴泡!i疱(X胞!5%g%;!5袍!i逋)k飽(k幅暴X瀑&b輻俵(_彪&V杓)R漂瓢票表豹飇飄%7",
    "品稟楓諷$V風#T彼*p疲#J被避陂匹弼!m泌珌%NX筆苾馝乏逼下$M.f夏廈昰河瑕荷蝦賀,;霞鰕壑(~虐謔鶴寒恨T旱汗)W!e![罕翰閑0限%;割轄函含!q啣V檻*;緘艦銜陷鹹合哈盒蛤閤_!l亢!K姮#F*R(2抗杭桁.Z%a缸$f%G",
    "行0項亥%h.s)l&4&|y懈楷海)8蟹&W!s!Y邂駭骸劾核倖幸杏荇行享向(t珦鄕響#X!2q噓墟虛許憲櫶獻軒歇險,X奕爀赫革俔峴弦)^.x泫,k)edt*lS絃N縣舷衒見賢鉉顯孑穴血頁嫌俠+j夾,j挾浹狹脅1(r鋏頰亨(s刑型",
    "形泂&y$:z!C#1珩!d荊.m衡逈!~*B馨兮彗%A!k暳蕙蹊+[鞋乎s呼.nT!g*y(I*PA,m!A毫%6!J!k滸澔!08!X(J$Xd!j%k)U+d$W)O&2&2!8%G@#c護#A鎬.i!I惑$H酷婚昏混v琿魂忽惚笏哄弘汞!Y!;,Y紅虹,>鴻化$y嬅樺火畵",
    "禍禾花$A話譁$j靴廓擴f確0%h丸喚,a宦)a患*y歡晥&[渙+B+A紈還驩%t活%N猾豁闊凰幌$_恍惶iK晃0+W*]%V!N潢&W+F&X篁!J荒蝗遑隍黃匯,Z廻!s恢a$f晦會,D+H%x灰*;繪+J$y,K誨賄劃獲宖橫鐄哮%P孝效l$G&C涍h",
    "爻肴酵驍侯!N+w!X]$Pk帿$P朽煦(N逅勛G塤!N焄!o!P薰.x暈薨喧暄煊萱卉喙毁彙!H.F(r煇諱.A麾休携烋畦虧恤譎鷸兇凶匈洶胸黑昕欣炘痕吃屹紇訖欠L8吸恰洽翕興僖#V,i噫!F姬#k*D,8憘戱.B!l熙O0#;禧!=羲詰",
    ""]

/-- The character at a row and a cell, both counted from zero. -/
def char? : Nat → Nat → Option Char := Table.char? rows

/-- The codes of the syllables in the table, in ascending order. -/
def syllables : List Nat :=
  (rows.flatMap Table.cells).filterMap fun c =>
    (c.map Char.toNat).filter fun n => 0xAC00 ≤ n && n < 0xD7A4

end Quartz.Charset.Ksx1001
