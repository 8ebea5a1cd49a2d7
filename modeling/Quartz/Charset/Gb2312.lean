import Quartz.Charset.Table

/-!
# `Quartz.Charset.Gb2312`: the double-byte set of simplified Chinese

Ideographs, letters and symbols in rows of ninety-four cells, with the
symbols that later editions put between and behind them.
-/

set_option autoImplicit false

namespace Quartz.Charset.Gb2312

/-- The rows of the table. -/
def rows : List String :=
  ["　00·ˉˇ¨〃1—～‖?‘020〔0〈000000060【0±UO∶∧0∑∏J∩∈^√!o∥∠#@⊙∫2b≌≈∽∝r=0≤0∞F∴♂♀°′0℃＄¤￠0‰§№☆★○3◎◇◆□■B▲※$Z←01〓",
    "ⅰ000000000      *P0000000000000000000⑴0000000000000000000①000000000€ ㈠000000000  Ⅰ00000000000",
    "！00#0％0000000000000000000000000000000000000000000000000000000000000000000000000000000000000000!j",
    "ぁ0000000000000000000000000000000000000000000000000000000000000000000000000000000000",
    "ァ0000000000000000000000000000000000000000000000000000000000000000000000000000000000000",
    "Α00000000000000001000000        700000000000000001000000       ︵02040︽02000  ︻0︷0︱ 10",
    "А00000ЁD0000000000000000000000000               000000Kж0000000000000000000000000",
    "āáǎàbéaèríǐìōóǒòūúǔùǖ111üêɑḿń3ǹɡ    ㄅ000000000000000000000000000000000000",
    "   ─000000000000000000000000000000000000000000000000000000000000000000000000000",
    "",
    "",
    "",
    "",
    "",
    "",
    "啊阿埃挨哎j哀皑癌蔼矮艾碍爱隘#C氨安俺按,9岸胺案肮昂盎凹敖熬翱袄傲奥懊澳芭捌扒叭i笆八疤巴拔跋靶把耙坝霸罢爸.Z柏百摆佰败拜稗斑班搬扳般颁板版扮!B伴瓣半办绊邦帮梆#d膀绑棒磅蚌镑傍谤苞胞包褒剥",
    "薄雹保堡饱宝抱报暴豹鲍爆杯碑悲卑北辈背贝钡倍狈备惫焙被奔苯本笨崩绷甭泵蹦%Js鼻比鄙笔彼碧蓖!K毕3毖币!j痹闭敝弊必辟壁臂避陛$U边编贬扁便变卞辨01遍标彪膘表鳖憋别瘪彬斌濒滨宾摈兵j柄丙秉饼炳",
    "病并玻菠播拨钵波博勃搏铂箔伯帛舶脖!X渤泊驳捕卜%V补埠不布步簿部怖擦猜裁材才财睬踩,I彩菜$H餐参蚕残惭惨灿苍舱仓沧藏操糙槽曹草厕策侧&R测层蹭插叉茬9查碴搽察岔$]诧拆柴豺搀掺蝉馋谗缠铲产阐(k昌猖",
    "场尝常长偿肠厂敞畅唱倡超抄钞朝嘲潮巢吵炒车扯撤掣彻澈郴臣辰尘晨忱沉陈趁衬撑称城橙成呈乘程惩澄诚承逞骋秤吃痴持匙池迟弛驰耻齿侈尺赤翅斥炽充!Q虫崇宠抽酬畴踌稠愁筹仇绸瞅丑臭初出橱厨躇锄&8滁除楚",
    "础储矗搐触处揣川穿椽传船喘串疮窗幢W闯创吹炊捶锤垂春*[醇唇淳纯蠢戳绰疵茨磁雌辞慈瓷词此刺赐次聪葱囱匆从丛,a粗醋簇促蹿篡窜摧崔催脆瘁粹淬翠村存寸磋撮搓措挫错搭达答瘩打大呆歹傣戴带殆代贷袋待逮",
    "怠耽担丹单郸掸胆旦氮但惮淡诞弹蛋当,y党荡档刀捣蹈倒岛祷导到稻悼道盗德得的蹬灯登等瞪凳邓堤低滴迪敌笛狄涤翟嫡抵底地蒂第帝#P递缔颠掂滇碘点典靛垫电佃甸店惦奠淀殿碉叼雕凋e掉吊钓调&6爹碟蝶迭谍叠",
    "丁盯叮钉顶鼎锭定订丢东,;董懂动栋侗恫冻洞兜抖*B陡豆,|痘都督毒犊!F读堵睹赌杜镀肚度渡妒端短锻段断缎堆兑队对墩吨蹲敦顿囤钝盾遁掇哆.iO垛躲朵跺舵剁惰堕蛾峨鹅俄额讹娥恶厄扼遏鄂饿恩而儿耳尔饵洱二",
    "贰发罚筏伐乏阀法珐藩帆番翻樊矾钒繁凡烦反返范贩犯饭泛坊芳方肪房防妨仿访纺放菲非啡飞肥匪诽吠肺废沸费芬酚吩氛分纷坟焚汾粉奋份忿#s粪丰封枫蜂峰锋,n疯烽逢冯缝讽奉凤佛否夫敷肤孵扶!0辐幅氟符伏俘服",
    "浮k福袱弗甫抚辅俯釜斧脯Q府腐赴副覆,p复傅付阜父腹负富讣附妇缚咐&S嘎该改.^钙盖溉干甘杆!o竿肝赶感秆敢赣冈!v钢缸$f纲岗港杠篙皋高膏羔糕搞镐稿告哥歌搁戈鸽胳疙割革葛格蛤阁!w铬个各给根跟耕更庚羹",
    "埂耿梗工攻功恭龚供躬公宫+^巩汞拱贡共钩勾沟苟狗垢构购够辜菇咕箍估沽孤姑鼓古蛊骨谷股故顾固雇刮瓜剐寡挂褂乖拐怪棺关官冠观管馆罐惯灌贯光广逛瑰规圭硅归龟闺轨鬼诡癸桂柜跪贵刽辊滚棍锅郭国果裹过哈",
    "骸孩海氦亥害骇酣憨邯韩含涵寒函,8罕翰撼捍)0憾悍焊汗汉夯杭航壕嚎豪毫郝好耗号浩呵#v荷!<核禾和何合盒貉阂河#S赫褐鹤贺嘿黑痕很狠恨哼亨横衡恒轰哄烘虹鸿洪宏,4红喉侯猴吼厚候后!R乎忽瑚壶葫胡蝴狐糊湖",
    "弧虎唬护互沪户花哗华猾滑画划#R话槐徊!Z淮坏欢环桓还缓换患唤痪豢焕涣宦)a荒慌黄磺蝗簧皇凰惶煌晃幌&n谎灰挥辉徽恢蛔回毁悔慧卉惠晦贿秽会烩汇讳n绘荤昏婚魂浑混豁活伙火获或惑霍货祸击圾基机畸稽积%^",
    "肌饥迹激讥鸡姬绩O吉极$Z辑籍集及急疾汲即嫉级挤几脊己蓟技冀季伎祭剂悸济寄寂计>既忌际妓继纪嘉枷夹佳家加荚颊贾甲钾假稼价架驾嫁歼监坚尖笺间煎兼肩&4奸缄.8检柬碱硷拣!b简俭(T减荐槛鉴践贱见键箭件",
    "健舰剑饯渐!Y涧建僵姜将浆江疆蒋桨奖讲匠酱降蕉椒礁焦胶交郊浇骄娇嚼搅铰矫侥脚狡角饺缴绞剿教酵轿3叫窖揭接皆+h街阶截劫节桔杰捷睫+x洁结解姐戒藉芥界借介疥诫届%l筋斤金今津襟紧锦仅谨,^靳晋禁近烬浸",
    "尽劲荆兢茎睛晶鲸京惊精粳经井警景颈静境敬镜径痉靖竟竞净炯窘揪究.?玖韭久灸九酒厩救!z臼8咎就疚鞠拘狙)p居驹菊局咀矩举沮聚拒据巨具距p锯俱句惧炬剧捐鹃娟倦眷卷绢撅攫抉#]倔爵觉决诀绝均菌钧军(W峻",
    "俊竣浚郡骏喀咖卡$Q开揩楷凯慨刊堪勘坎砍看康)L糠扛k亢炕考拷烤靠坷苛柯#T磕颗科壳咳可渴克#>客课肯啃(:恳坑吭空恐孔控抠口扣寇枯哭窟苦酷库裤夸垮挎跨胯块筷侩快宽款匡筐狂框矿眶旷况亏盔岿窥葵奎魁傀",
    "馈愧溃坤昆捆困括扩廓阔垃拉喇蜡腊辣啦莱来赖蓝婪栏拦篮阑兰澜谰揽览懒缆烂滥琅榔狼廊郎朗浪捞劳牢老佬姥酪烙涝勒乐雷镭蕾磊.z儡垒擂肋类泪棱!Q冷&N梨犁黎篱狸离漓理李里鲤礼莉荔吏栗丽厉励砾历利傈例t",
    "痢立&4沥隶力璃哩俩联+T连镰廉$V涟帘敛脸链恋炼练粮凉梁粱良两辆量晾亮谅撩聊僚疗燎寥辽潦了撂镣廖料列裂烈劣猎#s林磷霖临邻鳞淋凛赁吝拎玲菱零龄铃伶羚凌灵陵岭领另令溜琉榴硫馏留刘瘤流柳六龙聋咙笼窿",
    "隆垄拢陇楼娄搂篓漏陋芦卢颅庐炉掳卤虏鲁麓碌露路赂鹿潞禄录陆戮驴吕铝侣旅履屡缕虑氯律率滤绿峦挛孪滦卵乱掠略抡轮伦仑沦纶论萝,H罗逻锣箩骡裸落洛骆络妈麻玛码蚂马E嘛吗,_买麦卖迈脉瞒馒蛮满蔓曼慢漫",
    "谩芒茫盲氓忙莽猫茅锚毛矛铆卯茂冒帽貌贸么玫枚#9酶霉煤没眉媒镁每美昧寐妹媚门>们萌!q檬盟锰猛梦孟眯醚靡糜迷谜弥米秘觅泌蜜密(S棉眠绵冕免%4娩缅面苗描瞄藐秒渺庙妙蔑灭民抿皿敏悯闽明螟鸣铭名!T谬摸",
    "摹蘑模膜磨摩魔抹末莫墨默沫(L寞陌谋牟某拇牡亩姆母墓暮幕募慕木目睦牧穆拿哪呐钠那娜纳氖乃奶耐奈南男难囊挠脑恼闹淖呢馁内嫩能妮霓倪泥尼拟你匿腻逆溺蔫拈年碾撵捻念娘酿鸟尿捏聂孽啮镊2涅您柠狞凝宁",
    "拧泞牛扭钮纽脓浓农弄奴努怒女暖虐疟挪懦糯诺哦欧鸥殴藕呕偶沤啪趴爬帕&m琶拍排牌徘湃派攀潘盘&e盼畔判%o乓庞旁耪胖抛咆刨炮袍跑泡呸胚培裴.u陪配佩沛喷盆$m抨烹澎彭蓬棚硼+q膨朋鹏捧碰坯砒霹批a劈琵毗",
    "啤脾疲#J匹痞僻屁譬篇偏片骗飘漂瓢票撇瞥拼频贫品聘乒坪苹#b平凭瓶评屏坡泼颇婆破魄迫粕剖扑铺仆莆葡菩蒲埔朴圃普浦谱曝瀑期.0栖戚妻七,l漆柒沏其棋奇歧畦崎脐齐旗祈祁骑起岂乞企启契砌器气迄弃汽!J讫掐",
    "恰洽牵扦钎f千迁签仟谦乾黔钱1前潜遣浅谴堑嵌欠X枪呛腔羌墙蔷强+^橇锹敲悄桥瞧乔$W巧鞘撬翘峭俏窍切茄且怯窃钦侵亲秦琴勤芹擒禽寝沁青轻氢倾+7清擎%^氰情顷请庆琼穷秋丘邱球求囚酋泅趋区蛆曲躯屈驱渠",
    "取娶龋趣去+C颧权醛泉全痊拳犬券!I缺炔瘸却鹊榷确雀裙群然!q冉染瓤壤攘嚷让饶扰绕惹热壬仁人忍韧任认刃妊纫扔仍日戎茸%I荣.?熔溶容绒冗揉柔肉)<蠕儒孺如辱乳汝入褥软阮蕊瑞锐闰润若弱撒洒萨腮鳃塞赛三叁",
    "伞散)z嗓丧搔骚扫嫂瑟色涩森僧莎砂杀刹沙纱傻啥煞筛晒珊苫杉山删煽衫闪!O擅赡膳善汕扇缮墒伤商赏晌上尚裳梢捎稍烧芍勺韶少哨邵绍奢赊蛇舌0赦摄射慑涉社设砷申呻伸身深娠绅神沈审婶甚肾慎渗声生5牲升绳",
    "省盛剩胜圣师失狮施湿诗尸虱十石拾*9什食蚀实识史矢使屎驶始式示士世柿事拭誓逝势是嗜!t适仕侍释饰氏市恃室视&|收手首守![授售受瘦兽蔬枢#_)c抒输叔舒淑疏书赎孰熟薯暑w署蜀黍!7属术述树束戍竖墅庶数漱",
    "恕刷耍摔衰甩帅栓拴霜双爽谁水睡)9吮瞬顺舜说硕朔烁斯撕嘶思私司丝死肆寺嗣#F伺1饲巳松耸怂颂送宋讼h搜艘擞嗽苏酥俗素速粟僳塑溯宿诉肃酸蒜算虽隋3绥髓碎岁穗遂隧祟孙损笋蓑梭唆缩琐索锁所塌他它她塔",
    "獭挞蹋踏胎&s抬台泰酞太态汰坍摊贪瘫滩坛檀痰潭谭谈坦毯袒碳探叹炭汤塘搪堂棠膛唐糖倘躺淌趟烫掏涛$<绦萄桃逃淘陶讨套特藤腾疼誊梯剔踢锑提题蹄啼体替嚏惕涕剃屉天添填田甜恬舔腆挑.e迢眺跳贴铁帖厅听烃",
    "汀廷停亭庭挺艇通桐酮瞳同铜彤童桶捅筒,8痛偷投头透凸秃突图徒途涂屠土吐兔湍团推颓腿蜕褪退吞屯臀拖托脱鸵陀.C=椭妥拓唾挖哇蛙洼娃瓦袜歪外豌弯湾玩顽丸烷完碗挽*^皖惋宛婉万腕汪王亡枉网往旺#o忘妄!a",
    "巍&N危韦违桅围唯惟为潍维,~$J委伟:尾纬未蔚味畏胃喂魏位渭谓尉慰卫瘟温蚊文闻纹吻稳)c问嗡翁瓮挝蜗涡窝我,;卧握沃巫呜钨乌污诬屋无芜梧吾吴毋武五捂午舞伍侮坞戊雾晤物勿务悟误昔熙析西硒矽晰嘻吸锡牺",
    "稀息希(T膝夕惜熄烯溪汐犀檄袭席习媳喜铣洗系隙戏细瞎虾匣霞辖暇峡侠狭下厦夏吓掀锨先仙鲜纤咸贤衔舷闲涎弦嫌显险现献县腺馅羡宪陷限线相厢镶.8箱襄湘乡翔祥详想响享项巷橡像+8象萧硝霄削)0%m销消宵淆晓",
    "小孝校肖啸笑效楔些歇蝎鞋协挟#i邪斜胁谐写械卸蟹懈泄f谢屑薪芯锌欣辛新忻心信衅星腥猩惺兴刑型形邢行醒幸杏性姓兄凶胸匈汹雄熊休修羞朽嗅锈秀袖绣墟戌需虚嘘须徐许蓄酗叙旭序畜恤絮婿绪2轩喧宣悬旋玄",
    "选癣眩绚靴薛学穴雪血勋熏循旬询寻驯巡殉汛训1.p迅压押鸦6呀丫芽牙蚜崖衙涯雅哑亚讶焉咽阉烟淹盐严研蜒岩延言颜阎炎沿奄掩眼衍演艳堰燕厌砚雁唁彦焰宴谚验殃央鸯秧杨扬佯疡羊洋阳氧仰痒养样漾邀腰妖瑶",
    "摇尧遥窑谣姚咬舀$r要耀椰噎耶爷野冶也页掖业叶曳腋夜液一壹医揖铱依伊衣颐夷遗移仪胰疑沂宜姨彝椅蚁倚已乙矣以艺抑+x邑屹亿役臆逸肄疫亦裔意毅忆义益溢诣议!@译异翼翌绎.|e因殷音阴姻吟银淫寅饮尹)h隐",
    "印英樱婴鹰应缨莹!O0荧蝇迎赢盈影颖硬映哟拥佣臃痈庸雍踊蛹咏泳涌永恿勇用幽优悠忧尤由邮铀犹油%7酉有友W佑釉诱又幼迂淤于盂榆虞愚舆余!i逾鱼愉渝渔隅予娱雨与屿禹宇语羽玉域芋郁吁遇喻峪)C$j欲狱育誉",
    "浴寓裕预豫驭,q渊冤元垣袁原援辕园员):猿源缘远苑愿怨院曰约越h钥岳粤月悦阅耘云郧匀陨允运蕴酝晕韵孕匝砸杂#I哉灾宰载再在咱攒$s赞赃脏+S遭糟凿藻枣早澡蚤躁噪造皂灶$r责择则泽贼怎增憎曾赠扎喳渣札轧",
    "铡#e眨栅%[咋乍炸诈摘$6宅窄债寨瞻毡詹粘沾盏斩辗崭展蘸栈占战站湛绽樟章彰漳张掌涨杖丈帐账仗胀瘴障招+H找沼赵照罩兆肇召遮折哲蛰辙者锗蔗这浙珍斟真甄*d臻贞针侦枕疹诊震振镇#<蒸挣睁征狰争怔整拯正政",
    "帧症郑证芝枝支吱蜘知肢!D汁之织%=直植殖执值侄址指止趾只旨纸志+9掷至0置帜峙制智秩稚质炙痔滞治窒中盅忠钟衷终种肿重仲T舟周州洲诌粥轴肘帚咒皱宙昼骤珠株蛛朱猪诸诛.J竹烛!w拄瞩嘱主著柱助蛀贮铸筑",
    "住注祝驻抓爪拽专砖转撰赚篆桩庄装妆撞壮状椎锥追赘坠缀谆准捉拙卓桌琢茁酌啄着灼浊兹*p资姿滋淄孜紫仔籽滓子自渍字鬃棕踪宗综总纵邹走奏揍租足卒族祖诅阻组钻纂嘴醉最罪尊遵昨左佐柞做作坐座",
    "亍丌*u丐廿卅丕!g丞鬲孬噩丨禺丿匕乇夭爻卮氐囟胤馗毓睾鼗丶!M鼐乜<Y芈孛啬嘏仄厍?518靥赝匚叵匦7?赜卦卣刂55N5;0;A2剜蒯剽4劁>2冂罔亻75仂U仡9仞l仳^q仵_1伉Qb8攸佚2",
    "佟佗伲:h佴L侉侃;佾佻^佼_侔!611俅D8俜俑=H倩R俳h倏N倭俾M倌H2!:偃A偈5M>Y11@K_僭僬僦7H3仝氽佘<!M龠汆籴兮巽黉馘冁夔勹C訇匐凫夙兕亠)B亳衮e亵脔裒禀嬴蠃羸冫5;冼",
    "凇冖;2讠502901:073诎30011022033041222220112421010021谘41003120202010卩@阝4阡?阪B阼56::7451C49H邗31邙B邡B邳23",
    "邸邰N郅邾A郄2;B郢郜郗3?3>5M鄞4=鄯992刍奂劢90@哿勐5I#=燮矍廴凵6鬯厶弁畚巯坌!A垡塾m8;圩2圪85圮0坜圻6VK坫J坼坻坨48坳i垤垌UL垧<垓<d21埙埒垸k埯8埤埝",
    "堋1埽埭BM堙Z堠t6D7@墀馨鼙懿艹31?芊M芄9251A<5芰G1H芘N芮L0苁芩:芡8芟T9芤lW苷苤Z茇苜G苒5c苻苓m8茆=0苠苕vd90茈!n茼茴茱!N荞茯O荇荃K荀茗x茭<茳b荥",
    "荨茛!22荪20q荸j0莠9莓8莅荼i莩荽j荻L59A14o菥菘堇萘萋菝O菖uK萑萆菔:_萃菸0菪菅菀!J菰菡!_葑8葙IC0葺>葸萼9R<E1萱k!8;2E蒽E蓊蒿蒺U蒡G蒴蒗!2蓣X甍蔸蓰x蔟J",
    "蕖蔻蓿蓼!A蕈O蕤蕞K瞢蕃^8X3薇7蕹d薜薅c薷薰R藁JRW蘅S蘖U廾9夼4耷奕4奘匏尢267扌MdK>?拗Fc拶rA捃!Nx捱8CU捭n掊捩t=e5揠N揄I揎!h揆掾!k摁搋?4搌I搡lU摭X",
    "摺l0撙P5?6<擢VK8弋忒甙弑卟!v;叩叨BF3吆t6001呃吡e1吣>!4A呷呱呤e0咄呶呦fb咭D咴M咧咦哓0呲咣a咻3<<01咩0咤h哏>l哧h哽F哳^0唏1E2lWU啉S啁C唿@唼",
    "唷NN00唳唰[^v喃]7喈喁M啾!<喑啻!H喽0喔4!5<嗉!:嗑I0嗔A嗝嗄Z嗥<0嗌0J<嗤辔嘞嘈3嘁R嘣嗾1V5Z嘹M嘬PD噙2噌7a噤<噫?08=KT253C囫=545圉B帏9帔帑O90",
    "帷<?622岌屺B25岈?0岑81H岢J岬岫5岣M岷<=A峋IL0S崦7崤崞崆Dl崾崴8^嵛C嵝=嵋嵊N:=F3豳嶷=%f3:412832;476衢彡犭2320:狁<狍4E6狩8129狳?狺",
    "狻K猓=猊C猝猕<F猥6;猱N獍98;2>舛夥飧夤夂饣3000007252322220100庀@庋:>庠H庵8庳赓廒廑9<1膺忄4<忏c忮E忡2I60忪2:PK怦怛怏怍K1怊d怡!;01恺恂",
    "恪BH3B悝悃>悌>!5悻悱[惘惆C悴!P5愕=惴;=LNZf憔B?LP忝隳闩1511051401110001220010丬爿戕氵N7汊!=沅:3沌汨0:1?RV3沭y0泱泗沲]泖S泫2沱QK>",
    "洹洧洌f4洇洄D洎LQ洮6洚d21洳!B浯^1浞d0浜3K浣渚淇淅H_涿P渑淦淝淙l涫!E涮!ar湎Lv湟V湓0渲渥N滟溱溘w|滢溥1E溻溷O溴J溏b溟潢潆0漤漕滹e6DX漪漉O!D3澌潸潲9潺!;",
    "濉澧A澶;N<濞1>Z8瀛M瀵I>宀3@宓AB甯骞搴寤9褰寰蹇謇辶L1?8迤4迦<迨L逄6J逑逍8:C0逭1D<0遐G遘9遛暹遴845邃7彐6彖1尻咫屐8孱#@2羼弪弩3艴弼鬻屮妁19K0妣",
    "妗b妫妞5]妲妯W妾v0姝Z姣姘PB娉X1娑A娓婀V婊:娼UB胬媪媛婷2s嫫媲O1媸W2=嫖?嫘3嬉=嬖K48尕6孚:=孑1>驵1014驽2032151021200101011纟11120",
    "纭2=100610332340622010J绶3022003020210412缛310000002000100001幺畿巛甾邕玎2L玢玟_珂>玷玳<8珈L珙顼琊珩珧珞玺gLJ瑛琦琥27琮琬",
    "琛琚VJ瑗瑕3M瑭@M璎璀053B90璐FZ璺韪00杌6:杈Pk枇杪8T>杵b枞>枋杷4!XH柘a柩枰!@柙枵T枳YR柃枸Y[柁kd0桠0桎C桄ON栝g@桁U桀栾;桉栩!p梏桴2K桫!;楮棼R0棹",
    "椤棰J椁!:棣椐!E椹V楂JV楫DG楸椴!|榇0u榉楦楣EQ;C榫1V榱?8D榕z榍!V_槭Y0|槲!6樾!F橐:樵!=橹樽樨_SD檐H檗C猷J殁04殄=0殍<058轫1300101轷101120123",
    "辍0081軎戋;332戡3戤7臧瓯4:?11攴旮00I>杲昃A昀炅曷昝F昱4昵耆晟晔晁=6:晗O<7J暝PL092贲024124010赇573觇2001000牮犟牝88>046112挈Y!b",
    "搿擘耄毪89毵3;1氆6720067氤57攵OE牍43爰虢刖肟肜肓X朊肽肱肫162_000胛胂1D胍9朐胝=52胭O0胲9朕脒豚脶脞=脘IE36P腙0F腠8B0腭腧塍(?膈膂>滕膣6Q朦臊膻",
    "臁膦欤B192B飑00130殳彀毂觳斐齑斓X9旄旃8133炀K炖6M4炷炫5f烊u22H1q煜;煅煲煊]1MJ1熨熠o燔BAS:灬焘!2!7戾戽540礻452A0祓67祗8>祧B:4?<;忑忐",
    "怼P恚<恁G9w!?6!4!0憝]5d肀聿沓!G#T矶178=0砑斫砭砜0K00砟L砥6砣5TN硖0砦Y硇4M碛碓6碇D41>6碥^4磉R5B磴N@礞E龛黹10盱B8盹=0A7眙C眦>2G0睇睃F=",
    "睢2I=睽2;4=0?47町5=畋畈BF69罘8罟詈罨;罱77罾盍G蠲钅003钊101032钕400606钪2钬201110000101430000001002001铘2200110101",
    "铩120300112013锂30102002000012100270锩24011003102锵>0022102001000120镝301000000002100锺矧4雉秕G秣7J嵇稃稂K稔",
    "稹稷I黏馥穰皈545:瓞1!0鸠1500005鸱41鸷10320110001012312001420000004鹭5疒119疝>疣?03;疱疰B痂C痍E4痦痤6痧K痱:2@瘀46:瘊J瘘瘕3",
    "瘛P瘢瘠O瘭2>瘵=瘾瘳I@癔7癖D3翊竦穸0651<@窠;窨45衤48:12OS袷4<H裎D1;X裼裨E裰褡褙褓7褊Y褫::TD疋胥皲1#v耒115312001耨8耋Y=264F7覃顸72",
    "颉201450201020虍6G1@虺1虻蚨蚍蚋P蚝9蚣6蚓E<=蚵H蚰9蚱蚯I5蚴d70蛭5蛐r蛞E蛟蛘蛑a3蛸?12蜉IG蜞68蜚S9蜴蜱蜩=7r蜢!?0蝻蝠?蝌QL蝓?H蝤蝙;]K螨Y",
    "蟆螈螅W螗螃Wi螬8螳G7螽C蟀9@>蟠=W蠓蟾;@5G2缶;10)W竺2:笃0@笊P笏g笸笪笙D2笠4笤>:笞i1筅_筌@2=<筢?筱NE0@箬箝:箅T箜588L篁:@篚:03Q篾篼B6簋",
    "簟:簦A8籀臾201臬衄舡0091舨2<2舳095413:48衾62!46!c羝17701籼敉粑;粜13?903540糈糅A@艮暨羿>6?翡4244糸!c^7繇!8麸麴赳@?趑O赧5豇1酊5酎0D",
    "酢酡>酩5=0酲14B醅:醍3@062005醴5豕鹾趸bI!8?趵9趼趺9A023跎0;跆U:0跣E1跤T跽F81<1踣;:5踹踵7踱G蹁0>0蹊U55蹯4@94躐;1豸97貅B貔斛觖7觚1",
    "觥53~#6靓雩9雯F霁66霎K22=龀21000001黾<1隹20@3瞿雠銎OI!Z[!D鎏鐾鑫鱿22000稣鲋2100104020000010000110100000002000600020",
    "鳌00002001002012靼8;01J鞫鞣>1*>骰6,L骶314髀4髂804!X魃31魈43飨TPV饔%C148髫?髭;>63;3,E0縻麂4026鏖麝1k002黟26黧黥44b929鼷505"]

/-- The character at a row and a cell, both counted from zero. -/
def char? : Nat → Nat → Option Char := Table.char? rows

/-- The symbols in front of the eighth and the ninth row, in rows of
ninety-six cells. -/
def frontRows : List String :=
  ["ˊ0=–1??℅3!q000∕93^C0!<(h00000000000000000000000000000000000=00000000000000300V0T000S⊕〒:0",
    "〡00000000(Q#90<002R9202︰%j1 ℡㈱ ‐   ー゛0!E0〆ゝ0﹉0000000001000100000000000001000〾⿰00000000000;"]

/-- The symbol in front of a row, the eighth row counting as zero. -/
def front? (row cell : Nat) : Option Char :=
  Table.char? frontRows row cell

/-- The rarer ideographs and radicals that stand behind all ideographs. -/
def rare : String :=
  "郎|K!69J000110360010200⺁   2㑳㑇⺈2 㖞㘚㘎⺌:㥮㤘 㧏?!x㧐  %6#n!V⺧  2䁖#W⺮䌷⺳20 䎱䎬⺻䏝#G%C䙌 䜣5!7@⻊䥇b24010H䦛K䦶  )y䲟00䱷Z!U000000!y "

/-- The rarer ideograph at a place. -/
def rare? (n : Nat) : Option Char := Table.char? [rare] 0 n

/-- The codes of the unified ideographs in the table, in ascending order. -/
def ideographs : List Nat :=
  ((rows.flatMap Table.cells).filterMap fun c =>
    (c.map Char.toNat).filter fun n => 0x4E00 ≤ n && n < 0x9FA6).mergeSort

end Quartz.Charset.Gb2312
