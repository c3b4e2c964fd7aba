/-! Moves of the states, part 4 of 4. -/
namespace PageLint.Script.Grammar

def moves33 : List (List Nat) :=
  [[10101049611010929044100750531106801511335026114320281110802911109031103980374000010910404,
     104210041057103990581008605910400],
   [1010100000501126403740000],
   [1010100000501126503740000],
   [1010100000501126603740000],
   [1100100000374000014211069],
   [10101049700210891063110550051131005210379006101170141138806411070016111060251087202611292,
     10271139002811293029112940301011903111056032101210331111005410434034108730351139303610874,
     1037400000381111103910875040111120411087604210041],
   [10401049800211341069110710701134003740000],
   [1040704990051022109910469027114971001132603740000],
   [101010057052102890531107303740000],
   [101010057052102890531107403740000],
   [1010101740521007605311086117302450491049903740000],
   [10101017514910257044102720521007605311086117302450491049902610258028113490291135003740000,
     11091025905910284],
   [10101017511810257044102720521007605311086117302450491049902610258028113490291135003110283,
     1037400001091025905910284],
   [10101017510810257052100760531108611730245049104990261025802811349029113500374000010910259],
   [1040101891361038800511174069105981371107703740000],
   [10101019311010929044100750531107801510609026114320281110802911109031103980374000010910404,
     104210041057103990581008605910400],
   [10308050008510907052103790141116906411079086109050261141506111170084111720871090908810910,
     10891091109010912091109130921091409310915094109160951091709610918036109190374000009711413],
   [101010501052103790641107903740000],
   [101010089052103790641107903740000],
   [10308014408511247014111690861124604811286026114150611117008411172087112480881124908911250,
     109011251091112520921125309311254094112550951125609611257036109190374000009711499],
   [101010000048103860691108003740000],
   [10401000004810386069110800611039303740000],
   [104010000069110800611039303740000],
   [1010100000691108003740000],
   [101010089052103790641108103740000],
   [1020800002523009604911241050112420513019103740000],
   [10208036800211322074113212533009601430096014101750491124103210354050112420513019103740000],
   [10101050200211124004111210441007500510004052100760531108200610005007100060081000700911122,
     10101000901110010012100110131001201410013015100140161001501710016018100170191001802010019,
     10211002002210021023100220241002302510024026100790271002602810027029100280301002903111123,
     10321003103310032054100810341003303510034036100350374000003810036055100820401008405610037,
     10411004004210041057111250581008605911126],
   [10101039500210123063101150051011605210153006101170141138801611106025108720261110706811083,
     10271139002811293029112940301011903110120032101210331111005410081034108730351139303610874,
     1037400000381111103910875040111120411012404210041],
   [105040503028110840711136003740000],
   [106040504029110840721136103740000],
   [1040705050051022109911364027114971001136303740000],
   [10101007411011330044100750051113405210076053110880261026102811349029113500311133105410081,
     1037400001091009104210041057113320581008605911333],
   [10308007908510907052109080141116906411089086109050261141506111170084111720871090908810910,
     10891091109010912091109130921091409310915094109160951091709610918036109190374000009711413],
   [1010100000641108903740000],
   [10101050600210038004100030051000405311090006100050071000600810007009100080101000901110010,
     10121001101310012014100130151001401610015017100160181001701910018020100190211002002210021,
     10231002202410023025100240261002502710026028100270291002803010029031100300321003103310032,
     103410033035100340361003503740000038100360391003704010039041100400421004104310042],
   [104010507136103880051117404810386069103871371109103740000],
   [10401050713610388005111740481038606910387061103931371109103740000],
   [104010507136103880051117406910387061103931371109103740000],
   [1040105071361038800511174069103871371109103740000]]

def moves34 : List (List Nat) :=
  [[105040092028110920711039503740000],
   [106040093029110920721039603740000],
   [1100100000374000014211093],
   [10401050800211371069110940701137003740000],
   [1040705090051022109910469027114971001136303740000],
   [1010101740521007605311100117302450491049903740000],
   [10101017514910257044102720521007605311100117302450491049902610258028113490291135003740000,
     11091025905910284],
   [10101017511810257044102720521007605311100117302450491049902610258028113490291135003110283,
     1037400001091025905910284],
   [10101017510810257052100760531110011730245049104990261025802811349029113500374000010910259],
   [1040101891361038800511174069105981371109703740000],
   [101010000048103860691109803740000],
   [10401000004810386069110980611039303740000],
   [104010000069110980611039303740000],
   [1010100000691109803740000],
   [10101050200211304004113010441007500510004052100760531108200610005007100060081000700911302,
     10101000901110010012100110131001201410013015100140161001501710016018100170191001802010019,
     10211002002210021023100220241002302510024026100790271002602810027029100280301002903111303,
     10321003103310032054100810341003303510034036100350374000003810036055100820401008405610037,
     10411004004210041057113050581008605911306],
   [10101039500210123063101150051011605210153006101170141138801611106025108720261110706811099,
     10271139002811293029112940301011903110120032101210331111005410081034108730351139303610874,
     1037400000381111103910875040111120411012404210041],
   [10101007411011365044100750051113405210076053111010261026102811349029113500311136605410081,
     1037400001091009104210041057113670581008605911368],
   [1010101740521007605311103117302450491049903740000],
   [10101017514910257044102720521007605311103117302450491049902610258028113490291135003740000,
     11091025905910284],
   [10101017511810257044102720521007605311103117302450491049902610258028113490291135003110283,
     1037400001091025905910284],
   [10101017510810257052100760531110311730245049104990261025802811349029113500374000010910259],
   [10101039500210123063101150051011605210153006101170141138801611106025108720261110706811102,
     10271139002811293029112940301011903110120032101210331111005410081034108730351139303610874,
     1037400000381111103910875040111120411012404210041],
   [10101007411011377044100750051113405210076053111040261026102811349029113500311137805410081,
     1037400001091009104210041057113790581008605911380],
   [10202000304410061045113970051006304630096008100070471000904811120049100650301006603110067,
     10321006805010069051301910374000004210041],
   [1010105100141010303740000],
   [102020008002101070623009600510105048111200491006502610106050100690513019103740000],
   [1010105110141010303740000],
   [101010512014116000161140203740000],
   [10101051300210123063101150051011600610117014113880641011801611106025108720261110702711390,
     10281129302911294030101190311012003210121033111100541012203410873035113930361087403740000,
     10381111103910875040111120411012404210041],
   [1010105140141010303740000],
   [10401051500211153069101610701115203740000],
   [10101002400211159005101690731017003740000],
   [10202002500210177074101740753009601430096014101750481112004910065032115180501006905130191,
     103740000],
   [1080500000374000007611167],
   [10101051600211515063114060051113800611139014100130161150302511504026100250271002602810027,
     10291002803011140031114070321140303311506034115070351149803611394037400000381003603910037,
     1040115080411150904210041],
   [102020000080300950481112004910192050101930513019003740000],
   [102020000080300960481112004910065050100690513019103740000],
   [10101051700210135105101330051113800611139008100070091023401010009014100130161001502510024,
     10261002502710026028100270291002803011391031115230321150503310032034100330351003403610035,
     1037400000381003603910037040100390411004004210041],
   [10101051800211515063114060051113800611139014100130161150302511504026100250271002602810027,
     10291002803011140031114070321140303311506034115070351149803611394037400000381003603910037,
     1040115080411150904210041],
   [10101051900211515063114060051129000611139014100130161150302511504026100250271002602810027,
     10291002803011140031114070321140303311506034115070351149803611394037400000381003603910037,
     1040115080411150904210041]]

def moves35 : List (List Nat) :=
  [[10101003600210038004100030051000405311181006100050071000600810007009100080101000901110010,
     10121001101310012014100130151001401610015017100160181001701910018020100190211002002210021,
     10231002202410023025100240261002502710026028100270291002803010029031100300321003103310032,
     103410033035100340361003503740000038100360391003704010039041100400421004104310042],
   [10101052000210891063110550051131000610117014113880161110602510872026112920271139002811293,
     10291129403010119031110560321012103311110034108730351139303610874037400000381111103910875,
     1040111120411087604210041],
   [1010105210141034503740000],
   [10101002600211443044114420141017503740000],
   [10101000012530230049302300491124403740000],
   [101010037030111900374000004210041],
   [1020200002343009604911398050113990513019103740000],
   [10202052200211519074115172543009601430096014101750491139803211441050113990513019103740000],
   [10101052300211515063114060051113800611139014100130161150302511504026100250271002602810027,
     10291002803011140031114070321140303311506034115070351149803611394037400000381003603910037,
     1040115080411150904210041],
   [1010105240141017503740000],
   [10101052500211515063114060051113800611139014100130161150302511504026100250271002602810027,
     10291002803011140031114070321140303311506034115070351149803611394037400000381003603910037,
     1040115080411150904210041],
   [10101052600211515063114060051129000611139014100130161150302511504026100250271002602810027,
     10291002803011140031114070321140303311506034115070351149803611394037400000381003603910037,
     1040115080411150904210041],
   [10101052700211515063114060051113800611139014100130161150302511504026100250271002602810027,
     10291002803011140031114070321140303311506034115070351149803611394037400000381003603910037,
     1040115080411150904210041],
   [10101052800211500063113450051011600610117014113880161129102511238026111070271139002811293,
     10291129403010119031113460321012103311295034112390351139303611240037400000381111103910875,
     1040112960411149004210041],
   [10101052900211515063114060051113800611139014100130161150302511504026100250271002602810027,
     10291002803011140031114070321140303311506034115070351149803611394037400000381003603910037,
     1040115080411150904210041],
   [10101053000210891063110550051131000610117014113880161110602510872026112920271139002811293,
     10291129403010119031110560321012103311110034108730351139303610874037400000381111103910875,
     1040111120411087604210041],
   [10101053100211515063114060051113800611139014100130161150302511504026100250271002602810027,
     10291002803011140031114070321140303311506034115070351149803611394037400000381003603910037,
     1040115080411150904210041],
   [10101053200211515063114060051113800611139014100130161150302511504026100250271002602810027,
     10291002803011140031114070321140303311506034115070351149803611394037400000381003603910037,
     1040115080411150904210041],
   [10101053300211515063114060051113800611139014100130161150302511504026100250271002602810027,
     10291002803011140031114070321140303311506034115070351149803611394037400000381003603910037,
     1040115080411150904210041],
   [10101053400211515063114060051113800611139014100130161150302511504026100250271002602810027,
     10291002803011140031114070321140303311506034115070351149803611394037400000381003603910037,
     1040115080411150904210041],
   [10101053500211515063114060051113800611139014100130161150302511504026100250271002602810027,
     10291002803011140031114070321140303311506034115070351149803611394037400000381003603910037,
     1040115080411150904210041],
   [10101053600211515063114060051113800611139014100130161150302511504026100250271002602810027,
     10291002803011140031114070321140303311506034115070351149803611394037400000381003603910037,
     1040115080411150904210041],
   [10101053700211515063114060051113800611139014100130161150302511504026100250271002602810027,
     10291002803011140031114070321140303311506034115070351149803611394037400000381003603910037,
     1040115080411150904210041],
   [10101053800211515063114060051113800611139014100130161150302511504026100250271002602810027,
     10291002803011140031114070321140303311506034115070351149803611394037400000381003603910037,
     1040115080411150904210041],
   [10101053900211515063114060051113800611139014100130161150302511504026100250271002602810027,
     10291002803011140031114070321140303311506034115070351149803611394037400000381003603910037,
     1040115080411150904210041],
   [10101054000211515063114060051113800611139014100130161150302511504026100250271002602810027,
     10291002803011140031114070321140303311506034115070351149803611394037400000381003603910037,
     1040115080411150904210041],
   [10101054100211515063114060051113800611139014100130161150302511504026100250271002602810027,
     10291002803011140031114070321140303311506034115070351149803611394037400000381003603910037,
     1040115080411150904210041],
   [10101054200211515063114060051129000611139014100130161150302511504026100250271002602810027,
     10291002803011140031114070321140303311506034115070351149803611394037400000381003603910037,
     1040115080411150904210041],
   [10101013300211211005101690731017003740000],
   [101010037030114280374000004210041],
   [10302003208511414255301880141019708611412026102050611019808410206087114160881141708911418,
     109011419091114200921142109311422094114230951142409611425036102170374000009711601],
   [10302003208511414255301710141019708611412026102050611019808410206087114160881141708911418,
     109011419091114200921142109311422094114230951142409611425036102170374000009711601],
   [10101054300210891063110550051131000610117014113880161110602510872026112920271139002811293,
     10291129403010119031110560321012103311110034108730351139303610874037400000381111103910875,
     1040111120411087604210041],
   [101010000125302320491124403740000],
   [101010167155112140173004803740000],
   [1020800002563009608130096081105631581056304911241050112420513019103740000],
   [10208036800211322074113212573009601430096014101750813009608110563158105630491124103210354,
     1050112420513019103740000],
   [1020800002563009508130095081105661581056604911244050112450513019003740000],
   [103080000256300950813009508110566158105660491124403740000],
   [10208000025630095081300950811056615810566049112440513019003740000]]

def moves36 : List (List Nat) :=
  [[101010000161105660491124403740000],
   [10101009900211470044114690141017503740000],
   [101010100002114710141017503740000],
   [1010105440141017503740000],
   [10302003208511414255300990141019708611412026102050611019808410206087114160881141708911418,
     109011419091114200921142109311422094114230951142409611425036102170374000009711601],
   [10101054500211515063114060051129000611139014100130161150302511504026100250271002602810027,
     10291002803011140031114070321140303311506034115070351149803611394037400000381003603910037,
     1040115080411150904210041],
   [1010105460141017503740000],
   [10101054700211515063114060051129000611139014100130161150302511504026100250271002602810027,
     10291002803011140031114070321140303311506034115070351149803611394037400000381003603910037,
     1040115080411150904210041],
   [10101054800211515063114060051129000611139014100130161150302511504026100250271002602810027,
     10291002803011140031114070321140303311506034115070351149803611394037400000381003603910037,
     1040115080411150904210041],
   [1010105490141017503740000],
   [10302003208511414255301890141019708611412026102050611019808410206087114160881141708911418,
     109011419091114200921142109311422094114230951142409611425036102170374000009711601],
   [10302003208511414255301720141019708611412026102050611019808410206087114160881141708911418,
     109011419091114200921142109311422094114230951142409611425036102170374000009711601],
   [10302003208511414258301960141019702610205061101980841020608911418093114220941142303610217,
     103740000],
   [1030200322593019601410197026102050611019808410206094114230361021703740000],
   [10101055000210891063110550051131000610117014113880161110602510872026112920271139002811293,
     10291129403010119031110560321012103311110034108730351139303610874037400000381111103910875,
     1040111120411087604210041],
   [10302003208511414260301960141019708611412026102050611019808410206089114180901141909111420,
     1092114210931142209411423095114240361021703740000],
   [10302003208511414261301960141019708611412026102050611019808410206087114160891141809011419,
     109111420092114210931142209411423095114240361021703740000],
   [10302003208511414262301960141019702610205061101980841020609311422094114230361021703740000],
   [10302003208511414263301960141019708611412026102050611019808410206089114180931142209411423,
     1095114240361021703740000],
   [10302003208511414264301960141019708611412026102050611019808410206089114180901141909311422,
     109411423095114240361021703740000],
   [10302003208511414265301960141019708611412026102050611019808410206089114180901141909111420,
     10931142209411423095114240361021703740000],
   [103020032085114142663019601410197026102050611019808410206094114230361021703740000],
   [1030200322593019601410197026102050611019808410206094114230361021703740000],
   [10302003208511414267301960141019708611412026102050611019808410206089114180931142209411423,
     10361021703740000],
   [10302003208511414268301960141019708611412026102050611019808410206087114160881141708911418,
     10901141909111420092114210931142209411423095114240361021703740000],
   [10302003208511414255301920141019708611412026102050611019808410206087114160881141708911418,
     109011419091114200921142109311422094114230951142409611425036102170374000009711601],
   [10302003208511414255301730141019708611412026102050611019808410206087114160881141708911418,
     109011419091114200921142109311422094114230951142409611425036102170374000009711601],
   [10101055100210135105101330051113800611139008100070091023401010009014100130161001502510024,
     10261002502710026028100270291002803011391031115230321150503310032034100330351003403610035,
     1037400000381003603910037040100390411004004210041],
   [10101055200210891063110550051131000610117014113880641122501611106025108720261129202711390,
     10281129302911294030101190311105603210121033111100341087303511393036108740374000003811111,
     103910875040111120411087604210041],
   [101010196002114810141017503740000],
   [1010105530141017503740000],
   [1010105540141017503740000],
   [10302003208511414255301740141019708611412026102050611019808410206087114160881141708911418,
     109011419091114200921142109311422094114230951142409611425036102170374000009711601],
   [1010105550141017503740000],
   [10302003208511414255301750141019708611412026102050611019808410206087114160881141708911418,
     109011419091114200921142109311422094114230951142409611425036102170374000009711601],
   [10302003208511414255301760141019708611412026102050611019808410206087114160881141708911418,
     109011419091114200921142109311422094114230951142409611425036102170374000009711601],
   [10101055600211515063114060051113800611139014100130161150302511504026100250271002602810027,
     10291002803011140031114070321140303311506034115070351149803611394037400000381003603910037,
     1040115080411150904210041],
   [10308007908510907052109080141116906411230086109050261141506111170084111720871090908810910,
     10891091109010912091109130921091409310915094109160951091709610918036109190374000009711413],
   [1010100000641123003740000],
   [10101055700210891063110550051131000610117014113880641123101611106025108720261129202711390,
     10281129302911294030101190311105603210121033111100341087303511393036108740374000003811111,
     103910875040111120411087604210041]]

def moves37 : List (List Nat) :=
  [[10101055800210891063110550051131000610117014113880641123201611106025108720261129202711390,
     10281129302911294030101190311105603210121033111100341087303511393036108740374000003811111,
     103910875040111120411087604210041],
   [1010105590141017503740000],
   [10302003208511414255301950141019708611412026102050611019808410206087114160881141708911418,
     109011419091114200921142109311422094114230951142409611425036102170374000009711601],
   [10308007908510907052109080141116906411234086109050261141506111170084111720871090908810910,
     10891091109010912091109130921091409310915094109160951091709610918036109190374000009711413],
   [1010100000641123403740000],
   [10308007908510907052109080141116906411235086109050261141506111170084111720871090908810910,
     10891091109010912091109130921091409310915094109160951091709610918036109190374000009711413],
   [1010100000641123503740000],
   [10101056000210891063110550051131000610117014113880641123601611106025108720261129202711390,
     10281129302911294030101190311105603210121033111100341087303511393036108740374000003811111,
     103910875040111120411087604210041],
   [10308007908510907052109080141116906411237086109050261141506111170084111720871090908810910,
     10891091109010912091109130921091409310915094109160951091709610918036109190374000009711413],
   [1010100000641123703740000],
   [103080000187300950491124403740000],
   [10208000018730095049112440513019003740000],
   [1020200002343009604911241050113990513019103740000],
   [10202052200211519074115172543009601430096014101750491124103211441050113990513019103740000],
   [1020800002013009504911244050109040513019003740000],
   [10308014408511247240300980141116908611246026114150611117008411172087112480881124908911250,
     109011251091112520921125309311254094112550951125609611257036109190374000009711499],
   [1020200002343009504911244050114110513019003740000],
   [10401056100211315069101610701131403740000],
   [1080500000374000007611324],
   [10101056200211500063113450051011600610117014113880161129102511238026111070271139002811293,
     10291129403010119031113460321012103311295034112390351139303611240037400000381111103910875,
     1040112960411149004210041],
   [1020800002523009504911244050112450513019003740000],
   [10401056300211357069101610701135603740000],
   [1080500000374000007611362],
   [10101056400211515063114060051113800611139014100130161150302511504026100250271002602810027,
     10291002803011140031114070321140303311506034115070351149803611394037400000381003603910037,
     1040115080411150904210041],
   [10302056500211515063114060441140800511138269300970061113901410013016115030251150402610025,
     10271002602810027029100280301114003111407032114030331150603411507035114980361139403740000,
     10381003603910037040115080411150904210041],
   [10101002600211409044115210141017503740000],
   [10701056600211496063114920051113800611139014100130161129102511238026100250271139006110182,
     10281002702910028030111400311149303211403033115060341123903511498036112400374000003810036,
     103910037040112960411111304210041],
   [10101056700211515063114060051113800611139014100130161150302511504026100250271002602810027,
     10291002803011140031114070321140303311506034115070351149803611394037400000381003603910037,
     1040115080411150904210041],
   [1010100000811141203740000],
   [103020000234300950491141003740000],
   [10202000023430095049114100513019003740000],
   [1020100000511142603740000],
   [1010100000491141003740000],
   [1010100000501142703740000],
   [10101003700411522030114280374000004210041],
   [1020200002343009504911410050114110513019003740000],
   [10302003208511414255300980141019708611412026102050611019808410206087114160881141708911418,
     109011419091114200921142109311422094114230951142409611425036102170374000009711601],
   [1010100000501144503740000],
   [10101009900211446044115250141017503740000],
   [1010100000501144703740000]]

def moves38 : List (List Nat) :=
  [[1010100000501144803740000],
   [101010100002114490141017503740000],
   [1010101320451146700810007047100090301006603110067032100680374000004210041],
   [10202002500210177074101741473009601430096014101750491006503211518050100690513019103740000],
   [10101056800210891063110550051131000610117014113880151001401611106025108720261129202711390,
     10281129302911294030101190311105603210121033111100341087303511393036108740374000003811111,
     103910875040111120411087604210041],
   [101010196002114730141017503740000],
   [10308014408511247014111690861124604811476026114150611117008411172087112480881124908911250,
     109011251091112520921125309311254094112550951125609611257036109190374000009711499],
   [10308007908510907052109080141116901511479086109050261141506111170084111720871090908810910,
     10891091109010912091109130921091409310915094109160951091709610918036109190374000009711413],
   [1010100000151147903740000],
   [10101056900210891063110550051131000610117014113880151001401611106025108720261129202711390,
     10281129302911294030101190311105603210121033111100341087303511393036108740374000003811111,
     103910875040111120411087604210041],
   [10308007908510907052109080141116901511487086109050261141506111170084111720871090908810910,
     10891091109010912091109130921091409310915094109160951091709610918036109190374000009711413],
   [1010100000151148703740000],
   [10308057000211596063115900441153700510116006101170141138801611581270300970251153202611107,
     10271139002811293029112940301011903111591032101210331158203411533035115020361153403740000,
     10381111103910875040115830411159204210041],
   [10101057100211596063115900051011600610117014113880161158102511532026111070271139002811293,
     10291129403010119031115910321012103311582034115330351150203611534037400000381111103910875,
     1040115830411159204210041],
   [10101057200211596063115900051011600610117014113880161158102511532026111070271139002811293,
     10291129403010119031115910321012103311582034115330351150203611534037400000381111103910875,
     1040115830411159204210041],
   [10101057300211596063115900051011600610117014113880161158102511532026111070271139002811293,
     10291129403010119031115910321012103311582034115330351150203611534037400000381111103910875,
     1040115830411159204210041],
   [10101057400211596063115900051137400610117014113880161158102511532026111070271139002811293,
     10291129403010119031115910321012103311582034115330351150203611534037400000381111103910875,
     1040115830411159204210041],
   [10101057500211596063115900051011600610117014113880161158102511532026111070271139002811293,
     10291129403010119031115910321012103311582034115330351150203611534037400000381111103910875,
     1040115830411159204210041],
   [10101057600211596063115900051011600610117014113880161158102511532026111070271139002811293,
     10291129403010119031115910321012103311582034115330351150203611534037400000381111103910875,
     1040115830411159204210041],
   [10101057700211596063115900051137400610117014113880161158102511532026111070271139002811293,
     10291129403010119031115910321012103311582034115330351150203611534037400000381111103910875,
     1040115830411159204210041],
   [10101057800211596063115900051011600610117014113880161158102511532026111070271139002811293,
     10291129403010119031115910321012103311582034115330351150203611534037400000381111103910875,
     1040115830411159204210041],
   [10101057900211596063115900051011600610117014113880161158102511532026111070271139002811293,
     10291129403010119031115910321012103311582034115330351150203611534037400000381111103910875,
     1040115830411159204210041],
   [10101058000211596063115900051011600610117014113880161158102511532026111070271139002811293,
     10291129403010119031115910321012103311582034115330351150203611534037400000381111103910875,
     1040115830411159204210041],
   [10101058100211596063115900051011600610117014113880161158102511532026111070271139002811293,
     10291129403010119031115910321012103311582034115330351150203611534037400000381111103910875,
     1040115830411159204210041],
   [10101058200211596063115900051011600610117014113880161158102511532026111070271139002811293,
     10291129403010119031115910321012103311582034115330351150203611534037400000381111103910875,
     1040115830411159204210041],
   [10101058300211596063115900051011600610117014113880161158102511532026111070271139002811293,
     10291129403010119031115910321012103311582034115330351150203611534037400000381111103910875,
     1040115830411159204210041],
   [10101058400211596063115900051011600610117014113880161158102511532026111070271139002811293,
     10291129403010119031115910321012103311582034115330351150203611534037400000381111103910875,
     1040115830411159204210041],
   [10101058500211596063115900051011600610117014113880161158102511532026111070271139002811293,
     10291129403010119031115910321012103311582034115330351150203611534037400000381111103910875,
     1040115830411159204210041],
   [10101058600211596063115900051011600610117014113880161158102511532026111070271139002811293,
     10291129403010119031115910321012103311582034115330351150203611534037400000381111103910875,
     1040115830411159204210041],
   [10101058700211596063115900051011600610117014113880161158102511532026111070271139002811293,
     10291129403010119031115910321012103311582034115330351150203611534037400000381111103910875,
     1040115830411159204210041],
   [10101058800211596063115900051011600610117014113880161158102511532026111070271139002811293,
     10291129403010119031115910321012103311582034115330351150203611534037400000381111103910875,
     1040115830411159204210041],
   [10101058900211596063115900051011600610117014113880161158102511532026111070271139002811293,
     10291129403010119031115910321012103311582034115330351150203611534037400000381111103910875,
     1040115830411159204210041],
   [10101059000211596063115900051011600610117014113880161158102511532026111070271139002811293,
     10291129403010119031115910321012103311582034115330351150203611534037400000381111103910875,
     1040115830411159204210041],
   [10101059100211596063115900051137400610117014113880161158102511532026111070271139002811293,
     10291129403010119031115910321012103311582034115330351150203611534037400000381111103910875,
     1040115830411159204210041],
   [10308014408511541014111690861154027130188026114150611117008411172087115420881154308911544,
     109011545091115460921154709311548094115490951155009611551036109190374000009711595],
   [10308014408511541014111690861154027130171026114150611117008411172087115420881154308911544,
     109011545091115460921154709311548094115490951155009611551036109190374000009711595],
   [10308014408511541014111690861154027130099026114150611117008411172087115420881154308911544,
     109011545091115460921154709311548094115490951155009611551036109190374000009711595],
   [10101059200211596063115900051137400610117014113880161158102511532026111070271139002811293,
     10291129403010119031115910321012103311582034115330351150203611534037400000381111103910875,
     1040115830411159204210041],
   [10101059300211596063115900051137400610117014113880161158102511532026111070271139002811293,
     10291129403010119031115910321012103311582034115330351150203611534037400000381111103910875,
     1040115830411159204210041],
   [10101059400211596063115900051137400610117014113880161158102511532026111070271139002811293,
     10291129403010119031115910321012103311582034115330351150203611534037400000381111103910875,
     1040115830411159204210041]]

def moves39 : List (List Nat) :=
  [[10308014408511541014111690861154027130189026114150611117008411172087115420881154308911544,
     109011545091115460921154709311548094115490951155009611551036109190374000009711595],
   [10308014408511541014111690861154027130172026114150611117008411172087115420881154308911544,
     109011545091115460921154709311548094115490951155009611551036109190374000009711595],
   [10308014408511541014111692723019602611415061111700841117208911544093115480941154903610919,
     103740000],
   [1030801442733019601411169026114150611117008411172094115490361091903740000],
   [10308014408511541014111690861154027430196026114150611117008411172089115440901154509111546,
     1092115470931154809411549095115500361091903740000],
   [10308014408511541014111690861154027530196026114150611117008411172087115420891154409011545,
     109111546092115470931154809411549095115500361091903740000],
   [10308014408511541014111692763019602611415061111700841117209311548094115490361091903740000],
   [10308014408511541014111690861154027730196026114150611117008411172089115440931154809411549,
     1095115500361091903740000],
   [10308014408511541014111690861154027830196026114150611117008411172089115440901154509311548,
     109411549095115500361091903740000],
   [10308014408511541014111690861154027930196026114150611117008411172089115440901154509111546,
     10931154809411549095115500361091903740000],
   [103080144085115410141116928030196026114150611117008411172094115490361091903740000],
   [1030801442733019601411169026114150611117008411172094115490361091903740000],
   [10308014408511541014111690861154028130196026114150611117008411172089115440931154809411549,
     10361091903740000],
   [10308014408511541014111690861154028230196026114150611117008411172087115420881154308911544,
     10901154509111546092115470931154809411549095115500361091903740000],
   [10308014408511541014111690861154027130192026114150611117008411172087115420881154308911544,
     109011545091115460921154709311548094115490951155009611551036109190374000009711595],
   [10308014408511541014111690861154027130173026114150611117008411172087115420881154308911544,
     109011545091115460921154709311548094115490951155009611551036109190374000009711595],
   [10308014408511541014111690861154027130174026114150611117008411172087115420881154308911544,
     109011545091115460921154709311548094115490951155009611551036109190374000009711595],
   [10308014408511541014111690861154027130175026114150611117008411172087115420881154308911544,
     109011545091115460921154709311548094115490951155009611551036109190374000009711595],
   [10308014408511541014111690861154027130176026114150611117008411172087115420881154308911544,
     109011545091115460921154709311548094115490951155009611551036109190374000009711595],
   [10101059500211596063115900051011600610117014113880161158102511532026111070271139002811293,
     10291129403010119031115910321012103311582034115330351150203611534037400000381111103910875,
     1040115830411159204210041],
   [10308014408511541014111690861154027130195026114150611117008411172087115420881154308911544,
     109011545091115460921154709311548094115490951155009611551036109190374000009711595],
   [10101059600211596063115900051011600610117014113880161158102511532026111070271139002811293,
     10291129403010119031115910321012103311582034115330351150203611534037400000381111103910875,
     1040115830411159204210041],
   [10701059700211599063115970051011600610117014113880161129102511238026111070271139006111165,
     10281129302911294030101190311159803210121033115820341123903511502036112400374000003811111,
     103910875040112960411149004210041],
   [1010100000811154003740000],
   [1020100000511155203740000],
   [1010100000501155303740000],
   [1010100000501155703740000],
   [1010100000501155803740000],
   [1010100000501155903740000],
   [10308014408511247014111690861124604811579026114150611117008411172087112480881124908911250,
     109011251091112520921125309311254094112550951125609611257036109190374000009711499],
   [1020800002363009604911535050115360513019103740000],
   [10208059800211587074115862833009601430096014101750491153503210354050115360513019103740000],
   [103080000236300950491153803740000],
   [10208000023630095049115380513019003740000],
   [10308014408511541014111690861154027130098026114150611117008411172087115420881154308911544,
     109011545091115460921154709311548094115490951155009611551036109190374000009711595],
   [10101059900211500063113450051011600610117014113880161129102511238026111070271139002811293,
     10291129403010119031113460321012103311295034112390351139303611240037400000381111103910875,
     1040112960411149004210041],
   [1020800002363009504911538050115390513019003740000],
   [1020800002363009604911241050115360513019103740000],
   [10208059800211587074115862833009601430096014101750491124103210354050115360513019103740000],
   [1020800002363009504911244050115390513019003740000]]

def moves40 : List (List Nat) :=
  [[10101060000210338105103330051137600610117008103340091033501010336014113880151001401611106,
     10251087202611375027113900281129302911294030101190311033703210121033111100341087303511393,
     103610874037400000381111103910875040111120411033904210041],
   [10101060100211500063113450051011600610117014113880161129102511238026111070271139002811293,
     10291129403010119031113460321012103311295034112390351139303611240037400000381111103910875,
     1040112960411149004210041],
   [10308007908510907052109080141116901511529086109050261141506111170084111720871090908810910,
     10891091109010912091109130921091409310915094109160951091709610918036109190374000009711413],
   [1010100000151152903740000],
   [1010100000491153803740000]]

end PageLint.Script.Grammar
