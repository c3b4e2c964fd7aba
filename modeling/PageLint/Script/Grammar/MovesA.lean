/-! Moves of the states, part 1 of 4. -/
namespace PageLint.Script.Grammar

def moves0 : List (List Nat) :=
  [[10000000000060000],
   [10101000100130000002100380031000200410003005100040061000500710006008100070091000801010009,
     10111001001210011013100120141001301510014016100150171001601810017019100180201001902110020,
     10221002102310022024100230251002402610025027100260281002702910028030100290311003003210031,
     10331003203410033035100340361003503740000038100360391003704010039041100400421004104310042],
   [10101000200130001002100380041000300510004006100050071000600810007009100080101000901110010,
     10121001101310012014100130151001401610015017100160181001701910018020100190211002002210021,
     10231002202410023025100240261002502710026028100270291002803010029031100300321003103310032,
     103410033035100340361003503740000038100360391003704010039041100400421004104310042],
   [10202000304410061045100620051006304630096008100070471000904810064049100650301006603110067,
     10321006805010069051301910374000004210041],
   [10101000400210083004100740441007500510004052100760531007700610005007100060081000700910078,
     10101000901110010012100110131001201410013015100140161001501710016018100170191001802010019,
     10211002002210021023100220241002302510024026100790271002602810027029100280301002903110080,
     10321003103310032054100810341003303510034036100350374000003810036055100820401008405610037,
     10411004004210041057100850581008605910087],
   [1020100050021009904410096005100970603002006110098028111080291110903740000],
   [1010100060141010303740000],
   [10101000700210107005101050261010603740000],
   [102020008002101070623009600510105048100640491006502610106050100690513019103740000],
   [10101000800210107005101050261010603740000],
   [1010100090141010303740000],
   [1010100100141010303740000],
   [101010011014101120161011303740000],
   [10101001200210123063101150051011600610117014113880641011801611106025108720261110702711390,
     10281129302911294030101190311012003210121033111100541012203410873035113930361087403740000,
     10381111103910875040111120411012404210041],
   [1010100000653008203740000],
   [10101001300210135063101330051113800611139014100130161001502510024026100250271002602810027,
     10291002803011140031101340321140303310032034100330351003403610035037400000381003603910037,
     1040100390411004004210041],
   [1010100140141010303740000],
   [10101001500211395004113830051110500610005007113840081000700911385010100090111138601210011,
     10131138701410013015100140161001501711389018100170191001802010019021100200221002102310022,
     10241002302510024026100250271002602810027029100280301139103111392032115050331003203410033,
     1035100340361003503740000038100360391003704010039041100400421004104311396],
   [1010100160051013903740000],
   [101030000002101420661014103740000],
   [101030000002101440661014303740000],
   [1010300000661014503740000],
   [10103001700210135063101330051113800611139014100130661014601610015025100240261002502710026,
     10281002702910028030111400311013403211403033100320341003303510034036100350374000003810036,
     103910037040100390411004004210041],
   [10101001800210135063101330051113800611139014100130161001502510024026100250271002602810027,
     10291002803011140031101340321140303310032034100330351003403610035037400000381003603910037,
     1040100390411004004210041],
   [10302001900210135063101330441015100511138067300970061113901410013016100150251002402610025,
     10271002602810027029100280301114003110134032114030331003203410033035100340361003503740000,
     10381003603910037040100390411004004210041],
   [10101002000210123063101150051011605210153006101170141138801611106025108720261110706810154,
     10271139002811293029112940301011903110120032101210331111005410081034108730351139303610874,
     1037400000381111103910875040111120411012404210041],
   [10401002100210163069101610701016203740000],
   [105040022028101660711016703740000],
   [106040023029101660721016803740000],
   [10101002400210171005101690731017003740000],
   [10202002500210177074101740753009601430096014101750481006404910065032101760501006905130191,
     103740000],
   [10101002600210180044101790141017503740000],
   [10701002700211143063108890051113800611139014100130161129102511238026100250271139006110182,
     10281002702910028030111400311089003211403033100320341123903510034036112400374000003810036,
     103910037040112960411111304210041],
   [10101002800210135063101330051113800611139014100130161001502510024026100250271002602810027,
     10291002803011140031101340321140303310032034100330351003403610035037400000381003603910037,
     1040100390411004004210041],
   [1080500000374000007610187],
   [10101002900210135063101330051113800611139014100130161001502510024026100250271002602810027,
     10291002803011140031101340321140303310032034100330351003403610035037400000381003603910037,
     1040100390411004004210041],
   [10906003007710191037400000381018907810190],
   [1030200000793009503740000],
   [102020000080300950481006404910192050101930513019003740000],
   [1010100000811019403740000]]

def moves1 : List (List Nat) :=
  [[103020000082300950491019203740000],
   [1010100310021019503740000],
   [102020000080300960481006404910065050100690513019103740000],
   [1010100000015000003740000],
   [1010100000833003603740000],
   [10201003201410197061101980841019903740000],
   [1010100000833001903740000],
   [10202000008230095049101920513019003740000],
   [10302003308510203052102040141019706610201086101940261020506110198084102060871020708810208,
     10891020909010210091102110921021209310213094102140951021509610216036102170374000009710202],
   [103020034098300940261020506110198084102190374000003810036],
   [1030200000793009403740000],
   [1040700350051022109910224027114971001022203740000],
   [103020034101300940374000003810036],
   [1020100000511022503740000],
   [1010100000491019203740000],
   [1010300000661020103740000],
   [1010100001023024803740000],
   [1010100000501022603740000],
   [10101003600130001002100380041000300510004006100050071000600810007009100080101000901110010,
     10121001101310012014100130151001401610015017100160181001701910018020100190211002002210021,
     10231002202410023025100240261002502710026028100270291002803010029031100300321003103310032,
     103410033035100340361003503740000038100360391003704010039041100400421004104310042],
   [10101003700410228030102290374000004210041],
   [10101003600130002002100380041000300510004006100050071000600810007009100080101000901110010,
     10121001101310012014100130151001401610015017100160181001701910018020100190211002002210021,
     10231002202410023025100240261002502710026028100270291002803010029031100300321003103310032,
     103410033035100340361003503740000038100360391003704010039041100400421004104310042],
   [101010038103102311041023203740000],
   [10101003900210135105101330051113800611139008100070091023401010009014100130161001502510024,
     10261002502710026028100270291002803010029031102350321003103310032034100330351003403610035,
     1037400000381003603910037040100390411004004210041],
   [101010040106102420521023905310240028113490291135003740000],
   [10101004100210038004100030051000400610005007100060081000700910008010100090111001001210011,
     10131001201410013015100140161001501710016018100170191001802010019021100200221002102310022,
     10241002302510024026100250271002602810027029100280301002903110030032100310331003203410033,
     1035100340361003503740000038100360391003704010039041100400421004104310042],
   [10101004200210135063101330051113800611139014100130161001502510024026100250271002602810027,
     10291002803011140031101340321140303310032034100330351003403610035037400000381003603910037,
     1040100390411004004210041],
   [1010100000021024503740000],
   [1010100000321024603740000],
   [101010000002102480441024703740000],
   [10101004300210135063101330051129000611139014100130161001502510024026100250271002602810027,
     10291002803011140031101340321140303310032034100330351003403610035037400000381003603910037,
     1040100390411004004210041],
   [1010100381041023203740000],
   [101030038104102320661025103740000],
   [1010100000833000303740000],
   [101010037030102520374000004210041],
   [10202004404410061045100620051006310730096053102530081000704710009014300960143024504830245,
     1048100640491025403010066031100670321006805010069051301910374000004210041],
   [101010045108102570261025802811349029113500374000010910259],
   [10101004611010260044100750051113411130254111302570261026102811349029113500311026205410081,
     1037400001091009104210041057102630581008605910264],
   [1030200000833004411230100049301050374000011310269],
   [10202004700210107114300960051010505310253014300960143024504830245048100640491025402610106,
     1050100690513019103740000],
   [10101004800210123063101150051011605210153006101170141138801611106025108720261110706810154,
     10271139002811293029112940301011903110120032101210331111005410081034108730351139303610874,
     1037400000381111103910875040111120411012404210041]]

def moves2 : List (List Nat) :=
  [[10202004900210273115102710443009604410272116300960531025301430096014302450141017504830245,
     10481006404910254026300960261025802811349029113500321017605010069051301910374000010910259,
     105910274],
   [10101005000210277063102750051011600610117014113880161110602510872026111070271139002811293,
     10291129403010119031102760321012103311110034108730351139303610874037400000381111103910875,
     1040111120411027804210041],
   [1030200000753009501430095014302440483024403740000],
   [10202005107530095053102530143009501430245048302450481006404910282050101930513019003740000],
   [101010000117302440811019403740000],
   [10202005211810257044300960441027211630096053102530143009601430245048302450481006404910254,
     102630096026102580281134902911350031102830501006905130191037400001091025905910284],
   [101010045118102570441027202610258028113490291135003110283037400001091025905910284],
   [10202005210810257114300960531025301430096014302450483024504810064049102540263009602610258,
     1028113490291135005010069051301910374000010910259],
   [101010053052102850531028603740000],
   [1010100000491028803740000],
   [101010054052102890531029003740000],
   [101010055014101750481029203740000],
   [10101003600210038004100030051000405310294006100050071000600810007009100080101000901110010,
     10121001101310012014100130151001401610015017100160181001701910018020100190211002002210021,
     10231002202410023025100240261002502710026028100270291002803010029031100300321003103310032,
     103410033035100340361003503740000038100360391003704010039041100400421004104310042],
   [10101005611910257004102950441029602610258028113490291135003010229031102970374000010910302,
     10421004105710298058102991201030012110301],
   [101010057052102890531029003740000],
   [101010058052102850531028603740000],
   [1010100001031030503740000],
   [10101005900210308045103090521030605310307028113490291135003740000],
   [1010100000374000012210311],
   [101010000052103121043002503740000],
   [1010100601041023203740000],
   [1010100001043002503740000],
   [101030061007103150661031403740000],
   [10101006200210891063110550051131000610117014113880161110602510872026112920271139002811293,
     10291129403010119031110560321012103311110034108730351139303610874037400000381111103910875,
     1040111120411087604210041],
   [10101006300210038004100030051000400610005007100060081000700910008010100090111001001210011,
     10131001201410013015100140161001501710016018100170191001802010019021100200221002102310022,
     10241002302510024026100250271002602810027029100280301002903110030032100310331003203410033,
     1035100340361003503740000038100360391003704010039041100400421004104310042],
   [10101006410810318005111340521028505310319026102610281134902911350054101220374000010910320],
   [10101006500210886063108840051135205210321006101170141138801611291025112380261134806810322,
     10271139002811293029112940301011903110885032101210331129505410122034112390351139303611240,
     1037400000381111103910875040112960411088704210041],
   [101030066123300420491032303740000],
   [101030067052103260661032503740000],
   [101030068052103260661032803740000],
   [10101006900210038004100030051000400610005007100060081000700910008010100090111001001210011,
     10131001201410013015100140161001501710016018100170191001802010019021100200221002102310022,
     10241002302510024026100250271002602810027029100280301002903110030032100310331003203410033,
     1035100340361003503740000038100360391003704010039041100400421004104310042],
   [1010100700051033103740000],
   [10101007100210338105103330051137600610117008103340091033501010336014113880151001401611106,
     10251087202611375027113900281129302911294030101190311033703210121033111100341087303511393,
     103610874037400000381111103910875040111120411033904210041],
   [1010100720141034503740000],
   [10101007300210038004100030051000400610005007100060081000700910008010100090111001001210011,
     10131001201410013015100140161001501710016018100170191001802010019021100200221002102310022,
     10241002302510024026100250271002602810027029100280301002903110030032100310331003203410033,
     1035100340361003503740000038100360391003704010039041100400421004104310042],
   [1020800001243009612530096125302310493023104910881050108820513019103740000],
   [10101007411010348044100750051113405210076053103490261026102811349029113500311035005410081,
     1037400001091009104210041057103510581008605910352],
   [102010000060300200611113203740000],
   [1010100001263022503740000],
   [10101007500210353005111580731017003740000]]

def moves3 : List (List Nat) :=
  [[10208007600211162074111611273009612530096125302310143009601410175049302310491088103210354,
     1050108820513019103740000],
   [10101007700210356044103550141017503740000],
   [10101007800210933063109310051135200610117014113880161129102511238026113480271139002811293,
     10291129403010119031109320321012103311295034112390351139303611240037400000381111103910875,
     1040112960411093404210041],
   [1020800001243009512530095125302300493023004910903050109040513019003740000],
   [103080000124300951253009512530230049302300491090303740000],
   [10308007908510907052109080141116906410357086109050261141506111170084111720871090908810910,
     10891091109010912091109130921091409310915094109160951091709610918036109190374000009711413],
   [101010080052103580641035903740000],
   [10208000012430095125300951253023004930230049109030513019003740000],
   [10101000012530230049302300491090303740000],
   [1010100000641035703740000],
   [10101008005210358064103590491036103740000],
   [1010100001283023003740000],
   [101010037030103620374000004210041],
   [1020200000823009604910065050100690513019103740000],
   [10202002500210177074101741293009601430096014101750491006503211441050100690513019103740000],
   [1020200000823009504910192050101930513019003740000],
   [10302003213030181014101970261020506110198084102060361021703740000],
   [10101008100210038004100030051000400610005007100060081000700910008010100090111001001210011,
     10131001201410013015100140161001501710016018100170191001802010019021100200221002102310022,
     10241002302510024026100250271002602810027029100280301002903110030032100310331003203410033,
     1035100340361003503740000038100360391003704010039041100400421004104310042],
   [1010100000171036403740000],
   [10101008200210038004100030051000405310365006100050071000600810007009100080101000901110010,
     10121001101310012014100130151001401610015017100160181001701910018020100190211002002210021,
     10231002202410023025100240261002502710026028100270291002803010029031100300321003103310032,
     103410033035100340361003503740000038100360391003704010039041100400421004104310042],
   [10101008308330069131103661321036703740000],
   [1010100000833007403740000],
   [1010300000661037003740000],
   [1010100000833007603740000],
   [1010300000661037103740000],
   [1010100000833007803740000],
   [1010100000833007903740000],
   [10302003308510203052102040141019706610372086101940261020506110198084102060871020708810208,
     10891020909010210091102110921021209310213094102140951021509610216036102170374000009710202],
   [1010300000661037203740000],
   [10302003308510203052102040141019706610373086101940261020506110198084102060871020708810208,
     10891020909010210091102110921021209310213094102140951021509610216036102170374000009710202],
   [1010300000661037303740000],
   [10101008400210135063101330051113800611139014100130161001502510024026100250271002602810027,
     10291002803011140031101340321140303310032034100330351003403610035037400000381003603910037,
     1040100390411004004210041],
   [10302003208510203133300980141019708610194026102050611019808410206087102070881020808910209,
     109010210091102110921021209310213094102140951021509610216036102170374000009710202],
   [10101008500210123063101150051011613430260134302620061011701411388016111060251087202611107,
     10271139002811293029112940301011903110120032101210331111005410081034108730351139303610874,
     1037400000381111103910875040111120411012404210041],
   [103020000079301130493011603740000],
   [10308008608510907052103790141116908610905026114150681038006111170084111720871090908810910,
     10891091109010912091109130921091409310915094109160951091709610918036109190374000009711413],
   [101010087052103210681038203740000],
   [101010088052103790681038003740000],
   [10101008705210321049103610681038203740000],
   [101010089052103790681038003740000]]

def moves4 : List (List Nat) :=
  [[101010090052103210681038203740000],
   [1040700001353012303740000],
   [104010091136103880051117404810386069103871371038903740000],
   [10401009113610388005111740481038606910387061103931371038903740000],
   [104010091136103880051117406910387061103931371038903740000],
   [1040100911361038800511174069103871371038903740000],
   [1030200001383020103740000],
   [105040092028103940711039503740000],
   [106040093029103940721039603740000],
   [10101009411010929044100750531039701510406026114320281110802911109031103980374000010910404,
     104210041057103990581008605910400],
   [10101009500211500063113450051011600610117014113880161129102511238026111070271139002811293,
     10291129403010119031113460321012103311295034112390351139303611240037400000381111103910875,
     1040112960411149004210041],
   [101010096005101690731017003740000],
   [1010100970051016903740000],
   [1030200000793013803740000],
   [1010100000501041103740000],
   [10101009800210886063108840051135200610117014113880641011801611291025112380261134802711390,
     10281129302911294030101190311088503210121033112950541012203411239035113930361124003740000,
     10381111103910875040112960411088704210041],
   [10101009900210413044104120141017503740000],
   [1010100000501041503740000],
   [1010100000501041603740000],
   [101010100002104170141017503740000],
   [1010101010141017503740000],
   [1010101020051114503740000],
   [1010100000374000013910311],
   [10308003208511247014101970861124602610205061101980841020608711248088112490891125009011251,
     1091112520921125309311254094112550951125609611257036109190374000009711499],
   [10302010314030179014101970261020506110198084102190374000003810036],
   [10302010314130179014101970374000003810036],
   [10302003213030197014101970261020506110198084102060361021703740000],
   [1100100000374000014210422],
   [103020032143301980141019702610205061101980841020603740000],
   [1030200000793020303740000],
   [10101010400210891063110550051131000610117014113880161110602510872026112920271139002811293,
     10291129403010119031110560321012103311110034108730351139303610874037400000381111103910875,
     1040111120411087604210041],
   [10906010507710426037400000381042507810190],
   [10101010600210135063101330051113800611139014100130161001502510024026100250271002602810027,
     10291002803011140031101340321140303310032034100330351003403610035037400000381003603910037,
     1040100390411004004210041],
   [10101010700210135063101330051129000611139014100130161001502510024026100250271002602810027,
     10291002803011140031101340321140303310032034100330351003403610035037400000381003603910037,
     1040100390411004004210041],
   [10101010800210135063101330051113800611139014100130161001502510024026100250271002602810027,
     10291002803011140031101340321140303310032034100330351003403610035037400000381003603910037,
     1040100390411004004210041],
   [10201010910230212014113250611043103740000],
   [1010100001023021203740000],
   [10101011000210891063110550051131005210379006101170141138806410433016111060251087202611292,
     10271139002811293029112940301011903111056032101210331111005410434034108730351139303610874,
     1037400000381111103910875040111120411087604210041],
   [101010000002104380374000004010439],
   [101010000002104400374000004010441]]

def moves5 : List (List Nat) :=
  [[1030200000793017703740000],
   [1010100000833003703740000],
   [10101011100211500063113450051011600610117014113880161129102511238026111070271139002811293,
     10291129403010119031113460321012103311295034112390351139303611240037400000381111103910875,
     1040112960411149004210041],
   [10101011200210135063101330051113800611139014100130161001502510024026100250271002602810027,
     10291002803011140031101340321140303310032034100330351003403610035037400000381003603910037,
     1040100390411004004210041],
   [10101011300210135063101330051113800611139014100130161001502510024026100250271002602810027,
     10291002803011140031101340321140303310032034100330351003403610035037400000381003603910037,
     1040100390411004004210041],
   [10101011400210891063110550051131000610117014113880161110602510872026112920271139002811293,
     10291129403010119031110560321012103311110034108730351139303610874037400000381111103910875,
     1040111120411087604210041],
   [10101000000210440026104470374000004010441],
   [10101011500210135063101330051113800611139014100130161001502510024026100250271002602810027,
     10291002803011140031101340321140303310032034100330351003403610035037400000381003603910037,
     1040100390411004004210041],
   [10101011600210135063101330051113800611139014100130161001502510024026100250271002602810027,
     10291002803011140031101340321140303310032034100330351003403610035037400000381003603910037,
     1040100390411004004210041],
   [10101011700210135063101330051113800611139014100130161001502510024026100250271002602810027,
     10291002803011140031101340321140303310032034100330351003403610035037400000381003603910037,
     1040100390411004004210041],
   [10101011800210135063101330051113800611139014100130161001502510024026100250271002602810027,
     10291002803011140031101340321140303310032034100330351003403610035037400000381003603910037,
     1040100390411004004210041],
   [10101011900210135063101330051113800611139014100130161001502510024026100250271002602810027,
     10291002803011140031101340321140303310032034100330351003403610035037400000381003603910037,
     1040100390411004004210041],
   [10101012000210135063101330051113800611139014100130161001502510024026100250271002602810027,
     10291002803011140031101340321140303310032034100330351003403610035037400000381003603910037,
     1040100390411004004210041],
   [10101012100210135063101330051113800611139014100130161001502510024026100250271002602810027,
     10291002803011140031101340321140303310032034100330351003403610035037400000381003603910037,
     1040100390411004004210041],
   [10101012200210135063101330051113800611139014100130161001502510024026100250271002602810027,
     10291002803011140031101340321140303310032034100330351003403610035037400000381003603910037,
     1040100390411004004210041],
   [10101012300210135063101330051113800611139014100130161001502510024026100250271002602810027,
     10291002803011140031101340321140303310032034100330351003403610035037400000381003603910037,
     1040100390411004004210041],
   [10101012400210135063101330051113800611139014100130161001502510024026100250271002602810027,
     10291002803011140031101340321140303310032034100330351003403610035037400000381003603910037,
     1040100390411004004210041],
   [1030200000793019903740000],
   [101030125052102040663020003740000],
   [1010101260021044001410197026104470374000004010441],
   [1030200000793017703740000],
   [10101012700210891063110550051131005310460006101170141138801611106025108720261129202711390,
     10281129302911294030101190311105603210121033111100541043403410873035113930361087403740000,
     10381111103910875040111120411087604210041],
   [10401012800210465069104630701046403740000],
   [1030200000793011903740000],
   [1040701290051022109910469027114971001022203740000],
   [10101013000210135063101330051113800611139014100130161001502510024026100250271002602810027,
     10291002803011140031101340321140303310032034100330351003403610035037400000381003603910037,
     1040100390411004004210041],
   [10101013100210135063101330051129000611139014100130161001502510024026100250271002602810027,
     10291002803011140031101340321140303310032034100330351003403610035037400000381003603910037,
     1040100390411004004210041],
   [10101003614430247002302470022003800430247004200030053024700520004006302470062000500730247,
     10072000600830247008200070093024700920008010302470102000901130247011200100123024701220011,
     10133024701320012014302470142001301530247015200140163024701620015017302470172001601830247,
     10182001701930247019200180203024702020019021302470212002002230247022200210233024702320022,
     10243024702420023025302470252002402630247026200250273024702720026028302470282002702930247,
     10292002803030247030200290313024703120030032302470322003103330247033200320343024703420033,
     10353024703520034036302470362003503740000038302470382003603930247039200370403024704020039,
     1041302470412004004230247042200410433024704320042],
   [1010101320451047300810007047100090301006603110067032100680374000004210041],
   [10101013300210475005101690731017003740000],
   [10101003714530249037400000423024904220041],
   [10101013410610478028113490291135003740000],
   [101010135028111080291110903740000],
   [101030000015104810374000011310480],
   [1020200080021010714630096005101050491006502610106050100690513019103740000],
   [10202002500210177074101741473009601430096014101750491006503210176050100690513019103740000],
   [1010100000833000503740000],
   [10302003208510203014101970661048208610194026102050611019808410206087102070881020808910209,
     109010210091102110921021209310213094102140951021509610216036102170374000009710202],
   [101010037030102290374000004210041],
   [1010100000531048303740000]]

def moves6 : List (List Nat) :=
  [[1010300001483001203740000],
   [101010136052104840531048303740000],
   [101010000103104861113001603740000],
   [1010100000833008303740000],
   [10302003208510203133301880141019708610194026102050611019808410206087102070881020808910209,
     109010210091102110921021209310213094102140951021509610216036102170374000009710202],
   [101010137005113200731017003740000],
   [101010000002104900441048903740000],
   [1010100000021049103740000],
   [1010101380141017503740000],
   [1030200000793017103740000],
   [10302003208510203133301710141019708610194026102050611019808410206087102070881020808910209,
     109010210091102110921021209310213094102140951021509610216036102170374000009710202],
   [1010100000833000403740000],
   [1010100000021049303740000],
   [103020000079301020493010703740000],
   [10101013900210135063101330051113800611139014100130161001502510024026100250271002602810027,
     10291002803011140031101340321140303310032034100330351003403610035037400000381003603910037,
     1040100390411004004210041],
   [101010057052102890531049503740000],
   [101010058052102850531049603740000],
   [1010100000143024503740000],
   [10101014000210891063110550051131000610117014113880161110602510872026112920271139002811293,
     10291129403010119031110560321012103311110034108730351139303610874037400000381111103910875,
     1040111120411087604210041],
   [1010101410141017503740000],
   [1010100001113025611130259117302450491049903740000],
   [10101014200211052063110500051138205210321006101170141138801611106025108720261138106810946,
     10271139002811293029112940301011903111051032101210331111005410122034108730351139303610874,
     1037400000381111103910875040111120411105304210041],
   [10101004514910257044102721113025611130259117302450491049902610258028113490291135003740000,
     11091025905910284],
   [10101004511810257044102721113025611130259117302450491049902610258028113490291135003110283,
     1037400001091025905910284],
   [10101004510810257111302561113025911730245049104990261025802811349029113500374000010910259],
   [1010100001113025803740000],
   [1010100000491050003740000],
   [1010100001113025503740000],
   [10101005611010257044102960261025802811349029113500311029703740000109103020421004105710298,
     1058102991201030012110301],
   [1010100001503004503740000],
   [10308008608510907052103790141116908610905026114150681050106111170084111720871090908810910,
     10891091109010912091109130921091409310915094109160951091709610918036109190374000009711413],
   [101010000014302450501041103740000],
   [101010143108102570261025802811349029113500374000010910502],
   [101010000014302450501041503740000],
   [1010101431081025701430245026102580281134902911350050104110374000010910502],
   [10208000012430096151300961513023304910881050108820513019103740000],
   [10208007600211162074111611273009615130096151302330143009601410175049108810321035405010882,
     10513019103740000],
   [10208000012430095151300951513023204910903050109040513019003740000],
   [1030800001243009515130095151302320491090303740000],
   [10308014408510907125301940141116908610905026114150611117008411172087109090881091008910911,
     109010912091109130921091409310915094109160951091709610918036109190374000009711413]]

def moves7 : List (List Nat) :=
  [[102080000124300951513009515130232049109030513019003740000],
   [101010000151302320491090303740000],
   [10101014500210135063101330051113800611139014100130161001502510024026100250271002602810027,
     10291002803011140031101340321140303310032034100330351003403610035037400000381003603910037,
     1040100390411004004210041],
   [101010143149102570441050401430245026102580281134902911350037400001091050205910505],
   [10101014310810257014302450261025802811349029113500374000010910502],
   [101010146108105060051113411130257026102610281134902911350054101220374000010910320],
   [1010100001523010603740000],
   [101010058052102850531050703740000],
   [10101014700210135063101330051113800611139014100130161001502510024026100250271002602810027,
     10291002803011140031101340321140303310032034100330351003403610035037400000381003603910037,
     1040100390411004004210041],
   [10101014811010509044100751113025402610258028113490291135003110510054104340374000010910513,
     104210041057105110581008605910512],
   [1030200000793010103740000],
   [101010057052102890531051403740000],
   [10101014900210123063101150051011600610117014113880161110602510872026111070271139002811293,
     10291129403010119031101200321012103311110054101220341087303511393036108740374000003811111,
     103910875040111120411012404210041],
   [1010101500051013903740000],
   [101030000150300450374000011310519],
   [101010132045104730081000704710009014302450301006603110067032100680374000004210041],
   [101010151108102570261025802811349029113500374000010910520],
   [10101015214910257044105210143024502610258028113490291135003740000109105241201052212110523],
   [10101015311810257044105250143024502610258028113490291135003110526037400001091052912010527,
     112110528],
   [10101015411810257044105300261025802811349029113500311053103740000109105341201053212110533],
   [10101015510810257014302450261025802811349029113500374000010910535],
   [10101015610810257014302450261025802811349029113500374000010910536],
   [1010101570141017503740000],
   [10101005705230255052202890533025503740000],
   [10101005805230258052202850533025803740000],
   [1010100000021053803740000],
   [1010100000531053903740000],
   [1010100001043002903740000],
   [101010000103300181113003303740000],
   [1010100001031054003740000],
   [101010158052105410531053903740000],
   [1030200000793020803740000],
   [101010159044100960051009703740000],
   [10103016000710315015105450374000011310544],
   [1010100000833002103740000],
   [1010101610051054703740000],
   [1010300000661054903740000],
   [1010100000833007303740000],
   [1010101620521028505310550048302450491049903740000],
   [1010300001533010503740000]]

def moves8 : List (List Nat) :=
  [[1010100000481055103740000],
   [10101016300210886063108840051135213430262006101170141138801611291025112380261134802711390,
     10281129302911294030101190311088503210121033112950541012203411239035113930361124003740000,
     10381111103910875040112960411088704210041],
   [1010300001533011603740000],
   [10101016400210135063101330051113800611139014100130161001502510024026100250271002602810027,
     10291002803011140031101340321140303310032034100330351003403610035037400000381003603910037,
     1040100390411004004210041],
   [1010300001233004303740000],
   [1010100000833003803740000],
   [10101016500210107005101050261010603740000],
   [101030166052103260661055403740000],
   [1010100000833004003740000],
   [101030166052103260661055603740000],
   [101010167154300481551055703740000],
   [10101016804510559053105601561056103740000],
   [1010100000833005003740000],
   [1020800001573009608130096081105631581056304910881050108820513019103740000],
   [10101016900210564005101050261010603740000],
   [10208017000210565159300960051010508130096081105631581056304910881026101060501088205130191,
     103740000],
   [10101017000210565005101050261010603740000],
   [10208007600211162074111611603009601430096014101750813009608110563158105630491088103210354,
     1050108820513019103740000],
   [1020800001573009508130095081105661581056604910903050109040513019003740000],
   [103080000157300950813009508110566158105660491090303740000],
   [10101017100210891063110550051131000610117014113880151001401611106025108720261129202711390,
     10281129302911294030101190311105603210121033111100341087303511393036108740374000003811111,
     103910875040111120411087604210041],
   [10208000015730095081300950811056615810566049109030513019003740000],
   [10308007908510907052109080141116901510570086109050261141506111170084111720871090908810910,
     10891091109010912091109130921091409310915094109160951091709610918036109190374000009711413],
   [101010000161105660491090303740000],
   [1010100000151057003740000],
   [10101017200211437105114350051137600610117008105710091057201010573014113880161129102511238,
     10261137502711390028112930291129403010119031114360321012103311295034112390351139303611240,
     1037400000381111103910875040112960411143804210041],
   [10101017300210038004100030051000400610005007100060081000700910008010100090111001001210011,
     10131001201410013015100140161001501710016018100170191001802010019021100200221002102310022,
     10241002302510024026100250271002602810027029100280301002903110030032100310331003203410033,
     1035100340361003503740000038100360391003704010039041100400421004104310042],
   [1010100000833005903740000],
   [1010101740521007605310928117302450491049903740000],
   [1030800001623010012530100125301050493010503740000],
   [10101017514910257044102720521007605310928117302450491049902610258028113490291135003740000,
     11091025905910284],
   [10101017511810257044102720521007605310928117302450491049902610258028113490291135003110283,
     1037400001091025905910284],
   [10101017510810257052100760531092811730245049104990261025802811349029113500374000010910259],
   [101010176005111580731017003740000],
   [10101017700210578044105770141017503740000],
   [101010178002105790141017503740000],
   [1010101790141017503740000],
   [1020200001633009303740000],
   [10101018000210886063108840051135200610117014113880641058101611291025112380261134802711390,
     10281129302911294030101190311088503210121033112950541012203411239035113930361124003740000,
     10381111103910875040112960411088704210041],
   [1010100001263022603740000]]

def moves9 : List (List Nat) :=
  [[101010181052105840641058103740000],
   [10101018200210891063110550051131000610117014113880161110602510872026112920271139002811293,
     10291129403010119031110560321012103311110034108730351139303610874037400000381111103910875,
     1040111120411087604210041],
   [10101018300210587005111580731017003740000],
   [1010100000833006603740000],
   [1010101840141140103740000],
   [101030000150300440374000011310269],
   [101010185005101390141058903740000],
   [1010101860051013903740000],
   [101010187083300701321036703740000],
   [1010100000833007103740000],
   [1010100000833007503740000],
   [1010100000833007703740000],
   [1010100000833008003740000],
   [1010100000833008103740000],
   [10302003208510203133300990141019708610194026102050611019808410206087102070881020808910209,
     109010210091102110921021209310213094102140951021509610216036102170374000009710202],
   [10308014408510907164302610141116908610905026114150611117008411172087109090881091008910911,
     109010912091109130921091409310915094109160951091709610918036109190374000009711413],
   [1010100001343026303740000],
   [1010100001643026103740000],
   [101010000134302630491036103740000],
   [10101018800210891063110550051131016430260006101170141138801611106025108720261129202711390,
     10281129302911294030101190311105603210121033111100541043403410873035113930361087403740000,
     10381111103910875040111120411087604210041],
   [1030200000793011403740000],
   [101010089052103790681059303740000],
   [1010100001523011703740000],
   [101010090052103210681059403740000],
   [10101008905230261052203791653026103740000],
   [10101009005230263052203210683026303740000],
   [1040100001361059503740000],
   [1040700001353012403740000],
   [10401000016630133048103860491059603740000],
   [1030200000793013003740000],
   [1040100001663026503740000],
   [104010000166301320491059703740000],
   [1040101891361038800511174069105981371059903740000],
   [1010100000021060103740000],
   [1030200001383020203740000],
   [10504009202830270071302700712039503740000],
   [10604009302930271072302710722039603740000],
   [1030200001673021503740000],
   [101030045149102570441027216830245026102580281134902911350037400001091025905910284],
   [10103019011810929044102720051013916830245026114320281110802911109031109360374000010910603,
     105910937]]

def moves10 : List (List Nat) :=
  [[10103004510810257168302450261025802811349029113500374000010910259],
   [1010300000661060403740000],
   [1010100001693027303740000],
   [10101000017030273015302730152060403740000],
   [10103019101410175066302170491032303740000],
   [10101019211010929044102960261143202811108029111090311094103740000109106070421004105710606,
     1058102991201094212110943],
   [10101019311010929044100750531060801510609026114320281110802911109031103980374000010910404,
     104210041057103990581008605910400],
   [10308014408511247005301540141116908611246026114150611117008411172087112480881124908911250,
     109011251091112520921125309311254094112550951125609611257036109190374000009711499],
   [1010101940051016903740000],
   [10302000008330146112301390374000011310611],
   [1030200000793014003740000],
   [10101019500210135063101330051129000611139014100130161001502510024026100250271002602810027,
     10291002803011140031101340321140303310032034100330351003403610035037400000381003603910037,
     1040100390411004004210041],
   [101010196002106140141017503740000],
   [1010101970141017503740000],
   [1010101980051114503740000],
   [10101019900210135063101330051129000611139014100130161001502510024026100250271002602810027,
     10291002803011140031101340321140303310032034100330351003403610035037400000381003603910037,
     1040100390411004004210041],
   [10101020000210135063101330051129000611139014100130161001502510024026100250271002602810027,
     10291002803011140031101340321140303310032034100330351003403610035037400000381003603910037,
     1040100390411004004210041],
   [1010102010141017503740000],
   [1010102020051114503740000],
   [1010102030051114503740000],
   [1030200000793015503740000],
   [1030200000793018003740000],
   [111020000082302060374000017110625],
   [10308007908510907052109080531062601411169086109050261141506111170084111720871090908810910,
     10891091109010912091109130921091409310915094109160951091709610918036109190374000009711413],
   [1010100000531062603740000],
   [1030200000793020403740000],
   [109060105077302720772042603740000038302720783027207820190],
   [10302003208510203133301890141019708610194026102050611019808410206087102070881020808910209,
     109010210091102110921021209310213094102140951021509610216036102170374000009710202],
   [1030200000793017203740000],
   [10302003208510203133301720141019708610194026102050611019808410206087102070881020808910209,
     109010210091102110921021209310213094102140951021509610216036102170374000009710202],
   [10302003208510203172301960141019702610205061101980841020608910209093102130941021403610217,
     103740000],
   [1010100000021062703740000],
   [1010100001023021403740000],
   [1030200000793020903740000],
   [10101020400210891063110550051131000610117014113880161110602510872026112920271139002811293,
     10291129403010119031110560321012103311110034108730351139303610874037400000381111103910875,
     1040111120411087604210041],
   [10308020508510907052103790141116906410628086109050261141506111170084111720871090908810910,
     10891091109010912091109130921091409310915094109160951091709610918036109190374000009711413],
   [101010206052103790641062803740000],
   [101010089052103790641062803740000],
   [1020200001633018203740000],
   [1020200001633018303740000]]

end PageLint.Script.Grammar
