/-! Moves of the states, part 3 of 4. -/
namespace PageLint.Script.Grammar

def moves22 : List (List Nat) :=
  [[103080365203300940374000003811111],
   [10101036600210891063110550051131000610117014113880161110602510872026112920271139002811293,
     10291129403010119031110560321012103311110034108730351139303610874037400000381111103910875,
     1040111120411087604210041],
   [10101036700210891063110550051134700610117014113880161110602510872026112920271139002811293,
     10291129403010119031110560321012103311110034108730351139303610874037400000381111103910875,
     1040111120411087604210041],
   [1030200002043010020530044049301050374000011310269],
   [10208000012430096125302310493023104911241050112420513019103740000],
   [10208036800211322074113211273009612530231014300960141017504930231049112410321035405011242,
     10513019103740000],
   [10208000012430095125302300493023004911244050112450513019003740000],
   [1030800001243009512530230049302300491124403740000],
   [102080000124300951253023004930230049112440513019003740000],
   [1020200000823009604911241050100690513019103740000],
   [10202002500210177074101741293009601430096014101750491124103211441050100690513019103740000],
   [1020800002013009504910903050109040513019003740000],
   [10308014420630181014111690261141506111170084111720361091903740000],
   [10101036900210891063110550051131000610117014113880161110602510872026112920271139002811293,
     10291129403010119031110560321012103311110034108730351139303610874037400000381111103910875,
     1040111120411087604210041],
   [10308014408510907207300980141116908610905026114150611117008411172087109090881091008910911,
     109010912091109130921091409310915094109160951091709610918036109190374000009711413],
   [1030800001623011312530113125301160493011603740000],
   [1010300002083020103740000],
   [1030800001873013803740000],
   [10308037020930179014111690261141506111170084111730374000003811111],
   [10308037021030179014111690374000003811111],
   [10308014420630197014111690261141506111170084111720361091903740000],
   [103080144211301980141116902611415061111700841117203740000],
   [1030800001873020303740000],
   [10101037100210891063110550051131000610117014113880161110602510872026112920271139002811293,
     10291129403010119031110560321012103311110034108730351139303610874037400000381111103910875,
     1040111120411087604210041],
   [10101037200210891063110550051134700610117014113880161110602510872026112920271139002811293,
     10291129403010119031110560321012103311110034108730351139303610874037400000381111103910875,
     1040111120411087604210041],
   [10101037300210891063110550051131000610117014113880161110602510872026112920271139002811293,
     10291129403010119031110560321012103311110034108730351139303610874037400000381111103910875,
     1040111120411087604210041],
   [1030800001873017703740000],
   [10101037400210891063110550051131000610117014113880161110602510872026112920271139002811293,
     10291129403010119031110560321012103311110034108730351139303610874037400000381111103910875,
     1040111120411087604210041],
   [10101037500210891063110550051131000610117014113880161110602510872026112920271139002811293,
     10291129403010119031110560321012103311110034108730351139303610874037400000381111103910875,
     1040111120411087604210041],
   [10101037600210891063110550051131000610117014113880161110602510872026112920271139002811293,
     10291129403010119031110560321012103311110034108730351139303610874037400000381111103910875,
     1040111120411087604210041],
   [10101037700210891063110550051131000610117014113880161110602510872026112920271139002811293,
     10291129403010119031110560321012103311110034108730351139303610874037400000381111103910875,
     1040111120411087604210041],
   [10101037800210891063110550051131000610117014113880161110602510872026112920271139002811293,
     10291129403010119031110560321012103311110034108730351139303610874037400000381111103910875,
     1040111120411087604210041],
   [10101037900210891063110550051131000610117014113880161110602510872026112920271139002811293,
     10291129403010119031110560321012103311110034108730351139303610874037400000381111103910875,
     1040111120411087604210041],
   [10101038000210891063110550051131000610117014113880161110602510872026112920271139002811293,
     10291129403010119031110560321012103311110034108730351139303610874037400000381111103910875,
     1040111120411087604210041],
   [10101038100210891063110550051131000610117014113880161110602510872026112920271139002811293,
     10291129403010119031110560321012103311110034108730351139303610874037400000381111103910875,
     1040111120411087604210041],
   [10101038200210891063110550051131000610117014113880161110602510872026112920271139002811293,
     10291129403010119031110560321012103311110034108730351139303610874037400000381111103910875,
     1040111120411087604210041],
   [10101038300210891063110550051131000610117014113880161110602510872026112920271139002811293,
     10291129403010119031110560321012103311110034108730351139303610874037400000381111103910875,
     1040111120411087604210041],
   [10101038400210891063110550051131000610117014113880161110602510872026112920271139002811293,
     10291129403010119031110560321012103311110034108730351139303610874037400000381111103910875,
     1040111120411087604210041],
   [10101038500210891063110550051131000610117014113880161110602510872026112920271139002811293,
     10291129403010119031110560321012103311110034108730351139303610874037400000381111103910875,
     1040111120411087604210041],
   [1030800001873019903740000]]

def moves23 : List (List Nat) :=
  [[101010386052109082123020003740000],
   [1030800001873017703740000],
   [1030800001873011903740000],
   [10101038700210891063110550051131000610117014113880161110602510872026112920271139002811293,
     10291129403010119031110560321012103311110034108730351139303610874037400000381111103910875,
     1040111120411087604210041],
   [10101038800210891063110550051134700610117014113880161110602510872026112920271139002811293,
     10291129403010119031110560321012103311110034108730351139303610874037400000381111103910875,
     1040111120411087604210041],
   [10308014408510907207301880141116908610905026114150611117008411172087109090881091008910911,
     109010912091109130921091409310915094109160951091709610918036109190374000009711413],
   [1030800001873017103740000],
   [10308014408510907207301710141116908610905026114150611117008411172087109090881091008910911,
     109010912091109130921091409310915094109160951091709610918036109190374000009711413],
   [1030800001623010212530102125301070493010703740000],
   [1010300001683024503740000],
   [1030200001673004503740000],
   [102080000124300961253023304911241050112420513019103740000],
   [10208036800211322074113211273009612530233014300960141017504911241032103540501124205130191,
     103740000],
   [102080000124300951253023204911244050112450513019003740000],
   [10308000012430095125302320491124403740000],
   [1020800001243009512530232049112440513019003740000],
   [101030143149102570441050416830245026102580281134902911350037400001091050205910505],
   [10103014310810257168302450261025802811349029113500374000010910502],
   [1010300001533010603740000],
   [1030800001873010103740000],
   [103020000213300450374000011311004],
   [10103015214910257044105211683024502610258028113490291135003740000109105241201052212110523],
   [10103015510810257168302450261025802811349029113500374000010910535],
   [10103015610810257168302450261025802811349029113500374000010910536],
   [1030800001873020803740000],
   [1010100002143010503740000],
   [1010100002143011603740000],
   [10101038900211596063115900051011600610117014113880161158102511532026111070271139002811293,
     10291129403010119031115910321012103311582034115330351150203611534037400000381111103910875,
     1040115830411159204210041],
   [1010100510521007605310253117302450491049903740000],
   [103020000079301000493010503740000],
   [10101005214910257044102720521007605310253117302450491049902610258028113490291135003740000,
     11091025905910284],
   [10101005211810257044102720521007605310253117302450491049902610258028113490291135003110283,
     1037400001091025905910284],
   [10101005210810257052100760531025311730245049104990261025802811349029113500374000010910259],
   [1010100001993009303740000],
   [103020000213300440374000011310930],
   [10308014408510907207300990141116908610905026114150611117008411172087109090881091008910911,
     109010912091109130921091409310915094109160951091709610918036109190374000009711413],
   [1030800001873011403740000],
   [1010300001533011703740000],
   [1030800001873013003740000],
   [1010300002083020203740000]]

def moves24 : List (List Nat) :=
  [[1030800001873021503740000],
   [10302000020430139205301460374000011310611],
   [1030800001873014003740000],
   [10101039000210891063110550051134700610117014113880161110602510872026112920271139002811293,
     10291129403010119031110560321012103311110034108730351139303610874037400000381111103910875,
     1040111120411087604210041],
   [10101039100210891063110550051134700610117014113880161110602510872026112920271139002811293,
     10291129403010119031110560321012103311110034108730351139303610874037400000381111103910875,
     1040111120411087604210041],
   [10101039200210891063110550051134700610117014113880161110602510872026112920271139002811293,
     10291129403010119031110560321012103311110034108730351139303610874037400000381111103910875,
     1040111120411087604210041],
   [1030800001873015503740000],
   [1030800001873018003740000],
   [111080000215302060374000017111025],
   [1030800001873020403740000],
   [10308014408510907207301890141116908610905026114150611117008411172087109090881091008910911,
     109010912091109130921091409310915094109160951091709610918036109190374000009711413],
   [1030800001873017203740000],
   [10308014408510907207301720141116908610905026114150611117008411172087109090881091008910911,
     109010912091109130921091409310915094109160951091709610918036109190374000009711413],
   [10308014408510907216301960141116902611415061111700841117208910911093109150941091603610919,
     103740000],
   [1030800001873020903740000],
   [1020800002173018203740000],
   [1020800002173018303740000],
   [1020800002173018403740000],
   [1020800002173018503740000],
   [1030801442183019601411169026114150611117008411172094109160361091903740000],
   [10308014408510907219302690141116908610905026114150611117008411172087109090881091008910911,
     109010912091109130921091409310915094109160951091709610918036109190374000009711413],
   [10308014408510907220301960141116908610905026114150611117008411172089109110901091209110913,
     1092109140931091509410916095109170361091903740000],
   [10308014408510907221301960141116908610905026114150611117008411172087109090891091109010912,
     109110913092109140931091509410916095109170361091903740000],
   [10308014408510907222301960141116902611415061111700841117209310915094109160361091903740000],
   [10308014408510907223301960141116908610905026114150611117008411172089109110931091509410916,
     1095109170361091903740000],
   [10308014408510907224301960141116908610905026114150611117008411172089109110901091209310915,
     109410916095109170361091903740000],
   [10308014408510907225301960141116908610905026114150611117008411172089109110901091209110913,
     10931091509410916095109170361091903740000],
   [103080144085109072263019601411169026114150611117008411172094109160361091903740000],
   [1030801442183019601411169026114150611117008411172094109160361091903740000],
   [10308014408510907227301960141116908610905026114150611117008411172089109110931091509410916,
     10361091903740000],
   [10308014408510907228301960141116908610905026114150611117008411172087109090881091008910911,
     10901091209110913092109140931091509410916095109170361091903740000],
   [10101038605230269052209082123026903740000],
   [1030800001873017803740000],
   [1040100001663012103740000],
   [1030800001873012803740000],
   [1030800001873012003740000],
   [10308014408510907207301920141116908610905026114150611117008411172087109090881091008910911,
     109010912091109130921091409310915094109160951091709610918036109190374000009711413],
   [1030800001873017303740000],
   [10308014408510907207301730141116908610905026114150611117008411172087109090881091008910911,
     109010912091109130921091409310915094109160951091709610918036109190374000009711413],
   [1030800001873014103740000]]

def moves25 : List (List Nat) :=
  [[1030800001873010403740000],
   [1010300001533010903740000],
   [1010300001533010803740000],
   [1030800001873010303740000],
   [1030200001673004603740000],
   [10103023114910257044106661683024502610258028113490291135003740000109106691201066712110668],
   [10103023210810257168302450261025802811349029113500374000010910670],
   [10103023310810257168302450261025802811349029113500374000010910671],
   [1010100002143010703740000],
   [10302003208511414229301930141019708130193081114120261020523011412061101980841020608711416,
     10881141708911418090114190911142009211421093114220941142309511424096114250361021703740000,
     109711601],
   [1030200000793013903740000],
   [1030800001873011503740000],
   [1010300001533011803740000],
   [1030800001873013103740000],
   [1030800001873021603740000],
   [10302000020430142205301480374000011310736],
   [1030800001873017403740000],
   [10308014408510907207301740141116908610905026114150611117008411172087109090881091008910911,
     109010912091109130921091409310915094109160951091709610918036109190374000009711413],
   [1030800001873015603740000],
   [1030800001873017503740000],
   [10308014408510907207301750141116908610905026114150611117008411172087109090881091008910911,
     109010912091109130921091409310915094109160951091709610918036109190374000009711413],
   [1030800001873017603740000],
   [10308014408510907207301760141116908610905026114150611117008411172087109090881091008910911,
     109010912091109130921091409310915094109160951091709610918036109190374000009711413],
   [1030800001873016303740000],
   [10302000020430157205301590374000011310741],
   [1030800001873020703740000],
   [1030800001873021003740000],
   [10101039300210891063110550051131000610117014113880161110602510872026112920271139002811293,
     10291129403010119031110560321012103311110034108730351139303610874037400000381111103910875,
     1040111120411087604210041],
   [1020800002173018603740000],
   [1040100001663012203740000],
   [1030800001873012903740000],
   [10302000020430143205301490374000011310748],
   [1030800001873014403740000],
   [1010300001683024603740000],
   [1030200000793014203740000],
   [1030200000793015703740000],
   [1030200000793014303740000],
   [1030800001873016403740000],
   [10302000020430158205301610374000011310812],
   [10302000020430165205301670374000011310813]]

def moves26 : List (List Nat) :=
  [[1030800001873021103740000],
   [10308014408510907207301950141116908610905026114150611117008411172087109090881091008910911,
     109010912091109130921091409310915094109160951091709610918036109190374000009711413],
   [1020800002173018703740000],
   [10302000020430145205301520374000011310814],
   [1030200000793015803740000],
   [1030200000793016503740000],
   [1030200000793014503740000],
   [10302000020430166205301690374000011310855],
   [1030200000793016603740000],
   [10302000023130044049301050374000011310930],
   [102080000124300960523023104930231049108810683009606830231050108820513019103740000],
   [10208007600211162074111611273009605230231014300960141017504930231049108810683009606830231,
     103210354050108820513019103740000],
   [102080000124300950523023004930230049109030683009506830230050109040513019003740000],
   [10308000012430095052302300493023004910903068300950683023003740000],
   [1020800001243009505230230049302300491090306830095068302300513019003740000],
   [1020800002013009604910881050108820513019103740000],
   [10208007600211162074111612323009601430096014101750491088103210354050108820513019103740000],
   [103080000201301130493011603740000],
   [1030800001873020103740000],
   [1040700001353011903740000],
   [103080000201301020493010703740000],
   [1030800001873004503740000],
   [1010300000663010103740000],
   [103080000201301000493010503740000],
   [1020800002173009303740000],
   [103020000187300440374000011311061],
   [1040700001353013003740000],
   [1030800001873020203740000],
   [1010300002333021503740000],
   [111020000234302060374000017110625],
   [1010100001023020903740000],
   [1040700001353012803740000],
   [1040700001353012003740000],
   [1010300000663010403740000],
   [1010300000663010303740000],
   [1030800001873004603740000],
   [10308014408511541014111690813019308111540158301930261141523011540061111700841117208711542,
     10881154308911544090115450911154609211547093115480941154909511550096115510361091903740000,
     109711595],
   [1040700001353013103740000],
   [1010300002333021603740000],
   [1010100001023021003740000]]

def moves27 : List (List Nat) :=
  [[1040700001353012903740000],
   [1010100001023021103740000],
   [10302000018730044049301050374000011311061],
   [103080000124301131283011603740000],
   [1010100002353020103740000],
   [1040100001663011903740000],
   [103080000124301021283010703740000],
   [1010300002333004503740000],
   [103080000124301001283010503740000],
   [1010300002333009303740000],
   [101030000083300440374000011311087],
   [1040100001663013003740000],
   [1010100002353020203740000],
   [111080000236302060374000017111025],
   [1040100001663012803740000],
   [1040100001663012003740000],
   [1010300002333004603740000],
   [1040100001663013103740000],
   [1040100001663012903740000],
   [1030800001573011308130113081301162373011603740000],
   [1030800001573010208130102081301072373010703740000],
   [1030800001573010008130100081301052373010503740000],
   [1030800001243011323830116068301130683011603740000],
   [1030800001243010223830107068301020683010703740000],
   [1030800001243010023830105068301000683010503740000],
   [10101000400210083004100740441007500510004052100760531088300610005007100060081000700910078,
     10101000901110010012100110131001201410013015100140161001501710016018100170191001802010019,
     10211002002210021023100220241002302510024026100790271002602810027029100280301002903110080,
     10321003103310032054100810341003303510034036100350374000003810036055100820401008405610037,
     10411004004210041057100850581008605910087],
   [10101039400210891063110550051131000610117014113880161110602510872026112920271139002811293,
     10291129403010119031110560321012103311110034108730351139303610874037400000381111103910875,
     1040111120411087604210041],
   [10101039500210123063101150051011605210153006101170141138801611106025108720261110706810895,
     10271139002811293029112940301011903110120032101210331111005410081034108730351139303610874,
     1037400000381111103910875040111120411012404210041],
   [105040396028108960711115603740000],
   [106040397029108960721115703740000],
   [10701039800211494063112880051131000610117014113880161129102511238026112920271139006111165,
     10281129302911294030101190311128903210121033111100341123903511393036112400374000003811111,
     103910875040112960411149004210041],
   [10906039907711168037400000381090207810190],
   [1010100000811090503740000],
   [103020000079300950491124403740000],
   [10201014401411169061111700841117103740000],
   [10202000007930095049112440513019003740000],
   [1040704000051022109911176027114971001117503740000],
   [1020100000511092303740000],
   [1010100000491124403740000],
   [1010100000501092403740000]]

def moves28 : List (List Nat) :=
  [[10101040100211395004113830051110500610005007113840081000700911385010100090111138601210011,
     10131138701410013015100140161001501711389018100170191001802010019021100200221002102310022,
     10241002302510024026100250271002602810027029100280301139103111392032115050331003203410033,
     1035100340361003503740000038100360391003704010039041100400421004104311396],
   [10202040204410061045100620051006310730096053110600081000704710009014300960143024504830245,
     1048100640491025403010066031100670321006805010069051301910374000004210041],
   [10202040300210107114300960051010505311060014300960143024504830245048100640491025402610106,
     1050100690513019103740000],
   [10202040400210273115102710443009604410272116300960531106001430096014302450141017504830245,
     10481006404910254026300960261025802811349029113500321017605010069051301910374000010910259,
     105910274],
   [10202017407530095053110600143009501430245048302450481006404910282050101930513019003740000],
   [10202017511810257044300960441027211630096053110600143009601430245048302450481006404910254,
     102630096026102580281134902911350031102830501006905130191037400001091025905910284],
   [10202017510810257114300960531106001430096014302450483024504810064049102540263009602610258,
     1028113490291135005010069051301910374000010910259],
   [101010405052102850531093803740000],
   [101010406052102890531093903740000],
   [10101003600210038004100030051000405310940006100050071000600810007009100080101000901110010,
     10121001101310012014100130151001401610015017100160181001701910018020100190211002002210021,
     10231002202410023025100240261002502710026028100270291002803010029031100300321003103310032,
     103410033035100340361003503740000038100360391003704010039041100400421004104310042],
   [101010057052102890531093903740000],
   [101010058052102850531093803740000],
   [1010100000374000012210944],
   [10101040700211395004113830051110500610005007113840081000700911385010100090111138601210011,
     10131138701410013015100140161001501711389018100170191001802010019021100200221002102310022,
     10241002302510024026100250271002602810027029100280301139103111392032115050331003203410033,
     1035100340361003503740000038100360391003704010039041100400421004104311396],
   [10101040810811182005111340521028505310945026102610281134902911350054101220374000010910320],
   [10101040900210886063108840051135205210321006101170141138801611291025112380261134806810946,
     10271139002811293029112940301011903110885032101210331129505410122034112390351139303611240,
     1037400000381111103910875040112960411088704210041],
   [10101041000211395004113830051110500610005007113840081000700911385010100090111138601210011,
     10131138701410013015100140161001501711389018100170191001802010019021100200221002102310022,
     10241002302510024026100250271002602810027029100280301139103111392032115050331003203410033,
     1035100340361003503740000038100360391003704010039041100400421004104311396],
   [10101041100211395004113830051110500610005007113840081000700911385010100090111138601210011,
     10131138701410013015100140161001501711389018100170191001802010019021100200221002102310022,
     10241002302510024026100250271002602810027029100280301139103111392032115050331003203410033,
     1035100340361003503740000038100360391003704010039041100400421004104311396],
   [10101041211010948044100750051113405210076053109490261026102811349029113500311095005410081,
     1037400001091009104210041057109510581008605910952],
   [102010000060300200611009803740000],
   [10101002400211189005101690731017003740000],
   [10308007908510907052109080141116906410953086109050261141506111170084111720871090908810910,
     10891091109010912091109130921091409310915094109160951091709610918036109190374000009711413],
   [1010100000641095303740000],
   [1020200000823009504911244050101930513019003740000],
   [10101041300211395004113830051110500610005007113840081000700911385010100090111138601210011,
     10131138701410013015100140161001501711389018100170191001802010019021100200221002102310022,
     10241002302510024026100250271002602810027029100280301139103111392032115050331003203410033,
     1035100340361003503740000038100360391003704010039041100400421004104311396],
   [10101041400210038004100030051000405310954006100050071000600810007009100080101000901110010,
     10121001101310012014100130151001401610015017100160181001701910018020100190211002002210021,
     10231002202410023025100240261002502710026028100270291002803010029031100300321003103310032,
     103410033035100340361003503740000038100360391003704010039041100400421004104310042],
   [10308041508510907052103790141116908610905026114150681095606111170084111720871090908810910,
     10891091109010912091109130921091409310915094109160951091709610918036109190374000009711413],
   [101010416052103210681095703740000],
   [101010417052103790681095603740000],
   [10101041605210321049103610681095703740000],
   [101010089052103790681095603740000],
   [101010090052103210681095703740000],
   [104010418136103880051117404810386069103871371095803740000],
   [10401041813610388005111740481038606910387061103931371095803740000],
   [104010418136103880051117406910387061103931371095803740000],
   [1040104181361038800511174069103871371095803740000],
   [105040092028109590711039503740000],
   [106040093029109590721039603740000],
   [10101041911010929044100750531096001511194026114320281110802911109031103980374000010910404,
     104210041057103990581008605910400],
   [101010420005101690731017003740000]]

def moves29 : List (List Nat) :=
  [[1010104210051115803740000],
   [1010100000501096303740000],
   [1010100000501096403740000],
   [1010100000501096503740000],
   [1010104220051131303740000],
   [1010100000374000013910944],
   [10308014408511247014111690861124602611415061111700841117208711248088112490891125009011251,
     1091112520921125309311254094112550951125609611257036109190374000009711499],
   [1100100000374000014210968],
   [10906010507710426037400000381096907810190],
   [10101042300210891063110550051131005210379006101170141138806410974016111060251087202611292,
     10271139002811293029112940301011903111056032101210331111005410434034108730351139303610874,
     1037400000381111103910875040111120411087604210041],
   [101010000002109750374000004010976],
   [101010000002109770374000004010978],
   [10101000000210977026114540374000004010978],
   [1010104240021097701411169026114540374000004010978],
   [10101042500210891063110550051131005310993006101170141138801611106025108720261129202711390,
     10281129302911294030101190311105603210121033111100541043403410873035113930361087403740000,
     10381111103910875040111120411087604210041],
   [10401042600211208069109940701120703740000],
   [1040704270051022109910469027114971001117503740000],
   [101010057052102890531100003740000],
   [101010058052102850531100103740000],
   [101010058052102850531100203740000],
   [101010057052102890531100303740000],
   [101030000083300450374000011311096],
   [1010104280521028505311008048302450491049903740000],
   [10101042900211515063114060051113800611139014100130161150302511504026100250271002602810027,
     10291002803011140031114070321140303311506034115070351149803611394037400000381003603910037,
     1040115080411150904210041],
   [10101043000211395004113830051110500610005007113840081000700911385010100090111138601210011,
     10131138701410013015100140161001501711389018100170191001802010019021100200221002102310022,
     10241002302510024026100250271002602810027029100280301139103111392032115050331003203410033,
     1035100340361003503740000038100360391003704010039041100400421004104311396],
   [1010101740521007605311060117302450491049903740000],
   [10101017514910257044102720521007605311060117302450491049902610258028113490291135003740000,
     11091025905910284],
   [10101017511810257044102720521007605311060117302450491049902610258028113490291135003110283,
     1037400001091025905910284],
   [10101017510810257052100760531106011730245049104990261025802811349029113500374000010910259],
   [101010431005101690731017003740000],
   [10101013300211217005101690731017003740000],
   [101010089052103790681101103740000],
   [101010090052103210681101203740000],
   [1040101891361038800511174069105981371101303740000],
   [10101019311010929044100750531101401510609026114320281110802911109031103980374000010910404,
     104210041057103990581008605910400],
   [1010104320051016903740000],
   [1010104330051131303740000],
   [1010104340051131303740000],
   [1010104350051114503740000],
   [10308043608510907052103790141116906411026086109050261141506111170084111720871090908810910,
     10891091109010912091109130921091409310915094109160951091709610918036109190374000009711413]]

def moves30 : List (List Nat) :=
  [[101010437052103790641102603740000],
   [101010089052103790641102603740000],
   [10308014408511247014111690861124604811027026114150611117008411172087112480881124908911250,
     109011251091112520921125309311254094112550951125609611257036109190374000009711499],
   [10308007908510907052109080141116908610905026114150681102806111170084111720871090908810910,
     10891091109010912091109130921091409310915094109160951091709610918036109190374000009711413],
   [1010100000681102803740000],
   [10308007908510907052109080531102901411169086109050261141506111170084111720871090908810910,
     10891091109010912091109130921091409310915094109160951091709610918036109190374000009711413],
   [1010100000531102903740000],
   [101010000048103860691103003740000],
   [10401000004810386069110300611039303740000],
   [104010000069110300611039303740000],
   [1010100000691103003740000],
   [101010438005101690731017003740000],
   [1010104390051115803740000],
   [10308014408510907014111690861090502611415068110330611117008411172087109090881091008910911,
     109010912091109130921091409310915094109160951091709610918036109190374000009711413],
   [10101044000211395004113830051110500610005007113840081000700911385010100090111138601210011,
     10131138701410013015100140161001501711389018100170191001802010019021100200221002102310022,
     10241002302510024026100250271002602810027029100280301139103111392032115050331003203410033,
     1035100340361003503740000038100360391003704010039041100400421004104311396],
   [1010104410051016903740000],
   [1010104420051114503740000],
   [101010443005101690731017003740000],
   [1010104440051131303740000],
   [1010104450051114503740000],
   [1010104460051114503740000],
   [101010089052103790641104003740000],
   [10308007908510907052109080141116908610905026114150681104206111170084111720871090908810910,
     10891091109010912091109130921091409310915094109160951091709610918036109190374000009711413],
   [1010100000681104203740000],
   [1010104470051016903740000],
   [10101044800211395004113830051110500610005007113840081000700911385010100090111138601210011,
     10131138701410013015100140161001501711389018100170191001802010019021100200221002102310022,
     10241002302510024026100250271002602810027029100280301139103111392032115050331003203410033,
     1035100340361003503740000038100360391003704010039041100400421004104311396],
   [1010104490051114503740000],
   [1010104500051114503740000],
   [1010104510051016903740000],
   [1010104520051114503740000],
   [10101045300211395004113830051110500610005007113840081000700911385010100090111138601210011,
     10131138701410013015100140161001501711389018100170191001802010019021100200221002102310022,
     10241002302510024026100250271002602810027029100280301139103111392032115050331003203410033,
     1035100340361003503740000038100360391003704010039041100400421004104311396],
   [10101045400211395004113830051110500610005007113840081000700911385010100090111138601210011,
     10131138701410013015100140161001501711389018100170191001802010019021100200221002102310022,
     10241002302510024026100250271002602810027029100280301139103111392032115050331003203410033,
     1035100340361003503740000038100360391003704010039041100400421004104311396],
   [10101045500211395004113830051110500610005007113840081000700911385010100090111138601210011,
     10131138701410013015100140161001501711389018100170191001802010019021100200221002102310022,
     10241002302510024026100250271002602810027029100280301139103111392032115050331003203410033,
     1035100340361003503740000038100360391003704010039041100400421004104311396],
   [1010104560051114503740000],
   [10101045700211395004113830051110500610005007113840081000700911385010100090111138601210011,
     10131138701410013015100140161001501711389018100170191001802010019021100200221002102310022,
     10241002302510024026100250271002602810027029100280301139103111392032115050331003203410033,
     1035100340361003503740000038100360391003704010039041100400421004104311396],
   [10101045800211395004113830051110500610005007113840081000700911385010100090111138601210011,
     10131138701410013015100140161001501711389018100170191001802010019021100200221002102310022,
     10241002302510024026100250271002602810027029100280301139103111392032115050331003203410033,
     1035100340361003503740000038100360391003704010039041100400421004104311396],
   [10101045900211395004113830051110500610005007113840081000700911385010100090111138601210011,
     10131138701410013015100140161001501711389018100170191001802010019021100200221002102310022,
     10241002302510024026100250271002602810027029100280301139103111392032115050331003203410033,
     1035100340361003503740000038100360391003704010039041100400421004104311396],
   [10101046000211395004113830051110500610005007113840081000700911385010100090111138601210011,
     10131138701410013015100140161001501711389018100170191001802010019021100200221002102310022,
     10241002302510024026100250271002602810027029100280301139103111392032115050331003203410033,
     1035100340361003503740000038100360391003704010039041100400421004104311396],
   [10308046100211500063113450441124300510116006101170141138801611291239300970251123802611107,
     10271139002811293029112940301011903111346032101210331129503411239035113930361124003740000,
     10381111103910875040112960411149004210041],
   [10101046200211500063113450051011600610117014113880161129102511238026111070271139002811293,
     10291129403010119031113460321012103311295034112390351139303611240037400000381111103910875,
     1040112960411149004210041]]

def moves31 : List (List Nat) :=
  [[10101046300211500063113450051011600610117014113880161129102511238026111070271139002811293,
     10291129403010119031113460321012103311295034112390351139303611240037400000381111103910875,
     1040112960411149004210041],
   [10101046400211500063113450051011600610117014113880161129102511238026111070271139002811293,
     10291129403010119031113460321012103311295034112390351139303611240037400000381111103910875,
     1040112960411149004210041],
   [10101046500211500063113450051137400610117014113880161129102511238026111070271139002811293,
     10291129403010119031113460321012103311295034112390351139303611240037400000381111103910875,
     1040112960411149004210041],
   [10101046600211500063113450051011600610117014113880161129102511238026111070271139002811293,
     10291129403010119031113460321012103311295034112390351139303611240037400000381111103910875,
     1040112960411149004210041],
   [10101046700211500063113450051011600610117014113880161129102511238026111070271139002811293,
     10291129403010119031113460321012103311295034112390351139303611240037400000381111103910875,
     1040112960411149004210041],
   [10101046800211500063113450051137400610117014113880161129102511238026111070271139002811293,
     10291129403010119031113460321012103311295034112390351139303611240037400000381111103910875,
     1040112960411149004210041],
   [10101046900211500063113450051011600610117014113880161129102511238026111070271139002811293,
     10291129403010119031113460321012103311295034112390351139303611240037400000381111103910875,
     1040112960411149004210041],
   [10101047000211500063113450051011600610117014113880161129102511238026111070271139002811293,
     10291129403010119031113460321012103311295034112390351139303611240037400000381111103910875,
     1040112960411149004210041],
   [10101047100211500063113450051011600610117014113880161129102511238026111070271139002811293,
     10291129403010119031113460321012103311295034112390351139303611240037400000381111103910875,
     1040112960411149004210041],
   [10101047200211500063113450051011600610117014113880161129102511238026111070271139002811293,
     10291129403010119031113460321012103311295034112390351139303611240037400000381111103910875,
     1040112960411149004210041],
   [10101047300211500063113450051011600610117014113880161129102511238026111070271139002811293,
     10291129403010119031113460321012103311295034112390351139303611240037400000381111103910875,
     1040112960411149004210041],
   [10101047400211500063113450051011600610117014113880161129102511238026111070271139002811293,
     10291129403010119031113460321012103311295034112390351139303611240037400000381111103910875,
     1040112960411149004210041],
   [10101047500211500063113450051011600610117014113880161129102511238026111070271139002811293,
     10291129403010119031113460321012103311295034112390351139303611240037400000381111103910875,
     1040112960411149004210041],
   [10101047600211500063113450051011600610117014113880161129102511238026111070271139002811293,
     10291129403010119031113460321012103311295034112390351139303611240037400000381111103910875,
     1040112960411149004210041],
   [10101047700211500063113450051011600610117014113880161129102511238026111070271139002811293,
     10291129403010119031113460321012103311295034112390351139303611240037400000381111103910875,
     1040112960411149004210041],
   [10101047800211500063113450051011600610117014113880161129102511238026111070271139002811293,
     10291129403010119031113460321012103311295034112390351139303611240037400000381111103910875,
     1040112960411149004210041],
   [10101047900211500063113450051011600610117014113880161129102511238026111070271139002811293,
     10291129403010119031113460321012103311295034112390351139303611240037400000381111103910875,
     1040112960411149004210041],
   [10101048000211500063113450051011600610117014113880161129102511238026111070271139002811293,
     10291129403010119031113460321012103311295034112390351139303611240037400000381111103910875,
     1040112960411149004210041],
   [10101048100211500063113450051011600610117014113880161129102511238026111070271139002811293,
     10291129403010119031113460321012103311295034112390351139303611240037400000381111103910875,
     1040112960411149004210041],
   [10101048200211500063113450051137400610117014113880161129102511238026111070271139002811293,
     10291129403010119031113460321012103311295034112390351139303611240037400000381111103910875,
     1040112960411149004210041],
   [10308014408511247240301880141116908611246026114150611117008411172087112480881124908911250,
     109011251091112520921125309311254094112550951125609611257036109190374000009711499],
   [10308014408511247240301710141116908611246026114150611117008411172087112480881124908911250,
     109011251091112520921125309311254094112550951125609611257036109190374000009711499],
   [103020000187300450374000011311075],
   [10308014408511247240300990141116908611246026114150611117008411172087112480881124908911250,
     109011251091112520921125309311254094112550951125609611257036109190374000009711499],
   [10101048300211500063113450051137400610117014113880161129102511238026111070271139002811293,
     10291129403010119031113460321012103311295034112390351139303611240037400000381111103910875,
     1040112960411149004210041],
   [10101048400211500063113450051137400610117014113880161129102511238026111070271139002811293,
     10291129403010119031113460321012103311295034112390351139303611240037400000381111103910875,
     1040112960411149004210041],
   [10101048500211500063113450051137400610117014113880161129102511238026111070271139002811293,
     10291129403010119031113460321012103311295034112390351139303611240037400000381111103910875,
     1040112960411149004210041],
   [10308014408511247240301890141116908611246026114150611117008411172087112480881124908911250,
     109011251091112520921125309311254094112550951125609611257036109190374000009711499],
   [10308014408511247240301720141116908611246026114150611117008411172087112480881124908911250,
     109011251091112520921125309311254094112550951125609611257036109190374000009711499],
   [10308014408511247241301960141116902611415061111700841117208911250093112540941125503610919,
     103740000],
   [1030801442423019601411169026114150611117008411172094112550361091903740000],
   [10308014408511247243301960141116908611246026114150611117008411172089112500901125109111252,
     1092112530931125409411255095112560361091903740000],
   [10308014408511247244301960141116908611246026114150611117008411172087112480891125009011251,
     109111252092112530931125409411255095112560361091903740000],
   [10308014408511247245301960141116902611415061111700841117209311254094112550361091903740000],
   [10308014408511247246301960141116908611246026114150611117008411172089112500931125409411255,
     1095112560361091903740000],
   [10308014408511247247301960141116908611246026114150611117008411172089112500901125109311254,
     109411255095112560361091903740000],
   [10308014408511247248301960141116908611246026114150611117008411172089112500901125109111252,
     10931125409411255095112560361091903740000],
   [103080144085112472493019601411169026114150611117008411172094112550361091903740000],
   [1030801442423019601411169026114150611117008411172094112550361091903740000],
   [10308014408511247250301960141116908611246026114150611117008411172089112500931125409411255,
     10361091903740000]]

def moves32 : List (List Nat) :=
  [[10308014408511247251301960141116908611246026114150611117008411172087112480881124908911250,
     10901125109111252092112530931125409411255095112560361091903740000],
   [10308014408511247240301920141116908611246026114150611117008411172087112480881124908911250,
     109011251091112520921125309311254094112550951125609611257036109190374000009711499],
   [10308014408511247240301730141116908611246026114150611117008411172087112480881124908911250,
     109011251091112520921125309311254094112550951125609611257036109190374000009711499],
   [10308014408511247240301740141116908611246026114150611117008411172087112480881124908911250,
     109011251091112520921125309311254094112550951125609611257036109190374000009711499],
   [10308014408511247240301750141116908611246026114150611117008411172087112480881124908911250,
     109011251091112520921125309311254094112550951125609611257036109190374000009711499],
   [10308014408511247240301760141116908611246026114150611117008411172087112480881124908911250,
     109011251091112520921125309311254094112550951125609611257036109190374000009711499],
   [10101048600211500063113450051011600610117014113880161129102511238026111070271139002811293,
     10291129403010119031113460321012103311295034112390351139303611240037400000381111103910875,
     1040112960411149004210041],
   [10308014408511247240301950141116908611246026114150611117008411172087112480881124908911250,
     109011251091112520921125309311254094112550951125609611257036109190374000009711499],
   [1020800002013009604911241050108820513019103740000],
   [10208007600211162074111612323009601430096014101750491124103210354050108820513019103740000],
   [10101048700210083004100740441007500510004052100760531104900610005007100060081000700910078,
     10101000901110010012100110131001201410013015100140161001501710016018100170191001802010019,
     10211002002210021023100220241002302510024026100790271002602810027029100280301002903110080,
     10321003103310032054100810341003303510034036100350374000003810036055100820401008405610037,
     10411004004210041057100850581008605910087],
   [10101048800211500063113450051011600610117014113880161129102511238026111070271139002811293,
     10291129403010119031113460321012103311295034112390351139303611240037400000381111103910875,
     1040112960411149004210041],
   [10101039500210123063101150051011605210153006101170141138801611106025108720261110706811057,
     10271139002811293029112940301011903110120032101210331111005410081034108730351139303610874,
     1037400000381111103910875040111120411012404210041],
   [105040489028110580711131803740000],
   [106040490029110580721131903740000],
   [10701049100211500063113450051011600610117014113880161129102511238026111070271139006111165,
     10281129302911294030101190311134603210121033112950341123903511393036112400374000003811111,
     103910875040112960411149004210041],
   [1010100000811124603740000],
   [1040704920051022109911327027114971001132603740000],
   [1020100000511125803740000],
   [1010100000491090303740000],
   [1010100000501125903740000],
   [10202040204410061045100620051006310730096053109280081000704710009014300960143024504830245,
     1048100640491025403010066031100670321006805010069051301910374000004210041],
   [10202040300210107114300960051010505310928014300960143024504830245048100640491025402610106,
     1050100690513019103740000],
   [10202040400210273115102710443009604410272116300960531092801430096014302450141017504830245,
     10481006404910254026300960261025802811349029113500321017605010069051301910374000010910259,
     105910274],
   [10202017407530095053109280143009501430245048302450481006404910282050101930513019003740000],
   [10202017511810257044300960441027211630096053109280143009601430245048302450481006404910254,
     102630096026102580281134902911350031102830501006905130191037400001091025905910284],
   [10202017510810257114300960531092801430096014302450483024504810064049102540263009602610258,
     1028113490291135005010069051301910374000010910259],
   [101010493052102890531106203740000],
   [10101003600210038004100030051000405311262006100050071000600810007009100080101000901110010,
     10121001101310012014100130151001401610015017100160181001701910018020100190211002002210021,
     10231002202410023025100240261002502710026028100270291002803010029031100300321003103310032,
     103410033035100340361003503740000038100360391003704010039041100400421004104310042],
   [101010057052102890531106203740000],
   [10101007411011185044100750051113405210076053110630261026102811349029113500311118605410081,
     1037400001091009104210041057111870581008605911188],
   [10308007908510907052109080141116906411064086109050261141506111170084111720871090908810910,
     10891091109010912091109130921091409310915094109160951091709610918036109190374000009711413],
   [1010100000641106403740000],
   [10101049400210038004100030051000405311065006100050071000600810007009100080101000901110010,
     10121001101310012014100130151001401610015017100160181001701910018020100190211002002210021,
     10231002202410023025100240261002502710026028100270291002803010029031100300321003103310032,
     103410033035100340361003503740000038100360391003704010039041100400421004104310042],
   [104010495136103880051117404810386069103871371106603740000],
   [10401049513610388005111740481038606910387061103931371106603740000],
   [104010495136103880051117406910387061103931371106603740000],
   [1040104951361038800511174069103871371106603740000],
   [105040092028110670711039503740000],
   [106040093029110670721039603740000]]

end PageLint.Script.Grammar
