/-! Moves of the states, part 2 of 4. -/
namespace PageLint.Script.Grammar

def moves11 : List (List Nat) :=
  [[1020200001633018403740000],
   [1020200001633018503740000],
   [10308014408511247014111690861124604810630026114150611117008411172087112480881124908911250,
     109011251091112520921125309311254094112550951125609611257036109190374000009711499],
   [1030200321733019601410197026102050611019808410206094102140361021703740000],
   [10302003208510203123302690141019708610194026102050611019808410206087102070881020808910209,
     109010210091102110921021209310213094102140951021509610216036102170374000009710202],
   [10308007908510907052109080141116908610905026114150681063106111170084111720871090908810910,
     10891091109010912091109130921091409310915094109160951091709610918036109190374000009711413],
   [1010100000681063103740000],
   [10101020700210891063110550051131000610117014113880161110602510872026112920271139002811293,
     10291129403010119031110560321012103311110034108730351139303610874037400000381111103910875,
     1040111120411087604210041],
   [10302003208510203174301960141019708610194026102050611019808410206089102090901021009110211,
     1092102120931021309410214095102150361021703740000],
   [10302003208510203175301960141019708610194026102050611019808410206087102070891020909010210,
     109110211092102120931021309410214095102150361021703740000],
   [10302003208510203176301960141019702610205061101980841020609310213094102140361021703740000],
   [10302003208510203177301960141019708610194026102050611019808410206089102090931021309410214,
     1095102150361021703740000],
   [10302003208510203178301960141019708610194026102050611019808410206089102090901021009310213,
     109410214095102150361021703740000],
   [10302003208510203179301960141019708610194026102050611019808410206089102090901021009110211,
     10931021309410214095102150361021703740000],
   [103020032085102031803019601410197026102050611019808410206094102140361021703740000],
   [1030200321733019601410197026102050611019808410206094102140361021703740000],
   [10302003208510203181301960141019708610194026102050611019808410206089102090931021309410214,
     10361021703740000],
   [10302003208510203182301960141019708610194026102050611019808410206087102070881020808910209,
     10901021009110211092102120931021309410214095102150361021703740000],
   [10103012505230269052202040663026903740000],
   [1030200000793017803740000],
   [1040700001353012103740000],
   [10308007908510907052109080531063401411169086109050261141506111170084111720871090908810910,
     10891091109010912091109130921091409310915094109160951091709610918036109190374000009711413],
   [1010100000531063403740000],
   [1030200000793012803740000],
   [101010000048103860691063503740000],
   [10401000004810386069106350611039303740000],
   [104010000069106350611039303740000],
   [1010100000691063503740000],
   [1030200000793012003740000],
   [1040702080053026400520221099302640992046902730264027214971003026403740000],
   [10302003208510203133301920141019708610194026102050611019808410206087102070881020808910209,
     109010210091102110921021209310213094102140951021509610216036102170374000009710202],
   [1030200000793017303740000],
   [10302003208510203133301730141019708610194026102050611019808410206087102070881020808910209,
     109010210091102110921021209310213094102140951021509610216036102170374000009710202],
   [10101020900210135105101330051113800611139008100070091023401010009014100130161001502510024,
     10261002502710026028100270291002803010029031102350321003103310032034100330351003403610035,
     1037400000381003603910037040100390411004004210041],
   [1010100000833000603740000],
   [101010210005101690731017003740000],
   [1010102110051016903740000],
   [1030200000793014103740000],
   [1010100001043001103740000],
   [1010300001833002703740000]]

def moves12 : List (List Nat) :=
  [[1010100000833000703740000],
   [1010100000833000703740000],
   [1010100000833000803740000],
   [1010300001483001303740000],
   [1010102121061024205310641028113490291135003740000],
   [101010213052106430531064103740000],
   [10101021410610645028113490291135003740000],
   [1010102150051132003740000],
   [101030000083301460374000011310611],
   [1010100000021064703740000],
   [1010102160141017503740000],
   [1010102170141017503740000],
   [1010102180051135503740000],
   [101010219005113200731017003740000],
   [10302003208510203052301120523018805330112014101970663018808610194026102050611019808410206,
     10871020708810208089102090901021009110211092102120931021309410214095102150961021603610217,
     10374000009710202],
   [1030200000793010403740000],
   [1010100001523010903740000],
   [10308014408510907014111690861090502611415068106530611117008411172087109090881091008910911,
     109010912091109130921091409310915094109160951091709610918036109190374000009711413],
   [1010102200051013903740000],
   [10101022100210891063110550051131000610117014113880161110602510872026112920271139002811293,
     10291129403010119031110560321012103311110034108730351139303610874037400000381111103910875,
     1040111120411087604210041],
   [10101022200210891063110550051131000610117014113880161110602510872026112920271139002811293,
     10291129403010119031110560321012103311110034108730351139303610874037400000381111103910875,
     1040111120411087604210041],
   [1030200000753011401430114014302460483024603740000],
   [1010102230141017503740000],
   [10302003208510203052301120523018905330112014101970663018908610194026102050611019808410206,
     10871020708810208089102090901021009110211092102120931021309410214095102150961021603610217,
     10374000009710202],
   [101010224108102570261025802811349029113500374000010910658],
   [10101022410810257014302450261025802811349029113500374000010910658],
   [10101000011130259048302450491049903740000],
   [1010100001523010803740000],
   [10302003208510203052301110523018905330111014101970663018908610194026102050611019808410206,
     10871020708810208089102090901021009110211092102120931021309410214095102150961021603610217,
     10374000009710202],
   [101010000111302561173024503740000],
   [10101004514910257044102721113025611730245026102580281134902911350037400001091025905910284],
   [10101004511810257044102721113025611730245026102580281134902911350031102830374000010910259,
     105910284],
   [1010100451081025711130256117302450261025802811349029113500374000010910259],
   [101010055014101750481065903740000],
   [1030200000793010303740000],
   [10308014408510907111302420141116908610905026114150611117008411172087109090881091008910911,
     109010912091109130921091409310915094109160951091709610918036109190374000009711413],
   [1010100001113024303740000],
   [101010000111302430491036103740000],
   [1010100001843023403740000],
   [1010100001503004603740000]]

def moves13 : List (List Nat) :=
  [[1010102250141017503740000],
   [101010226108102570261025802811349029113500374000010910661],
   [10101022710810257014302450261025802811349029113500374000010910662],
   [10101022810810257014302450261025802811349029113500374000010910663],
   [1010102290141017503740000],
   [101010230108102570261025802811349029113500374000010910665],
   [10101023114910257044106660143024502610258028113490291135003740000109106691201066712110668],
   [10101023210810257014302450261025802811349029113500374000010910670],
   [10101023310810257014302450261025802811349029113500374000010910671],
   [1010102340141017503740000],
   [101010235108102570261025802811349029113500374000010910673],
   [10101023614910257044106740143024502610258028113490291135003740000109106771201067512110676],
   [10101023710810257014302450261025802811349029113500374000010910678],
   [10101023810810257014302450261025802811349029113500374000010910679],
   [1010102390141017503740000],
   [1010102400141017503740000],
   [1010102410141017503740000],
   [1010102420051013903740000],
   [1010100001043002803740000],
   [1010100001043003003740000],
   [1010100000021068403740000],
   [101010243002103080451030905310685028113490291135003740000],
   [101010244052106870531068503740000],
   [1010100001043002603740000],
   [1010100000833002303740000],
   [1010100000833002303740000],
   [101030000015106900374000011310689],
   [10101024511010691044100750521028905310692026102580281134902911350031106930541043403740000,
     11091051304210041057106940581008605910695],
   [1010300000663003503740000],
   [1010100000833002203740000],
   [1010300001533010703740000],
   [10101024600210886063108840051135200610117014113880161129102511238026113480271139002811293,
     10291129403010119031108850321012103311295054101220341123903511393036112400374000003811111,
     103910875040112960411088704210041],
   [10302003208510203123301930141019708610194026102050611019808410206087102070881020808910209,
     109010210091102110921021209310213094102140951021509610216036102170374000009710202],
   [1010300001233025203740000],
   [1010100000833003903740000],
   [10103016605230252052203260663025203740000],
   [1010100000833004103740000],
   [10101024700210038004100030051000400610005007100060081000700910008010100090111001001210011,
     10131001201410013015100140161001501710016018100170191001802010019021100200221002102310022,
     10241002302510024026100250271002602810027029100280301002903110030032100310331003203410033,
     1035100340361003503740000038100360391003704010039041100400421004104310042],
   [1010100000833004903740000],
   [1010100000481069703740000]]

def moves14 : List (List Nat) :=
  [[1010100000833008403740000],
   [10101024800210891063110550051131000610117014113880161110602510872026112920271139002811293,
     10291129403010119031110560321012103311110034108730351139303610874037400000381111103910875,
     1040111120411087604210041],
   [10101024904510559053107001561056103740000],
   [10101025000210891063110550051131000610117014113880161110602510872026112920271139002811293,
     10291129403010119031110560321012103311110034108730351139303610874037400000381111103910875,
     1040111120411087604210041],
   [10103025112330042161107040491118303740000],
   [101030066185300421611070404910323037400001133004211310706],
   [10101025200210891063110550051131000610117014113880161110602510872026112920271139002811293,
     10291129403010119031110560321012103311110034108730351139303610874037400000381111103910875,
     1040111120411087604210041],
   [10101025300210891063110550051131000610117014113880641070901611106025108720261129202711390,
     10281129302911294030101190311105603210121033111100341087303511393036108740374000003811111,
     103910875040111120411087604210041],
   [10308007908510907052109080141116901510712086109050261141506111170084111720871090908810910,
     10891091109010912091109130921091409310915094109160951091709610918036109190374000009711413],
   [1010100000151071203740000],
   [10101025400210891063110550051131000610117014113880151001401611106025108720261129202711390,
     10281129302911294030101190311105603210121033111100341087303511393036108740374000003811111,
     103910875040111120411087604210041],
   [10101025500210716005111340261113503740000],
   [10208025600210717186300960051010508130096081105631581056304911241026300960261010605011242,
     10513019103740000],
   [10101025600210717005101050261010603740000],
   [1010100000833006003740000],
   [1010102570051115803740000],
   [1030800001873013903740000],
   [101010258002107190141017503740000],
   [1010102590141017503740000],
   [1010102600141017503740000],
   [1010102610051131303740000],
   [1010100001263022703740000],
   [1010100001883027603740000],
   [101010000188302760491036103740000],
   [10101018000210886063108840051135200610117014113880641072301611291025112380261134802711390,
     10281129302911294030101190311088503210121033112950541012203411239035113930361124003740000,
     10381111103910875040112960411088704210041],
   [10101018105230276052207240643027603740000],
   [10308014408510907125301100141116908610905026114150611117008411172087109090881091008910911,
     109010912091109130921091409310915094109160951091709610918036109190374000009711413],
   [101010262005111580731017003740000],
   [101030000189300670661072703740000],
   [10101026300210728005111340261113503740000],
   [1010100001903009003740000],
   [1010100000833009203740000],
   [1010100000833007203740000],
   [1030200000793011503740000],
   [1010100001523011803740000],
   [1040100001913012703740000],
   [1010102640051117402711501028107290291073003740000],
   [1010102650051117402711501028107290291073003740000],
   [1040700001353012503740000],
   [1030200000793013103740000]]

def moves15 : List (List Nat) :=
  [[104010189136302661362038800530266005211741923026603740000],
   [1040100001933012603740000],
   [1010100001693022903740000],
   [10103026601410175066302180491032303740000],
   [1010100001693027403740000],
   [1010300000663021903740000],
   [10103026711810929044105251683024502611432028111080291110903111005037400001091073412011006,
     112111007],
   [10103026801410175066302200491032303740000],
   [1030200001673021603740000],
   [10101019311030275110209290443027504420075053302750153027501520609026302750262143202830275,
     10282110802930275029211090313027503120398037400001093027510920404042302750422004105730275,
     10572039905830275058200860593027505920400],
   [10302000008330148112301420374000011310736],
   [1010100000833014703740000],
   [1030200000793017403740000],
   [10302003208510203133301740141019708610194026102050611019808410206087102070881020808910209,
     109010210091102110921021209310213094102140951021509610216036102170374000009710202],
   [1010102690141017503740000],
   [1010102700051114503740000],
   [1010102710051114503740000],
   [1030200000793015603740000],
   [1030200000793017503740000],
   [10302003208510203133301750141019708610194026102050611019808410206087102070881020808910209,
     109010210091102110921021209310213094102140951021509610216036102170374000009710202],
   [1030200000793017603740000],
   [10302003208510203133301760141019708610194026102050611019808410206087102070881020808910209,
     109010210091102110921021209310213094102140951021509610216036102170374000009710202],
   [1010102720051114503740000],
   [1030200000793016303740000],
   [10302000008330159112301570374000011310741],
   [1030200000793020703740000],
   [1090600001943020503740000],
   [1020100001953021303740000],
   [1030200000793021003740000],
   [101010089052103790641074203740000],
   [10101027300210135063101330051113800611139014100130161001502510024026100250271002602810027,
     10291002803011140031101340321140303310032034100330351003403610035037400000381003603910037,
     1040100390411004004210041],
   [1020200001633018603740000],
   [10308007908510907052109080141116908610905026114150681074406111170084111720871090908810910,
     10891091109010912091109130921091409310915094109160951091709610918036109190374000009711413],
   [1010100000681074403740000],
   [1040700001353012203740000],
   [1030200000793012903740000],
   [1010100000833000903740000],
   [10302003208510203014101970151074608610194026102050611019808410206087102070881020808910209,
     10901021009110211092102120931021309410214095102150961021603610217037400001131074509710202],
   [1010102740051016903740000],
   [10302000008330149112301430374000011310748]]

def moves16 : List (List Nat) :=
  [[1030200000793014403740000],
   [1010300001483001403740000],
   [1010100001113025003740000],
   [1010102121061024205310749028113490291135003740000],
   [10101021305230250052207500533025003740000],
   [1010100001113001703740000],
   [101030000083301480374000011310736],
   [1010102750141017503740000],
   [1010102760051135503740000],
   [1010102770051135503740000],
   [101030000083301590374000011310741],
   [1010102780051132003740000],
   [101030000083301490374000011310748],
   [1010100001173024603740000],
   [1010100001843023503740000],
   [10308014408510907111301120141116908610905026114150611117008411172087109090881091008910911,
     109010912091109130921091409310915094109160951091709610918036109190374000009711413],
   [10308014408510907111301110141116908610905026114150611117008411172087109090881091008910911,
     109010912091109130921091409310915094109160951091709610918036109190374000009711413],
   [1010102790051013903740000],
   [1010102800141017503740000],
   [10101028100210891063110550051131000610117014113880161110602510872026112920271139002811293,
     10291129403010119031110560321012103311110034108730351139303610874037400000381111103910875,
     1040111120411087604210041],
   [1010102820051013903740000],
   [1010102830141017503740000],
   [1010102840141017503740000],
   [1010102850141017503740000],
   [1010102860051013903740000],
   [1010102870141017503740000],
   [101010288108102570261025802811349029113500374000010910763],
   [10101028910810257014302450261025802811349029113500374000010910764],
   [10101029010810257014302450261025802811349029113500374000010910765],
   [1010102910141017503740000],
   [1010102920141017503740000],
   [1010102930141017503740000],
   [1010102940051013903740000],
   [1010102950141017503740000],
   [101010296108102570261025802811349029113500374000010910771],
   [10101029710810257014302450261025802811349029113500374000010910772],
   [10101029810810257014302450261025802811349029113500374000010910773],
   [1010102990141017503740000],
   [1010103000141017503740000],
   [1010103010141017503740000]]

def moves17 : List (List Nat) :=
  [[1010103020051013903740000],
   [1010103030051013903740000],
   [1010103040051013903740000],
   [1010100001843023603740000],
   [1010100001113003403740000],
   [1010100001043003103740000],
   [1010100001113025103740000],
   [101010243002103080451030905310780028113490291135003740000],
   [10101024405230251052207810533025103740000],
   [1010100000833002403740000],
   [1010100000833002403740000],
   [10101030505210289053107821173024503740000],
   [1010300000663010003740000],
   [10101030614910257044102720521028905310782117302450261025802811349029113500374000010910259,
     105910284],
   [10101030611810257044102720521028905310782117302450261025802811349029113500311028303740000,
     11091025905910284],
   [101010306108102570521028905310782117302450261025802811349029113500374000010910259],
   [1010100000833004703740000],
   [10101030700210038004100031963008800510004006100050071000600810007009100080101000901110010,
     10121001101310012014100130151001401610015017100160181001701910018020100190211002002210021,
     10231002202410023025100240261002502710026028100270291002803010029031100300321003103310032,
     103410033035100340361003503740000038100360391003704010039041100400421004104310042],
   [10308007908510907052109080141116908610905048107840261141506111170084111720871090908810910,
     10891091109010912091109130921091409310915094109160951091709610918036109190374000009711413],
   [1010100000481078403740000],
   [1010100000833008503740000],
   [101010249045302530452055905330253156302531562056103740000],
   [10308007908510907052109080141116906410785086109050261141506111170084111720871090908810910,
     10891091109010912091109130921091409310915094109160951091709610918036109190374000009711413],
   [1010100000641078503740000],
   [10101030800210891063110550051131000610117014113880161110602510872026112920271139002811293,
     10291129403010119031110560321012103311110034108730351139303610874037400000381111103910875,
     1040111120411087604210041],
   [10103000012330043081107881581078903740000],
   [1010100001611079003740000],
   [10308007908510907052109080141116906410791086109050261141506111170084111720871090908810910,
     10891091109010912091109130921091409310915094109160951091709610918036109190374000009711413],
   [1010100000641079103740000],
   [10101030900210038004100030051000400610005007100060081000700910008010100090111001001210011,
     10131001201410013015100140161001501710016018100170191001802010019021100200221002102310022,
     10241002302510024026100250271002602810027029100280301002903110030032100310331003203410033,
     1035100340361003503740000038100360391003704010039041100400421004104310042],
   [10308007908510907052109080141116906410793086109050261141506111170084111720871090908810910,
     10891091109010912091109130921091409310915094109160951091709610918036109190374000009711413],
   [1010100000641079303740000],
   [10101031000210891063110550051131000610117014113880641079401611106025108720261129202711390,
     10281129302911294030101190311105603210121033111100341087303511393036108740374000003811111,
     103910875040111120411087604210041],
   [10101031100210891063110550051131000610117014113880641079701611106025108720261129202711390,
     10281129302911294030101190311105603210121033111100341087303511393036108740374000003811111,
     103910875040111120411087604210041],
   [10308007908510907052109080141116901510800086109050261141506111170084111720871090908810910,
     10891091109010912091109130921091409310915094109160951091709610918036109190374000009711413],
   [1010100000151080003740000],
   [101010312161107040491094703740000],
   [101030000161107040374000011310706],
   [1030800001873014203740000],
   [1010103130141017503740000]]

def moves18 : List (List Nat) :=
  [[1010103140051131303740000],
   [1010103150051131303740000],
   [1030800001873015703740000],
   [1010100001263022803740000],
   [10101018000210886063108840051135200610117014113880161129102511238026113480271139002811293,
     10291129403010119031108850321012103311295054101220341123903511393036112400374000003811111,
     103910875040112960411088704210041],
   [1010103160051115803740000],
   [1030800001873014303740000],
   [1010100000833006803740000],
   [1010100000641080603740000],
   [112010317197108080281080703740000],
   [113010318198108090291080703740000],
   [1040100001663013503740000],
   [1040100001663013403740000],
   [1010300000663022103740000],
   [10103031901410175066302220491032303740000],
   [1010300000663022303740000],
   [1010100000833015003740000],
   [1010103200051114503740000],
   [1030200000793016403740000],
   [10302000008330161112301580374000011310812],
   [10302000008330167112301650374000011310813],
   [1010100000833016003740000],
   [1030200000793021103740000],
   [10302003208510203133301950141019708610194026102050611019808410206087102070881020808910209,
     109010210091102110921021209310213094102140951021509610216036102170374000009710202],
   [1020200001633018703740000],
   [1010100000833001003740000],
   [1010100000833001003740000],
   [10302000008330152112301450374000011310814],
   [1010100000833015103740000],
   [1010300001483001503740000],
   [10101021210610242028113490291135003740000],
   [1010103210051135503740000],
   [101030000083301610374000011310812],
   [101030000083301670374000011310813],
   [101030000083301520374000011310814],
   [1010100001843023703740000],
   [1010103220051013903740000],
   [1010100001843023803740000],
   [1010103230051013903740000],
   [1010103240051013903740000]]

def moves19 : List (List Nat) :=
  [[1010103250051013903740000],
   [1010100001843023803740000],
   [1010103260051013903740000],
   [1010103270141017503740000],
   [1010103280141017503740000],
   [1010103290141017503740000],
   [1010103300051013903740000],
   [1010103310051013903740000],
   [1010103320051013903740000],
   [1010100001843023803740000],
   [1010103330051013903740000],
   [1010103340141017503740000],
   [1010103350141017503740000],
   [1010103360141017503740000],
   [1010103370051013903740000],
   [1010103380051013903740000],
   [1010103390051013903740000],
   [1010100001843023803740000],
   [1010100001843023803740000],
   [1010100001843023803740000],
   [1010100001043003203740000],
   [1010102430021030804510309028113490291135003740000],
   [1010300000663010203740000],
   [10101003600210038004100031963008900510004006100050071000600810007009100080101000901110010,
     10121001101310012014100130151001401610015017100160181001701910018020100190211002002210021,
     10231002202410023025100240261002502710026028100270291002803010029031100300321003103310032,
     103410033035100340361003503740000038100360391003704010039041100400421004104310042],
   [10101034000210038004100031963008600510004006100050071000600810007009100080101000901110010,
     10121001101310012014100130151001401610015017100160181001701910018020100190211002002210021,
     10231002202410023025100240261002502710026028100270291002803010029031100300321003103310032,
     103410033035100340361003503740000038100360391003704010039041100400421004104310042],
   [1010100001993006103740000],
   [10308007908510907052109080141116906410835086109050261141506111170084111720871090908810910,
     10891091109010912091109130921091409310915094109160951091709610918036109190374000009711413],
   [1010100000641083503740000],
   [10101034100210891063110550051131000610117014113880161110602510872026112920271139002811293,
     10291129403010119031110560321012103311110034108730351139303610874037400000381111103910875,
     1040111120411087604210041],
   [10101034200210891063110550051131000610117014113880161110602510872026112920271139002811293,
     10291129403010119031110560321012103311110034108730351139303610874037400000381111103910875,
     1040111120411087604210041],
   [10101034300210891063110550051131000610117014113880161110602510872026112920271139002811293,
     10291129403010119031110560321012103311110034108730351139303610874037400000381111103910875,
     1040111120411087604210041],
   [1010100001993006203740000],
   [1010100000833005103740000],
   [10101034400210038004100030051000400610005007100060081000700910008010100090111001001210011,
     10131001201410013015100140161001501710016018100170191001802010019021100200221002102310022,
     10241002302510024026100250271002602810027029100280301002903110030032100310331003203410033,
     1035100340361003503740000038100360391003704010039041100400421004104310042],
   [10101034500210038004100030051000400610005007100060081000700910008010100090111001001210011,
     10131001201410013015100140161001501710016018100170191001802010019021100200221002102310022,
     10241002302510024026100250271002602810027029100280301002903110030032100310331003203410033,
     1035100340361003503740000038100360391003704010039041100400421004104310042],
   [10308007908510907052109080141116906410844086109050261141506111170084111720871090908810910,
     10891091109010912091109130921091409310915094109160951091709610918036109190374000009711413],
   [1010100000641084403740000],
   [10101034600210038004100030051000400610005007100060081000700910008010100090111001001210011,
     10131001201410013015100140161001501710016018100170191001802010019021100200221002102310022,
     10241002302510024026100250271002602810027029100280301002903110030032100310331003203410033,
     1035100340361003503740000038100360391003704010039041100400421004104310042],
   [10308007908510907052109080141116906410846086109050261141506111170084111720871090908810910,
     10891091109010912091109130921091409310915094109160951091709610918036109190374000009711413],
   [1010100000641084603740000]]

def moves20 : List (List Nat) :=
  [[10101034700210891063110550051131000610117014113880641084701611106025108720261129202711390,
     10281129302911294030101190311105603210121033111100341087303511393036108740374000003811111,
     103910875040111120411087604210041],
   [101010000081107881581078903740000],
   [1010103480051131303740000],
   [1030800001873015803740000],
   [1030800001873016503740000],
   [1030800001873014503740000],
   [1010103490051013903740000],
   [1040100001663013603740000],
   [112010350197108530281085203740000],
   [113010351198108540291085203740000],
   [1010300000663022403740000],
   [10302000008330169112301660374000011310855],
   [1010100000833016203740000],
   [1010100000833016803740000],
   [1010100000833015303740000],
   [101030000083301690374000011310855],
   [1010100001843023903740000],
   [1010100001843024003740000],
   [1010100001843024003740000],
   [1010100001843024003740000],
   [1010100001843024003740000],
   [1010103520051013903740000],
   [1010103530051013903740000],
   [1010103540051013903740000],
   [1010100001843024003740000],
   [1010100001843024003740000],
   [1010100001843024003740000],
   [1010100001843024003740000],
   [1010103550051013903740000],
   [1010103560051013903740000],
   [1010103570051013903740000],
   [1010100001843024003740000],
   [1010100001843024003740000],
   [1010100001843024003740000],
   [10101003600210038004100031963008700510004006100050071000600810007009100080101000901110010,
     10121001101310012014100130151001401610015017100160181001701910018020100190211002002210021,
     10231002202410023025100240261002502710026028100270291002803010029031100300321003103310032,
     103410033035100340361003503740000038100360391003704010039041100400421004104310042],
   [1010100001993006303740000],
   [10308007908510907052109080141116906410862086109050261141506111170084111720871090908810910,
     10891091109010912091109130921091409310915094109160951091709610918036109190374000009711413],
   [1010100000641086303740000],
   [10308007908510907052109080141116906410864086109050261141506111170084111720871090908810910,
     10891091109010912091109130921091409310915094109160951091709610918036109190374000009711413],
   [1010100000641086503740000]]

def moves21 : List (List Nat) :=
  [[10308007908510907052109080141116906410866086109050261141506111170084111720871090908810910,
     10891091109010912091109130921091409310915094109160951091709610918036109190374000009711413],
   [1010100000641086603740000],
   [1010100000833005203740000],
   [1010100000833005303740000],
   [10101035800210038004100030051000400610005007100060081000700910008010100090111001001210011,
     10131001201410013015100140161001501710016018100170191001802010019021100200221002102310022,
     10241002302510024026100250271002602810027029100280301002903110030032100310331003203410033,
     1035100340361003503740000038100360391003704010039041100400421004104310042],
   [1010100000833005403740000],
   [10101035900210038004100030051000400610005007100060081000700910008010100090111001001210011,
     10131001201410013015100140161001501710016018100170191001802010019021100200221002102310022,
     10241002302510024026100250271002602810027029100280301002903110030032100310331003203410033,
     1035100340361003503740000038100360391003704010039041100400421004104310042],
   [10101036000210038004100030051000400610005007100060081000700910008010100090111001001210011,
     10131001201410013015100140161001501710016018100170191001802010019021100200221002102310022,
     10241002302510024026100250271002602810027029100280301002903110030032100310331003203410033,
     1035100340361003503740000038100360391003704010039041100400421004104310042],
   [10308007908510907052109080141116906410870086109050261141506111170084111720871090908810910,
     10891091109010912091109130921091409310915094109160951091709610918036109190374000009711413],
   [1010100000641087003740000],
   [1030800001873016603740000],
   [1010100001903009103740000],
   [1040100001663013703740000],
   [11201035019730267197208530283026703740000],
   [11301035119830268198208540293026803740000],
   [1010100000833017003740000],
   [1010100001843024103740000],
   [1010100001843024103740000],
   [1010100001843024103740000],
   [1010100001843024103740000],
   [1010100001843024103740000],
   [1010100001843024103740000],
   [1010100001993006403740000],
   [1010100001993006403740000],
   [1010100001993006403740000],
   [1010100001993006403740000],
   [1010100001993006503740000],
   [1010100000833005503740000],
   [1010100000833005603740000],
   [1010100000833005703740000],
   [10101036100210038004100030051000400610005007100060081000700910008010100090111001001210011,
     10131001201410013015100140161001501710016018100170191001802010019021100200221002102310022,
     10241002302510024026100250271002602810027029100280301002903110030032100310331003203410033,
     1035100340361003503740000038100360391003704010039041100400421004104310042],
   [1010100000833005803740000],
   [10308036200210891063110550441089300511310200300970061011701411388016111060251087202611292,
     10271139002811293029112940301011903111056032101210331111003410873035113930361087403740000,
     10381111103910875040111120411087604210041],
   [10101036300210891063110550051131000610117014113880161110602510872026112920271139002811293,
     10291129403010119031110560321012103311110034108730351139303610874037400000381111103910875,
     1040111120411087604210041],
   [10101036400210891063110550051131000610117014113880161110602510872026112920271139002811293,
     10291129403010119031110560321012103311110034108730351139303610874037400000381111103910875,
     1040111120411087604210041],
   [1030800001873009503740000],
   [103080000201300950491090303740000],
   [10208000020130095049109030513019003740000],
   [103080365202300940261141506111170084111730374000003811111],
   [1030800001873009403740000]]

end PageLint.Script.Grammar
