/-! States behind completed rules, part 2 of 2. -/
namespace PageLint.Script.Grammar

def gotos8 : List (List Nat) :=
  [[100200811],
   [100200815],
   [100200816],
   [100200817],
   [100200818],
   [100200819],
   [100200820],
   [101090821],
   [101090822],
   [101090823],
   [100200824],
   [100200825],
   [100200826],
   [100200827],
   [101090828],
   [101090829],
   [101090830],
   [100200831],
   [100200832],
   [100200833],
   [10001004400060044000700450008004400150834001600440017004600180046002000440022004400230044,
     10024004400250044002700440028004400290044003000440031004400320044003300440034004400350044,
     10036004400370044004300470045004800460049004700500048003700490054005200370053005400550050,
     10058005100640050007000370071004600730037007400460075003700760046007700370080003700810052,
     10082005000830047008400470086005000870053008800500090005400920050009300500094005000950050,
     1009600550097003700980037010000370102003701040056010900570120083401210059],
   [10007111400430877004508360046087800470879004808750049129900520875005312990055087900581116,
     10064087900700875007308750075087500770875008008750081088000820879008308770084087700860879,
     10087111700880879009012990092087900930879009408790095087900960837009708750098087501000875,
     101020875010400560109111901210132],
   [10007111400430877004508380046087800470879004808750049129900520875005312990055087900581116,
     10064087900700875007308750075087500770875008008750081088000820879008308770084087700860879,
     10087111700880879009012990092087900930879009408790095087900960839009708750098087501000875,
     101020875010400560109111901210132],
   [10007111400430877004508400046087800470879004808750049129900520875005312990055087900581116,
     10064087900700875007308750075087500770875008008750081088000820879008308770084087700860879,
     10087111700880879009012990092087900930879009408790095087900960841009708750098087501000875,
     101020875010400560109111901210132],
   [10001004400060044000700450008004400150842001600440017004600180046002000440022004400230044,
     10024004400250044002700440028004400290044003000440031004400320044003300440034004400350044,
     10036004400370044004300470045004800460049004700500048003700490054005200370053005400550050,
     10058005100640050007000370071004600730037007400460075003700760046007700370080003700810052,
     10082005000830047008400470086005000870053008800500090005400920050009300500094005000950050,
     10096005500970037009800370100003701020037010400560109005701210059],
   [10001004400060044000700450008004400150843001600440017004600180046002000440022004400230044,
     10024004400250044002700440028004400290044003000440031004400320044003300440034004400350044,
     10036004400370044004300470045004800460049004700500048003700490054005200370053005400550050,
     10058005100640050007000370071004600730037007400460075003700760046007700370080003700810052,
     10082005000830047008400470086005000870053008800500090005400920050009300500094005000950050,
     10096005500970037009800370100003701020037010400560109005701210059],
   [10001004400060044000700450008004400150845001600440017004600180046002000440022004400230044,
     10024004400250044002700440028004400290044003000440031004400320044003300440034004400350044,
     10036004400370044004300470045004800460049004700500048003700490054005200370053005400550050,
     10058005100640050007000370071004600730037007400460075003700760046007700370080003700810052,
     10082005000830047008400470086005000870053008800500090005400920050009300500094005000950050,
     10096005500970037009800370100003701020037010400560109005701210059],
   [10007111400430877004508480046087800470879004808750049129900520875005312990055087900581116,
     10064087900700875007308750075087500770875008008750081088000820879008308770084087700860879,
     10087111700880879009012990092087900930879009408790095087900960849009708750098087501000875,
     101020875010400560109111901210132],
   [100200850],
   [100200851],
   [101320853],
   [101330854],
   [100200856],
   [100200857],
   [100200858],
   [100200859],
   [100200860],
   [100200861],
   [10001004400060044000700450008004400150867001600440017004600180046002000440022004400230044,
     10024004400250044002700440028004400290044003000440031004400320044003300440034004400350044,
     10036004400370044004300470045004800460049004700500048003700490054005200370053005400550050,
     10058005100640050007000370071004600730037007400460075003700760046007700370080003700810052,
     10082005000830047008400470086005000870053008800500090005400920050009300500094005000950050,
     10096005500970037009800370100003701020037010400560109005701210059],
   [10001004400060044000700450008004400150868001600440017004600180046002000440022004400230044,
     10024004400250044002700440028004400290044003000440031004400320044003300440034004400350044,
     10036004400370044004300470045004800460049004700500048003700490054005200370053005400550050,
     10058005100640050007000370071004600730037007400460075003700760046007700370080003700810052,
     10082005000830047008400470086005000870053008800500090005400920050009300500094005000950050,
     10096005500970037009800370100003701020037010400560109005701210059]]

def gotos9 : List (List Nat) :=
  [[10001004400060044000700450008004400150869001600440017004600180046002000440022004400230044,
     10024004400250044002700440028004400290044003000440031004400320044003300440034004400350044,
     10036004400370044004300470045004800460049004700500048003700490054005200370053005400550050,
     10058005100640050007000370071004600730037007400460075003700760046007700370080003700810052,
     10082005000830047008400470086005000870053008800500090005400920050009300500094005000950050,
     10096005500970037009800370100003701020037010400560109005701210059],
   [10001004400060044000700450008004400150871001600440017004600180046002000440022004400230044,
     10024004400250044002700440028004400290044003000440031004400320044003300440034004400350044,
     10036004400370044004300470045004800460049004700500048003700490054005200370053005400550050,
     10058005100640050007000370071004600730037007400460075003700760046007700370080003700810052,
     10082005000830047008400470086005000870053008800500090005400920050009300500094005000950050,
     10096005500970037009800370100003701020037010400560109005701210059],
   [10007111400430877004508940046087800470879004808750049129900520875005312990055087900581116,
     10064087900700875007308750075087500770875008008750081088000820879008308770084087700860879,
     10087111700880879009012990092087900930879009408790095087900970875009808750100087501020875,
     1010400560109111901210132],
   [10007111400430877004509000046087800470879004808750049129900520875005312990055087900581116,
     10064087900700875007308750075087500770875008008750081088000820879008308770084087700860879,
     10087111700880879009012990092087900930879009408790095087900970875009808750100087501020875,
     1010400560109111901210132],
   [10007111400430877004509010046087800470879004808750049129900520875005312990055087900581116,
     10064087900700875007308750075087500770875008008750081088000820879008308770084087700860879,
     10087111700880879009012990092087900930879009408790095087900970875009808750100087501020875,
     1010400560109111901210132],
   [100980921],
   [10007111400430877004509250046087800470879004808750049129900520875005312990055087900581116,
     10064087900700875007308750075087500770875008008750081088000820879008308770084087700860879,
     10087111700880879009012990092087900930879009408790095087900970875009808750100087501020875,
     1010400560109111901210132],
   [10007111400200926004308770045092700460878004708790048087500491299005208750053129900550879,
     10058111600640879007008750073087500750875007708750080087500810880008208790083087700840877,
     10086087900871117008808790090129900920879009308790094087900950879009708750098087501000875,
     101020875010400560109111901210132],
   [101091323],
   [10007111400430877004509550046087800470879004808750049129900520875005312990055087900581116,
     10064087900700875007308750075087500770875008008750081088000820879008308770084087700860879,
     10087111700880879009012990092087900930879009408790095087900970875009808750100087501020875,
     1010400560109111901210132],
   [10098092101030967],
   [10007111400430877004509700046087800470879004808750049129900520875005312990055087900581116,
     10064087900700875007308750075087500770875008008750081088000820879008308770084087700860879,
     10087111700880879009012990092087900930879009408790095087900970875009808750100087501020875,
     1010400560109111901210132],
   [10007111400200971004308770045097200460878004708790048087500491299005208750053129900550879,
     10058111600640879007008750073087500750875007708750080087500810880008208790083087700840877,
     10086087900871117008808790090129900920879009308790094087900950879009708750098087501000875,
     101020875010400560109111901210132],
   [10007111400430877004509730046087800470879004808750049129900520875005312990055087900581116,
     10064087900700875007308750075087500770875008008750081088000820879008308770084087700860879,
     10087111700880879009012990092087900930879009408790095087900970875009808750100087501020875,
     1010400560109111901210132],
   [10007111400430877004509790046087800470879004808750049129900520875005312990055087900581116,
     10064087900700875007308750075087500770875008008750081088000820879008308770084087700860879,
     10087111700880879009012990092087900930879009408790095087900970875009808750100087501020875,
     1010400560109111901210132],
   [10007111400430877004509800046087800470879004808750049129900520875005312990055087900581116,
     10064087900700875007308750075087500770875008008750081088000820879008308770084087700860879,
     10087111700880879009012990092087900930879009408790095087900970875009808750100087501020875,
     1010400560109111901210132],
   [10007111400430877004509810046087800470879004808750049129900520875005312990055087900581116,
     10064087900700875007308750075087500770875008008750081088000820879008308770084087700860879,
     10087111700880879009012990092087900930879009408790095087900970875009808750100087501020875,
     1010400560109111901210132],
   [10007111400430877004509820046087800470879004808750049129900520875005312990055087900581116,
     10064087900700875007308750075087500770875008008750081088000820879008308770084087700860879,
     10087111700880879009012990092087900930879009408790095087900970875009808750100087501020875,
     1010400560109111901210132],
   [10007111400430877004509830046087800470879004808750049129900520875005312990055087900581116,
     10064087900700875007308750075087500770875008008750081088000820879008308770084087700860879,
     10087111700880879009012990092087900930879009408790095087900970875009808750100087501020875,
     1010400560109111901210132],
   [10007111400430877004509840046087800470879004808750049129900520875005312990055087900581116,
     10064087900700875007308750075087500770875008008750081088000820879008308770084087700860879,
     10087111700880879009012990092087900930879009408790095087900970875009808750100087501020875,
     1010400560109111901210132],
   [10007111400430877004509850046087800470879004808750049129900520875005312990055087900581116,
     10064087900700875007308750075087500770875008008750081088000820879008308770084087700860879,
     10087111700880879009012990092087900930879009408790095087900970875009808750100087501020875,
     1010400560109111901210132],
   [10007111400430877004509860046087800470879004808750049129900520875005312990055087900581116,
     10064087900700875007308750075087500770875008008750081088000820879008308770084087700860879,
     10087111700880879009012990092087900930879009408790095087900970875009808750100087501020875,
     1010400560109111901210132],
   [10007111400430877004509870046087800470879004808750049129900520875005312990055087900581116,
     10064087900700875007308750075087500770875008008750081088000820879008308770084087700860879,
     10087111700880879009012990092087900930879009408790095087900970875009808750100087501020875,
     1010400560109111901210132],
   [10007111400430877004509880046087800470879004808750049129900520875005312990055087900581116,
     10064087900700875007308750075087500770875008008750081088000820879008308770084087700860879,
     10087111700880879009012990092087900930879009408790095087900970875009808750100087501020875,
     1010400560109111901210132],
   [10007111400430877004509890046087800470879004808750049129900520875005312990055087900581116,
     10064087900700875007308750075087500770875008008750081088000820879008308770084087700860879,
     10087111700880879009012990092087900930879009408790095087900970875009808750100087501020875,
     1010400560109111901210132],
   [10007111400430877004509900046087800470879004808750049129900520875005312990055087900581116,
     10064087900700875007308750075087500770875008008750081088000820879008308770084087700860879,
     10087111700880879009012990092087900930879009408790095087900970875009808750100087501020875,
     1010400560109111901210132],
   [101340991],
   [10007111400430877004509960046087800470879004808750049129900520875005312990055087900581116,
     10064087900700875007308750075087500770875008008750081088000820879008308770084087700860879,
     10087111700880879009012990092087900930879009408790095087900970875009808750100087501020875,
     1010400560109111901210132],
   [10007111400200997004308770045099800460878004708790048087500491299005208750053129900550879,
     10058111600640879007008750073087500750875007708750080087500810880008208790083087700840877,
     10086087900871117008808790090129900920879009308790094087900950879009708750098087501000875,
     101020875010400560109111901210132],
   [10007111400431593004510760046087800470879004808750049160400520875005316040055087900581116,
     10064087900700875007308750075087500770875008008750081088000820879008315930084159300860879,
     10087158400880879009016040092087900930879009408790095087900970875009808750100087501020875,
     1010400560109158501210132],
   [10007111400201016004308770045101700460878004708790048087500491299005208750053129900550879,
     10058111600640879007008750073087500750875007708750080087500810880008208790083087700840877,
     10086087900871117008808790090129900920879009308790094087900950879009708750098087501000875,
     101020875010400560109111901210132],
   [10007111400201019004308770045102000460878004708790048087500491299005208750053129900550879,
     10058111600640879007008750073087500750875007708750080087500810880008208790083087700840877,
     10086087900871117008808790090129900920879009308790094087900950879009708750098087501000875,
     101020875010400560109111901210132],
   [10007111400201021004308770045102200460878004708790048087500491299005208750053129900550879,
     10058111600640879007008750073087500750875007708750080087500810880008208790083087700840877,
     10086087900871117008808790090129900920879009308790094087900950879009708750098087501000875,
     101020875010400560109111901210132],
   [10007111400430877004510410046087800470879004808750049129900520875005312990055087900581116,
     10064087900700875007308750075087500770875008008750081088000820879008308770084087700860879,
     10087111700880879009012990092087900930879009408790095087900970875009808750100087501020875,
     1010400560109111901210132],
   [10007111400430877004508920046087800470879004808750049129900520875005312990055087900581116,
     10064087900700875007308750075087500770875008008750081088000820879008308770084087700860879,
     10087111700880879009012990092087900930879009408790095087900970875009808750100087501020875,
     1010400560109111901210132],
   [10007111400430877004511460046087800470879004808750049012800500156005208750053012800550879,
     10058111600640879007008750073087500750875007708750080087500810880008208790083012700840127,
     10086087900871117008808790090012800911148009208790093087900940879009508790097087500980875,
     1010008750102087501040056010911190111015801120131012101320128115001290160],
   [101351156],
   [101361157],
   [10007111400431491004511660046089800470879004808750049111800520875005311180055087900581116,
     10064087900700875007308750075087500770875008008750081089900820879008314910084149100860879,
     10087129800880879009011180092087900930879009408790095087900970875009808750100087501020875,
     1010400560109111901210132],
   [10099116801371168]]

def gotos10 : List (List Nat) :=
  [[1005511760056117600581297006309220064117601301176],
   [10001004400060044000700450008004400150243001600440017004600180046002000440022004400230044,
     10024004400250044002700440028004400290044003000440031004400320044003300440034004400350044,
     10036004400370044004300470045004800460049004700500048003700490054005200370053005400550050,
     10058005100640050007000370071004600730037007400460075003700760046007700370080003700810052,
     10082005000830047008400470086005000870053008800500090005400920050009300500094005000950050,
     10096005500970037009800370100003701020037010400560109005701211514],
   [10002007000030071000600720017004600180046007100460074004600760046010400560121007301261177,
     101270256],
   [1001901090049010700530107009001070126117701270256],
   [1009702590109017801160259011702590126117701270256],
   [101271179],
   [101261180],
   [10001004400060044000700450008004400150317001600440017004600180046002000440022004400230044,
     10024004400250044002700440028004400290044003000440031004400320044003300440034004400350044,
     10036004400370044004300470045004800460049004700500048003700490054005200370053005400550050,
     10058005100640050007000370071004600730037007400460075003700760046007700370080003700810052,
     10082005000830047008400470086005000870053008800500090005400920050009300500094005000950050,
     10096005500970037009800370100003701020037010400560109005701211514],
   [100490266005100880053026600900266009703200112008801150088011603200117032001270095],
   [10007111400431491004511660046087800470879004808750049140400500156005208750053140400550879,
     10058111600640879007008750073087500750875007708750080087500810880008208790083088800840888,
     10086087900871298008808790090140400920879009308790094087900950879009708750098087501000875,
     101020875010400560109130001110158011201310121013201290160],
   [10001004400060044000700450008004400151434001600440017004600180046002000440022004400230044,
     10024004400250044002700440028004400290044003000440031004400320044003300440034004400350044,
     10036004400370044004300470045004800460049004700500048003700490054005200370053005400550050,
     10058005100640050007000370071004600730037007400460075003700760046007700370080003700810052,
     10082005000830047008400470086005000870053008800500090005400920050009300500094005000950050,
     10096005500970037009800370100003701020037010400560109005701211514],
   [10001004400060044000700450008004400150347001600440017004600180046002000440022004400230044,
     10024004400250044002700440028004400290044003000440031004400320044003300440034004400350044,
     10036004400370044004300470045004800460049004700500048003700490054005200370053005400550050,
     10058005100640050007000370071004600730037007400460075003700760046007700370080003700810052,
     10082005000830047008400470086005000870053008800500090005400920050009300500094005000950050,
     10096005500970037009800370100003701020037010400560109005701211514],
   [10049026600510088005302660090026600910090009700910104005601120088011300900114009001150088,
     10116009101170091012102680126009401270095],
   [10001004400060044000700450008004400150363001600440017004600180046002000440022004400230044,
     10024004400250044002700440028004400290044003000440031004400320044003300440034004400350044,
     10036004400370044004300470045004800460049004700500048003700490054005200370053005400550050,
     10058005100640050007000370071004600730037007400460075003700760046007700370080003700810052,
     10082005000830047008400470086005000870053008800500090005400920050009300500094005000950050,
     10096005500970037009800370100003701020037010400560109005701211514],
   [10001004400060044000700450008004400151129001600440017004600180046002000440022004400230044,
     10024004400250044002700440028004400290044003000440031004400320044003300440034004400350044,
     10036004400370044004300470045004800460049004700500048003700490054005200370053005400550050,
     10058005100640050007000370071004600730037007400460075003700760046007700370080003700810052,
     10082005000830047008400470086005000870053008800500090005400920050009300500094005000950050,
     1009600550097003700980037010000370102003701040056010900570120112901210059],
   [10103090601281191],
   [101291192],
   [101281191],
   [100560390006103910067039001311193],
   [1009704040104005601080401011004020113040301160404011704040121040501381194],
   [10072119501070961],
   [101070962],
   [100200966],
   [10007111400430877004511990046087800470879004808750049129900520875005312990055087900581116,
     10064087900700875007308750075087500770875008008750081088000820879008308770084087700860879,
     10087111700880879009012990091120000920879009308790094087900950879009708750098087501000875,
     10102087501040056010911190121013201281201],
   [101030992],
   [10007111400430877004512050046087800470879004808750049129900520875005312990055087900581116,
     10064087900700875007308750075087500770875008008750081088000820879008308770084087700860879,
     10087111700880879009012990091120600920879009308790094087900950879009612060097087500980875,
     10100087501020875010400560109111901210132],
   [10060120900611210],
   [1005504690056046900581297006309950064046901300469],
   [101270256],
   [10007004500431510004510090046004900470050004800370049151200520037005315120055005000580051,
     10064005000700037007300370075003700770037008000370081005200820050008315100084151000860050,
     10087151100880050009015120092005000930050009400500095005000970037009800370100003701020037,
     1010400560109151301211405],
   [10001004400060044000700450008004400150574001600440017004600180046002000440022004400230044,
     10024004400250044002700440028004400290044003000440031004400320044003300440034004400350044,
     10036004400370044004300470045004800460049004700500048003700490054005200370053005400550050,
     10058005100640050007000370071004600730037007400460075003700760046007700370080003700810052,
     10082005000830047008400470086005000870053008800500090005400920050009300500094005000950050,
     10096005500970037009800370100003701020037010400560109005701211514],
   [10072121501071010],
   [101071015],
   [100201018],
   [100201023],
   [100201024],
   [10103090601281221],
   [101281221],
   [10072122401071031],
   [101071032]]

def gotos11 : List (List Nat) :=
  [[10001004400060044000700450008004400150696001600440017004600180046002000440022004400230044,
     10024004400250044002700440028004400290044003000440031004400320044003300440034004400350044,
     10036004400370044004300470045004800460049004700500048003700490054005200370053005400550050,
     10058005100640050007000370071004600730037007400460075003700760046007700370080003700810052,
     10082005000830047008400470086005000870053008800500090005400920050009300500094005000950050,
     10096005500970037009800370100003701020037010400560109005701211514],
   [101071034],
   [100201035],
   [10072122801071036],
   [100201037],
   [100201038],
   [100201039],
   [101071043],
   [10001004400060044000700450008004400150792001600440017004600180046002000440022004400230044,
     10024004400250044002700440028004400290044003000440031004400320044003300440034004400350044,
     10036004400370044004300470045004800460049004700500048003700490054005200370053005400550050,
     10058005100640050007000370071004600730037007400460075003700760046007700370080003700810052,
     10082005000830047008400470086005000870053008800500090005400920050009300500094005000950050,
     10096005500970037009800370100003701020037010400560109005701211514],
   [100201044],
   [100201045],
   [101071046],
   [100201047],
   [10001004400060044000700450008004400150842001600440017004600180046002000440022004400230044,
     10024004400250044002700440028004400290044003000440031004400320044003300440034004400350044,
     10036004400370044004300470045004800460049004700500048003700490054005200370053005400550050,
     10058005100640050007000370071004600730037007400460075003700760046007700370080003700810052,
     10082005000830047008400470086005000870053008800500090005400920050009300500094005000950050,
     10096005500970037009800370100003701020037010400560109005701211514],
   [10001004400060044000700450008004400150843001600440017004600180046002000440022004400230044,
     10024004400250044002700440028004400290044003000440031004400320044003300440034004400350044,
     10036004400370044004300470045004800460049004700500048003700490054005200370053005400550050,
     10058005100640050007000370071004600730037007400460075003700760046007700370080003700810052,
     10082005000830047008400470086005000870053008800500090005400920050009300500094005000950050,
     10096005500970037009800370100003701020037010400560109005701211514],
   [10001004400060044000700450008004400150845001600440017004600180046002000440022004400230044,
     10024004400250044002700440028004400290044003000440031004400320044003300440034004400350044,
     10036004400370044004300470045004800460049004700500048003700490054005200370053005400550050,
     10058005100640050007000370071004600730037007400460075003700760046007700370080003700810052,
     10082005000830047008400470086005000870053008800500090005400920050009300500094005000950050,
     10096005500970037009800370100003701020037010400560109005701211514],
   [100201048],
   [10001004400060044000700450008004400150867001600440017004600180046002000440022004400230044,
     10024004400250044002700440028004400290044003000440031004400320044003300440034004400350044,
     10036004400370044004300470045004800460049004700500048003700490054005200370053005400550050,
     10058005100640050007000370071004600730037007400460075003700760046007700370080003700810052,
     10082005000830047008400470086005000870053008800500090005400920050009300500094005000950050,
     10096005500970037009800370100003701020037010400560109005701211514],
   [10001004400060044000700450008004400150868001600440017004600180046002000440022004400230044,
     10024004400250044002700440028004400290044003000440031004400320044003300440034004400350044,
     10036004400370044004300470045004800460049004700500048003700490054005200370053005400550050,
     10058005100640050007000370071004600730037007400460075003700760046007700370080003700810052,
     10082005000830047008400470086005000870053008800500090005400920050009300500094005000950050,
     10096005500970037009800370100003701020037010400560109005701211514],
   [10001004400060044000700450008004400150869001600440017004600180046002000440022004400230044,
     10024004400250044002700440028004400290044003000440031004400320044003300440034004400350044,
     10036004400370044004300470045004800460049004700500048003700490054005200370053005400550050,
     10058005100640050007000370071004600730037007400460075003700760046007700370080003700810052,
     10082005000830047008400470086005000870053008800500090005400920050009300500094005000950050,
     10096005500970037009800370100003701020037010400560109005701211514],
   [10001004400060044000700450008004400150871001600440017004600180046002000440022004400230044,
     10024004400250044002700440028004400290044003000440031004400320044003300440034004400350044,
     10036004400370044004300470045004800460049004700500048003700490054005200370053005400550050,
     10058005100640050007000370071004600730037007400460075003700760046007700370080003700810052,
     10082005000830047008400470086005000870053008800500090005400920050009300500094005000950050,
     10096005500970037009800370100003701020037010400560109005701211514],
   [10007111400431491004514950046087800470879004808750049111800520875005311180055087900581116,
     10064087900700875007308750075087500770875008008750081088000820879008314910084149100860879,
     10087129800880879009011180092087900930879009408790095087900970875009808750100087501020875,
     1010400560109130001210132],
   [10007111400431491004509000046087800470879004808750049111800520875005311180055087900581116,
     10064087900700875007308750075087500770875008008750081088000820879008314910084149100860879,
     10087129800880879009011180092087900930879009408790095087900970875009808750100087501020875,
     1010400560109130001210132],
   [10007111400431491004509010046087800470879004808750049111800520875005311180055087900581116,
     10064087900700875007308750075087500770875008008750081088000820879008314910084149100860879,
     10087129800880879009011180092087900930879009408790095087900970875009808750100087501020875,
     1010400560109130001210132],
   [10007111400431491004512600046087800470879004808750049111800520875005311180055087900581116,
     10064087900700875007308750075087500770875008008750081088000820879008314910084149100860879,
     10087129800880879009011180092087900930879009408790095087900970875009808750100087501020875,
     1010400560109130001210132],
   [10007111400200926004314910045126100460878004708790048087500491118005208750053111800550879,
     10058111600640879007008750073087500750875007708750080087500810880008208790083149100841491,
     10086087900871298008808790090111800920879009308790094087900950879009708750098087501000875,
     101020875010400560109130001210132],
   [10007111400431491004512630046087800470879004808750049111800520875005311180055087900581116,
     10064087900700875007308750075087500770875008008750081088000820879008314910084149100860879,
     10087129800880879009011180092087900930879009408790095087900970875009808750100087501020875,
     1010400560109130001210132],
   [10007111400431491004512670046087800470879004808750049111800520875005311180055087900581116,
     10064087900700875007308750075087500770875008008750081088000820879008314910084149100860879,
     10087129800880879009011180092087900930879009408790095087900970875009808750100087501020875,
     1010400560109130001210132],
   [10007111400200971004314910045126800460878004708790048087500491118005208750053111800550879,
     10058111600640879007008750073087500750875007708750080087500810880008208790083149100841491,
     10086087900871298008808790090111800920879009308790094087900950879009708750098087501000875,
     101020875010400560109130001210132],
   [10007111400431491004512690046087800470879004808750049111800520875005311180055087900581116,
     10064087900700875007308750075087500770875008008750081088000820879008314910084149100860879,
     10087129800880879009011180092087900930879009408790095087900970875009808750100087501020875,
     1010400560109130001210132],
   [10007111400431491004512700046087800470879004808750049111800520875005311180055087900581116,
     10064087900700875007308750075087500770875008008750081088000820879008314910084149100860879,
     10087129800880879009011180092087900930879009408790095087900970875009808750100087501020875,
     1010400560109130001210132],
   [10007111400431491004512710046087800470879004808750049111800520875005311180055087900581116,
     10064087900700875007308750075087500770875008008750081088000820879008314910084149100860879,
     10087129800880879009011180092087900930879009408790095087900970875009808750100087501020875,
     1010400560109130001210132],
   [10007111400431491004512720046087800470879004808750049111800520875005311180055087900581116,
     10064087900700875007308750075087500770875008008750081088000820879008314910084149100860879,
     10087129800880879009011180092087900930879009408790095087900970875009808750100087501020875,
     1010400560109130001210132],
   [10007111400431491004512730046087800470879004808750049111800520875005311180055087900581116,
     10064087900700875007308750075087500770875008008750081088000820879008314910084149100860879,
     10087129800880879009011180092087900930879009408790095087900970875009808750100087501020875,
     1010400560109130001210132],
   [10007111400431491004512740046087800470879004808750049111800520875005311180055087900581116,
     10064087900700875007308750075087500770875008008750081088000820879008314910084149100860879,
     10087129800880879009011180092087900930879009408790095087900970875009808750100087501020875,
     1010400560109130001210132],
   [10007111400431491004512750046087800470879004808750049111800520875005311180055087900581116,
     10064087900700875007308750075087500770875008008750081088000820879008314910084149100860879,
     10087129800880879009011180092087900930879009408790095087900970875009808750100087501020875,
     1010400560109130001210132],
   [10007111400431491004512760046087800470879004808750049111800520875005311180055087900581116,
     10064087900700875007308750075087500770875008008750081088000820879008314910084149100860879,
     10087129800880879009011180092087900930879009408790095087900970875009808750100087501020875,
     1010400560109130001210132],
   [10007111400431491004512770046087800470879004808750049111800520875005311180055087900581116,
     10064087900700875007308750075087500770875008008750081088000820879008314910084149100860879,
     10087129800880879009011180092087900930879009408790095087900970875009808750100087501020875,
     1010400560109130001210132],
   [10007111400431491004512780046087800470879004808750049111800520875005311180055087900581116,
     10064087900700875007308750075087500770875008008750081088000820879008314910084149100860879,
     10087129800880879009011180092087900930879009408790095087900970875009808750100087501020875,
     1010400560109130001210132],
   [10007111400431491004512790046087800470879004808750049111800520875005311180055087900581116,
     10064087900700875007308750075087500770875008008750081088000820879008314910084149100860879,
     10087129800880879009011180092087900930879009408790095087900970875009808750100087501020875,
     1010400560109130001210132]]

def gotos12 : List (List Nat) :=
  [[10007111400431491004512800046087800470879004808750049111800520875005311180055087900581116,
     10064087900700875007308750075087500770875008008750081088000820879008314910084149100860879,
     10087129800880879009011180092087900930879009408790095087900970875009808750100087501020875,
     1010400560109130001210132],
   [10007111400431491004512810046087800470879004808750049111800520875005311180055087900581116,
     10064087900700875007308750075087500770875008008750081088000820879008314910084149100860879,
     10087129800880879009011180092087900930879009408790095087900970875009808750100087501020875,
     1010400560109130001210132],
   [10007111400200997004314910045128200460878004708790048087500491118005208750053111800550879,
     10058111600640879007008750073087500750875007708750080087500810880008208790083149100841491,
     10086087900871298008808790090111800920879009308790094087900950879009708750098087501000875,
     101020875010400560109130001210132],
   [10007111400201016004314910045128300460878004708790048087500491118005208750053111800550879,
     10058111600640879007008750073087500750875007708750080087500810880008208790083149100841491,
     10086087900871298008808790090111800920879009308790094087900950879009708750098087501000875,
     101020875010400560109130001210132],
   [10007111400201019004314910045128400460878004708790048087500491118005208750053111800550879,
     10058111600640879007008750073087500750875007708750080087500810880008208790083149100841491,
     10086087900871298008808790090111800920879009308790094087900950879009708750098087501000875,
     101020875010400560109130001210132],
   [10007111400201021004314910045128500460878004708790048087500491118005208750053111800550879,
     10058111600640879007008750073087500750875007708750080087500810880008208790083149100841491,
     10086087900871298008808790090111800920879009308790094087900950879009708750098087501000875,
     101020875010400560109130001210132],
   [10007111400431491004512870046087800470879004808750049111800520875005311180055087900581116,
     10064087900700875007308750075087500770875008008750081088000820879008314910084149100860879,
     10087129800880879009011180092087900930879009408790095087900970875009808750100087501020875,
     1010400560109130001210132],
   [10001004400060044000700450008004400151129001600440017004600180046002000440022004400230044,
     10024004400250044002700440028004400290044003000440031004400320044003300440034004400350044,
     10036004400370044004300470045004800460049004700500048003700490089005100880052003700530089,
     10055005000580051006400500070003700710046007300370074004600750037007600460077003700800037,
     10081005200820050008300470084004700860050008700530088005000900089009100900092005000930050,
     10094005000950050009600550097008200980037010000370102003701040056010900570112008801130090,
     10114009001150088011600910117009101201129012100930126009401270095],
   [10007111400431491004508920046087800470879004808750049111800520875005311180055087900581116,
     10064087900700875007308750075087500770875008008750081088000820879008314910084149100860879,
     10087129800880879009011180092087900930879009408790095087900970875009808750100087501020875,
     1010400560109130001210132],
   [101351318],
   [101361319],
   [10007111400431491004511660046089800470879004808750049111800520875005311180055087900581116,
     10064087900700875007308750075087500770875008008750081089900820879008314910084149100860879,
     10087129800880879009011180092087900930879009408790095087900970875009808750100087501020875,
     1010400560109130001210132],
   [1005513270056132700581297006310590064132701301327],
   [101261329],
   [10001004400060044000700450008004400151308001600440017004600180046002000440022004400230044,
     10024004400250044002700440028004400290044003000440031004400320044003300440034004400350044,
     10036004400370044004300470045004800460049004700500048003700490054005200370053005400550050,
     10058005100640050007000370071004600730037007400460075003700760046007700370080003700810052,
     10082005000830047008400470086005000870053008800500090005400920050009300500094005000950050,
     1009600550097003700980037010000370102003701040056010900570120130801210059],
   [100560390006103910067039001311334],
   [1009704040104005601080401011004020113040301160404011704040121040501381335],
   [10007111400430877004513360046087800470879004808750049129900520875005312990055087900581116,
     10064087900700875007308750075087500770875008008750081088000820879008308770084087700860879,
     10087111700880879009012990091133700920879009308790094087900950879009708750098087501000875,
     10102087501040056010911190121013201281338],
   [10060134200611343],
   [1005504690056046900581297006310720064046901300469],
   [10103090601281344],
   [101281344],
   [10001004400060044000700450008004400151308001600440017004600180046002000440022004400230044,
     10024004400250044002700440028004400290044003000440031004400320044003300440034004400350044,
     10036004400370044004300470045004800460049004700500048003700490089005100880052003700530089,
     10055005000580051006400500070003700710046007300370074004600750037007600460077003700800037,
     10081005200820050008300470084004700860050008700530088005000900089009111280092005000930050,
     10094005000950050009600550097008200980037010000370102003701040056010900570112008801131128,
     10114112801150088011600910117009101201308012100930126113001270095],
   [101351360],
   [101361361],
   [1005513640056136400581297006310850064136401301364],
   [10001004400060044000700450008004400151400001600440017004600180046002000440022004400230044,
     10024004400250044002700440028004400290044003000440031004400320044003300440034004400350044,
     10036004400370044004300470045004800460049004700500048003700490054005200370053005400550050,
     10058005100640050007000370071004600730037007400460075003700760046007700370080003700810052,
     10082005000830047008400470086005000870053008800500090005400920050009300500094005000950050,
     1009600550097003700980037010000370102003701040056010900570120140001210059],
   [100560390006103910067039001311369],
   [10060137200611373],
   [1005504690056046900581297006310950064046901300469],
   [100431133],
   [100431136],
   [100261137],
   [10007111400430877004513110046087800470879004808750049012800500126005208750053012800550879,
     10058111600640879007008750073087500750875007708750080087500810880008208790083012700840127,
     10086087900871117008808790090012800920879009308790094087900950879009613120097087500980875,
     101000875010208750104005601091119011101300112013101210132],
   [100431144],
   [10060115400611155],
   [10007004500431510004501880046004900470050004800370049151200520037005315120055005000580051,
     10064005000700037007300370075003700770037008000370081005200820050008315100084151000860050,
     10087151100880050009015120092005000930050009400500095005000970037009800370100003701020037,
     1010400560109151301211405],
   [10006023600070045001700460018004600430047004502370046004900470050004800370049005400520037,
     10053005400550050005800510064005000700037007100460073003700740046007500370076004600770037,
     10080003700810052008200500083004700840047008600500087005300880050009000540092005000930050,
     1009400500095005000970037009800370100003701020037010400560109005701211429],
   [10007004500431510004514300046004900470050004800370049151200520037005315120055005000580051,
     10064005000700037007300370075003700770037008000370081005200820050008315100084151000860050,
     10087151100880050009015120092005000930050009400500095005000970037009800370100003701020037,
     1010400560109151301211405],
   [10007004500200249004315100045143100460049004700500048003700491512005200370053151200550050,
     10058005100640050007000370073003700750037007700370080003700810052008200500083151000841510,
     10086005000871511008800500090151200920050009300500094005000950050009700370098003701000037,
     101020037010400560109151301211405]]

def gotos13 : List (List Nat) :=
  [[10007111400430877004513530046087800470879004808750049129900520875005312990055087900581116,
     10064087900700875007308750075087500770875008008750081088000820879008308770084087700860879,
     10087111700880879009012990092087900930879009408790095087900961354009708750098087501000875,
     101020875010400560109111901210132],
   [100261184],
   [101091520],
   [10007004500431510004514440046004900470050004800370049151200520037005315120055005000580051,
     10064005000700037007300370075003700770037008000370081005200820050008315100084151000860050,
     10087151100880050009015120092005000930050009400500095005000970037009800370100003701020037,
     1010400560109151301211405],
   [101091198],
   [10007004500431510004514500046004900470050004800370049151200520037005315120055005000580051,
     10064005000700037007300370075003700770037008000370081005200820050008315100084151000860050,
     10087151100880050009015120092005000930050009400500095005000970037009800370100003701020037,
     1010400560109151301211405],
   [10007004500200428004315100045145100460049004700500048003700491512005200370053151200550050,
     10058005100640050007000370073003700750037007700370080003700810052008200500083151000841510,
     10086005000871511008800500090151200920050009300500094005000950050009700370098003701000037,
     101020037010400560109151301211405],
   [10007004500431510004514520046004900470050004800370049151200520037005315120055005000580051,
     10064005000700037007300370075003700770037008000370081005200820050008315100084151000860050,
     10087151100880050009015120092005000930050009400500095005000970037009800370100003701020037,
     1010400560109151301211405],
   [10007111400431491004512020046087800470879004808750049111800520875005311180055087900581116,
     10064087900700875007308750075087500770875008008750081088000820879008314910084149100860879,
     10087129800880879009011180092087900930879009408790095087900970875009808750100087501020875,
     1010400560109130001210132],
   [10007004500431510004514530046004900470050004800370049151200520037005315120055005000580051,
     10064005000700037007300370075003700770037008000370081005200820050008315100084151000860050,
     10087151100880050009015120092005000930050009400500095005000970037009800370100003701020037,
     1010400560109151301211405],
   [10007111400430877004512030046087800470879004808750049129900520875005312990055087900581116,
     10064087900700875007308750075087500770875008008750081088000820879008308770084087700860879,
     10087111700880879009012990092087900930879009408790095087900961204009708750098087501000875,
     101020875010400560109111901210132],
   [10007004500431510004514550046004900470050004800370049151200520037005315120055005000580051,
     10064005000700037007300370075003700770037008000370081005200820050008315100084151000860050,
     10087151100880050009015120092005000930050009400500095005000970037009800370100003701020037,
     1010400560109151301211405],
   [10007004500431510004514560046004900470050004800370049151200520037005315120055005000580051,
     10064005000700037007300370075003700770037008000370081005200820050008315100084151000860050,
     10087151100880050009015120092005000930050009400500095005000970037009800370100003701020037,
     1010400560109151301211405],
   [10007004500431510004514570046004900470050004800370049151200520037005315120055005000580051,
     10064005000700037007300370075003700770037008000370081005200820050008315100084151000860050,
     10087151100880050009015120092005000930050009400500095005000970037009800370100003701020037,
     1010400560109151301211405],
   [10007004500431510004514580046004900470050004800370049151200520037005315120055005000580051,
     10064005000700037007300370075003700770037008000370081005200820050008315100084151000860050,
     10087151100880050009015120092005000930050009400500095005000970037009800370100003701020037,
     1010400560109151301211405],
   [10007004500431510004514590046004900470050004800370049151200520037005315120055005000580051,
     10064005000700037007300370075003700770037008000370081005200820050008315100084151000860050,
     10087151100880050009015120092005000930050009400500095005000970037009800370100003701020037,
     1010400560109151301211405],
   [10007004500431510004514600046004900470050004800370049151200520037005315120055005000580051,
     10064005000700037007300370075003700770037008000370081005200820050008315100084151000860050,
     10087151100880050009015120092005000930050009400500095005000970037009800370100003701020037,
     1010400560109151301211405],
   [10007004500431510004514610046004900470050004800370049151200520037005315120055005000580051,
     10064005000700037007300370075003700770037008000370081005200820050008315100084151000860050,
     10087151100880050009015120092005000930050009400500095005000970037009800370100003701020037,
     1010400560109151301211405],
   [10007004500431510004514620046004900470050004800370049151200520037005315120055005000580051,
     10064005000700037007300370075003700770037008000370081005200820050008315100084151000860050,
     10087151100880050009015120092005000930050009400500095005000970037009800370100003701020037,
     1010400560109151301211405],
   [10007004500431510004514630046004900470050004800370049151200520037005315120055005000580051,
     10064005000700037007300370075003700770037008000370081005200820050008315100084151000860050,
     10087151100880050009015120092005000930050009400500095005000970037009800370100003701020037,
     1010400560109151301211405],
   [10007004500431510004514640046004900470050004800370049151200520037005315120055005000580051,
     10064005000700037007300370075003700770037008000370081005200820050008315100084151000860050,
     10087151100880050009015120092005000930050009400500095005000970037009800370100003701020037,
     1010400560109151301211405],
   [10007004500431510004514650046004900470050004800370049151200520037005315120055005000580051,
     10064005000700037007300370075003700770037008000370081005200820050008315100084151000860050,
     10087151100880050009015120092005000930050009400500095005000970037009800370100003701020037,
     1010400560109151301211405],
   [10007004500200471004315100045146600460049004700500048003700491512005200370053151200550050,
     10058005100640050007000370073003700750037007700370080003700810052008200500083151000841510,
     10086005000871511008800500090151200920050009300500094005000950050009700370098003701000037,
     101020037010400560109151301211405],
   [10007111400430877004512130046087800470879004808750049129900520875005312990055087900581116,
     10064087900700875007308750075087500770875008008750081088000820879008308770084087700860879,
     10087111700880879009012990092087900930879009408790095087900970875009808750100087501020875,
     1010400560109111901210132],
   [101091216],
   [10007004500200612004315100045147200460049004700500048003700491512005200370053151200550050,
     10058005100640050007000370073003700750037007700370080003700810052008200500083151000841510,
     10086005000871511008800500090151200920050009300500094005000950050009700370098003701000037,
     101020037010400560109151301211405],
   [101091219],
   [10007004500200618004315100045147400460049004700500048003700491512005200370053151200550050,
     10058005100640050007000370073003700750037007700370080003700810052008200500083151000841510,
     10086005000871511008800500090151200920050009300500094005000950050009700370098003701000037,
     101020037010400560109151301211405],
   [10007004500200620004315100045147500460049004700500048003700491512005200370053151200550050,
     10058005100640050007000370073003700750037007700370080003700810052008200500083151000841510,
     10086005000871511008800500090151200920050009300500094005000950050009700370098003701000037,
     101020037010400560109151301211405],
   [101091220],
   [10007111400430877004512220046087800470879004808750049129900520875005312990055087900581116,
     10064087900700875007308750075087500770875008008750081088000820879008308770084087700860879,
     10087111700880879009012990092087900930879009408790095087900961223009708750098087501000875,
     101020875010400560109111901210132],
   [10006063600070045001700460018004600430047004506370046004900470050004800370049005400520037,
     10053005400550050005800510064005000700037007100460073003700740046007500370076004600770037,
     10080003700810052008200500083004700840047008600500087005300880050009000540092005000930050,
     1009400500095005000970037009800370100003701020037010400560109005701211429],
   [10007111400430877004514770046087800470879004808750049129900520875005312990055087900581116,
     10064087900700875007308750075087500770875008008750081088000820879008308770084087700860879,
     10087111700880879009012990092087900930879009408790095087900961478009708750098087501000875,
     101020875010400560109111901210132],
   [101091226],
   [101091227],
   [101091229],
   [10007004500431510004514820046004900470050004800370049151200520037005315120055005000580051,
     10064005000700037007300370075003700770037008000370081005200820050008315100084151000860050,
     10087151100880050009015120092005000930050009400500095005000970037009800370100003701020037,
     1010400560109151301211405],
   [10007111400430877004514830046087800470879004808750049129900520875005312990055087900581116,
     10064087900700875007308750075087500770875008008750081088000820879008308770084087700860879,
     10087111700880879009012990092087900930879009408790095087900961484009708750098087501000875,
     101020875010400560109111901210132],
   [10007111400430877004514850046087800470879004808750049129900520875005312990055087900581116,
     10064087900700875007308750075087500770875008008750081088000820879008308770084087700860879,
     10087111700880879009012990092087900930879009408790095087900961486009708750098087501000875,
     101020875010400560109111901210132],
   [101091233]]

def gotos14 : List (List Nat) :=
  [[10007111400430877004514880046087800470879004808750049129900520875005312990055087900581116,
     10064087900700875007308750075087500770875008008750081088000820879008308770084087700860879,
     10087111700880879009012990092087900930879009408790095087900961489009708750098087501000875,
     101020875010400560109111901210132],
   [10060131600611317],
   [10007111400431491004513390046087800470879004808750049111800520875005311180055087900581116,
     10064087900700875007308750075087500770875008008750081088000820879008314910084149100860879,
     10087129800880879009011180092087900930879009408790095087900970875009808750100087501020875,
     1010400560109130001210132],
   [10060135800611359],
   [10007004500431510004501360046004900470050004800370049151200520037005315120055005000580051,
     10064005000700037007300370075003700770037008000370081005200820050008315100084151000860050,
     10087151100880050009015120092005000930050009400500095005000970037009800370100003701020037,
     1010400560109151301211405],
   [10007004500431510004515160046004900470050004800370049151200520037005315120055005000580051,
     10064005000700037007300370075003700770037008000370081005200820050008315100084151000860050,
     10087151100880050009015120092005000930050009400500095005000970037009800370100003701020037,
     1010400560109151301211405],
   [10007004500431115004501830046018400470879004800370049111800520037005311180055087900581116,
     10064087900700037007300370075003700770037008000370081018500820879008311150084111500860879,
     10087129800880879009011180092087900930879009408790095087900970037009800370100003701020037,
     1010400560109151301211405],
   [10007004500431510004501860046004900470050004800370049151200520037005315120055005000580051,
     10064005000700037007300370075003700770037008000370081005200820050008315100084151000860050,
     10087151100880050009015120092005000930050009400500095005000970037009800370100003701020037,
     1010400560109151301211405],
   [10007111400361468004308770045152700460878004708790048087500491299005208750053129900550879,
     10058111600640879007008750073087500750875007708750080087500810880008208790083087700840877,
     10086087900871117008808790090129900920879009308790094087900950879009615280097087500980875,
     10100087501020875010400560109111901210132],
   [10007111400361480004308770045153000460878004708790048087500491299005208750053129900550879,
     10058111600640879007008750073087500750875007708750080087500810880008208790083087700840877,
     10086087900871117008808790090129900920879009308790094087900950879009615310097087500980875,
     10100087501020875010400560109111901210132],
   [10007111400431593004515940046087800470879004808750049160400520875005316040055087900581116,
     10064087900700875007308750075087500770875008008750081088000820879008315930084159300860879,
     10087158400880879009016040092087900930879009408790095087900970875009808750100087501020875,
     1010400560109158501210132],
   [10007111400431593004509000046087800470879004808750049160400520875005316040055087900581116,
     10064087900700875007308750075087500770875008008750081088000820879008315930084159300860879,
     10087158400880879009016040092087900930879009408790095087900970875009808750100087501020875,
     1010400560109158501210132],
   [10007111400431593004509010046087800470879004808750049160400520875005316040055087900581116,
     10064087900700875007308750075087500770875008008750081088000820879008315930084159300860879,
     10087158400880879009016040092087900930879009408790095087900970875009808750100087501020875,
     1010400560109158501210132],
   [10007111400431593004515540046087800470879004808750049160400520875005316040055087900581116,
     10064087900700875007308750075087500770875008008750081088000820879008315930084159300860879,
     10087158400880879009016040092087900930879009408790095087900970875009808750100087501020875,
     1010400560109158501210132],
   [10007111400200926004315930045155500460878004708790048087500491604005208750053160400550879,
     10058111600640879007008750073087500750875007708750080087500810880008208790083159300841593,
     10086087900871584008808790090160400920879009308790094087900950879009708750098087501000875,
     101020875010400560109158501210132],
   [10007111400431593004515560046087800470879004808750049160400520875005316040055087900581116,
     10064087900700875007308750075087500770875008008750081088000820879008315930084159300860879,
     10087158400880879009016040092087900930879009408790095087900970875009808750100087501020875,
     1010400560109158501210132],
   [10007111400431593004515600046087800470879004808750049160400520875005316040055087900581116,
     10064087900700875007308750075087500770875008008750081088000820879008315930084159300860879,
     10087158400880879009016040092087900930879009408790095087900970875009808750100087501020875,
     1010400560109158501210132],
   [10007111400200971004315930045156100460878004708790048087500491604005208750053160400550879,
     10058111600640879007008750073087500750875007708750080087500810880008208790083159300841593,
     10086087900871584008808790090160400920879009308790094087900950879009708750098087501000875,
     101020875010400560109158501210132],
   [10007111400431593004515620046087800470879004808750049160400520875005316040055087900581116,
     10064087900700875007308750075087500770875008008750081088000820879008315930084159300860879,
     10087158400880879009016040092087900930879009408790095087900970875009808750100087501020875,
     1010400560109158501210132],
   [10007111400431593004515630046087800470879004808750049160400520875005316040055087900581116,
     10064087900700875007308750075087500770875008008750081088000820879008315930084159300860879,
     10087158400880879009016040092087900930879009408790095087900970875009808750100087501020875,
     1010400560109158501210132],
   [10007111400431593004515640046087800470879004808750049160400520875005316040055087900581116,
     10064087900700875007308750075087500770875008008750081088000820879008315930084159300860879,
     10087158400880879009016040092087900930879009408790095087900970875009808750100087501020875,
     1010400560109158501210132],
   [10007111400431593004515650046087800470879004808750049160400520875005316040055087900581116,
     10064087900700875007308750075087500770875008008750081088000820879008315930084159300860879,
     10087158400880879009016040092087900930879009408790095087900970875009808750100087501020875,
     1010400560109158501210132],
   [10007111400431593004515660046087800470879004808750049160400520875005316040055087900581116,
     10064087900700875007308750075087500770875008008750081088000820879008315930084159300860879,
     10087158400880879009016040092087900930879009408790095087900970875009808750100087501020875,
     1010400560109158501210132],
   [10007111400431593004515670046087800470879004808750049160400520875005316040055087900581116,
     10064087900700875007308750075087500770875008008750081088000820879008315930084159300860879,
     10087158400880879009016040092087900930879009408790095087900970875009808750100087501020875,
     1010400560109158501210132],
   [10007111400431593004515680046087800470879004808750049160400520875005316040055087900581116,
     10064087900700875007308750075087500770875008008750081088000820879008315930084159300860879,
     10087158400880879009016040092087900930879009408790095087900970875009808750100087501020875,
     1010400560109158501210132],
   [10007111400431593004515690046087800470879004808750049160400520875005316040055087900581116,
     10064087900700875007308750075087500770875008008750081088000820879008315930084159300860879,
     10087158400880879009016040092087900930879009408790095087900970875009808750100087501020875,
     1010400560109158501210132],
   [10007111400431593004515700046087800470879004808750049160400520875005316040055087900581116,
     10064087900700875007308750075087500770875008008750081088000820879008315930084159300860879,
     10087158400880879009016040092087900930879009408790095087900970875009808750100087501020875,
     1010400560109158501210132],
   [10007111400431593004515710046087800470879004808750049160400520875005316040055087900581116,
     10064087900700875007308750075087500770875008008750081088000820879008315930084159300860879,
     10087158400880879009016040092087900930879009408790095087900970875009808750100087501020875,
     1010400560109158501210132],
   [10007111400431593004515720046087800470879004808750049160400520875005316040055087900581116,
     10064087900700875007308750075087500770875008008750081088000820879008315930084159300860879,
     10087158400880879009016040092087900930879009408790095087900970875009808750100087501020875,
     1010400560109158501210132],
   [10007111400431593004515730046087800470879004808750049160400520875005316040055087900581116,
     10064087900700875007308750075087500770875008008750081088000820879008315930084159300860879,
     10087158400880879009016040092087900930879009408790095087900970875009808750100087501020875,
     1010400560109158501210132],
   [10007111400431593004515740046087800470879004808750049160400520875005316040055087900581116,
     10064087900700875007308750075087500770875008008750081088000820879008315930084159300860879,
     10087158400880879009016040092087900930879009408790095087900970875009808750100087501020875,
     1010400560109158501210132],
   [10007111400200997004315930045157500460878004708790048087500491604005208750053160400550879,
     10058111600640879007008750073087500750875007708750080087500810880008208790083159300841593,
     10086087900871584008808790090160400920879009308790094087900950879009708750098087501000875,
     101020875010400560109158501210132],
   [10007111400201016004315930045157600460878004708790048087500491604005208750053160400550879,
     10058111600640879007008750073087500750875007708750080087500810880008208790083159300841593,
     10086087900871584008808790090160400920879009308790094087900950879009708750098087501000875,
     101020875010400560109158501210132],
   [10007111400201019004315930045157700460878004708790048087500491604005208750053160400550879,
     10058111600640879007008750073087500750875007708750080087500810880008208790083159300841593,
     10086087900871584008808790090160400920879009308790094087900950879009708750098087501000875,
     101020875010400560109158501210132],
   [10007111400201021004315930045157800460878004708790048087500491604005208750053160400550879,
     10058111600640879007008750073087500750875007708750080087500810880008208790083159300841593,
     10086087900871584008808790090160400920879009308790094087900950879009708750098087501000875,
     101020875010400560109158501210132],
   [10007111400431593004515800046087800470879004808750049160400520875005316040055087900581116,
     10064087900700875007308750075087500770875008008750081088000820879008315930084159300860879,
     10087158400880879009016040092087900930879009408790095087900970875009808750100087501020875,
     1010400560109158501210132],
   [10007111400431593004508920046087800470879004808750049160400520875005316040055087900581116,
     10064087900700875007308750075087500770875008008750081088000820879008315930084159300860879,
     10087158400880879009016040092087900930879009408790095087900970875009808750100087501020875,
     1010400560109158501210132],
   [10007111400431491004511660046089800470879004808750049111800520875005311180055087900581116,
     10064087900700875007308750075087500770875008008750081089900820879008314910084149100860879,
     10087129800880879009011180092087900930879009408790095087900970875009808750100087501020875,
     1010400560109158501210132],
   [101091588],
   [10007111400431491004515890046087800470879004808750049111800520875005311180055087900581116,
     10064087900700875007308750075087500770875008008750081088000820879008314910084149100860879,
     10087129800880879009011180092087900930879009408790095087900970875009808750100087501020875,
     1010400560109130001210132]]

def gotos15 : List (List Nat) :=
  [[10007111400171524001815240036152400430341004516020046087800470879004808750049034300520875,
     10053034300550879005811160064087900700875007308750075087500770875008008750081088000820879,
     10083034100840341008608790087111700880879009003430092087900930879009408790095087900961603,
     100970875009808750100087501020875010400560109111901210132],
   [10007111400431491004515260046087800470879004808750049111800520875005311180055087900581116,
     10064087900700875007308750075087500770875008008750081088000820879008314910084149100860879,
     10087129800880879009011180092087900930879009408790095087900970875009808750100087501020875,
     1010400560109130001210132]]

end PageLint.Script.Grammar
