/-! States behind completed rules, part 1 of 2. -/
namespace PageLint.Script.Grammar

def gotos0 : List (List Nat) :=
  [[],
   [10000004300010044000600440007004500080044001500580016004400170046001800460020004400220044,
     10023004400240044002500440027004400280044002900440030004400310044003200440033004400340044,
     10035004400360044003700440043004700450048004600490047005000480037004900540052003700530054,
     10055005000580051006400500070003700710046007300370074004600750037007600460077003700800037,
     10081005200820050008300470084004700860050008700530088005000900054009200500093005000940050,
     100950050009600550097003700980037010000370102003701040056010900570120005801210059],
   [10001004400060044000700450008004400150060001600440017004600180046002000440022004400230044,
     10024004400250044002700440028004400290044003000440031004400320044003300440034004400350044,
     10036004400370044004300470045004800460049004700500048003700490054005200370053005400550050,
     10058005100640050007000370071004600730037007400460075003700760046007700370080003700810052,
     10082005000830047008400470086005000870053008800500090005400920050009300500094005000950050,
     1009600550097003700980037010000370102003701040056010900570120006001210059],
   [100020070000300710006007200170046001800460071004600740046007600460104005601210073],
   [10001004400060044000700450008004400150092001600440017004600180046002000440022004400230044,
     10024004400250044002700440028004400290044003000440031004400320044003300440034004400350044,
     10036004400370044004300470045004800460049004700500048003700490089005100880052003700530089,
     10055005000580051006400500070003700710046007300370074004600750037007600460077003700800037,
     10081005200820050008300470084004700860050008700530088005000900089009100900092005000930050,
     10094005000950050009600550097008200980037010000370102003701040056010900570112008801130090,
     10114009001150088011600910117009101200092012100930126009401270095],
   [100090100001101010012010100970102],
   [100430104],
   [100190108004901070053010700900107],
   [100190109004901070053010700900107],
   [100430110],
   [100430111],
   [100260114],
   [10007111400430877004501250046087800470879004808750049012800500126005208750053012800550879,
     10058111600640879007008750073087500750875007708750080087500810880008208790083012700840127,
     10086087900871117008808790090012800920879009308790094087900950879009601290097087500980875,
     101000875010208750104005601091119011101300112013101210132],
   [10007004500430047004501360046004900470050004800370049005400520037005300540055005000580051,
     10064005000700037007300370075003700770037008000370081005200820050008300470084004700860050,
     10087005300880050009000540092005000930050009400500095005000970037009800370100003701020037,
     1010400560109005701211405],
   [100430137],
   [10001004400060044000700450008004400150138001600440017004600180046002000440022004400230044,
     10024004400250044002700440028004400290044003000440031004400320044003300440034004400350044,
     10036004400370044004300470045004800460049004700500048003700490054005200370053005400550050,
     10058005100640050007000370071004600730037007400460075003700760046007700370080003700810052,
     10082005000830047008400470086005000870053008800500090005400920050009300500094005000950050,
     10096005500970037009800370100003701020037010400560109005701211514],
   [100200140],
   [10007004500430047004501470046004900470050004800370049005400520037005300540055005000580051,
     10064005000700037007300370075003700770037008000370081005200820050008300470084004700860050,
     10087005300880050009000540092005000930050009400500095005000960148009700370098003701000037,
     101020037010400560109005701211405],
   [10007004500430047004501490046004900470050004800370049005400520037005300540055005000580051,
     10064005000700037007300370075003700770037008000370081005200820050008300470084004700860050,
     10087005300880050009000540092005000930050009400500095005000960150009700370098003701000037,
     101020037010400560109005701211405],
   [10007004500430047004501520046004900470050004800370049005400520037005300540055005000580051,
     10064005000700037007300370075003700770037008000370081005200820050008300470084004700860050,
     10087005300880050009000540092005000930050009400500095005000970037009800370100003701020037,
     1010400560109005701211405],
   [10007111400430877004501550046087800470879004808750049012800500156005208750053012800550879,
     10058111600640879007008750073087500750875007708750080087500810880008208790083012700840127,
     10086087900871117008808790090012800910157009208790093087900940879009508790097087500980875,
     1010008750102087501040056010911190111015801120131012101320128015901290160],
   [10060016400610165],
   [101350167],
   [101360168],
   [10072017201070173],
   [101090178],
   [101090181],
   [10007004500431115004501830046018400470879004800370049111800520037005311180055087900581116,
     10064087900700037007300370075003700770037008000370081018500820879008311150084111500860879,
     10087129800880879009011180092087900930879009408790095087900970037009800370100003701020037,
     1010400560109005701211405],
   [10007004500430047004501860046004900470050004800370049005400520037005300540055005000580051,
     10064005000700037007300370075003700770037008000370081005200820050008300470084004700860050,
     10087005300880050009000540092005000930050009400500095005000970037009800370100003701020037,
     1010400560109005701211405],
   [10007004500430047004501880046004900470050004800370049005400520037005300540055005000580051,
     10064005000700037007300370075003700770037008000370081005200820050008300470084004700860050,
     10087005300880050009000540092005000930050009400500095005000970037009800370100003701020037,
     1010400560109005701211405],
   [10099019101370191],
   [10105019501060196],
   [101030200],
   [10103020001340218],
   [100980220],
   [1005502240056022400581297006302230064022401300224],
   [10001004400060044000700450008004400150227001600440017004600180046002000440022004400230044,
     10024004400250044002700440028004400290044003000440031004400320044003300440034004400350044,
     10036004400370044004300470045004800460049004700500048003700490054005200370053005400550050,
     10058005100640050007000370071004600730037007400460075003700760046007700370080003700810052,
     10082005000830047008400470086005000870053008800500090005400920050009300500094005000950050,
     1009600550097003700980037010000370102003701040056010900570120022701210059],
   [10104005601210230],
   [100100233],
   [10006023600070045001700460018004600430047004502370046004900470050004800370049005400520037,
     10053005400550050005800510064005000700037007100460073003700740046007500370076004600770037,
     10080003700810052008200500083004700840047008600500087005300880050009000540092005000930050,
     1009400500095005000970037009800370100003701020037010400560109005701210238]]

def gotos1 : List (List Nat) :=
  [[1000402410005024200970242],
   [10001004400060044000700450008004400150243001600440017004600180046002000440022004400230044,
     10024004400250044002700440028004400290044003000440031004400320044003300440034004400350044,
     10036004400370044004300470045004800460049004700500048003700490054005200370053005400550050,
     10058005100640050007000370071004600730037007400460075003700760046007700370080003700810052,
     10082005000830047008400470086005000870053008800500090005400920050009300500094005000950050,
     10096005500970037009800370100003701020037010400560109005701210059],
   [10007004500430047004502440046004900470050004800370049005400520037005300540055005000580051,
     10064005000700037007300370075003700770037008000370081005200820050008300470084004700860050,
     10087005300880050009000540092005000930050009400500095005000970037009800370100003701020037,
     1010400560109005701211405],
   [10007004500200249004300470045025000460049004700500048003700490054005200370053005400550050,
     10058005100640050007000370073003700750037007700370080003700810052008200500083004700840047,
     10086005000870053008800500090005400920050009300500094005000950050009700370098003701000037,
     101020037010400560109005701211405],
   [10002007000030071000600720017004600180046007100460074004600760046010400560121007301260255,
     101270256],
   [1009702590116025901170259],
   [10049026600510265005302660090026600910267009700910104005601120265011302670114026701150265,
     1011600910117009101210268],
   [1001901090049010700530107009001070126025501270256],
   [10007111400430877004502700046087800470879004808750049012800500156005208750053012800550879,
     10058111600640879007008750073087500750875007708750080087500810880008208790083012700840127,
     10086087900871117008808790090012800910157009208790093087900940879009508790097087500980875,
     1010008750102087501040056010911190111015801120131012101320128015901290160],
   [1009702590109017801160259011702590126025501270256],
   [10007111400430877004502790046087800470879004808750049028100520875005302810055087900581116,
     10064087900700875007308750075087500770875008008750081088000820879008302800084028000860879,
     10087111700880879009002810092087900930879009408790095087900970875009808750100087501020875,
     1010400560109111901210132],
   [10126025501270256],
   [10097025901160259011702590126025501270256],
   [101270287],
   [101260291],
   [101090293],
   [10097030201040056011603020117030201210230],
   [101260303],
   [101270304],
   [1000503090013031000970309],
   [100100313],
   [100140316],
   [10007111400430877004511410046087800470879004808750049129900520875005312990055087900581116,
     10064087900700875007308750075087500770875008008750081088000820879008308770084087700860879,
     10087111700880879009012990092087900930879009408790095087900961142009708750098087501000875,
     101020875010400560109111901210132],
   [10001004400060044000700450008004400150317001600440017004600180046002000440022004400230044,
     10024004400250044002700440028004400290044003000440031004400320044003300440034004400350044,
     10036004400370044004300470045004800460049004700500048003700490054005200370053005400550050,
     10058005100640050007000370071004600730037007400460075003700760046007700370080003700810052,
     10082005000830047008400470086005000870053008800500090005400920050009300500094005000950050,
     10096005500970037009800370100003701020037010400560109005701210059],
   [100490266005111270053026600900266009703200112112701151127011603200117032001271131],
   [10007111400431491004511660046087800470879004808750049140400501147005208750053140400550879,
     10058111600640879007008750073087500750875007708750080087500810880008208790083088800840888,
     10086087900871298008808790090140400920879009308790094087900950879009708750098087501000875,
     101020875010400560109130001111149011201310121013201291151],
   [100890324],
   [101240327],
   [101240329],
   [10001004400060044000700450008004400150330001600440017004600180046002000440022004400230044,
     10024004400250044002700440028004400290044003000440031004400320044003300440034004400350044,
     10036004400370044004300470045004800460049004700500048003700490054005200370053005400550050,
     10058005100640050007000370071004600730037007400460075003700760046007700370080003700810052,
     10082005000830047008400470086005000870053008800500090005400920050009300500094005000950050,
     10096005500970037009800370100003701020037010400560109005701210059],
   [100380332],
   [10007111400170340001803400036034000430341004503420046087800470879004808750049034300520875,
     10053034300550879005811160064087900700875007308750075087500770875008008750081088000820879,
     10083034100840341008608790087111700880879009003430092087900930879009408790095087900960344,
     100970875009808750100087501020875010400560109111901210132],
   [100260346],
   [10001004400060044000700450008004400150347001600440017004600180046002000440022004400230044,
     10024004400250044002700440028004400290044003000440031004400320044003300440034004400350044,
     10036004400370044004300470045004800460049004700500048003700490054005200370053005400550050,
     10058005100640050007000370071004600730037007400460075003700760046007700370080003700810052,
     10082005000830047008400470086005000870053008800500090005400920050009300500094005000950050,
     10096005500970037009800370100003701020037010400560109005701210059],
   [10049026600510088005302660090026600911128009700910104005601120088011311280114112801150088,
     10116009101170091012102680126113001270095],
   [10072116001070897],
   [101091163],
   [101091164],
   [10007111400431491004511660046087800470879004808750049143300520875005314330055087900581116,
     10064087900700875007308750075087500770875008008750081088000820879008309350084093500860879,
     10087129800880879009014330092087900930879009408790095087900970875009808750100087501020875,
     1010400560109130001210132],
   [10103090601340920]]

def gotos2 : List (List Nat) :=
  [[101390360],
   [10001004400060044000700450008004400150363001600440017004600180046002000440022004400230044,
     10024004400250044002700440028004400290044003000440031004400320044003300440034004400350044,
     10036004400370044004300470045004800460049004700500048003700490054005200370053005400550050,
     10058005100640050007000370071004600730037007400460075003700760046007700370080003700810052,
     10082005000830047008400470086005000870053008800500090005400920050009300500094005000950050,
     10096005500970037009800370100003701020037010400560109005701210059],
   [10001004400060044000700450008004400150092001600440017004600180046002000440022004400230044,
     10024004400250044002700440028004400290044003000440031004400320044003300440034004400350044,
     10036004400370044004300470045004800460049004700500048003700490054005200370053005400550050,
     10058005100640050007000370071004600730037007400460075003700760046007700370080003700810052,
     10082005000830047008400470086005000870053008800500090005400920050009300500094005000950050,
     1009600550097003700980037010000370102003701040056010900570120009201210059],
   [10041036800420369],
   [10007004500430047004503740046004900470050004800370049005400520037005300540055005000580051,
     10064005000700037007300370075003700770037008000370081005200820050008300470084004700860050,
     10087005300880050009000540092005000930050009400500095005000970037009800370100003701020037,
     1010400560109005701211405],
   [10007111400430877004503750046087800470879004808750049012800500376005208750053012800550879,
     10058111600640879007008750073087500750875007708750080087500810880008208790083012700840127,
     10086087900871117008808790090012800910377009208790093087900940879009508790097087500980875,
     101000875010208750104005601091119011103780112013101210132],
   [10103090601280381],
   [101290383],
   [101280381],
   [101280384],
   [101290385],
   [100560390006103910067039001310392],
   [101350395],
   [101360396],
   [1009704040104005601080401011004020113040301160404011704040121040501380406],
   [10007111400431491004504070046087800470879004808750049111800520875005311180055087900581116,
     10064087900700875007308750075087500770875008008750081088000820879008314910084149100860879,
     10087129800880879009011180092087900930879009408790095087900970875009808750100087501020875,
     1010400560109130001210132],
   [10072040801070409],
   [101070410],
   [10007111400431491004511660046087800470879004808750049140400500126005208750053140400550879,
     10058111600640879007008750073087500750875007708750080087500810880008208790083088800840888,
     10086087900871298008808790090140400920879009308790094087900950879009708750098087501000875,
     1010208750104005601091300011101300112013101210132],
   [101090414],
   [101090418],
   [101090419],
   [100200420],
   [10098022001030421],
   [10007111400430877004504230046087800470879004808750049129900520875005312990055087900581116,
     10064087900700875007308750075087500770875008008750081088000820879008308770084087700860879,
     10087111700880879009012990092087900930879009408790095087900960424009708750098087501000875,
     101020875010400560109111901210132],
   [10099042601370426],
   [10007004500430047004504270046004900470050004800370049005400520037005300540055005000580051,
     10064005000700037007300370075003700770037008000370081005200820050008300470084004700860050,
     10087005300880050009000540092005000930050009400500095005000970037009800370100003701020037,
     1010400560109005701211405],
   [10007004500200428004300470045042900460049004700500048003700490054005200370053005400550050,
     10058005100640050007000370073003700750037007700370080003700810052008200500083004700840047,
     10086005000870053008800500090005400920050009300500094005000950050009700370098003701000037,
     101020037010400560109005701211405],
   [10007004500430047004504300046004900470050004800370049005400520037005300540055005000580051,
     10064005000700037007300370075003700770037008000370081005200820050008300470084004700860050,
     10087005300880050009000540092005000930050009400500095005000970037009800370100003701020037,
     1010400560109005701211405],
   [101030432],
   [10007111400430877004504350046087800470879004808750049129900520875005312990055087900581116,
     10064087900700875007308750075087500770875008008750081088000820879008308770084087700860879,
     10087111700880879009012990091043600920879009308790094087900950879009708750098087501000875,
     10102087501040056010911190121013201280437],
   [10007111400431491004504420046087800470879004808750049111800520875005311180055087900581116,
     10064087900700875007308750075087500770875008008750081088000820879008314910084149100860879,
     10087129800880879009011180092087900930879009408790095087900970875009808750100087501020875,
     1010400560109130001210132],
   [10007004500430047004504430046004900470050004800370049005400520037005300540055005000580051,
     10064005000700037007300370075003700770037008000370081005200820050008300470084004700860050,
     10087005300880050009000540092005000930050009400500095005000970037009800370100003701020037,
     1010400560109005701211405],
   [10007004500430047004504440046004900470050004800370049005400520037005300540055005000580051,
     10064005000700037007300370075003700770037008000370081005200820050008300470084004700860050,
     10087005300880050009000540092005000930050009400500095005000970037009800370100003701020037,
     1010400560109005701211405],
   [10007111400430877004504450046087800470879004808750049129900520875005312990055087900581116,
     10064087900700875007308750075087500770875008008750081088000820879008308770084087700860879,
     10087111700880879009012990092087900930879009408790095087900960446009708750098087501000875,
     101020875010400560109111901210132],
   [10007004500430047004504480046004900470050004800370049005400520037005300540055005000580051,
     10064005000700037007300370075003700770037008000370081005200820050008300470084004700860050,
     10087005300880050009000540092005000930050009400500095005000970037009800370100003701020037,
     1010400560109005701211405],
   [10007004500430047004504490046004900470050004800370049005400520037005300540055005000580051,
     10064005000700037007300370075003700770037008000370081005200820050008300470084004700860050,
     10087005300880050009000540092005000930050009400500095005000970037009800370100003701020037,
     1010400560109005701211405],
   [10007004500430047004504500046004900470050004800370049005400520037005300540055005000580051,
     10064005000700037007300370075003700770037008000370081005200820050008300470084004700860050,
     10087005300880050009000540092005000930050009400500095005000970037009800370100003701020037,
     1010400560109005701211405],
   [10007004500430047004504510046004900470050004800370049005400520037005300540055005000580051,
     10064005000700037007300370075003700770037008000370081005200820050008300470084004700860050,
     10087005300880050009000540092005000930050009400500095005000970037009800370100003701020037,
     1010400560109005701211405],
   [10007004500430047004504520046004900470050004800370049005400520037005300540055005000580051,
     10064005000700037007300370075003700770037008000370081005200820050008300470084004700860050,
     10087005300880050009000540092005000930050009400500095005000970037009800370100003701020037,
     1010400560109005701211405]]

def gotos3 : List (List Nat) :=
  [[10007004500430047004504530046004900470050004800370049005400520037005300540055005000580051,
     10064005000700037007300370075003700770037008000370081005200820050008300470084004700860050,
     10087005300880050009000540092005000930050009400500095005000970037009800370100003701020037,
     1010400560109005701211405],
   [10007004500430047004504540046004900470050004800370049005400520037005300540055005000580051,
     10064005000700037007300370075003700770037008000370081005200820050008300470084004700860050,
     10087005300880050009000540092005000930050009400500095005000970037009800370100003701020037,
     1010400560109005701211405],
   [10007004500430047004504550046004900470050004800370049005400520037005300540055005000580051,
     10064005000700037007300370075003700770037008000370081005200820050008300470084004700860050,
     10087005300880050009000540092005000930050009400500095005000970037009800370100003701020037,
     1010400560109005701211405],
   [10007004500430047004504560046004900470050004800370049005400520037005300540055005000580051,
     10064005000700037007300370075003700770037008000370081005200820050008300470084004700860050,
     10087005300880050009000540092005000930050009400500095005000970037009800370100003701020037,
     1010400560109005701211405],
   [10007004500430047004504570046004900470050004800370049005400520037005300540055005000580051,
     10064005000700037007300370075003700770037008000370081005200820050008300470084004700860050,
     10087005300880050009000540092005000930050009400500095005000970037009800370100003701020037,
     1010400560109005701211405],
   [101340458],
   [101030459],
   [10007111400430877004504610046087800470879004808750049129900520875005312990055087900581116,
     10064087900700875007308750075087500770875008008750081088000820879008308770084087700860879,
     10087111700880879009012990091046200920879009308790094087900950879009604620097087500980875,
     10100087501020875010400560109111901210132],
   [10060046600610467],
   [1005504690056046900581297006304680064046901300469],
   [10007004500430047004504700046004900470050004800370049005400520037005300540055005000580051,
     10064005000700037007300370075003700770037008000370081005200820050008300470084004700860050,
     10087005300880050009000540092005000930050009400500095005000970037009800370100003701020037,
     1010400560109005701211405],
   [10007004500200471004300470045047200460049004700500048003700490054005200370053005400550050,
     10058005100640050007000370073003700750037007700370080003700810052008200500083004700840047,
     10086005000870053008800500090005400920050009300500094005000950050009700370098003701000037,
     101020037010400560109005701211405],
   [10006047400170046001800460071004600740046007600460104005601210073],
   [10072047601070477],
   [10005047800970478],
   [100970479],
   [101220485],
   [10072048701070488],
   [101090492],
   [10007004500430047004504940046004900470050004800370049005400520037005300540055005000580051,
     10064005000700037007300370075003700770037008000370081005200820050008300470084004700860050,
     10087005300880050009000540092005000930050009400500095005000970037009800370100003701020037,
     1010400560109005701211405],
   [10007111400430877004504970046087800470879004808750049129900520875005312990055087900581116,
     10064087900700875007308750075087500770875008008750081088000820879008308770084087700860879,
     10087111700880879009012990092087900930879009408790095087900970875009808750100087501020875,
     1010400560109111901210132],
   [101090498],
   [10007111400430877004504970046087800470879004808750049012800500156005208750053012800550879,
     10058111600640879007008750073087500750875007708750080087500810880008208790083105400841054,
     10086087900871117008808790090012800920879009308790094087900950879009708750098087501000875,
     101020875010400560109111901110158011201310121013201290160],
   [1009705020116050201170502],
   [101030906],
   [10007004500430047004505030046004900470050004800370049005400520037005300540055005000580051,
     10064005000700037007300370075003700770037008000370081005200820050008300470084004700860050,
     10087005300880050009000540092005000930050009400500095005000970037009800370100003701020037,
     1010400560109005701211405],
   [1004902660051026500530266009002660097032001120265011502650116032001170320],
   [10007004500430047004505080046004900470050004800370049005400520037005300540055005000580051,
     10064005000700037007300370075003700770037008000370081005200820050008300470084004700860050,
     10087005300880050009000540092005000930050009400500095005000970037009800370100003701020037,
     1010400560109005701211405],
   [10091026700970513010400560113026701140267011605130117051301210268],
   [10007111400430877004505150046087800470879004808750049012800500516005208750053012800550879,
     10058111600640879007008750073087500750875007708750080087500810880008208790083012700840127,
     10086087900871117008808790090012800920879009308790094087900950879009708750098087501000875,
     1010208750104005601091119011105170112013101210132],
   [100200518],
   [1009705200116052001170520],
   [1009705240116052401170524],
   [1009705290116052901170529],
   [1009705340116053401170534],
   [1009705350116053501170535],
   [1009705360116053601170536],
   [101090537],
   [101230542],
   [10011054300120543]]

def gotos4 : List (List Nat) :=
  [[100140546],
   [100480548],
   [101271178],
   [10007111400431491004511660046087800470879004808750049140400500376005208750053140400550879,
     10058111600640879007008750073087500750875007708750080087500810880008208790083088800840888,
     10086087900871298008808790090140400920879009308790094087900950879009708750098087501000875,
     1010208750104005601091300011103780112013101210132],
   [10007004500430047004505520046004900470050004800370049005400520037005300540055005000580051,
     10064005000700037007300370075003700770037008000370081005200820050008300470084004700860050,
     10087005300880050009000540092005000930050009400500095005000970037009800370100003701020037,
     1010400560109005701211405],
   [100190553004901070053010700900107],
   [101240555],
   [100210558],
   [1003905620040056201250562],
   [100190108004905640053056400900564],
   [100190109004905650053056500900565],
   [10007111400360567004308770045056800460878004708790048087500491299005208750053129900550879,
     10058111600640879007008750073087500750875007708750080087500810880008208790083087700840877,
     10086087900871117008808790090129900920879009308790094087900950879009605690097087500980875,
     10100087501020875010400560109111901210132],
   [10007111400431439004511660046087800470879004808750049144000520875005314400055087900581116,
     10064087900700875007308750075087500770875008008750081088000820879008314390084143900860879,
     10087129800880879009014400092087900930879009408790095087900970875009808750100087501020875,
     1010400560109130001210132],
   [10001004400060044000700450008004400150574001600440017004600180046002000440022004400230044,
     10024004400250044002700440028004400290044003000440031004400320044003300440034004400350044,
     10036004400370044004300470045004800460049004700500048003700490054005200370053005400550050,
     10058005100640050007000370071004600730037007400460075003700760046007700370080003700810052,
     10082005000830047008400470086005000870053008800500090005400920050009300500094005000950050,
     10096005500970037009800370100003701020037010400560109005701210059],
   [10126117701270256],
   [10097025901160259011702590126117701270256],
   [10072057501070576],
   [101091196],
   [101091197],
   [101090580],
   [10007111400431491004511660046087800470879004808750049140400500582005208750053140400550879,
     10058111600640879007008750073087500750875007708750080087500810880008208790083088800840888,
     10086087900871298008808790090140400920879009308790094087900950879009708750098087501000875,
     1010208750104005601091300011105830112013101210132],
   [101390585],
   [10007111400430877004505860046087800470879004808750049129900520875005312990055087900581116,
     10064087900700875007308750075087500770875008008750081088000820879008308770084087700860879,
     10087111700880879009012990092087900930879009408790095087900970875009808750100087501020875,
     1010400560109111901210132],
   [10072121201070999],
   [100430588],
   [100200590],
   [100200591],
   [100420592],
   [10007111400430877004503750046087800470879004808750049129900520875005312990055087900581116,
     10064087900700875007308750075087500770875008008750081088000820879008308770084087700860879,
     10087111700880879009012990091037700920879009308790094087900950879009708750098087501000875,
     101020875010400560109111901210132],
   [100560390006103910067039001310600],
   [100200602009706030116060301170603],
   [10089060501090293],
   [10097060701040056011606070117060701210230],
   [1009704040104005601080401011004020113040301160404011704040121040501380609],
   [101070610],
   [10007004500200612004300470045061300460049004700500048003700490054005200370053005400550050,
     10058005100640050007000370073003700750037007700370080003700810052008200500083004700840047,
     10086005000870053008800500090005400920050009300500094005000950050009700370098003701000037,
     101020037010400560109005701211405],
   [101090615],
   [101090616],
   [100200617],
   [10007004500200618004300470045061900460049004700500048003700490054005200370053005400550050,
     10058005100640050007000370073003700750037007700370080003700810052008200500083004700840047,
     10086005000870053008800500090005400920050009300500094005000950050009700370098003701000037,
     101020037010400560109005701211405]]

def gotos5 : List (List Nat) :=
  [[10007004500200620004300470045062100460049004700500048003700490054005200370053005400550050,
     10058005100640050007000370073003700750037007700370080003700810052008200500083004700840047,
     10086005000870053008800500090005400920050009300500094005000950050009700370098003701000037,
     101020037010400560109005701211405],
   [101090622],
   [100200623],
   [100200624],
   [10007111400430877004502790046087800470879004808750049129900520875005312990055087900581116,
     10064087900700875007308750075087500770875008008750081088000820879008308770084087700860879,
     10087111700880879009012990092087900930879009408790095087900970875009808750100087501020875,
     1010400560109111901210132],
   [10103090601280629],
   [101280629],
   [10007111400430877004506320046087800470879004808750049129900520875005312990055087900581116,
     10064087900700875007308750075087500770875008008750081088000820879008308770084087700860879,
     10087111700880879009012990092087900930879009408790095087900960633009708750098087501000875,
     101020875010400560109111901210132],
   [10055046900560469005812970064046901300469],
   [10006063600070045001700460018004600430047004506370046004900470050004800370049005400520037,
     10053005400550050005800510064005000700037007100460073003700740046007500370076004600770037,
     10080003700810052008200500083004700840047008600500087005300880050009000540092005000930050,
     1009400500095005000970037009800370100003701020037010400560109005701210238],
   [10072063801070639],
   [101070640],
   [1000406420005024200970242],
   [101220644],
   [10005064500970645],
   [101070646],
   [101090648],
   [101090649],
   [100200650],
   [10072065101070652],
   [100200654],
   [10007111400430877004506550046087800470879004808750049129900520875005312990055087900581116,
     10064087900700875007308750075087500770875008008750081088000820879008308770084087700860879,
     10087111700880879009012990092087900930879009408790095087900970875009808750100087501020875,
     1010400560109111901210132],
   [10007111400430877004506560046087800470879004808750049129900520875005312990055087900581116,
     10064087900700875007308750075087500770875008008750081088000820879008308770084087700860879,
     10087111700880879009012990092087900930879009408790095087900970875009808750100087501020875,
     1010400560109111901210132],
   [101090657],
   [1009706580116065801170658],
   [101090660],
   [1009706610116066101170661],
   [1009706620116066201170662],
   [1009706630116066301170663],
   [101090664],
   [1009706650116066501170665],
   [1009706690116066901170669],
   [1009706700116067001170670],
   [1009706710116067101170671],
   [101090672],
   [1009706730116067301170673],
   [1009706770116067701170677],
   [1009706780116067801170678],
   [1009706790116067901170679],
   [101090680]]

def gotos6 : List (List Nat) :=
  [[101090681],
   [101090682],
   [100200683],
   [1000503090013068600970309],
   [101230688],
   [1009113070097051301040056011313070114130701160513011705130121026801261309],
   [10007111400431491004511660046087800470879004808750049140400500516005208750053140400550879,
     10058111600640879007008750073087500750875007708750080087500810880008208790083088800840888,
     10086087900871298008808790090140400920879009308790094087900950879009708750098087501000875,
     1010208750104005601091300011105170112013101210132],
   [10001004400060044000700450008004400150696001600440017004600180046002000440022004400230044,
     10024004400250044002700440028004400290044003000440031004400320044003300440034004400350044,
     10036004400370044004300470045004800460049004700500048003700490054005200370053005400550050,
     10058005100640050007000370071004600730037007400460075003700760046007700370080003700810052,
     10082005000830047008400470086005000870053008800500090005400920050009300500094005000950050,
     10096005500970037009800370100003701020037010400560109005701210059],
   [10007111400430877004506980046087800470879004808750049129900520875005312990055087900581116,
     10064087900700875007308750075087500770875008008750081088000820879008308770084087700860879,
     10087111700880879009012990092087900930879009408790095087900960699009708750098087501000875,
     101020875010400560109111901210132],
   [1003907010040070101250701],
   [10007111400430877004507020046087800470879004808750049129900520875005312990055087900581116,
     10064087900700875007308750075087500770875008008750081088000820879008308770084087700860879,
     10087111700880879009012990092087900930879009408790095087900960703009708750098087501000875,
     101020875010400560109111901210132],
   [100890705],
   [10007111400430877004507070046087800470879004808750049129900520875005312990055087900581116,
     10064087900700875007308750075087500770875008008750081088000820879008308770084087700860879,
     10087111700880879009012990092087900930879009408790095087900960708009708750098087501000875,
     101020875010400560109111901210132],
   [10007111400430877004507100046087800470879004808750049129900520875005312990055087900581116,
     10064087900700875007308750075087500770875008008750081088000820879008308770084087700860879,
     10087111700880879009012990092087900930879009408790095087900960711009708750098087501000875,
     101020875010400560109111901210132],
   [10007111400360713004308770045071400460878004708790048087500491299005208750053129900550879,
     10058111600640879007008750073087500750875007708750080087500810880008208790083087700840877,
     10086087900871117008808790090129900920879009308790094087900950879009607150097087500980875,
     10100087501020875010400560109111901210132],
   [1004907160053071600900716],
   [1004907170053071700900717],
   [101070718],
   [101091218],
   [101090720],
   [101090721],
   [100200722],
   [10072072501070726],
   [1004907280053072800900728],
   [10055073100560731005813510064073100680731],
   [10055073200560732005813510064073200680732],
   [10089073301090498],
   [1009707340116073401170734],
   [10089073501090537],
   [101090737],
   [100200738],
   [100200739],
   [100200740],
   [10007004500430047004507430046004900470050004800370049005400520037005300540055005000580051,
     10064005000700037007300370075003700770037008000370081005200820050008300470084004700860050,
     10087005300880050009000540092005000930050009400500095005000970037009800370100003701020037,
     1010400560109005701211405],
   [101070747],
   [101090751],
   [100200752],
   [100200753],
   [101070754],
   [100200755]]

def gotos7 : List (List Nat) :=
  [[101090756],
   [10007111400430877004505150046087800470879004808750049129900520875005312990055087900581116,
     10064087900700875007308750075087500770875008008750081088000820879008308770084087700860879,
     10087111700880879009012990092087900930879009408790095087900970875009808750100087501020875,
     1010400560109111901210132],
   [100200757],
   [101090758],
   [101090759],
   [101090760],
   [100200761],
   [101090762],
   [1009707630116076301170763],
   [1009707640116076401170764],
   [1009707650116076501170765],
   [101090766],
   [101090767],
   [101090768],
   [100200769],
   [101090770],
   [1009707710116077101170771],
   [1009707720116077201170772],
   [1009707730116077301170773],
   [101090774],
   [101090775],
   [101090776],
   [100200777],
   [100200778],
   [100200779],
   [101261328],
   [100970259011602590117025901261328],
   [10001004400060044000700450008004400150783001600440017004600180046002000440022004400230044,
     10024004400250044002700440028004400290044003000440031004400320044003300440034004400350044,
     10036004400370044004300470045004800460049004700500048003700490054005200370053005400550050,
     10058005100640050007000370071004600730037007400460075003700760046007700370080003700810052,
     10082005000830047008400470086005000870053008800500090005400920050009300500094005000950050,
     1009600550097003700980037010000370102003701040056010900570120078301210059],
   [10007111400430877004507860046087800470879004808750049129900520875005312990055087900581116,
     10064087900700875007308750075087500770875008008750081088000820879008308770084087700860879,
     10087111700880879009012990092087900930879009408790095087900960787009708750098087501000875,
     101020875010400560109111901210132],
   [10001004400060044000700450008004400150792001600440017004600180046002000440022004400230044,
     10024004400250044002700440028004400290044003000440031004400320044003300440034004400350044,
     10036004400370044004300470045004800460049004700500048003700490054005200370053005400550050,
     10058005100640050007000370071004600730037007400460075003700760046007700370080003700810052,
     10082005000830047008400470086005000870053008800500090005400920050009300500094005000950050,
     10096005500970037009800370100003701020037010400560109005701210059],
   [10007111400430877004507950046087800470879004808750049129900520875005312990055087900581116,
     10064087900700875007308750075087500770875008008750081088000820879008308770084087700860879,
     10087111700880879009012990092087900930879009408790095087900960796009708750098087501000875,
     101020875010400560109111901210132],
   [10007111400430877004507980046087800470879004808750049129900520875005312990055087900581116,
     10064087900700875007308750075087500770875008008750081088000820879008308770084087700860879,
     10087111700880879009012990092087900930879009408790095087900960799009708750098087501000875,
     101020875010400560109111901210132],
   [100890801],
   [101090802],
   [100200803],
   [100200804],
   [101070805],
   [101320808],
   [101330809],
   [10089081001090672]]

end PageLint.Script.Grammar
