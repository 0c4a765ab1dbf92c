import ServiceWatch.Unicode.CodeSet

/-! Properties that a code point has or has not, from run-length tables for version 16 of the standard. -/
namespace ServiceWatch.Unicode.Property

/-- The names of each property in lower case and without separators, and its run lengths. -/
def table : List (List String × List String) :=
  [
    (["ahex", "asciihexdigit"],
      ["48jgfzf"]),
    (["alpha", "alphabetic"],
      ["65zfz47ajadaewa31a458dlnegaaa86a29rabbdaafaacaaata83a139h166a38baf41.39naaababaah27dd29ke5",
        "6agn102ahdhdcjcbap48m101x33ibdaexbssygkexafhah42jlcgf76apacdomsahbbbvagaacdchbbbbaahadbael",
        "bjadcafdbbvagabababdedbbbdagdaaqfkcaiacavagabaeciacabcaoduddcahbbbvagabaechbbbbibdbaemapba",
        "fccadcbaaabcbcccldeccaccafa40macawapchacachbacbabd28dahacawajaechacachbfbadmclmaca41bhacac",
        "aaedgevfacarcxaiaabghfaaahrbm58egfa51baaaeaxaaasacbeaafand32a63ha36dsdpa36.67.55aabep64jdb",
        "38aaeab43a333adbgaaadb41adb33adbgaaadboa57adb67.37pp86bfc620bqaze75ckgtkultlmacabl52bsnada",
        "67.89g43e70j31aldiw30bek44dz54.28d63bt50awbkc49.52aoah51.42bdj44akn55vcj36bke43bc41dafabca",
        "e192s34k278bfb38bfbhaaaaaaa31b53agaaccagcdbfdmecag116amapm101adabjaacefaaaaaadakbdeedaq41.",
        "813.52.1814.229fdcbl38aaeab56gapwigagagagagagagaga32.47a469cyigebed86fca90ade43a94q32.48p5",
        "12.6592.64.22157.67.46b269cpjbt47ehc113.39ib103b67bbaaahuta33x52l68aa44fcaacj33e35m29c51al",
        "oappjea55inrwc69aaaaxcbpbdkfbfbfigaga43anf123u11172lwd49.8452.366b106.38gleelamaeaaababa10",
        "8.33.363r64b54.40l116ea135.36zfzk89cfbfbfbc35lazasabaobn34.123.69.53.267.29c49.47.32m30e43",
        "e30b36dhae42.158r36d36d40h52lkaoagabakaoagabc52l311ivjhxfa42ai69fbaa44abcabwjwi31.65sabjvj",
        "z70.56fb64dabehaca29.42.29c29.35ha28.27.54jvjsmr110.73.55.51m51m40.34.28caew250.42abcbpc55",
        "ac29jahv42r46u27wi70.43ej57iamyw51qdh35cai64adibjaaa35ra34bafd62gaaadaoajg57wdahbbbvagabae",
        "chbbbbcafaeg28jaabaa38ajaabaadabcaaa44.66acadtc30.66bbaa184.54bgyf34.63aaca59.54ba71.27bnu",
        "g185.57.103.64.31hbabhaba30abbbbd93hb46bfaaab27.51bjq72ear73.199.33.31ia45agaa49.30bvan73g",
        "aba44caabacaabbxfaba37abadaa327wiqa41cc111a79.922.102.111q196.2636.97o1072qfy3995e583.6841",
        ".47.1745.569g31q79q30r48pd31ues432.45.211.64.128.75d57gq64baalbn6136h1238.41j8935dagaba291",
        "oa29cbandh396.2308.107emcigjda5985.85a71abbabbbdalaaaga65adbhaga28adaeaacga340byaya31aya31",
        "aya31aya31ayah1844.31ff213gaqbgabaee62.33a112.45jgpa321.30r44.484.28.228.30ba495gadabaoa19",
        "7.59.68caca1204da27abaabaajadaaaafadaaaaaacabaabaaaaaaaaaabaabdagadadaaajaqecaeaq628zfzfz3",
        "702.42720.32.4154f222b5762n7473o622.2466.542.1506.4939e4192"]),
    (["bidic", "bidicontrol"],
      ["1564a6641bze55d"]),
    (["bidim", "bidimirrored"],
      ["40braaa28aaa29aaa45aoa3710d1885b2460bjb54bnb177a192dcfcacbcdadaaaadieaaredibaaaha32bdeaibb",
        "sebiebbdxbphdtbgb1085n74abdabacedeccn403vbfanhagfcadeabbedaacbbjfbblsadbaaabaadebfcxbkbdda",
        "bbbd43bha40eaaaceecdaceaa256a515dcbabnbbj43h427jbh52797feb162braaa28aaa29aaaabab55159a57a5",
        "7a57a57a"]),
    (["ci", "caseignorable"],
      ["39afaka35aaa71adaaadabb503.192dbdaibaa251g207aea49.45aaababaa44akfjkaa35ajupa101hajad33aaa",
        "30.27.91k58kdabaxx43c44agbei41.58.55aaadhdacgjbmaoa58addhatbzabb57adbdbbcca30bcakb57adeabd",
        "atbvfaa58abaadhagbkb30a61ala50aca55aacecadgbkb29a58abafaebtb28b57bddhatb29a72agcaa90abgki9",
        "8abiiaag73b27aaaaa55naeabeka36ia102dafabbbybdcpdmabbfaoa94a608c946c29b30b30b64baghabkcaea4",
        "5e51a65b34a118cdbiafc219bba58aagaaaabhfjba39ah31.49d48aaeaaea40ilb32dbbac56aabcaac58hbb64f",
        "82camagdafacb50.63ma34.101.445aackcmcmcmblehbjababe49eajaamapm51.33.2955b113c125aoa96.32.4",
        "7a469a36dceea93f93c28438a1250f270a98dajaa28d80bn34.78awc103ccbhacadaybea151bzrma38hyk46c48",
        "abdbbqaub66fbbbblaha35aka51aacbbebaa27anbebaa100eic121abada20272a147q573pcalp34aba169agafa",
        "ka35aaa47a45b67auc513a226a149e1029fa42ai582cabed40cda165b573d38azeaa315b79d70k49d123a54o41",
        "abbjc49dbbbadaja50c36eah62alb52ijdba95cbaabfaba157achub57bca37gce70fmaaaaanb85hbcaawa84faa",
        "dbab238dfbab27b85hbaab106aaabfaa101aaabdae259iab256baada144dbbda32j40fbdhaifbc46mab406gafa",
        "a82vbgabab122fcaabagaa72bcaaa347bkb52eeaaawa5333qfo11464lcc2496e59gid508c40b482a63q64bab16",
        "395dagab3230bad4700.46bw544cipbg30d148c1979.55d50hanaveao1360gaqbgabaee62.33a160n368a61d50",
        "7e254b736g109h2735e789505a30.96.128.240"]),
    (["cased"],
      ["65zfz47ajadaewa31a195add208a36gb30e96a42dbbbdaafaacaaata83a139h166a38i41.2839.38aaeab43ad6",
        "72.86bf2178ke43bc64.192.64.278bfb38bfbhaaaaaaa31b53agaaccagcdbfdmecag116amapm101adabjaacef",
        "aaaaaadafdabdeedaq32cb817.52.1814.229fdcbl38aaea30994.46r30.132.102cda62bbaaahueac821.43an",
        "f80.20288gle1033zfz1189.80.96.36d36.116kaoagabakaoagab451abca42ai1221.51m51.93vjv2842.64.2",
        "1856.64.25984.85a71abbabbbdalaaaga65adbhaga28adaeaacga340byaya31aya31aya31aya31ayah1844jat",
        "ff261.62.2194.68.2028zfzfz"]),
    (["cwcf", "changeswhencasefolded"],
      ["65z90ajwah32aaaaaaaaaaaaaaaaaaaaaaaaaaaaaaaaaaaaaaaaaaaaaaaaaaaaaaabaaaaaaaaaaaaaaaabaaaaa",
        "aaaaaaaaaaaaaaaaaaaaaaaaaaaaaaaaaaaaaaaabaaaaaaabaaabacbdabaccbabaaaaabaabaabacaaabcagbaba",
        "baaaaaaaaaaaaaaaabaaaaaaaaaaaaaaaaabbaaacaaaaaaaaaaaaaaaaaaaaaaaaaaaaaaaaaaaaaaaaaaaaaaaaa",
        "aaaaaaaaagbabbaadaaaaaaaa246a42aaacahafaacaaabaqaivalccbaaaaaaaaaaaaaaaaaaaaaaaaabbbaaabb5",
        "1.48aaaaaaaaaaaaaaaaaaaaaaaaaaaaaaaaaiaaaaaaaaaaaaaaaaaaaaaaaaaaaaaaaaaaaaaaaaaaaaaaaaaaaa",
        "aabaaaaaaaaaaaabaaaaaaaaaaaaaaaaaaaaaaaaaaaaaaaaaaaaaaaaaaaaaaaaaaaaaaaaaaaaaaaaaaaaaaaaaa",
        "aaaaaaaaaaaaaaaaaaaaab38.48a2840.38aaea810f2178jf43bc320aaaaaaaaaaaaaaaaaaaaaaaaaaaaaaaaaa",
        "aaaaaaaaaaaaaaaaaaaaaaaaaaaaaaaaaaaaaaaaaaaaaaaaaaaaaaaaaaaaaaaaaaaaaaaaaaaaaaaaaaaaaaaaaa",
        "aaaaaaaaaaaaaaaaaaaaaaaaaebbaaaaaaaaaaaaaaaaaaaaaaaaaaaaaaaaaaaaaaaaaaaaaaaaaaaaaaaaaaaaaa",
        "aaaaaaaaaaaaaaaaaaaaaaaaaaaaaaaaaaaihhfjhhhhfkaaaaaaahhp48bcbfecbfkdleecbf297acbfa45psa818",
        "z1840.48.48aacbaaaaaadaabahcaaaaaaaaaaaaaaaaaaaaaaaaaaaaaaaaaaaaaaaaaaaaaaaaaaaaaaaaaaaaaa",
        "aaaaaaaaaaaaaaaaaaaaaaaaaaaaaaaaaaaahaaada31053aaaaaaaaaaaaaaaaaaaaaaaaaaaaaaaaaaaaaaaaaaa",
        "aasaaaaaaaaaaaaaaaaaaaaaaaaaaa135aaaaaaaaaaaaacaaaaaaaaaaaaaaaaaaaaaaaaaaaaaaaaaaaaaaaaaaa",
        "aaaaaaaaaaaaaaaaaajaaaabaaaaaaaadaaabaaacaaaaaaaaaaaaaaaaaaaaeaeaaaaaaaaaaaaaaadaaabcaeaaa",
        "aaaaxa890.80.20288gle1033z1221.40.136.36.156kaoagab1770.51.157v2874.32.21888.32.31392.34"]),
    (["cwcm", "changeswhencasemapped"],
      ["65zfz58ajwa31a64a84a28bnbbaad93arf27abaaabcbadaebaabbagabaabcfeajb166a42dbbccaafaacaaata47",
        "c33aea133h166a38j39.2840.38aaeab43bc672.86bf2178ke43bc185acapa113.156baa118bfb38bfbhaaaaaa",
        "a31b53agaaccagcdbfdmecag297acbfa27aq32cb817.52.1814.113ababg102gdcbl38aaea30994.46r28.134n",
        "b62ioccbeaya30bbdgxb860a28.80.20288gle1033zfz1189.80.96.36d36.116kaoagabakaoagab1731.51m51",
        ".93vjv2842.64.21856.64.31360.68"]),
    (["cwl", "changeswhenlowercased"],
      ["65z101wag33aaaaaaaaaaaaaaaaaaaaaaaaaaaaaaaaaaaaaaaaaaaaaaaaaaaaaaabaaaaaaaaaaaaaaabaaaaaaa",
        "aaaaaaaaaaaaaaaaaaaaaaaaaaaaaaaaaaaaaaabaaaacbaaabacbdabaccbabaaaaabaabaabacaaabcagbababaa",
        "aaaaaaaaaaaaaabaaaaaaaaaaaaaaaaabbaaacaaaaaaaaaaaaaaaaaaaaaaaaaaaaaaaaaaaaaaaaaaaaaaaaaaaa",
        "aaaaaagbabbaadaaaaaaaa289aaacahafaacaaabaqai35ahaaaaaaaaaaaaaaaaaaaaaaaeabaabb51.48aaaaaaa",
        "aaaaaaaaaaaaaaaaaaaaaaaaaaiaaaaaaaaaaaaaaaaaaaaaaaaaaaaaaaaaaaaaaaaaaaaaaaaaaaaaabaaaaaaaa",
        "aaaabaaaaaaaaaaaaaaaaaaaaaaaaaaaaaaaaaaaaaaaaaaaaaaaaaaaaaaaaaaaaaaaaaaaaaaaaaaaaaaaaaaaaa",
        "aaaaaaaaaab38.2889.38aaea722.86.2195af43bc320aaaaaaaaaaaaaaaaaaaaaaaaaaaaaaaaaaaaaaaaaaaaa",
        "aaaaaaaaaaaaaaaaaaaaaaaaaaaaaaaaaaaaaaaaaaaaaaaaaaaaaaaaaaaaaaaaaaaaaaaaaaaaaaaaaaaaaaaaaa",
        "aaaaaaaaaaaaaaiaaaaaaaaaaaaaaaaaaaaaaaaaaaaaaaaaaaaaaaaaaaaaaaaaaaaaaaaaaaaaaaaaaaaaaaaaaa",
        "aaaaaaaaaaaaaaaaaaaaaaihhfjhhhhfkaaaaaaahhxhhhhhhekekdleke297acbfa45psa818z1840.48.48aacba",
        "aaaaadaabahcaaaaaaaaaaaaaaaaaaaaaaaaaaaaaaaaaaaaaaaaaaaaaaaaaaaaaaaaaaaaaaaaaaaaaaaaaaaaaa",
        "aaaaaaaaaaaaaaaaaaaahaaada31053aaaaaaaaaaaaaaaaaaaaaaaaaaaaaaaaaaaaaaaaaaaaasaaaaaaaaaaaaa",
        "aaaaaaaaaaaaaa135aaaaaaaaaaaaacaaaaaaaaaaaaaaaaaaaaaaaaaaaaaaaaaaaaaaaaaaaaaaaaaaaaaaaaaaa",
        "aajaaaabaaaaaaaadaaabaaacaaaaaaaaaaaaaaaaaaaaeaeaaaaaaaaaaaaaaadaaabcaeaaaaaaaxa22315z1221",
        ".40.136.36.156kaoagab1770.51.157v2874.32.21888.32.31392.34"]),
    (["cwt", "changeswhentitlecased"],
      ["97z58a41xahaaaaaaaaaaaaaaaaaaaaaaaaaaaaaaaaaaaaaaaaaaaaaaaaaaaaaaaabaaaaaaaaaaaaaabaaaaaaa",
        "aaaaaaaaaaaaaaaaaaaaaaaaaaaaaaaaaaaaaaabaaaacbaaabacaeabaccbabaaaaabadabacaaabacaaadaababa",
        "aaaaaaaaaaaaaaaabaaaaaaaaaaaaaaaaacaaaacaaaaaaaaaaaaaaaaaaaaaaaaaaaaaaaaaaaaaaacaaaaaaaaaa",
        "aaaaaaahabbaadaaaaaaaafabaaabcbadaebaabbagabaabcfeajb166a43aaacaccra27.35abccaaaaaaaaaaaaa",
        "aaaaaaaaaaeaababa52.48aaaaaaaaaaaaaaaaaaaaaaaaaaaaaaaaaaiaaaaaaaaaaaaaaaaaaaaaaaaaaaaaaaaa",
        "aaaaaaaaaaaaaaaaaaaabaaaaaaaaaaaabaaaaaaaaaaaaaaaaaaaaaaaaaaaaaaaaaaaaaaaaaaaaaaaaaaaaaaaa",
        "aaaaaaaaaaaaaaaaaaaaaaaaaaaaaaaaaaaaaaaa49.39.3696f2178iaa238acapa114aaaaaaaaaaaaaaaaaaaaa",
        "aaaaaaaaaaaaaaaaaaaaaaaaaaaaaaaaaaaaaaaaaaaaaaaaaaaaaaaaaaaaaaaaaaaaaaaaaaaaaaaaaaaaaaaaaa",
        "aaaaaaaaaaaaaaaaaaaaaaaaaaaaaaaaaaaaageaaaaaaaaaaaaaaaaaaaaaaaaaaaaaaaaaaaaaaaaaaaaaaaaaaa",
        "aaaaaaaaaaaaaaaaaaaaaaaaaaaaaaaaaaaaaaaaaaaihfjhhhhfjhhhhnbhhhhhheabfaccabhdbbhhjcab342a33",
        "pda843z1862.48aacbaaaaaafabajaaaaaaaaaaaaaaaaaaaaaaaaaaaaaaaaaaaaaaaaaaaaaaaaaaaaaaaaaaaaa",
        "aaaaaaaaaaaaaaaaaaaaaaaaaaaaaaaaaaaaaahaaadal38aaea30995aaaaaaaaaaaaaaaaaaaaaaaaaaaaaaaaaa",
        "aaaaaaaaaaasaaaaaaaaaaaaaaaaaaaaaaaaaaa135aaaaaaaaaaaaacaaaaaaaaaaaaaaaaaaaaaaaaaaaaaaaaaa",
        "aaaaaaaaaaaaaaaaaaaaaaaaaaajaaabaaaaaaaaadadaabbaaaaaaaaaaaaaaaaaaakaaaaaaaaaaaaaaadaaabac",
        "aeaaaaaza860a28.80.20288gle1065z1229.40.136.36.155kaoagab1795.51.125v2874.32.21888.32.3139",
        "4.34"]),
    (["cwu", "changeswhenuppercased"],
      ["97z58a41xahaaaaaaaaaaaaaaaaaaaaaaaaaaaaaaaaaaaaaaaaaaaaaaaaaaaaaaaabaaaaaaaaaaaaaabaaaaaaa",
        "aaaaaaaaaaaaaaaaaaaaaaaaaaaaaaaaaaaaaaabaaaacbaaabacaeabaccbabaaaaabadabacaaabacaaaebababa",
        "aaaaaaaaaaaaaabaaaaaaaaaaaaaaaaababaacaaaaaaaaaaaaaaaaaaaaaaaaaaaaaaaaaaaaaaacaaaaaaaaaaaa",
        "aaaaahabbaadaaaaaaaafabaaabcbadaebaabbagabaabcfeajb166a43aaacaccra27.35abccaaaaaaaaaaaaaaa",
        "aaaaaaaaeaababa52.48aaaaaaaaaaaaaaaaaaaaaaaaaaaaaaaaaaiaaaaaaaaaaaaaaaaaaaaaaaaaaaaaaaaaaa",
        "aaaaaaaaaaaaaaaaaabaaaaaaaaaaaabaaaaaaaaaaaaaaaaaaaaaaaaaaaaaaaaaaaaaaaaaaaaaaaaaaaaaaaaaa",
        "aaaaaaaaaaaaaaaaaaaaaaaaaaaaaaaaaaaaaa49.39.2888.43bc760f2178iaa238acapa114aaaaaaaaaaaaaaa",
        "aaaaaaaaaaaaaaaaaaaaaaaaaaaaaaaaaaaaaaaaaaaaaaaaaaaaaaaaaaaaaaaaaaaaaaaaaaaaaaaaaaaaaaaaaa",
        "aaaaaaaaaaaaaaaaaaaaaaaaaaaaaaaaaaaaaaaaaaageaaaaaaaaaaaaaaaaaaaaaaaaaaaaaaaaaaaaaaaaaaaaa",
        "aaaaaaaaaaaaaaaaaaaaaaaaaaaaaaaaaaaaaaaaaaaaaaaaaihfjhhhhfjhhhhnb53abdaaaccabdacdbbhhjcabd",
        "a337a33pda843z1862.48aacbaaaaaafabajaaaaaaaaaaaaaaaaaaaaaaaaaaaaaaaaaaaaaaaaaaaaaaaaaaaaaa",
        "aaaaaaaaaaaaaaaaaaaaaaaaaaaaaaaaaaaaaaaaaaaaahaaadal38aaea30995aaaaaaaaaaaaaaaaaaaaaaaaaaa",
        "aaaaaaaaaaaaaaaaaasaaaaaaaaaaaaaaaaaaaaaaaaaaa135aaaaaaaaaaaaacaaaaaaaaaaaaaaaaaaaaaaaaaaa",
        "aaaaaaaaaaaaaaaaaaaaaaaaaaaaaaaaaajaaabaaaaaaaaadadaabbaaaaaaaaaaaaaaaaaaakaaaaaaaaaaaaaaa",
        "daaabacaeaaaaaza860a28.80.20288gle1065z1229.40.136.36.155kaoagab1795.51.125v2874.32.21888.",
        "32.31394.34"]),
    (["dash"],
      ["45a1372a51a3649a1029a2057f61a39aoa390a3076aba31bda28a446asa111a52624b37aja169a3680a318a"]),
    (["di", "defaultignorablecodepoint"],
      ["173a673a716a2882b1619b85e2043eze49p4340a52379p239a160a79i48295d5327h798341.4096"]),
    (["dep", "deprecated"],
      ["329a1321a2307aaa2089b2245f697b908502a"]),
    (["dia", "diacritic"],
      ["94aaa71afadabb503.159ahefqbdaib253e209a55.45aaababaa131hdb134bdbcc67.27.91k58k34b126h41jp2",
        "8.61apacd28a74apa110apa110apa47c60apaga119a110apa110apa109bpa124a111alfaa107ame75b27aaaaad",
        "b66cab62a112aab40bdeygaajb705c948b30a148kia347c292athba48obk104aoa38i54b58akb66b64f82ydafa",
        "bc50.63.48.36el37k445aackcmcmcmb3312c317a506f105d95a30066albaa28b82bn34.102c109bla37a151a2",
        "7r57d36a95ala36a149c65d51a100eic128b20272a769p270aaa47a45b67a764a1183fa42ai637cda165b571f3",
        "8aze399c70k49d192a41a72b120b62a76aic104b178b80bpaxgce89cabmb95aca123b251b126a118b115a269b2",
        "58bda156a83ara81a421a258aab81a425bwa5356o11481a2496e59g564b546q80b16382dagab7937.46bw544cc",
        "fhhbg30d3714.62.194g375a61d766b736g109cac"]),
    (["emoji"],
      ["35afaej111ada8077ala216ava90fob367bla166aykdc199a231bjaia58daeiababbbadabaabbacacbhceaaael",
        "kbbaabaarabbrfaaabcbeabbdbkbebbaebaaabtbefadbadababfaabaaaaafacafajboabadaaadcaakb48cianan",
        "a372b463csb51ada1242ala601aaa114026a202a160blbnabj75zabwatabiub174.34b112bbacb83bca263a63k",
        "faxgbbhlabdbadbmbbahbiaeclchcbaaadafacaf86.48.70ehbcdjcaabcabj227lda283.47aja185.112mcje56",
        "gobkfi"]),
    (["ecomp", "emojicomponent"],
      ["35afaej8147a213a56619a62422z507e1456d788076.96"]),
    (["emod", "emojimodifier"],
      ["127995e"]),
    (["ebase", "emojimodifierbase"],
      ["9757a219apd117879a60cbabc117bbkuscadcacgaaaxa201bdauadb174cce83apciaka575abahhfaijbc56a61b",
        "abaaqcam229c42i"]),
    (["epres", "emojipresentation"],
      ["8986b205dcaba521bub50l43asamahbqbebhaeauagbaadabagadb28a35aaadcaa61cxana859b51ada115886a20",
        "2a190abj75zaaxatabeacub174.33lia70avl43delqcac71aaa187b63mdaxrazbma86.85.48.70faccbcddkbgi",
        "227lda283.47aja185.112mcje56gobkfi"]),
    (["extpict", "extendedpictographic"],
      ["169ada8077ala216ava90fob367bla95a70aykdc199a231bjaia58dafala114j118bkaaaafacafajboabadaaad",
        "caake45cianana372b463csb51ada1242ala601aaa114022.256mc31a60flbnabjr57.27ojatabiadi434e318h",
        "266.48.128.116l85.43ld56hjf40h30.82l47aja441.256.1022"]),
    (["ext", "extender"],
      ["183a536b878a441a630a137a89a752a127a2371a56a611a398a68a5001a43e103b93c28438a1526a962ava137a",
        "108aub21627a2064b1483a27ada1223a293a116b498c1231a20649b1180baa29016b1201a852c"]),
    (["grbase", "graphemebase"],
      ["32.95.33ma594.112hbfdgaaata224g166a38b50bc46aaababai27dfqjkaa46upa101hafbbad32baa30.29.89k",
        "an43igcxdaiacagoayeaake31q42.57.55aaadhdacgjb29abahbbbvagaacdcaabfbbbaambacdxeaafdbbvagaba",
        "babdcxdaagjbcaalaaiacavagabaecdhaabcaobdlgahbahbbbvagabaecabafbbbobacdrkaafccadcbaaabcbccc",
        "leaabccaccauufcahacawapcacdscbabbdjgjakacawajaecbbaabxbabdjacnkaca41baabecacabdcajdzbbarcx",
        "aiaabgibfggjbcl48abkhhm37baaaeaxaaajabiabeaaijbd32xb27aaaaana36raeabe49hafam37.45dafabbbyb",
        "dcpdmabbfaoa40aaeab377adbgaaadb41adb33adbgaaadboa57adb67e29czf86bfb669c89grmscbirnmaco52ba",
        "ghabkicjfjfkejf89geb34aae70j31ddbcdbafgac42bek44dzfkc57bbc56aaiaabhfmjfjfn86.48jdcha29ilb3",
        "2dbf56aabcaam48hbeoc62e43bkkamagdafacbae192.64.278bfb38bfbhaaaaaaa31b53aoanbfasbcaiakexg49",
        "pbb27amc33.63.140d666vku1812b32a344cbe45aaeab56gbowigagagagagagagag33.94.34za89l214z58fpa8",
        "6d101e43a94a86i48a29293c55i348t47daj32b80bfh206bbaaahupacadaybedjf56h68jlxma38hykal30f48ab",
        "dbbbamakdgaya41fbbbkcahaabjb32a51aacbbebaaaxqbhkfbfbfigaga60d117abadcjf11172lwd49.8452.366",
        "b106.38gleeaaxaeaaababa125p445b54ga32ppjv35asaddea135d157b31cfbfbfbccgagmbblazasabaobn34.1",
        "23ecd45c88amca47.45.131.29c49p27d36i30e38j30a37dn42.158bjf36d36d40h52klaoagabakaoagabc52l3",
        "11ivjhxfa42ai69fbaa44abcabwa72hi48sabe33c27ea64.56dtb47odaca29jigig64.32.37fli54c29b27ezgd",
        "lg80.73.55.51m51g42ljf38hxhb208.31a42cabbpc59.40hvkivrdd38.28twiaa54ogd30abbal49dbbbadnygj",
        "i36eairh35ack52iaahdbapatkra28cbdfab63gaaadaoakf47acmjhbahbbbvagabaecaaaadbbbbcalg28jaabaa",
        "38aaaboaabcaacab39.56hbcaauaaac30.48abfaabaababdhj166.47abfdbab27.36.51hbaabdkjfms43aaabhb",
        "fjft28.27caabdaiw185.47iaba100.83lhbabhabaxaeabfdacij70hb42hdad27aj40fbdhiafbc46mabim73gj1",
        "82.34njfia38naafj29c32yagaba75gaba38uaijffaba37dbaaaagj310sbdioa36hbcw86ao50m923.102.111ae",
        "k196.2636.99m1072qfy3995e583.6841.30lccj1734.569g31ajd81ajf30gaj48gojjagaues432.58.198.91.",
        "101.75e56km64d28.6136h1238.41j8935dagaba291oa29cbandh396.2308.107emcigjbaba3936.250f436.15",
        "6.116.60.246j39b60ecvbg30d61u66ca122tltl87iy135.85a71abbabbbdalaaaga65adbhaga28adaeaacga34",
        "0b292b562.55d50hanag1140.31ff261.62.146.45jgbjdb320.30r44djea464.28dj214.30bkda480gadabaoa",
        "197bi48.68gadjdb785.68.76.61.194da27abaabaajadaaaafadaaaaaacabaabaaaaaaaaaabaabdagadadaaaj",
        "aqecaeaq52b270.44d100loboaoa37j174.56.29m44digbnf154.984dqcmc119d95fldaold56hjf40h30bldb62",
        ".340lnbmcje56gobkfig147a102.1030.42720.32.4154f222b5762n7473o622.2466.542.1506.4939e4192"]),
    (["grext", "graphemeextend"],
      ["768.112.275g263.45aaababaa72k48upa101gbfbbad35a30.27.91k58iiaxdaiacae43c59i42xa32.55aaadhd",
        "acgjb29a58aaabdhaiajbzabb57adbdbbcca30bcakb57adeabdatbvfaa58aabadhagcjb30a59aaalaia40aca55",
        "aacecadgbkb29a58abbaaccadgbkb28b57baabdhaiajb29a72adabcaaha81abglh98abikg73b27aaaaa55naeab",
        "eka36ia102dafabbbybdcpdmabbfaoa703c946d28c29b30b64baghabkia45caa117b34a118cdbiafc219bba58a",
        "agaaaabhfjba48.31.49d48jdc38ilb32dbf56aabcaae56hbb152camagdafacb198.64.524a195.33.3070c141",
        "a96.32.554f105b30164daj32b80b272acadaybea151bzrma38hykaa44c48abdbbba36a67fbbbblaha47a51aac",
        "bbebaa42bha238abada20272a737ppp366b605a226a149e1670cabed40cda165b573d65e317b79d70k49d123a5",
        "4o41abbjc49dbbga61c36eah62alb52iaahdba95cbdfaba157achub57baaaalaiangce67abfaabaacdcaanb85h",
        "bcaawa81abfaabaabab235abdfbab27b85hbaab106aaabh101aaabdae259iab245ajdda144dbbda32j40fbdhai",
        "fbc46mab406gafaa82vbgabab122fcaabagaa72bcaaa347bkb52eecwa5349afo11464lcc2496e59g1048a63d81",
        "akb19627b4705.46bw542ecfhhbg30d148c1979.55d50hanaveao1360gaqbgabae100a160g375a61d508d254b7",
        "36g109g792277.96.128.240"]),
    (["grlink", "graphemelink"],
      ["2381a127a127a127a127a127a127a127a109bpa124a111a127a201a180b1753b30a157a653a227a101b70b4491",
        "a31366a37a151a142a108a309a246a24145a1542a41ana57a121b139a116a180a98a128c113a127a252a127a11",
        "8a116a269a259b161a83ara81a421a260b81a425b16876a"]),
    (["hex", "hexdigit"],
      ["48jgfzf65193jgfzf"]),
    (["hyphen"],
      ["45a127a1244a4731a2057b3589a739a52583a169a87a"]),
    (["idsb", "idsbinaryoperator"],
      ["12272bbj497a"]),
    (["idst", "idstrinaryoperator"],
      ["12274b"]),
    (["idsu", "idsunaryoperator"],
      ["12286b"]),
    (["idcompatmathcontinue"],
      ["178bea8118ackao371adava111778aya31aya31aya31aya31aya"]),
    (["idcompatmathstart"],
      ["8706adava111778aya31aya31aya31aya31aya"]),
    (["idc", "idcontinue"],
      ["48jgzdaaz47ajaaabaewa31a458dlnegaaaq117abbdaafeaaata83a139aeb166a38baf41h45aaababaah27dd29",
        "ke74d102ahbjasbap59b101n54dabab46r28dkexafh75a129bjasahbbbvagaacdbibbbdhadbaebljaaabcafdbb",
        "vagabababbaaedbbccagdaagpkcaiacavagabaebjacacbaodbjigacahbbbvagabaebibbbcgcdbaebjaapbafcca",
        "dcbaaabcbcccldeccadbafanjpmacawapbiacadgbacbabdbjpdahacawajaebiacadgbfbadbjaclmaca51acaeed",
        "gebjjfacarcxaiaabgcadfaaahfjbbm58eoaj39baaaeaxaaawbeaaagajbd32awbfjkaaaaadja36dtara36ia57.",
        "74f78b38aaeab43a333adbgaaadb41adb33adbgaaadboa57adb67bciinpp86bfc620bqaze75ckgvivktlmacabl",
        "84cadbbj33cakf89g43e70j31aldlj40bek44dzfk37.28d63a29bkfjmahnap49.77cjqil116l56hjc49bke43bc",
        "pca39e534bfb38bfbhaaaaaaa31b53agaaccagcdbfdmecagob49bsa28amapm51mdaclqadabjaabffaaaaaapbde",
        "edaq41.2679.229fil38aaeab56gaoxigagagagagagagaga32.517cyoaebed86bga95e43a94q32.48p512.6592",
        ".64.22157.67.46b269c28t48dja115.37ib103b67bbaaahu54das52l70jjfxcaa49b36l29c65nkf31a55inbjf",
        "wc73xcbpbejfbfbfigaga43anf123abbjf11172lwd49.8452.366b106.38gleelamaeaaababa108.33.363r64b",
        "54.40ldpppcbxc32ea135sjgzdaazj90cfbfbfbc35lazasabaobn34.123.69.53.136a130.29c49oa31.32m30e",
        "43e30b36dhae42.158bjf36d36d40h52lkaoagabakaoagabc52l311ivjhxfa42ai69fbaa44abcabwjwi31.65sa",
        "bjvjz70.56fb64dabehaca29bcda32.29c29.35ha30y54jvjsmr110.73.55.51m51m40hjf38ceaw250.42abcbp",
        "c55.33jah33.31v42u27wi71.31pi60gamygjf53ajddh36bai69ddamaa35ra37fd62gaaadaoajg59ejfdahbbbv",
        "agabaeajbbbcbafaegbgcekjaabaa38ajaabaadahmb29.75ejdd30.70aahj166.54biwf34.65cakj38.57gjft2",
        "8.27bodjfg185.59.101.74uhbabhaba30abbilj70hb46bhab27.63hah74car73.199.33ojfia45aiojx30bvan",
        "73gaba44caabaihjffaba37abafgj310wiqa41cemk85a79.922.102.111q196.2636.97o1072pvj3995e583.68",
        "41.58.1734.569g31ajf79ajf30bek55idljiues432.45cj198.64.128.75d57gq64babkbn6136h1238.41j893",
        "5dagaba291oa29cbandh396.2308.107emcigjcb4177j518.46bw542ecfhhbg30d148c443.85a71abbabbbdala",
        "aaga65adbhaga28adaeaacga340byaya31aya31aya31aya31ayahb50.512.55d50hanaveao1104.31ff213gaqb",
        "gabaee62.33a112.45cnbjda321.31q58.470.42.214.43.485gadabaoa197kg41.76dj1190da27abaabaajada",
        "aaafadaaaaaacabaabaaaaaaaaaabaabdagadadaaajaqecaeaq3380j1030.42720.32.4154f222b5762n7473o6",
        "22.2466.542.1506.4939e4192.712016.240"]),
    (["ids", "idstart"],
      ["65zfz47ajadaewa31a458dlnegaaa129eabbdaafaacaaata83a139h166a38baf41.71.27dd45.43.35ba99aaob",
        "gbjcbapaa30.29.89kax33ibdaevdaiacawygkexafq42.58.54caragjopdhbbbvagaacdcapambacnbjahfdbbva",
        "gababab31daascpiacavagabaecaraobwakhbbbvagabaeca30bacoaqaafccadcbaaabcbccclva52hacawapcazc",
        "babb30adhacawajaeca31babobqiaca41bapaechcxfercxaiaabg58.48ablg58baaaeaxaaajabiabeaaud32a63",
        "ha36.27e115.43tapfddcacbgcdmlaq38aaeab43a333adbgaaadb41adb33adbgaaadboa57adb67.37pp86bfc62",
        "0bqaze75ckgrmsnrnmaco52.35ada67.89g41aae70j31.49.30bek44dz54wi53.82a93.47qh54.30mbj44z36.4",
        "1cj36bke43bc41dafabcae192.64.278bfb38bfbhaaaaaaa31b53agaaccagcdbfdmecag116amapm101adabjaab",
        "ffaaaaaapbdeedaq41.2679.229fdcbl38aaeab56gapwigagagagagagagag550cyigebed86dea90ade43a94q32",
        ".48p512.6592.64.22157.67.46b269cpjbt47p31b80.39ib103b67bbaaahupacadaw29.52n50.62fcaabk28jw",
        "y29g47.28apeajjea41wcahtwcac50aacbbebaaaxcbkgclfbfbfigaga43anf115.29.11172lwd49.8452.366b1",
        "06.38gleeaajamaeaaababa108.33.363r64b54.40l116ea135.36zfzk89cfbfbfbc35lazasabaobn34.123.69",
        ".53.267.29c49.47.32m30e38j30b36dhae42.158r36d36d40h52lkaoagabakaoagabc52l311ivjhxfa42ai69f",
        "baa44abcabwjwi31.65sabjvjz70.56fb64aodaca29.42.29c29.35ha28.27.54jvjsmr110.73.55.51m51m36.",
        "38.28iw250.42fbpc59.29jahv42r46u27wl53.57bbam45.32yz36.29abah35cal48nduaaa35raysb63gaaadao",
        "ajg47.38hbbbvagabaecarale30jaabaa38aayaaa44.53rdtc30.48tbaa184.47.41d36.48ta59.43ma71.27.3",
        "7g185.44.116.64.31hbabhabaxoaaa94hb39paaa28aj40gauak46sar73.199.33.31ia37qa49.30.112gaba38",
        "uayfaba32na327soaama34.124a79.922.102.111q196.2636.97o1072qfy3995e583.6841.30.1762.569g31q",
        "79q30r48pd31ues432.45.211.64.128.75ea66m64baa28.6136h1238.41j8935dagaba291oa29cbandh396.23",
        "08.107emcigj5990.85a71abbabbbdalaaaga65adbhaga28adaeaacga340byaya31aya31aya31aya31ayah1844",
        ".31ff261.62.146.45jgpa321.30r44.484.28.228.30ba495gadabaoa197.59.68ga1204da27abaabaajadaaa",
        "afadaaaaaacabaabaaaaaaaaaabaabdagadadaaajaqecaeaq4420.42720.32.4154f222b5762n7473o622.2466",
        ".542.1506.4939e4192"]),
    (["ideo", "ideographic"],
      ["12294byinc965.6592.64.20992.22784.366b106.29962a27.6136h1238.41j9319.396.19716.42720.32.41",
        "54f222b5762n7473o622.2466.542.1506.4939e4192"]),
    (["joinc", "joincontrol"],
      ["8204b"]),
    (["loe", "logicalorderexception"],
      ["3648e123e2800cba37114bbaab"]),
    (["lower", "lowercase"],
      ["97z47ajada36xahaaaaaaaaaaaaaaaaaaaaaaaaaaaaaaaaaaaaaaaaaaaaaaaaaaaaaaabaaaaaaaaaaaaaaabaaa",
        "aaaaaaaaaaaaaaaaaaaaaaaaaaaaaaaaaaaaaaaaaaabaaaacbaaabacbdabaccbabaaaaabaabaabacaaabbbcfab",
        "abaaaaaaaaaaaaaaaabaaaaaaaaaaaaaaaaabbaaacaaaaaaaaaaaaaaaaaaaaaaaaaaaaaaaaaaaaaaaaaaaaaaaa",
        "aaaaaaaaaagbabbaadaaaaaaaa69a36gb30e96a43aaacabdra27.35abccaaaaaaaaaaaaaaaaaaaaaaaeaababb5",
        "1.48aaaaaaaaaaaaaaaaaaaaaaaaaaaaaaaaaaiaaaaaaaaaaaaaaaaaaaaaaaaaaaaaaaaaaaaaaaaaaaaaaaaaaa",
        "aabaaaaaaaaaaaabaaaaaaaaaaaaaaaaaaaaaaaaaaaaaaaaaaaaaaaaaaaaaaaaaaaaaaaaaaaaaaaaaaaaaaaaaa",
        "aaaaaaaaaaaaaaaaaaaaaa48.41.2887.43ad760f2178iaa117.192.65aaaaaaaaaaaaaaaaaaaaaaaaaaaaaaaa",
        "aaaaaaaaaaaaaaaaaaaaaaaaaaaaaaaaaaaaaaaaaaaaaaaaaaaaaaaaaaaaaaaaaaaaaaaaaaaaaaaaaaaaaaaaaa",
        "aaaaaaaaaaaaaaaaaaaaaaaaaaiaaaaaaaaaaaaaaaaaaaaaaaaaaaaaaaaaaaaaaaaaaaaaaaaaaaaaaaaaaaaaaa",
        "aaaaaaaaaaaaaaaaaaaaaaaaaaaaaaaaaaihfjhhhhfjhhhhnbhhhhhheabfaccabhdbbhhjcab121amapm109acbc",
        "a27adadabbhdda33pda843z1862.48aacbaaaaaadaabahcaaaaaaaaaaaaaaaaaaaaaaaaaaaaaaaaaaaaaaaaaaa",
        "aaaaaaaaaaaaaaaaaaaaaaaaaaaaaaaaaaaaaaaaaaaaaaaaaaaaaaabgaaadal38aaea30995aaaaaaaaaaaaaaaa",
        "aaaaaaaaaaaaaaaaaaaaaaaaaaaaasaaaaaaaaaaaaaaaaaaaaaaaaaac133aaaaaaaaaaaacaaaaaaaaaaaaaaaaa",
        "aaaaaaaaaaaaaaaaaaaaaaaaaaaaaaaaaaaaaaaaaaaajaaaabaaaaaaaaadaaabaacaaaaaaaaaaaaaaaaaaaaeae",
        "aaaaaaaaaaaaaaadaaabacaaaaaaaaaaavcaaac821.43anf80.20288gle1065z1229.40.136.36.155kaoagab4",
        "51abca42ai1285.51.125v2874.32.21888.32.26010zzgarzzzdaaagakzzzzzzzzzzzzzzzzz28.28yafzyafzy",
        "afzyafzyafaa1844jatff261.62.2228.34"]),
    (["math"],
      ["43apc31a29aaa45ada37a31a728cbazbbc527c6669a27ckacamandueke65mdacbderadabjaabffacbbbacafcna",
        "a68xafabdbd32aafbn268hdtb90a30.27aaxakg445bljdfdbbbcenaaabfkheb57aaa29dic336.64.256.512.48",
        "ubf53212a823faa162apc29aaa29aaa131afd3489b50800.85a71abbabbbdalaaaga65adbhaga28adaeaacga34",
        "0b292b50.5632da27abaabaajadaaaafadaaaaaacabaabaaaaaaaaaabaabdagadadaaajaqecaeaq52b"]),
    (["mcm", "modifiercombiningmark"],
      ["1620bba131afacb481bacca31a"]),
    (["nchar", "noncharactercodepoint"],
      ["64976.32.526b65534b65534b65534b65534b65534b65534b65534b65534b65534b65534b65534b65534b65534",
        "b65534b65534b65534b"]),
    (["oalpha", "otheralphabetic"],
      ["837a29m576naaababaa72k48magpa101gddbbda35a30p102k101bciacad106a60lcgft54bboabecjb29c58gbbb",
        "bjajb29c58edbbbda30bcakc58hacabubvcdc58gbbbbibjb30a59eccacja40e57gacachbkb29c58gacachbkboa",
        "ld58gacacjajb29c75faaahrb61abgra99abfabpa163sika36.110laabdwddcacbgcdmlaajd1652b30b30b30b6",
        "6s188b34a118ldi222e57jbt74bkc49e48o60c30ibb57k50s412.34.1729.52.2294.32.30836h34b354ahawe8",
        "8b50paa57a38e28l45d48l37a67nlahb45c50aacbbea44eea237h20275a2135e1670cabed788d65a321b79a259",
        "c53n45bkc45iia61c36lrb57c48mnb92ibafaba157jwd58gbbbbjajb84iaabaadab103mac106r237gbg29b82oa",
        "a106k103n257m247fabbbcaaa142gbfda28j42eadrk46n407hag83van122fcaabacaaca66eabad348dibaa48gc",
        "c16861q3616aa55gd93b19628a9057gaqbgabae100a2231a2024zfzfz"]),
    (["odi", "otherdefaultignorablecodepoint"],
      ["847a3599b1619b2223a4350a52795a79i851975aa30.96.128.240.3600"]),
    (["ogrext", "othergraphemeextend"],
      ["2494axa358axa102axa232aaadbabib103axa119aoa2357a30a1024aeaaaeb101a71b1048a4129b31011a108a2",
        "1981b4640a116a264anaia96aiabaacea224ala241a262a633ala1539a20654b24947bff798381.96"]),
    (["oidc", "otheridcontinue"],
      ["183a719a4065i1640a1585b4333a52841a"]),
    (["oids", "otheridstart"],
      ["6277b2193aua3948b"]),
    (["olower", "otherlowercase"],
      ["170aoa501igb30e96a52a3457a3119.63ma34.37.689amapm211p848z1938b31262b210a129ccb866dia23574a",
        "bca42ai55413.62"]),
    (["omath", "othermath"],
      ["94a881cbazbbb7200a27cka32dxbnb65mdacbderadabjaacefacbbbacafcdee75ebdababaaaebbdbdrbbaaagaa",
        "fb290d168baaxaqa445blieeebbbcenaaabfxb57aaa29dib342b31j403v63d32b54371aaada211aaa54465.85a",
        "71abbabbbdalaaaga65adbhaga28adaeaacga340byaya31aya31aya31aya31ayahb50.5632da27abaabaajadaa",
        "aafadaaaaaacabaabaaaaaaaaaabaabdagadadaaajaqecaeaq"]),
    (["oupper", "otheruppercase"],
      ["8544p838z117856zfzfz"]),
    (["patsyn", "patternsyntax"],
      ["33ojgzdaazd34gaaabaaabdadacawa31a7960xhobsaj305.720.160.630.30.1132.512.128.385cdyoa52493b",
        "261b"]),
    (["patws", "patternwhitespace"],
      ["iera100a8072bxb"]),
    (["pcm", "prependedconcatenationmark"],
      ["1536f215a49a384b80a67546aoa"]),
    (["qmark", "quotationmark"],
      ["34ada131aoa8028hyb3591a457dmc52769d189ada90b"]),
    (["radical"],
      ["11904za89l214"]),
    (["ri", "regionalindicator"],
      ["127462z"]),
    (["sterm", "sentenceterminal"],
      ["33alapa1353a147c180a43c246a61aaacb293b1764b790adb773a198b157b45aea314b354d162bjbbb29c187b6",
        "5b932awbic3247c306amavb429a29948a270b227aca382b86b95a152b147c144b249a21030abb59acb169alapa",
        "65a2804b1277e44d189b117d127c129bfapb88bab108a298b117b373beo105b249c517aaa251b87b420b692b74",
        "b19241b133a65bka553b296a19974a7656a"]),
    (["sd", "softdotted"],
      ["105b196a281a30a52ata320a98aaa6409a51amaca132a157a421a214b2866a108453b50b50b50b50b50b50b50b",
        "50b50b50b50b50b2182a305bza"]),
    (["term", "terminalpunctuation"],
      ["33ajaaakbca830aha513a57a72anaac180a43kaa235b54fah31a261b1268b172adf311b789h773a124c71b157c",
        "ca39dbb314b354d162bjbac29c187e62b932awbic3247c306amadajaabcb428b29947b269c227e382b86b95a15",
        "1c147c127apb249a21030abb57cad169ajaaakbca65aba1082a48a1158a199a310b152f68f89d952e44d189g11",
        "2d127c129bfapb88e108a298b117clb358dco105b249c517aaa251b87bdb414c45a645b74b1323e17913b133a6",
        "5cja553b295b19974a7655d"]),
    (["uideo", "unifiedideograph"],
      ["13312.6592.64.20992.23054baaabjaaaabbc67030.42720.32.4154f222b5762n7473o622.4514.4939e4192"]),
    (["upper", "uppercase"],
      ["65z101wag33aaaaaaaaaaaaaaaaaaaaaaaaaaaaaaaaaaaaaaaaaaaaaaaaaaaaaaabaaaaaaaaaaaaaaabaaaaaaa",
        "aaaaaaaaaaaaaaaaaaaaaaaaaaaaaaaaaaaaaaabaaaacbaaabacbdabaccbabaaaaabaabaabacaaabcagabababa",
        "aaaaaaaaaaaaaabaaaaaaaaaaaaaaaaababaacaaaaaaaaaaaaaaaaaaaaaaaaaaaaaaaaaaaaaaaaaaaaaaaaaaaa",
        "aaaaaagbabbaadaaaaaaaa289aaacahafaacaaabaqai35abccaaaaaaaaaaaaaaaaaaaaaaaeabaabb51.48aaaaa",
        "aaaaaaaaaaaaaaaaaaaaaaaaaaaaiaaaaaaaaaaaaaaaaaaaaaaaaaaaaaaaaaaaaaaaaaaaaaaaaaaaaaabaaaaaa",
        "aaaaaabaaaaaaaaaaaaaaaaaaaaaaaaaaaaaaaaaaaaaaaaaaaaaaaaaaaaaaaaaaaaaaaaaaaaaaaaaaaaaaaaaaa",
        "aaaaaaaaaaaab38.2889.38aaea722.86.2195af43bc320aaaaaaaaaaaaaaaaaaaaaaaaaaaaaaaaaaaaaaaaaaa",
        "aaaaaaaaaaaaaaaaaaaaaaaaaaaaaaaaaaaaaaaaaaaaaaaaaaaaaaaaaaaaaaaaaaaaaaaaaaaaaaaaaaaaaaaaaa",
        "aaaaaaaaaaaaaaaaiaaaaaaaaaaaaaaaaaaaaaaaaaaaaaaaaaaaaaaaaaaaaaaaaaaaaaaaaaaaaaaaaaaaaaaaaa",
        "aaaaaaaaaaaaaaaaaaaaaaaaihhfjhhhhfkaaaaaaahh72dldldlekd262adaccbcbacefaaaaaadbdjbeazpsa818",
        "z1840.48.48aacbaaaaaadaabahcaaaaaaaaaaaaaaaaaaaaaaaaaaaaaaaaaaaaaaaaaaaaaaaaaaaaaaaaaaaaaa",
        "aaaaaaaaaaaaaaaaaaaaaaaaaaaaaaaaaaaahaaada31053aaaaaaaaaaaaaaaaaaaaaaaaaaaaaaaaaaaaaaaaaaa",
        "aasaaaaaaaaaaaaaaaaaaaaaaaaaaa135aaaaaaaaaaaaacaaaaaaaaaaaaaaaaaaaaaaaaaaaaaaaaaaaaaaaaaaa",
        "aaaaaaaaaaaaaaaaaajaaaabaaaaaaaadaaabaaacaaaaaaaaaaaaaaaaaaaaeaeaaaaaaaaaaaaaaadaaabcaeaaa",
        "aaaaxa22315z1221.40.136.36.156kaoagab1770.51.157v2874.32.21888.32.26016zzzzzzaabbabbbdahzz",
        "zbadbhag27badaeaacg27zzzzzzzzzzz30y33y33y33y33y33a4405.34.2062zfzfz"]),
    (["vs", "variationselector"],
      ["6155caa58864p852720.240"]),
    (["wspace", "whitespace", "space"],
      ["iera100aza5599a2431k29bea47a4000a"]),
    (["xidc", "xidcontinue"],
      ["48jgzdaaz47ajaaabaewa31a458dlnegaaaq117abccaafeaaata83a139aeb166a38baf41h45aaababaah27dd29",
        "ke74d102ahbjasbap59b101n54dabab46r28dkexafh75a129bjasahbbbvagaacdbibbbdhadbaebljaaabcafdbb",
        "vagabababbaaedbbccagdaagpkcaiacavagabaebjacacbaodbjigacahbbbvagabaebibbbcgcdbaebjaapbafcca",
        "dcbaaabcbcccldeccadbafanjpmacawapbiacadgbacbabdbjpdahacawajaebiacadgbfbadbjaclmaca51acaeed",
        "gebjjfacarcxaiaabgcadfaaahfjbbm58eoaj39baaaeaxaaawbeaaagajbd32awbfjkaaaaadja36dtara36ia57.",
        "74f78b38aaeab43a333adbgaaadb41adb33adbgaaadboa57adb67bciinpp86bfc620bqaze75ckgvivktlmacabl",
        "84cadbbj33cakf89g43e70j31aldlj40bek44dzfk37.28d63a29bkfjmahnap49.77cjqil116l56hjc49bke43bc",
        "pca39e534bfb38bfbhaaaaaaa31b53agaaccagcdbfdmecagob49bsa28amapm51mdaclqadabjaabffaaaaaapbde",
        "edaq41.2679.229fil38aaeab56gaoxigagagagagagagaga32.517cyoaebed86bbbca95e43a94q32.48p512.65",
        "92.64.22157.67.46b269c28t48dja115.37ib103b67bbaaahu54das52l70jjfxcaa49b36l29c65nkf31a55inb",
        "jfwc73xcbpbejfbfbfigaga43anf123abbjf11172lwd49.8452.366b106.38gleelamaeaaababa108.33.139f2",
        "18r64b54.40jfpppcbxc33aaacaaaaaaaa126sjgzdaazj90cfbfbfbc35lazasabaobn34.123.69.53.136a130.",
        "29c49oa31.32m30e43e30b36dhae42.158bjf36d36d40h52lkaoagabakaoagabc52l311ivjhxfa42ai69fbaa44",
        "abcabwjwi31.65sabjvjz70.56fb64dabehaca29bcda32.29c29.35ha30y54jvjsmr110.73.55.51m51m40hjf3",
        "8ceaw250.42abcbpc55.33jah33.31v42u27wi71.31pi60gamygjf53ajddh36bai69ddamaa35ra37fd62gaaada",
        "oajg59ejfdahbbbvagabaeajbbbcbafaegbgcekjaabaa38ajaabaadahmb29.75ejdd30.70aahj166.54biwf34.",
        "65cakj38.57gjft28.27bodjfg185.59.101.74uhbabhaba30abbilj70hb46bhab27.63hah74car73.199.33oj",
        "fia45aiojx30bvan73gaba44caabaihjffaba37abafgj310wiqa41cemk85a79.922.102.111q196.2636.97o10",
        "72pvj3995e583.6841.58.1734.569g31ajf79ajf30bek55idljiues432.45cj198.64.128.75d57gq64babkbn",
        "6136h1238.41j8935dagaba291oa29cbandh396.2308.107emcigjcb4177j518.46bw542ecfhhbg30d148c443.",
        "85a71abbabbbdalaaaga65adbhaga28adaeaacga340byaya31aya31aya31aya31ayahb50.512.55d50hanaveao",
        "1104.31ff213gaqbgabaee62.33a112.45cnbjda321.31q58.470.42.214.43.485gadabaoa197kg41.76dj119",
        "0da27abaabaajadaaaafadaaaaaacabaabaaaaaaaaaabaabdagadadaaajaqecaeaq3380j1030.42720.32.4154",
        "f222b5762n7473o622.2466.542.1506.4939e4192.712016.240"]),
    (["xids", "xidstart"],
      ["65zfz47ajadaewa31a458dlnegaaa129eabccaafaacaaata83a139h166a38baf41.71.27dd45.43.35ba99aaob",
        "gbjcbapaa30.29.89kax33ibdaevdaiacawygkexafq42.58.54caragjopdhbbbvagaacdcapambacnbjahfdbbva",
        "gababab31daascpiacavagabaecaraobwakhbbbvagabaeca30bacoaqaafccadcbaaabcbccclva52hacawapcazc",
        "babb30adhacawajaeca31babobqiaca41bapaechcxfercxaiaabg58.48aamg58baaaeaxaaajaajabeaaud32a63",
        "ha36.27e115.43tapfddcacbgcdmlaq38aaeab43a333adbgaaadb41adb33adbgaaadboa57adb67.37pp86bfc62",
        "0bqaze75ckgrmsnrnmaco52.35ada67.89g41aae70j31.49.30bek44dz54wi53.82a93.47qh54.30mbj44z36.4",
        "1cj36bke43bc41dafabcae192.64.278bfb38bfbhaaaaaaa31b53agaaccagcdbfdmecag116amapm101adabjaab",
        "ffaaaaaapbdeedaq41.2679.229fdcbl38aaeab56gapwigagagagagagagag550cyigebed86fca90ade43a94q32",
        ".48p512.6592.64.22157.67.46b269cpjbt47p31b80.39ib103b67bbaaahupacadaw29.52n50.62fcaabk28jw",
        "y29g47.28apeajjea41wcahtwcac50aacbbebaaaxcbkgclfbfbfigaga43anf115.29.11172lwd49.8452.366b1",
        "06.38gleeaajamaeaaababa108.33.139f218r64b54.40j119aaacaaaaaaaa126.36zfzk56b31cfbfbfbc35laz",
        "asabaobn34.123.69.53.267.29c49.47.32m30e38j30b36dhae42.158r36d36d40h52lkaoagabakaoagabc52l",
        "311ivjhxfa42ai69fbaa44abcabwjwi31.65sabjvjz70.56fb64aodaca29.42.29c29.35ha28.27.54jvjsmr11",
        "0.73.55.51m51m36.38.28iw250.42fbpc59.29jahv42r46u27wl53.57bbam45.32yz36.29abah35cal48nduaa",
        "a35raysb63gaaadaoajg47.38hbbbvagabaecarale30jaabaa38aayaaa44.53rdtc30.48tbaa184.47.41d36.4",
        "8ta59.43ma71.27.37g185.44.116.64.31hbabhabaxoaaa94hb39paaa28aj40gauak46sar73.199.33.31ia37",
        "qa49.30.112gaba38uayfaba32na327soaama34.124a79.922.102.111q196.2636.97o1072qfy3995e583.684",
        "1.30.1762.569g31q79q30r48pd31ues432.45.211.64.128.75ea66m64baa28.6136h1238.41j8935dagaba29",
        "1oa29cbandh396.2308.107emcigj5990.85a71abbabbbdalaaaga65adbhaga28adaeaacga340byaya31aya31a",
        "ya31aya31ayah1844.31ff261.62.146.45jgpa321.30r44.484.28.228.30ba495gadabaoa197.59.68ga1204",
        "da27abaabaajadaaaafadaaaaaacabaabaaaaaaaaaabaabdagadadaaajaqecaeaq4420.42720.32.4154f222b5",
        "762n7473o622.2466.542.1506.4939e4192"])
  ]

def ofName? (name : String) : Option CodeSet :=
  (table.find? fun (names, _) => names.contains name).map fun (_, parts) =>
    CodeSet.characters.inter (.ofTable parts)

end ServiceWatch.Unicode.Property
