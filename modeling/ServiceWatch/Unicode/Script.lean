import ServiceWatch.Unicode.CodeSet

/-! The script of every code point, from a run-length table, and the scripts that characters shared
by several of them are used with. -/
namespace ServiceWatch.Unicode.Script

/-- The four-letter code of each script, with the names it goes by in lower case and without separators. -/
def names : List (String × List String) :=
  [("Adlm", ["adlm", "adlam"]), ("Aghb", ["aghb", "caucasianalbanian"]), ("Ahom", ["ahom"]),
    ("Arab", ["arab", "arabic"]), ("Armi", ["armi", "imperialaramaic"]),
    ("Armn", ["armn", "armenian"]), ("Avst", ["avst", "avestan"]),
    ("Bali", ["bali", "balinese"]), ("Bamu", ["bamu", "bamum"]), ("Bass", ["bass", "bassavah"]),
    ("Batk", ["batk", "batak"]), ("Beng", ["beng", "bengali"]), ("Bhks", ["bhks", "bhaiksuki"]),
    ("Bopo", ["bopo", "bopomofo"]), ("Brah", ["brah", "brahmi"]), ("Brai", ["brai", "braille"]),
    ("Bugi", ["bugi", "buginese"]), ("Buhd", ["buhd", "buhid"]), ("Cakm", ["cakm", "chakma"]),
    ("Cans", ["cans", "canadianaboriginal"]), ("Cari", ["cari", "carian"]), ("Cham", ["cham"]),
    ("Cher", ["cher", "cherokee"]), ("Chrs", ["chrs", "chorasmian"]),
    ("Copt", ["copt", "coptic", "qaac"]), ("Cpmn", ["cpmn", "cyprominoan"]),
    ("Cprt", ["cprt", "cypriot"]), ("Cyrl", ["cyrl", "cyrillic"]),
    ("Deva", ["deva", "devanagari"]), ("Diak", ["diak", "divesakuru"]),
    ("Dogr", ["dogr", "dogra"]), ("Dsrt", ["dsrt", "deseret"]), ("Dupl", ["dupl", "duployan"]),
    ("Egyp", ["egyp", "egyptianhieroglyphs"]), ("Elba", ["elba", "elbasan"]),
    ("Elym", ["elym", "elymaic"]), ("Ethi", ["ethi", "ethiopic"]), ("Gara", ["gara", "garay"]),
    ("Geor", ["geor", "georgian"]), ("Glag", ["glag", "glagolitic"]),
    ("Gong", ["gong", "gunjalagondi"]), ("Gonm", ["gonm", "masaramgondi"]),
    ("Goth", ["goth", "gothic"]), ("Gran", ["gran", "grantha"]), ("Grek", ["grek", "greek"]),
    ("Gujr", ["gujr", "gujarati"]), ("Gukh", ["gukh", "gurungkhema"]),
    ("Guru", ["guru", "gurmukhi"]), ("Hang", ["hang", "hangul"]), ("Hani", ["hani", "han"]),
    ("Hano", ["hano", "hanunoo"]), ("Hatr", ["hatr", "hatran"]), ("Hebr", ["hebr", "hebrew"]),
    ("Hira", ["hira", "hiragana"]), ("Hluw", ["hluw", "anatolianhieroglyphs"]),
    ("Hmng", ["hmng", "pahawhhmong"]), ("Hmnp", ["hmnp", "nyiakengpuachuehmong"]),
    ("Hung", ["hung", "oldhungarian"]), ("Ital", ["ital", "olditalic"]),
    ("Java", ["java", "javanese"]), ("Kali", ["kali", "kayahli"]),
    ("Kana", ["kana", "katakana"]), ("Kawi", ["kawi"]), ("Khar", ["khar", "kharoshthi"]),
    ("Khmr", ["khmr", "khmer"]), ("Khoj", ["khoj", "khojki"]),
    ("Kits", ["kits", "khitansmallscript"]), ("Knda", ["knda", "kannada"]),
    ("Krai", ["krai", "kiratrai"]), ("Kthi", ["kthi", "kaithi"]), ("Lana", ["lana", "taitham"]),
    ("Laoo", ["laoo", "lao"]), ("Latn", ["latn", "latin"]), ("Lepc", ["lepc", "lepcha"]),
    ("Limb", ["limb", "limbu"]), ("Lina", ["lina", "lineara"]), ("Linb", ["linb", "linearb"]),
    ("Lisu", ["lisu"]), ("Lyci", ["lyci", "lycian"]), ("Lydi", ["lydi", "lydian"]),
    ("Mahj", ["mahj", "mahajani"]), ("Maka", ["maka", "makasar"]), ("Mand", ["mand", "mandaic"]),
    ("Mani", ["mani", "manichaean"]), ("Marc", ["marc", "marchen"]),
    ("Medf", ["medf", "medefaidrin"]), ("Mend", ["mend", "mendekikakui"]),
    ("Merc", ["merc", "meroiticcursive"]), ("Mero", ["mero", "meroitichieroglyphs"]),
    ("Mlym", ["mlym", "malayalam"]), ("Modi", ["modi"]), ("Mong", ["mong", "mongolian"]),
    ("Mroo", ["mroo", "mro"]), ("Mtei", ["mtei", "meeteimayek"]), ("Mult", ["mult", "multani"]),
    ("Mymr", ["mymr", "myanmar"]), ("Nagm", ["nagm", "nagmundari"]),
    ("Nand", ["nand", "nandinagari"]), ("Narb", ["narb", "oldnortharabian"]),
    ("Nbat", ["nbat", "nabataean"]), ("Newa", ["newa"]), ("Nkoo", ["nkoo", "nko"]),
    ("Nshu", ["nshu", "nushu"]), ("Ogam", ["ogam", "ogham"]), ("Olck", ["olck", "olchiki"]),
    ("Onao", ["onao", "olonal"]), ("Orkh", ["orkh", "oldturkic"]), ("Orya", ["orya", "oriya"]),
    ("Osge", ["osge", "osage"]), ("Osma", ["osma", "osmanya"]), ("Ougr", ["ougr", "olduyghur"]),
    ("Palm", ["palm", "palmyrene"]), ("Pauc", ["pauc", "paucinhau"]),
    ("Perm", ["perm", "oldpermic"]), ("Phag", ["phag", "phagspa"]),
    ("Phli", ["phli", "inscriptionalpahlavi"]), ("Phlp", ["phlp", "psalterpahlavi"]),
    ("Phnx", ["phnx", "phoenician"]), ("Plrd", ["plrd", "miao"]),
    ("Prti", ["prti", "inscriptionalparthian"]), ("Rjng", ["rjng", "rejang"]),
    ("Rohg", ["rohg", "hanifirohingya"]), ("Runr", ["runr", "runic"]),
    ("Samr", ["samr", "samaritan"]), ("Sarb", ["sarb", "oldsoutharabian"]),
    ("Saur", ["saur", "saurashtra"]), ("Sgnw", ["sgnw", "signwriting"]),
    ("Shaw", ["shaw", "shavian"]), ("Shrd", ["shrd", "sharada"]), ("Sidd", ["sidd", "siddham"]),
    ("Sind", ["sind", "khudawadi"]), ("Sinh", ["sinh", "sinhala"]),
    ("Sogd", ["sogd", "sogdian"]), ("Sogo", ["sogo", "oldsogdian"]),
    ("Sora", ["sora", "sorasompeng"]), ("Soyo", ["soyo", "soyombo"]),
    ("Sund", ["sund", "sundanese"]), ("Sunu", ["sunu", "sunuwar"]),
    ("Sylo", ["sylo", "sylotinagri"]), ("Syrc", ["syrc", "syriac"]),
    ("Tagb", ["tagb", "tagbanwa"]), ("Takr", ["takr", "takri"]), ("Tale", ["tale", "taile"]),
    ("Talu", ["talu", "newtailue"]), ("Taml", ["taml", "tamil"]), ("Tang", ["tang", "tangut"]),
    ("Tavt", ["tavt", "taiviet"]), ("Telu", ["telu", "telugu"]), ("Tfng", ["tfng", "tifinagh"]),
    ("Tglg", ["tglg", "tagalog"]), ("Thaa", ["thaa", "thaana"]), ("Thai", ["thai"]),
    ("Tibt", ["tibt", "tibetan"]), ("Tirh", ["tirh", "tirhuta"]), ("Tnsa", ["tnsa", "tangsa"]),
    ("Todr", ["todr", "todhri"]), ("Toto", ["toto"]), ("Tutg", ["tutg", "tulutigalari"]),
    ("Ugar", ["ugar", "ugaritic"]), ("Vaii", ["vaii", "vai"]), ("Vith", ["vith", "vithkuqi"]),
    ("Wara", ["wara", "warangciti"]), ("Wcho", ["wcho", "wancho"]),
    ("Xpeo", ["xpeo", "oldpersian"]), ("Xsux", ["xsux", "cuneiform"]),
    ("Yezi", ["yezi", "yezidi"]), ("Yiii", ["yiii", "yi"]),
    ("Zanb", ["zanb", "zanabazarsquare"]), ("Zinh", ["zinh", "inherited", "qaai"]),
    ("Zyyy", ["zyyy", "common"])]

/-- Each run of one script is its code and the length of the run, which is left out if it is one.
Code points without a script have the code `Zzzz`. -/
def runs : List String :=
  ["Zyyy65Latn26Zyyy6Latn26Zyyy47LatnZyyy15LatnZyyy5Latn23ZyyyLatn31ZyyyLatn449Zyyy39Latn5Zyyy",
    "5Bopo2Zyyy20Zinh112Grek4ZyyyGrek3Zzzz2Grek4ZyyyGrekZzzz4GrekZyyyGrekZyyyGrek3ZzzzGrekZzzzG",
    "rek20ZzzzGrek63Copt14Grek16Cyrl133Zinh2Cyrl169ZzzzArmn38Zzzz2Armn50Zzzz2Armn3ZzzzHebr55Zzz",
    "z8Hebr27Zzzz4Hebr6Zzzz11Arab5ZyyyArab6ZyyyArab14ZyyyArab3ZyyyArab32ZyyyArab10Zinh11Arab26Z",
    "inhArab108ZyyyArab34Syrc14ZzzzSyrc60Zzzz2Syrc3Arab48Thaa50Zzzz14Nkoo59Zzzz2Nkoo3Samr46Zzzz",
    "2Samr15ZzzzMand28Zzzz2MandZzzzSyrc11Zzzz5Arab31ZzzzArab2Zzzz5Arab75ZyyyArab29Deva81Zinh4De",
    "va15Zyyy2Deva26Beng4ZzzzBeng8Zzzz2Beng2Zzzz2Beng22ZzzzBeng7ZzzzBengZzzz3Beng4Zzzz2Beng9Zzz",
    "z2Beng2Zzzz2Beng4Zzzz8BengZzzz4Beng2ZzzzBeng5Zzzz2Beng25Zzzz2Guru3ZzzzGuru6Zzzz4Guru2Zzzz2",
    "Guru22ZzzzGuru7ZzzzGuru2ZzzzGuru2ZzzzGuru2Zzzz2GuruZzzzGuru5Zzzz4Guru2Zzzz2Guru3Zzzz3GuruZ",
    "zzz7Guru4ZzzzGuruZzzz7Guru17Zzzz10Gujr3ZzzzGujr9ZzzzGujr3ZzzzGujr22ZzzzGujr7ZzzzGujr2ZzzzG",
    "ujr5Zzzz2Gujr10ZzzzGujr3ZzzzGujr3Zzzz2GujrZzzz15Gujr4Zzzz2Gujr12Zzzz7Gujr7ZzzzOrya3ZzzzOry",
    "a8Zzzz2Orya2Zzzz2Orya22ZzzzOrya7ZzzzOrya2ZzzzOrya5Zzzz2Orya9Zzzz2Orya2Zzzz2Orya3Zzzz7Orya3",
    "Zzzz4Orya2ZzzzOrya5Zzzz2Orya18Zzzz10Taml2ZzzzTaml6Zzzz3Taml3ZzzzTaml4Zzzz3Taml2ZzzzTamlZzz",
    "zTaml2Zzzz3Taml2Zzzz3Taml3Zzzz3Taml12Zzzz4Taml5Zzzz3Taml3ZzzzTaml4Zzzz2TamlZzzz6TamlZzzz14",
    "Taml21Zzzz5Telu13ZzzzTelu3ZzzzTelu23ZzzzTelu16Zzzz2Telu9ZzzzTelu3ZzzzTelu4Zzzz7Telu2ZzzzTe",
    "lu3Zzzz2TeluZzzz2Telu4Zzzz2Telu10Zzzz7Telu9Knda13ZzzzKnda3ZzzzKnda23ZzzzKnda10ZzzzKnda5Zzz",
    "z2Knda9ZzzzKnda3ZzzzKnda4Zzzz7Knda2Zzzz6Knda2ZzzzKnda4Zzzz2Knda10ZzzzKnda3Zzzz12Mlym13Zzzz",
    "Mlym3ZzzzMlym51ZzzzMlym3ZzzzMlym6Zzzz4Mlym16Zzzz2Mlym26ZzzzSinh3ZzzzSinh18Zzzz3Sinh24ZzzzS",
    "inh9ZzzzSinhZzzz2Sinh7Zzzz3SinhZzzz4Sinh6ZzzzSinhZzzzSinh8Zzzz6Sinh10Zzzz2Sinh3Zzzz12Thai5",
    "8Zzzz4ZyyyThai28Zzzz37Laoo2ZzzzLaooZzzzLaoo5ZzzzLaoo24ZzzzLaooZzzzLaoo23Zzzz2Laoo5ZzzzLaoo",
    "ZzzzLaoo7ZzzzLaoo10Zzzz2Laoo4Zzzz32Tibt72ZzzzTibt36Zzzz4Tibt39ZzzzTibt36ZzzzTibt15ZzzzTibt",
    "7Zyyy4Tibt2Zzzz37Mymr160Geor38ZzzzGeorZzzz5GeorZzzz2Geor43ZyyyGeor4Hang256Ethi73ZzzzEthi4Z",
    "zzz2Ethi7ZzzzEthiZzzzEthi4Zzzz2Ethi41ZzzzEthi4Zzzz2Ethi33ZzzzEthi4Zzzz2Ethi7ZzzzEthiZzzzEt",
    "hi4Zzzz2Ethi15ZzzzEthi57ZzzzEthi4Zzzz2Ethi67Zzzz2Ethi32Zzzz3Ethi26Zzzz6Cher86Zzzz2Cher6Zzz",
    "z2Cans640Ogam29Zzzz3Runr75Zyyy3Runr11Zzzz7Tglg22Zzzz9TglgHano21Zyyy2Zzzz9Buhd20Zzzz12Tagb1",
    "3ZzzzTagb3ZzzzTagb2Zzzz12Khmr94Zzzz2Khmr10Zzzz6Khmr10Zzzz6Mong2Zyyy2MongZyyyMong20Zzzz6Mon",
    "g89Zzzz7Mong43Zzzz5Cans70Zzzz10Limb31ZzzzLimb12Zzzz4Limb12Zzzz4LimbZzzz3Limb12Tale30Zzzz2T",
    "ale5Zzzz11Talu44Zzzz4Talu26Zzzz6Talu11Zzzz3Talu2Khmr32Bugi28Zzzz2Bugi2Lana63ZzzzLana29Zzzz",
    "2Lana11Zzzz6Lana10Zzzz6Lana14Zzzz2Zinh31Zzzz49Bali77ZzzzBali50Sund64Batk52Zzzz8Batk4Lepc56",
    "Zzzz3Lepc15Zzzz3Lepc3Olck48Cyrl11Zzzz5Geor43Zzzz2Geor3Sund8Zzzz8Zinh3ZyyyZinh13ZyyyZinh7Zy",
    "yy4ZinhZyyy6ZinhZyyy3Zinh2ZyyyZzzz5Latn38Grek5CyrlLatn49Grek5Latn4Grek5Latn13CyrlLatn70Gre",
    "kZinh64Latn256Grek22Zzzz2Grek6Zzzz2Grek38Zzzz2Grek6Zzzz2Grek8ZzzzGrekZzzzGrekZzzzGrekZzzzG",
    "rek31Zzzz2Grek53ZzzzGrek15ZzzzGrek14Zzzz2Grek6ZzzzGrek19Zzzz2Grek3ZzzzGrek9ZzzzZyyy12Zinh2",
    "Zyyy87ZzzzZyyy11LatnZzzz2Zyyy11LatnZyyy15ZzzzLatn13Zzzz3Zyyy33Zzzz15Zinh33Zzzz15Zyyy38Grek",
    "Zyyy3Latn2Zyyy6LatnZyyy27LatnZyyy17Latn41Zyyy3Zzzz4Zyyy666Zzzz22Zyyy11Zzzz21Zyyy928Brai256",
    "Zyyy628Zzzz2Zyyy32ZzzzZyyy105Glag96Latn32Copt116Zzzz5Copt7Geor38ZzzzGeorZzzz5GeorZzzz2Tfng",
    "56Zzzz7Tfng2Zzzz14TfngEthi23Zzzz9Ethi7ZzzzEthi7ZzzzEthi7ZzzzEthi7ZzzzEthi7ZzzzEthi7ZzzzEth",
    "i7ZzzzEthi7ZzzzCyrl32Zyyy94Zzzz34Hani26ZzzzHani89Zzzz12Hani214Zzzz26Zyyy21HaniZyyyHaniZyyy",
    "25Hani9Zinh4Hang2Zyyy8Hani4Zyyy4ZzzzHira86Zzzz2Zinh2Zyyy2Hira3ZyyyKana90Zyyy2Kana3Zzzz5Bop",
    "o43ZzzzHang94ZzzzZyyy16Bopo32Zyyy38Zzzz9ZyyyKana16Hang31ZzzzZyyy64Hang31Zyyy81Kana47ZyyyKa",
    "na88Zyyy168Hani6592Zyyy64Hani20992Yiii1165Zzzz3Yiii55Zzzz9Lisu48Vaii300Zzzz20Cyrl96Bamu88Z",
    "zzz8Zyyy34Latn102Zyyy3Latn67Zzzz2Latn2ZzzzLatnZzzzLatn8Zzzz21Latn14Sylo45Zzzz3Zyyy10Zzzz6P",
    "hag56Zzzz8Saur70Zzzz8Saur12Zzzz6Deva32Kali46ZyyyKaliRjng36Zzzz11RjngHang29Zzzz3Java78ZzzzZ",
    "yyyJava10Zzzz4Java2Mymr31ZzzzCham55Zzzz9Cham14Zzzz2Cham10Zzzz2Cham4Mymr32Tavt67Zzzz24Tavt5",
    "Mtei23Zzzz10Ethi6Zzzz2Ethi6Zzzz2Ethi6Zzzz9Ethi7ZzzzEthi7ZzzzLatn43ZyyyLatn9GrekLatn4Zyyy2Z",
    "zzz4Cher80Mtei46Zzzz2Mtei10Zzzz6Hang11172Zzzz12Hang23Zzzz4Hang49Zzzz8452Hani366Zzzz2Hani10",
    "6Zzzz38Latn7Zzzz12Armn5Zzzz5Hebr26ZzzzHebr5ZzzzHebrZzzzHebr2ZzzzHebr2ZzzzHebr10Arab115Zzzz",
    "16Arab363Zyyy2Arab80Zzzz2Arab54Zzzz7ArabZzzz32Arab16Zinh16Zyyy10Zzzz6Zinh14Cyrl2Zyyy35Zzzz",
    "Zyyy19ZzzzZyyy4Zzzz4Arab5ZzzzArab135Zzzz2ZyyyZzzzZyyy32Latn26Zyyy6Latn26Zyyy11Kana10ZyyyKa",
    "na45Zyyy2Hang31Zzzz3Hang6Zzzz2Hang6Zzzz2Hang6Zzzz2Hang3Zzzz3Zyyy7ZzzzZyyy7Zzzz10Zyyy5Zzzz2",
    "Linb12ZzzzLinb26ZzzzLinb19ZzzzLinb2ZzzzLinb15Zzzz2Linb14Zzzz34Linb123Zzzz5Zyyy3Zzzz4Zyyy45",
    "Zzzz3Zyyy9Grek79ZzzzZyyy13Zzzz3GrekZzzz47Zyyy45ZinhZzzz130Lyci29Zzzz3Cari49Zzzz15ZinhZyyy2",
    "7Zzzz4Ital36Zzzz9Ital3Goth27Zzzz5Perm43Zzzz5Ugar30ZzzzUgarXpeo36Zzzz4Xpeo14Zzzz42Dsrt80Sha",
    "w48Osma30Zzzz2Osma10Zzzz6Osge36Zzzz4Osge36Zzzz4Elba40Zzzz8Aghb52Zzzz11AghbVith11ZzzzVith15",
    "ZzzzVith7ZzzzVith2ZzzzVith11ZzzzVith15ZzzzVith7ZzzzVith2Zzzz3Todr52Zzzz12Lina311Zzzz9Lina2",
    "2Zzzz10Lina8Zzzz24Latn6ZzzzLatn42ZzzzLatn9Zzzz69Cprt6Zzzz2CprtZzzzCprt44ZzzzCprt2Zzzz3Cprt",
    "Zzzz2CprtArmi22ZzzzArmi9Palm32Nbat31Zzzz8Nbat9Zzzz48Hatr19ZzzzHatr2Zzzz5Hatr5Phnx28Zzzz3Ph",
    "nxLydi26Zzzz5LydiZzzz64Mero32Merc24Zzzz4Merc20Zzzz2Merc46Khar4ZzzzKhar2Zzzz5Khar8ZzzzKhar3",
    "ZzzzKhar29Zzzz2Khar3Zzzz4Khar10Zzzz7Khar9Zzzz7Sarb32Narb32Zzzz32Mani39Zzzz4Mani12Zzzz9Avst",
    "54Zzzz3Avst7Prti22Zzzz2Prti8Phli19Zzzz5Phli8Phlp18Zzzz7Phlp4Zzzz12Phlp7Zzzz80Orkh73Zzzz55H",
    "ung51Zzzz13Hung51Zzzz7Hung6Rohg40Zzzz8Rohg10Zzzz6Gara38Zzzz3Gara29Zzzz8Gara2Zzzz208Arab31Z",
    "zzzYezi42ZzzzYezi3Zzzz2Yezi2Zzzz16Arab3Zzzz55Arab4Sogo40Zzzz8Sogd42Zzzz22Ougr26Zzzz38Chrs2",
    "8Zzzz20Elym23Zzzz9Brah78Zzzz4Brah36Zzzz9BrahKthi67Zzzz10KthiZzzz2Sora25Zzzz7Sora10Zzzz6Cak",
    "m53ZzzzCakm18Zzzz8Mahj39Zzzz9Shrd96ZzzzSinh20Zzzz11Khoj18ZzzzKhoj47Zzzz62Mult7ZzzzMultZzzz",
    "Mult4ZzzzMult15ZzzzMult11Zzzz6Sind59Zzzz5Sind10Zzzz6Gran4ZzzzGran8Zzzz2Gran2Zzzz2Gran22Zzz",
    "zGran7ZzzzGran2ZzzzGran5ZzzzZinhGran9Zzzz2Gran2Zzzz2Gran3Zzzz2GranZzzz6GranZzzz5Gran7Zzzz2",
    "Gran7Zzzz3Gran5Zzzz11Tutg10ZzzzTutgZzzz2TutgZzzzTutg38ZzzzTutg10ZzzzTutgZzzz2TutgZzzzTutg4",
    "ZzzzTutg10ZzzzTutg2Zzzz8Tutg2Zzzz29Newa92ZzzzNewa5Zzzz30Tirh72Zzzz8Tirh10Zzzz166Sidd54Zzzz",
    "2Sidd38Zzzz34Modi69Zzzz11Modi10Zzzz6Mong13Zzzz19Takr58Zzzz6Takr10Zzzz6Mymr20Zzzz28Ahom27Zz",
    "zz2Ahom15Zzzz4Ahom23Zzzz185Dogr60Zzzz100Wara83Zzzz12WaraDiak7Zzzz2DiakZzzz2Diak8ZzzzDiak2Z",
    "zzzDiak30ZzzzDiak2Zzzz2Diak12Zzzz9Diak10Zzzz70Nand8Zzzz2Nand46Zzzz2Nand11Zzzz27Zanb72Zzzz8",
    "Soyo83Zzzz13Cans16Pauc57Zzzz7Deva10Zzzz182Sunu34Zzzz14Sunu10Zzzz6Bhks9ZzzzBhks45ZzzzBhks14",
    "Zzzz10Bhks29Zzzz3Marc32Zzzz2Marc22ZzzzMarc14Zzzz73Gonm7ZzzzGonm2ZzzzGonm44Zzzz3GonmZzzzGon",
    "m2ZzzzGonm9Zzzz8Gonm10Zzzz6Gong6ZzzzGong2ZzzzGong37ZzzzGong2ZzzzGong6Zzzz7Gong10Zzzz310Mak",
    "a25Zzzz7Kawi17ZzzzKawi41Zzzz3Kawi29Zzzz85LisuZzzz15Taml50Zzzz13TamlXsux922Zzzz102Xsux111Zz",
    "zzXsux5Zzzz11Xsux196Zzzz2636Cpmn99Zzzz13Egyp1110Zzzz10Egyp3995Zzzz5Hluw583Zzzz6841Gukh58Zz",
    "zz1734Bamu569Zzzz7Mroo31ZzzzMroo10Zzzz4Mroo2Tnsa79ZzzzTnsa10Zzzz6Bass30Zzzz2Bass6Zzzz10Hmn",
    "g70Zzzz10Hmng10ZzzzHmng7ZzzzHmng21Zzzz5Hmng19Zzzz432Krai58Zzzz198Medf91Zzzz101Plrd75Zzzz4P",
    "lrd57Zzzz7Plrd17Zzzz64TangNshuHani2KitsZzzz11Hani2Zzzz14Tang6136Zzzz8Tang768Kits470Zzzz41K",
    "itsTang9Zzzz8935Kana4ZzzzKana7ZzzzKana2ZzzzKanaHira287Kana3Zzzz15HiraZzzz29Hira3Zzzz2KanaZ",
    "zzz14Kana4Zzzz8Nshu396Zzzz2308Dupl107Zzzz5Dupl13Zzzz3Dupl9Zzzz7Dupl10Zzzz2Dupl4Zyyy4Zzzz39",
    "32Zyyy250Zzzz6Zyyy436Zzzz76Zinh46Zzzz2Zinh23Zzzz9Zyyy116Zzzz60Zyyy246Zzzz10Zyyy39Zzzz2Zyyy",
    "62Zinh3Zyyy17Zinh8Zyyy2Zinh7Zyyy30Zinh4Zyyy61Zzzz21Grek70Zzzz122Zyyy20Zzzz12Zyyy20Zzzz12Zy",
    "yy87Zzzz9Zyyy25Zzzz135Zyyy85ZzzzZyyy71ZzzzZyyy2Zzzz2ZyyyZzzz2Zyyy2Zzzz2Zyyy4ZzzzZyyy12Zzzz",
    "ZyyyZzzzZyyy7ZzzzZyyy65ZzzzZyyy4Zzzz2Zyyy8ZzzzZyyy7ZzzzZyyy28ZzzzZyyy4ZzzzZyyy5ZzzzZyyyZzz",
    "z3Zyyy7ZzzzZyyy340Zzzz2Zyyy292Zzzz2Zyyy50Sgnw652Zzzz15Sgnw5ZzzzSgnw15Zzzz1104Latn31Zzzz6La",
    "tn6Zzzz213Glag7ZzzzGlag17Zzzz2Glag7ZzzzGlag2ZzzzGlag5Zzzz5Cyrl62Zzzz33CyrlZzzz112Hmnp45Zzz",
    "z3Hmnp14Zzzz2Hmnp10Zzzz4Hmnp2Zzzz320Toto31Zzzz17Wcho58Zzzz5WchoZzzz464Nagm42Zzzz214Onao43Z",
    "zzz4OnaoZzzz480Ethi7ZzzzEthi4ZzzzEthi2ZzzzEthi15ZzzzMend197Zzzz2Mend16Zzzz41Adlm76Zzzz4Adl",
    "m10Zzzz4Adlm2Zzzz785Zyyy68Zzzz76Zyyy61Zzzz194Arab4ZzzzArab27ZzzzArab2ZzzzArabZzzz2ArabZzzz",
    "Arab10ZzzzArab4ZzzzArabZzzzArabZzzz6ArabZzzz4ArabZzzzArabZzzzArabZzzzArab3ZzzzArab2ZzzzAra",
    "bZzzz2ArabZzzzArabZzzzArabZzzzArabZzzzArabZzzzArab2ZzzzArabZzzz2Arab4ZzzzArab7ZzzzArab4Zzz",
    "zArab4ZzzzArabZzzzArab10ZzzzArab17Zzzz5Arab3ZzzzArab5ZzzzArab17Zzzz52Arab2Zzzz270Zyyy44Zzz",
    "z4Zyyy100Zzzz12Zyyy15Zzzz2Zyyy15ZzzzZyyy15ZzzzZyyy37Zzzz10Zyyy174Zzzz56Zyyy26HiraZyyy2Zzzz",
    "13Zyyy44Zzzz4Zyyy9Zzzz7Zyyy2Zzzz14Zyyy6Zzzz154Zyyy984Zzzz4Zyyy17Zzzz3Zyyy13Zzzz3Zyyy119Zzz",
    "z4Zyyy95Zzzz6Zyyy12Zzzz4ZyyyZzzz15Zyyy12Zzzz4Zyyy56Zzzz8Zyyy10Zzzz6Zyyy40Zzzz8Zyyy30Zzzz2Z",
    "yyy12Zzzz4Zyyy2Zzzz62Zyyy340Zzzz12Zyyy14Zzzz2Zyyy13Zzzz3Zyyy10Zzzz5Zyyy56Zzzz7Zyyy15Zzzz2Z",
    "yyy11Zzzz6Zyyy9Zzzz7Zyyy147ZzzzZyyy102Zzzz1030Hani42720Zzzz32Hani4154Zzzz6Hani222Zzzz2Hani",
    "5762Zzzz14Hani7473Zzzz15Hani622Zzzz2466Hani542Zzzz1506Hani4939Zzzz5Hani4192Zzzz711761ZyyyZ",
    "zzz30Zyyy96Zzzz128Zinh240Zzzz196112"]

/-- Reads the table into the first code point behind each run and the code of the run's script. -/
def readRuns : Nat → List Char → Nat → List (Nat × String)
  | 0, _, _ => []
  | _, [], _ => []
  | fuel + 1, cs, start =>
    let code := cs.take 4
    let ds := (cs.drop 4).takeWhile Char.isDigit
    let length := if ds.isEmpty then 1 else ds.foldl (fun n d => 10 * n + (d.toNat - 48)) 0
    (start + length, String.ofList code) :: readRuns fuel (cs.drop (4 + ds.length)) (start + length)

/-- The runs in ascending order, each with the first code point behind it. -/
def table : List (Nat × String) :=
  let cs := RunLength.characters runs
  readRuns cs.length cs 0

/-- The characters that are used with other scripts than their own: ranges, with the codes of the scripts. -/
def shared : List (Nat × Nat × String) :=
  [(183, 183, "Avst Cari Copt Dupl Elba Geor Glag Gong Goth Grek Hani Latn Lydi Mahj Perm Shaw"),
    (700, 700, "Beng Cyrl Deva Latn Lisu Thai Toto"), (711, 711, "Bopo Latn"),
    (713, 715, "Bopo Latn"), (717, 717, "Latn Lisu"), (727, 727, "Latn Thai"),
    (729, 729, "Bopo Latn"), (768, 768, "Cher Copt Cyrl Grek Latn Perm Sunu Tale"),
    (769, 769, "Cher Cyrl Grek Latn Osge Sunu Tale Todr"), (770, 770, "Cher Cyrl Latn Tfng"),
    (771, 771, "Glag Latn Sunu Syrc Thai"),
    (772, 772, "Aghb Cher Copt Cyrl Goth Grek Latn Osge Syrc Tfng Todr"),
    (773, 773, "Copt Elba Glag Goth Kana Latn"), (774, 774, "Cyrl Grek Latn Perm Tfng"),
    (775, 775, "Copt Dupl Hebr Latn Perm Syrc Tale Tfng Todr"),
    (776, 776, "Armn Cyrl Dupl Goth Grek Hebr Latn Perm Syrc Tale Tfng"),
    (777, 777, "Latn Tfng"), (778, 778, "Dupl Latn Syrc"), (779, 779, "Cher Cyrl Latn Osge"),
    (780, 780, "Cher Latn Tale"), (781, 781, "Latn Sunu"), (782, 782, "Ethi Latn"),
    (784, 784, "Latn Sunu"), (785, 785, "Cyrl Latn Todr"), (787, 787, "Grek Latn Perm Todr"),
    (803, 803, "Cher Dupl Kana Latn Syrc Tfng"), (804, 804, "Cher Dupl Latn Syrc"),
    (805, 805, "Latn Syrc"), (813, 813, "Latn Sunu Syrc"), (814, 814, "Latn Syrc"),
    (816, 816, "Cher Latn Syrc"), (817, 817, "Aghb Cher Goth Latn Sunu Syrc Thai"),
    (834, 834, "Grek"), (837, 837, "Grek"), (856, 856, "Latn Osge"),
    (862, 862, "Aghb Latn Todr"), (867, 879, "Latn"), (884, 885, "Copt Grek"),
    (1155, 1155, "Cyrl Perm"), (1156, 1156, "Cyrl Glag"), (1157, 1158, "Cyrl Latn"),
    (1159, 1159, "Cyrl Glag"), (1417, 1417, "Armn Geor Glag"),
    (1548, 1548, "Arab Gara Nkoo Rohg Syrc Thaa Yezi"),
    (1563, 1563, "Arab Gara Nkoo Rohg Syrc Thaa Yezi"), (1564, 1564, "Arab Syrc Thaa"),
    (1567, 1567, "Adlm Arab Gara Nkoo Rohg Syrc Thaa Yezi"),
    (1600, 1600, "Adlm Arab Mand Mani Ougr Phlp Rohg Sogd Syrc"), (1611, 1621, "Arab Syrc"),
    (1632, 1641, "Arab Thaa Yezi"), (1648, 1648, "Arab Syrc"), (1748, 1748, "Arab Rohg"),
    (2385, 2385, "Beng Deva Gran Gujr Guru Knda Latn Mlym Nand Newa Orya Shrd Taml Telu Tirh"),
    (2386, 2386, "Beng Deva Gran Gujr Guru Knda Latn Mlym Newa Orya Taml Telu Tirh"),
    (2404, 2404, "Beng Deva Dogr Gong Gonm Gran Gujr Guru Knda Mahj Mlym Nand Onao Orya Sind Sinh Sylo Takr Taml Telu Tirh"),
    (2405, 2405, "Beng Deva Dogr Gong Gonm Gran Gujr Gukh Guru Knda Limb Mahj Mlym Nand Onao Orya Sind Sinh Sylo Takr Taml Telu Tirh"),
    (2406, 2415, "Deva Dogr Kthi Mahj"), (2534, 2543, "Beng Cakm Sylo"),
    (2662, 2671, "Guru Mult"), (2790, 2799, "Gujr Khoj"), (3046, 3059, "Gran Taml"),
    (3302, 3311, "Knda Nand Tutg"), (4160, 4169, "Cakm Mymr Tale"),
    (4347, 4347, "Geor Glag Latn"), (5867, 5869, "Runr"), (5941, 5942, "Buhd Hano Tagb Tglg"),
    (6146, 6147, "Mong Phag"), (6149, 6149, "Mong Phag"), (7376, 7376, "Beng Deva Gran Knda"),
    (7377, 7377, "Deva"), (7378, 7378, "Beng Deva Gran Knda"), (7379, 7379, "Deva Gran Knda"),
    (7380, 7380, "Deva"), (7381, 7381, "Beng Deva Newa Telu Tirh"),
    (7382, 7382, "Beng Deva Telu"), (7383, 7383, "Deva Newa Shrd"),
    (7384, 7384, "Beng Deva Newa Telu"), (7385, 7385, "Deva Shrd"),
    (7386, 7386, "Deva Knda Mlym Orya Taml Telu"), (7387, 7387, "Deva"),
    (7388, 7389, "Deva Shrd"), (7390, 7391, "Deva"), (7392, 7392, "Deva Shrd"),
    (7393, 7393, "Beng Deva"), (7394, 7394, "Deva Newa Tirh"), (7395, 7400, "Deva"),
    (7401, 7401, "Deva Nand Newa"), (7402, 7402, "Beng Deva Shrd"), (7403, 7403, "Deva Newa"),
    (7404, 7404, "Deva"), (7405, 7405, "Beng Deva Newa Shrd"), (7406, 7409, "Deva"),
    (7410, 7410, "Beng Deva Gran Knda Mlym Nand Orya Sinh Telu Tirh Tutg"),
    (7411, 7411, "Deva Gran"), (7412, 7412, "Deva Gran Knda Tutg"), (7413, 7414, "Beng Deva"),
    (7415, 7415, "Beng"), (7416, 7417, "Deva Gran"), (7418, 7418, "Nand"), (7616, 7617, "Grek"),
    (7672, 7672, "Cyrl Latn Syrc"), (7674, 7674, "Syrc"), (8239, 8239, "Latn Mong Phag"),
    (8271, 8271, "Adlm Arab"), (8282, 8282, "Cari Geor Glag Hung Lyci Orkh"),
    (8285, 8285, "Cari Grek Hung Mero"), (8432, 8432, "Deva Gran Latn"),
    (11799, 11799, "Copt Latn"), (11824, 11824, "Avst Orkh"),
    (11825, 11825, "Avst Cari Geor Hung Kthi Lydi Samr"), (11836, 11836, "Dupl"),
    (11841, 11841, "Adlm Arab Hung"), (11843, 11843, "Cyrl Glag"), (12272, 12287, "Hani Tang"),
    (12289, 12289, "Bopo Hang Hani Hira Kana Mong Yiii"),
    (12290, 12290, "Bopo Hang Hani Hira Kana Mong Phag Yiii"),
    (12291, 12291, "Bopo Hang Hani Hira Kana"), (12294, 12294, "Hani"),
    (12296, 12297, "Bopo Hang Hani Hira Kana Mong Tibt Yiii"),
    (12298, 12299, "Bopo Hang Hani Hira Kana Lisu Mong Tibt Yiii"),
    (12300, 12305, "Bopo Hang Hani Hira Kana Yiii"), (12307, 12307, "Bopo Hang Hani Hira Kana"),
    (12308, 12315, "Bopo Hang Hani Hira Kana Yiii"), (12316, 12319, "Bopo Hang Hani Hira Kana"),
    (12330, 12333, "Bopo Hani"), (12336, 12336, "Bopo Hang Hani Hira Kana"),
    (12337, 12341, "Hira Kana"), (12343, 12343, "Bopo Hang Hani Hira Kana"),
    (12348, 12349, "Hani Hira Kana"), (12350, 12351, "Hani"), (12441, 12444, "Hira Kana"),
    (12448, 12448, "Hira Kana"), (12539, 12539, "Bopo Hang Hani Hira Kana Yiii"),
    (12540, 12540, "Hira Kana"), (12688, 12703, "Hani"), (12736, 12773, "Hani"),
    (12783, 12783, "Hani Tang"), (12832, 12871, "Hani"), (12928, 12976, "Hani"),
    (12992, 13003, "Hani"), (13055, 13055, "Hani"), (13144, 13168, "Hani"),
    (13179, 13183, "Hani"), (13280, 13310, "Hani"), (42607, 42607, "Cyrl Glag"),
    (42752, 42759, "Hani Latn"),
    (43056, 43058, "Deva Dogr Gujr Guru Khoj Knda Kthi Mahj Mlym Modi Nand Shrd Sind Takr Tirh Tutg"),
    (43059, 43061, "Deva Dogr Gujr Guru Khoj Knda Kthi Mahj Modi Nand Shrd Sind Takr Tirh Tutg"),
    (43062, 43063, "Deva Dogr Gujr Guru Khoj Kthi Mahj Modi Sind Takr Tirh"),
    (43064, 43064, "Deva Dogr Gujr Guru Khoj Kthi Mahj Modi Shrd Sind Takr Tirh"),
    (43065, 43065, "Deva Dogr Gujr Guru Khoj Kthi Mahj Modi Sind Takr Tirh"),
    (43249, 43249, "Beng Deva Tutg"), (43251, 43251, "Deva Taml"),
    (43310, 43310, "Kali Latn Mymr"), (43471, 43471, "Bugi Java"), (64830, 64831, "Arab Nkoo"),
    (65010, 65010, "Arab Thaa"), (65021, 65021, "Arab Thaa"),
    (65093, 65094, "Bopo Hang Hani Hira Kana"), (65377, 65381, "Bopo Hang Hani Hira Kana Yiii"),
    (65392, 65392, "Hira Kana"), (65438, 65439, "Hira Kana"), (65792, 65793, "Cpmn Cprt Linb"),
    (65794, 65794, "Cprt Linb"), (65799, 65843, "Cprt Lina Linb"), (65847, 65855, "Cprt Linb"),
    (66272, 66299, "Arab Copt"), (68338, 68338, "Mani Ougr"), (70401, 70401, "Gran Taml"),
    (70403, 70403, "Gran Taml"), (70459, 70460, "Gran Taml"), (73680, 73681, "Gran Taml"),
    (73683, 73683, "Gran Taml"), (113824, 113827, "Dupl"), (119648, 119665, "Hani"),
    (127568, 127569, "Hani")]

def ofName? (name : String) : Option String :=
  (names.find? fun (_, all) => all.contains name).map Prod.fst

def set (code : String) : CodeSet := .ofRuns (· = code) table

def extendedSet (code : String) : CodeSet :=
  let ranges (rs : List (Nat × Nat × String)) : CodeSet :=
    .unions (rs.map fun (first, last, _) => .range first last)
  let here := shared.filter fun (_, _, codes) => (codes.splitOn " ").contains code
  ((set code).diff (ranges shared)).union (ranges here)

end ServiceWatch.Unicode.Script
