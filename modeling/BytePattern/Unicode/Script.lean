/-
The script of every character, and the scripts that a character of several is used in.
-/
import BytePattern.Unicode.Runs

namespace BytePattern

/-- The scripts in order, by their four-letter names. -/
def scriptTable : String :=
  String.join [
    "Zyyy65Latn26Zyyy6Latn26Zyyy47LatnZyyy15LatnZyyy5Latn23ZyyyLatn31ZyyyLatn449Zyyy39Latn5",
    "Zyyy5Bopo2Zyyy20Zinh112Grek4ZyyyGrek3Zzzz2Grek4ZyyyGrekZzzz4GrekZyyyGrekZyyyGrek3Zzzz",
    "GrekZzzzGrek20ZzzzGrek63Copt14Grek16Cyrl133Zinh2Cyrl169ZzzzArmn38Zzzz2Armn50Zzzz2Armn3",
    "ZzzzHebr55Zzzz8Hebr27Zzzz4Hebr6Zzzz11Arab5ZyyyArab6ZyyyArab14ZyyyArab3ZyyyArab32Zyyy",
    "Arab10Zinh11Arab26ZinhArab108ZyyyArab34Syrc14ZzzzSyrc60Zzzz2Syrc3Arab48Thaa50Zzzz14",
    "Nkoo59Zzzz2Nkoo3Samr46Zzzz2Samr15ZzzzMand28Zzzz2MandZzzzSyrc11Zzzz5Arab31ZzzzArab2Zzzz5",
    "Arab75ZyyyArab29Deva81Zinh4Deva15Zyyy2Deva26Beng4ZzzzBeng8Zzzz2Beng2Zzzz2Beng22ZzzzBeng7",
    "ZzzzBengZzzz3Beng4Zzzz2Beng9Zzzz2Beng2Zzzz2Beng4Zzzz8BengZzzz4Beng2ZzzzBeng5Zzzz2Beng25",
    "Zzzz2Guru3ZzzzGuru6Zzzz4Guru2Zzzz2Guru22ZzzzGuru7ZzzzGuru2ZzzzGuru2ZzzzGuru2Zzzz2Guru",
    "ZzzzGuru5Zzzz4Guru2Zzzz2Guru3Zzzz3GuruZzzz7Guru4ZzzzGuruZzzz7Guru17Zzzz10Gujr3ZzzzGujr9",
    "ZzzzGujr3ZzzzGujr22ZzzzGujr7ZzzzGujr2ZzzzGujr5Zzzz2Gujr10ZzzzGujr3ZzzzGujr3Zzzz2Gujr",
    "Zzzz15Gujr4Zzzz2Gujr12Zzzz7Gujr7ZzzzOrya3ZzzzOrya8Zzzz2Orya2Zzzz2Orya22ZzzzOrya7Zzzz",
    "Orya2ZzzzOrya5Zzzz2Orya9Zzzz2Orya2Zzzz2Orya3Zzzz7Orya3Zzzz4Orya2ZzzzOrya5Zzzz2Orya18",
    "Zzzz10Taml2ZzzzTaml6Zzzz3Taml3ZzzzTaml4Zzzz3Taml2ZzzzTamlZzzzTaml2Zzzz3Taml2Zzzz3Taml3",
    "Zzzz3Taml12Zzzz4Taml5Zzzz3Taml3ZzzzTaml4Zzzz2TamlZzzz6TamlZzzz14Taml21Zzzz5Telu13Zzzz",
    "Telu3ZzzzTelu23ZzzzTelu16Zzzz2Telu9ZzzzTelu3ZzzzTelu4Zzzz7Telu2ZzzzTelu3Zzzz2TeluZzzz2",
    "Telu4Zzzz2Telu10Zzzz7Telu9Knda13ZzzzKnda3ZzzzKnda23ZzzzKnda10ZzzzKnda5Zzzz2Knda9Zzzz",
    "Knda3ZzzzKnda4Zzzz7Knda2Zzzz6Knda2ZzzzKnda4Zzzz2Knda10ZzzzKnda3Zzzz12Mlym13ZzzzMlym3Zzzz",
    "Mlym51ZzzzMlym3ZzzzMlym6Zzzz4Mlym16Zzzz2Mlym26ZzzzSinh3ZzzzSinh18Zzzz3Sinh24ZzzzSinh9",
    "ZzzzSinhZzzz2Sinh7Zzzz3SinhZzzz4Sinh6ZzzzSinhZzzzSinh8Zzzz6Sinh10Zzzz2Sinh3Zzzz12Thai58",
    "Zzzz4ZyyyThai28Zzzz37Laoo2ZzzzLaooZzzzLaoo5ZzzzLaoo24ZzzzLaooZzzzLaoo23Zzzz2Laoo5Zzzz",
    "LaooZzzzLaoo7ZzzzLaoo10Zzzz2Laoo4Zzzz32Tibt72ZzzzTibt36Zzzz4Tibt39ZzzzTibt36ZzzzTibt15",
    "ZzzzTibt7Zyyy4Tibt2Zzzz37Mymr160Geor38ZzzzGeorZzzz5GeorZzzz2Geor43ZyyyGeor4Hang256Ethi73",
    "ZzzzEthi4Zzzz2Ethi7ZzzzEthiZzzzEthi4Zzzz2Ethi41ZzzzEthi4Zzzz2Ethi33ZzzzEthi4Zzzz2Ethi7",
    "ZzzzEthiZzzzEthi4Zzzz2Ethi15ZzzzEthi57ZzzzEthi4Zzzz2Ethi67Zzzz2Ethi32Zzzz3Ethi26Zzzz6",
    "Cher86Zzzz2Cher6Zzzz2Cans640Ogam29Zzzz3Runr75Zyyy3Runr11Zzzz7Tglg22Zzzz9TglgHano21Zyyy2",
    "Zzzz9Buhd20Zzzz12Tagb13ZzzzTagb3ZzzzTagb2Zzzz12Khmr94Zzzz2Khmr10Zzzz6Khmr10Zzzz6Mong2",
    "Zyyy2MongZyyyMong20Zzzz6Mong89Zzzz7Mong43Zzzz5Cans70Zzzz10Limb31ZzzzLimb12Zzzz4Limb12",
    "Zzzz4LimbZzzz3Limb12Tale30Zzzz2Tale5Zzzz11Talu44Zzzz4Talu26Zzzz6Talu11Zzzz3Talu2Khmr32",
    "Bugi28Zzzz2Bugi2Lana63ZzzzLana29Zzzz2Lana11Zzzz6Lana10Zzzz6Lana14Zzzz2Zinh31Zzzz49Bali77",
    "ZzzzBali50Sund64Batk52Zzzz8Batk4Lepc56Zzzz3Lepc15Zzzz3Lepc3Olck48Cyrl11Zzzz5Geor43Zzzz2",
    "Geor3Sund8Zzzz8Zinh3ZyyyZinh13ZyyyZinh7Zyyy4ZinhZyyy6ZinhZyyy3Zinh2ZyyyZzzz5Latn38Grek5",
    "CyrlLatn49Grek5Latn4Grek5Latn13CyrlLatn70GrekZinh64Latn256Grek22Zzzz2Grek6Zzzz2Grek38",
    "Zzzz2Grek6Zzzz2Grek8ZzzzGrekZzzzGrekZzzzGrekZzzzGrek31Zzzz2Grek53ZzzzGrek15ZzzzGrek14",
    "Zzzz2Grek6ZzzzGrek19Zzzz2Grek3ZzzzGrek9ZzzzZyyy12Zinh2Zyyy87ZzzzZyyy11LatnZzzz2Zyyy11",
    "LatnZyyy15ZzzzLatn13Zzzz3Zyyy33Zzzz15Zinh33Zzzz15Zyyy38GrekZyyy3Latn2Zyyy6LatnZyyy27Latn",
    "Zyyy17Latn41Zyyy3Zzzz4Zyyy666Zzzz22Zyyy11Zzzz21Zyyy928Brai256Zyyy628Zzzz2Zyyy32Zzzz",
    "Zyyy105Glag96Latn32Copt116Zzzz5Copt7Geor38ZzzzGeorZzzz5GeorZzzz2Tfng56Zzzz7Tfng2Zzzz14",
    "TfngEthi23Zzzz9Ethi7ZzzzEthi7ZzzzEthi7ZzzzEthi7ZzzzEthi7ZzzzEthi7ZzzzEthi7ZzzzEthi7Zzzz",
    "Cyrl32Zyyy94Zzzz34Hani26ZzzzHani89Zzzz12Hani214Zzzz26Zyyy21HaniZyyyHaniZyyy25Hani9Zinh4",
    "Hang2Zyyy8Hani4Zyyy4ZzzzHira86Zzzz2Zinh2Zyyy2Hira3ZyyyKana90Zyyy2Kana3Zzzz5Bopo43Zzzz",
    "Hang94ZzzzZyyy16Bopo32Zyyy38Zzzz9ZyyyKana16Hang31ZzzzZyyy64Hang31Zyyy81Kana47ZyyyKana88",
    "Zyyy168Hani6592Zyyy64Hani20992Yiii1165Zzzz3Yiii55Zzzz9Lisu48Vaii300Zzzz20Cyrl96Bamu88",
    "Zzzz8Zyyy34Latn102Zyyy3Latn67Zzzz2Latn2ZzzzLatnZzzzLatn8Zzzz21Latn14Sylo45Zzzz3Zyyy10",
    "Zzzz6Phag56Zzzz8Saur70Zzzz8Saur12Zzzz6Deva32Kali46ZyyyKaliRjng36Zzzz11RjngHang29Zzzz3",
    "Java78ZzzzZyyyJava10Zzzz4Java2Mymr31ZzzzCham55Zzzz9Cham14Zzzz2Cham10Zzzz2Cham4Mymr32",
    "Tavt67Zzzz24Tavt5Mtei23Zzzz10Ethi6Zzzz2Ethi6Zzzz2Ethi6Zzzz9Ethi7ZzzzEthi7ZzzzLatn43Zyyy",
    "Latn9GrekLatn4Zyyy2Zzzz4Cher80Mtei46Zzzz2Mtei10Zzzz6Hang11172Zzzz12Hang23Zzzz4Hang49",
    "Zzzz8452Hani366Zzzz2Hani106Zzzz38Latn7Zzzz12Armn5Zzzz5Hebr26ZzzzHebr5ZzzzHebrZzzzHebr2",
    "ZzzzHebr2ZzzzHebr10Arab115Zzzz16Arab363Zyyy2Arab80Zzzz2Arab54Zzzz7ArabZzzz32Arab16Zinh16",
    "Zyyy10Zzzz6Zinh14Cyrl2Zyyy35ZzzzZyyy19ZzzzZyyy4Zzzz4Arab5ZzzzArab135Zzzz2ZyyyZzzzZyyy32",
    "Latn26Zyyy6Latn26Zyyy11Kana10ZyyyKana45Zyyy2Hang31Zzzz3Hang6Zzzz2Hang6Zzzz2Hang6Zzzz2",
    "Hang3Zzzz3Zyyy7ZzzzZyyy7Zzzz10Zyyy5Zzzz2Linb12ZzzzLinb26ZzzzLinb19ZzzzLinb2ZzzzLinb15",
    "Zzzz2Linb14Zzzz34Linb123Zzzz5Zyyy3Zzzz4Zyyy45Zzzz3Zyyy9Grek79ZzzzZyyy13Zzzz3GrekZzzz47",
    "Zyyy45ZinhZzzz130Lyci29Zzzz3Cari49Zzzz15ZinhZyyy27Zzzz4Ital36Zzzz9Ital3Goth27Zzzz5Perm43",
    "Zzzz5Ugar30ZzzzUgarXpeo36Zzzz4Xpeo14Zzzz42Dsrt80Shaw48Osma30Zzzz2Osma10Zzzz6Osge36Zzzz4",
    "Osge36Zzzz4Elba40Zzzz8Aghb52Zzzz11AghbVith11ZzzzVith15ZzzzVith7ZzzzVith2ZzzzVith11Zzzz",
    "Vith15ZzzzVith7ZzzzVith2Zzzz3Todr52Zzzz12Lina311Zzzz9Lina22Zzzz10Lina8Zzzz24Latn6Zzzz",
    "Latn42ZzzzLatn9Zzzz69Cprt6Zzzz2CprtZzzzCprt44ZzzzCprt2Zzzz3CprtZzzz2CprtArmi22ZzzzArmi9",
    "Palm32Nbat31Zzzz8Nbat9Zzzz48Hatr19ZzzzHatr2Zzzz5Hatr5Phnx28Zzzz3PhnxLydi26Zzzz5Lydi",
    "Zzzz64Mero32Merc24Zzzz4Merc20Zzzz2Merc46Khar4ZzzzKhar2Zzzz5Khar8ZzzzKhar3ZzzzKhar29Zzzz2",
    "Khar3Zzzz4Khar10Zzzz7Khar9Zzzz7Sarb32Narb32Zzzz32Mani39Zzzz4Mani12Zzzz9Avst54Zzzz3Avst7",
    "Prti22Zzzz2Prti8Phli19Zzzz5Phli8Phlp18Zzzz7Phlp4Zzzz12Phlp7Zzzz80Orkh73Zzzz55Hung51",
    "Zzzz13Hung51Zzzz7Hung6Rohg40Zzzz8Rohg10Zzzz6Gara38Zzzz3Gara29Zzzz8Gara2Zzzz208Arab31Zzzz",
    "Yezi42ZzzzYezi3Zzzz2Yezi2Zzzz16Arab3Zzzz55Arab4Sogo40Zzzz8Sogd42Zzzz22Ougr26Zzzz38Chrs28",
    "Zzzz20Elym23Zzzz9Brah78Zzzz4Brah36Zzzz9BrahKthi67Zzzz10KthiZzzz2Sora25Zzzz7Sora10Zzzz6",
    "Cakm53ZzzzCakm18Zzzz8Mahj39Zzzz9Shrd96ZzzzSinh20Zzzz11Khoj18ZzzzKhoj47Zzzz62Mult7Zzzz",
    "MultZzzzMult4ZzzzMult15ZzzzMult11Zzzz6Sind59Zzzz5Sind10Zzzz6Gran4ZzzzGran8Zzzz2Gran2",
    "Zzzz2Gran22ZzzzGran7ZzzzGran2ZzzzGran5ZzzzZinhGran9Zzzz2Gran2Zzzz2Gran3Zzzz2GranZzzz6",
    "GranZzzz5Gran7Zzzz2Gran7Zzzz3Gran5Zzzz11Tutg10ZzzzTutgZzzz2TutgZzzzTutg38ZzzzTutg10Zzzz",
    "TutgZzzz2TutgZzzzTutg4ZzzzTutg10ZzzzTutg2Zzzz8Tutg2Zzzz29Newa92ZzzzNewa5Zzzz30Tirh72",
    "Zzzz8Tirh10Zzzz166Sidd54Zzzz2Sidd38Zzzz34Modi69Zzzz11Modi10Zzzz6Mong13Zzzz19Takr58Zzzz6",
    "Takr10Zzzz6Mymr20Zzzz28Ahom27Zzzz2Ahom15Zzzz4Ahom23Zzzz185Dogr60Zzzz100Wara83Zzzz12Wara",
    "Diak7Zzzz2DiakZzzz2Diak8ZzzzDiak2ZzzzDiak30ZzzzDiak2Zzzz2Diak12Zzzz9Diak10Zzzz70Nand8",
    "Zzzz2Nand46Zzzz2Nand11Zzzz27Zanb72Zzzz8Soyo83Zzzz13Cans16Pauc57Zzzz7Deva10Zzzz182Sunu34",
    "Zzzz14Sunu10Zzzz6Bhks9ZzzzBhks45ZzzzBhks14Zzzz10Bhks29Zzzz3Marc32Zzzz2Marc22ZzzzMarc14",
    "Zzzz73Gonm7ZzzzGonm2ZzzzGonm44Zzzz3GonmZzzzGonm2ZzzzGonm9Zzzz8Gonm10Zzzz6Gong6ZzzzGong2",
    "ZzzzGong37ZzzzGong2ZzzzGong6Zzzz7Gong10Zzzz310Maka25Zzzz7Kawi17ZzzzKawi41Zzzz3Kawi29",
    "Zzzz85LisuZzzz15Taml50Zzzz13TamlXsux922Zzzz102Xsux111ZzzzXsux5Zzzz11Xsux196Zzzz2636",
    "Cpmn99Zzzz13Egyp1110Zzzz10Egyp3995Zzzz5Hluw583Zzzz6841Gukh58Zzzz1734Bamu569Zzzz7Mroo31",
    "ZzzzMroo10Zzzz4Mroo2Tnsa79ZzzzTnsa10Zzzz6Bass30Zzzz2Bass6Zzzz10Hmng70Zzzz10Hmng10Zzzz",
    "Hmng7ZzzzHmng21Zzzz5Hmng19Zzzz432Krai58Zzzz198Medf91Zzzz101Plrd75Zzzz4Plrd57Zzzz7Plrd17",
    "Zzzz64TangNshuHani2KitsZzzz11Hani2Zzzz14Tang6136Zzzz8Tang768Kits470Zzzz41KitsTang9",
    "Zzzz8935Kana4ZzzzKana7ZzzzKana2ZzzzKanaHira287Kana3Zzzz15HiraZzzz29Hira3Zzzz2KanaZzzz14",
    "Kana4Zzzz8Nshu396Zzzz2308Dupl107Zzzz5Dupl13Zzzz3Dupl9Zzzz7Dupl10Zzzz2Dupl4Zyyy4Zzzz3932",
    "Zyyy250Zzzz6Zyyy436Zzzz76Zinh46Zzzz2Zinh23Zzzz9Zyyy116Zzzz60Zyyy246Zzzz10Zyyy39Zzzz2",
    "Zyyy62Zinh3Zyyy17Zinh8Zyyy2Zinh7Zyyy30Zinh4Zyyy61Zzzz21Grek70Zzzz122Zyyy20Zzzz12Zyyy20",
    "Zzzz12Zyyy87Zzzz9Zyyy25Zzzz135Zyyy85ZzzzZyyy71ZzzzZyyy2Zzzz2ZyyyZzzz2Zyyy2Zzzz2Zyyy4Zzzz",
    "Zyyy12ZzzzZyyyZzzzZyyy7ZzzzZyyy65ZzzzZyyy4Zzzz2Zyyy8ZzzzZyyy7ZzzzZyyy28ZzzzZyyy4Zzzz",
    "Zyyy5ZzzzZyyyZzzz3Zyyy7ZzzzZyyy340Zzzz2Zyyy292Zzzz2Zyyy50Sgnw652Zzzz15Sgnw5ZzzzSgnw15",
    "Zzzz1104Latn31Zzzz6Latn6Zzzz213Glag7ZzzzGlag17Zzzz2Glag7ZzzzGlag2ZzzzGlag5Zzzz5Cyrl62",
    "Zzzz33CyrlZzzz112Hmnp45Zzzz3Hmnp14Zzzz2Hmnp10Zzzz4Hmnp2Zzzz320Toto31Zzzz17Wcho58Zzzz5",
    "WchoZzzz464Nagm42Zzzz214Onao43Zzzz4OnaoZzzz480Ethi7ZzzzEthi4ZzzzEthi2ZzzzEthi15Zzzz",
    "Mend197Zzzz2Mend16Zzzz41Adlm76Zzzz4Adlm10Zzzz4Adlm2Zzzz785Zyyy68Zzzz76Zyyy61Zzzz194Arab4",
    "ZzzzArab27ZzzzArab2ZzzzArabZzzz2ArabZzzzArab10ZzzzArab4ZzzzArabZzzzArabZzzz6ArabZzzz4",
    "ArabZzzzArabZzzzArabZzzzArab3ZzzzArab2ZzzzArabZzzz2ArabZzzzArabZzzzArabZzzzArabZzzzArab",
    "ZzzzArab2ZzzzArabZzzz2Arab4ZzzzArab7ZzzzArab4ZzzzArab4ZzzzArabZzzzArab10ZzzzArab17Zzzz5",
    "Arab3ZzzzArab5ZzzzArab17Zzzz52Arab2Zzzz270Zyyy44Zzzz4Zyyy100Zzzz12Zyyy15Zzzz2Zyyy15Zzzz",
    "Zyyy15ZzzzZyyy37Zzzz10Zyyy174Zzzz56Zyyy26HiraZyyy2Zzzz13Zyyy44Zzzz4Zyyy9Zzzz7Zyyy2Zzzz14",
    "Zyyy6Zzzz154Zyyy984Zzzz4Zyyy17Zzzz3Zyyy13Zzzz3Zyyy119Zzzz4Zyyy95Zzzz6Zyyy12Zzzz4Zyyy",
    "Zzzz15Zyyy12Zzzz4Zyyy56Zzzz8Zyyy10Zzzz6Zyyy40Zzzz8Zyyy30Zzzz2Zyyy12Zzzz4Zyyy2Zzzz62",
    "Zyyy340Zzzz12Zyyy14Zzzz2Zyyy13Zzzz3Zyyy10Zzzz5Zyyy56Zzzz7Zyyy15Zzzz2Zyyy11Zzzz6Zyyy9",
    "Zzzz7Zyyy147ZzzzZyyy102Zzzz1030Hani42720Zzzz32Hani4154Zzzz6Hani222Zzzz2Hani5762Zzzz14",
    "Hani7473Zzzz15Hani622Zzzz2466Hani542Zzzz1506Hani4939Zzzz5Hani4192Zzzz711761ZyyyZzzz30",
    "Zyyy96Zzzz128Zinh240Zzzz196112"]

/-- The runs of scripts. -/
def scriptRuns : List Run :=
  Run.readTable scriptTable

/-- The scripts by the names that a pattern can give them, without case or separators. -/
def scriptNames : List (List String × String) :=
  [(["adlm", "adlam"], "Adlm"), (["aghb", "caucasianalbanian"], "Aghb"), (["ahom"], "Ahom"),
   (["arab", "arabic"], "Arab"), (["armi", "imperialaramaic"], "Armi"),
   (["armn", "armenian"], "Armn"), (["avst", "avestan"], "Avst"),
   (["bali", "balinese"], "Bali"), (["bamu", "bamum"], "Bamu"), (["bass", "bassavah"], "Bass"),
   (["batk", "batak"], "Batk"), (["beng", "bengali"], "Beng"), (["bhks", "bhaiksuki"], "Bhks"),
   (["bopo", "bopomofo"], "Bopo"), (["brah", "brahmi"], "Brah"), (["brai", "braille"], "Brai"),
   (["bugi", "buginese"], "Bugi"), (["buhd", "buhid"], "Buhd"), (["cakm", "chakma"], "Cakm"),
   (["cans", "canadianaboriginal"], "Cans"), (["cari", "carian"], "Cari"), (["cham"], "Cham"),
   (["cher", "cherokee"], "Cher"), (["chrs", "chorasmian"], "Chrs"),
   (["copt", "coptic", "qaac"], "Copt"), (["cpmn", "cyprominoan"], "Cpmn"),
   (["cprt", "cypriot"], "Cprt"), (["cyrl", "cyrillic"], "Cyrl"),
   (["deva", "devanagari"], "Deva"), (["diak", "divesakuru"], "Diak"),
   (["dogr", "dogra"], "Dogr"), (["dsrt", "deseret"], "Dsrt"), (["dupl", "duployan"], "Dupl"),
   (["egyp", "egyptianhieroglyphs"], "Egyp"), (["elba", "elbasan"], "Elba"),
   (["elym", "elymaic"], "Elym"), (["ethi", "ethiopic"], "Ethi"), (["gara", "garay"], "Gara"),
   (["geor", "georgian"], "Geor"), (["glag", "glagolitic"], "Glag"),
   (["gong", "gunjalagondi"], "Gong"), (["gonm", "masaramgondi"], "Gonm"),
   (["goth", "gothic"], "Goth"), (["gran", "grantha"], "Gran"), (["grek", "greek"], "Grek"),
   (["gujr", "gujarati"], "Gujr"), (["gukh", "gurungkhema"], "Gukh"),
   (["guru", "gurmukhi"], "Guru"), (["hang", "hangul"], "Hang"), (["hani", "han"], "Hani"),
   (["hano", "hanunoo"], "Hano"), (["hatr", "hatran"], "Hatr"), (["hebr", "hebrew"], "Hebr"),
   (["hira", "hiragana"], "Hira"), (["hluw", "anatolianhieroglyphs"], "Hluw"),
   (["hmng", "pahawhhmong"], "Hmng"), (["hmnp", "nyiakengpuachuehmong"], "Hmnp"),
   (["hung", "oldhungarian"], "Hung"), (["ital", "olditalic"], "Ital"),
   (["java", "javanese"], "Java"), (["kali", "kayahli"], "Kali"),
   (["kana", "katakana"], "Kana"), (["kawi"], "Kawi"), (["khar", "kharoshthi"], "Khar"),
   (["khmr", "khmer"], "Khmr"), (["khoj", "khojki"], "Khoj"),
   (["kits", "khitansmallscript"], "Kits"), (["knda", "kannada"], "Knda"),
   (["krai", "kiratrai"], "Krai"), (["kthi", "kaithi"], "Kthi"), (["lana", "taitham"], "Lana"),
   (["laoo", "lao"], "Laoo"), (["latn", "latin"], "Latn"), (["lepc", "lepcha"], "Lepc"),
   (["limb", "limbu"], "Limb"), (["lina", "lineara"], "Lina"), (["linb", "linearb"], "Linb"),
   (["lisu"], "Lisu"), (["lyci", "lycian"], "Lyci"), (["lydi", "lydian"], "Lydi"),
   (["mahj", "mahajani"], "Mahj"), (["maka", "makasar"], "Maka"), (["mand", "mandaic"], "Mand"),
   (["mani", "manichaean"], "Mani"), (["marc", "marchen"], "Marc"),
   (["medf", "medefaidrin"], "Medf"), (["mend", "mendekikakui"], "Mend"),
   (["merc", "meroiticcursive"], "Merc"), (["mero", "meroitichieroglyphs"], "Mero"),
   (["mlym", "malayalam"], "Mlym"), (["modi"], "Modi"), (["mong", "mongolian"], "Mong"),
   (["mroo", "mro"], "Mroo"), (["mtei", "meeteimayek"], "Mtei"), (["mult", "multani"], "Mult"),
   (["mymr", "myanmar"], "Mymr"), (["nagm", "nagmundari"], "Nagm"),
   (["nand", "nandinagari"], "Nand"), (["narb", "oldnortharabian"], "Narb"),
   (["nbat", "nabataean"], "Nbat"), (["newa"], "Newa"), (["nkoo", "nko"], "Nkoo"),
   (["nshu", "nushu"], "Nshu"), (["ogam", "ogham"], "Ogam"), (["olck", "olchiki"], "Olck"),
   (["onao", "olonal"], "Onao"), (["orkh", "oldturkic"], "Orkh"), (["orya", "oriya"], "Orya"),
   (["osge", "osage"], "Osge"), (["osma", "osmanya"], "Osma"), (["ougr", "olduyghur"], "Ougr"),
   (["palm", "palmyrene"], "Palm"), (["pauc", "paucinhau"], "Pauc"),
   (["perm", "oldpermic"], "Perm"), (["phag", "phagspa"], "Phag"),
   (["phli", "inscriptionalpahlavi"], "Phli"), (["phlp", "psalterpahlavi"], "Phlp"),
   (["phnx", "phoenician"], "Phnx"), (["plrd", "miao"], "Plrd"),
   (["prti", "inscriptionalparthian"], "Prti"), (["rjng", "rejang"], "Rjng"),
   (["rohg", "hanifirohingya"], "Rohg"), (["runr", "runic"], "Runr"),
   (["samr", "samaritan"], "Samr"), (["sarb", "oldsoutharabian"], "Sarb"),
   (["saur", "saurashtra"], "Saur"), (["sgnw", "signwriting"], "Sgnw"),
   (["shaw", "shavian"], "Shaw"), (["shrd", "sharada"], "Shrd"), (["sidd", "siddham"], "Sidd"),
   (["sind", "khudawadi"], "Sind"), (["sinh", "sinhala"], "Sinh"),
   (["sogd", "sogdian"], "Sogd"), (["sogo", "oldsogdian"], "Sogo"),
   (["sora", "sorasompeng"], "Sora"), (["soyo", "soyombo"], "Soyo"),
   (["sund", "sundanese"], "Sund"), (["sunu", "sunuwar"], "Sunu"),
   (["sylo", "sylotinagri"], "Sylo"), (["syrc", "syriac"], "Syrc"),
   (["tagb", "tagbanwa"], "Tagb"), (["takr", "takri"], "Takr"), (["tale", "taile"], "Tale"),
   (["talu", "newtailue"], "Talu"), (["taml", "tamil"], "Taml"), (["tang", "tangut"], "Tang"),
   (["tavt", "taiviet"], "Tavt"), (["telu", "telugu"], "Telu"), (["tfng", "tifinagh"], "Tfng"),
   (["tglg", "tagalog"], "Tglg"), (["thaa", "thaana"], "Thaa"), (["thai"], "Thai"),
   (["tibt", "tibetan"], "Tibt"), (["tirh", "tirhuta"], "Tirh"), (["tnsa", "tangsa"], "Tnsa"),
   (["todr", "todhri"], "Todr"), (["toto"], "Toto"), (["tutg", "tulutigalari"], "Tutg"),
   (["ugar", "ugaritic"], "Ugar"), (["vaii", "vai"], "Vaii"), (["vith", "vithkuqi"], "Vith"),
   (["wara", "warangciti"], "Wara"), (["wcho", "wancho"], "Wcho"),
   (["xpeo", "oldpersian"], "Xpeo"), (["xsux", "cuneiform"], "Xsux"),
   (["yezi", "yezidi"], "Yezi"), (["yiii", "yi"], "Yiii"),
   (["zanb", "zanabazarsquare"], "Zanb"), (["zinh", "inherited", "qaai"], "Zinh"),
   (["zyyy", "common"], "Zyyy")]

/-- The characters that are used in other scripts than their own, with those scripts. -/
def scriptExtensions : List (IntervalSet × List String) :=
  [(.ofRow "B7",
     ["Avst", "Cari", "Copt", "Dupl", "Elba", "Geor", "Glag", "Gong", "Goth", "Grek", "Hani",
      "Latn", "Lydi", "Mahj", "Perm", "Shaw"]),
   (.ofRow "2BC", ["Beng", "Cyrl", "Deva", "Latn", "Lisu", "Thai", "Toto"]),
   (.ofRow "2C7 2C9-2CB 2D9", ["Bopo", "Latn"]),
   (.ofRow "2CD", ["Latn", "Lisu"]),
   (.ofRow "2D7", ["Latn", "Thai"]),
   (.ofRow "300", ["Cher", "Copt", "Cyrl", "Grek", "Latn", "Perm", "Sunu", "Tale"]),
   (.ofRow "301", ["Cher", "Cyrl", "Grek", "Latn", "Osge", "Sunu", "Tale", "Todr"]),
   (.ofRow "302", ["Cher", "Cyrl", "Latn", "Tfng"]),
   (.ofRow "303", ["Glag", "Latn", "Sunu", "Syrc", "Thai"]),
   (.ofRow "304",
     ["Aghb", "Cher", "Copt", "Cyrl", "Goth", "Grek", "Latn", "Osge", "Syrc", "Tfng",
      "Todr"]),
   (.ofRow "305", ["Copt", "Elba", "Glag", "Goth", "Kana", "Latn"]),
   (.ofRow "306", ["Cyrl", "Grek", "Latn", "Perm", "Tfng"]),
   (.ofRow "307", ["Copt", "Dupl", "Hebr", "Latn", "Perm", "Syrc", "Tale", "Tfng", "Todr"]),
   (.ofRow "308",
     ["Armn", "Cyrl", "Dupl", "Goth", "Grek", "Hebr", "Latn", "Perm", "Syrc", "Tale",
      "Tfng"]),
   (.ofRow "309", ["Latn", "Tfng"]),
   (.ofRow "30A", ["Dupl", "Latn", "Syrc"]),
   (.ofRow "30B", ["Cher", "Cyrl", "Latn", "Osge"]),
   (.ofRow "30C", ["Cher", "Latn", "Tale"]),
   (.ofRow "30D 310", ["Latn", "Sunu"]),
   (.ofRow "30E", ["Ethi", "Latn"]),
   (.ofRow "311", ["Cyrl", "Latn", "Todr"]),
   (.ofRow "313", ["Grek", "Latn", "Perm", "Todr"]),
   (.ofRow "323", ["Cher", "Dupl", "Kana", "Latn", "Syrc", "Tfng"]),
   (.ofRow "324", ["Cher", "Dupl", "Latn", "Syrc"]),
   (.ofRow "325 32E", ["Latn", "Syrc"]),
   (.ofRow "32D", ["Latn", "Sunu", "Syrc"]),
   (.ofRow "330", ["Cher", "Latn", "Syrc"]),
   (.ofRow "331", ["Aghb", "Cher", "Goth", "Latn", "Sunu", "Syrc", "Thai"]),
   (.ofRow "342 345 1DC0-1DC1", ["Grek"]),
   (.ofRow "358", ["Latn", "Osge"]),
   (.ofRow "35E", ["Aghb", "Latn", "Todr"]),
   (.ofRow "363-36F", ["Latn"]),
   (.ofRow "374-375", ["Copt", "Grek"]),
   (.ofRow "483", ["Cyrl", "Perm"]),
   (.ofRow "484 487 2E43 A66F", ["Cyrl", "Glag"]),
   (.ofRow "485-486", ["Cyrl", "Latn"]),
   (.ofRow "589", ["Armn", "Geor", "Glag"]),
   (.ofRow "60C 61B", ["Arab", "Gara", "Nkoo", "Rohg", "Syrc", "Thaa", "Yezi"]),
   (.ofRow "61C", ["Arab", "Syrc", "Thaa"]),
   (.ofRow "61F", ["Adlm", "Arab", "Gara", "Nkoo", "Rohg", "Syrc", "Thaa", "Yezi"]),
   (.ofRow "640", ["Adlm", "Arab", "Mand", "Mani", "Ougr", "Phlp", "Rohg", "Sogd", "Syrc"]),
   (.ofRow "64B-655 670", ["Arab", "Syrc"]),
   (.ofRow "660-669", ["Arab", "Thaa", "Yezi"]),
   (.ofRow "6D4", ["Arab", "Rohg"]),
   (.ofRow "951",
     ["Beng", "Deva", "Gran", "Gujr", "Guru", "Knda", "Latn", "Mlym", "Nand", "Newa", "Orya",
      "Shrd", "Taml", "Telu", "Tirh"]),
   (.ofRow "952",
     ["Beng", "Deva", "Gran", "Gujr", "Guru", "Knda", "Latn", "Mlym", "Newa", "Orya", "Taml",
      "Telu", "Tirh"]),
   (.ofRow "964",
     ["Beng", "Deva", "Dogr", "Gong", "Gonm", "Gran", "Gujr", "Guru", "Knda", "Mahj", "Mlym",
      "Nand", "Onao", "Orya", "Sind", "Sinh", "Sylo", "Takr", "Taml", "Telu", "Tirh"]),
   (.ofRow "965",
     ["Beng", "Deva", "Dogr", "Gong", "Gonm", "Gran", "Gujr", "Gukh", "Guru", "Knda", "Limb",
      "Mahj", "Mlym", "Nand", "Onao", "Orya", "Sind", "Sinh", "Sylo", "Takr", "Taml", "Telu",
      "Tirh"]),
   (.ofRow "966-96F", ["Deva", "Dogr", "Kthi", "Mahj"]),
   (.ofRow "9E6-9EF", ["Beng", "Cakm", "Sylo"]),
   (.ofRow "A66-A6F", ["Guru", "Mult"]),
   (.ofRow "AE6-AEF", ["Gujr", "Khoj"]),
   (.ofRow "BE6-BF3 11301 11303 1133B-1133C 11FD0-11FD1 11FD3", ["Gran", "Taml"]),
   (.ofRow "CE6-CEF", ["Knda", "Nand", "Tutg"]),
   (.ofRow "1040-1049", ["Cakm", "Mymr", "Tale"]),
   (.ofRow "10FB", ["Geor", "Glag", "Latn"]),
   (.ofRow "16EB-16ED", ["Runr"]),
   (.ofRow "1735-1736", ["Buhd", "Hano", "Tagb", "Tglg"]),
   (.ofRow "1802-1803 1805", ["Mong", "Phag"]),
   (.ofRow "1CD0 1CD2", ["Beng", "Deva", "Gran", "Knda"]),
   (.ofRow "1CD1 1CD4 1CDB 1CDE-1CDF 1CE3-1CE8 1CEC 1CEE-1CF1", ["Deva"]),
   (.ofRow "1CD3", ["Deva", "Gran", "Knda"]),
   (.ofRow "1CD5", ["Beng", "Deva", "Newa", "Telu", "Tirh"]),
   (.ofRow "1CD6", ["Beng", "Deva", "Telu"]),
   (.ofRow "1CD7", ["Deva", "Newa", "Shrd"]),
   (.ofRow "1CD8", ["Beng", "Deva", "Newa", "Telu"]),
   (.ofRow "1CD9 1CDC-1CDD 1CE0", ["Deva", "Shrd"]),
   (.ofRow "1CDA", ["Deva", "Knda", "Mlym", "Orya", "Taml", "Telu"]),
   (.ofRow "1CE1 1CF5-1CF6", ["Beng", "Deva"]),
   (.ofRow "1CE2", ["Deva", "Newa", "Tirh"]),
   (.ofRow "1CE9", ["Deva", "Nand", "Newa"]),
   (.ofRow "1CEA", ["Beng", "Deva", "Shrd"]),
   (.ofRow "1CEB", ["Deva", "Newa"]),
   (.ofRow "1CED", ["Beng", "Deva", "Newa", "Shrd"]),
   (.ofRow "1CF2",
     ["Beng", "Deva", "Gran", "Knda", "Mlym", "Nand", "Orya", "Sinh", "Telu", "Tirh",
      "Tutg"]),
   (.ofRow "1CF3 1CF8-1CF9", ["Deva", "Gran"]),
   (.ofRow "1CF4", ["Deva", "Gran", "Knda", "Tutg"]),
   (.ofRow "1CF7", ["Beng"]),
   (.ofRow "1CFA", ["Nand"]),
   (.ofRow "1DF8", ["Cyrl", "Latn", "Syrc"]),
   (.ofRow "1DFA", ["Syrc"]),
   (.ofRow "202F", ["Latn", "Mong", "Phag"]),
   (.ofRow "204F", ["Adlm", "Arab"]),
   (.ofRow "205A", ["Cari", "Geor", "Glag", "Hung", "Lyci", "Orkh"]),
   (.ofRow "205D", ["Cari", "Grek", "Hung", "Mero"]),
   (.ofRow "20F0", ["Deva", "Gran", "Latn"]),
   (.ofRow "2E17", ["Copt", "Latn"]),
   (.ofRow "2E30", ["Avst", "Orkh"]),
   (.ofRow "2E31", ["Avst", "Cari", "Geor", "Hung", "Kthi", "Lydi", "Samr"]),
   (.ofRow "2E3C 1BCA0-1BCA3", ["Dupl"]),
   (.ofRow "2E41", ["Adlm", "Arab", "Hung"]),
   (.ofRow "2FF0-2FFF 31EF", ["Hani", "Tang"]),
   (.ofRow "3001", ["Bopo", "Hang", "Hani", "Hira", "Kana", "Mong", "Yiii"]),
   (.ofRow "3002", ["Bopo", "Hang", "Hani", "Hira", "Kana", "Mong", "Phag", "Yiii"]),
   (.ofRow "3003 3013 301C-301F 3030 3037 FE45-FE46", ["Bopo", "Hang", "Hani", "Hira", "Kana"]),
   (.ofRows [
       "3006 303E-303F 3190-319F 31C0-31E5 3220-3247 3280-32B0 32C0-32CB 32FF 3358-3370",
       "337B-337F 33E0-33FE 1D360-1D371 1F250-1F251"], ["Hani"]),
   (.ofRow "3008-3009", ["Bopo", "Hang", "Hani", "Hira", "Kana", "Mong", "Tibt", "Yiii"]),
   (.ofRow "300A-300B", ["Bopo", "Hang", "Hani", "Hira", "Kana", "Lisu", "Mong", "Tibt", "Yiii"]),
   (.ofRow "300C-3011 3014-301B 30FB FF61-FF65",
     ["Bopo", "Hang", "Hani", "Hira", "Kana", "Yiii"]),
   (.ofRow "302A-302D", ["Bopo", "Hani"]),
   (.ofRow "3031-3035 3099-309C 30A0 30FC FF70 FF9E-FF9F", ["Hira", "Kana"]),
   (.ofRow "303C-303D", ["Hani", "Hira", "Kana"]),
   (.ofRow "A700-A707", ["Hani", "Latn"]),
   (.ofRow "A830-A832",
     ["Deva", "Dogr", "Gujr", "Guru", "Khoj", "Knda", "Kthi", "Mahj", "Mlym", "Modi", "Nand",
      "Shrd", "Sind", "Takr", "Tirh", "Tutg"]),
   (.ofRow "A833-A835",
     ["Deva", "Dogr", "Gujr", "Guru", "Khoj", "Knda", "Kthi", "Mahj", "Modi", "Nand", "Shrd",
      "Sind", "Takr", "Tirh", "Tutg"]),
   (.ofRow "A836-A837 A839",
     ["Deva", "Dogr", "Gujr", "Guru", "Khoj", "Kthi", "Mahj", "Modi", "Sind", "Takr",
      "Tirh"]),
   (.ofRow "A838",
     ["Deva", "Dogr", "Gujr", "Guru", "Khoj", "Kthi", "Mahj", "Modi", "Shrd", "Sind", "Takr",
      "Tirh"]),
   (.ofRow "A8F1", ["Beng", "Deva", "Tutg"]),
   (.ofRow "A8F3", ["Deva", "Taml"]),
   (.ofRow "A92E", ["Kali", "Latn", "Mymr"]),
   (.ofRow "A9CF", ["Bugi", "Java"]),
   (.ofRow "FD3E-FD3F", ["Arab", "Nkoo"]),
   (.ofRow "FDF2 FDFD", ["Arab", "Thaa"]),
   (.ofRow "10100-10101", ["Cpmn", "Cprt", "Linb"]),
   (.ofRow "10102 10137-1013F", ["Cprt", "Linb"]),
   (.ofRow "10107-10133", ["Cprt", "Lina", "Linb"]),
   (.ofRow "102E0-102FB", ["Arab", "Copt"]),
   (.ofRow "10AF2", ["Mani", "Ougr"])]

/-- The characters of a script. -/
def ofScript (script : String) : IntervalSet :=
  Run.select scriptRuns [script]

/-- The characters that are used in a script. -/
def usedInScript (script : String) : IntervalSet :=
  let listed := IntervalSet.unions (scriptExtensions.map (·.1))
  let others := scriptExtensions.filter (·.2.contains script)
  ((ofScript script).diff listed).union (.unions (others.map (·.1)))

end BytePattern
