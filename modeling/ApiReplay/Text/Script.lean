import ApiReplay.Text.CharSet

/-!
# Scripts of characters

Every code point belongs to one script, named by a code of four letters. The table lists the runs of
code points of one script in order: the distance from the start of the previous run, in base 36, and
the code of the script.

## Main definitions

* `Text.script?`: the characters of a script, by its code or its name.
-/

namespace ApiReplay.Text

/-- The runs of scripts. -/
def scriptTable : String :=
  String.join
    ["0Zyyy1tLatnqZyyy6LatnqZyyy1bLatn1ZyyyfLatn1Zyyy5LatnnZyyy1LatnvZyyy1LatnchZyyy13Latn5Zyyy5",
      "Bopo2ZyyykZinh34Grek4Zyyy1Grek3Zzzz2Grek4Zyyy1Grek1Zzzz4Grek1Zyyy1Grek1Zyyy1Grek3Zzzz1Grek",
      "1Zzzz1GrekkZzzz1Grek1rCopteGrekgCyrl3pZinh2Cyrl4pZzzz1Armn12Zzzz2Armn1eZzzz2Armn3Zzzz1Hebr",
      "1jZzzz8HebrrZzzz4Hebr6ZzzzbArab5Zyyy1Arab6Zyyy1ArabeZyyy1Arab3Zyyy1ArabwZyyy1ArabaZinhbAra",
      "bqZinh1Arab30Zyyy1ArabySyrceZzzz1Syrc1oZzzz2Syrc3Arab1cThaa1eZzzzeNkoo1nZzzz2Nkoo3Samr1aZz",
      "zz2SamrfZzzz1MandsZzzz2Mand1Zzzz1SyrcbZzzz5ArabvZzzz1Arab2Zzzz6Arab22Zyyy1ArabtDeva29Zinh4",
      "DevafZyyy2DevaqBeng4Zzzz1Beng8Zzzz2Beng2Zzzz2BengmZzzz1Beng7Zzzz1Beng1Zzzz3Beng4Zzzz2Beng9",
      "Zzzz2Beng2Zzzz2Beng4Zzzz8Beng1Zzzz4Beng2Zzzz1Beng5Zzzz2BengpZzzz2Guru3Zzzz1Guru6Zzzz4Guru2",
      "Zzzz2GurumZzzz1Guru7Zzzz1Guru2Zzzz1Guru2Zzzz1Guru2Zzzz2Guru1Zzzz1Guru5Zzzz4Guru2Zzzz2Guru3",
      "Zzzz3Guru1Zzzz7Guru4Zzzz1Guru1Zzzz7GuruhZzzzaGujr3Zzzz1Gujr9Zzzz1Gujr3Zzzz1GujrmZzzz1Gujr7",
      "Zzzz1Gujr2Zzzz1Gujr5Zzzz2GujraZzzz1Gujr3Zzzz1Gujr3Zzzz2Gujr1ZzzzfGujr4Zzzz2GujrcZzzz7Gujr7",
      "Zzzz1Orya3Zzzz1Orya8Zzzz2Orya2Zzzz2OryamZzzz1Orya7Zzzz1Orya2Zzzz1Orya5Zzzz2Orya9Zzzz2Orya2",
      "Zzzz2Orya3Zzzz7Orya3Zzzz4Orya2Zzzz1Orya5Zzzz2OryaiZzzzaTaml2Zzzz1Taml6Zzzz3Taml3Zzzz1Taml4",
      "Zzzz3Taml2Zzzz1Taml1Zzzz1Taml2Zzzz3Taml2Zzzz3Taml3Zzzz3TamlcZzzz4Taml5Zzzz3Taml3Zzzz1Taml4",
      "Zzzz2Taml1Zzzz6Taml1ZzzzeTamllZzzz5TeludZzzz1Telu3Zzzz1TelunZzzz1TelugZzzz2Telu9Zzzz1Telu3",
      "Zzzz1Telu4Zzzz7Telu2Zzzz1Telu3Zzzz2Telu1Zzzz2Telu4Zzzz2TeluaZzzz7Telu9KndadZzzz1Knda3Zzzz1",
      "KndanZzzz1KndaaZzzz1Knda5Zzzz2Knda9Zzzz1Knda3Zzzz1Knda4Zzzz7Knda2Zzzz6Knda2Zzzz1Knda4Zzzz2",
      "KndaaZzzz1Knda3ZzzzcMlymdZzzz1Mlym3Zzzz1Mlym1fZzzz1Mlym3Zzzz1Mlym6Zzzz4MlymgZzzz2MlymqZzzz",
      "1Sinh3Zzzz1SinhiZzzz3SinhoZzzz1Sinh9Zzzz1Sinh1Zzzz2Sinh7Zzzz3Sinh1Zzzz4Sinh6Zzzz1Sinh1Zzzz",
      "1Sinh8Zzzz6SinhaZzzz2Sinh3ZzzzcThai1mZzzz4Zyyy1ThaisZzzz11Laoo2Zzzz1Laoo1Zzzz1Laoo5Zzzz1La",
      "oooZzzz1Laoo1Zzzz1LaoonZzzz2Laoo5Zzzz1Laoo1Zzzz1Laoo7Zzzz1LaooaZzzz2Laoo4ZzzzwTibt20Zzzz1T",
      "ibt10Zzzz4Tibt13Zzzz1Tibt10Zzzz1TibtfZzzz1Tibt7Zyyy4Tibt2Zzzz11Mymr4gGeor12Zzzz1Geor1Zzzz5",
      "Geor1Zzzz2Geor17Zyyy1Geor4Hang74Ethi21Zzzz1Ethi4Zzzz2Ethi7Zzzz1Ethi1Zzzz1Ethi4Zzzz2Ethi15Z",
      "zzz1Ethi4Zzzz2EthixZzzz1Ethi4Zzzz2Ethi7Zzzz1Ethi1Zzzz1Ethi4Zzzz2EthifZzzz1Ethi1lZzzz1Ethi4",
      "Zzzz2Ethi1vZzzz2EthiwZzzz3EthiqZzzz6Cher2eZzzz2Cher6Zzzz2CanshsOgamtZzzz3Runr23Zyyy3RunrbZ",
      "zzz7TglgmZzzz9Tglg1HanolZyyy2Zzzz9BuhdkZzzzcTagbdZzzz1Tagb3Zzzz1Tagb2ZzzzcKhmr2mZzzz2Khmra",
      "Zzzz6KhmraZzzz6Mong2Zyyy2Mong1Zyyy1MongkZzzz6Mong2hZzzz7Mong17Zzzz5Cans1yZzzzaLimbvZzzz1Li",
      "mbcZzzz4LimbcZzzz4Limb1Zzzz3LimbcTaleuZzzz2Tale5ZzzzbTalu18Zzzz4TaluqZzzz6TalubZzzz3Talu2K",
      "hmrwBugisZzzz2Bugi2Lana1rZzzz1LanatZzzz2LanabZzzz6LanaaZzzz6LanaeZzzz2ZinhvZzzz1dBali25Zzz",
      "z3Bali1bZzzz1Sund1sBatk1gZzzz8Batk4Lepc1kZzzz3LepcfZzzz3Lepc3Olck1cCyrl9Zzzz7Geor17Zzzz2Ge",
      "or3Sund8Zzzz8Zinh3Zyyy1ZinhdZyyy1Zinh7Zyyy4Zinh1Zyyy6Zinh1Zyyy3Zinh2Zyyy1Zzzz5Latn12Grek5C",
      "yrl1Latn1dGrek5Latn4Grek5LatndCyrl1Latn1yGrek1Zinh1sLatn74GrekmZzzz2Grek6Zzzz2Grek12Zzzz2G",
      "rek6Zzzz2Grek8Zzzz1Grek1Zzzz1Grek1Zzzz1Grek1Zzzz1GrekvZzzz2Grek1hZzzz1GrekfZzzz1GrekeZzzz2",
      "Grek6Zzzz1GrekjZzzz2Grek3Zzzz1Grek9Zzzz1ZyyycZinh2Zyyy2fZzzz1ZyyybLatn1Zzzz2ZyyybLatn1Zyyy",
      "fZzzz1LatndZzzz3ZyyyxZzzzfZinhxZzzzfZyyy12Grek1Zyyy3Latn2Zyyy6Latn1ZyyyrLatn1ZyyyhLatn15Zy",
      "yy3Zzzz4ZyyyifZzzzpZyyybZzzzlZyyypsBrai74ZyyyhgZzzz2ZyyywZzzz1Zyyy2xGlag2oLatnwCopt38Zzzz5",
      "Copt7Geor12Zzzz1Geor1Zzzz5Geor1Zzzz2Tfng1kZzzz7Tfng2ZzzzeTfng1EthinZzzz9Ethi7Zzzz1Ethi7Zzz",
      "z1Ethi7Zzzz1Ethi7Zzzz1Ethi7Zzzz1Ethi7Zzzz1Ethi7Zzzz1Ethi7Zzzz1CyrlwZyyy2mZzzzyHaniqZzzz1Ha",
      "ni2hZzzzcHani5yZzzzqZyyycZzzz4Zyyy5Hani1Zyyy1Hani1ZyyypHani9Zinh4Hang2Zyyy8Hani4Zyyy4Zzzz1",
      "Hira2eZzzz2Zinh2Zyyy2Hira3Zyyy1Kana2iZyyy2Kana3Zzzz5Bopo17Zzzz1Hang2mZzzz1ZyyygBopowZyyy10",
      "ZzzzcKanagHangvZzzz1Zyyy1sHangvZyyy29Kana1bZyyy1Kana2gZyyy4oHani534Zyyy1sHanig74YiiiwdZzzz",
      "3Yiii1jZzzz9Lisu1cVaii8cZzzzkCyrl2oBamu2gZzzz8ZyyyyLatn2uZyyy3Latn1sZzzz5Latn2Zzzz1Latn1Zz",
      "zz1Latn5ZzzzoLatneSylo19Zzzz3ZyyyaZzzz6Phag1kZzzz8Saur1yZzzz8SaurcZzzz6DevawKali1aZyyy1Kal",
      "i1Rjng10ZzzzbRjng1HangtZzzz3Java26Zzzz1Zyyy1JavaaZzzz4Java2MymrvZzzz1Cham1jZzzz9ChameZzzz2",
      "ChamaZzzz2Cham4MymrwTavt1vZzzzoTavt5MteinZzzzaEthi6Zzzz2Ethi6Zzzz2Ethi6Zzzz9Ethi7Zzzz1Ethi",
      "7Zzzz1Latn17Zyyy1Latn9Grek1Latn4Zyyy2Zzzz4Cher28Mtei1aZzzz2MteiaZzzz6Hang8mcZzzzcHangnZzzz",
      "4Hang1dZzzz6isHania6Zzzz2Hani2yZzzz12Latn7ZzzzcArmn5Zzzz5HebrqZzzz1Hebr5Zzzz1Hebr1Zzzz1Heb",
      "r2Zzzz1Hebr2Zzzz1HebraArab37ZzzzgAraba3Zyyy2Arab28Zzzz2Arab1iZzzz7Arab1ZzzzwArabgZinhgZyyy",
      "aZzzz6ZinheCyrl2ZyyyzZzzz1ZyyyjZzzz1Zyyy4Zzzz4Arab5Zzzz1Arab3rZzzz2Zyyy1Zzzz1ZyyywLatnqZyy",
      "y6LatnqZyyybKanaaZyyy1Kana19Zyyy2HangvZzzz3Hang6Zzzz2Hang6Zzzz2Hang6Zzzz2Hang3Zzzz3Zyyy7Zz",
      "zz1Zyyy7ZzzzaZyyy5Zzzz2LinbcZzzz1LinbqZzzz1LinbjZzzz1Linb2Zzzz1LinbfZzzz2LinbeZzzzyLinb3fZ",
      "zzz5Zyyy3Zzzz4Zyyy19Zzzz3Zyyy9Grek27Zzzz1ZyyydZzzz3Grek1Zzzz1bZyyy19Zinh1Zzzz3mLycitZzzz3C",
      "ari1dZzzzfZinh1ZyyyrZzzz4Ital10Zzzz9Ital3GothrZzzz5Perm17Zzzz5UgaruZzzz1Ugar1Xpeo10Zzzz4Xp",
      "eoeZzzz16Dsrt28Shaw1cOsmauZzzz2OsmaaZzzz6Osge10Zzzz4Osge10Zzzz4Elba14Zzzz8Aghb1gZzzzbAghb1",
      "VithbZzzz1VithfZzzz1Vith7Zzzz1Vith2Zzzz1VithbZzzz1VithfZzzz1Vith7Zzzz1Vith2Zzzz1vLina8nZzz",
      "z9LinamZzzzaLina8ZzzzoLatn6Zzzz1Latn16Zzzz1Latn9Zzzz1xCprt6Zzzz2Cprt1Zzzz1Cprt18Zzzz1Cprt2",
      "Zzzz3Cprt1Zzzz2Cprt1ArmimZzzz1Armi9PalmwNbatvZzzz8Nbat9Zzzz1cHatrjZzzz1Hatr2Zzzz5Hatr5Phnx",
      "sZzzz3Phnx1LydiqZzzz5Lydi1Zzzz1sMerowMercoZzzz4MerckZzzz2Merc1aKhar4Zzzz1Khar2Zzzz5Khar8Zz",
      "zz1Khar3Zzzz1KhartZzzz2Khar3Zzzz4KharaZzzz7Khar9Zzzz7SarbwNarbwZzzzwMani13Zzzz4ManicZzzz9A",
      "vst1iZzzz3Avst7PrtimZzzz2Prti8PhlijZzzz5Phli8PhlpiZzzz7Phlp4ZzzzcPhlp7Zzzz28Orkh21Zzzz1jHu",
      "ng1fZzzzdHung1fZzzz7Hung6Rohg14Zzzz8RohgaZzzz86ArabvZzzz1Yezi16Zzzz1Yezi3Zzzz2Yezi2Zzzz23A",
      "rab3Sogo14Zzzz8Sogd16ZzzzmOugrqZzzz12ChrssZzzzkElymnZzzz9Brah26Zzzz4Brah10Zzzz9Brah1Kthi1v",
      "ZzzzaKthi1Zzzz2SorapZzzz7SoraaZzzz6Cakm1hZzzz1CakmiZzzz8Mahj13Zzzz9Shrd2oZzzz1SinhkZzzzbKh",
      "ojiZzzz1Khoj1bZzzz1qMult7Zzzz1Mult1Zzzz1Mult4Zzzz1MultfZzzz1MultbZzzz6Sind1nZzzz5SindaZzzz",
      "6Gran4Zzzz1Gran8Zzzz2Gran2Zzzz2GranmZzzz1Gran7Zzzz1Gran2Zzzz1Gran5Zzzz1Zinh1Gran9Zzzz2Gran",
      "2Zzzz2Gran3Zzzz2Gran1Zzzz6Gran1Zzzz5Gran7Zzzz2Gran7Zzzz3Gran5Zzzz3vNewa2kZzzz1Newa5ZzzzuTi",
      "rh20Zzzz8TirhaZzzz4mSidd1iZzzz2Sidd12ZzzzyModi1xZzzzbModiaZzzz6MongdZzzzjTakr1mZzzz6TakraZ",
      "zzz1iAhomrZzzz2AhomfZzzz4AhomnZzzz55Dogr1oZzzz2sWara2bZzzzcWara1Diak7Zzzz2Diak1Zzzz2Diak8Z",
      "zzz1Diak2Zzzz1DiakuZzzz1Diak2Zzzz2DiakcZzzz9DiakaZzzz1yNand8Zzzz2Nand1aZzzz2NandbZzzzrZanb",
      "20Zzzz8Soyo2bZzzzdCansgPauc1lZzzz7DevaaZzzz6uBhks9Zzzz1Bhks19Zzzz1BhkseZzzzaBhkstZzzz3Marc",
      "wZzzz2MarcmZzzz1MarceZzzz21Gonm7Zzzz1Gonm2Zzzz1Gonm18Zzzz3Gonm1Zzzz1Gonm2Zzzz1Gonm9Zzzz8Go",
      "nmaZzzz6Gong6Zzzz1Gong2Zzzz1Gong11Zzzz1Gong2Zzzz1Gong6Zzzz7GongaZzzz8mMakapZzzz7KawihZzzz1",
      "Kawi15Zzzz3KawisZzzz2eLisu1ZzzzfTaml1eZzzzdTaml1XsuxpmZzzz2uXsux33Zzzz1Xsux5ZzzzbXsux5gZzz",
      "z218Cpmn2rZzzzdEgypuuZzzz33eHluwg7Zzzz6ntBamuftZzzz7MroovZzzz1MrooaZzzz4Mroo2Tnsa27Zzzz1Tn",
      "saaZzzz6BassuZzzz2Bass6ZzzzaHmng1yZzzzaHmngaZzzz1Hmng7Zzzz1HmnglZzzz5HmngjZzzzj4Medf2jZzzz",
      "2tPlrd23Zzzz4Plrd1lZzzz7PlrdhZzzz1sTang1Nshu1Hani2Kits1ZzzzbHani2ZzzzeTang4qgZzzz8TanglcKi",
      "tsd2Zzzz16Tang9Zzzz6w7Kana4Zzzz1Kana7Zzzz1Kana2Zzzz1Kana1Hira7zKana3ZzzzfHira1ZzzztHira3Zz",
      "zz2Kana1ZzzzeKana4Zzzz8Nshub0Zzzz1s4Dupl2zZzzz5DupldZzzz3Dupl9Zzzz7DuplaZzzz2Dupl4Zyyy4Zzz",
      "z3mkZinh1aZzzz2ZinhnZzzz9Zyyy38Zzzz1oZyyy6uZzzzaZyyy13Zzzz2Zyyy1qZinh3ZyyyhZinh8Zyyy2Zinh7",
      "ZyyyuZinh4Zyyy1pZzzzlGrek1yZzzz3eZyyykZzzzcZyyykZzzzcZyyy2fZzzz9ZyyypZzzz3rZyyy2dZzzz1Zyyy",
      "1zZzzz1Zyyy2Zzzz2Zyyy1Zzzz2Zyyy2Zzzz2Zyyy4Zzzz1ZyyycZzzz1Zyyy1Zzzz1Zyyy7Zzzz1Zyyy1tZzzz1Zy",
      "yy4Zzzz2Zyyy8Zzzz1Zyyy7Zzzz1ZyyysZzzz1Zyyy4Zzzz1Zyyy5Zzzz1Zyyy1Zzzz3Zyyy7Zzzz1Zyyy9gZzzz2Z",
      "yyy84Zzzz2Zyyy1eSgnwi4ZzzzfSgnw5Zzzz1SgnwfZzzzuoLatnvZzzz6Latn6Zzzz5xGlag7Zzzz1GlaghZzzz2G",
      "lag7Zzzz1Glag2Zzzz1Glag5Zzzz5Cyrl1qZzzzxCyrl1Zzzz34Hmnp19Zzzz3HmnpeZzzz2HmnpaZzzz4Hmnp2Zzz",
      "z8wTotovZzzzhWcho1mZzzz5Wcho1ZzzzcwNagm16ZzzzkmEthi7Zzzz1Ethi4Zzzz1Ethi2Zzzz1EthifZzzz1Men",
      "d5hZzzz2MendgZzzz15Adlm24Zzzz4AdlmaZzzz4Adlm2ZzzzltZyyy1wZzzz24Zyyy1pZzzz5eArab4Zzzz1Arabr",
      "Zzzz1Arab2Zzzz1Arab1Zzzz2Arab1Zzzz1ArabaZzzz1Arab4Zzzz1Arab1Zzzz1Arab1Zzzz6Arab1Zzzz4Arab1",
      "Zzzz1Arab1Zzzz1Arab1Zzzz1Arab3Zzzz1Arab2Zzzz1Arab1Zzzz2Arab1Zzzz1Arab1Zzzz1Arab1Zzzz1Arab1",
      "Zzzz1Arab1Zzzz1Arab2Zzzz1Arab1Zzzz2Arab4Zzzz1Arab7Zzzz1Arab4Zzzz1Arab4Zzzz1Arab1Zzzz1Araba",
      "Zzzz1ArabhZzzz5Arab3Zzzz1Arab5Zzzz1ArabhZzzz1gArab2Zzzz7iZyyy18Zzzz4Zyyy2sZzzzcZyyyfZzzz2Z",
      "yyyfZzzz1ZyyyfZzzz1Zyyy11ZzzzaZyyy4uZzzz1kZyyyqHira1Zyyy2ZzzzdZyyy18Zzzz4Zyyy9Zzzz7Zyyy2Zz",
      "zzeZyyy6Zzzz4aZyyyrcZzzz4ZyyyhZzzz3ZyyydZzzz3Zyyy3bZzzz4Zyyy2nZzzz6ZyyycZzzz4Zyyy1ZzzzfZyy",
      "ycZzzz4Zyyy1kZzzz8ZyyyaZzzz6Zyyy14Zzzz8ZyyyuZzzz2Zyyy2Zzzz26Zyyy9gZzzzcZyyyeZzzz2ZyyydZzzz",
      "3Zyyy9Zzzz7Zyyy1aZzzz1Zyyy7Zzzz8ZyyyeZzzz4Zyyy9Zzzz7Zyyy9Zzzz7Zyyy43Zzzz1Zyyy1jZzzz11Zyyya",
      "ZzzzsmHaniwyoZzzzwHani37eZzzz6Hani66Zzzz2Hani4g2ZzzzeHani5rlZzzz2e7Hanif2Zzzz15uHani3t7Zzz",
      "z5Hani38gZzzzf975Zyyy1ZzzzuZyyy2oZzzz3kZinh6oZzzz"]

/-- The starts of the runs with the codes of their scripts. -/
def scriptRuns : List (Nat × String) :=
  labelledRuns 4 scriptTable.toList

/-- The names of the scripts, in lower case without separators, and their codes. -/
def scriptNames : List (List String × String) :=
  [(["adlm", "adlam"], "Adlm"), (["aghb", "caucasianalbanian"], "Aghb"), (["ahom"], "Ahom"),
    (["arab", "arabic"], "Arab"), (["armi", "imperialaramaic"], "Armi"),
    (["armn", "armenian"], "Armn"), (["avst", "avestan"], "Avst"), (["bali", "balinese"], "Bali"),
    (["bamu", "bamum"], "Bamu"), (["bass", "bassavah"], "Bass"), (["batk", "batak"], "Batk"),
    (["beng", "bengali"], "Beng"), (["bhks", "bhaiksuki"], "Bhks"),
    (["bopo", "bopomofo"], "Bopo"), (["brah", "brahmi"], "Brah"), (["brai", "braille"], "Brai"),
    (["bugi", "buginese"], "Bugi"), (["buhd", "buhid"], "Buhd"), (["cakm", "chakma"], "Cakm"),
    (["cans", "canadianaboriginal"], "Cans"), (["cari", "carian"], "Cari"), (["cham"], "Cham"),
    (["cher", "cherokee"], "Cher"), (["chrs", "chorasmian"], "Chrs"),
    (["copt", "coptic"], "Copt"), (["cpmn", "cyprominoan"], "Cpmn"),
    (["cprt", "cypriot"], "Cprt"), (["cyrl", "cyrillic"], "Cyrl"),
    (["deva", "devanagari"], "Deva"), (["diak", "divesakuru"], "Diak"),
    (["dogr", "dogra"], "Dogr"), (["dsrt", "deseret"], "Dsrt"), (["dupl", "duployan"], "Dupl"),
    (["egyp", "egyptianhieroglyphs"], "Egyp"), (["elba", "elbasan"], "Elba"),
    (["elym", "elymaic"], "Elym"), (["ethi", "ethiopic"], "Ethi"), (["geor", "georgian"], "Geor"),
    (["glag", "glagolitic"], "Glag"), (["gong", "gunjalagondi"], "Gong"),
    (["gonm", "masaramgondi"], "Gonm"), (["goth", "gothic"], "Goth"),
    (["gran", "grantha"], "Gran"), (["grek", "greek"], "Grek"), (["gujr", "gujarati"], "Gujr"),
    (["guru", "gurmukhi"], "Guru"), (["hang", "hangul"], "Hang"), (["hani", "han"], "Hani"),
    (["hano", "hanunoo"], "Hano"), (["hatr", "hatran"], "Hatr"), (["hebr", "hebrew"], "Hebr"),
    (["hira", "hiragana"], "Hira"), (["hluw", "anatolianhieroglyphs"], "Hluw"),
    (["hmng", "pahawhhmong"], "Hmng"), (["hmnp", "nyiakengpuachuehmong"], "Hmnp"),
    (["hung", "oldhungarian"], "Hung"), (["ital", "olditalic"], "Ital"),
    (["java", "javanese"], "Java"), (["kali", "kayahli"], "Kali"), (["kana", "katakana"], "Kana"),
    (["kawi"], "Kawi"), (["khar", "kharoshthi"], "Khar"), (["khmr", "khmer"], "Khmr"),
    (["khoj", "khojki"], "Khoj"), (["kits", "khitansmallscript"], "Kits"),
    (["knda", "kannada"], "Knda"), (["kthi", "kaithi"], "Kthi"), (["lana", "taitham"], "Lana"),
    (["laoo", "lao"], "Laoo"), (["latn", "latin"], "Latn"), (["lepc", "lepcha"], "Lepc"),
    (["limb", "limbu"], "Limb"), (["lina", "lineara"], "Lina"), (["linb", "linearb"], "Linb"),
    (["lisu"], "Lisu"), (["lyci", "lycian"], "Lyci"), (["lydi", "lydian"], "Lydi"),
    (["mahj", "mahajani"], "Mahj"), (["maka", "makasar"], "Maka"), (["mand", "mandaic"], "Mand"),
    (["mani", "manichaean"], "Mani"), (["marc", "marchen"], "Marc"),
    (["medf", "medefaidrin"], "Medf"), (["mend", "mendekikakui"], "Mend"),
    (["merc", "meroiticcursive"], "Merc"), (["mero", "meroitichieroglyphs"], "Mero"),
    (["mlym", "malayalam"], "Mlym"), (["modi"], "Modi"), (["mong", "mongolian"], "Mong"),
    (["mroo", "mro"], "Mroo"), (["mtei", "meeteimayek"], "Mtei"), (["mult", "multani"], "Mult"),
    (["mymr", "myanmar"], "Mymr"), (["nagm", "nagmundari"], "Nagm"),
    (["nand", "nandinagari"], "Nand"), (["narb", "oldnortharabian"], "Narb"),
    (["nbat", "nabataean"], "Nbat"), (["newa"], "Newa"), (["nkoo", "nko"], "Nkoo"),
    (["nshu", "nushu"], "Nshu"), (["ogam", "ogham"], "Ogam"), (["olck", "olchiki"], "Olck"),
    (["orkh", "oldturkic"], "Orkh"), (["orya", "oriya"], "Orya"), (["osge", "osage"], "Osge"),
    (["osma", "osmanya"], "Osma"), (["ougr", "olduyghur"], "Ougr"),
    (["palm", "palmyrene"], "Palm"), (["pauc", "paucinhau"], "Pauc"),
    (["perm", "oldpermic"], "Perm"), (["phag", "phagspa"], "Phag"),
    (["phli", "inscriptionalpahlavi"], "Phli"), (["phlp", "psalterpahlavi"], "Phlp"),
    (["phnx", "phoenician"], "Phnx"), (["plrd", "miao"], "Plrd"),
    (["prti", "inscriptionalparthian"], "Prti"), (["rjng", "rejang"], "Rjng"),
    (["rohg", "hanifirohingya"], "Rohg"), (["runr", "runic"], "Runr"),
    (["samr", "samaritan"], "Samr"), (["sarb", "oldsoutharabian"], "Sarb"),
    (["saur", "saurashtra"], "Saur"), (["sgnw", "signwriting"], "Sgnw"),
    (["shaw", "shavian"], "Shaw"), (["shrd", "sharada"], "Shrd"), (["sidd", "siddham"], "Sidd"),
    (["sind", "khudawadi"], "Sind"), (["sinh", "sinhala"], "Sinh"), (["sogd", "sogdian"], "Sogd"),
    (["sogo", "oldsogdian"], "Sogo"), (["sora", "sorasompeng"], "Sora"),
    (["soyo", "soyombo"], "Soyo"), (["sund", "sundanese"], "Sund"),
    (["sylo", "sylotinagri"], "Sylo"), (["syrc", "syriac"], "Syrc"),
    (["tagb", "tagbanwa"], "Tagb"), (["takr", "takri"], "Takr"), (["tale", "taile"], "Tale"),
    (["talu", "newtailue"], "Talu"), (["taml", "tamil"], "Taml"), (["tang", "tangut"], "Tang"),
    (["tavt", "taiviet"], "Tavt"), (["telu", "telugu"], "Telu"), (["tfng", "tifinagh"], "Tfng"),
    (["tglg", "tagalog"], "Tglg"), (["thaa", "thaana"], "Thaa"), (["thai"], "Thai"),
    (["tibt", "tibetan"], "Tibt"), (["tirh", "tirhuta"], "Tirh"), (["tnsa", "tangsa"], "Tnsa"),
    (["toto"], "Toto"), (["ugar", "ugaritic"], "Ugar"), (["vaii", "vai"], "Vaii"),
    (["vith", "vithkuqi"], "Vith"), (["wara", "warangciti"], "Wara"),
    (["wcho", "wancho"], "Wcho"), (["xpeo", "oldpersian"], "Xpeo"),
    (["xsux", "cuneiform"], "Xsux"), (["yezi", "yezidi"], "Yezi"), (["yiii", "yi"], "Yiii"),
    (["zanb", "zanabazarsquare"], "Zanb"), (["zinh", "inherited"], "Zinh"),
    (["zyyy", "common"], "Zyyy")]

/-- The characters of a script, given by its code or its name in lower case without separators. -/
def script? (name : String) : Option CharSet :=
  (scriptNames.find? fun entry => entry.1.contains name).map fun entry =>
    labelledSet scriptRuns (· = entry.2)

end ApiReplay.Text
