import Logbook.Text.Runs

/-!
# Scripts

The scripts of all characters, from the Unicode character data. The names are in small letters and
without spaces, hyphens and underscores.

* `scriptTable`: the characters of each script;
* `scriptCodes`: other names of scripts, most of them with four letters.
-/

namespace Logbook.Text

/-- Other names of scripts. -/
def scriptCodes : List (String × String) :=
  [("adlm", "adlam"), ("hluw", "anatolianhieroglyphs"), ("arab", "arabic"), ("armn", "armenian"),
   ("avst", "avestan"), ("bali", "balinese"), ("bamu", "bamum"), ("bass", "bassavah"),
   ("batk", "batak"), ("beng", "bengali"), ("bhks", "bhaiksuki"), ("bopo", "bopomofo"),
   ("brah", "brahmi"), ("brai", "braille"), ("bugi", "buginese"), ("buhd", "buhid"),
   ("cans", "canadianaboriginal"), ("cari", "carian"), ("aghb", "caucasianalbanian"),
   ("cakm", "chakma"), ("cher", "cherokee"), ("chrs", "chorasmian"), ("zyyy", "common"),
   ("copt", "coptic"), ("qaac", "coptic"), ("xsux", "cuneiform"), ("cprt", "cypriot"),
   ("cpmn", "cyprominoan"), ("cyrl", "cyrillic"), ("dsrt", "deseret"), ("deva", "devanagari"),
   ("diak", "divesakuru"), ("dogr", "dogra"), ("dupl", "duployan"), ("egyp", "egyptianhieroglyphs"),
   ("elba", "elbasan"), ("elym", "elymaic"), ("ethi", "ethiopic"), ("gara", "garay"),
   ("geor", "georgian"), ("glag", "glagolitic"), ("goth", "gothic"), ("gran", "grantha"),
   ("grek", "greek"), ("gujr", "gujarati"), ("gong", "gunjalagondi"), ("guru", "gurmukhi"),
   ("gukh", "gurungkhema"), ("hani", "han"), ("hang", "hangul"), ("rohg", "hanifirohingya"),
   ("hano", "hanunoo"), ("hatr", "hatran"), ("hebr", "hebrew"), ("hira", "hiragana"),
   ("armi", "imperialaramaic"), ("zinh", "inherited"), ("qaai", "inherited"),
   ("phli", "inscriptionalpahlavi"), ("prti", "inscriptionalparthian"), ("java", "javanese"),
   ("kthi", "kaithi"), ("knda", "kannada"), ("kana", "katakana"), ("kali", "kayahli"),
   ("khar", "kharoshthi"), ("kits", "khitansmallscript"), ("khmr", "khmer"), ("khoj", "khojki"),
   ("sind", "khudawadi"), ("krai", "kiratrai"), ("laoo", "lao"), ("latn", "latin"),
   ("lepc", "lepcha"), ("limb", "limbu"), ("lina", "lineara"), ("linb", "linearb"),
   ("lyci", "lycian"), ("lydi", "lydian"), ("mahj", "mahajani"), ("maka", "makasar"),
   ("mlym", "malayalam"), ("mand", "mandaic"), ("mani", "manichaean"), ("marc", "marchen"),
   ("gonm", "masaramgondi"), ("medf", "medefaidrin"), ("mtei", "meeteimayek"),
   ("mend", "mendekikakui"), ("merc", "meroiticcursive"), ("mero", "meroitichieroglyphs"),
   ("plrd", "miao"), ("mong", "mongolian"), ("mroo", "mro"), ("mult", "multani"),
   ("mymr", "myanmar"), ("nbat", "nabataean"), ("nagm", "nagmundari"), ("nand", "nandinagari"),
   ("talu", "newtailue"), ("nkoo", "nko"), ("nshu", "nushu"), ("hmnp", "nyiakengpuachuehmong"),
   ("ogam", "ogham"), ("olck", "olchiki"), ("onao", "olonal"), ("hung", "oldhungarian"),
   ("ital", "olditalic"), ("narb", "oldnortharabian"), ("perm", "oldpermic"),
   ("xpeo", "oldpersian"), ("sogo", "oldsogdian"), ("sarb", "oldsoutharabian"),
   ("orkh", "oldturkic"), ("ougr", "olduyghur"), ("orya", "oriya"), ("osge", "osage"),
   ("osma", "osmanya"), ("hmng", "pahawhhmong"), ("palm", "palmyrene"), ("pauc", "paucinhau"),
   ("phag", "phagspa"), ("phnx", "phoenician"), ("phlp", "psalterpahlavi"), ("rjng", "rejang"),
   ("runr", "runic"), ("samr", "samaritan"), ("saur", "saurashtra"), ("shrd", "sharada"),
   ("shaw", "shavian"), ("sidd", "siddham"), ("sgnw", "signwriting"), ("sinh", "sinhala"),
   ("sogd", "sogdian"), ("sora", "sorasompeng"), ("soyo", "soyombo"), ("sund", "sundanese"),
   ("sunu", "sunuwar"), ("sylo", "sylotinagri"), ("syrc", "syriac"), ("tglg", "tagalog"),
   ("tagb", "tagbanwa"), ("tale", "taile"), ("lana", "taitham"), ("tavt", "taiviet"),
   ("takr", "takri"), ("taml", "tamil"), ("tnsa", "tangsa"), ("tang", "tangut"), ("telu", "telugu"),
   ("thaa", "thaana"), ("tibt", "tibetan"), ("tfng", "tifinagh"), ("tirh", "tirhuta"),
   ("todr", "todhri"), ("tutg", "tulutigalari"), ("ugar", "ugaritic"), ("vaii", "vai"),
   ("vith", "vithkuqi"), ("wcho", "wancho"), ("wara", "warangciti"), ("yezi", "yezidi"),
   ("yiii", "yi"), ("zanb", "zanabazarsquare")]

/-- The characters of each script. -/
def scriptTable : RunTable :=
  [("adlam", ["125184:76 4:10 4:2"]),
   ("ahom", ["71424:27 2:15 4:23"]),
   ("anatolianhieroglyphs", ["82944:583"]),
   ("arabic",
    ["1536:5 1:6 1:14 1:3 1:32 1:10 11:26 1:108 1:34 80:48 240:31 1:2 5:75 1:29 62032:115 16:363",
     "2:80 2:54 7 32:16 112:5 1:135 3939:31 67:3 55:4 57088:4 1:27 1:2 1 2 1:10 1:4 1 1 6 4 1 1",
     "1:3 1:2 1 2 1 1 1 1 1:2 1 2:4 1:7 1:4 1:4 1 1:10 1:17 5:3 1:5 1:17 52:2"]),
   ("armenian", ["1329:38 2:50 2:3 62851:5"]),
   ("avestan", ["68352:54 3:7"]),
   ("balinese", ["6912:77 1:50"]),
   ("bamum", ["42656:88 49416:569"]),
   ("bassavah", ["92880:30 2:6"]),
   ("batak", ["7104:52 8:4"]),
   ("bengali", ["2432:4 1:8 2:2 2:22 1:7 1 3:4 2:9 2:2 2:4 8 4:2 1:5 2:25"]),
   ("bhaiksuki", ["72704:9 1:45 1:14 10:29"]),
   ("bopomofo", ["746:2 11801:43 112:32"]),
   ("brahmi", ["69632:78 4:36 9"]),
   ("braille", ["10240:256"]),
   ("buginese", ["6656:28 2:2"]),
   ("buhid", ["5952:20"]),
   ("canadianaboriginal", ["5120:640 560:70 65978:16"]),
   ("carian", ["66208:49"]),
   ("caucasianalbanian", ["66864:52 11"]),
   ("chakma", ["69888:53 1:18"]),
   ("cham", ["43520:55 9:14 2:10 2:4"]),
   ("cherokee", ["5024:86 2:6 38770:80"]),
   ("chorasmian", ["69552:28"]),
   ("common",
    ["0:65 26:6 26:47 1:15 1:5 23 31 449:39 5:5 2:20 116 9 6 1 637 6 14 3 32 156 516 129:2 1241",
     "405:4 290 1519:3 71:2 203:2 1 1229 13 7:4 1:6 1:3 2 773:12 2:87 1:11 3:11 1:15 17:33 63:38",
     "1:3 2:6 1:27 1:17 41:3 4:666 22:11 21:928 256:628 2:32 1:105 512:94 402:21 1 1:25 15:8 4:4",
     "91:2 3 90:2 147:16 32:38 9 48:64 31:81 47 88:168 6592:64 22784:34 102:3 165:10 244 160 395",
     "14:2 20946:2 208:10 22:35 1:19 1:4 147 1:32 26:6 26:11 10 45:2 64:7 1:7 10:5 258:3 4:45",
     "3:9 80:13 51:45 228:27 47524:4 3932:250 6:436 156:116 60:246 10:39 2:62 3:17 8:2 7:30 4:61",
     "213:20 12:20 12:87 9:25 135:85 1:71 1:2 2 2:2 2:4 1:12 1 1:7 1:65 1:4 2:8 1:7 1:28 1:4 1:5",
     "1 3:7 1:340 2:292 2:50 5233:68 76:61 706:44 4:100 12:15 2:15 1:15 1:37 10:174 56:26 1:2",
     "13:44 4:9 7:2 14:6 154:984 4:17 3:13 3:119 4:95 6:12 4 15:12 4:56 8:10 6:40 8:30 2:12 4:2",
     "62:340 12:14 2:13 3:10 5:56 7:15 2:11 6:9 7:147 1:102 787463 30:96"]),
   ("coptic", ["994:14 10384:116 5:7"]),
   ("cuneiform", ["73728:922 102:111 1:5 11:196"]),
   ("cypriot", ["67584:6 2 1:44 1:2 3 2"]),
   ("cyprominoan", ["77712:99"]),
   ("cyrillic", ["1024:133 2:169 5968:11 160 76 4199:32 30784:96 22414:2 57856:62 33"]),
   ("deseret", ["66560:80"]),
   ("devanagari", ["2304:81 4:15 2:26 40800:32 29184:10"]),
   ("divesakuru", ["71936:7 2 2:8 1:2 1:30 1:2 2:12 9:10"]),
   ("dogra", ["71680:60"]),
   ("duployan", ["113664:107 5:13 3:9 7:10 2:4"]),
   ("egyptianhieroglyphs", ["77824:1110 10:3995"]),
   ("elbasan", ["66816:40"]),
   ("elymaic", ["69600:23"]),
   ("ethiopic",
    ["4608:73 1:4 2:7 1 1:4 2:41 1:4 2:33 1:4 2:7 1 1:4 2:15 1:57 1:4 2:67 2:32 3:26 6630:23 9:7",
     "1:7 1:7 1:7 1:7 1:7 1:7 1:7 32034:6 2:6 2:6 9:7 1:7 81073:7 1:4 1:2 1:15"]),
   ("garay", ["68928:38 3:29 8:2"]),
   ("georgian", ["4256:38 1 5 2:43 1:4 2960:43 2:3 4160:38 1 5"]),
   ("glagolitic", ["11264:96 111520:7 1:17 2:7 1:2 1:5"]),
   ("gothic", ["66352:27"]),
   ("grantha", ["70400:4 1:8 2:2 2:22 1:7 1:2 1:5 2:9 2:2 2:3 2 6 5:7 2:7 3:5"]),
   ("greek",
    ["880:4 1:3 2:4 1 4 1 1:3 1 1:20 1:63 14:16 6438:5 50:5 4:5 84 320:22 2:6 2:38 2:6 2:8 1 1 1",
     "1:31 2:53 1:15 1:14 2:6 1:19 2:3 1:9 295 35390 21978:79 17 53343:70"]),
   ("gujarati", ["2689:3 1:9 1:3 1:22 1:7 1:2 1:5 2:10 1:3 1:3 2 15:4 2:12 7:7"]),
   ("gunjalagondi", ["73056:6 1:2 1:37 1:2 1:6 7:10"]),
   ("gurmukhi", ["2561:3 1:6 4:2 2:22 1:7 1:2 1:2 1:2 2 1:5 4:2 2:3 3 7:4 1 7:17"]),
   ("gurungkhema", ["90368:58"]),
   ("han",
    ["11904:26 1:89 12:214 47 1 25:9 14:4 964:6592 64:20992 22784:366 2:106 29960:2 12:2",
     "36878:42720 32:4154 6:222 2:5762 14:7473 15:622 2466:542 1506:4939 5:4192"]),
   ("hangul",
    ["4352:256 7726:2 257:94 113:31 65:31 30433:29 643:11172 12:23 4:49 10148:31 3:6 2:6 2:6 2:3"]),
   ("hanifirohingya", ["68864:40 8:10"]),
   ("hanunoo", ["5920:21"]),
   ("hatran", ["67808:19 1:2 5:5"]),
   ("hebrew", ["1425:55 8:27 4:6 62760:26 1:5 1 1:2 1:2 1:10"]),
   ("hiragana", ["12353:86 6:3 98145:287 18 29:3 16557"]),
   ("imperialaramaic", ["67648:22 1:9"]),
   ("inherited",
    ["768:112 277:2 452:11 26 736:4 4443:31 513:3 1:13 1:7 4 6 3:2 198:64 524:2 194:33 3897:4",
     "107:2 52581:16 16:14 975 226 4186 48068:46 2:23 544:3 17:8 2:7 30:4 798546:240"]),
   ("inscriptionalpahlavi", ["68448:19 5:8"]),
   ("inscriptionalparthian", ["68416:22 2:8"]),
   ("javanese", ["43392:78 2:10 4:2"]),
   ("kaithi", ["69760:67 10"]),
   ("kannada", ["3200:13 1:3 1:23 1:10 1:5 2:9 1:3 1:4 7:2 6:2 1:4 2:10 1:3"]),
   ("katakana", ["12449:90 2:3 240:16 208:47 1:88 52238:10 1:45 45138:4 1:7 1:2 1 287:3 50 14:4"]),
   ("kawi", ["73472:17 1:41 3:29"]),
   ("kayahli", ["43264:46 1"]),
   ("kharoshthi", ["68096:4 1:2 5:8 1:3 1:29 2:3 4:10 7:9"]),
   ("khitansmallscript", ["94180 6939:470 41"]),
   ("khmer", ["6016:94 2:10 6:10 486:32"]),
   ("khojki", ["70144:18 1:47"]),
   ("khudawadi", ["70320:59 5:10"]),
   ("kiratrai", ["93504:58"]),
   ("lao", ["3713:2 1 1:5 1:24 1 1:23 2:5 1 1:7 1:10 2:4"]),
   ("latin",
    ["65:26 6:26 47 15 5:23 1:31 1:449 39:5 6683:38 6:49 5:4 5:13 1:70 65:256 369 13 16:13 141:2",
     "6 27 17:41 2775:32 31394:102 3:67 2:2 1 1:8 21:14 816:43 1:9 1:4 20374:7 1050:26 6:26",
     "2085:6 1:42 1:9 55109:31 6:6"]),
   ("lepcha", ["7168:56 3:15 3:3"]),
   ("limbu", ["6400:31 1:12 4:12 4 3:12"]),
   ("lineara", ["67072:311 9:22 10:8"]),
   ("linearb", ["65536:12 1:26 1:19 1:2 1:15 2:14 34:123"]),
   ("lisu", ["42192:48 31408"]),
   ("lycian", ["66176:29"]),
   ("lydian", ["67872:26 5"]),
   ("mahajani", ["69968:39"]),
   ("makasar", ["73440:25"]),
   ("malayalam", ["3328:13 1:3 1:51 1:3 1:6 4:16 2:26"]),
   ("mandaic", ["2112:28 2"]),
   ("manichaean", ["68288:39 4:12"]),
   ("marchen", ["72816:32 2:22 1:14"]),
   ("masaramgondi", ["72960:7 1:2 1:44 3 1:2 1:9 8:10"]),
   ("medefaidrin", ["93760:91"]),
   ("meeteimayek", ["43744:23 201:46 2:10"]),
   ("mendekikakui", ["124928:197 2:16"]),
   ("meroiticcursive", ["68000:24 4:20 2:46"]),
   ("meroitichieroglyphs", ["67968:32"]),
   ("miao", ["93952:75 4:57 7:17"]),
   ("modi", ["71168:69 11:10"]),
   ("mongolian", ["6144:2 2 1:20 6:89 7:43 64949:13"]),
   ("mro", ["92736:31 1:10 4:2"]),
   ("multani", ["70272:7 1 1:4 1:15 1:11"]),
   ("myanmar", ["4096:160 39232:31 97:32 27728:20"]),
   ("nabataean", ["67712:31 8:9"]),
   ("nagmundari", ["124112:42"]),
   ("nandinagari", ["72096:8 2:46 2:11"]),
   ("newtailue", ["6528:44 4:26 6:11 3:2"]),
   ("newa", ["70656:92 1:5"]),
   ("nko", ["1984:59 2:3"]),
   ("nushu", ["94177 16782:396"]),
   ("nyiakengpuachuehmong", ["123136:45 3:14 2:10 4:2"]),
   ("ogham", ["5760:29"]),
   ("olchiki", ["7248:48"]),
   ("olonal", ["124368:43 4"]),
   ("oldhungarian", ["68736:51 13:51 7:6"]),
   ("olditalic", ["66304:36 9:3"]),
   ("oldnortharabian", ["68224:32"]),
   ("oldpermic", ["66384:43"]),
   ("oldpersian", ["66464:36 4:14"]),
   ("oldsogdian", ["69376:40"]),
   ("oldsoutharabian", ["68192:32"]),
   ("oldturkic", ["68608:73"]),
   ("olduyghur", ["69488:26"]),
   ("oriya", ["2817:3 1:8 2:2 2:22 1:7 1:2 1:5 2:9 2:2 2:3 7:3 4:2 1:5 2:18"]),
   ("osage", ["66736:36 4:36"]),
   ("osmanya", ["66688:30 2:10"]),
   ("pahawhhmong", ["92928:70 10:10 1:7 1:21 5:19"]),
   ("palmyrene", ["67680:32"]),
   ("paucinhau", ["72384:57"]),
   ("phagspa", ["43072:56"]),
   ("phoenician", ["67840:28 3"]),
   ("psalterpahlavi", ["68480:18 7:4 12:7"]),
   ("rejang", ["43312:36 11"]),
   ("runic", ["5792:75 3:11"]),
   ("samaritan", ["2048:46 2:15"]),
   ("saurashtra", ["43136:70 8:12"]),
   ("sharada", ["70016:96"]),
   ("shavian", ["66640:48"]),
   ("siddham", ["71040:54 2:38"]),
   ("signwriting", ["120832:652 15:5 1:15"]),
   ("sinhala", ["3457:3 1:18 3:24 1:9 1 2:7 3 4:6 1 1:8 6:10 2:3 66540:20"]),
   ("sogdian", ["69424:42"]),
   ("sorasompeng", ["69840:25 7:10"]),
   ("soyombo", ["72272:83"]),
   ("sundanese", ["7040:64 256:8"]),
   ("sunuwar", ["72640:34 14:10"]),
   ("sylotinagri", ["43008:45"]),
   ("syriac", ["1792:14 1:60 2:3 272:11"]),
   ("tagalog", ["5888:22 9"]),
   ("tagbanwa", ["5984:13 1:3 1:2"]),
   ("taile", ["6480:30 2:5"]),
   ("taitham", ["6688:63 1:29 2:11 6:10 6:14"]),
   ("taiviet", ["43648:67 24:5"]),
   ("takri", ["71296:58 6:10"]),
   ("tamil", ["2946:2 1:6 3:3 1:4 3:2 1 1:2 3:2 3:3 3:12 4:5 3:3 1:4 2 6 14:21 70597:50 13"]),
   ("tangsa", ["92784:79 1:10"]),
   ("tangut", ["94176 31:6136 8:768 512:9"]),
   ("telugu", ["3072:13 1:3 1:23 1:16 2:9 1:3 1:4 7:2 1:3 2 2:4 2:10 7:9"]),
   ("thaana", ["1920:50"]),
   ("thai", ["3585:58 5:28"]),
   ("tibetan", ["3840:72 1:36 4:39 1:36 1:15 1:7 4:2"]),
   ("tifinagh", ["11568:56 7:2 14"]),
   ("tirhuta", ["70784:72 8:10"]),
   ("todhri", ["67008:52"]),
   ("toto", ["123536:31"]),
   ("tulutigalari", ["70528:10 1 2 1:38 1:10 1 2 1:4 1:10 1:2 8:2"]),
   ("ugaritic", ["66432:30 1"]),
   ("vai", ["42240:300"]),
   ("vithkuqi", ["66928:11 1:15 1:7 1:2 1:11 1:15 1:7 1:2"]),
   ("wancho", ["123584:58 5"]),
   ("warangciti", ["71840:83 12"]),
   ("yezidi", ["69248:42 1:3 2:2"]),
   ("yi", ["40960:1165 3:55"]),
   ("zanabazarsquare", ["72192:72"])]

end Logbook.Text
