import Logbook.Text.Runs

/-!
# Properties of characters

The characters with each property that is not put together from other ones, from the Unicode
character data.

* `propertyTable`: the tables, by the names of the properties in small letters and without spaces,
  hyphens and underscores.
-/

namespace Logbook.Text

/-- The characters with each property. -/
def propertyTable : RunTable :=
  [("asciihexdigit", ["48:10 7:6 26:6"]),
   ("bidicontrol", ["1564 6641:2 26:5 55:4"]),
   ("changeswhenlowercased",
    ["65:26 101:23 1:7 33 1 1 1 1 1 1 1 1 1 1 1 1 1 1 1 1 1 1 1 1 1 1 1 1 1 1 1 2 1 1 1 1 1 1 1",
     "2 1 1 1 1 1 1 1 1 1 1 1 1 1 1 1 1 1 1 1 1 1 1 1:2 1 1 3:2 1 1:2 1:3 2:4 1:2 1:3 3:2 1:2 1",
     "1 1:2 1 2 1:2 1:3 1 1:2 3 7:2 1:2 1:2 1 1 1 1 1 1 1 1 2 1 1 1 1 1 1 1 1 2:2 1 1:3 1 1 1 1",
     "1 1 1 1 1 1 1 1 1 1 1 1 1 1 1 1 1 1 1 1 1 1 1 1 1 7:2 1:2 2 1:4 1 1 1 1 289 1 3 8 6 1:3 1",
     "1:2 1:17 1:9 35 8 1 1 1 1 1 1 1 1 1 1 1 5 2 1:2 2:51 48 1 1 1 1 1 1 1 1 1 1 1 1 1 1 1 1 9",
     "1 1 1 1 1 1 1 1 1 1 1 1 1 1 1 1 1 1 1 1 1 1 1 1 1 1 1:2 1 1 1 1 1 1 2 1 1 1 1 1 1 1 1 1 1",
     "1 1 1 1 1 1 1 1 1 1 1 1 1 1 1 1 1 1 1 1 1 1 1 1 1 1 1 1 1 1 1 1 1 1 1 1 1 2:38 2889:38 1 5",
     "722:86 2195 6:43 2:3 320 1 1 1 1 1 1 1 1 1 1 1 1 1 1 1 1 1 1 1 1 1 1 1 1 1 1 1 1 1 1 1 1 1",
     "1 1 1 1 1 1 1 1 1 1 1 1 1 1 1 1 1 1 1 1 1 1 1 1 1 1 1 1 1 1 1 1 1 1 1 1 1 1 1 1 1 9 1 1 1",
     "1 1 1 1 1 1 1 1 1 1 1 1 1 1 1 1 1 1 1 1 1 1 1 1 1 1 1 1 1 1 1 1 1 1 1 1 1 1 1 1 1 1 1 1 1",
     "9:8 8:6 10:8 8:8 8:6 11 1 1 1 8:8 24:8 8:8 8:8 8:5 11:5 11:4 12:5 11:5 297 3:2 6 45:16 19",
     "818:26 1840:48 48 1:3 2 1 1 1:4 1 2 8:3 1 1 1 1 1 1 1 1 1 1 1 1 1 1 1 1 1 1 1 1 1 1 1 1 1",
     "1 1 1 1 1 1 1 1 1 1 1 1 1 1 1 1 1 1 1 1 1 1 1 1 8 1 4 31053 1 1 1 1 1 1 1 1 1 1 1 1 1 1 1",
     "1 1 1 1 1 1 1 19 1 1 1 1 1 1 1 1 1 1 1 1 1 135 1 1 1 1 1 1 3 1 1 1 1 1 1 1 1 1 1 1 1 1 1 1",
     "1 1 1 1 1 1 1 1 1 1 1 1 1 1 1 10 1 1:2 1 1 1 1 4 1 2 1 3 1 1 1 1 1 1 1 1 1 1:5 1:5 1 1 1 1",
     "1 1 1 1:4 1 1:2 3 5 1 1 1 24 22315:26 1221:40 136:36 156:11 1:15 1:7 1:2 1770:51 157:22",
     "2874:32 21888:32 31392:34"]),
   ("changeswhenuppercased",
    ["97:26 58 41:24 1:8 1 1 1 1 1 1 1 1 1 1 1 1 1 1 1 1 1 1 1 1 1 1 1 1 1 1 1 1 2 1 1 1 1 1 1",
     "1:2 1 1 1 1 1 1 1 1 1 1 1 1 1 1 1 1 1 1 1 1 1 1 1 2 1 1:3 2 1 2 3 5 2 3:3 2 2 1 1 2 4 2 3",
     "1 2 3 1 5:2 1:2 1:2 1 1 1 1 1 1 1 1:2 1 1 1 1 1 1 1 1 1:2 1:2 1 3 1 1 1 1 1 1 1 1 1 1 1 1",
     "1 1 1 1 1 1 1 3 1 1 1 1 1 1 1 1 8 2:2 1 4 1 1 1 1:6 1:2 1 1:2 3:2 1:4 1:5 2 1:2 2 7 2 1:2",
     "3:6 5 10:2 166 43 1 3 3:3 18 27:35 1:2 3:3 1 1 1 1 1 1 1 1 1 1 1 1:5 1 2 2 52:48 1 1 1 1 1",
     "1 1 1 1 1 1 1 1 1 1 1 1 9 1 1 1 1 1 1 1 1 1 1 1 1 1 1 1 1 1 1 1 1 1 1 1 1 1 1 2 1 1 1 1 1",
     "1:2 1 1 1 1 1 1 1 1 1 1 1 1 1 1 1 1 1 1 1 1 1 1 1 1 1 1 1 1 1 1 1 1 1 1 1 1 1 1 1 1 1 1 1",
     "1 1 1 1 1 49:39 2888:43 2:3 760:6 2178:9 1 238 3 16 114 1 1 1 1 1 1 1 1 1 1 1 1 1 1 1 1 1",
     "1 1 1 1 1 1 1 1 1 1 1 1 1 1 1 1 1 1 1 1 1 1 1 1 1 1 1 1 1 1 1 1 1 1 1 1 1 1 1 1 1 1 1 1 1",
     "1 1 1 1 1 1 1 1 1 1 1 1:7 5 1 1 1 1 1 1 1 1 1 1 1 1 1 1 1 1 1 1 1 1 1 1 1 1 1 1 1 1 1 1 1",
     "1 1 1 1 1 1 1 1 1 1 1 1 1 1 1 1:9 8:6 10:8 8:8 8:6 10:8 8:8 8:14 2:53 1:2 4 1 3:3 1:2 4",
     "3:4 2:2 8:8 10:3 1:2 4 337 33:16 4 843:26 1862:48 1 3:2 1 1 1 6 2 10 1 1 1 1 1 1 1 1 1 1 1",
     "1 1 1 1 1 1 1 1 1 1 1 1 1 1 1 1 1 1 1 1 1 1 1 1 1 1 1 1 1 1 1 1 1 1 1 1 1 1 8 1 4 12:38 1",
     "5 30995 1 1 1 1 1 1 1 1 1 1 1 1 1 1 1 1 1 1 1 1 1 1 19 1 1 1 1 1 1 1 1 1 1 1 1 1 135 1 1 1",
     "1 1 1 3 1 1 1 1 1 1 1 1 1 1 1 1 1 1 1 1 1 1 1 1 1 1 1 1 1 1 1 1 1 1 10 1 2 1 1 1 1 4 4 1:2",
     "2 1 1 1 1 1 1 1 1 1 11 1 1 1 1 1 1 1 4 1 2 3 5 1 1 26 860 28:80 20288:7 12:5 1065:26",
     "1229:40 136:36 155:11 1:15 1:7 1:2 1795:51 125:22 2874:32 21888:32 31394:34"]),
   ("dash",
    ["45 1372 51 3649 1029 2057:6 61 39 15 390 3076 2 31:2 4 28 446 19 111 52624:2 37 10 169",
     "3680 318"]),
   ("deprecated", ["329 1321 2307 1 2089:2 2245:6 697:2 908502"]),
   ("diacritic",
    ["94 1 71 6 4 2:2 503:159 1:8 5:6 17:2 4 9:2 253:5 209 55:45 1 1:2 1:2 1 131:8 4:2 134:2 4:2",
     "3:3 67:27 91:11 58:11 34:2 126:8 41:10 16:28 61 16 3:4 28 74 16 110 16 110 16 47:3 60 16 7",
     "119 110 16 110 16 109:2 16 124 111 12:6 1 107 13:5 75:2 27 1 1 4:2 66:3 1:2 62 112 1:2",
     "40:2 4:5 25:7 1 10:2 705:3 948:2 30 148:11 9 347:3 292 20:8 2 48:15 2:11 104 15 38:9 54:2",
     "58 11:2 66:2 64:6 82:25 4 6 2:3 50:63 48:36 5:12 37:11 445 1:3 11:3 13:3 13:3 13:2 3312:3",
     "317 506:6 105:4 95 30066 12:2 1 28:2 82:2 14:34 102:3 109:2 12 37 151 27:18 57:4 36 95 12",
     "36 149:3 65:4 51 100:5 9:3 128:2 20272 769:16 270 1 47 45:2 67 764 1183:6 1:42 1:9 637:3 4",
     "165:2 571:6 38 26:5 399:3 70:11 49:4 192 41 72:2 120:2 62 76 9:3 104:2 178:2 80:2 16 24:7",
     "3:5 89:3 1:2 13:2 95 3 123:2 251:2 126 118:2 115 269:2 258:2 4 156 83 18 81 421 258 1:2 81",
     "425:2 23 5356:15 11481 2496:5 59:7 564:2 546:17 80:2 16382:4 1:7 1:2 7937:46 2:23 544:3",
     "3:6 8:8 2:7 30:4 3714:62 194:7 375 61:4 766:2 736:7 109:3 1:3"]),
   ("emoji",
    ["35 6 5:10 111 4 8077 12 216 22 90:6 15:2 367:2 12 166 25:11 4:3 199 231:2 10 9 58:4 1:5 9",
     "2 2:2 2 4 2 1:2 2 3 3:2 8:3 5 1 5:12 11:2 2 1:2 1 18 2:2 18:6 1 1:2 3:2 5 2:2 4:2 11:2 5:2",
     "2 5:2 1 1:2 20:2 5:6 1:4 2 4 2 2:6 1 2 1 1 6 3 6 10:2 15 2 4 1 4:3 1 11:2 48:3 9 14 14",
     "372:2 463:3 19:2 51 4 1242 12 601 1 114026 202 160:2 12:2 14 2:10 75:26 1:2 23 20 2:9 21:2",
     "174:34 2:112 2:2 1:3 2:83 2:3 1:263 1:63 11:6 1:24 7:2 2:8 12 2:4 2 4:2 13:2 2 8:2 9 5:3",
     "12:3 8:3 2 1 4 6 3 6:86 48:70 5:8 2:3 4:10 3 1:2 3 2:10 227:12 4 283:47 1:10 1:185 112:13",
     "3:10 5:56 7:15 2:11 6:9"]),
   ("emojicomponent", ["35 6 5:10 8147 213 56619 62422:26 507:5 1456:4 788076:96"]),
   ("emojimodifier", ["127995:5"]),
   ("emojimodifierbase",
    ["9757 219 16:4 117879 60:3 2 2:3 117:2 2:11 21:19 3 4:3 1:3 7 1 24 201:2 4 21 4:2 174:3 3:5",
     "83 16:3 9 11 575 2 8:8 6 9:10 2:3 56 61:2 1:2 1 17:3 1:13 229:3 42:9"]),
   ("emojipresentation",
    ["8986:2 205:4 3 2 521:2 21:2 50:12 43 19 13 8:2 17:2 5:2 8 5 21 7:2 1 4 2 7 4:2 28 35 1 4:3",
     "1 61:3 24 14 859:2 51 4 115886 202 190 2:10 75:26 1 24 20 2:5 1:3 21:2 174:33 12:9 1:70",
     "1:22 12:43 4:5 12:17 3 3:71 1 1:187 2:63 13:4 1:24 18 26:2 13 86:85 48:70 6 3:3 2:3 4:4",
     "11:2 7:9 227:12 4 283:47 1:10 1:185 112:13 3:10 5:56 7:15 2:11 6:9"]),
   ("extendedpictographic",
    ["169 4 8077 12 216 22 90:6 15:2 367:2 12 95 70 25:11 4:3 199 231:2 10 9 58:4 1:6 1:12 1:114",
     "10:118 2:11 1 1 6 3 6 10:2 15 2 4 1 4:3 1 11:5 45:3 9 14 14 372:2 463:3 19:2 51 4 1242 12",
     "601 1 114022:256 13:3 31 60:6 12:2 14 2:10 18:57 27:15 10 20 2:9 1:4 9:434 5:318 8:266",
     "48:128 116:12 85:43 12:4 56:8 10:6 40:8 30:82 12:47 1:10 1:441 256:1022"]),
   ("extender",
    ["183 536:2 878 441 630 137 89 752 127 2371 56 611 398 68 5001 43:5 103:2 93:3 28438 1526",
     "962 22 137 108 21:2 21627 2064:2 1483 27 4 1223 293 116:2 498:3 1231 20649:2 1180:2 1",
     "29016:2 1201 852:3"]),
   ("graphemelink",
    ["2381 127 127 127 127 127 127 127 109:2 16 124 111 127 201 180:2 1753:2 30 157 653 227",
     "101:2 70:2 4491 31366 37 151 142 108 309 246 24145 1542 41 14 57 121:2 139 116 180 98",
     "128:3 113 127 252 127 118 116 269 259:2 161 83 18 81 421 260:2 81 425:2 16876"]),
   ("hexdigit", ["48:10 7:6 26:6 65193:10 7:6 26:6"]),
   ("hyphen", ["45 127 1244 4731 2057:2 3589 739 52583 169 87"]),
   ("idcompatmathcontinue", ["178:2 5 8118 3:11 1:15 371 4 22 111778 25 31 25 31 25 31 25 31 25"]),
   ("idcompatmathstart", ["8706 4 22 111778 25 31 25 31 25 31 25 31 25"]),
   ("ideographic",
    ["12294:2 25:9 14:3 965:6592 64:20992 22784:366 2:106 29962 27:6136 8:1238 41:10 9319:396",
     "19716:42720 32:4154 6:222 2:5762 14:7473 15:622 2466:542 1506:4939 5:4192"]),
   ("idsbinaryoperator", ["12272:2 2:10 497"]),
   ("idstrinaryoperator", ["12274:2"]),
   ("idsunaryoperator", ["12286:2"]),
   ("joincontrol", ["8204:2"]),
   ("logicalorderexception", ["3648:5 123:5 2800:3 2 37114:2 2 1:2"]),
   ("modifiercombiningmark", ["1620:2 2 131 6 3:2 481:2 1:3 3 31"]),
   ("noncharactercodepoint",
    ["64976:32 526:2 65534:2 65534:2 65534:2 65534:2 65534:2 65534:2 65534:2 65534:2 65534:2",
     "65534:2 65534:2 65534:2 65534:2 65534:2 65534:2 65534:2"]),
   ("otheralphabetic",
    ["837 29:13 576:14 1 1:2 1:2 1 72:11 48:13 1:7 16 101:7 4:4 2:2 4 35 30:16 102:11 101:2 3:9",
     "1:3 1:4 106 60:12 3:7 6:20 54:2 2:15 1:2 5:3 10:2 29:3 58:7 2:2 2:2 10 10:2 29:3 58:5 4:2",
     "2:2 4 30:2 3 11:3 58:8 1:3 1:2 21:2 22:3 4:3 58:7 2:2 2:2 9:2 10:2 30 59:5 3:3 1:3 10 40:5",
     "57:7 1:3 1:3 8:2 11:2 29:3 58:7 1:3 1:3 8:2 11:2 15 12:4 58:7 1:3 1:3 10 10:2 29:3 75:6 1",
     "1:8 18:2 61 2:7 18 99 2:6 1:2 16 163:19 9:11 1:36 110:12 1 2:4 23:4 4:3 1:3 2:7 3:4 13:12",
     "1 10:4 1652:2 30:2 30:2 30:2 66:19 188:2 34 118:12 4:9 222:5 57:10 2:20 74:2 11:3 49:5",
     "48:15 60:3 30:9 2:2 57:11 50:19 412:34 1729:52 2294:32 30836:8 34:2 354 8 23:5 88:2 50:16",
     "1 57 38:5 28:12 45:4 48:12 37 67:14 12 8:2 45:3 50 1:3 2:2 5 44:5 5 237:8 20275 2135:5",
     "1670:3 1:2 5:4 788:4 65 321:2 79 259:3 53:14 45:2 11:3 45:9 9 61:3 36:12 18:2 57:3 48:13",
     "14:2 92:9 2 6 2 157:10 23:4 58:7 2:2 2:2 10 10:2 84:9 1 2 1:4 1:2 103:13 1:3 106:18 237:7",
     "2:7 29:2 82:15 1 106:11 103:14 257:13 247:6 1:2 2:2 3 1 142:7 2:6 4 28:10 42:5 1:4 18:11",
     "46:14 407:8 1:7 83:22 1:14 122:6 3 1:2 1:3 1 3 66:5 1:2 1:4 348:4 9:2 1 48:7 3:3 16861:17",
     "3616 1:55 7:4 93:2 19628 9057:7 1:17 2:7 1:2 1:5 100 2231 2024:26 6:26 6:26"]),
   ("otherdefaultignorablecodepoint",
    ["847 3599:2 1619:2 2223 4350 52795 79:9 851975 1:30 96:128 240:3600"]),
   ("othergraphemeextend",
    ["2494 24 358 24 102 24 232 1 4:2 1:2 9:2 103 24 119 15 2357 30 1024 5 1 5:2 101 71:2 1048",
     "4129:2 31011 108 21981:2 4640 116 264 14 9 96 9 2 1:3 5 224 12 241 262 633 12 1539 20654:2",
     "24947:2 6:6 798381:96"]),
   ("otheridcontinue", ["183 719 4065:9 1640 1585:2 4333 52841"]),
   ("otheridstart", ["6277:2 2193 21 3948:2"]),
   ("otherlowercase",
    ["170 15 501:9 7:2 30:5 96 52 3457 3119:63 13 34:37 689 13 16:13 211:16 848:26 1938:2",
     "31262:2 210 129:3 3:2 866:4 9 23574 2:3 1:42 1:9 55413:62"]),
   ("othermath",
    ["94 881:3 2 26:2 2:2 7200 27:3 11 32:4 24:2 14:2 65:13 4 3:2 4:5 18 4 2:10 1 3:5 6 3:2 2:2",
     "1:3 1:6 3:4 5:5 75:5 2:4 1:2 1:2 1 1:5 2:2 4:2 4:18 2:2 1 1:7 1 6:2 290:4 168:2 1 24 17",
     "445:2 12:9 5:5 5:2 2:2 3:5 14 1 2:6 24:2 57 1 29:4 9:2 342:2 31:10 403:22 63:4 32:2 54371",
     "1 4 211 1 54465:85 1:71 1:2 2 2:2 2:4 1:12 1 1:7 1:65 1:4 2:8 1:7 1:28 1:4 1:5 1 3:7 1:340",
     "2:25 1:25 1:31 1:25 1:31 1:25 1:31 1:25 1:31 1:25 1:8 2:50 5632:4 1:27 1:2 1 2 1:10 1:4 1",
     "1 6 4 1 1 1:3 1:2 1 2 1 1 1 1 1:2 1 2:4 1:7 1:4 1:4 1 1:10 1:17 5:3 1:5 1:17"]),
   ("otheruppercase", ["8544:16 838:26 117856:26 6:26 6:26"]),
   ("patternsyntax",
    ["33:15 10:7 26:4 1 26:4 34:7 1 1:2 1 1:2 4 4 3 23 31 7960:24 8:15 2:19 1:10 305:720 160:630",
     "30:1132 512:128 385:3 4:25 15 52493:2 261:2"]),
   ("patternwhitespace", ["9:5 18 100 8072:2 24:2"]),
   ("prependedconcatenationmark", ["1536:6 215 49 384:2 80 67546 15"]),
   ("quotationmark", ["34 4 131 15 8028:8 25:2 3591 457:4 13:3 52769:4 189 4 90:2"]),
   ("radical", ["11904:26 1:89 12:214"]),
   ("regionalindicator", ["127462:26"]),
   ("sentenceterminal",
    ["33 12 16 1353 147:3 180 43:3 246 61 1 3:2 293:2 1764:2 790 4:2 773 198:2 157:2 45 5 314:2",
     "354:4 162:2 10:2 2:2 29:3 187:2 65:2 932 23:2 9:3 3247:3 306 13 22:2 429 29948 270:2 227 3",
     "382:2 86:2 95 152:2 147:3 144:2 249 21030 2:2 59 3:2 169 12 16 65 2804:2 1277:5 44:4 189:2",
     "117:4 127:3 129:2 6 16:2 88:2 1:2 108 298:2 117:2 373:2 5:15 105:2 249:3 517 1 251:2 87:2",
     "420:2 692:2 74:2 19241:2 133 65:2 11 553:2 296 19974 7656"]),
   ("softdotted",
    ["105:2 196 281 30 52 20 320 98 1 6409 51 13 3 132 157 421 214:2 2866 108453:2 50:2 50:2",
     "50:2 50:2 50:2 50:2 50:2 50:2 50:2 50:2 50:2 50:2 2182 305:2 26"]),
   ("terminalpunctuation",
    ["33 10 1 11:2 3 830 8 513 57 72 14 1:3 180 43:11 1 235:2 54:6 1:8 31 261:2 1268:2 172 4:6",
     "311:2 789:8 773 124:3 71:2 157:3 3 39:4 2:2 314:2 354:4 162:2 10:2 1:3 29:3 187:5 62:2 932",
     "23:2 9:3 3247:3 306 13 4 10 1:2 3:2 428:2 29947:2 269:3 227:5 382:2 86:2 95 151:3 147:3",
     "127 16:2 249 21030 2:2 57:3 1:4 169 10 1 11:2 3 65 2 1082 48 1158 199 310:2 152:6 68:6",
     "89:4 952:5 44:4 189:7 112:4 127:3 129:2 6 16:2 88:5 108 298:2 117:3 12:2 358:4 3:15 105:2",
     "249:3 517 1 251:2 87:2 4:2 414:3 45 645:2 74:2 1323:5 17913:2 133 65:3 10 553:2 295:2",
     "19974 7655:4"]),
   ("unifiedideograph",
    ["13312:6592 64:20992 23054:2 1 1:2 10 1 1:2 2:3 67030:42720 32:4154 6:222 2:5762 14:7473",
     "15:622 4514:4939 5:4192"]),
   ("variationselector", ["6155:3 1 58864:16 852720:240"]),
   ("whitespace", ["9:5 18 100 26 5599 2431:11 29:2 5 47 4000"])]

end Logbook.Text
