import Logbook.Text.Runs

/-!
# Characters of several scripts

The characters that are used with other scripts than their own, from the Unicode character data.

* `sharedTable`: such characters, and all scripts with which they are used.
-/

namespace Logbook.Text

/-- The characters that are used with several scripts or with another than their own, and those
scripts. -/
def sharedTable : List (List String × List String) :=
  [(["183"],
     ["avestan", "carian", "coptic", "duployan", "elbasan", "georgian", "glagolitic", "gothic",
      "greek", "gunjalagondi", "han", "latin", "lydian", "mahajani", "oldpermic", "shavian"]),
   (["700"],
     ["bengali", "cyrillic", "devanagari", "latin", "lisu", "thai", "toto"]),
   (["711 1:3 13"],
     ["bopomofo", "latin"]),
   (["717"],
     ["latin", "lisu"]),
   (["727"],
     ["latin", "thai"]),
   (["768"],
     ["cherokee", "coptic", "cyrillic", "greek", "latin", "oldpermic", "sunuwar", "taile"]),
   (["769"],
     ["cherokee", "cyrillic", "greek", "latin", "osage", "sunuwar", "taile", "todhri"]),
   (["770"],
     ["cherokee", "cyrillic", "latin", "tifinagh"]),
   (["771"],
     ["glagolitic", "latin", "sunuwar", "syriac", "thai"]),
   (["772"],
     ["caucasianalbanian", "cherokee", "coptic", "cyrillic", "gothic", "greek", "latin", "osage",
      "syriac", "tifinagh", "todhri"]),
   (["773"],
     ["coptic", "elbasan", "glagolitic", "gothic", "katakana", "latin"]),
   (["774"],
     ["cyrillic", "greek", "latin", "oldpermic", "tifinagh"]),
   (["775"],
     ["coptic", "duployan", "hebrew", "latin", "oldpermic", "syriac", "taile", "tifinagh",
      "todhri"]),
   (["776"],
     ["armenian", "cyrillic", "duployan", "gothic", "greek", "hebrew", "latin", "oldpermic",
      "syriac", "taile", "tifinagh"]),
   (["777"],
     ["latin", "tifinagh"]),
   (["778"],
     ["duployan", "latin", "syriac"]),
   (["779"],
     ["cherokee", "cyrillic", "latin", "osage"]),
   (["780"],
     ["cherokee", "latin", "taile"]),
   (["781 2"],
     ["latin", "sunuwar"]),
   (["782"],
     ["ethiopic", "latin"]),
   (["785"],
     ["cyrillic", "latin", "todhri"]),
   (["787"],
     ["greek", "latin", "oldpermic", "todhri"]),
   (["803"],
     ["cherokee", "duployan", "katakana", "latin", "syriac", "tifinagh"]),
   (["804"],
     ["cherokee", "duployan", "latin", "syriac"]),
   (["805 8"],
     ["latin", "syriac"]),
   (["813"],
     ["latin", "sunuwar", "syriac"]),
   (["816"],
     ["cherokee", "latin", "syriac"]),
   (["817"],
     ["caucasianalbanian", "cherokee", "gothic", "latin", "sunuwar", "syriac", "thai"]),
   (["834 2 6778:2"],
     ["greek"]),
   (["856"],
     ["latin", "osage"]),
   (["862"],
     ["caucasianalbanian", "latin", "todhri"]),
   (["867:13"],
     ["latin"]),
   (["884:2"],
     ["coptic", "greek"]),
   (["1155"],
     ["cyrillic", "oldpermic"]),
   (["1156 2 10683 30763"],
     ["cyrillic", "glagolitic"]),
   (["1157:2"],
     ["cyrillic", "latin"]),
   (["1417"],
     ["armenian", "georgian", "glagolitic"]),
   (["1548 14"],
     ["arabic", "garay", "hanifirohingya", "nko", "syriac", "thaana", "yezidi"]),
   (["1564"],
     ["arabic", "syriac", "thaana"]),
   (["1567"],
     ["adlam", "arabic", "garay", "hanifirohingya", "nko", "syriac", "thaana", "yezidi"]),
   (["1600"],
     ["adlam", "arabic", "hanifirohingya", "mandaic", "manichaean", "olduyghur", "psalterpahlavi",
      "sogdian", "syriac"]),
   (["1611:11 26"],
     ["arabic", "syriac"]),
   (["1632:10"],
     ["arabic", "thaana", "yezidi"]),
   (["1748"],
     ["arabic", "hanifirohingya"]),
   (["2385"],
     ["bengali", "devanagari", "grantha", "gujarati", "gurmukhi", "kannada", "latin", "malayalam",
      "nandinagari", "newa", "oriya", "sharada", "tamil", "telugu", "tirhuta"]),
   (["2386"],
     ["bengali", "devanagari", "grantha", "gujarati", "gurmukhi", "kannada", "latin", "malayalam",
      "newa", "oriya", "tamil", "telugu", "tirhuta"]),
   (["2404"],
     ["bengali", "devanagari", "dogra", "grantha", "gujarati", "gunjalagondi", "gurmukhi",
      "kannada", "khudawadi", "mahajani", "malayalam", "masaramgondi", "nandinagari", "olonal",
      "oriya", "sinhala", "sylotinagri", "takri", "tamil", "telugu", "tirhuta"]),
   (["2405"],
     ["bengali", "devanagari", "dogra", "grantha", "gujarati", "gunjalagondi", "gurmukhi",
      "gurungkhema", "kannada", "khudawadi", "limbu", "mahajani", "malayalam", "masaramgondi",
      "nandinagari", "olonal", "oriya", "sinhala", "sylotinagri", "takri", "tamil", "telugu",
      "tirhuta"]),
   (["2406:10"],
     ["devanagari", "dogra", "kaithi", "mahajani"]),
   (["2534:10"],
     ["bengali", "chakma", "sylotinagri"]),
   (["2662:10"],
     ["gurmukhi", "multani"]),
   (["2790:10"],
     ["gujarati", "khojki"]),
   (["3046:14 67341 1 55:2 3219:2 1"],
     ["grantha", "tamil"]),
   (["3302:10"],
     ["kannada", "nandinagari", "tulutigalari"]),
   (["4160:10"],
     ["chakma", "myanmar", "taile"]),
   (["4347"],
     ["georgian", "glagolitic", "latin"]),
   (["5867:3"],
     ["runic"]),
   (["5941:2"],
     ["buhid", "hanunoo", "tagalog", "tagbanwa"]),
   (["6146:2 1"],
     ["mongolian", "phagspa"]),
   (["7376 1"],
     ["bengali", "devanagari", "grantha", "kannada"]),
   (["7377 2 6 2:2 3:6 3 1:4"],
     ["devanagari"]),
   (["7379"],
     ["devanagari", "grantha", "kannada"]),
   (["7381"],
     ["bengali", "devanagari", "newa", "telugu", "tirhuta"]),
   (["7382"],
     ["bengali", "devanagari", "telugu"]),
   (["7383"],
     ["devanagari", "newa", "sharada"]),
   (["7384"],
     ["bengali", "devanagari", "newa", "telugu"]),
   (["7385 2:2 2"],
     ["devanagari", "sharada"]),
   (["7386"],
     ["devanagari", "kannada", "malayalam", "oriya", "tamil", "telugu"]),
   (["7393 19:2"],
     ["bengali", "devanagari"]),
   (["7394"],
     ["devanagari", "newa", "tirhuta"]),
   (["7401"],
     ["devanagari", "nandinagari", "newa"]),
   (["7402"],
     ["bengali", "devanagari", "sharada"]),
   (["7403"],
     ["devanagari", "newa"]),
   (["7405"],
     ["bengali", "devanagari", "newa", "sharada"]),
   (["7410"],
     ["bengali", "devanagari", "grantha", "kannada", "malayalam", "nandinagari", "oriya",
      "sinhala", "telugu", "tirhuta", "tulutigalari"]),
   (["7411 4:2"],
     ["devanagari", "grantha"]),
   (["7412"],
     ["devanagari", "grantha", "kannada", "tulutigalari"]),
   (["7415"],
     ["bengali"]),
   (["7418"],
     ["nandinagari"]),
   (["7672"],
     ["cyrillic", "latin", "syriac"]),
   (["7674"],
     ["syriac"]),
   (["8239"],
     ["latin", "mongolian", "phagspa"]),
   (["8271"],
     ["adlam", "arabic"]),
   (["8282"],
     ["carian", "georgian", "glagolitic", "lycian", "oldhungarian", "oldturkic"]),
   (["8285"],
     ["carian", "greek", "meroitichieroglyphs", "oldhungarian"]),
   (["8432"],
     ["devanagari", "grantha", "latin"]),
   (["11799"],
     ["coptic", "latin"]),
   (["11824"],
     ["avestan", "oldturkic"]),
   (["11825"],
     ["avestan", "carian", "georgian", "kaithi", "lydian", "oldhungarian", "samaritan"]),
   (["11836 101987:4"],
     ["duployan"]),
   (["11841"],
     ["adlam", "arabic", "oldhungarian"]),
   (["12272:16 495"],
     ["han", "tangut"]),
   (["12289"],
     ["bopomofo", "han", "hangul", "hiragana", "katakana", "mongolian", "yi"]),
   (["12290"],
     ["bopomofo", "han", "hangul", "hiragana", "katakana", "mongolian", "phagspa", "yi"]),
   (["12291 15 8:4 16 6 52749:2"],
     ["bopomofo", "han", "hangul", "hiragana", "katakana"]),
   (["12294 55:2 336:16 32:38 58:40 56:49 15:12 51 88:25 10:5 96:31 106337:18 7902:2"],
     ["han"]),
   (["12296:2"],
     ["bopomofo", "han", "hangul", "hiragana", "katakana", "mongolian", "tibetan", "yi"]),
   (["12298:2"],
     ["bopomofo", "han", "hangul", "hiragana", "katakana", "lisu", "mongolian", "tibetan", "yi"]),
   (["12300:6 2:8 223 52837:5"],
     ["bopomofo", "han", "hangul", "hiragana", "katakana", "yi"]),
   (["12330:4"],
     ["bopomofo", "han"]),
   (["12337:5 99:4 3 91 52851 45:2"],
     ["hiragana", "katakana"]),
   (["12348:2"],
     ["han", "hiragana", "katakana"]),
   (["42752:8"],
     ["han", "latin"]),
   (["43056:3"],
     ["devanagari", "dogra", "gujarati", "gurmukhi", "kaithi", "kannada", "khojki", "khudawadi",
      "mahajani", "malayalam", "modi", "nandinagari", "sharada", "takri", "tirhuta",
      "tulutigalari"]),
   (["43059:3"],
     ["devanagari", "dogra", "gujarati", "gurmukhi", "kaithi", "kannada", "khojki", "khudawadi",
      "mahajani", "modi", "nandinagari", "sharada", "takri", "tirhuta", "tulutigalari"]),
   (["43062:2 1"],
     ["devanagari", "dogra", "gujarati", "gurmukhi", "kaithi", "khojki", "khudawadi", "mahajani",
      "modi", "takri", "tirhuta"]),
   (["43064"],
     ["devanagari", "dogra", "gujarati", "gurmukhi", "kaithi", "khojki", "khudawadi", "mahajani",
      "modi", "sharada", "takri", "tirhuta"]),
   (["43249"],
     ["bengali", "devanagari", "tulutigalari"]),
   (["43251"],
     ["devanagari", "tamil"]),
   (["43310"],
     ["kayahli", "latin", "myanmar"]),
   (["43471"],
     ["buginese", "javanese"]),
   (["64830:2"],
     ["arabic", "nko"]),
   (["65010 10"],
     ["arabic", "thaana"]),
   (["65792:2"],
     ["cypriot", "cyprominoan", "linearb"]),
   (["65794 52:9"],
     ["cypriot", "linearb"]),
   (["65799:45"],
     ["cypriot", "lineara", "linearb"]),
   (["66272:28"],
     ["arabic", "coptic"]),
   (["68338"],
     ["manichaean", "olduyghur"])]

end Logbook.Text
