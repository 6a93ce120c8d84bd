import Logbook.Pattern.CharSet
import Logbook.Text.AgeTable
import Logbook.Text.BreakTable
import Logbook.Text.ScriptTable
import Logbook.Text.SharedTable

/-!
# Properties by name

The sets of characters that are named between braces, alone or as the value of a property. Small
letters and capitals are the same there, and spaces, hyphens, underscores and an initial `is` do
not count.

* `looseName`: a name without what does not count;
* `CharSet.ofCategory?`, `ofScript?`, `ofShared?`, `ofAge?`, `ofCluster?`, `ofWord?`, `ofSentence?`:
  the values of properties;
* `CharSet.ofProperty?`: properties that a character has or has not;
* **`CharSet.ofName?`**, **`CharSet.ofValue?`**: what is written between the braces.
-/

namespace Logbook

/-- A name without what does not count. The name `isc` is kept whole. -/
def looseName (cs : List Char) : String :=
  let (marked, rest) : Bool × List Char := match cs with
    | i :: s :: rest => if i.toLower = 'i' ∧ s.toLower = 's' then (true, rest) else (false, cs)
    | _ => (false, cs)
  let kept := rest.filter fun c => c.toNat < 0x80 && c != ' ' && c != '_' && c != '-'
  let name := String.ofList (kept.map Char.toLower)
  if marked && name == "c" then "isc" else name

namespace CharSet

/-! ## Categories, scripts and ages -/

/-- The two-letter categories of a category name. Characters without a category of their own are
left out: there are none in a text. -/
def categoriesOf? (name : String) : Option (List String) :=
  match name with
  | "lu" | "uppercaseletter" => some ["Lu"]
  | "ll" | "lowercaseletter" => some ["Ll"]
  | "lt" | "titlecaseletter" => some ["Lt"]
  | "lm" | "modifierletter" => some ["Lm"]
  | "lo" | "otherletter" => some ["Lo"]
  | "lc" | "casedletter" => some ["Lu", "Ll", "Lt"]
  | "l" | "letter" => some letters
  | "mn" | "nonspacingmark" => some ["Mn"]
  | "mc" | "spacingmark" => some ["Mc"]
  | "me" | "enclosingmark" => some ["Me"]
  | "m" | "mark" | "combiningmark" => some ["Mn", "Mc", "Me"]
  | "nd" | "decimalnumber" | "digit" => some ["Nd"]
  | "nl" | "letternumber" => some ["Nl"]
  | "no" | "othernumber" => some ["No"]
  | "n" | "number" => some ["Nd", "Nl", "No"]
  | "pc" | "connectorpunctuation" => some ["Pc"]
  | "pd" | "dashpunctuation" => some ["Pd"]
  | "ps" | "openpunctuation" => some ["Ps"]
  | "pe" | "closepunctuation" => some ["Pe"]
  | "pi" | "initialpunctuation" => some ["Pi"]
  | "pf" | "finalpunctuation" => some ["Pf"]
  | "po" | "otherpunctuation" => some ["Po"]
  | "p" | "punctuation" | "punct" => some ["Pc", "Pd", "Ps", "Pe", "Pi", "Pf", "Po"]
  | "sm" | "mathsymbol" => some ["Sm"]
  | "sc" | "currencysymbol" => some ["Sc"]
  | "sk" | "modifiersymbol" => some ["Sk"]
  | "so" | "othersymbol" => some ["So"]
  | "s" | "symbol" => some ["Sm", "Sc", "Sk", "So"]
  | "zs" | "spaceseparator" => some ["Zs"]
  | "zl" | "lineseparator" => some ["Zl"]
  | "zp" | "paragraphseparator" => some ["Zp"]
  | "z" | "separator" => some ["Zs", "Zl", "Zp"]
  | "cc" | "control" | "cntrl" => some ["Cc"]
  | "cf" | "format" => some ["Cf"]
  | "co" | "privateuse" => some ["Co"]
  | "cn" | "unassigned" => some ["Cn"]
  | "c" | "other" => some ["Cc", "Cf", "Co", "Cn"]
  | _ => none

/-- The characters of a general category or of a group of them. -/
def ofCategory? (name : String) : Option CharSet :=
  match name with
  | "any" => some all
  | "ascii" => some ⟨[(0, 0x7F)]⟩
  | "assigned" => some (made ["Cn"] []).compl
  | _ => (categoriesOf? name).map fun names => made names []

/-- The full name of a script. -/
def scriptName (name : String) : String :=
  ((Text.scriptCodes.find? fun p => p.1 == name).map Prod.snd).getD name

/-- The characters of a script. -/
def ofScript? (name : String) : Option CharSet :=
  (Text.scriptTable.runs? (scriptName name)).map ofRuns

/-- The characters that are used with a script. -/
def ofShared? (name : String) : Option CharSet :=
  (ofScript? name).map fun own =>
    let shared := ofRuns (Text.sharedTable.flatMap fun e => Text.readRuns e.1)
    let used := Text.sharedTable.filter fun e => e.2.contains (scriptName name)
    (own.diff shared).union (ofRuns (used.flatMap fun e => Text.readRuns e.1))

/-- The characters that were there in a version, written as `3.1` or as `v31`. -/
def ofAge? (name : String) : Option CharSet :=
  let isVersion := fun e : String × List String =>
    e.1 == name || "v" ++ String.ofList (e.1.toList.filter Char.isDigit) == name
  (Text.ageTable.findIdx? isVersion).map fun i =>
    ofRuns ((Text.ageTable.take (i + 1)).flatMap fun e => Text.readRuns e.2)

/-! ## Properties that a character has or has not -/

/-- Other names of properties. -/
def propertyCodes : List (String × String) :=
  [("ahex", "asciihexdigit"), ("alpha", "alphabetic"), ("bidic", "bidicontrol"),
   ("ci", "caseignorable"), ("cwcf", "changeswhencasefolded"), ("cwcm", "changeswhencasemapped"),
   ("cwl", "changeswhenlowercased"), ("cwt", "changeswhentitlecased"),
   ("cwu", "changeswhenuppercased"), ("dep", "deprecated"), ("di", "defaultignorablecodepoint"),
   ("dia", "diacritic"), ("ebase", "emojimodifierbase"), ("ecomp", "emojicomponent"),
   ("emod", "emojimodifier"), ("epres", "emojipresentation"), ("ext", "extender"),
   ("extpict", "extendedpictographic"), ("grbase", "graphemebase"), ("grext", "graphemeextend"),
   ("grlink", "graphemelink"), ("hex", "hexdigit"), ("idc", "idcontinue"), ("ideo", "ideographic"),
   ("ids", "idstart"), ("idsb", "idsbinaryoperator"), ("idst", "idstrinaryoperator"),
   ("idsu", "idsunaryoperator"), ("joinc", "joincontrol"), ("loe", "logicalorderexception"),
   ("lower", "lowercase"), ("mcm", "modifiercombiningmark"),
   ("nchar", "noncharactercodepoint"), ("oalpha", "otheralphabetic"),
   ("odi", "otherdefaultignorablecodepoint"), ("ogrext", "othergraphemeextend"),
   ("oidc", "otheridcontinue"), ("oids", "otheridstart"), ("olower", "otherlowercase"),
   ("omath", "othermath"), ("oupper", "otheruppercase"), ("patsyn", "patternsyntax"),
   ("patws", "patternwhitespace"), ("pcm", "prependedconcatenationmark"),
   ("qmark", "quotationmark"), ("ri", "regionalindicator"), ("sd", "softdotted"),
   ("space", "whitespace"), ("sterm", "sentenceterminal"), ("term", "terminalpunctuation"),
   ("uideo", "unifiedideograph"), ("upper", "uppercase"), ("vs", "variationselector"),
   ("wspace", "whitespace"), ("xidc", "xidcontinue"), ("xids", "xidstart")]

/-- The full name of a property. -/
def propertyName (name : String) : String :=
  ((propertyCodes.find? fun p => p.1 == name).map Prod.snd).getD name

/-- The runs of the characters that are no part of a name once they are put into normal form. -/
def unstableRuns : List (Nat × Nat) :=
  [(0x37A, 0x37A), (0x309B, 0x309C), (0xFC5E, 0xFC63), (0xFDFA, 0xFDFB), (0xFE70, 0xFE70),
   (0xFE72, 0xFE72), (0xFE74, 0xFE74), (0xFE76, 0xFE76), (0xFE78, 0xFE78), (0xFE7A, 0xFE7A),
   (0xFE7C, 0xFE7C), (0xFE7E, 0xFE7E)]

/-- The runs of the characters that have a capital and are title letters all the same. -/
def titleRuns : List (Nat × Nat) :=
  [(0x1C5, 0x1C5), (0x1C8, 0x1C8), (0x1CB, 0x1CB), (0x1F2, 0x1F2), (0x10D0, 0x10FA),
   (0x10FD, 0x10FF), (0x1F88, 0x1F8F), (0x1F98, 0x1F9F), (0x1FA8, 0x1FAF), (0x1FBC, 0x1FBC),
   (0x1FCC, 0x1FCC), (0x1FFC, 0x1FFC)]

/-- The runs of the characters that have no small letter and that folding changes all the same. -/
def foldedRuns : List (Nat × Nat) :=
  [(0xB5, 0xB5), (0xDF, 0xDF), (0x149, 0x149), (0x17F, 0x17F), (0x345, 0x345), (0x3C2, 0x3C2),
   (0x3D0, 0x3D1), (0x3D5, 0x3D6), (0x3F0, 0x3F1), (0x3F5, 0x3F5), (0x587, 0x587),
   (0x13F8, 0x13FD), (0x1C80, 0x1C88), (0x1E9A, 0x1E9B), (0x1F80, 0x1F87), (0x1F90, 0x1F97),
   (0x1FA0, 0x1FA7), (0x1FB2, 0x1FB4), (0x1FB7, 0x1FB7), (0x1FC2, 0x1FC4), (0x1FC7, 0x1FC7),
   (0x1FF2, 0x1FF4), (0x1FF7, 0x1FF7), (0xAB70, 0xABBF), (0xFB00, 0xFB06), (0xFB13, 0xFB17)]

/-- The characters of some categories and tabled properties that may be in names: none that are
kept for patterns, and none of `runs`. -/
def nameChars (categories properties : List String) (runs : List (Nat × Nat)) : CharSet :=
  (made categories properties).diff <|
    (made [] ["patternsyntax", "patternwhitespace"]).union (ofRuns runs)

/-- The properties that are put together from categories and from other properties. -/
def derivedProperty? (name : String) : Option CharSet :=
  let starting := letters ++ ["Nl"]
  let continuing := letters ++ ["Nl", "Mn", "Mc", "Nd", "Pc"]
  match name with
  | "lowercase" => some (made ["Ll"] ["otherlowercase"])
  | "uppercase" => some (made ["Lu"] ["otheruppercase"])
  | "cased" => some (made ["Lu", "Ll", "Lt"] ["otherlowercase", "otheruppercase"])
  | "alphabetic" => some (made starting otherAlphabetic)
  | "math" => some (made ["Sm"] ["othermath"])
  | "caseignorable" => some <| (made ["Mn", "Me", "Cf", "Lm", "Sk"] []).union <|
      ofRuns (["midletter", "midnumlet", "singlequote"].flatMap Text.wordTable.runs)
  | "idstart" => some (nameChars starting ["otheridstart"] [])
  | "xidstart" => some <| nameChars starting ["otheridstart"]
      ([(0xE33, 0xE33), (0xEB3, 0xEB3), (0xFF9E, 0xFF9F)] ++ unstableRuns)
  | "idcontinue" => some (nameChars continuing ["otheridstart", "otheridcontinue"] [])
  | "xidcontinue" => some (nameChars continuing ["otheridstart", "otheridcontinue"] unstableRuns)
  | "graphemeextend" => some (made ["Mn", "Me"] ["othergraphemeextend"])
  | "graphemebase" => some <| compl <|
      made ["Cc", "Cf", "Cs", "Co", "Cn", "Zl", "Zp", "Mn", "Me"] ["othergraphemeextend"]
  | "defaultignorablecodepoint" => some <|
      (made ["Cf"] ["otherdefaultignorablecodepoint", "variationselector"]).diff <|
        (made [] ["whitespace", "prependedconcatenationmark"]).union
          ⟨[(0xFFF9, 0xFFFB), (0x13430, 0x13440)]⟩
  | "changeswhentitlecased" => some <|
      ((made [] ["changeswhenuppercased"]).diff (ofRuns titleRuns)).union
        ⟨[(0x1C4, 0x1C4), (0x1C7, 0x1C7), (0x1CA, 0x1CA), (0x1F1, 0x1F1)]⟩
  | "changeswhencasefolded" => some <|
      ((made [] ["changeswhenlowercased"]).diff ⟨[(0x13A0, 0x13F5)]⟩).union (ofRuns foldedRuns)
  | "changeswhencasemapped" => some <|
      made [] ["changeswhenlowercased", "changeswhenuppercased"]
  | _ => none

/-- The characters with a property. -/
def ofProperty? (name : String) : Option CharSet :=
  let name := propertyName name
  match derivedProperty? name with
  | some s => some s
  | none => (Text.propertyTable.runs? name).map ofRuns

/-! ## Parts in clusters, words and sentences -/

/-- The characters that play a part in clusters. -/
def ofCluster? (name : String) : Option CharSet :=
  let syllables := (List.range 399).map fun k => 0xAC00 + 28 * k
  match name with
  | "ex" | "extend" => some (made ["Mn", "Me"] ["othergraphemeextend", "emojimodifier"])
  | "ri" | "regionalindicator" => some (made [] ["regionalindicator"])
  | "lv" => some ⟨syllables.map fun n => (n, n)⟩
  | "lvt" => some ⟨syllables.map fun n => (n + 1, n + 27)⟩
  | "cn" => ofTable "control"
  | "pp" => ofTable "prepend"
  | "sm" => ofTable "spacingmark"
  | _ => ofTable name
where
  /-- A part that has a table. -/
  ofTable (name : String) : Option CharSet := (Text.clusterTable.runs? name).map ofRuns

/-- The characters that play a part between words. -/
def ofWord? (name : String) : Option CharSet :=
  match name with
  | "extend" => some (made ["Mn", "Me", "Mc"] ["othergraphemeextend", "emojimodifier"])
  | "ri" | "regionalindicator" => some (made [] ["regionalindicator"])
  | "le" => ofTable "aletter"
  | "dq" => ofTable "doublequote"
  | "ex" => ofTable "extendnumlet"
  | "fo" => ofTable "format"
  | "hl" => ofTable "hebrewletter"
  | "ka" => ofTable "katakana"
  | "ml" => ofTable "midletter"
  | "mn" => ofTable "midnum"
  | "mb" => ofTable "midnumlet"
  | "nl" => ofTable "newline"
  | "nu" => ofTable "numeric"
  | "sq" => ofTable "singlequote"
  | _ => ofTable name
where
  /-- A part that has a table. -/
  ofTable (name : String) : Option CharSet := (Text.wordTable.runs? name).map ofRuns

/-- The characters that play a part between sentences. -/
def ofSentence? (name : String) : Option CharSet :=
  let extend := made ["Mn", "Me", "Mc"] ["othergraphemeextend", "joincontrol"]
  let lower := ((made ["Ll"] ["otherlowercase"]).diff extend).diff
    ⟨[(0x10D0, 0x10FA), (0x10FD, 0x10FF)]⟩
  let upper := (made ["Lu", "Lt"] ["otheruppercase"]).diff ⟨[(0x1C90, 0x1CBF)]⟩
  match name with
  | "lo" | "lower" => some lower
  | "up" | "upper" => some upper
  | "ex" | "extend" => some extend
  | "le" | "oletter" => some <|
      ((made (letters ++ ["Nl"]) otherAlphabetic).union ⟨[(0x5F3, 0x5F3)]⟩).diff
        (lower.union (upper.union extend))
  | "at" => ofTable "aterm"
  | "cl" => ofTable "close"
  | "fo" => ofTable "format"
  | "nu" => ofTable "numeric"
  | "sc" => ofTable "scontinue"
  | "se" => ofTable "sep"
  | "st" => ofTable "sterm"
  | _ => ofTable name
where
  /-- A part that has a table. -/
  ofTable (name : String) : Option CharSet := (Text.sentenceTable.runs? name).map ofRuns

/-! ## Names -/

/-- **The set of a name that stands alone**: a property, a category or a script. -/
def ofName? (name : List Char) : Option CharSet :=
  let name := looseName name
  (ofProperty? name).or ((ofCategory? name).or (ofScript? name))

/-- **The set of the value of a property.** -/
def ofValue? (property value : List Char) : Option CharSet :=
  let value := looseName value
  match looseName property with
  | "gc" | "generalcategory" => ofCategory? value
  | "sc" | "script" => ofScript? value
  | "scx" | "scriptextensions" => ofShared? value
  | "age" => ofAge? value
  | "gcb" | "graphemeclusterbreak" => ofCluster? value
  | "wb" | "wordbreak" => ofWord? value
  | "sb" | "sentencebreak" => ofSentence? value
  | _ => none

end CharSet

end Logbook
