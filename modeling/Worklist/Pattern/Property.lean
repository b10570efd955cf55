import Worklist.Pattern.CharSet
import Worklist.Text.Age.Table
import Worklist.Text.Category.Table
import Worklist.Text.Property.Table
import Worklist.Text.Script.Table

/-!
# Sets of characters with a property

The classes that patterns know by a letter or by a name: general categories, scripts, ages and the
properties that a character has or has not. They are those of version 16 of the character standard.
Names are compared without regard to case, blanks, hyphens, underscores and a leading "is".
-/

namespace Worklist.Pattern

namespace CharSet

open Text.Category Text.Property

/-- The characters of any of several tables. -/
def ofTables (ts : List Text.CharTable) : CharSet :=
  unions (ts.map .table)

/-! ### General categories -/

/-- Letters with two cases. -/
def casedLetter : CharSet :=
  ofTables [uppercaseLetter, lowercaseLetter, titlecaseLetter]

/-- Letters. -/
def letter : CharSet :=
  .union casedLetter (ofTables [modifierLetter, otherLetter])

/-- Marks. -/
def mark : CharSet :=
  ofTables [nonspacingMark, spacingMark, enclosingMark]

/-- Numbers. -/
def number : CharSet :=
  ofTables [decimalNumber, letterNumber, otherNumber]

/-- Punctuation. -/
def punctuation : CharSet :=
  ofTables [connectorPunctuation, dashPunctuation, openPunctuation, closePunctuation,
    initialPunctuation, finalPunctuation, otherPunctuation]

/-- Symbols. -/
def symbol : CharSet :=
  ofTables [mathSymbol, currencySymbol, modifierSymbol, otherSymbol]

/-- Separators. -/
def separator : CharSet :=
  ofTables [spaceSeparator, lineSeparator, paragraphSeparator]

/-- Characters that have a category. -/
def assigned : CharSet :=
  unions [letter, mark, number, punctuation, symbol, separator,
    ofTables [control, format, privateUse]]

/-- The characters below 128. -/
def ascii : CharSet :=
  .range '\x00' '\x7f'

/-! ### Properties -/

/-- Characters in lower case. -/
def lowercase : CharSet :=
  ofTables [lowercaseLetter, otherLowercase]

/-- Characters in upper case. -/
def uppercase : CharSet :=
  ofTables [uppercaseLetter, otherUppercase]

/-- Characters of which words are written. -/
def alphabetic : CharSet :=
  unions [letter, .table letterNumber,
    ofTables [otherLowercase, otherUppercase, otherAlphabetic]]

/-- Decimal digits. -/
def digit : CharSet :=
  .table decimalNumber

/-- Characters of words. -/
def word : CharSet :=
  unions [alphabetic, mark, ofTables [decimalNumber, connectorPunctuation, joinControl]]

/-- Characters of words of any script if `wide`, and of basic letters only otherwise. -/
def wordOf (wide : Bool) : CharSet :=
  if wide then word else .inter ascii word

/-- Characters that extend the grapheme before them. -/
def graphemeExtend : CharSet :=
  ofTables [nonspacingMark, enclosingMark, otherGraphemeExtend]

/-- Characters that start a grapheme. -/
def graphemeBase : CharSet :=
  unions [letter, number, punctuation, symbol, ofTables [spacingMark, spaceSeparator]]
    |>.diff graphemeExtend

/-- Characters that show nothing by default. -/
def defaultIgnorable : CharSet :=
  let steering := ofTables [format, variationSelector]
  let shown := unions [.range '\ufff9' '\ufffb', .range (Char.ofNat 0x13430) (Char.ofNat 0x13440),
    .table prependedConcatenationMark]
  .union (steering.diff shown) (.table otherDefaultIgnorable)

/-- Characters that case looks through. -/
def caseIgnorable : CharSet :=
  ofTables [nonspacingMark, enclosingMark, format, modifierLetter, modifierSymbol, wordInternal]

/-- Characters that change in lower case. -/
def changesWhenLowercased : CharSet :=
  uppercase.symDiff (.table unstableUppercase)

/-- Characters that change when case is ignored. -/
def changesWhenCasefolded : CharSet :=
  changesWhenLowercased.symDiff (.table unevenFold)

/-- Characters that change in upper case. -/
def changesWhenUppercased : CharSet :=
  symDiff (.table lowercaseLetter) (.table unstableLowercase)

/-- Characters that change in title case. -/
def changesWhenTitlecased : CharSet :=
  changesWhenUppercased.symDiff (.table unevenTitle)

/-- Characters that start a name. -/
def idStart : CharSet :=
  (unions [letter, ofTables [letterNumber, otherIdStart]]).diff
    (ofTables [patternSyntax, patternWhiteSpace])

/-- Characters that stand in a name. -/
def idContinue : CharSet :=
  (unions [idStart, ofTables [nonspacingMark, spacingMark, decimalNumber, connectorPunctuation,
    otherIdContinue]]).diff (ofTables [patternSyntax, patternWhiteSpace])

/-- Digits of base sixteen in basic letters. -/
def asciiHexDigit : CharSet :=
  ranges [('0', '9'), ('A', 'F'), ('a', 'f')]

/-- Digits of base sixteen. -/
def hexDigit : CharSet :=
  .union asciiHexDigit (ranges [('\uff10', '\uff19'), ('\uff21', '\uff26'), ('\uff41', '\uff46')])

end CharSet

open CharSet Text.Category Text.Property

/-! ### Names -/

/-- The general categories by name. -/
def categoryNames : List (List String × CharSet) :=
  [(["any"], .every), (["assigned"], assigned), (["ascii"], ascii),
    (["other", "c"], unions [ofTables [control, format, privateUse], .compl assigned]),
    (["control", "cc", "cntrl"], .table control), (["format", "cf"], .table format),
    (["unassigned", "cn"], .compl assigned), (["privateuse", "co"], .table privateUse),
    (["letter", "l"], letter), (["casedletter", "lc"], casedLetter),
    (["lowercaseletter", "ll"], .table lowercaseLetter),
    (["modifierletter", "lm"], .table modifierLetter), (["otherletter", "lo"], .table otherLetter),
    (["titlecaseletter", "lt"], .table titlecaseLetter),
    (["uppercaseletter", "lu"], .table uppercaseLetter),
    (["mark", "m", "combiningmark"], mark), (["spacingmark", "mc"], .table spacingMark),
    (["enclosingmark", "me"], .table enclosingMark),
    (["nonspacingmark", "mn"], .table nonspacingMark),
    (["number", "n"], number), (["decimalnumber", "nd", "digit"], .table decimalNumber),
    (["letternumber", "nl"], .table letterNumber), (["othernumber", "no"], .table otherNumber),
    (["punctuation", "p", "punct"], punctuation),
    (["connectorpunctuation", "pc"], .table connectorPunctuation),
    (["dashpunctuation", "pd"], .table dashPunctuation),
    (["closepunctuation", "pe"], .table closePunctuation),
    (["finalpunctuation", "pf"], .table finalPunctuation),
    (["initialpunctuation", "pi"], .table initialPunctuation),
    (["otherpunctuation", "po"], .table otherPunctuation),
    (["openpunctuation", "ps"], .table openPunctuation),
    (["symbol", "s"], symbol), (["currencysymbol", "sc"], .table currencySymbol),
    (["modifiersymbol", "sk"], .table modifierSymbol), (["mathsymbol", "sm"], .table mathSymbol),
    (["othersymbol", "so"], .table otherSymbol),
    (["separator", "z"], separator), (["lineseparator", "zl"], .table lineSeparator),
    (["paragraphseparator", "zp"], .table paragraphSeparator),
    (["spaceseparator", "zs"], .table spaceSeparator)]

/-- The properties by name. -/
def propertyNames : List (List String × CharSet) :=
  [(["asciihexdigit", "ahex"], asciiHexDigit), (["alphabetic", "alpha"], alphabetic),
    (["bidicontrol", "bidic"], .table bidiControl), (["caseignorable", "ci"], caseIgnorable),
    (["cased"], unions [lowercase, uppercase, .table titlecaseLetter]),
    (["changeswhencasefolded", "cwcf"], changesWhenCasefolded),
    (["changeswhencasemapped", "cwcm"],
      unions [changesWhenLowercased, changesWhenUppercased, changesWhenTitlecased]),
    (["changeswhenlowercased", "cwl"], changesWhenLowercased),
    (["changeswhentitlecased", "cwt"], changesWhenTitlecased),
    (["changeswhenuppercased", "cwu"], changesWhenUppercased), (["dash"], .table dash),
    (["defaultignorablecodepoint", "di"], defaultIgnorable),
    (["deprecated", "dep"], .table deprecated), (["diacritic", "dia"], .table diacritic),
    (["emoji"], .table emoji), (["emojicomponent", "ecomp"], .table emojiComponent),
    (["emojimodifier", "emod"], .table emojiModifier),
    (["emojimodifierbase", "ebase"], .table emojiModifierBase),
    (["emojipresentation", "epres"], .table emojiPresentation),
    (["extendedpictographic", "extpict"], .table extendedPictographic),
    (["extender", "ext"], .table extender), (["graphemebase", "grbase"], graphemeBase),
    (["graphemeextend", "grext"], graphemeExtend),
    (["graphemelink", "grlink"], .table graphemeLink), (["hexdigit", "hex"], hexDigit),
    (["hyphen"], .table hyphen), (["idcontinue", "idc"], idContinue),
    (["idstart", "ids"], idStart), (["ideographic", "ideo"], .table ideographic),
    (["idsunaryoperator", "idsu"], .table idsUnaryOperator),
    (["idsbinaryoperator", "idsb"], .table idsBinaryOperator),
    (["idstrinaryoperator", "idst"], .table idsTrinaryOperator),
    (["idcompatmathstart"], .table mathStart),
    (["idcompatmathcontinue"], ofTables [mathStart, mathContinue]),
    (["joincontrol", "joinc"], .table joinControl),
    (["logicalorderexception", "loe"], .table logicalOrderException),
    (["lowercase", "lower"], lowercase), (["math"], ofTables [mathSymbol, otherMath]),
    (["modifiercombiningmark", "mcm"], .table modifierCombiningMark),
    (["noncharactercodepoint", "nchar"], .table noncharacter),
    (["otheralphabetic", "oalpha"], .table otherAlphabetic),
    (["otherdefaultignorablecodepoint", "odi"], .table otherDefaultIgnorable),
    (["othergraphemeextend", "ogrext"], .table otherGraphemeExtend),
    (["otheridcontinue", "oidc"], .table otherIdContinue),
    (["otheridstart", "oids"], .table otherIdStart),
    (["otherlowercase", "olower"], .table otherLowercase),
    (["othermath", "omath"], .table otherMath),
    (["otheruppercase", "oupper"], .table otherUppercase),
    (["patternsyntax", "patsyn"], .table patternSyntax),
    (["patternwhitespace", "patws"], .table patternWhiteSpace),
    (["prependedconcatenationmark", "pcm"], .table prependedConcatenationMark),
    (["quotationmark", "qmark"], .table quotationMark), (["radical"], .table radical),
    (["regionalindicator", "ri"], .table regionalIndicator),
    (["sentenceterminal", "sterm"], .table sentenceTerminal),
    (["softdotted", "sd"], .table softDotted),
    (["terminalpunctuation", "term"], .table terminalPunctuation),
    (["unifiedideograph", "uideo"], .table unifiedIdeograph),
    (["uppercase", "upper"], uppercase), (["variationselector", "vs"], .table variationSelector),
    (["whitespace", "wspace", "space"], .blank),
    (["xidcontinue", "xidc"], idContinue.diff (.table idContinueExceptions)),
    (["xidstart", "xids"], idStart.diff (.table idStartExceptions))]

/-- The entry of a list that goes by a name. -/
def named? (name : List Char) (entries : List (List String × CharSet)) : Option CharSet :=
  (entries.find? fun (names, _) => names.any (·.toList == name)).map (·.2)

/-- A name as it is compared: basic characters in small letters, without the gaps. -/
def looseName (cs : List Char) : List Char :=
  let is := (cs.take 2).map Char.toLower = ['i', 's']
  let rest := if is then cs.drop 2 else cs
  let kept := rest.filter fun c => c.toNat < 0x80 && c != ' ' && c != '_' && c != '-'
  let name := kept.map Char.toLower
  if is && name = ['c'] then ['i', 's', 'c'] else name

/-- The characters of a general category. -/
def category? (name : List Char) : Option CharSet :=
  named? name categoryNames

/-- The characters that belong to a script. -/
def script? (name : List Char) : Option CharSet :=
  named? name (Text.scripts.map fun s => (s.names, .table s.own))

/-- The characters that are used with a script. -/
def scriptUse? (name : List Char) : Option CharSet :=
  named? name (Text.scripts.map fun s => (s.names, symDiff (.table s.own) (.table s.shared)))

/-- The characters of the versions of the standard up to the one with the given number, which may
have a letter in front and no point. -/
def age? (number : List Char) : Option CharSet :=
  let isNamed := fun (version : String × Text.CharTable) =>
    version.1.toList = number ∨ 'v' :: version.1.toList.filter (· != '.') = number
  if Text.Age.additions.any isNamed then
    let (before, rest) := Text.Age.additions.span (!isNamed ·)
    some (ofTables ((before ++ rest.take 1).map (·.2)))
  else Option.none

/-- The characters with a property that goes by one name. -/
def property? (name : List Char) : Option CharSet :=
  let name := looseName name
  (named? name propertyNames).or ((category? name).or (script? name))

/-- The characters for which a property has a value. -/
def propertyValue? (name value : List Char) : Option CharSet :=
  let name := String.ofList (looseName name)
  let value := looseName value
  if name = "generalcategory" ∨ name = "gc" then category? value
  else if name = "script" ∨ name = "sc" then script? value
  else if name = "scriptextensions" ∨ name = "scx" then scriptUse? value
  else if name = "age" then age? value
  else Option.none

end Worklist.Pattern
