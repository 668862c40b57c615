import SecureSockets.Unicode.Property.Table
import SecureSockets.Unicode.Category
import SecureSockets.Unicode.Script

namespace SecureSockets.Unicode

/-!
Properties of characters, and the names they are asked for by.  Names are compared
without regard to letter case, blanks, hyphens, low lines and a leading `is`.
-/

inductive Property where
  | any
  | ascii
  | assigned
  | category (members : List Category)
  | script (number : Nat)
  | scriptExtension (number : Nat)
  | binary (rows : List Row)

namespace Property

def contains : Property → Char → Bool
  | any, _ => true
  | ascii, c => decide (c.toNat < 128)
  | assigned, c => Category.of c != .unassigned
  | category members, c => members.contains (Category.of c)
  | script number, c => Script.contains number c
  | scriptExtension number, c => Script.extensionContains number c
  | binary rows, c => Unicode.contains rows c.toNat

def isAlphabetic (c : Char) : Bool :=
  Unicode.contains alphabetic c.toNat

def isBlank (c : Char) : Bool :=
  Unicode.contains whiteSpace c.toNat

def isGraphemeExtend (c : Char) : Bool :=
  Unicode.contains graphemeExtend c.toNat

/-- Letters, marks, decimal digits, connectors and joiners: the characters of words. -/
def isWord (c : Char) : Bool :=
  isAlphabetic c || (Category.of c).isMark || Category.of c == .decimalNumber ||
    Category.of c == .connectorPunctuation || Unicode.contains joinControl c.toNat

def isDigit (c : Char) : Bool :=
  Category.of c == .decimalNumber

/-- The form in which names are compared.  The general category `C` is the one name
that would be lost with its leading `is`. -/
def normalName (name : List Char) : List Char :=
  let startsWithIs := match name with
    | a :: b :: _ => a.toLower == 'i' && b.toLower == 's'
    | _ => false
  let kept := ((if startsWithIs then name.drop 2 else name).filter fun c =>
    decide (c.toNat < 128) && c != ' ' && c != '_' && c != '-').map Char.toLower
  if startsWithIs && kept == ['c'] then ['i', 's', 'c'] else kept

def categoryNames : List (List String × List Category) :=
  [(["c", "other"], Category.all.filter Category.isOther),
    (["cc", "control", "cntrl"], [.control]),
    (["cf", "format"], [.format]),
    (["cn", "unassigned"], [.unassigned]),
    (["co", "privateuse"], [.privateUse]),
    (["l", "letter"], Category.all.filter Category.isLetter),
    (["lc", "casedletter"], Category.all.filter Category.isCasedLetter),
    (["ll", "lowercaseletter"], [.lowercaseLetter]),
    (["lm", "modifierletter"], [.modifierLetter]),
    (["lo", "otherletter"], [.otherLetter]),
    (["lt", "titlecaseletter"], [.titlecaseLetter]),
    (["lu", "uppercaseletter"], [.uppercaseLetter]),
    (["m", "mark", "combiningmark"], Category.all.filter Category.isMark),
    (["mc", "spacingmark"], [.spacingMark]),
    (["me", "enclosingmark"], [.enclosingMark]),
    (["mn", "nonspacingmark"], [.nonspacingMark]),
    (["n", "number"], Category.all.filter Category.isNumber),
    (["nd", "decimalnumber", "digit"], [.decimalNumber]),
    (["nl", "letternumber"], [.letterNumber]),
    (["no", "othernumber"], [.otherNumber]),
    (["p", "punctuation", "punct"], Category.all.filter Category.isPunctuation),
    (["pc", "connectorpunctuation"], [.connectorPunctuation]),
    (["pd", "dashpunctuation"], [.dashPunctuation]),
    (["pe", "closepunctuation"], [.closePunctuation]),
    (["pf", "finalpunctuation"], [.finalPunctuation]),
    (["pi", "initialpunctuation"], [.initialPunctuation]),
    (["po", "otherpunctuation"], [.otherPunctuation]),
    (["ps", "openpunctuation"], [.openPunctuation]),
    (["s", "symbol"], Category.all.filter Category.isSymbol),
    (["sc", "currencysymbol"], [.currencySymbol]),
    (["sk", "modifiersymbol"], [.modifierSymbol]),
    (["sm", "mathsymbol"], [.mathSymbol]),
    (["so", "othersymbol"], [.otherSymbol]),
    (["z", "separator"], Category.all.filter Category.isSeparator),
    (["zl", "lineseparator"], [.lineSeparator]),
    (["zp", "paragraphseparator"], [.paragraphSeparator]),
    (["zs", "spaceseparator"], [.spaceSeparator])]

def binaryNames : List (List String × List Row) :=
  [(["ahex", "asciihexdigit"], asciiHexDigit),
    (["alpha", "alphabetic"], alphabetic),
    (["bidic", "bidicontrol"], bidiControl),
    (["bidim", "bidimirrored"], bidiMirrored),
    (["ci", "caseignorable"], caseIgnorable),
    (["cased"], cased),
    (["cwcf", "changeswhencasefolded"], changesWhenCasefolded),
    (["cwcm", "changeswhencasemapped"], changesWhenCasemapped),
    (["cwl", "changeswhenlowercased"], changesWhenLowercased),
    (["cwt", "changeswhentitlecased"], changesWhenTitlecased),
    (["cwu", "changeswhenuppercased"], changesWhenUppercased),
    (["dash"], dash),
    (["di", "defaultignorablecodepoint"], defaultIgnorableCodePoint),
    (["dep", "deprecated"], deprecated),
    (["dia", "diacritic"], diacritic),
    (["emoji"], emoji),
    (["ecomp", "emojicomponent"], emojiComponent),
    (["emod", "emojimodifier"], emojiModifier),
    (["ebase", "emojimodifierbase"], emojiModifierBase),
    (["epres", "emojipresentation"], emojiPresentation),
    (["extpict", "extendedpictographic"], extendedPictographic),
    (["ext", "extender"], extender),
    (["grbase", "graphemebase"], graphemeBase),
    (["grext", "graphemeextend"], graphemeExtend),
    (["hex", "hexdigit"], hexDigit),
    (["idsb", "idsbinaryoperator"], idsBinaryOperator),
    (["idst", "idstrinaryoperator"], idsTrinaryOperator),
    (["idc", "idcontinue"], idContinue),
    (["ids", "idstart"], idStart),
    (["ideo", "ideographic"], ideographic),
    (["joinc", "joincontrol"], joinControl),
    (["loe", "logicalorderexception"], logicalOrderException),
    (["lower", "lowercase"], lowercase),
    (["math"], math),
    (["nchar", "noncharactercodepoint"], noncharacterCodePoint),
    (["patsyn", "patternsyntax"], patternSyntax),
    (["patws", "patternwhitespace"], patternWhiteSpace),
    (["qmark", "quotationmark"], quotationMark),
    (["radical"], radical),
    (["ri", "regionalindicator"], regionalIndicator),
    (["sterm", "sentenceterminal"], sentenceTerminal),
    (["sd", "softdotted"], softDotted),
    (["term", "terminalpunctuation"], terminalPunctuation),
    (["uideo", "unifiedideograph"], unifiedIdeograph),
    (["upper", "uppercase"], uppercase),
    (["vs", "variationselector"], variationSelector),
    (["wspace", "whitespace", "space"], whiteSpace),
    (["xidc", "xidcontinue"], xidContinue),
    (["xids", "xidstart"], xidStart)]

def lookUp {α : Type} (name : String) (entries : List (List String × α)) : Option α :=
  (entries.find? fun entry => entry.1.contains name).map (·.2)

def ofCategoryName (name : String) : Option Property :=
  match name with
  | "any" => some any
  | "ascii" => some ascii
  | "assigned" => some assigned
  | _ => (lookUp name categoryNames).map category

/-- The property of a name that stands alone.  Three names stand for categories though
they also abbreviate other properties. -/
def ofName (name : List Char) : Option Property :=
  let normal := String.ofList (normalName name)
  let direct :=
    if normal == "cf" || normal == "sc" || normal == "lc" then none
    else (lookUp normal binaryNames).map binary
  (direct.or (ofCategoryName normal)).or ((Script.number? normal).map script)

def ofNameAndValue (name value : List Char) : Option Property :=
  let value := String.ofList (normalName value)
  match String.ofList (normalName name) with
  | "gc" | "generalcategory" | "category" => ofCategoryName value
  | "sc" | "script" => (Script.number? value).map script
  | "scx" | "scriptextensions" => (Script.number? value).map scriptExtension
  | _ => none

end Property

end SecureSockets.Unicode
