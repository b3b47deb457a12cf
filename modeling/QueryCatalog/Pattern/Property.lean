import QueryCatalog.Pattern.Break

namespace QueryCatalog.Pattern

def plainName (name : List Char) : String :=
  let named := match name with
    | i :: s :: rest => if i.toLower = 'i' ∧ s.toLower = 's' then rest else name
    | _ => name
  let kept := named.filter fun c ↦ c != ' ' && c != '_' && c != '-' && c.toNat < 128
  let plain := String.ofList (kept.map Char.toLower)
  -- this name is not that of the category `c`
  if plain = "c" ∧ name.length ≠ named.length then "isc" else plain

def nameLookup? {α : Type} (table : List (α × List String)) (name : String) : Option α :=
  (table.find? fun e ↦ e.2.contains name).map Prod.fst

namespace Category

def names : List (Category × List String) :=
  [(uppercaseLetter, ["lu", "uppercaseletter"]), (lowercaseLetter, ["ll", "lowercaseletter"]),
    (titlecaseLetter, ["lt", "titlecaseletter"]), (modifierLetter, ["lm", "modifierletter"]),
    (otherLetter, ["lo", "otherletter"]), (nonspacingMark, ["mn", "nonspacingmark"]),
    (spacingMark, ["mc", "spacingmark"]), (enclosingMark, ["me", "enclosingmark"]),
    (decimalNumber, ["nd", "decimalnumber", "digit"]), (letterNumber, ["nl", "letternumber"]),
    (otherNumber, ["no", "othernumber"]), (connectorPunctuation, ["pc", "connectorpunctuation"]),
    (dashPunctuation, ["pd", "dashpunctuation"]), (openPunctuation, ["ps", "openpunctuation"]),
    (closePunctuation, ["pe", "closepunctuation"]),
    (initialPunctuation, ["pi", "initialpunctuation"]),
    (finalPunctuation, ["pf", "finalpunctuation"]), (otherPunctuation, ["po", "otherpunctuation"]),
    (mathSymbol, ["sm", "mathsymbol"]), (currencySymbol, ["sc", "currencysymbol"]),
    (modifierSymbol, ["sk", "modifiersymbol"]), (otherSymbol, ["so", "othersymbol"]),
    (spaceSeparator, ["zs", "spaceseparator"]), (lineSeparator, ["zl", "lineseparator"]),
    (paragraphSeparator, ["zp", "paragraphseparator"]), (control, ["cc", "control", "cntrl"]),
    (format, ["cf", "format"]), (privateUse, ["co", "privateuse"])]

def groupNames : List (List Category × List String) :=
  [(letters, ["l", "letter"]), (casedLetters, ["lc", "casedletter"]),
    (marks, ["m", "mark", "combiningmark"]), (numbers, ["n", "number"]),
    (punctuation, ["p", "punctuation", "punct"]), (symbols, ["s", "symbol"]),
    (separators, ["z", "separator"])]

end Category

/-- The general category of the given plain name. Halves of characters are a category without
characters, which has no set. -/
def categoryNamed? (name : String) : Option CharSet :=
  match name with
  | "any" => some .all
  | "ascii" => some .ascii
  | "assigned" => some .assigned
  | "cn" | "unassigned" => some .unassigned
  | "c" | "other" => some (.union (.ofCategories Category.others) .unassigned)
  | _ =>
    (nameLookup? Category.groupNames name).map .ofCategories <|>
      (nameLookup? Category.names name).map .ofCategory

namespace BinaryProperty

def names : List (BinaryProperty × List String) :=
  [(alphabetic, ["alpha", "alphabetic"]), (asciiHexDigit, ["ahex", "asciihexdigit"]),
    (bidiControl, ["bidic", "bidicontrol"]), (bidiMirrored, ["bidim", "bidimirrored"]),
    (caseIgnorable, ["ci", "caseignorable"]), (cased, ["cased"]),
    (changesWhenCasefolded, ["cwcf", "changeswhencasefolded"]),
    (changesWhenCasemapped, ["cwcm", "changeswhencasemapped"]),
    (changesWhenLowercased, ["cwl", "changeswhenlowercased"]),
    (changesWhenTitlecased, ["cwt", "changeswhentitlecased"]),
    (changesWhenUppercased, ["cwu", "changeswhenuppercased"]), (dash, ["dash"]),
    (defaultIgnorable, ["di", "defaultignorablecodepoint"]), (deprecated, ["dep", "deprecated"]),
    (diacritic, ["dia", "diacritic"]), (emoji, ["emoji"]),
    (emojiComponent, ["ecomp", "emojicomponent"]), (emojiModifier, ["emod", "emojimodifier"]),
    (emojiModifierBase, ["ebase", "emojimodifierbase"]),
    (emojiPresentation, ["epres", "emojipresentation"]),
    (extendedPictographic, ["extpict", "extendedpictographic"]), (extender, ["ext", "extender"]),
    (graphemeBase, ["grbase", "graphemebase"]), (graphemeExtend, ["grext", "graphemeextend"]),
    (graphemeLink, ["grlink", "graphemelink"]), (hexDigit, ["hex", "hexdigit"]),
    (hyphen, ["hyphen"]), (idCompatMathContinue, ["idcompatmathcontinue"]),
    (idCompatMathStart, ["idcompatmathstart"]), (idContinue, ["idc", "idcontinue"]),
    (idStart, ["ids", "idstart"]), (idsBinaryOperator, ["idsb", "idsbinaryoperator"]),
    (idsTrinaryOperator, ["idst", "idstrinaryoperator"]),
    (idsUnaryOperator, ["idsu", "idsunaryoperator"]), (ideographic, ["ideo", "ideographic"]),
    (joinControl, ["joinc", "joincontrol"]),
    (logicalOrderException, ["loe", "logicalorderexception"]),
    (lowercase, ["lower", "lowercase"]), (math, ["math"]),
    (modifierCombiningMark, ["mcm", "modifiercombiningmark"]),
    (noncharacter, ["nchar", "noncharactercodepoint"]),
    (otherAlphabetic, ["oalpha", "otheralphabetic"]),
    (otherDefaultIgnorable, ["odi", "otherdefaultignorablecodepoint"]),
    (otherGraphemeExtend, ["ogrext", "othergraphemeextend"]),
    (otherIdContinue, ["oidc", "otheridcontinue"]), (otherIdStart, ["oids", "otheridstart"]),
    (otherLowercase, ["olower", "otherlowercase"]), (otherMath, ["omath", "othermath"]),
    (otherUppercase, ["oupper", "otheruppercase"]), (patternSyntax, ["patsyn", "patternsyntax"]),
    (patternWhiteSpace, ["patws", "patternwhitespace"]),
    (prependedConcatenationMark, ["pcm", "prependedconcatenationmark"]),
    (quotationMark, ["qmark", "quotationmark"]), (radical, ["radical"]),
    (regionalIndicator, ["ri", "regionalindicator"]),
    (sentenceTerminal, ["sterm", "sentenceterminal"]), (softDotted, ["sd", "softdotted"]),
    (terminalPunctuation, ["term", "terminalpunctuation"]),
    (unifiedIdeograph, ["uideo", "unifiedideograph"]), (uppercase, ["upper", "uppercase"]),
    (variationSelector, ["vs", "variationselector"]),
    (whiteSpace, ["wspace", "whitespace", "space"]), (xidContinue, ["xidc", "xidcontinue"]),
    (xidStart, ["xids", "xidstart"])]

end BinaryProperty

def GraphemeBreak.names : List (GraphemeBreak × List String) :=
  [(carriageReturn, ["cr"]), (lineFeed, ["lf"]), (joiner, ["zwj"]),
    (regionalIndicator, ["ri", "regionalindicator"]), (prepend, ["pp", "prepend"]),
    (extend, ["ex", "extend"]), (control, ["cn", "control"]), (hangulLeading, ["l"]),
    (hangulVowel, ["v"]), (hangulTrailing, ["t"]), (hangulOpen, ["lv"]), (hangulClosed, ["lvt"]),
    (spacingMark, ["sm", "spacingmark"])]

def SentenceBreak.names : List (SentenceBreak × List String) :=
  [(carriageReturn, ["cr"]), (lineFeed, ["lf"]), (extend, ["ex", "extend"]),
    (separator, ["se", "sep"]), (numeric, ["nu", "numeric"]), (format, ["fo", "format"]),
    (space, ["sp"]), (lower, ["lo", "lower"]), (upper, ["up", "upper"]),
    (letter, ["le", "oletter"]), (fullStop, ["at", "aterm"]), (continuing, ["sc", "scontinue"]),
    (terminal, ["st", "sterm"]), (closing, ["cl", "close"])]

def WordBreak.names : List (WordBreak × List String) :=
  [(carriageReturn, ["cr"]), (lineFeed, ["lf"]), (newline, ["nl", "newline"]), (joiner, ["zwj"]),
    (extend, ["extend"]), (format, ["fo", "format"]),
    (regionalIndicator, ["ri", "regionalindicator"]), (katakana, ["ka", "katakana"]),
    (hebrewLetter, ["hl", "hebrewletter"]), (singleQuote, ["sq", "singlequote"]),
    (doubleQuote, ["dq", "doublequote"]), (midBoth, ["mb", "midnumlet"]),
    (midLetter, ["ml", "midletter"]), (midNumber, ["mn", "midnum"]), (numeric, ["nu", "numeric"]),
    (connector, ["ex", "extendnumlet"]), (space, ["wsegspace"]), (letter, ["le", "aletter"])]

def propertyNamed? (name : String) : Option CharSet :=
  (nameLookup? BinaryProperty.names name).map BinaryProperty.set <|>
    categoryNamed? name <|> (Script.named? name).map fun s ↦ .ofScript s.code

def propertyValue? (name value : List Char) : Option CharSet :=
  let value := plainName value
  match plainName name with
  | "gc" | "generalcategory" => categoryNamed? value
  | "sc" | "script" => (Script.named? value).map fun s ↦ .ofScript s.code
  | "scx" | "scriptextensions" => (Script.named? value).map fun s ↦ .usedInScript s.code
  | "age" => (versionsUpTo? value).map .inUseSince
  | "gcb" | "graphemeclusterbreak" =>
    (nameLookup? GraphemeBreak.names value).map (decidedBy GraphemeBreak.rules)
  | "sb" | "sentencebreak" =>
    (nameLookup? SentenceBreak.names value).map (decidedBy SentenceBreak.rules)
  | "wb" | "wordbreak" => (nameLookup? WordBreak.names value).map (decidedBy WordBreak.rules)
  | _ => none

def splitAt? (sign : List Char) : List Char → Option (List Char × List Char)
  | [] => none
  | c :: rest =>
    if sign.isPrefixOf (c :: rest) then some ([], (c :: rest).drop sign.length)
    else (splitAt? sign rest).map fun p ↦ (c :: p.1, p.2)

/-- The set that a text in braces names: a property, or a property and its value. The sign between
them makes no difference. -/
def property? (text : List Char) : Option CharSet :=
  match splitAt? ['!', '='] text <|> splitAt? [':'] text <|> splitAt? ['='] text with
  | some (name, value) => propertyValue? name value
  | none => propertyNamed? (plainName text)

end QueryCatalog.Pattern
