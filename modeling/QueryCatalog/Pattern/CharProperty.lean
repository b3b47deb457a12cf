import QueryCatalog.Pattern.PropertyTable

namespace QueryCatalog.Pattern

namespace Category

def letters : List Category :=
  [uppercaseLetter, lowercaseLetter, titlecaseLetter, modifierLetter, otherLetter]

def casedLetters : List Category := [uppercaseLetter, lowercaseLetter, titlecaseLetter]

def marks : List Category := [nonspacingMark, spacingMark, enclosingMark]

def numbers : List Category := [decimalNumber, letterNumber, otherNumber]

def punctuation : List Category :=
  [connectorPunctuation, dashPunctuation, openPunctuation, closePunctuation, initialPunctuation,
    finalPunctuation, otherPunctuation]

def symbols : List Category := [mathSymbol, currencySymbol, modifierSymbol, otherSymbol]

def separators : List Category := [spaceSeparator, lineSeparator, paragraphSeparator]

def others : List Category := [control, format, privateUse]

def all : List Category :=
  letters ++ marks ++ numbers ++ punctuation ++ symbols ++ separators ++ others

def set (k : Category) : CharSet := .runs k.runs

end Category

namespace CharSet

def ofCategories (l : List Category) : CharSet := unions (l.map Category.set)

def ofCategory (k : Category) : CharSet := ofCategories [k]

def assigned : CharSet := ofCategories Category.all

def unassigned : CharSet := diff all assigned

def lowercase : CharSet := union (ofCategory .lowercaseLetter) (runs otherLowercaseRuns)

def uppercase : CharSet := union (ofCategory .uppercaseLetter) (runs otherUppercaseRuns)

def cased : CharSet := unions [lowercase, uppercase, ofCategory .titlecaseLetter]

def alphabetic : CharSet :=
  unions [ofCategories Category.letters, ofCategory .letterNumber, runs otherAlphabeticRuns]

/-- The characters of words: letters, marks, decimal digits, connecting punctuation, and what joins
letters. -/
def word : CharSet :=
  unions [alphabetic, ofCategories Category.marks, ofCategory .decimalNumber,
    ofCategory .connectorPunctuation, runs joinControlRuns]

def digit : CharSet := ofCategory .decimalNumber

def space : CharSet :=
  ranges [(9, 13), (32, 32), (0x85, 0x85), (0xA0, 0xA0), (0x1680, 0x1680), (0x2000, 0x200A),
    (0x2028, 0x2029), (0x202F, 0x202F), (0x205F, 0x205F), (0x3000, 0x3000)]

def graphemeExtend : CharSet :=
  unions [ofCategories [.nonspacingMark, .enclosingMark], runs otherGraphemeExtendRuns]

def graphemeBase : CharSet :=
  diff assigned
    (union graphemeExtend
      (ofCategories [.control, .format, .privateUse, .lineSeparator, .paragraphSeparator]))

def caseIgnorable : CharSet :=
  union
    (ofCategories [.nonspacingMark, .enclosingMark, .format, .modifierLetter, .modifierSymbol])
    (ofNumbers [0x27, 0x2E, 0x3A, 0xB7, 0x387, 0x55F, 0x5F4, 0x2018, 0x2019, 0x2024, 0x2027,
      0xFE13, 0xFE52, 0xFE55, 0xFF07, 0xFF0E, 0xFF1A])

def idStart : CharSet :=
  diff
    (unions [ofCategories Category.letters, ofCategory .letterNumber, runs otherIdStartRuns])
    (union (runs patternSyntaxRuns) (runs patternWhiteSpaceRuns))

def idContinue : CharSet :=
  unions [idStart, ofCategories [.nonspacingMark, .spacingMark, .decimalNumber,
    .connectorPunctuation], runs otherIdContinueRuns]

/-- Characters of identifiers whose compatible forms are not part of identifiers. -/
def unstableInIds : CharSet :=
  union (ranges [(0xFC5E, 0xFC63)])
    (ofNumbers [0x37A, 0x309B, 0x309C, 0xFDFA, 0xFDFB, 0xFE70, 0xFE72, 0xFE74, 0xFE76, 0xFE78,
      0xFE7A, 0xFE7C, 0xFE7E])

/-- Characters that do not begin identifiers, since their compatible forms do not. -/
def unstableAtStart : CharSet :=
  union unstableInIds (ofNumbers [0xE33, 0xEB3, 0xFF9E, 0xFF9F])

end CharSet

def isWordChar (c : Char) : Bool :=
  if c.toNat < 128 then c.isAlphanum || c == '_' else CharSet.word.contains c.toNat

inductive BinaryProperty
  | alphabetic | asciiHexDigit | bidiControl | bidiMirrored | caseIgnorable | cased
  | changesWhenCasefolded | changesWhenCasemapped | changesWhenLowercased | changesWhenTitlecased
  | changesWhenUppercased | dash | defaultIgnorable | deprecated | diacritic | emoji
  | emojiComponent | emojiModifier | emojiModifierBase | emojiPresentation | extendedPictographic
  | extender | graphemeBase | graphemeExtend | graphemeLink | hexDigit | hyphen
  | idCompatMathContinue | idCompatMathStart | idContinue | idStart | idsBinaryOperator
  | idsTrinaryOperator | idsUnaryOperator | ideographic | joinControl | logicalOrderException
  | lowercase | math | modifierCombiningMark | noncharacter | otherAlphabetic
  | otherDefaultIgnorable | otherGraphemeExtend | otherIdContinue | otherIdStart | otherLowercase
  | otherMath | otherUppercase | patternSyntax | patternWhiteSpace | prependedConcatenationMark
  | quotationMark | radical | regionalIndicator | sentenceTerminal | softDotted
  | terminalPunctuation | unifiedIdeograph | uppercase | variationSelector | whiteSpace
  | xidContinue | xidStart
  deriving DecidableEq, Repr

namespace BinaryProperty

def set : BinaryProperty → CharSet
  | alphabetic => .alphabetic
  | asciiHexDigit => .runs asciiHexDigitRuns
  | bidiControl => .runs bidiControlRuns
  | bidiMirrored => .runs bidiMirroredRuns
  | caseIgnorable => .caseIgnorable
  | cased => .cased
  | changesWhenCasefolded => .runs changesWhenCasefoldedRuns
  | changesWhenCasemapped =>
    .unions [.runs changesWhenLowercasedRuns, .runs changesWhenTitlecasedRuns,
      .runs changesWhenUppercasedRuns]
  | changesWhenLowercased => .runs changesWhenLowercasedRuns
  | changesWhenTitlecased => .runs changesWhenTitlecasedRuns
  | changesWhenUppercased => .runs changesWhenUppercasedRuns
  | dash => .runs dashRuns
  | defaultIgnorable => .runs defaultIgnorableRuns
  | deprecated => .runs deprecatedRuns
  | diacritic => .runs diacriticRuns
  | emoji => .runs emojiRuns
  | emojiComponent => .runs emojiComponentRuns
  | emojiModifier => .runs emojiModifierRuns
  | emojiModifierBase => .runs emojiModifierBaseRuns
  | emojiPresentation => .runs emojiPresentationRuns
  | extendedPictographic => .runs extendedPictographicRuns
  | extender => .runs extenderRuns
  | graphemeBase => .graphemeBase
  | graphemeExtend => .graphemeExtend
  | graphemeLink => .runs graphemeLinkRuns
  | hexDigit => .runs hexDigitRuns
  | hyphen => .runs hyphenRuns
  | idCompatMathContinue => .runs idCompatMathContinueRuns
  | idCompatMathStart => .runs idCompatMathStartRuns
  | idContinue => .idContinue
  | idStart => .idStart
  | idsBinaryOperator => .runs idsBinaryOperatorRuns
  | idsTrinaryOperator => .runs idsTrinaryOperatorRuns
  | idsUnaryOperator => .runs idsUnaryOperatorRuns
  | ideographic => .runs ideographicRuns
  | joinControl => .runs joinControlRuns
  | logicalOrderException => .runs logicalOrderExceptionRuns
  | lowercase => .lowercase
  | math => .union (.ofCategory .mathSymbol) (.runs otherMathRuns)
  | modifierCombiningMark => .runs modifierCombiningMarkRuns
  | noncharacter => .runs noncharacterRuns
  | otherAlphabetic => .runs otherAlphabeticRuns
  | otherDefaultIgnorable => .runs otherDefaultIgnorableRuns
  | otherGraphemeExtend => .runs otherGraphemeExtendRuns
  | otherIdContinue => .runs otherIdContinueRuns
  | otherIdStart => .runs otherIdStartRuns
  | otherLowercase => .runs otherLowercaseRuns
  | otherMath => .runs otherMathRuns
  | otherUppercase => .runs otherUppercaseRuns
  | patternSyntax => .runs patternSyntaxRuns
  | patternWhiteSpace => .runs patternWhiteSpaceRuns
  | prependedConcatenationMark => .runs prependedConcatenationMarkRuns
  | quotationMark => .runs quotationMarkRuns
  | radical => .runs radicalRuns
  | regionalIndicator => .runs regionalIndicatorRuns
  | sentenceTerminal => .runs sentenceTerminalRuns
  | softDotted => .runs softDottedRuns
  | terminalPunctuation => .runs terminalPunctuationRuns
  | unifiedIdeograph => .runs unifiedIdeographRuns
  | uppercase => .uppercase
  | variationSelector => .runs variationSelectorRuns
  | whiteSpace => .space
  | xidContinue => .diff .idContinue .unstableInIds
  | xidStart => .diff .idStart .unstableAtStart

end BinaryProperty

end QueryCatalog.Pattern
