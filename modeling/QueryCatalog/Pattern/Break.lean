import QueryCatalog.Pattern.AgeTable
import QueryCatalog.Pattern.BreakTable
import QueryCatalog.Pattern.CharProperty
import QueryCatalog.Pattern.ScriptTable

namespace QueryCatalog.Pattern

def Script.named? (name : String) : Option Script :=
  scripts.find? fun s ↦ s.code == name || s.names.contains name

namespace SharedRange

def range (r : SharedRange) : Nat × Nat := (r.first, r.last)

end SharedRange

namespace CharSet

def ofScript (code : String) : CharSet :=
  match Script.named? code with
  | some s => ranges s.ranges
  | none => empty

/-- The characters in use in the script of the given code, its own and shared ones. -/
def usedInScript (code : String) : CharSet :=
  let shared := sharedRanges.filter fun r ↦ r.codes.contains code
  union (ranges (shared.map SharedRange.range))
    (diff (ofScript code) (ranges (sharedRanges.map SharedRange.range)))

def inUseSince (count : Nat) : CharSet := ranges ((versions.take count).flatMap Version.ranges)

end CharSet

def versionsUpTo? (name : String) : Option Nat :=
  (versions.findIdx? fun v ↦
    name == s!"{v.major}.{v.minor}" || name == s!"v{v.major}{v.minor}").map (· + 1)

namespace CharSet

def emojiJoiner : CharSet := ofNumbers [0x200D]

def prependedMark : CharSet := runs prependedConcatenationMarkRuns

def modifying : CharSet := unions [graphemeExtend, runs emojiModifierRuns]

/-- The syllables of Hangul, those without a trailing consonant every 28 characters. -/
def hangulSyllable : CharSet := ranges [(0xAC00, 0xD7A3)]

def hangulOpenSyllable : CharSet := runs [⟨0xAC00, 0xD788, 28⟩]

/-- Letters of Georgian, which has two cases that it does not use in one text. -/
def georgianSmall : CharSet := ranges [(0x10D0, 0x10FA), (0x10FD, 0x10FF)]

def georgianCapital : CharSet := ranges [(0x1C90, 0x1CBA), (0x1CBD, 0x1CBF)]

end CharSet

inductive GraphemeBreak
  | carriageReturn | lineFeed | joiner | regionalIndicator | prepend | extend | control
  | hangulLeading | hangulVowel | hangulTrailing | hangulOpen | hangulClosed | spacingMark
  deriving DecidableEq, Repr

namespace GraphemeBreak

def controls : CharSet :=
  .union (.ofCategories [.control, .format, .lineSeparator, .paragraphSeparator])
    (.diff (.runs defaultIgnorableRuns) .assigned)

def spacingMarks : CharSet :=
  .union (.diff (.ofCategory .spacingMark) (.runs standingMarkRuns)) (.ofNumbers [0xE33, 0xEB3])

def rules : List (GraphemeBreak × CharSet) :=
  [(carriageReturn, .single '\r'), (lineFeed, .single '\n'), (joiner, .emojiJoiner),
    (regionalIndicator, .runs regionalIndicatorRuns),
    (prepend, .union .prependedMark (.runs prependingRuns)), (extend, .modifying),
    (control, controls), (hangulLeading, .runs hangulLeadingRuns),
    (hangulVowel, .runs hangulVowelRuns), (hangulTrailing, .runs hangulTrailingRuns),
    (hangulOpen, .hangulOpenSyllable), (hangulClosed, .hangulSyllable),
    (spacingMark, spacingMarks)]

end GraphemeBreak

inductive SentenceBreak
  | carriageReturn | lineFeed | extend | separator | numeric | format | space | lower | upper
  | letter | fullStop | continuing | terminal | closing
  deriving DecidableEq, Repr

namespace SentenceBreak

def closings : CharSet :=
  .union
    (.ofCategories
      [.openPunctuation, .closePunctuation, .initialPunctuation, .finalPunctuation])
    (.runs otherCloseRuns)

def rules : List (SentenceBreak × CharSet) :=
  [(carriageReturn, .single '\r'), (lineFeed, .single '\n'),
    (extend, .unions [.graphemeExtend, .ofCategory .spacingMark, .emojiJoiner]),
    (separator, .ofNumbers [0x85, 0x2028, 0x2029]),
    (numeric, .union .digit (.runs otherNumericRuns)),
    (format, .diff (.ofCategory .format) (.diff .prependedMark (.ofNumbers [0x70F]))),
    (space, .space), (lower, .diff .lowercase .georgianSmall),
    (upper, .diff (.union .uppercase (.ofCategory .titlecaseLetter)) .georgianCapital),
    (letter, .union .alphabetic (.ofNumbers [0x5F3])),
    (fullStop, .runs sentenceFullStopRuns), (continuing, .runs sentenceContinueRuns),
    (terminal, .runs sentenceTerminalRuns), (closing, closings)]

end SentenceBreak

inductive WordBreak
  | carriageReturn | lineFeed | newline | joiner | extend | format | regionalIndicator | katakana
  | hebrewLetter | singleQuote | doubleQuote | midBoth | midLetter | midNumber | numeric
  | connector | space | letter
  deriving DecidableEq, Repr

namespace WordBreak

def letters : CharSet :=
  .union (.runs otherWordLetterRuns)
    (.diff .alphabetic
      (.unions [.runs ideographicRuns, .ofScript "hira", .runs complexContextRuns]))

def rules : List (WordBreak × CharSet) :=
  [(carriageReturn, .single '\r'), (lineFeed, .single '\n'), (newline, .runs wordNewlineRuns),
    (joiner, .emojiJoiner), (extend, .union .modifying (.ofCategory .spacingMark)),
    (format, .diff (.ofCategory .format) (.union .prependedMark (.ofNumbers [0x200B]))),
    (regionalIndicator, .runs regionalIndicatorRuns),
    (katakana, .union (.ofScript "kana") (.runs otherKatakanaRuns)),
    (hebrewLetter, .runs hebrewLetterRuns), (singleQuote, .single '\''),
    (doubleQuote, .single '\"'), (midBoth, .runs wordMidBothRuns),
    (midLetter, .runs wordMidLetterRuns), (midNumber, .runs wordMidNumberRuns),
    (numeric, .union .digit (.runs otherNumericRuns)), (connector, .runs wordConnectorRuns),
    (space, .runs wordSpaceRuns), (letter, letters)]

end WordBreak

end QueryCatalog.Pattern
