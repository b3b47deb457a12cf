import QueryCatalog.Pattern.CharClass
import QueryCatalog.Pattern.CharProperty
import Std.Data.HashSet

namespace QueryCatalog.Pattern

inductive Anchor
  | textStart
  | textEnd
  | lineStart (carriageReturns : Bool)
  | lineEnd (carriageReturns : Bool)
  | wordBoundary (ascii : Bool)
  | notWordBoundary (ascii : Bool)
  | wordStart (ascii : Bool)
  | wordEnd (ascii : Bool)
  | wordStartHalf (ascii : Bool)
  | wordEndHalf (ascii : Bool)
  deriving DecidableEq, Hashable, Repr

inductive Regex
  | empty
  | chars (c : CharClass)
  | anchor (a : Anchor)
  | seq (r s : Regex)
  | alt (r s : Regex)
  /-- At least `least` and, if there is a bound, at most `most?` times. -/
  | repeated (r : Regex) (least : Nat) (most? : Option Nat)
  | group (r : Regex)
  deriving DecidableEq, Hashable, Repr

namespace Anchor

def isWord (ascii : Bool) : Option Char → Bool
  | some c => if ascii then c.isAlphanum || c == '_' else isWordChar c
  | none => false

/-- Whether the condition holds between two characters; none stands for an end of the text. -/
def holds (before after : Option Char) : Anchor → Bool
  | textStart => before.isNone
  | textEnd => after.isNone
  | lineStart false => before.isNone || before == some '\n'
  | lineStart true =>
    before.isNone || before == some '\n' || (before == some '\r' && after != some '\n')
  | lineEnd false => after.isNone || after == some '\n'
  | lineEnd true =>
    after.isNone || after == some '\r' || (after == some '\n' && before != some '\r')
  | wordBoundary a => isWord a before != isWord a after
  | notWordBoundary a => isWord a before == isWord a after
  | wordStart a => !isWord a before && isWord a after
  | wordEnd a => isWord a before && !isWord a after
  | wordStartHalf a => !isWord a before
  | wordEndHalf a => !isWord a after

end Anchor

namespace Regex

def times (r : Regex) (least : Nat) (most? : Option Nat) : Regex :=
  if most? = some 0 then empty
  else if least = 1 ∧ most? = some 1 then r
  else repeated r least most?

def matchesEmpty (before after : Option Char) : Regex → Bool
  | empty => true
  | chars _ => false
  | anchor a => a.holds before after
  | seq r s => r.matchesEmpty before after && s.matchesEmpty before after
  | alt r s => r.matchesEmpty before after || s.matchesEmpty before after
  | repeated r least _ => least == 0 || r.matchesEmpty before after
  | group r => r.matchesEmpty before after

def followedBy (s : Regex) : Regex → Regex
  | empty => s
  | r => seq r s

/-- What may follow the character `c` in a match that begins with it. -/
def afterChar (before : Option Char) (c : Char) : Regex → List Regex
  | empty => []
  | chars cls => if cls.contains c then [empty] else []
  | anchor _ => []
  | seq r s =>
    (afterChar before c r).map (followedBy s) ++
      if r.matchesEmpty before (some c) then afterChar before c s else []
  | alt r s => afterChar before c r ++ afterChar before c s
  | repeated r least most? =>
    if most? = some 0 then []
    else
      -- turns that match nothing here may make up for all that are still due
      let least' := if r.matchesEmpty before (some c) then 0 else least - 1
      (afterChar before c r).map (followedBy (repeated r least' (most?.map (· - 1))))
  | group r => afterChar before c r

def distinct (l : List Regex) : List Regex := go [] ∅ l
where
  go (kept : List Regex) (seen : Std.HashSet Regex) : List Regex → List Regex
    | [] => kept
    | r :: rest =>
      if seen.contains r then go kept seen rest else go (r :: kept) (seen.insert r) rest

/-- Whether a match of `r` begins in the text, or one of the given expressions matches from here. -/
def occursFrom (r : Regex) (pending : List Regex) (before : Option Char) : List Char → Bool
  | [] => (r :: pending).any (·.matchesEmpty before none)
  | c :: rest =>
    let here := distinct (r :: pending)
    here.any (·.matchesEmpty before (some c)) ||
      occursFrom r (here.flatMap (afterChar before c)) (some c) rest

def occursIn (r : Regex) (text : String) : Bool := occursFrom r [] none text.toList

end Regex

end QueryCatalog.Pattern
