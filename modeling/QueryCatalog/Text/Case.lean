import QueryCatalog.Text.CaseTable

namespace QueryCatalog.Text

def inRanges (ranges : List (Nat × Nat)) (n : Nat) : Bool :=
  ranges.any fun r ↦ r.1 ≤ n && n ≤ r.2

def isCased (c : Char) : Bool := inRanges casedRanges c.toNat

def isCaseIgnorable (c : Char) : Bool := inRanges caseIgnorableRanges c.toNat

def counterpart? (runs : List CaseRun) (n : Nat) : Option Nat :=
  (runs.find? fun r ↦ r.first ≤ n && n ≤ r.last && (n - r.first) % r.step == 0).map fun r ↦
    ((n : Int) + r.shift).toNat

/-- Whether the first character that counts is cased; a sigma next to it is inside a word. -/
def startsCased (s : List Char) : Bool :=
  match s.dropWhile isCaseIgnorable with
  | [] => false
  | c :: _ => isCased c

def lowerChar (c : Char) : List Char :=
  if c.toNat < 128 then [c.toLower]
  else if c.toNat = 0x130 then ['i', Char.ofNat 0x307]
  else
    match counterpart? lowerRuns c.toNat with
    | some n => [Char.ofNat n]
    | none => [c]

def capitalSigma : Char := Char.ofNat 0x3A3

def smallSigma : Char := Char.ofNat 0x3C3

def finalSigma : Char := Char.ofNat 0x3C2

/-- The lower case of the characters behind `before`, which is held in reverse. -/
def lowerFrom (before : List Char) : List Char → List Char
  | [] => []
  | c :: rest =>
    if c = capitalSigma then
      (if startsCased before && !startsCased rest then finalSigma else smallSigma) ::
        lowerFrom (c :: before) rest
    else lowerChar c ++ lowerFrom (c :: before) rest

def lower (s : String) : String := String.ofList (lowerFrom [] s.toList)

def upperChar (c : Char) : List Char :=
  if c.toNat < 128 then [c.toUpper]
  else
    match upperExpansions.find? fun e ↦ e.1 == c.toNat with
    | some e => e.2.map Char.ofNat
    | none =>
      match counterpart? upperRuns c.toNat with
      | some n => [Char.ofNat n]
      | none => [c]

def upper (s : String) : String := String.ofList (s.toList.flatMap upperChar)

end QueryCatalog.Text
