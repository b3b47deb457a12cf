import QueryCatalog.Text.Visible

namespace QueryCatalog.Pattern

structure Flags where
  ignoreCase : Bool := false
  multiLine : Bool := false
  dotMatchesNewline : Bool := false
  swapGreed : Bool := false
  unicode : Bool := true
  ignoreSpace : Bool := false
  carriageReturns : Bool := false
  deriving DecidableEq, Repr

def dropBlanks (inComment : Bool) : List Char → List Char
  | [] => []
  | c :: rest =>
    if inComment then dropBlanks (c != '\n') rest
    else if Text.isBlank c then dropBlanks false rest
    else if c = '#' then dropBlanks true rest
    else c :: rest

def skipSpace (f : Flags) (s : List Char) : List Char :=
  if f.ignoreSpace then dropBlanks false s else s

theorem length_dropBlanks_le (b : Bool) (s : List Char) : (dropBlanks b s).length ≤ s.length := by
  induction s generalizing b with
  | nil => simp [dropBlanks]
  | cons c rest ih =>
    unfold dropBlanks
    have h₁ := ih (c != '\n')
    have h₂ := ih false
    have h₃ := ih true
    split
    · simp only [List.length_cons]; omega
    · split
      · simp only [List.length_cons]; omega
      · split
        · simp only [List.length_cons]; omega
        · exact Nat.le_refl _

theorem length_skipSpace_le (f : Flags) (s : List Char) : (skipSpace f s).length ≤ s.length := by
  unfold skipSpace
  split
  · exact length_dropBlanks_le false s
  · exact Nat.le_refl _

/-- The characters with a property at the start of a text, and the rest. What is skipped between
and behind them is left out. -/
def readRun (f : Flags) (p : Char → Bool) (s : List Char) : List Char × List Char :=
  match s with
  | [] => ([], [])
  | c :: rest =>
    if p c then
      let (cs, rest') := readRun f p (skipSpace f rest)
      (c :: cs, rest')
    else ([], c :: rest)
termination_by s.length
decreasing_by
  have := length_skipSpace_le f rest
  simp only [List.length_cons]
  omega

def setFlag? (f : Flags) (on : Bool) : Char → Option Flags
  | 'i' => some { f with ignoreCase := on }
  | 'm' => some { f with multiLine := on }
  | 's' => some { f with dotMatchesNewline := on }
  | 'U' => some { f with swapGreed := on }
  | 'u' => some { f with unicode := on }
  | 'x' => some { f with ignoreSpace := on }
  | 'R' => some { f with carriageReturns := on }
  | _ => none

/-- Reads flags up to a colon or a closing parenthesis. A letter must not occur twice, a minus sign
must not occur twice, and must not be the last. -/
def readFlags (f : Flags) (seen : List Char) : List Char → Option (Flags × List Char)
  | [] => none
  | c :: rest =>
    if c = ':' ∨ c = ')' then
      if seen.head? = some '-' then none else some (f, c :: rest)
    else if seen.contains c then none
    else if c = '-' then readFlags f ('-' :: seen) rest
    else do readFlags (← setFlag? f (!seen.contains '-') c) (c :: seen) rest

end QueryCatalog.Pattern
