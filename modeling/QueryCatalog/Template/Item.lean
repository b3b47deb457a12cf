import QueryCatalog.Template.Token
import QueryCatalog.Text.Visible

namespace QueryCatalog.Template

inductive Item
  | quoted (quote : Char) (inner : List Char)
  | lineComment (inner : List Char)
  | blockComment (inner : List Char)
  | cast
  | escape (c : Char)
  | parameter (name : List Char) (path : List (List Char))
  /-- A slot with the text before and, if there is an arrow, after it. -/
  | slot (before : List Char) (after? : Option (List Char))
  | plain (c : Char)
  deriving DecidableEq, Repr

def isQuote (c : Char) : Bool := c == '\'' || c == '\"' || c == '\x60'

def isNameStart (c : Char) : Bool := c.isAlpha || c == '_'

def isNameChar (c : Char) : Bool := c.isAlphanum || c == '_'

def isIdentifier : List Char → Bool
  | [] => false
  | c :: cs => isNameStart c && cs.all isNameChar

def isEscapable (c : Char) : Bool := c == ':' || c == '{' || c == '}'

def splitQuote (quote : Char) (s : List Char) : Option (List Char × List Char) :=
  match s.dropWhile (· != quote) with
  | [] => none
  | _ :: rest => some (s.takeWhile (· != quote), rest)

def splitComment : List Char → Option (List Char × List Char)
  | [] => none
  | '*' :: '/' :: rest => some ([], rest)
  | c :: rest => (splitComment rest).map fun p ↦ (c :: p.1, p.2)

def spanName : List Char → List Char × List Char
  | [] => ([], [])
  | '-' :: '>' :: rest => ([], '-' :: '>' :: rest)
  | c :: rest =>
    if c = '{' ∨ c = '}' then ([], c :: rest)
    else (c :: (spanName rest).1, (spanName rest).2)

theorem splitQuote_eq {quote : Char} {s inner rest : List Char}
    (h : splitQuote quote s = some (inner, rest)) : inner ++ quote :: rest = s := by
  unfold splitQuote at h
  split at h
  · simp at h
  · rename_i c r hd
    simp only [Option.some.injEq, Prod.mk.injEq] at h
    obtain ⟨rfl, rfl⟩ := h
    have hc : c = quote := by
      have := List.head?_dropWhile_not (· != quote) s
      simp only [hd, List.head?_cons] at this
      simpa using this
    have := List.takeWhile_append_dropWhile (p := (· != quote)) (l := s)
    rw [hd, hc] at this
    exact this

theorem splitComment_eq {s inner rest : List Char}
    (h : splitComment s = some (inner, rest)) : inner ++ '*' :: '/' :: rest = s := by
  fun_induction splitComment s generalizing inner rest with
  | case1 => simp at h
  | case2 r => simp only [Option.some.injEq, Prod.mk.injEq] at h; simp [← h.1, ← h.2]
  | case3 c r _ ih =>
    obtain ⟨⟨i, t⟩, hi, he⟩ := Option.map_eq_some_iff.1 h
    simp only [Prod.mk.injEq] at he
    obtain ⟨rfl, rfl⟩ := he
    simp [ih hi]

theorem spanName_eq (s : List Char) : (spanName s).1 ++ (spanName s).2 = s := by
  fun_induction spanName s with
  | case1 => rfl
  | case2 => rfl
  | case3 => rfl
  | case4 c rest _ _ ih => simp [ih]

/-- The default text of a slot up to the brace that closes the slot, a quote that is
never closed, or the end of the text. `depth` braces are open inside the default. -/
def spanDefault (depth : Nat) (s : List Char) : List Char × List Char :=
  match s with
  | [] => ([], [])
  | c :: rest =>
    if isQuote c then
      match _h : splitQuote c rest with
      | none => ([], c :: rest)
      | some (inner, rest') =>
        let d := spanDefault depth rest'
        (c :: inner ++ c :: d.1, d.2)
    else if c = '}' then
      match depth with
      | 0 => ([], c :: rest)
      | depth + 1 => (c :: (spanDefault depth rest).1, (spanDefault depth rest).2)
    else if c = '{' then
      (c :: (spanDefault (depth + 1) rest).1, (spanDefault (depth + 1) rest).2)
    else (c :: (spanDefault depth rest).1, (spanDefault depth rest).2)
  termination_by s.length
  decreasing_by
    · rw [← splitQuote_eq _h]; simp; omega
    all_goals simp

theorem spanDefault_eq (depth : Nat) (s : List Char) :
    (spanDefault depth s).1 ++ (spanDefault depth s).2 = s := by
  fun_induction spanDefault depth s with
  | case1 => rfl
  | case2 => rfl
  | case3 _ c rest _ inner rest' h d ih =>
    rw [← splitQuote_eq h]
    simp [d, ih]
  | case4 => rfl
  | case5 => rename_i ih; simp [ih]
  | case6 => rename_i ih; simp [ih]
  | case7 => rename_i ih; simp [ih]

/-- Reads `.segment` as long as a dot follows. The number of an error is how many bytes were read
up to the segment that is missing. -/
def readPath (s : List Char) : Except Nat (List (List Char) × List Char) :=
  match s with
  | '.' :: rest =>
    match rest.takeWhile isNameChar with
    | [] => .error 1
    | c :: cs =>
      match readPath (rest.dropWhile isNameChar) with
      | .error n => .error (1 + byteLength (c :: cs) + n)
      | .ok (path, rest') => .ok ((c :: cs) :: path, rest')
  | rest => .ok ([], rest)
  termination_by s.length
  decreasing_by
    have := (List.dropWhile_sublist isNameChar (l := rest)).length_le
    simp; omega

theorem readPath_eq {s : List Char} {path : List (List Char)} {rest : List Char}
    (h : readPath s = .ok (path, rest)) : (path.map ('.' :: ·)).flatten ++ rest = s := by
  fun_induction readPath s generalizing path rest with
  | case1 => simp at h
  | case2 => simp at h
  | case3 r c cs hw p r' hr ih =>
    simp only [Except.ok.injEq, Prod.mk.injEq] at h
    obtain ⟨rfl, rfl⟩ := h
    have := List.takeWhile_append_dropWhile (p := isNameChar) (l := r)
    rw [hw, ← ih hr] at this
    simpa using this
  | case4 =>
    simp only [Except.ok.injEq, Prod.mk.injEq] at h
    simp [← h.1, h.2]

namespace Item

def source : Item → List Char
  | quoted quote inner => quote :: inner ++ [quote]
  | lineComment inner => '-' :: '-' :: inner
  | blockComment inner => '/' :: '*' :: inner ++ ['*', '/']
  | cast => [':', ':']
  | escape c => ['\\', c]
  | parameter name path => ':' :: name ++ (path.map ('.' :: ·)).flatten
  | slot before none => '{' :: before ++ ['}']
  | slot before (some after) => '{' :: before ++ '-' :: '>' :: after ++ ['}']
  | plain c => [c]

def readParameter (s : List Char) : Except Fault (Item × List Char) :=
  if (s.head?.map isNameStart).getD false then
    let name := s.takeWhile isNameChar
    match readPath (s.dropWhile isNameChar) with
    | .error n => .error ⟨1 + byteLength name + n, .emptySegment (String.ofList name)⟩
    | .ok (path, rest) => .ok (parameter name path, rest)
  else .error ⟨0, .missingName⟩

def checkName (before : List Char) (after? : Option (List Char)) (rest : List Char) :
    Except Fault (Item × List Char) :=
  let name := Text.trim before
  if isIdentifier name then .ok (slot before after?, rest)
  else .error ⟨1, .invalidName (String.ofList name)⟩

def readSlot (s : List Char) : Except Fault (Item × List Char) :=
  let before := (spanName s).1
  match (spanName s).2 with
  | '}' :: rest => checkName before none rest
  | '-' :: '>' :: rest =>
    let after := (spanDefault 0 rest).1
    match (spanDefault 0 rest).2 with
    | [] => .error ⟨0, .unbalancedOpen⟩
    | '}' :: rest' => checkName before (some after) rest'
    | quote :: _ =>
      .error ⟨1 + byteLength before + 2 + byteLength after, .unterminatedQuote quote⟩
  | [] => .error ⟨0, .unbalancedOpen⟩
  | _ :: _ => .error ⟨1 + byteLength before, .nestedOpen⟩

def read (c : Char) (s : List Char) : Except Fault (Item × List Char) :=
  if isQuote c then
    match splitQuote c s with
    | none => .error ⟨0, .unterminatedQuote c⟩
    | some (inner, rest) => .ok (quoted c inner, rest)
  else
    match c, s with
    | '-', '-' :: rest => .ok (lineComment (rest.takeWhile (· != '\n')), rest.dropWhile (· != '\n'))
    | '/', '*' :: rest =>
      match splitComment rest with
      | none => .error ⟨0, .unterminatedComment⟩
      | some (inner, rest') => .ok (blockComment inner, rest')
    | '\\', d :: rest => if isEscapable d then .ok (escape d, rest) else .ok (plain c, d :: rest)
    | ':', ':' :: rest => .ok (cast, rest)
    | ':', rest => readParameter rest
    | '{', rest => readSlot rest
    | '}', _ => .error ⟨0, .unbalancedClose⟩
    | '?', _ => .error ⟨0, .positionalMark⟩
    | _, rest => .ok (plain c, rest)

theorem readParameter_eq {s : List Char} {item : Item} {rest : List Char}
    (h : readParameter s = .ok (item, rest)) : item.source ++ rest = ':' :: s := by
  simp only [readParameter] at h
  split at h
  · split at h
    · simp at h
    · rename_i path r hp
      simp only [Except.ok.injEq, Prod.mk.injEq] at h
      obtain ⟨rfl, rfl⟩ := h
      have := List.takeWhile_append_dropWhile (p := isNameChar) (l := s)
      rw [← readPath_eq hp] at this
      simpa [source] using this
  · simp at h

theorem checkName_eq {before : List Char} {after? : Option (List Char)} {r : List Char}
    {item : Item} {rest : List Char} (h : checkName before after? r = .ok (item, rest)) :
    item = slot before after? ∧ rest = r := by
  simp only [checkName] at h
  split at h
  · simp only [Except.ok.injEq, Prod.mk.injEq] at h
    exact ⟨h.1.symm, h.2.symm⟩
  · simp at h

theorem readSlot_eq {s : List Char} {item : Item} {rest : List Char}
    (h : readSlot s = .ok (item, rest)) : item.source ++ rest = '{' :: s := by
  have hs := spanName_eq s
  simp only [readSlot] at h
  split at h
  · rename_i r hr
    obtain ⟨rfl, rfl⟩ := checkName_eq h
    rw [hr] at hs
    simpa [source] using hs
  · rename_i r hr
    have hd := spanDefault_eq 0 r
    split at h
    · simp at h
    · rename_i r' hr'
      obtain ⟨rfl, rfl⟩ := checkName_eq h
      rw [hr'] at hd
      rw [hr, ← hd] at hs
      simpa [source] using hs
    · simp at h
  · simp at h
  · simp at h

theorem source_append_of_read {c : Char} {s : List Char} {item : Item} {rest : List Char}
    (h : read c s = .ok (item, rest)) : item.source ++ rest = c :: s := by
  unfold read at h
  split at h
  · split at h
    · simp at h
    · rename_i inner r hq
      simp only [Except.ok.injEq, Prod.mk.injEq] at h
      obtain ⟨rfl, rfl⟩ := h
      simp [source, ← splitQuote_eq hq]
  · split at h
    · simp only [Except.ok.injEq, Prod.mk.injEq] at h
      simp [← h.1, ← h.2, source, List.takeWhile_append_dropWhile]
    · split at h
      · simp at h
      · rename_i inner r hq
        simp only [Except.ok.injEq, Prod.mk.injEq] at h
        obtain ⟨rfl, rfl⟩ := h
        simp [source, ← splitComment_eq hq]
    · split at h <;>
      · simp only [Except.ok.injEq, Prod.mk.injEq] at h
        simp [← h.1, ← h.2, source]
    · simp only [Except.ok.injEq, Prod.mk.injEq] at h
      simp [← h.1, ← h.2, source]
    · exact readParameter_eq h
    · exact readSlot_eq h
    · simp at h
    · simp at h
    · simp only [Except.ok.injEq, Prod.mk.injEq] at h
      simp [← h.1, ← h.2, source]

theorem source_ne_nil (item : Item) : item.source ≠ [] := by
  cases item with
  | slot before after? => cases after? <;> simp [source]
  | _ => simp [source]

theorem length_lt_of_read {c : Char} {s : List Char} {item : Item} {rest : List Char}
    (h : read c s = .ok (item, rest)) : rest.length < (c :: s).length := by
  have hp := List.length_pos_iff.2 item.source_ne_nil
  rw [← source_append_of_read h, List.length_append]
  omega

end Item

end QueryCatalog.Template
