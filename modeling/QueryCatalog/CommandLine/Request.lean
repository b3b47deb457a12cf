namespace QueryCatalog.CommandLine

inductive Argument
  | option (name value : String)
  | word (text : String)
  | literal (text : String)
  deriving DecidableEq, Repr

def isDashed : List Char → Bool
  | '-' :: _ :: _ => true
  | _ => false

/-- Tells options and words apart; none if an option lacks its value or has a short name. -/
def readArguments : List String → Option (List Argument)
  | [] => some []
  | arg :: rest =>
    match arg.toList with
    | ['-', '-'] => some (rest.map .literal)
    | '-' :: '-' :: option =>
      let name := String.ofList (option.takeWhile (· != '='))
      match option.dropWhile (· != '=') with
      | _ :: value => (readArguments rest).map (.option name (String.ofList value) :: ·)
      | [] =>
        match rest with
        | [] => none
        | value :: rest =>
          if isDashed value.toList then none
          else (readArguments rest).map (.option name value :: ·)
    | s => if isDashed s then none else (readArguments rest).map (.word arg :: ·)

inductive Format
  | text
  | json
  deriving DecidableEq, Repr

def Format.ofName? : String → Option Format
  | "text" => some .text
  | "json" => some .json
  | _ => none

structure Options where
  format? : Option Format := none
  log? : Option String := none
  config? : Option String := none
  method? : Option String := none
  args? : Option String := none
  defines : List String := []
  words : List String := []

namespace Options

def once {α : Type} (old? : Option α) (new : α) : Option (Option α) :=
  match old? with
  | none => some (some new)
  | some _ => none

def addGlobal (o : Options) (name value : String) : Option Options := do
  match name with
  | "format" => return { o with format? := ← once o.format? (← Format.ofName? value) }
  | "log" => return { o with log? := ← once o.log? value }
  | _ => none

def addCall (o : Options) (name value : String) : Option Options := do
  match name with
  | "config" =>
    if value.isEmpty then none
    return { o with config? := ← once o.config? value }
  | "method" => return { o with method? := ← once o.method? value }
  | "args" => return { o with args? := ← once o.args? value }
  | "define" => return { o with defines := o.defines ++ [value] }
  | _ => o.addGlobal name value

def collect (add : Options → String → String → Option Options) (arguments : List Argument) :
    Option Options :=
  arguments.foldlM (fun o a ↦
    match a with
    | .option name value => add o name value
    | .word text => some { o with words := o.words ++ [text] }
    | .literal text => some { o with words := o.words ++ [text] }) {}

end Options

structure Call where
  config : String
  method : String
  args? : Option String
  defines : List String
  deriving DecidableEq, Repr

inductive Command
  | compile (sql : String)
  | bind (call : Call)
  deriving DecidableEq, Repr

structure Request where
  format : Format
  command : Command
  deriving DecidableEq, Repr

def isOption : Argument → Bool
  | .option _ _ => true
  | _ => false

def readCommand (name : String) (arguments : List Argument) : Option (Command × Options) :=
  match name with
  | "compile" => do
    let o ← Options.collect Options.addGlobal arguments
    match o.words with
    | [sql] => return (.compile sql, o)
    | _ => none
  | "bind" => do
    let o ← Options.collect Options.addCall arguments
    if o.words.isEmpty then return (.bind ⟨← o.config?, ← o.method?, o.args?, o.defines⟩, o)
    else none
  | _ => none

def Request.parse? (args : List String) : Option Request := do
  let arguments ← readArguments args
  let outer ← Options.collect Options.addGlobal (arguments.takeWhile isOption)
  match arguments.dropWhile isOption with
  | .word name :: rest =>
    let (command, inner) ← readCommand name rest
    return ⟨(inner.format? <|> outer.format?).getD .text, command⟩
  | _ => none

def Request.path? (r : Request) : Option String :=
  match r.command with
  | .compile _ => none
  | .bind call => some call.config

end QueryCatalog.CommandLine
