import QueryCatalog.Catalog.Basic
import QueryCatalog.Catalog.Document
import QueryCatalog.CommandLine.Request
import QueryCatalog.Template.Listing
import QueryCatalog.Value.Plain

namespace QueryCatalog.CommandLine

inductive Failure
  | error (e : Error)
  | arguments
  | define (text : String)

def Failure.message : Failure → String
  | error e => e.withCode
  | arguments => "--args expects a JSON document"
  | define text => s!"--define expects NAME=FRAGMENT, got '{text}'"

/-- A program that stops for want of memory has an exit code of its own. -/
def Failure.exitCode : Failure → UInt32
  | error .outOfMemory => 101
  | _ => 1

def compiled (format : Format) (t : Template) : String :=
  match format with
  | .text => t.listing
  | .json => t.summary.indented ++ "\n"

def planned (format : Format) (p : Plan) : String :=
  match format with
  | .text => p.listing
  | .json => p.summary.indented ++ "\n"

def readDefine (text : String) : Except Failure (String × String) :=
  let cs := text.toList
  match cs.dropWhile (· != '=') with
  | [] => .error (.define text)
  | _ :: fragment =>
    .ok (String.ofList (Text.trim (cs.takeWhile (· != '='))), String.ofList fragment)

def contextOf (call : Call) : Except Failure Context := do
  let ctx ← match call.args? with
    | none => pure Context.empty
    | some text =>
      match Json.parse? text with
      | none => throw .arguments
      | some j => (Context.ofEntity (Value.ofJson j)).mapError .error
  let fragments ← call.defines.mapM readDefine
  return { ctx with fragments := ctx.fragments.insertAll fragments }

def planOf (call : Call) (config? : Option String) (now : Int) : Except Failure Plan := do
  let text ← match config? with
    | some text => pure text
    | none => throw (.error .io)
  let config ← (CatalogConfig.parse text).mapError .error
  let (catalog, _) ← (Catalog.build config { resolver := Resolver.byName }).mapError .error
  let ctx ← contextOf call
  (catalog.plan call.method ctx now).mapError .error

def answer (r : Request) (config? : Option String) (now : Int) : Except Failure String :=
  match r.command with
  | .compile sql => ((Binding.compile sql).map (compiled r.format)).mapError .error
  | .bind call => (planOf call config? now).map (planned r.format)

end QueryCatalog.CommandLine
