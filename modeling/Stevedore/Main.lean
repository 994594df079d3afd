import Stevedore.Backend.Store
import Stevedore.Http.Router
import Stevedore.Options.Help
/-!
# The program

Takes its options from the command line and the environment and answers requests against a cluster
in memory. A request is a line with the method, the URI and the body, separated by blanks; its
answer is a line with the status and the body.
-/

namespace Stevedore

/-- Splits a text at the first blank. -/
def atBlank (cs : List Char) : List Char × List Char :=
  (cs.takeWhile (· != ' '), (cs.dropWhile (· != ' ')).drop 1)

/-- The request on a line, if its URI is one. -/
def Http.Request.ofLine? (line : String) : Option Http.Request :=
  let (method, rest) := atBlank line.toList
  let (target, body) := atBlank rest
  match Uri.parse (String.ofList target) with
  | .ok uri => some ⟨String.ofList method, uri, (String.ofList body).toUTF8.toList⟩
  | .error _ => none

/-- The line that answers with a response. -/
def Http.Response.line (r : Http.Response) : String := Decimal.ofNat r.status ++ " " ++ r.body

/-- Answers the request on a line. -/
def answerLine (config : Config) (line : String) (store : Backend.Store) : String × Backend.Store :=
  match Http.Request.ofLine? line with
  | none => ("400 ", store)
  | some request =>
    match (Http.respond config (.steady _ 0 1) request).run Backend.Store.handle store with
    | (.ok response, store) => (response.line, store)
    | (.error _, store) => ("500 ", store)

/-- Answers the lines of the input until it ends. -/
partial def serve (config : Config) (input output : IO.FS.Stream) (store : Backend.Store) :
    IO Unit := do
  let line ← input.getLine
  if !line.isEmpty then
    let (answer, store) := answerLine config (Text.trim line) store
    output.putStrLn answer
    output.flush
    serve config input output store

/-- The variables of the environment that options are taken from. -/
def readEnvironment : IO Options.Environment := do
  let values ← Flag.all.mapM fun flag => do
    return (flag.variableName, ← IO.getEnv flag.variableName)
  return fun name => (values.lookup name).join

end Stevedore

open Stevedore in
/-- Serves with the options of the command line; otherwise shows why not. -/
def main (args : List String) : IO UInt32 := do
  match Options.parse args (← readEnvironment) with
  | .ok options =>
    serve options.config (← IO.getStdin) (← IO.getStdout) {}
    return 0
  | .error refusal =>
    if refusal.isRequest then
      IO.print refusal.text
      return 0
    else
      IO.eprint refusal.text
      return 2
