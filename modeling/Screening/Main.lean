/-
# Screening.Main -- the program

`evaluate` prints a report; `serve`, or no command, answers requests that come in on
the standard input and writes the responses to the standard output.
-/
import Screening.Evaluation
import Screening.Http.Message

namespace Screening.Program

set_option autoImplicit false

/-- The variables of the environment that are looked at. -/
def variableNames : List String :=
  ["APP_ENV", "APP_HOST", "APP_PORT", "APP_LOG_LEVEL", "APP_LOG_TARGETS",
    "ELIGIBILITY_DATA_PATH", "RUST_LOG"]

def environment : IO (String → Option String) := do
  let known ← variableNames.filterMapM fun name => do
    return (← IO.getEnv name).map fun value => (name, value)
  return (Keyed.ofList known).get?

def readFile (path : String) : IO (Except String String) := do
  try
    return .ok (← IO.FS.readFile path)
  catch error =>
    return .error (toString error)

/-- The lines up to an empty one. -/
partial def readHeaders (input : IO.FS.Stream) : IO (List String) := do
  let line ← input.getLine
  if (Text.trim line.toList).isEmpty then return []
  else return line :: (← readHeaders input)

partial def respond (input output : IO.FS.Stream) (site : Http.Site) : IO Unit := do
  let first ← input.getLine
  if first.isEmpty then return
  let headers ← readHeaders input
  let body ← input.read (USize.ofNat (Http.bodyLength headers))
  let request := (String.fromUTF8? body).bind (Http.request? first headers)
  let (response, site) :=
    match request with
    | none => (Http.Response.empty 400, site)
    | some request => Http.handle site request
  output.putStr response.written
  output.flush
  respond input output site

/-- Answers requests until there are no more. -/
def serve (options : CommandLine.ServeOptions) : IO (Except Failure Unit) := do
  let lookup? ← environment
  match Settings.load lookup? with
  | .error error => return .error (.settings error)
  | .ok settings =>
      let settings := {
        settings with
        host := options.host.getD settings.host
        port := options.port.getD settings.port
        dataPath := options.data.getD settings.dataPath }
      match setUpLogging false (lookup? "RUST_LOG") settings.logLevel with
      | .error error => return .error (.logging error)
      | .ok _ =>
          match ((← readFile settings.dataPath).mapError Catalog.LoadError.unreadable).bind
              Catalog.load with
          | .error error => return .error (.catalog error)
          | .ok catalog =>
              match settings.listenAt with
              | .error error => return .error (.settings error)
              | .ok _ =>
                  respond (← IO.getStdin) (← IO.getStdout) { host := { catalog } }
                  return .ok ()

def evaluate (options : CommandLine.EvaluateOptions) : IO (Except Failure Unit) := do
  match ← Evaluation.evaluate options (← environment) readFile with
  | .error failure => return .error failure
  | .ok text =>
      IO.print text
      return .ok ()

def run (words : List String) : IO UInt32 := do
  match CommandLine.parse words with
  | .error stop =>
      if stop.exitCode = 0 then IO.println stop.message else IO.eprintln stop.message
      return UInt32.ofNat stop.exitCode
  | .ok command =>
      let outcome ←
        match command.getD (.serve {}) with
        | .serve options => serve options
        | .evaluate options => evaluate options
      match outcome with
      | .ok () => return 0
      | .error failure =>
          IO.eprintln ("application error: " ++ failure.message)
          return 1

end Screening.Program

def main (words : List String) : IO UInt32 := Screening.Program.run words
