import Geoflow.Command.Run
import Geoflow.Command.Service
import Geoflow.Command.Surroundings

set_option autoImplicit false

namespace Geoflow.Command

def usage : String :=
  "Usage: geoflow [--config <CONFIG>] <COMMAND>\n\n"
    ++ "Commands:\n"
    ++ "  serve                                              run the service\n"
    ++ "  compile --pipeline <PIPELINE> [--dialect <NAME>]   print the statement of a pipeline\n"
    ++ "  encrypt-secret <PLAINTEXT>                         print the stored form of a secret\n"

def readFile (path : String) : IO FileAnswer := do
  try
    let bytes ← IO.FS.readBinFile path
    match Utf8.decode bytes.toList with
    | .ok cs => return .ok (String.ofList cs)
    | .error _ => return .error .notText
  catch
    | .inappropriateType _ 21 _ => return .error .folder
    | .inappropriateType .. => return .error .notFolder
    | _ => return .error .missing

def readFirst : List String → IO FileAnswer
  | [] => return .error .missing
  | path :: rest => do
    match ← readFile path with
    | .ok text => return .ok text
    | .error .notText => return .error .notText
    | .error _ => readFirst rest

def readNeed (need : FileNeed) : IO FileAnswer := do
  match need with
  | .document path => readFile path
  | .settings path => readFirst (settingsPlaces (← IO.currentDir).toString path)

/-- Runs the service until the standard input ends. -/
def runService : IO UInt32 := do
  match Service.start {} with
  | .error e =>
    IO.eprintln ("Error: " ++ e.message)
    return failureCode
  | .ok service =>
    IO.println service.counts.line
    (← IO.getStdout).flush
    let _ ← (← IO.getStdin).readToEnd
    IO.println "shutdown requested"
    return 0

def runInvocation (invocation : Invocation) : IO UInt32 := do
  let env := environmentOfBlock (← IO.FS.readBinFile "/proc/self/environ").toList
  let answer ← readNeed (invocation.need env)
  let nonce ← IO.getRandomBytes Secret.nonceLength.toUSize
  match invocation.run env answer nonce.toList with
  | .error failure =>
    IO.eprintln failure.report
    return failureCode
  | .ok (.prints line) =>
    IO.println line
    return 0
  | .ok (.serves _) => runService

def runRequest (request : Request) : IO UInt32 := do
  match request with
  | .help =>
    IO.print usage
    return 0
  | .misuse cause =>
    IO.eprintln cause.report
    IO.eprint ("\n" ++ usage)
    return misuseCode
  | .run invocation => runInvocation invocation

end Geoflow.Command

def main (arguments : List String) : IO UInt32 :=
  Geoflow.Command.runRequest (Geoflow.Command.readArguments arguments)
