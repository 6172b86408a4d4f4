import Geoflow.Cipher.Secret
import Geoflow.Command.Arguments
import Geoflow.Settings.Load
import Geoflow.Sql.Statement

set_option autoImplicit false

namespace Geoflow.Command

inductive FileFault where
  | missing
  | folder
  | notFolder
  | notText
  deriving DecidableEq, Repr

def FileFault.message : FileFault → String
  | .missing => "No such file or directory (os error 2)"
  | .folder => "Is a directory (os error 21)"
  | .notFolder => "Not a directory (os error 20)"
  | .notText => "stream did not contain valid UTF-8"

abbrev FileAnswer := Except FileFault String

/-- The file a command needs. A settings file is also looked for in the folders above, and may be
missing. -/
inductive FileNeed where
  | document (path : String)
  | settings (path : String)
  deriving DecidableEq, Repr

inductive Failure where
  | file (fault : FileFault)
  | notJson
  | extract (error : ExtractError)
  | settings (error : Settings.LoadError)
  | secret (fault : SecretFault)
  deriving DecidableEq, Repr

def Failure.message : Failure → String
  | .file fault => fault.message
  | .notJson => "the document is not JSON"
  | .extract error => error.message
  | .settings error => error.message
  | .secret fault => Secret.errorText fault.message

inductive Outcome where
  /-- It prints a line. -/
  | prints (line : String)
  /-- It starts the service. -/
  | serves (settings : Settings)
  deriving DecidableEq, Repr

def homeOf (env : Environment) : Option String := env.lookup "HOME"

/-- The settings file: as named by an option, else by a variable, else in the home folder. -/
def settingsPath (named : Option String) (env : Environment) : String :=
  (named <|> env.lookup "GEOETL_CONFIG").getD (defaultSettingsPath (homeOf env))

def Invocation.need (i : Invocation) (env : Environment) : FileNeed :=
  match i.call with
  | .compile pipeline _ => .document pipeline
  | _ => .settings (settingsPath i.config env)

/-- The settings in the answer for their file; only a file that can be opened has a say. -/
def loadSettings (env : Environment) (answer : FileAnswer) : Except Failure Settings :=
  let loaded := fun file => (Settings.load (homeOf env) file env).mapError Failure.settings
  match answer with
  | .ok text => loaded (some text)
  | .error .notText => .error (.file .notText)
  | .error _ => loaded none

def compileText (answer : FileAnswer) (dialect : String) : Except Failure String := do
  let text ← answer.mapError .file
  let document ← match Json.parse? text with
    | some document => pure document
    | none => throw .notJson
  let dialect ← (Dialect.ofProvider dialect).mapError Failure.extract
  (Sql.compileDocument document dialect).mapError .extract

/-- Runs an invocation with the answer for the file it needs, and 12 octets to encrypt with. -/
def Invocation.run (i : Invocation) (env : Environment) (answer : FileAnswer) (nonce : List UInt8) :
    Except Failure Outcome :=
  match i.call with
  | .compile _ dialect => (compileText answer dialect).map .prints
  | .serve => (loadSettings env answer).map .serves
  | .encryptSecret plaintext => do
    let settings ← loadSettings env answer
    let text ← (Secret.encrypt nonce plaintext settings.security.aesKey).mapError Failure.secret
    return .prints text

def failureCode : UInt32 := 1

def misuseCode : UInt32 := 2

def Failure.report (f : Failure) : String := "Error: " ++ f.message

def Misuse.report (m : Misuse) : String := "error: " ++ m.message

end Geoflow.Command
