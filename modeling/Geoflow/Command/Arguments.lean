set_option autoImplicit false

namespace Geoflow.Command

inductive Verb where
  | serve
  | compile
  | encryptSecret
  deriving DecidableEq, Repr

def Verb.ofName? (name : String) : Option Verb :=
  match name with
  | "serve" => some .serve
  | "compile" => some .compile
  | "encrypt-secret" => some .encryptSecret
  | _ => none

inductive Setting where
  | config
  | pipeline
  | dialect
  deriving DecidableEq, Repr

def Setting.name : Setting → String
  | .config => "--config"
  | .pipeline => "--pipeline"
  | .dialect => "--dialect"

/-- The options that may stand where no command was named yet, or behind one. -/
def Setting.known : Option Verb → List Setting
  | some .compile => [.config, .pipeline, .dialect]
  | _ => [.config]

inductive Misuse where
  | noCommand
  | unexpected (argument : String)
  | valueMissing (setting : Setting)
  | repeated (setting : Setting)
  | required (what : String)
  deriving DecidableEq, Repr

def Misuse.message : Misuse → String
  | .noCommand => "a command is required"
  | .unexpected argument => "unexpected argument '" ++ argument ++ "'"
  | .valueMissing setting => "a value is required for '" ++ setting.name ++ "'"
  | .repeated setting => "the argument '" ++ setting.name ++ "' cannot be used multiple times"
  | .required what => "the argument '" ++ what ++ "' is required"

structure Chosen where
  verb : Option Verb := none
  /-- The settings file named before the command. -/
  outerConfig : Option String := none
  config : Option String := none
  pipeline : Option String := none
  dialect : Option String := none
  text : Option String := none
  deriving DecidableEq, Repr

inductive Token where
  | word
  | dashes
  | help
  /-- An option with its value, if that is in the same argument. -/
  | option (setting : Setting) (value : Option String)
  | unknown
  deriving DecidableEq, Repr

/-- Whether an argument can be a value or a word: it has no dash in front, or is only one. -/
def isWord (argument : List Char) : Bool :=
  match argument with
  | ['-'] => true
  | '-' :: _ => false
  | _ => true

def afterEquals? (cs : List Char) : Option String :=
  match cs.dropWhile (· != '=') with
  | [] => none
  | _ :: value => some (String.ofList value)

def Token.read (verb : Option Verb) (argument : String) : Token :=
  let cs := argument.toList
  if isWord cs then .word
  else match cs with
    | ['-', '-'] => .dashes
    | '-' :: '-' :: _ =>
      let name := String.ofList (cs.takeWhile (· != '='))
      if argument = "--help" then .help
      else match (Setting.known verb).find? (·.name == name) with
        | some setting => .option setting (afterEquals? cs)
        | none => .unknown
    | '-' :: 'h' :: _ => .help
    | '-' :: 'c' :: [] => .option .config none
    | '-' :: 'c' :: '=' :: value => .option .config (some (String.ofList value))
    | '-' :: 'c' :: value => .option .config (some (String.ofList value))
    | _ => .unknown

inductive Call where
  | serve
  | compile (pipeline dialect : String)
  | encryptSecret (plaintext : String)
  deriving DecidableEq, Repr

structure Invocation where
  config : Option String
  call : Call
  deriving DecidableEq, Repr

inductive Request where
  | run (invocation : Invocation)
  | help
  | misuse (cause : Misuse)
  deriving DecidableEq, Repr

namespace Chosen

/-- Notes the value of an option. Only the name of a file must not be empty. -/
def set (c : Chosen) (setting : Setting) (value : String) : Except Misuse Chosen :=
  match setting with
  | .config =>
    if c.verb.isNone then
      if c.outerConfig.isSome then .error (.repeated setting)
      else .ok { c with outerConfig := some value }
    else if c.config.isSome then .error (.repeated setting)
    else .ok { c with config := some value }
  | .pipeline =>
    if c.pipeline.isSome then .error (.repeated setting)
    else if value.isEmpty then .error (.valueMissing setting)
    else .ok { c with pipeline := some value }
  | .dialect =>
    if c.dialect.isSome then .error (.repeated setting)
    else .ok { c with dialect := some value }

/-- Notes a plain word behind a command; only a text to encrypt is one. -/
def word (c : Chosen) (w : String) : Except Misuse Chosen :=
  if c.verb = some .encryptSecret ∧ c.text.isNone then .ok { c with text := some w }
  else .error (.unexpected w)

def defaultDialect : String := "postgresql"

def call (c : Chosen) : Except Misuse Call :=
  match c.verb with
  | none => .error .noCommand
  | some .serve => .ok .serve
  | some .compile => match c.pipeline with
    | some pipeline => .ok (.compile pipeline (c.dialect.getD defaultDialect))
    | none => .error (.required "--pipeline <PIPELINE>")
  | some .encryptSecret => match c.text with
    | some text => .ok (.encryptSecret text)
    | none => .error (.required "<PLAINTEXT>")

def request (c : Chosen) : Request :=
  match c.call with
  | .ok call => .run ⟨c.config <|> c.outerConfig, call⟩
  | .error cause => .misuse cause

end Chosen

/-- What the next argument must be. -/
inductive Expecting where
  | anything
  /-- The value of an option. -/
  | value (setting : Setting)
  /-- A plain word, after two dashes. -/
  | word
  /-- The name of a command to be explained. -/
  | topic
  deriving DecidableEq, Repr

def readFrom : Expecting → Chosen → List String → Request
  | .value setting, _, [] => .misuse (.valueMissing setting)
  | .topic, _, [] => .help
  | _, chosen, [] => chosen.request
  | .value setting, chosen, argument :: rest =>
    if isWord argument.toList then
      match chosen.set setting argument with
      | .ok chosen => readFrom .anything chosen rest
      | .error cause => .misuse cause
    else .misuse (.valueMissing setting)
  | .word, chosen, argument :: rest =>
    match chosen.word argument with
    | .ok chosen => readFrom .word chosen rest
    | .error cause => .misuse cause
  | .topic, _, argument :: rest =>
    if ((Verb.ofName? argument).isSome ∨ argument = "help") ∧ rest.isEmpty then .help
    else .misuse (.unexpected argument)
  | .anything, chosen, argument :: rest =>
    match Token.read chosen.verb argument with
    | .dashes => readFrom .word chosen rest
    | .help => .help
    | .unknown => .misuse (.unexpected argument)
    | .option setting none => readFrom (.value setting) chosen rest
    | .option setting (some value) =>
      match chosen.set setting value with
      | .ok chosen => readFrom .anything chosen rest
      | .error cause => .misuse cause
    | .word =>
      if chosen.verb.isSome then
        match chosen.word argument with
        | .ok chosen => readFrom .anything chosen rest
        | .error cause => .misuse cause
      else if argument = "help" then readFrom .topic chosen rest
      else match Verb.ofName? argument with
        | some verb => readFrom .anything { chosen with verb := some verb } rest
        | none => .misuse (.unexpected argument)

/-- Reads the arguments of a call. Options may stand on both sides of the command, with their value
in the next argument or behind an equals sign; after two dashes everything is a plain word. -/
def readArguments (arguments : List String) : Request := readFrom .anything {} arguments

end Geoflow.Command
