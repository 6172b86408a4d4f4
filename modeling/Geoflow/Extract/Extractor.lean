import Geoflow.Dsn.Login
import Geoflow.Extract.Resolver
import Geoflow.Extract.Server
import Geoflow.Pipeline

set_option autoImplicit false

namespace Geoflow

abbrev SourceLookup := Int64 → Int64 → Except String (Option DataSource)

abbrev Network := Dialect → Login → Except String DatabaseServer

/-- What reached the outside, which says how far an extraction came towards the server. -/
structure Contact where
  /-- The address that was dialed. -/
  dialed : Option String := none
  /-- The login that a server was given. -/
  login : Option (Dialect × Login) := none
  /-- The statements a server was sent. -/
  statements : List String := []
  deriving DecidableEq, Repr

/-- An outcome with the contact it took. -/
structure Attempt (α : Type) where
  contact : Contact
  outcome : Except ExtractError α

def Attempt.refused {α : Type} (e : ExtractError) : Attempt α := ⟨{}, .error e⟩

namespace Resolver

def connect (network : Network) (dialect : Dialect) (dsn : String) : Attempt DatabaseServer :=
  let failed := fun text => Except.error (ExtractError.connection (.reported text))
  match Login.read dsn with
  | .error fault =>
    .refused (.connection (.reported ("error with configuration: " ++ fault.message)))
  | .ok login =>
    match network dialect login with
    | .error text =>
      ⟨{ dialed := some dsn }, failed ("error communicating with database: " ++ text)⟩
    | .ok server =>
      ⟨{ dialed := some dsn, login := some (dialect, login) },
        match server.loginError, server.pingError with
        | some e, _ => failed e.message
        | none, some e => failed e.message
        | none, none => .ok server⟩

def address (r : Resolver) (source : DataSource) : Except ExtractError (Dialect × String) := do
  let (dialect, params) ← r.connectParams source
  return (dialect, ← Dsn.build dialect params)

def resolve (r : Resolver) (network : Network) (source : DataSource) :
    Attempt (Dialect × DatabaseServer) :=
  match r.address source with
  | .error e => .refused e
  | .ok (dialect, dsn) =>
    let attempt := connect network dialect dsn
    ⟨attempt.contact, attempt.outcome.map fun server => (dialect, server)⟩

/-- Connects to a source and leaves it again. -/
def testConnection (r : Resolver) (network : Network) (source : DataSource) : Attempt Unit :=
  let attempt := r.resolve network source
  ⟨attempt.contact, attempt.outcome.map fun _ => ()⟩

end Resolver

structure Extractor where
  resolver : Resolver
  lookup : SourceLookup
  network : Network
  /-- How many rows a preview shows. -/
  previewRows : UInt64

namespace Extractor

/-- At least one row is shown. -/
def shownRows (x : Extractor) : UInt64 := max x.previewRows 1

/-- The source of a pipeline and the statement for it, with another limit if one is given. -/
def select (x : Extractor) (pipeline : Pipeline) (limit : Option UInt64) :
    Except ExtractError (DataSource × String) := do
  let config ← Sql.readConfig pipeline.config
  let config := if limit.isSome then { config with limit } else config
  match x.lookup pipeline.dataSourceId pipeline.ownerId with
  | .error text => throw (.connection (.lookup text))
  | .ok none => throw (.connection .sourceNotFound)
  | .ok (some source) =>
    let dialect ← Dialect.ofProvider source.provider
    return (source, ← Sql.compile config dialect)

/-- A statement with the rows it will give; nothing is sent yet. -/
structure Cursor where
  statement : String
  items : List StreamItem

def openCursor (x : Extractor) (pipeline : Pipeline) (limit : Option UInt64) : Attempt Cursor :=
  match x.select pipeline limit with
  | .error e => .refused e
  | .ok (source, statement) =>
    let attempt := x.resolver.resolve x.network source
    { attempt with
      outcome := attempt.outcome.map fun (dialect, server) => ⟨statement, server.items dialect⟩ }

def send (contact : Contact) (statement : String) : Contact :=
  { contact with statements := contact.statements ++ [statement] }

def preview (x : Extractor) (pipeline : Pipeline) : Attempt (List Row) :=
  let attempt := x.openCursor pipeline (some x.shownRows)
  match attempt.outcome with
  | .error e => ⟨attempt.contact, .error e⟩
  | .ok cursor =>
    ⟨send attempt.contact cursor.statement, (materialize x.shownRows.toNat cursor.items).rows⟩

structure Run (σ : Type) where
  contact : Contact
  stream : Except Panic (StreamRun σ)

/-- Streams all rows of a pipeline to a consumer. The statement is sent when the first row is asked
for: never to a consumer that is cancelled from the start, and not where there is no buffer. -/
def run {σ : Type} (x : Extractor) (c : Consumer σ) (size : Nat) (state : σ) (pipeline : Pipeline) :
    Run σ :=
  let attempt := x.openCursor pipeline none
  match attempt.outcome with
  | .error e => ⟨attempt.contact, .ok ⟨{ state }, .error e⟩⟩
  | .ok cursor =>
    match streamBatches c size state cursor.items with
    | .error panic => ⟨attempt.contact, .error panic⟩
    | .ok stream =>
      ⟨if c.isCancelled state then attempt.contact else send attempt.contact cursor.statement,
        .ok stream⟩

end Extractor

end Geoflow
