import Geoflow.Json.Reader
import Geoflow.Sql.Fragment
import Geoflow.Url.Authority

set_option autoImplicit false

namespace Geoflow

/-- A field of a pipeline document that is checked by itself. -/
inductive FieldName where
  | baseTable
  | targetColumn (mapping : Nat)
  | expression (mapping : Nat)
  | joinTable (join : Nat)
  | onSource (join : Nat)
  | onTarget (join : Nat)
  | filterColumn (filter : Nat)
  | filterOperator (filter : Nat)
  | filterValue (filter : Nat)
  | named (name : String)
  deriving DecidableEq, Repr

def entryName (list : String) (index : Nat) (part : String) : String :=
  list ++ "[" ++ Numeral.ofNat index ++ "]." ++ part

def FieldName.text : FieldName → String
  | .baseTable => "base_table"
  | .targetColumn i => entryName "mappings" i "target_column"
  | .expression i => entryName "mappings" i "expression"
  | .joinTable i => entryName "joins" i "table"
  | .onSource i => entryName "joins" i "on_source"
  | .onTarget i => entryName "joins" i "on_target"
  | .filterColumn i => entryName "filters" i "column"
  | .filterOperator i => entryName "filters" i "operator"
  | .filterValue i => entryName "filters" i "value"
  | .named name => name

inductive ConfigFault where
  | baseTableRequired
  | mappingRequired
  | unreadable (error : ReadError)
  | reported (text : String)
  deriving DecidableEq, Repr

def ConfigFault.message : ConfigFault → String
  | .baseTableRequired => "base_table is required"
  | .mappingRequired => "at least one column mapping is required"
  | .unreadable error => "invalid pipeline config: " ++ error.message
  | .reported text => text

inductive FieldFault where
  | fragment (fault : Sql.FragmentFault)
  | reported (text : String)
  deriving DecidableEq, Repr

def FieldFault.message : FieldFault → String
  | .fragment fault => fault.message
  | .reported text => text

inductive ConnectionFault where
  | unsupportedProvider (provider : String)
  | address (fault : AddressFault)
  | username
  | password
  | lookup (text : String)
  | sourceNotFound
  | credentials
  | reported (text : String)
  deriving DecidableEq, Repr

def ConnectionFault.message : ConnectionFault → String
  | .unsupportedProvider provider => "unsupported provider: " ++ provider
  | .address fault => "invalid host or port: " ++ fault.message
  | .username => "invalid username"
  | .password => "invalid password"
  | .lookup text => "data source lookup failed: " ++ text
  | .sourceNotFound => "data source not found or unauthorized"
  | .credentials => "failed to decrypt source credentials"
  | .reported text => text

/-- A failure of the consumer of batches: what it says, and whether it is that the run was
cancelled. -/
structure ConsumerFailure where
  text : String
  isCancelled : Bool
  deriving DecidableEq, Repr

/-- Why an extraction ended early. -/
inductive ExtractError where
  | config (fault : ConfigFault)
  | validation (field : FieldName) (fault : FieldFault)
  | connection (fault : ConnectionFault)
  | execution (text : String)
  | consumer (failure : ConsumerFailure)
  | cancelled
  deriving DecidableEq, Repr

namespace ExtractError

def code : ExtractError → String
  | .config _ => "CONFIG_ERROR"
  | .validation .. => "VALIDATION_ERROR"
  | .connection _ => "CONNECTION_ERROR"
  | .execution _ => "EXECUTION_ERROR"
  | .consumer _ => "CONSUMER_ERROR"
  | .cancelled => "CANCELLED"

def message : ExtractError → String
  | .config fault => "Configuration error: " ++ fault.message
  | .validation field fault => "Validation error in " ++ field.text ++ ": " ++ fault.message
  | .connection fault => "Connection error: " ++ fault.message
  | .execution text => "Execution error: " ++ text
  | .consumer failure => "Consumer error: " ++ failure.text
  | .cancelled => "Extraction cancelled"

/-- The failure of a consumer that stops with an extraction error of its own. -/
def asConsumerFailure (e : ExtractError) : ConsumerFailure :=
  ⟨e.message, e == .cancelled⟩

end ExtractError

end Geoflow
