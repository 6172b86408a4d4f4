import Geoflow.Cipher.Secret
import Geoflow.Dsn.Build
import Geoflow.Settings.Basic
import Geoflow.Source

set_option autoImplicit false

namespace Geoflow

structure Resolver where
  aesKey : String
  maxConnections : UInt32
  connectTimeoutSecs : UInt64

namespace Resolver

/-- A resolver from settings; at least one connection is allowed. -/
def ofSettings (aesKey : String) (s : ExtractSettings) : Resolver :=
  ⟨aesKey, max s.maxConnections 1, s.connectTimeoutSecs⟩

def connectParams (r : Resolver) (source : DataSource) :
    Except ExtractError (Dialect × ConnectParams) := do
  let dialect ← Dialect.ofProvider source.provider
  match Secret.decrypt source.password r.aesKey with
  | .error _ => throw (.connection .credentials)
  | .ok password =>
    return (dialect, ⟨source.host, source.port, source.database, source.username, password⟩)

def outline (r : Resolver) : String :=
  Text.partialOutline "CredentialResolver"
    [("max_connections", Text.integerText r.maxConnections.toNat),
      ("connect_timeout", Text.durationText r.connectTimeoutSecs.toNat)]

end Resolver

end Geoflow
