import Geoflow.Main
import Geoflow.Proofs.Cell.Interval
import Geoflow.Proofs.Cell.Unsigned
import Geoflow.Proofs.Cipher.Secret
import Geoflow.Proofs.Dsn.ReadBack
import Geoflow.Proofs.Dsn.Server
import Geoflow.Proofs.Extract.Agreement
import Geoflow.Proofs.Extract.Completeness
import Geoflow.Proofs.Extract.Interruption
import Geoflow.Proofs.Extract.Ownership
import Geoflow.Proofs.Extract.Preview
import Geoflow.Proofs.Json.Faithful
import Geoflow.Proofs.Row.Delivery
import Geoflow.Proofs.Row.Finiteness
import Geoflow.Proofs.Row.WholeNumber
import Geoflow.Proofs.Run.Persistence
import Geoflow.Proofs.Run.Tally
import Geoflow.Proofs.Schedule.Halves
import Geoflow.Proofs.Schedule.KeyText
import Geoflow.Proofs.Schedule.Normal
import Geoflow.Proofs.Schedule.Rebuild
import Geoflow.Proofs.Settings.Key
import Geoflow.Proofs.Sql.Checks
import Geoflow.Proofs.Sql.Containment
import Geoflow.Proofs.Sql.Context
import Geoflow.Proofs.Sql.Injectivity
import Geoflow.Proofs.Sql.Keyword
import Geoflow.Proofs.Sql.Sequence
import Geoflow.Proofs.Store.Catalogue
import Geoflow.Proofs.Store.Conservation
import Geoflow.Proofs.Store.Sessions
import Geoflow.Proofs.Sync.Order
import Geoflow.Proofs.Url.Host
import Geoflow.Proofs.Validation.Accounting
import Geoflow.Proofs.Validation.Pacing
import Geoflow.Store.Outside
import Geoflow.Validation.Remote
import Geoflow.Validation.Throttle
