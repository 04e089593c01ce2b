import Dataflow.Json.Read
import Dataflow.Proofs.Cache
import Dataflow.Proofs.Reorder
import Dataflow.Proofs.Uploads
import Dataflow.Proofs.FilterRows
import Dataflow.Proofs.NamedFiles
import Dataflow.Proofs.RoundTrip
import Dataflow.Proofs.NormalForm
import Dataflow.Proofs.ColumnWords
import Dataflow.Proofs.WrappingArithmetic
import Dataflow.Proofs.SortRows
