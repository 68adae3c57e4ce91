import Ripfs.Basic
import Ripfs.Oci
import Ripfs.Walker
import Ripfs.Writer
import Ripfs.Toy
import Ripfs.Webhook
import Ripfs.Reference
import Ripfs.AddCommand
import Ripfs.NameMap
import Ripfs.Server
import Ripfs.Race
import Ripfs.Seeder
import Ripfs.Proof.Convert
import Ripfs.Proof.Walk
import Ripfs.Proof.Ingest
import Ripfs.Proof.RoundTrip
import Ripfs.Proof.Admission
import Ripfs.Proof.Keys
import Ripfs.Proof.NameMap
import Ripfs.Proof.Server
import Ripfs.Proof.Pull
import Ripfs.Proof.Race
import Ripfs.Proof.Stable
import Ripfs.Proof.Seeder
