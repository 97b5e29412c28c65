import BucketSteward.Json.Printer
import BucketSteward.Resource.Definition

/-!
The command line prints the definition of the bucket resource, ready to be registered with a
cluster.
-/

def main : IO Unit :=
  IO.println BucketSteward.Definition.document.print
