import BucketSteward.Configuration.Analytics
import BucketSteward.Wire.Tag

/-!
Storage class analysis on the wire: a configuration has an id, an export names the version of its
schema, and the bucket that receives it is named with a format. A filter is one of three kinds; of
several members that are written the first of `and`, `prefix` and `tag` counts, and a filter
without any of them is none.
-/

namespace BucketSteward.Wire

structure AnalyticsBucket where
  bucket : String
  bucketAccountId : Option String
  format : String
  keyPrefix : Option String
  deriving DecidableEq, Repr

namespace AnalyticsBucket

def encode (destination : AnalyticsS3BucketDestination) : Encoded AnalyticsBucket := do
  let format ← demand "AnalyticsS3BucketDestination" "format" destination.format
  let bucket ← demand "AnalyticsS3BucketDestination" "bucket" destination.bucket
  pure {
    bucket
    bucketAccountId := destination.bucketAccountId
    format
    keyPrefix := destination.keyPrefix }

def decode (destination : AnalyticsBucket) : AnalyticsS3BucketDestination where
  bucket := some destination.bucket
  bucketAccountId := destination.bucketAccountId
  format := some destination.format
  keyPrefix := destination.keyPrefix

def blank : AnalyticsBucket where
  bucket := ""
  bucketAccountId := none
  format := unset
  keyPrefix := none

end AnalyticsBucket

structure AnalyticsDestination where
  bucket : Option AnalyticsBucket
  deriving DecidableEq, Repr

namespace AnalyticsDestination

def encode (destination : AnalyticsExportDestination) : Encoded AnalyticsDestination := do
  let bucket ← encodeOption AnalyticsBucket.encode destination.s3BucketDestination
  pure { bucket }

def decode (destination : AnalyticsDestination) : AnalyticsExportDestination where
  s3BucketDestination := destination.bucket.map AnalyticsBucket.decode

def completed (destination : AnalyticsDestination) : AnalyticsDestination where
  bucket := some (destination.bucket.getD AnalyticsBucket.blank)

end AnalyticsDestination

structure DataExport where
  destination : Option AnalyticsDestination
  outputSchemaVersion : String
  deriving DecidableEq, Repr

namespace DataExport

def encode (dataExport : StorageClassAnalysisDataExport) : Encoded DataExport := do
  let destination ← encodeOption AnalyticsDestination.encode dataExport.destination
  let outputSchemaVersion ←
    demand "StorageClassAnalysisDataExport" "output_schema_version" dataExport.outputSchemaVersion
  pure { destination, outputSchemaVersion }

def decode (dataExport : DataExport) : StorageClassAnalysisDataExport where
  destination := dataExport.destination.map AnalyticsDestination.decode
  outputSchemaVersion := some dataExport.outputSchemaVersion

def completed (dataExport : DataExport) : DataExport where
  destination := some (dataExport.destination.getD ⟨none⟩).completed
  outputSchemaVersion := dataExport.outputSchemaVersion

end DataExport

structure Analysis where
  dataExport : Option DataExport
  deriving DecidableEq, Repr

namespace Analysis

def encode (analysis : StorageClassAnalysis) : Encoded Analysis := do
  let dataExport ← encodeOption DataExport.encode analysis.dataExport
  pure { dataExport }

def decode (analysis : Analysis) : StorageClassAnalysis where
  dataExport := analysis.dataExport.map DataExport.decode

def completed (analysis : Analysis) : Analysis where
  dataExport := analysis.dataExport.map DataExport.completed

end Analysis

inductive AnalyticsFilter where
  | and (and : AndOperator)
  | keyPrefix (keyPrefix : String)
  | tag (tag : Tag)
  deriving DecidableEq, Repr

namespace AnalyticsFilter

def encode (filter : ConfigurationFilter) : Encoded (Option AnalyticsFilter) :=
  match filter.and, filter.keyPrefix, filter.tag with
  | some operator, _, _ => do
      let operator ← AndOperator.encode operator
      pure (some (.and operator))
  | none, some text, _ => .ok (some (.keyPrefix text))
  | none, none, some written => do
      let written ← Tag.encode written
      pure (some (.tag written))
  | none, none, none => .ok none

def decode : AnalyticsFilter → ConfigurationFilter
  | and operator => { and := some operator.decode }
  | keyPrefix text => { keyPrefix := some text }
  | tag written => { tag := some written.decode }

end AnalyticsFilter

structure Analytics where
  id : String
  filter : Option AnalyticsFilter
  storageClassAnalysis : Option Analysis
  deriving DecidableEq, Repr

namespace Analytics

def encode (configuration : AnalyticsConfiguration) : Encoded Analytics := do
  let filter ← encodeOption AnalyticsFilter.encode configuration.filter
  let storageClassAnalysis ← encodeOption Analysis.encode configuration.storageClassAnalysis
  let id ← demand "AnalyticsConfiguration" "id" configuration.id
  pure { id, filter := filter.join, storageClassAnalysis }

def decode (configuration : Analytics) : AnalyticsConfiguration where
  id := some configuration.id
  filter := configuration.filter.map AnalyticsFilter.decode
  storageClassAnalysis := configuration.storageClassAnalysis.map Analysis.decode

/-- An answer has an analysis, and an export in it a destination with a bucket. -/
def completed (configuration : Analytics) : Analytics where
  id := configuration.id
  filter := configuration.filter
  storageClassAnalysis := some (configuration.storageClassAnalysis.getD ⟨none⟩).completed

end Analytics

end BucketSteward.Wire
