import BucketSteward.Form
import BucketSteward.Configuration.Tag

/-!
Storage class analysis, one configuration for each id.
-/

namespace BucketSteward

open Form

/-- The bucket that receives an analysis. -/
structure AnalyticsS3BucketDestination where
  bucket : Option String := none
  bucketAccountId : Option String := none
  format : Option String := none
  keyPrefix : Option String := none
  deriving DecidableEq, Inhabited

instance : JsonForm AnalyticsS3BucketDestination := record {} [
  optional "bucket" (·.bucket) fun r v => { r with bucket := v },
  optional "bucketAccountId" (·.bucketAccountId) fun r v => { r with bucketAccountId := v },
  optional "format" (·.format) fun r v => { r with format := v },
  optional "prefix" (·.keyPrefix) fun r v => { r with keyPrefix := v }]

/-- Where an analysis is exported to. -/
structure AnalyticsExportDestination where
  s3BucketDestination : Option AnalyticsS3BucketDestination := none
  deriving DecidableEq, Inhabited

instance : JsonForm AnalyticsExportDestination := record {} [
  optional "s3BucketDestination" (·.s3BucketDestination)
    fun r v => { r with s3BucketDestination := v }]

/-- How an analysis is exported. -/
structure StorageClassAnalysisDataExport where
  destination : Option AnalyticsExportDestination := none
  outputSchemaVersion : Option String := none
  deriving DecidableEq, Inhabited

instance : JsonForm StorageClassAnalysisDataExport := record {} [
  optional "destination" (·.destination) fun r v => { r with destination := v },
  optional "outputSchemaVersion" (·.outputSchemaVersion)
    fun r v => { r with outputSchemaVersion := v }]

/-- The analysis of access patterns between storage classes. -/
structure StorageClassAnalysis where
  dataExport : Option StorageClassAnalysisDataExport := none
  deriving DecidableEq, Inhabited

instance : JsonForm StorageClassAnalysis := record {} [
  optional "dataExport" (·.dataExport) fun r v => { r with dataExport := v }]

/-- An analysis of the objects that a filter selects, known by its id. -/
structure AnalyticsConfiguration where
  id : Option String := none
  filter : Option ConfigurationFilter := none
  storageClassAnalysis : Option StorageClassAnalysis := none
  deriving DecidableEq, Inhabited

instance : JsonForm AnalyticsConfiguration := record {} [
  optional "id" (·.id) fun r v => { r with id := v },
  optional "filter" (·.filter) fun r v => { r with filter := v },
  optional "storageClassAnalysis" (·.storageClassAnalysis)
    fun r v => { r with storageClassAnalysis := v }]

end BucketSteward
