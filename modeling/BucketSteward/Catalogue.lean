import BucketSteward.Resource

/-!
Every type that a bucket's specification or status is made of, by its name. What is said of each of
them, such as that writing loses nothing, is said by going through `catalogue`.
-/

namespace BucketSteward

/-- A type with a JSON form, and what is needed to compare its values. -/
structure NamedType where
  name : String
  Value : Type
  form : JsonForm Value
  decEq : DecidableEq Value
  blank : Value

namespace NamedType

def of (name : String) (α : Type) [form : JsonForm α] [decEq : DecidableEq α] [Inhabited α] :
    NamedType :=
  ⟨name, α, form, decEq, default⟩

instance (type : NamedType) : JsonForm type.Value := type.form

instance (type : NamedType) : DecidableEq type.Value := type.decEq

/-- Writing a value and reading it again gives the value back. -/
def isStable (type : NamedType) (value : type.Value) : Bool :=
  read? (write value) == some value

end NamedType

def catalogue : List NamedType := [
  .of "AbortIncompleteMultipartUpload" AbortIncompleteMultipartUpload,
  .of "AccelerateConfiguration" AccelerateConfiguration,
  .of "AccessControlTranslation" ReplicaOwner,
  .of "AnalyticsConfiguration" AnalyticsConfiguration,
  .of "AnalyticsExportDestination" AnalyticsExportDestination,
  .of "AnalyticsS3BucketDestination" AnalyticsS3BucketDestination,
  .of "AndOperator" AndOperator,
  .of "BucketCondition" BucketCondition,
  .of "BucketInfo" BucketInfo,
  .of "BucketLifecycleConfiguration" BucketLifecycleConfiguration,
  .of "BucketLoggingStatus" BucketLoggingStatus,
  .of "BucketSpec" BucketSpec,
  .of "BucketStatus" BucketStatus,
  .of "ConfigurationFilter" ConfigurationFilter,
  .of "CorsConfiguration" CorsConfiguration,
  .of "CorsRule" CorsRule,
  .of "CreateBucketConfiguration" CreateBucketConfiguration,
  .of "EncryptionConfiguration" EncryptionConfiguration,
  .of "ErrorDocument" ErrorDocument,
  .of "EventBridgeConfiguration" EventBridgeConfiguration,
  .of "FilterRule" FilterRule,
  .of "Grant" Grant,
  .of "Grantee" Grantee,
  .of "IndexDocument" IndexDocument,
  .of "IntelligentTieringConfiguration" IntelligentTieringConfiguration,
  .of "InventoryConfiguration" InventoryConfiguration,
  .of "InventoryDestination" InventoryDestination,
  .of "InventoryEncryption" InventoryEncryption,
  .of "InventoryFilter" InventoryFilter,
  .of "InventoryS3BucketDestination" InventoryS3BucketDestination,
  .of "InventorySchedule" InventorySchedule,
  .of "KeyFilter" KeyFilter,
  .of "LambdaFunctionConfiguration" LambdaFunctionConfiguration,
  .of "LifecycleExpiration" LifecycleExpiration,
  .of "LifecycleRule" LifecycleRule,
  .of "LifecycleRuleAndOperator" LifecycleRuleAndOperator,
  .of "LifecycleRuleFilter" LifecycleRuleFilter,
  .of "LocationInfo" LocationInfo,
  .of "LoggingEnabled" LoggingEnabled,
  .of "MetricsAndOperator" MetricsAndOperator,
  .of "MetricsConfiguration" MetricsConfiguration,
  .of "MetricsFilter" MetricsFilter,
  .of "NoncurrentVersionExpiration" NoncurrentVersionExpiration,
  .of "NoncurrentVersionTransition" NoncurrentVersionTransition,
  .of "NotificationConfiguration" NotificationConfiguration,
  .of "NotificationConfigurationFilter" NotificationConfigurationFilter,
  .of "Owner" Owner,
  .of "OwnershipControls" OwnershipControls,
  .of "OwnershipControlsRule" OwnershipControlsRule,
  .of "PublicAccessBlockConfiguration" PublicAccessBlockConfiguration,
  .of "QueueConfiguration" QueueConfiguration,
  .of "Redirect" Redirect,
  .of "RedirectAllRequestsTo" RedirectAllRequestsTo,
  .of "ReplicationConfiguration" ReplicationConfiguration,
  .of "ReplicationDestination" ReplicationDestination,
  .of "ReplicationMetrics" ReplicationMetrics,
  .of "ReplicationRule" ReplicationRule,
  .of "ReplicationTime" ReplicationTime,
  .of "ReplicationTimeValue" ReplicationTimeValue,
  .of "RequestPaymentConfiguration" RequestPaymentConfiguration,
  .of "ResourceMetadata" ResourceMetadata,
  .of "RoutingRule" RoutingRule,
  .of "RoutingRuleCondition" RoutingRuleCondition,
  .of "ServerSideEncryptionByDefault" ServerSideEncryptionByDefault,
  .of "ServerSideEncryptionConfiguration" ServerSideEncryptionConfiguration,
  .of "ServerSideEncryptionRule" ServerSideEncryptionRule,
  .of "SourceSelectionCriteria" SourceSelectionCriteria,
  .of "SseKms" SseKms,
  .of "SseS3" SseS3,
  .of "StatusConfiguration" StatusConfiguration,
  .of "StorageClassAnalysis" StorageClassAnalysis,
  .of "StorageClassAnalysisDataExport" StorageClassAnalysisDataExport,
  .of "Tag" Tag,
  .of "Tagging" Tagging,
  .of "TargetGrant" TargetGrant,
  .of "Tiering" Tiering,
  .of "TopicConfiguration" TopicConfiguration,
  .of "Transition" Transition,
  .of "VersioningConfiguration" VersioningConfiguration,
  .of "WebsiteConfiguration" WebsiteConfiguration]

/-- The type of a name. -/
def NamedType.find? (name : String) : Option NamedType :=
  catalogue.find? fun type => type.name == name

end BucketSteward
