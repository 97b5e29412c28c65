import BucketSteward.Proofs.LawfulForm
import BucketSteward.Part

/-! Every configuration of a bucket, every record nested in one, and the specification itself have a
lawful form: a value is read back from what it is written as, and two values differ in their written
forms exactly when they are two. -/
namespace BucketSteward

/-! ## Tags -/

instance : LawfulForm Tag := .record
instance : LawfulForm Tagging := .record
instance : LawfulForm AndOperator := .record
instance : LawfulForm ConfigurationFilter := .record

/-! ## Settings of one or two words -/

instance : LawfulForm AccelerateConfiguration := .record
instance : LawfulForm RequestPaymentConfiguration := .record
instance : LawfulForm VersioningConfiguration := .record

/-! ## Storage class analysis -/

instance : LawfulForm AnalyticsS3BucketDestination := .record
instance : LawfulForm AnalyticsExportDestination := .record
instance : LawfulForm StorageClassAnalysisDataExport := .record
instance : LawfulForm StorageClassAnalysis := .record
instance : LawfulForm AnalyticsConfiguration := .record

/-! ## Requests from other origins -/

instance : LawfulForm CorsRule := .record
instance : LawfulForm CorsConfiguration := .record

/-! ## Placement -/

instance : LawfulForm BucketInfo := .record
instance : LawfulForm LocationInfo := .record
instance : LawfulForm CreateBucketConfiguration := .record

/-! ## Default encryption -/

instance : LawfulForm ServerSideEncryptionByDefault := .record
instance : LawfulForm ServerSideEncryptionRule := .record
instance : LawfulForm ServerSideEncryptionConfiguration := .record

/-! ## Grants -/

instance : LawfulForm Owner := .record
instance : LawfulForm Grantee := .record
instance : LawfulForm Grant := .record

/-! ## Tiering -/

instance : LawfulForm Tiering := .record
instance : LawfulForm IntelligentTieringConfiguration := .record

/-! ## Inventories -/

instance : LawfulForm SseKms := .record
instance : LawfulForm SseS3 := .record
instance : LawfulForm InventoryEncryption := .record
instance : LawfulForm InventoryS3BucketDestination := .record
instance : LawfulForm InventoryDestination := .record
instance : LawfulForm InventoryFilter := .record
instance : LawfulForm InventorySchedule := .record
instance : LawfulForm InventoryConfiguration := .record

/-! ## Lifecycle -/

instance : LawfulForm AbortIncompleteMultipartUpload := .record
instance : LawfulForm LifecycleExpiration := .record
instance : LawfulForm LifecycleRuleAndOperator := .record
instance : LawfulForm LifecycleRuleFilter := .record
instance : LawfulForm NoncurrentVersionExpiration := .record
instance : LawfulForm NoncurrentVersionTransition := .record
instance : LawfulForm Transition := .record
instance : LawfulForm LifecycleRule := .record
instance : LawfulForm BucketLifecycleConfiguration := .record

/-! ## Logging -/

instance : LawfulForm TargetGrant := .record
instance : LawfulForm LoggingEnabled := .record
instance : LawfulForm BucketLoggingStatus := .record

/-! ## Metrics -/

instance : LawfulForm MetricsAndOperator := .record
instance : LawfulForm MetricsFilter := .record
instance : LawfulForm MetricsConfiguration := .record

/-! ## Notifications -/

instance : LawfulForm FilterRule := .record
instance : LawfulForm KeyFilter := .record
instance : LawfulForm NotificationConfigurationFilter := .record
instance : LawfulForm EventBridgeConfiguration := .record
instance : LawfulForm LambdaFunctionConfiguration := .record
instance : LawfulForm QueueConfiguration := .record
instance : LawfulForm TopicConfiguration := .record
instance : LawfulForm NotificationConfiguration := .record

/-! ## Ownership -/

instance : LawfulForm OwnershipControlsRule := .record
instance : LawfulForm OwnershipControls := .record

/-! ## Public access -/

instance : LawfulForm PublicAccessBlockConfiguration := .record

/-! ## Replication -/

instance : LawfulForm StatusConfiguration := .record
instance : LawfulForm ReplicaOwner := .record
instance : LawfulForm EncryptionConfiguration := .record
instance : LawfulForm ReplicationTimeValue := .record
instance : LawfulForm ReplicationMetrics := .record
instance : LawfulForm ReplicationTime := .record
instance : LawfulForm ReplicationDestination := .record
instance : LawfulForm SourceSelectionCriteria := .record
instance : LawfulForm ReplicationRule := .record
instance : LawfulForm ReplicationConfiguration := .record

/-! ## Websites -/

instance : LawfulForm ErrorDocument := .record
instance : LawfulForm IndexDocument := .record
instance : LawfulForm RedirectAllRequestsTo := .record
instance : LawfulForm RoutingRuleCondition := .record
instance : LawfulForm Redirect := .record
instance : LawfulForm RoutingRule := .record
instance : LawfulForm WebsiteConfiguration := .record

/-! ## Specifications -/

instance : LawfulForm BucketSpec := .record

end BucketSteward
