import BucketSteward.Proofs.Codec
import BucketSteward.Wire.Part

/-! What a configuration lacks on its way to the wire. A value is built from the values in it, one
after the other, and then asked for the members of its own type (`Wire.Construction`). For every type
that is encoded it is said which values are built and which members are asked for; its encoder reports
the first gap of all this, and succeeds exactly when there is none (`Wire.Follows`). -/
namespace BucketSteward
namespace Wire

/-! ## Constructions -/

/-- A value of a type that asks for members: the values that are built before it, in their order, and
the members that it is asked for, in theirs, each with whether it is there. -/
inductive Construction where
  | of (type : String) (nested : List Construction) (asked : List (String × Bool))

/-- A member that is asked for and not there. -/
def gap (type : String) (member : String × Bool) : List MissingMember :=
  if member.2 then [] else [⟨type, member.1⟩]

mutual

/-- What is missing in a construction, in the order of construction. -/
def Construction.gaps : Construction → List MissingMember
  | .of type nested asked => allGaps nested ++ asked.flatMap (gap type)

/-- What is missing in constructions that are made one after the other. -/
def allGaps : List Construction → List MissingMember
  | [] => []
  | construction :: others => construction.gaps ++ allGaps others

end

theorem allGaps_append (first others : List Construction) :
    allGaps (first ++ others) = allGaps first ++ allGaps others := by
  induction first with
  | nil => rfl
  | cons construction rest ih =>
    rw [List.cons_append, allGaps, allGaps, ih, List.append_assoc]

theorem allGaps_of (type : String) (nested : List Construction)
    (asked : List (String × Bool)) :
    allGaps [.of type nested asked] = allGaps nested ++ asked.flatMap (gap type) := by
  simp [allGaps, Construction.gaps]

variable {α β γ : Type}

/-- An encoding fails with the first gap, and succeeds when there is none. -/
def Lacks (encoding : Encoded β) (gaps : List MissingMember) : Prop :=
  match gaps with
  | [] => ∃ sent, encoding = .ok sent
  | missing :: _ => encoding = .error missing

namespace Lacks

variable {gaps more : List MissingMember} {encoding : Encoded α} {next : α → Encoded β}

theorem pure (value : α) : Lacks (Pure.pure value) [] :=
  ⟨value, rfl⟩

theorem demand (type member : String) (value : Option α) :
    Lacks (Wire.demand type member value) (gap type (member, value.isSome)) := by
  cases value with
  | none => exact rfl
  | some value => exact ⟨value, rfl⟩

/-- What comes first is missed first. -/
theorem bind (first : Lacks encoding gaps) (rest : ∀ value, Lacks (next value) more) :
    Lacks (encoding >>= next) (gaps ++ more) := by
  cases gaps with
  | nil =>
    obtain ⟨value, rfl⟩ := first
    exact rest value
  | cons missing others =>
    rw [show encoding = .error missing from first]
    exact rfl

theorem map (first : Lacks encoding gaps) (f : α → β) : Lacks (encoding.map f) gaps := by
  cases gaps with
  | nil =>
    obtain ⟨value, rfl⟩ := first
    exact ⟨f value, rfl⟩
  | cons missing others =>
    rw [show encoding = .error missing from first]
    exact rfl

/-- A type that asks for one member. -/
theorem member (type member : String) (value : Option α) (f : α → β) :
    Lacks (do
        let value ← Wire.demand type member value
        Pure.pure (f value)) (allGaps [.of type [] [(member, value.isSome)]]) := by
  rw [allGaps_of]
  exact (demand type member value).bind fun _ => .pure _

/-- A type that asks for one member and then for another. -/
theorem members (type member other : String) (value : Option α) (second : Option β)
    (f : α → β → γ) :
    Lacks (do
        let value ← Wire.demand type member value
        let second ← Wire.demand type other second
        Pure.pure (f value second))
      (allGaps [.of type [] [(member, value.isSome), (other, second.isSome)]]) := by
  rw [allGaps_of]
  exact (demand type member value).bind fun _ => (demand type other second).bind fun _ => .pure _

end Lacks

/-- An encoder comes upon the gaps of what is built, in their order. -/
def Follows (encode : α → Encoded β) (built : α → List Construction) : Prop :=
  ∀ value, Lacks (encode value) (allGaps (built value))

namespace Follows

variable {encode : α → Encoded β} {built : α → List Construction}

theorem option (follows : Follows encode built) (value : Option α) :
    Lacks (encodeOption encode value) (allGaps (value.toList.flatMap built)) := by
  cases value with
  | none => exact ⟨none, rfl⟩
  | some value =>
    rw [Option.toList_some, List.flatMap_singleton]
    exact (follows value).map some

theorem list (follows : Follows encode built) (items : List α) :
    Lacks (encodeList encode items) (allGaps (items.flatMap built)) := by
  induction items with
  | nil => exact ⟨[], rfl⟩
  | cons item rest ih =>
    rw [List.flatMap_cons, allGaps_append]
    exact (follows item).bind fun first => ih.map (first :: ·)

theorem all (follows : Follows encode built) (items : Option (List α)) :
    Lacks (encodeAll encode items) (allGaps ((items.getD []).flatMap built)) :=
  follows.list _

theorem items (follows : Follows encode built) (items : Option (List α)) :
    Lacks (encodeItems encode items) (allGaps ((items.getD []).flatMap built)) := by
  cases items with
  | none => exact ⟨none, rfl⟩
  | some items => exact (follows.list items).map some

end Follows

/-! ## Tags and filters -/

def Tag.built (tag : BucketSteward.Tag) : List Construction :=
  [.of "Tag" [] [("key", tag.key.isSome), ("value", tag.value.isSome)]]

theorem Tag.follows : Follows Tag.encode Tag.built := fun tag => .members _ _ _ tag.key tag.value _

def Tagging.built (tagging : BucketSteward.Tagging) : List Construction :=
  (tagging.tagSet.getD []).flatMap Tag.built

theorem Tagging.follows : Follows Tagging.encode Tagging.built := fun tagging =>
  (Tag.follows.all tagging.tagSet).map _

def AndOperator.built (and : BucketSteward.AndOperator) : List Construction :=
  (and.tags.getD []).flatMap Tag.built

theorem AndOperator.follows : Follows AndOperator.encode AndOperator.built := fun and =>
  (Tag.follows.items and.tags).map _

/-- A filter that keeps whatever it names builds all of it. -/
def Filter.built (filter : ConfigurationFilter) : List Construction :=
  filter.and.toList.flatMap AndOperator.built ++ filter.tag.toList.flatMap Tag.built

theorem Filter.follows : Follows Filter.encode Filter.built := by
  intro filter
  rw [built, allGaps_append]
  exact (AndOperator.follows.option _).bind fun _ => (Tag.follows.option _).map _

/-! ## Storage class analysis -/

def AnalyticsBucket.built (destination : AnalyticsS3BucketDestination) : List Construction :=
  [.of "AnalyticsS3BucketDestination" []
    [("format", destination.format.isSome), ("bucket", destination.bucket.isSome)]]

theorem AnalyticsBucket.follows :
    Follows AnalyticsBucket.encode AnalyticsBucket.built := fun destination =>
  .members _ _ _ destination.format destination.bucket _

def AnalyticsDestination.built (destination : AnalyticsExportDestination) : List Construction :=
  destination.s3BucketDestination.toList.flatMap AnalyticsBucket.built

theorem AnalyticsDestination.follows :
    Follows AnalyticsDestination.encode AnalyticsDestination.built := fun destination =>
  (AnalyticsBucket.follows.option destination.s3BucketDestination).map _

def DataExport.built (dataExport : StorageClassAnalysisDataExport) : List Construction :=
  [.of "StorageClassAnalysisDataExport"
    (dataExport.destination.toList.flatMap AnalyticsDestination.built)
    [("output_schema_version", dataExport.outputSchemaVersion.isSome)]]

theorem DataExport.follows : Follows DataExport.encode DataExport.built := by
  intro dataExport
  rw [built, allGaps_of]
  exact (AnalyticsDestination.follows.option _).bind fun _ =>
    (Lacks.demand _ _ _).bind fun _ => .pure _

def Analysis.built (analysis : StorageClassAnalysis) : List Construction :=
  analysis.dataExport.toList.flatMap DataExport.built

theorem Analysis.follows : Follows Analysis.encode Analysis.built := fun analysis =>
  (DataExport.follows.option analysis.dataExport).map _

/-- Of the members of a union only the one that counts is built. -/
def AnalyticsFilter.built (filter : ConfigurationFilter) : List Construction :=
  match filter.and, filter.keyPrefix, filter.tag with
  | some operator, _, _ => AndOperator.built operator
  | none, none, some written => Tag.built written
  | none, _, _ => []

theorem AnalyticsFilter.follows : Follows AnalyticsFilter.encode AnalyticsFilter.built := by
  rintro ⟨and, keyPrefix, tag⟩
  match and, keyPrefix, tag with
  | some operator, _, _ => exact (AndOperator.follows operator).map _
  | none, some text, _ => exact ⟨_, rfl⟩
  | none, none, some tag => exact (Tag.follows tag).map _
  | none, none, none => exact ⟨_, rfl⟩

def Analytics.built (configuration : AnalyticsConfiguration) : List Construction :=
  [.of "AnalyticsConfiguration"
    (configuration.filter.toList.flatMap AnalyticsFilter.built
      ++ configuration.storageClassAnalysis.toList.flatMap Analysis.built)
    [("id", configuration.id.isSome)]]

theorem Analytics.follows : Follows Analytics.encode Analytics.built := by
  intro configuration
  rw [built, allGaps_of, allGaps_append, List.append_assoc]
  exact (AnalyticsFilter.follows.option _).bind fun _ =>
    (Analysis.follows.option _).bind fun _ => (Lacks.demand _ _ _).bind fun _ => .pure _

/-! ## Requests from other origins -/

def CorsRule.built (rule : BucketSteward.CorsRule) : List Construction :=
  [.of "CorsRule" [] [("allowed_methods", rule.allowedMethods.isSome),
    ("allowed_origins", rule.allowedOrigins.isSome)]]

theorem CorsRule.follows : Follows CorsRule.encode CorsRule.built := fun rule =>
  .members _ _ _ rule.allowedMethods rule.allowedOrigins _

def Cors.built (configuration : CorsConfiguration) : List Construction :=
  (configuration.corsRules.getD []).flatMap CorsRule.built

theorem Cors.follows : Follows Cors.encode Cors.built := fun configuration =>
  (CorsRule.follows.all configuration.corsRules).map _

/-! ## Default encryption -/

def EncryptionByDefault.built (byDefault : ServerSideEncryptionByDefault) : List Construction :=
  [.of "ServerSideEncryptionByDefault" [] [("sse_algorithm", byDefault.sseAlgorithm.isSome)]]

theorem EncryptionByDefault.follows :
    Follows EncryptionByDefault.encode EncryptionByDefault.built := fun byDefault =>
  .member _ _ byDefault.sseAlgorithm _

def EncryptionRule.built (rule : ServerSideEncryptionRule) : List Construction :=
  rule.applyServerSideEncryptionByDefault.toList.flatMap EncryptionByDefault.built

theorem EncryptionRule.follows : Follows EncryptionRule.encode EncryptionRule.built := fun rule =>
  (EncryptionByDefault.follows.option rule.applyServerSideEncryptionByDefault).map _

def Encryption.built (configuration : ServerSideEncryptionConfiguration) : List Construction :=
  (configuration.rules.getD []).flatMap EncryptionRule.built

theorem Encryption.follows : Follows Encryption.encode Encryption.built := fun configuration =>
  (EncryptionRule.follows.all configuration.rules).map _

/-! ## Tiering -/

def Tiering.built (tiering : BucketSteward.Tiering) : List Construction :=
  [.of "Tiering" []
    [("days", tiering.days.isSome), ("access_tier", tiering.accessTier.isSome)]]

theorem Tiering.follows : Follows Tiering.encode Tiering.built := fun tiering =>
  .members _ _ _ tiering.days tiering.accessTier _

def IntelligentTiering.built (configuration : IntelligentTieringConfiguration) :
    List Construction :=
  [.of "IntelligentTieringConfiguration"
    (configuration.filter.toList.flatMap Filter.built
      ++ (configuration.tierings.getD []).flatMap Tiering.built)
    [("id", configuration.id.isSome), ("status", configuration.status.isSome)]]

theorem IntelligentTiering.follows :
    Follows IntelligentTiering.encode IntelligentTiering.built := by
  intro configuration
  rw [built, allGaps_of, allGaps_append, List.append_assoc]
  exact (Filter.follows.option _).bind fun _ => (Tiering.follows.all _).bind fun _ =>
    (Lacks.demand _ _ _).bind fun _ => (Lacks.demand _ _ _).bind fun _ => .pure _

/-! ## Inventories -/

def KmsKey.built (key : SseKms) : List Construction :=
  [.of "Ssekms" [] [("key_id", key.keyId.isSome)]]

theorem KmsKey.follows : Follows KmsKey.encode KmsKey.built := fun key => .member _ _ key.keyId _

def InventoryEncryption.built (encryption : BucketSteward.InventoryEncryption) :
    List Construction :=
  encryption.sseKms.toList.flatMap KmsKey.built

theorem InventoryEncryption.follows :
    Follows InventoryEncryption.encode InventoryEncryption.built := fun encryption =>
  (KmsKey.follows.option encryption.sseKms).map _

def InventoryBucket.built (destination : InventoryS3BucketDestination) : List Construction :=
  [.of "InventoryS3BucketDestination"
    (destination.encryption.toList.flatMap InventoryEncryption.built)
    [("bucket", destination.bucket.isSome), ("format", destination.format.isSome)]]

theorem InventoryBucket.follows : Follows InventoryBucket.encode InventoryBucket.built := by
  intro destination
  rw [built, allGaps_of]
  exact (InventoryEncryption.follows.option _).bind fun _ =>
    (Lacks.demand _ _ _).bind fun _ => (Lacks.demand _ _ _).bind fun _ => .pure _

def InventoryFilter.built (filter : BucketSteward.InventoryFilter) : List Construction :=
  [.of "InventoryFilter" [] [("prefix", filter.keyPrefix.isSome)]]

theorem InventoryFilter.follows :
    Follows InventoryFilter.encode InventoryFilter.built := fun filter =>
  .member _ _ filter.keyPrefix _

def InventorySchedule.built (schedule : BucketSteward.InventorySchedule) : List Construction :=
  [.of "InventorySchedule" [] [("frequency", schedule.frequency.isSome)]]

theorem InventorySchedule.follows :
    Follows InventorySchedule.encode InventorySchedule.built := fun schedule =>
  .member _ _ schedule.frequency _

/-- Of a destination only the bucket in it is built. -/
def Inventory.built (configuration : InventoryConfiguration) : List Construction :=
  [.of "InventoryConfiguration"
    ((configuration.destination.bind (·.s3BucketDestination)).toList.flatMap InventoryBucket.built
      ++ (configuration.filter.toList.flatMap InventoryFilter.built
        ++ configuration.schedule.toList.flatMap InventorySchedule.built))
    [("is_enabled", configuration.isEnabled.isSome), ("id", configuration.id.isSome),
      ("included_object_versions", configuration.includedObjectVersions.isSome)]]

theorem Inventory.follows : Follows Inventory.encode Inventory.built := by
  intro configuration
  rw [built, allGaps_of, allGaps_append, allGaps_append, List.append_assoc, List.append_assoc]
  exact (InventoryBucket.follows.option _).bind fun _ =>
    (InventoryFilter.follows.option _).bind fun _ =>
    (InventorySchedule.follows.option _).bind fun _ =>
    (Lacks.demand _ _ _).bind fun _ => (Lacks.demand _ _ _).bind fun _ =>
    (Lacks.demand _ _ _).bind fun _ => .pure _

/-! ## Lifecycles -/

def LifecycleAnd.built (and : LifecycleRuleAndOperator) : List Construction :=
  (and.tags.getD []).flatMap Tag.built

theorem LifecycleAnd.follows : Follows LifecycleAnd.encode LifecycleAnd.built := fun and =>
  (Tag.follows.items and.tags).map _

def LifecycleFilter.built (filter : LifecycleRuleFilter) : List Construction :=
  filter.and.toList.flatMap LifecycleAnd.built ++ filter.tag.toList.flatMap Tag.built

theorem LifecycleFilter.follows : Follows LifecycleFilter.encode LifecycleFilter.built := by
  intro filter
  rw [built, allGaps_append]
  exact (LifecycleAnd.follows.option _).bind fun _ => (Tag.follows.option _).map _

def LifecycleRule.built (rule : BucketSteward.LifecycleRule) : List Construction :=
  [.of "LifecycleRule" (rule.filter.toList.flatMap LifecycleFilter.built)
    [("status", rule.status.isSome)]]

theorem LifecycleRule.follows : Follows LifecycleRule.encode LifecycleRule.built := by
  intro rule
  rw [built, allGaps_of]
  exact (LifecycleFilter.follows.option _).bind fun _ =>
    (Lacks.demand _ _ _).bind fun _ => .pure _

def Lifecycle.built (configuration : BucketLifecycleConfiguration) : List Construction :=
  (configuration.rules.getD []).flatMap LifecycleRule.built

theorem Lifecycle.follows : Follows Lifecycle.encode Lifecycle.built := fun configuration =>
  (LifecycleRule.follows.all configuration.rules).map _

/-! ## Access logs -/

def Grantee.built (grantee : BucketSteward.Grantee) : List Construction :=
  [.of "Grantee" [] [("r#type", grantee.type.isSome)]]

theorem Grantee.follows : Follows Grantee.encode Grantee.built := fun grantee =>
  .member _ _ grantee.type _

def TargetGrant.built (grant : BucketSteward.TargetGrant) : List Construction :=
  grant.grantee.toList.flatMap Grantee.built

theorem TargetGrant.follows : Follows TargetGrant.encode TargetGrant.built := fun grant =>
  (Grantee.follows.option grant.grantee).map _

def LoggingEnabled.built (enabled : BucketSteward.LoggingEnabled) : List Construction :=
  [.of "LoggingEnabled" ((enabled.targetGrants.getD []).flatMap TargetGrant.built)
    [("target_bucket", enabled.targetBucket.isSome),
      ("target_prefix", enabled.targetPrefix.isSome)]]

theorem LoggingEnabled.follows : Follows LoggingEnabled.encode LoggingEnabled.built := by
  intro enabled
  rw [built, allGaps_of]
  exact (TargetGrant.follows.items _).bind fun _ =>
    (Lacks.demand _ _ _).bind fun _ => (Lacks.demand _ _ _).bind fun _ => .pure _

def Logging.built (status : BucketLoggingStatus) : List Construction :=
  status.loggingEnabled.toList.flatMap LoggingEnabled.built

theorem Logging.follows : Follows Logging.encode Logging.built := fun status =>
  (LoggingEnabled.follows.option status.loggingEnabled).map _

/-! ## Request metrics -/

def MetricsAnd.built (and : MetricsAndOperator) : List Construction :=
  (and.tags.getD []).flatMap Tag.built

theorem MetricsAnd.follows : Follows MetricsAnd.encode MetricsAnd.built := fun and =>
  (Tag.follows.items and.tags).map _

def MetricsFilter.built (filter : BucketSteward.MetricsFilter) : List Construction :=
  match filter.and, filter.accessPointArn, filter.keyPrefix, filter.tag with
  | some operator, _, _, _ => MetricsAnd.built operator
  | none, none, none, some written => Tag.built written
  | none, _, _, _ => []

theorem MetricsFilter.follows : Follows MetricsFilter.encode MetricsFilter.built := by
  rintro ⟨accessPointArn, and, keyPrefix, tag⟩
  match and, accessPointArn, keyPrefix, tag with
  | some operator, _, _, _ => exact (MetricsAnd.follows operator).map _
  | none, some arn, _, _ => exact ⟨_, rfl⟩
  | none, none, some text, _ => exact ⟨_, rfl⟩
  | none, none, none, some tag => exact (Tag.follows tag).map _
  | none, none, none, none => exact ⟨_, rfl⟩

def Metrics.built (configuration : MetricsConfiguration) : List Construction :=
  [.of "MetricsConfiguration" (configuration.filter.toList.flatMap MetricsFilter.built)
    [("id", configuration.id.isSome)]]

theorem Metrics.follows : Follows Metrics.encode Metrics.built := by
  intro configuration
  rw [built, allGaps_of]
  exact (MetricsFilter.follows.option _).bind fun _ => (Lacks.demand _ _ _).bind fun _ => .pure _

/-! ## Notifications -/

/-- A receiver of a type that names its resource by one of its members. -/
def Receiver.built (type member : String) (arn : Option String) (events : Option (List String)) :
    List Construction :=
  [.of type [] [(member, arn.isSome), ("events", events.isSome)]]

theorem Receiver.follows (type member : String) (arn : Option String)
    (events : Option (List String)) (filter : Option NotificationConfigurationFilter)
    (id : Option String) :
    Lacks (Receiver.encode type member arn events filter id)
      (allGaps (Receiver.built type member arn events)) := by
  rw [built, allGaps_of]
  exact (Lacks.demand _ _ _).bind fun _ => (Lacks.demand _ _ _).bind fun _ => .pure _

def Receiver.builtTopic (topic : TopicConfiguration) : List Construction :=
  built "TopicConfiguration" "topic_arn" topic.topicArn topic.events

def Receiver.builtQueue (queue : QueueConfiguration) : List Construction :=
  built "QueueConfiguration" "queue_arn" queue.queueArn queue.events

def Receiver.builtFunction (function : LambdaFunctionConfiguration) : List Construction :=
  built "LambdaFunctionConfiguration" "lambda_function_arn" function.lambdaFunctionArn
    function.events

def Notification.built (configuration : NotificationConfiguration) : List Construction :=
  (configuration.topicConfigurations.getD []).flatMap Receiver.builtTopic
    ++ ((configuration.queueConfigurations.getD []).flatMap Receiver.builtQueue
      ++ (configuration.lambdaFunctionConfigurations.getD []).flatMap Receiver.builtFunction)

theorem Notification.follows : Follows Notification.encode Notification.built := by
  intro configuration
  have topic : Follows Receiver.encodeTopic Receiver.builtTopic := fun _ => Receiver.follows ..
  have queue : Follows Receiver.encodeQueue Receiver.builtQueue := fun _ => Receiver.follows ..
  have function : Follows Receiver.encodeFunction Receiver.builtFunction :=
    fun _ => Receiver.follows ..
  rw [built, allGaps_append, allGaps_append]
  exact (topic.items _).bind fun _ => (queue.items _).bind fun _ => (function.items _).map _

/-! ## Ownership -/

def OwnershipRule.built (rule : OwnershipControlsRule) : List Construction :=
  [.of "OwnershipControlsRule" [] [("object_ownership", rule.objectOwnership.isSome)]]

theorem OwnershipRule.follows : Follows OwnershipRule.encode OwnershipRule.built := fun rule =>
  .member _ _ rule.objectOwnership _

def Ownership.built (controls : OwnershipControls) : List Construction :=
  (controls.rules.getD []).flatMap OwnershipRule.built

theorem Ownership.follows : Follows Ownership.encode Ownership.built := fun controls =>
  (OwnershipRule.follows.all controls.rules).map _

/-! ## Replication -/

def Switch.built (type : String) (option : StatusConfiguration) : List Construction :=
  [.of type [] [("status", option.status.isSome)]]

theorem Switch.follows (type : String) :
    Follows (Switch.encode type) (Switch.built type) := fun option =>
  .member _ _ option.status _

def ReplicaOwner.built (replicaOwner : BucketSteward.ReplicaOwner) : List Construction :=
  [.of "AccessControlTranslation" [] [("owner", replicaOwner.owner.isSome)]]

theorem ReplicaOwner.follows : Follows ReplicaOwner.encode ReplicaOwner.built := fun replicaOwner =>
  .member _ _ replicaOwner.owner _

def DestinationMetrics.built (metrics : ReplicationMetrics) : List Construction :=
  [.of "Metrics" [] [("status", metrics.status.isSome)]]

theorem DestinationMetrics.follows :
    Follows DestinationMetrics.encode DestinationMetrics.built := fun metrics =>
  .member _ _ metrics.status _

def TimeControl.built (time : ReplicationTime) : List Construction :=
  [.of "ReplicationTime" [] [("status", time.status.isSome)]]

theorem TimeControl.follows : Follows TimeControl.encode TimeControl.built := fun time =>
  .member _ _ time.status _

def Destination.built (destination : ReplicationDestination) : List Construction :=
  [.of "Destination"
    (destination.replicaOwner.toList.flatMap ReplicaOwner.built
      ++ (destination.metrics.toList.flatMap DestinationMetrics.built
        ++ destination.replicationTime.toList.flatMap TimeControl.built))
    [("bucket", destination.bucket.isSome)]]

theorem Destination.follows : Follows Destination.encode Destination.built := by
  intro destination
  rw [built, allGaps_of, allGaps_append, allGaps_append, List.append_assoc, List.append_assoc]
  exact (ReplicaOwner.follows.option _).bind fun _ =>
    (DestinationMetrics.follows.option _).bind fun _ =>
    (TimeControl.follows.option _).bind fun _ => (Lacks.demand _ _ _).bind fun _ => .pure _

def SourceCriteria.built (criteria : SourceSelectionCriteria) : List Construction :=
  criteria.replicaModifications.toList.flatMap (Switch.built "ReplicaModifications")
    ++ criteria.sseKmsEncryptedObjects.toList.flatMap (Switch.built "SseKmsEncryptedObjects")

theorem SourceCriteria.follows : Follows SourceCriteria.encode SourceCriteria.built := by
  intro criteria
  rw [built, allGaps_append]
  exact ((Switch.follows _).option _).bind fun _ => ((Switch.follows _).option _).map _

/-- The replication of delete markers is not built: it may leave its status open. -/
def ReplicationRule.built (rule : BucketSteward.ReplicationRule) : List Construction :=
  [.of "ReplicationRule"
    (rule.filter.toList.flatMap Filter.built
      ++ (rule.sourceSelectionCriteria.toList.flatMap SourceCriteria.built
        ++ (rule.existingObjectReplication.toList.flatMap
            (Switch.built "ExistingObjectReplication")
          ++ rule.destination.toList.flatMap Destination.built)))
    [("status", rule.status.isSome)]]

theorem ReplicationRule.follows : Follows ReplicationRule.encode ReplicationRule.built := by
  intro rule
  simp only [built, allGaps_of, allGaps_append, List.append_assoc]
  exact (Filter.follows.option _).bind fun _ => (SourceCriteria.follows.option _).bind fun _ =>
    ((Switch.follows _).option _).bind fun _ => (Destination.follows.option _).bind fun _ =>
    (Lacks.demand _ _ _).bind fun _ => .pure _

def Replication.built (configuration : ReplicationConfiguration) : List Construction :=
  [.of "ReplicationConfiguration" ((configuration.rules.getD []).flatMap ReplicationRule.built)
    [("role", configuration.role.isSome)]]

theorem Replication.follows : Follows Replication.encode Replication.built := by
  intro configuration
  rw [built, allGaps_of]
  exact (ReplicationRule.follows.all _).bind fun _ => (Lacks.demand _ _ _).bind fun _ => .pure _

/-! ## Who pays for requests -/

def RequestPayment.built (configuration : RequestPaymentConfiguration) : List Construction :=
  [.of "RequestPaymentConfiguration" [] [("payer", configuration.payer.isSome)]]

theorem RequestPayment.follows :
    Follows RequestPayment.encode RequestPayment.built := fun configuration =>
  .member _ _ configuration.payer _

/-! ## Websites -/

def ErrorDocument.built (document : BucketSteward.ErrorDocument) : List Construction :=
  [.of "ErrorDocument" [] [("key", document.key.isSome)]]

theorem ErrorDocument.follows : Follows ErrorDocument.encode ErrorDocument.built := fun document =>
  .member _ _ document.key _

def IndexDocument.built (document : BucketSteward.IndexDocument) : List Construction :=
  [.of "IndexDocument" [] [("suffix", document.suffix.isSome)]]

theorem IndexDocument.follows : Follows IndexDocument.encode IndexDocument.built := fun document =>
  .member _ _ document.suffix _

def RedirectAll.built (redirect : RedirectAllRequestsTo) : List Construction :=
  [.of "RedirectAllRequestsTo" [] [("host_name", redirect.hostName.isSome)]]

theorem RedirectAll.follows : Follows RedirectAll.encode RedirectAll.built := fun redirect =>
  .member _ _ redirect.hostName _

def Website.built (configuration : WebsiteConfiguration) : List Construction :=
  configuration.errorDocument.toList.flatMap ErrorDocument.built
    ++ (configuration.indexDocument.toList.flatMap IndexDocument.built
      ++ configuration.redirectAllRequestsTo.toList.flatMap RedirectAll.built)

theorem Website.follows : Follows Website.encode Website.built := by
  intro configuration
  rw [built, allGaps_append, allGaps_append]
  exact (ErrorDocument.follows.option _).bind fun _ =>
    (IndexDocument.follows.option _).bind fun _ => (RedirectAll.follows.option _).map _

end Wire

/-! ## Parts of a bucket -/

open Wire (Construction Follows)

def Setting.built : (setting : Setting) → setting.Value → List Construction
  | .accelerate, _ | .versioning, _ => []
  | .logging, value => Wire.Logging.built value
  | .notification, value => Wire.Notification.built value
  | .requestPayment, value => Wire.RequestPayment.built value

theorem Setting.follows (setting : Setting) : Follows setting.encode setting.built := by
  intro value
  match setting with
  | .accelerate | .versioning => exact ⟨_, rfl⟩
  | .logging => exact Wire.Logging.follows value
  | .notification => exact Wire.Notification.follows value
  | .requestPayment => exact Wire.RequestPayment.follows value

def Document.built : (document : Document) → document.Content → List Construction
  | .cors, content => Wire.Cors.built content
  | .encryption, content => Wire.Encryption.built content
  | .lifecycle, content => Wire.Lifecycle.built content
  | .ownershipControls, content => Wire.Ownership.built content
  | .publicAccessBlock, _ => []
  | .replication, content => Wire.Replication.built content
  | .tagging, content => Wire.Tagging.built content
  | .website, content => Wire.Website.built content

theorem Document.follows (document : Document) : Follows document.encode document.built := by
  intro content
  match document with
  | .cors => exact Wire.Cors.follows content
  | .encryption => exact Wire.Encryption.follows content
  | .lifecycle => exact Wire.Lifecycle.follows content
  | .ownershipControls => exact Wire.Ownership.follows content
  | .publicAccessBlock => exact ⟨_, rfl⟩
  | .replication => exact Wire.Replication.follows content
  | .tagging => exact Wire.Tagging.follows content
  | .website => exact Wire.Website.follows content

def Collection.built : (collection : Collection) → collection.Item → List Construction
  | .analytics, item => Wire.Analytics.built item
  | .intelligentTiering, item => Wire.IntelligentTiering.built item
  | .inventory, item => Wire.Inventory.built item
  | .metrics, item => Wire.Metrics.built item

theorem Collection.follows (collection : Collection) :
    Follows collection.encode collection.built := by
  intro item
  match collection with
  | .analytics => exact Wire.Analytics.follows item
  | .intelligentTiering => exact Wire.IntelligentTiering.follows item
  | .inventory => exact Wire.Inventory.follows item
  | .metrics => exact Wire.Metrics.follows item

end BucketSteward
