import BucketSteward.Proofs.Codec
import BucketSteward.Proofs.Timestamp
import BucketSteward.Wire.Part

/-! What a configuration decodes to after it was encoded. Every record is restored member by member,
from the tags up to the parts of a bucket. The main statement is that whatever part of a bucket can
be encoded decodes to exactly its canonical form. -/
namespace BucketSteward
namespace Wire

/-! ## Tags and filters -/

theorem Tag.restores : Restores Tag.encode Tag.decode id := by
  intro tag sent encoded
  simp only [encode, bind_eq_ok, demand_eq_ok, pure_eq_ok] at encoded
  obtain ⟨key, hasKey, value, hasValue, rfl⟩ := encoded
  rw [decode, ← hasKey, ← hasValue]
  rfl

theorem Tagging.restores : Restores Tagging.encode Tagging.decode Tagging.canonical := by
  intro tagging sent encoded
  simp only [encode, bind_eq_ok, pure_eq_ok] at encoded
  obtain ⟨tags, written, rfl⟩ := encoded
  rw [decode, Tag.restores.all written, canonicalItems_id]
  rfl

theorem AndOperator.restores :
    Restores AndOperator.encode AndOperator.decode AndOperator.canonical := by
  intro and sent encoded
  simp only [encode, bind_eq_ok, pure_eq_ok] at encoded
  obtain ⟨tags, written, rfl⟩ := encoded
  rw [decode, Tag.restores.items written, canonicalItems_id]
  rfl

theorem Filter.restores : Restores Filter.encode Filter.decode ConfigurationFilter.canonical := by
  intro filter sent encoded
  simp only [encode, bind_eq_ok, pure_eq_ok] at encoded
  obtain ⟨and, operator, tag, written, rfl⟩ := encoded
  rw [decode, AndOperator.restores.option operator, Tag.restores.option written, Option.map_id]
  rfl

/-! ## Storage class analysis -/

theorem AnalyticsBucket.restores : Restores AnalyticsBucket.encode AnalyticsBucket.decode id := by
  intro destination sent encoded
  simp only [encode, bind_eq_ok, demand_eq_ok, pure_eq_ok] at encoded
  obtain ⟨format, hasFormat, bucket, hasBucket, rfl⟩ := encoded
  rw [decode, ← hasFormat, ← hasBucket]
  rfl

theorem AnalyticsDestination.restores :
    Restores AnalyticsDestination.encode AnalyticsDestination.decode id := by
  intro destination sent encoded
  simp only [encode, bind_eq_ok, pure_eq_ok] at encoded
  obtain ⟨bucket, written, rfl⟩ := encoded
  rw [decode, AnalyticsBucket.restores.option written, Option.map_id]
  rfl

theorem DataExport.restores : Restores DataExport.encode DataExport.decode id := by
  intro dataExport sent encoded
  simp only [encode, bind_eq_ok, demand_eq_ok, pure_eq_ok] at encoded
  obtain ⟨destination, written, version, hasVersion, rfl⟩ := encoded
  rw [decode, AnalyticsDestination.restores.option written, ← hasVersion, Option.map_id]
  rfl

theorem Analysis.restores : Restores Analysis.encode Analysis.decode id := by
  intro analysis sent encoded
  simp only [encode, bind_eq_ok, pure_eq_ok] at encoded
  obtain ⟨dataExport, written, rfl⟩ := encoded
  rw [decode, DataExport.restores.option written, Option.map_id]
  rfl

/-- A filter comes back with the first member that it has. -/
theorem AnalyticsFilter.restores (filter : ConfigurationFilter) (sent : Option AnalyticsFilter)
    (encoded : encode filter = .ok sent) : sent.map decode = filter.first? := by
  obtain ⟨and, keyPrefix, tag⟩ := filter
  cases and with
  | some operator =>
    simp only [encode, bind_eq_ok, pure_eq_ok] at encoded
    obtain ⟨written, whole, rfl⟩ := encoded
    rw [Option.map_some, decode, AndOperator.restores operator written whole]
    rfl
  | none =>
    cases keyPrefix with
    | some text =>
      cases encoded
      rfl
    | none =>
      cases tag with
      | some tag =>
        simp only [encode, bind_eq_ok, pure_eq_ok] at encoded
        obtain ⟨written, whole, rfl⟩ := encoded
        rw [Option.map_some, decode, Tag.restores tag written whole]
        rfl
      | none =>
        cases encoded
        rfl

theorem Analytics.restores :
    Restores Analytics.encode Analytics.decode AnalyticsConfiguration.canonical := by
  intro configuration sent encoded
  simp only [encode, bind_eq_ok, demand_eq_ok, pure_eq_ok] at encoded
  obtain ⟨filter, chosen, analysis, written, id, hasId, rfl⟩ := encoded
  rw [decode, restores_join AnalyticsFilter.restores chosen, Analysis.restores.option written,
    ← hasId, Option.map_id]
  rfl

/-! ## Requests from other origins -/

theorem CorsRule.restores :
    Restores CorsRule.encode CorsRule.decode BucketSteward.CorsRule.canonical := by
  intro rule sent encoded
  simp only [encode, bind_eq_ok, demand_eq_ok, pure_eq_ok] at encoded
  obtain ⟨methods, hasMethods, origins, hasOrigins, rfl⟩ := encoded
  rw [decode, bind_decodeSame, bind_decodeSame, decodeSame_eq, decodeSame_eq, ← hasMethods, ← hasOrigins]
  rfl

theorem Cors.restores : Restores Cors.encode Cors.decode CorsConfiguration.canonical := by
  intro configuration sent encoded
  simp only [encode, bind_eq_ok, pure_eq_ok] at encoded
  obtain ⟨rules, written, rfl⟩ := encoded
  rw [decode, CorsRule.restores.all written]
  rfl

/-! ## Default encryption -/

theorem EncryptionByDefault.restores :
    Restores EncryptionByDefault.encode EncryptionByDefault.decode id := by
  intro byDefault sent encoded
  simp only [encode, bind_eq_ok, demand_eq_ok, pure_eq_ok] at encoded
  obtain ⟨algorithm, hasAlgorithm, rfl⟩ := encoded
  rw [decode, ← hasAlgorithm]
  rfl

theorem EncryptionRule.restores : Restores EncryptionRule.encode EncryptionRule.decode id := by
  intro rule sent encoded
  simp only [encode, bind_eq_ok, pure_eq_ok] at encoded
  obtain ⟨byDefault, written, rfl⟩ := encoded
  rw [decode, EncryptionByDefault.restores.option written, Option.map_id]
  rfl

theorem Encryption.restores :
    Restores Encryption.encode Encryption.decode ServerSideEncryptionConfiguration.canonical := by
  intro configuration sent encoded
  simp only [encode, bind_eq_ok, pure_eq_ok] at encoded
  obtain ⟨rules, written, rfl⟩ := encoded
  rw [decode, EncryptionRule.restores.all written, canonicalItems_id]
  rfl

/-! ## Tiering -/

theorem Tiering.restores : Restores Tiering.encode Tiering.decode id := by
  intro tiering sent encoded
  simp only [encode, bind_eq_ok, demand_eq_ok, pure_eq_ok] at encoded
  obtain ⟨days, hasDays, tier, hasTier, rfl⟩ := encoded
  rw [decode, ← hasDays, ← hasTier]
  rfl

theorem IntelligentTiering.restores : Restores IntelligentTiering.encode IntelligentTiering.decode
    IntelligentTieringConfiguration.canonical := by
  intro configuration sent encoded
  simp only [encode, bind_eq_ok, demand_eq_ok, pure_eq_ok] at encoded
  obtain ⟨filter, chosen, tierings, written, id, hasId, status, hasStatus, rfl⟩ := encoded
  rw [decode, Filter.restores.option chosen, Tiering.restores.all written, canonicalItems_id,
    ← hasId, ← hasStatus]
  rfl

/-! ## Inventories -/

theorem KmsKey.restores : Restores KmsKey.encode KmsKey.decode id := by
  intro key sent encoded
  simp only [encode, bind_eq_ok, demand_eq_ok, pure_eq_ok] at encoded
  obtain ⟨keyId, hasKeyId, rfl⟩ := encoded
  rw [decode, ← hasKeyId]
  rfl

theorem InventoryEncryption.restores :
    Restores InventoryEncryption.encode InventoryEncryption.decode id := by
  intro encryption sent encoded
  simp only [encode, bind_eq_ok, pure_eq_ok] at encoded
  obtain ⟨key, written, rfl⟩ := encoded
  rw [decode, KmsKey.restores.option written, Option.map_id]
  rfl

theorem InventoryBucket.restores : Restores InventoryBucket.encode InventoryBucket.decode id := by
  intro destination sent encoded
  simp only [encode, bind_eq_ok, demand_eq_ok, pure_eq_ok] at encoded
  obtain ⟨encryption, written, bucket, hasBucket, format, hasFormat, rfl⟩ := encoded
  rw [decode, InventoryEncryption.restores.option written, ← hasBucket, ← hasFormat, Option.map_id]
  rfl

theorem InventoryFilter.restores : Restores InventoryFilter.encode InventoryFilter.decode id := by
  intro filter sent encoded
  simp only [encode, bind_eq_ok, demand_eq_ok, pure_eq_ok] at encoded
  obtain ⟨keyPrefix, hasPrefix, rfl⟩ := encoded
  rw [decode, ← hasPrefix]
  rfl

theorem InventorySchedule.restores :
    Restores InventorySchedule.encode InventorySchedule.decode id := by
  intro schedule sent encoded
  simp only [encode, bind_eq_ok, demand_eq_ok, pure_eq_ok] at encoded
  obtain ⟨frequency, hasFrequency, rfl⟩ := encoded
  rw [decode, ← hasFrequency]
  rfl

/-- A destination is the same as its bucket, when it has one. -/
theorem map_some_bucket (destination : Option InventoryDestination) :
    ((destination.bind (·.s3BucketDestination)).map fun bucket =>
        ({ s3BucketDestination := some bucket } : InventoryDestination))
      = destination.filter (·.s3BucketDestination.isSome) := by
  cases destination with
  | none => rfl
  | some destination =>
    obtain ⟨bucket⟩ := destination
    cases bucket <;> rfl

theorem Inventory.restores :
    Restores Inventory.encode Inventory.decode InventoryConfiguration.canonical := by
  intro configuration sent encoded
  simp only [encode, bind_eq_ok, demand_eq_ok, pure_eq_ok] at encoded
  obtain ⟨destination, kept, filter, chosen, schedule, planned, isEnabled, hasEnabled, id, hasId,
    versions, hasVersions, rfl⟩ := encoded
  have bucket : destination.map InventoryBucket.decode
      = configuration.destination.bind (·.s3BucketDestination) := by
    rw [InventoryBucket.restores.option kept, Option.map_id]
    rfl
  have whole : (destination.map fun bucket : InventoryBucket =>
      ({ s3BucketDestination := some bucket.decode } : InventoryDestination))
        = configuration.destination.filter (·.s3BucketDestination.isSome) := by
    rw [← map_some_bucket, ← bucket, Option.map_map]
    rfl
  rw [decode, whole, InventoryFilter.restores.option chosen, InventorySchedule.restores.option planned,
    bind_decodeSame, ← hasEnabled, ← hasId, ← hasVersions, Option.map_id, Option.map_id]
  rfl

/-! ## Lifecycle rules -/

/-- A date comes back as its whole second. -/
theorem Instant.decode_encode (date : Timestamp) : (Instant.encode date).decode = some date.floor :=
  Timestamp.at?_self date.floor

theorem bind_decode_map_encode (date : Option Timestamp) :
    (date.map Instant.encode).bind Instant.decode = date.map Timestamp.floor := by
  cases date with
  | none => rfl
  | some date => exact Instant.decode_encode date

theorem Expiration.decode_encode (expiration : LifecycleExpiration) :
    (Expiration.encode expiration).decode = expiration.canonical := by
  rw [decode, encode, bind_decode_map_encode]
  rfl

theorem Transition.decode_encode (transition : BucketSteward.Transition) :
    (Transition.encode transition).decode = transition.canonical := by
  rw [decode, encode, bind_decode_map_encode]
  rfl

theorem LifecycleAnd.restores :
    Restores LifecycleAnd.encode LifecycleAnd.decode LifecycleRuleAndOperator.canonical := by
  intro and sent encoded
  simp only [encode, bind_eq_ok, pure_eq_ok] at encoded
  obtain ⟨tags, written, rfl⟩ := encoded
  rw [decode, Tag.restores.items written, canonicalItems_id]
  rfl

theorem LifecycleFilter.restores :
    Restores LifecycleFilter.encode LifecycleFilter.decode LifecycleRuleFilter.canonical := by
  intro filter sent encoded
  simp only [encode, bind_eq_ok, pure_eq_ok] at encoded
  obtain ⟨and, operator, tag, written, rfl⟩ := encoded
  rw [decode, LifecycleAnd.restores.option operator, Tag.restores.option written, Option.map_id]
  rfl

theorem decodeItems_transitions (transitions : Option (List BucketSteward.Transition)) :
    decodeItems Transition.decode (transitions.map (·.map Transition.encode))
      = canonicalItems BucketSteward.Transition.canonical transitions := by
  cases transitions with
  | none => rfl
  | some transitions =>
    have each : transitions.map (Transition.decode ∘ Transition.encode)
        = transitions.map BucketSteward.Transition.canonical :=
      List.map_congr_left fun transition _ => Transition.decode_encode transition
    rw [decodeItems, Option.map_some, Option.bind_some, decodeAll_eq, List.map_map, each]
    rfl

theorem LifecycleRule.restores :
    Restores LifecycleRule.encode LifecycleRule.decode BucketSteward.LifecycleRule.canonical := by
  intro rule sent encoded
  simp only [encode, bind_eq_ok, demand_eq_ok, pure_eq_ok] at encoded
  obtain ⟨filter, chosen, status, hasStatus, rfl⟩ := encoded
  have expiration : (rule.expiration.map Expiration.encode).map Expiration.decode
      = rule.expiration.map LifecycleExpiration.canonical := by
    rw [Option.map_map]
    exact Option.map_congr fun expiration _ => Expiration.decode_encode expiration
  rw [decode, expiration, LifecycleFilter.restores.option chosen, bind_decodeSame,
    decodeItems_transitions, ← hasStatus]
  rfl

theorem Lifecycle.restores :
    Restores Lifecycle.encode Lifecycle.decode BucketLifecycleConfiguration.canonical := by
  intro configuration sent encoded
  simp only [encode, bind_eq_ok, pure_eq_ok] at encoded
  obtain ⟨rules, written, rfl⟩ := encoded
  rw [decode, LifecycleRule.restores.all written]
  rfl

/-! ## Access logs -/

theorem Grantee.restores : Restores Grantee.encode Grantee.decode fun grantee => grantee := by
  intro grantee sent encoded
  simp only [encode, bind_eq_ok, demand_eq_ok, pure_eq_ok] at encoded
  obtain ⟨type, hasType, rfl⟩ := encoded
  rw [decode, ← hasType]

theorem TargetGrant.restores : Restores TargetGrant.encode TargetGrant.decode id := by
  intro grant sent encoded
  simp only [encode, bind_eq_ok, pure_eq_ok] at encoded
  obtain ⟨grantee, written, rfl⟩ := encoded
  rw [decode, Grantee.restores.option written, Option.map_id']
  rfl

theorem LoggingEnabled.restores : Restores LoggingEnabled.encode LoggingEnabled.decode
    BucketSteward.LoggingEnabled.canonical := by
  intro enabled sent encoded
  simp only [encode, bind_eq_ok, demand_eq_ok, pure_eq_ok] at encoded
  obtain ⟨grants, written, bucket, hasBucket, keyPrefix, hasPrefix, rfl⟩ := encoded
  rw [decode, TargetGrant.restores.items written, canonicalItems_id, ← hasBucket, ← hasPrefix]
  rfl

theorem Logging.restores : Restores Logging.encode Logging.decode BucketLoggingStatus.canonical := by
  intro status sent encoded
  simp only [encode, bind_eq_ok, pure_eq_ok] at encoded
  obtain ⟨enabled, written, rfl⟩ := encoded
  rw [decode, LoggingEnabled.restores.option written]
  rfl

/-! ## Request metrics -/

theorem MetricsAnd.restores :
    Restores MetricsAnd.encode MetricsAnd.decode MetricsAndOperator.canonical := by
  intro and sent encoded
  simp only [encode, bind_eq_ok, pure_eq_ok] at encoded
  obtain ⟨tags, written, rfl⟩ := encoded
  rw [decode, Tag.restores.items written, canonicalItems_id]
  rfl

/-- A filter comes back with the first member that it has. -/
theorem MetricsFilter.restores (filter : BucketSteward.MetricsFilter) (sent : Option MetricsFilter)
    (encoded : encode filter = .ok sent) : sent.map decode = filter.first? := by
  obtain ⟨accessPointArn, and, keyPrefix, tag⟩ := filter
  cases and with
  | some operator =>
    simp only [encode, bind_eq_ok, pure_eq_ok] at encoded
    obtain ⟨written, whole, rfl⟩ := encoded
    rw [Option.map_some, decode, MetricsAnd.restores operator written whole]
    rfl
  | none =>
    cases accessPointArn with
    | some arn =>
      cases encoded
      rfl
    | none =>
      cases keyPrefix with
      | some text =>
        cases encoded
        rfl
      | none =>
        cases tag with
        | some tag =>
          simp only [encode, bind_eq_ok, pure_eq_ok] at encoded
          obtain ⟨written, whole, rfl⟩ := encoded
          rw [Option.map_some, decode, Tag.restores tag written whole]
          rfl
        | none =>
          cases encoded
          rfl

theorem Metrics.restores :
    Restores Metrics.encode Metrics.decode MetricsConfiguration.canonical := by
  intro configuration sent encoded
  simp only [encode, bind_eq_ok, demand_eq_ok, pure_eq_ok] at encoded
  obtain ⟨filter, chosen, id, hasId, rfl⟩ := encoded
  rw [decode, restores_join MetricsFilter.restores chosen, ← hasId]
  rfl

/-! ## Notifications -/

theorem NotificationFilter.decode_encode (filter : NotificationConfigurationFilter) :
    (NotificationFilter.encode filter).decode = filter.canonical := by
  obtain ⟨key⟩ := filter
  cases key with
  | none => rfl
  | some key =>
    have rules := bind_decodeSame key.filterRules
    simp only [decode, encode, Option.map_some, KeyFilter.decode, KeyFilter.encode, rules]
    rfl

theorem map_decode_filter (filter : Option NotificationConfigurationFilter) :
    (filter.map NotificationFilter.encode).map NotificationFilter.decode
      = filter.map NotificationConfigurationFilter.canonical := by
  rw [Option.map_map]
  exact Option.map_congr fun filter _ => NotificationFilter.decode_encode filter

/-- A receiver of any kind keeps its resource, its events, its filter and its id. -/
theorem Receiver.encode_eq_ok {type member : String} {arn id : Option String}
    {events : Option (List String)} {filter : Option NotificationConfigurationFilter}
    {sent : Receiver} (encoded : encode type member arn events filter id = .ok sent) :
    some sent.arn = arn ∧ decodeSame sent.events = unlessEmpty events ∧
      sent.filter.map NotificationFilter.decode
        = filter.map NotificationConfigurationFilter.canonical ∧ sent.id = id := by
  simp only [encode, bind_eq_ok, demand_eq_ok, pure_eq_ok] at encoded
  obtain ⟨name, hasName, kinds, hasKinds, rfl⟩ := encoded
  rw [decodeSame_eq, ← hasName, ← hasKinds]
  exact ⟨rfl, rfl, map_decode_filter filter, rfl⟩

theorem Receiver.restores_topic :
    Restores encodeTopic decodeTopic TopicConfiguration.canonical := by
  intro topic sent encoded
  obtain ⟨arn, events, filter, id⟩ := encode_eq_ok encoded
  rw [decodeTopic, arn, events, filter, id]
  rfl

theorem Receiver.restores_queue :
    Restores encodeQueue decodeQueue QueueConfiguration.canonical := by
  intro queue sent encoded
  obtain ⟨arn, events, filter, id⟩ := encode_eq_ok encoded
  rw [decodeQueue, arn, events, filter, id]
  rfl

theorem Receiver.restores_function :
    Restores encodeFunction decodeFunction LambdaFunctionConfiguration.canonical := by
  intro function sent encoded
  obtain ⟨arn, events, filter, id⟩ := encode_eq_ok encoded
  rw [decodeFunction, arn, events, filter, id]
  rfl

theorem Notification.restores :
    Restores Notification.encode Notification.decode NotificationConfiguration.canonical := by
  intro configuration sent encoded
  simp only [encode, bind_eq_ok, pure_eq_ok] at encoded
  obtain ⟨topics, toTopics, queues, toQueues, functions, toFunctions, rfl⟩ := encoded
  rw [decode, Receiver.restores_topic.items toTopics, Receiver.restores_queue.items toQueues,
    Receiver.restores_function.items toFunctions]
  rfl

/-! ## Object ownership -/

theorem OwnershipRule.restores : Restores OwnershipRule.encode OwnershipRule.decode id := by
  intro rule sent encoded
  simp only [encode, bind_eq_ok, demand_eq_ok, pure_eq_ok] at encoded
  obtain ⟨ownership, hasOwnership, rfl⟩ := encoded
  rw [decode, ← hasOwnership]
  rfl

theorem Ownership.restores :
    Restores Ownership.encode Ownership.decode OwnershipControls.canonical := by
  intro controls sent encoded
  simp only [encode, bind_eq_ok, pure_eq_ok] at encoded
  obtain ⟨rules, written, rfl⟩ := encoded
  rw [decode, OwnershipRule.restores.all written, canonicalItems_id]
  rfl

/-! ## Replication -/

theorem Switch.restores (type : String) : Restores (Switch.encode type) Switch.decode id := by
  intro option sent encoded
  simp only [encode, bind_eq_ok, demand_eq_ok, pure_eq_ok] at encoded
  obtain ⟨status, hasStatus, rfl⟩ := encoded
  rw [decode, ← hasStatus]
  rfl

theorem ReplicaOwner.restores : Restores ReplicaOwner.encode ReplicaOwner.decode id := by
  intro replicaOwner sent encoded
  simp only [encode, bind_eq_ok, demand_eq_ok, pure_eq_ok] at encoded
  obtain ⟨owner, hasOwner, rfl⟩ := encoded
  rw [decode, ← hasOwner]
  rfl

theorem DestinationMetrics.restores :
    Restores DestinationMetrics.encode DestinationMetrics.decode id := by
  intro metrics sent encoded
  simp only [encode, bind_eq_ok, demand_eq_ok, pure_eq_ok] at encoded
  obtain ⟨status, hasStatus, rfl⟩ := encoded
  rw [decode, ← hasStatus]
  rfl

theorem TimeControl.restores : Restores TimeControl.encode TimeControl.decode id := by
  intro time sent encoded
  simp only [encode, bind_eq_ok, demand_eq_ok, pure_eq_ok] at encoded
  obtain ⟨status, hasStatus, rfl⟩ := encoded
  rw [decode, ← hasStatus]
  rfl

theorem Destination.restores : Restores Destination.encode Destination.decode id := by
  intro destination sent encoded
  simp only [encode, bind_eq_ok, demand_eq_ok, pure_eq_ok] at encoded
  obtain ⟨replicaOwner, owned, metrics, measured, time, timed, bucket, hasBucket, rfl⟩ := encoded
  rw [decode, ReplicaOwner.restores.option owned, DestinationMetrics.restores.option measured,
    TimeControl.restores.option timed, ← hasBucket, Option.map_id, Option.map_id, Option.map_id]
  rfl

theorem SourceCriteria.restores : Restores SourceCriteria.encode SourceCriteria.decode id := by
  intro criteria sent encoded
  simp only [encode, bind_eq_ok, pure_eq_ok] at encoded
  obtain ⟨replicas, modified, encrypted, keyed, rfl⟩ := encoded
  rw [decode, (Switch.restores _).option modified, (Switch.restores _).option keyed, Option.map_id]
  rfl

theorem ReplicationRule.restores : Restores ReplicationRule.encode ReplicationRule.decode
    BucketSteward.ReplicationRule.canonical := by
  intro rule sent encoded
  simp only [encode, bind_eq_ok, demand_eq_ok, pure_eq_ok] at encoded
  obtain ⟨filter, chosen, criteria, selected, existing, switched, destination, received, status,
    hasStatus, rfl⟩ := encoded
  rw [decode, Filter.restores.option chosen, SourceCriteria.restores.option selected,
    (Switch.restores _).option switched, Destination.restores.option received, ← hasStatus,
    Option.map_id, Option.map_id, Option.map_id]
  rfl

theorem Replication.restores :
    Restores Replication.encode Replication.decode ReplicationConfiguration.canonical := by
  intro configuration sent encoded
  simp only [encode, bind_eq_ok, demand_eq_ok, pure_eq_ok] at encoded
  obtain ⟨rules, written, role, hasRole, rfl⟩ := encoded
  rw [decode, ReplicationRule.restores.all written, ← hasRole]
  rfl

/-! ## Request payment -/

theorem RequestPayment.restores : Restores RequestPayment.encode RequestPayment.decode id := by
  intro configuration sent encoded
  simp only [encode, bind_eq_ok, demand_eq_ok, pure_eq_ok] at encoded
  obtain ⟨payer, hasPayer, rfl⟩ := encoded
  rw [decode, ← hasPayer]
  rfl

/-! ## Websites -/

theorem ErrorDocument.restores : Restores ErrorDocument.encode ErrorDocument.decode id := by
  intro document sent encoded
  simp only [encode, bind_eq_ok, demand_eq_ok, pure_eq_ok] at encoded
  obtain ⟨key, hasKey, rfl⟩ := encoded
  rw [decode, ← hasKey]
  rfl

theorem IndexDocument.restores : Restores IndexDocument.encode IndexDocument.decode id := by
  intro document sent encoded
  simp only [encode, bind_eq_ok, demand_eq_ok, pure_eq_ok] at encoded
  obtain ⟨suffix, hasSuffix, rfl⟩ := encoded
  rw [decode, ← hasSuffix]
  rfl

theorem RedirectAll.restores : Restores RedirectAll.encode RedirectAll.decode id := by
  intro redirect sent encoded
  simp only [encode, bind_eq_ok, demand_eq_ok, pure_eq_ok] at encoded
  obtain ⟨hostName, hasHostName, rfl⟩ := encoded
  rw [decode, ← hasHostName]
  rfl

theorem Website.restores : Restores Website.encode Website.decode WebsiteConfiguration.canonical := by
  intro configuration sent encoded
  simp only [encode, bind_eq_ok, pure_eq_ok] at encoded
  obtain ⟨errorDocument, onError, indexDocument, onIndex, redirect, elsewhere, rfl⟩ := encoded
  rw [decode, ErrorDocument.restores.option onError, IndexDocument.restores.option onIndex,
    RedirectAll.restores.option elsewhere, bind_decodeSame, Option.map_id, Option.map_id,
    Option.map_id]
  rfl

end Wire

/-! ## The parts of a bucket -/

/-- What needs no wire form of its own is restored as it is. -/
theorem restores_same {α : Type} : Wire.Restores (β := α) .ok id id := by
  intro value sent encoded
  cases encoded
  rfl

theorem Setting.restores (s : Setting) : Wire.Restores s.encode s.decode s.canonical := by
  cases s with
  | accelerate | versioning => exact restores_same
  | logging => exact Wire.Logging.restores
  | notification => exact Wire.Notification.restores
  | requestPayment => exact Wire.RequestPayment.restores

theorem Document.restores (d : Document) : Wire.Restores d.encode d.decode d.canonical := by
  cases d with
  | cors => exact Wire.Cors.restores
  | encryption => exact Wire.Encryption.restores
  | lifecycle => exact Wire.Lifecycle.restores
  | ownershipControls => exact Wire.Ownership.restores
  | publicAccessBlock => exact restores_same
  | replication => exact Wire.Replication.restores
  | tagging => exact Wire.Tagging.restores
  | website => exact Wire.Website.restores

theorem Collection.restores (c : Collection) : Wire.Restores c.encode c.decode c.canonical := by
  cases c with
  | analytics => exact Wire.Analytics.restores
  | intelligentTiering => exact Wire.IntelligentTiering.restores
  | inventory => exact Wire.Inventory.restores
  | metrics => exact Wire.Metrics.restores

/-- Whatever part of a bucket can be encoded decodes to exactly its canonical form, and a tag to
itself. The tags of a bucket and those that the tag service keeps have one wire form. -/
theorem decodes_to_canonical :
    (∀ (s : Setting) (value : s.Value) (sent : s.Sent), s.encode value = .ok sent →
      s.decode sent = s.canonical value) ∧
    (∀ (d : Document) (content : d.Content) (sent : d.Sent), d.encode content = .ok sent →
      d.decode sent = d.canonical content) ∧
    (∀ (c : Collection) (item : c.Item) (sent : c.Sent), c.encode item = .ok sent →
      c.decode sent = c.canonical item) ∧
    (∀ (tag : Tag) (sent : Wire.Tag), Wire.Tag.encode tag = .ok sent → sent.decode = tag) :=
  ⟨Setting.restores, Document.restores, Collection.restores, Wire.Tag.restores⟩

/-- An empty list of topics, a leap second and the second member of a filter are lost; words that
mean nothing are kept. -/
theorem leap_second_decodes_to_canonical :
    let leapSecond : Timestamp := ⟨1483228799, 1500000000, by decide, by decide, by decide, by decide⟩
    let second : Timestamp := ⟨1483228799, 0, by decide, by decide, by decide, by decide⟩
    let rule (date : Timestamp) : LifecycleRule := {
      status := some "Dormant"
      expiration := some { date := some date }
      transitions := some [{ storageClass := some "TAPE" }] }
    let tag : Tag := ⟨some "stage", some "live"⟩
    let filter : ConfigurationFilter := { keyPrefix := some "logs/", tag := some tag }
    (∃ sent, Setting.notification.encode { topicConfigurations := some [] } = .ok sent ∧
      Setting.notification.decode sent = {}) ∧
    (∃ sent, Document.lifecycle.encode { rules := some [rule leapSecond] } = .ok sent ∧
      Document.lifecycle.decode sent = { rules := some [rule second] }) ∧
    (∃ sent, Collection.analytics.encode { id := some "reports", filter := some filter } = .ok sent ∧
      Collection.analytics.decode sent
        = { id := some "reports", filter := some { keyPrefix := some "logs/" } }) ∧
    ∃ sent, Wire.Tag.encode tag = .ok sent ∧ sent.decode = tag := by
  intro leapSecond second rule tag filter
  obtain ⟨settings, documents, collections, tags⟩ := decodes_to_canonical
  have notification := settings .notification { topicConfigurations := some [] } _ rfl
  have lifecycle := documents .lifecycle { rules := some [rule leapSecond] } _ rfl
  have analytics := collections .analytics { id := some "reports", filter := some filter } _ rfl
  exact ⟨⟨_, rfl, notification⟩, ⟨_, rfl, lifecycle⟩, ⟨_, rfl, analytics⟩, ⟨_, rfl, tags tag _ rfl⟩⟩

end BucketSteward
