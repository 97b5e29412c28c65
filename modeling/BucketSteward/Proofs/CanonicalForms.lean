import BucketSteward.Part

/-! The canonical form of a configuration is what the wire can tell of it. An empty list says the
same as an absent one; a date has whole seconds; a filter that can only be of one kind is of the
first kind it speaks of; and a destination of inventories has a bucket. Everything else is kept, so
each form below names just the members that it changes. -/
namespace BucketSteward

/-! ## Lists -/

variable {α : Type}

/-- A list that is there has an element. -/
def unlessEmpty (items : Option (List α)) : Option (List α) :=
  items.filter (!·.isEmpty)

/-- The canonical items of a list that may be absent. -/
def canonicalItems (canonical : α → α) (items : Option (List α)) : Option (List α) :=
  unlessEmpty (items.map (·.map canonical))

/-! ## Tags and filters -/

def Tagging.canonical (tagging : Tagging) : Tagging :=
  { tagging with tagSet := unlessEmpty tagging.tagSet }

def AndOperator.canonical (and : AndOperator) : AndOperator :=
  { and with tags := unlessEmpty and.tags }

namespace ConfigurationFilter

def canonical (filter : ConfigurationFilter) : ConfigurationFilter :=
  { filter with and := filter.and.map AndOperator.canonical }

/-- The filter with only the first of `and`, `prefix` and `tag` that it has. -/
def first? (filter : ConfigurationFilter) : Option ConfigurationFilter :=
  (filter.and.map fun and => { and := some and.canonical : ConfigurationFilter }).or <|
  (filter.keyPrefix.map fun text => { keyPrefix := some text : ConfigurationFilter }).or <|
  filter.tag.map fun tag => { tag := some tag }

end ConfigurationFilter

/-! ## Settings -/

def LoggingEnabled.canonical (enabled : LoggingEnabled) : LoggingEnabled :=
  { enabled with targetGrants := unlessEmpty enabled.targetGrants }

def BucketLoggingStatus.canonical (status : BucketLoggingStatus) : BucketLoggingStatus :=
  { status with loggingEnabled := status.loggingEnabled.map LoggingEnabled.canonical }

def KeyFilter.canonical (filter : KeyFilter) : KeyFilter :=
  { filter with filterRules := unlessEmpty filter.filterRules }

def NotificationConfigurationFilter.canonical (filter : NotificationConfigurationFilter) :
    NotificationConfigurationFilter :=
  { filter with key := filter.key.map KeyFilter.canonical }

def LambdaFunctionConfiguration.canonical (function : LambdaFunctionConfiguration) :
    LambdaFunctionConfiguration :=
  { function with
    events := unlessEmpty function.events
    filter := function.filter.map NotificationConfigurationFilter.canonical }

def QueueConfiguration.canonical (queue : QueueConfiguration) : QueueConfiguration :=
  { queue with
    events := unlessEmpty queue.events
    filter := queue.filter.map NotificationConfigurationFilter.canonical }

def TopicConfiguration.canonical (topic : TopicConfiguration) : TopicConfiguration :=
  { topic with
    events := unlessEmpty topic.events
    filter := topic.filter.map NotificationConfigurationFilter.canonical }

def NotificationConfiguration.canonical (configuration : NotificationConfiguration) :
    NotificationConfiguration :=
  { configuration with
    lambdaFunctionConfigurations := canonicalItems LambdaFunctionConfiguration.canonical
      configuration.lambdaFunctionConfigurations
    queueConfigurations := canonicalItems QueueConfiguration.canonical
      configuration.queueConfigurations
    topicConfigurations := canonicalItems TopicConfiguration.canonical
      configuration.topicConfigurations }

/-- Acceleration, payment and versioning have neither lists nor dates. -/
def Setting.canonical : (setting : Setting) → setting.Value → setting.Value
  | .accelerate, value => value
  | .logging, value => BucketLoggingStatus.canonical value
  | .notification, value => NotificationConfiguration.canonical value
  | .requestPayment, value => value
  | .versioning, value => value

/-! ## Documents -/

def CorsRule.canonical (rule : CorsRule) : CorsRule :=
  { rule with
    allowedHeaders := unlessEmpty rule.allowedHeaders
    allowedMethods := unlessEmpty rule.allowedMethods
    allowedOrigins := unlessEmpty rule.allowedOrigins
    exposeHeaders := unlessEmpty rule.exposeHeaders }

def CorsConfiguration.canonical (configuration : CorsConfiguration) : CorsConfiguration :=
  { configuration with corsRules := canonicalItems CorsRule.canonical configuration.corsRules }

def ServerSideEncryptionConfiguration.canonical
    (configuration : ServerSideEncryptionConfiguration) : ServerSideEncryptionConfiguration :=
  { configuration with rules := unlessEmpty configuration.rules }

def LifecycleExpiration.canonical (expiration : LifecycleExpiration) : LifecycleExpiration :=
  { expiration with date := expiration.date.map Timestamp.floor }

def Transition.canonical (transition : Transition) : Transition :=
  { transition with date := transition.date.map Timestamp.floor }

def LifecycleRuleAndOperator.canonical (and : LifecycleRuleAndOperator) :
    LifecycleRuleAndOperator :=
  { and with tags := unlessEmpty and.tags }

def LifecycleRuleFilter.canonical (filter : LifecycleRuleFilter) : LifecycleRuleFilter :=
  { filter with and := filter.and.map LifecycleRuleAndOperator.canonical }

def LifecycleRule.canonical (rule : LifecycleRule) : LifecycleRule :=
  { rule with
    expiration := rule.expiration.map LifecycleExpiration.canonical
    filter := rule.filter.map LifecycleRuleFilter.canonical
    noncurrentVersionTransitions := unlessEmpty rule.noncurrentVersionTransitions
    transitions := canonicalItems Transition.canonical rule.transitions }

def BucketLifecycleConfiguration.canonical (configuration : BucketLifecycleConfiguration) :
    BucketLifecycleConfiguration :=
  { configuration with rules := canonicalItems LifecycleRule.canonical configuration.rules }

def OwnershipControls.canonical (controls : OwnershipControls) : OwnershipControls :=
  { controls with rules := unlessEmpty controls.rules }

def ReplicationRule.canonical (rule : ReplicationRule) : ReplicationRule :=
  { rule with filter := rule.filter.map ConfigurationFilter.canonical }

def ReplicationConfiguration.canonical (configuration : ReplicationConfiguration) :
    ReplicationConfiguration :=
  { configuration with rules := canonicalItems ReplicationRule.canonical configuration.rules }

def WebsiteConfiguration.canonical (configuration : WebsiteConfiguration) :
    WebsiteConfiguration :=
  { configuration with routingRules := unlessEmpty configuration.routingRules }

/-- The block on public access has neither lists nor dates. -/
def Document.canonical : (document : Document) → document.Content → document.Content
  | .cors, content => CorsConfiguration.canonical content
  | .encryption, content => ServerSideEncryptionConfiguration.canonical content
  | .lifecycle, content => BucketLifecycleConfiguration.canonical content
  | .ownershipControls, content => OwnershipControls.canonical content
  | .publicAccessBlock, content => content
  | .replication, content => ReplicationConfiguration.canonical content
  | .tagging, content => Tagging.canonical content
  | .website, content => WebsiteConfiguration.canonical content

/-! ## Items of collections -/

def AnalyticsConfiguration.canonical (configuration : AnalyticsConfiguration) :
    AnalyticsConfiguration :=
  { configuration with filter := configuration.filter.bind ConfigurationFilter.first? }

def IntelligentTieringConfiguration.canonical (configuration : IntelligentTieringConfiguration) :
    IntelligentTieringConfiguration :=
  { configuration with
    filter := configuration.filter.map ConfigurationFilter.canonical
    tierings := unlessEmpty configuration.tierings }

/-- A destination without a bucket is none. -/
def InventoryConfiguration.canonical (configuration : InventoryConfiguration) :
    InventoryConfiguration :=
  { configuration with
    destination := configuration.destination.filter (·.s3BucketDestination.isSome)
    optionalFields := unlessEmpty configuration.optionalFields }

def MetricsAndOperator.canonical (and : MetricsAndOperator) : MetricsAndOperator :=
  { and with tags := unlessEmpty and.tags }

/-- The filter with only the first of `and`, `accessPointArn`, `prefix` and `tag` that it has. -/
def MetricsFilter.first? (filter : MetricsFilter) : Option MetricsFilter :=
  (filter.and.map fun and => { and := some and.canonical : MetricsFilter }).or <|
  (filter.accessPointArn.map fun arn => { accessPointArn := some arn : MetricsFilter }).or <|
  (filter.keyPrefix.map fun text => { keyPrefix := some text : MetricsFilter }).or <|
  filter.tag.map fun tag => { tag := some tag }

def MetricsConfiguration.canonical (configuration : MetricsConfiguration) :
    MetricsConfiguration :=
  { configuration with filter := configuration.filter.bind MetricsFilter.first? }

def Collection.canonical : (collection : Collection) → collection.Item → collection.Item
  | .analytics, item => AnalyticsConfiguration.canonical item
  | .intelligentTiering, item => IntelligentTieringConfiguration.canonical item
  | .inventory, item => InventoryConfiguration.canonical item
  | .metrics, item => MetricsConfiguration.canonical item

/-- The id of an item stays. -/
theorem Collection.id_canonical (collection : Collection) (item : collection.Item) :
    collection.id (collection.canonical item) = collection.id item := by
  cases collection <;> rfl

end BucketSteward
