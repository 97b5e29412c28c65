import BucketSteward.Form

/-!
Event notifications to topics, queues, functions and the event bus.
-/

namespace BucketSteward

open Form

/-- A condition on the beginning or the end of a key. -/
structure FilterRule where
  name : Option String := none
  value : Option String := none
  deriving DecidableEq, Inhabited

instance : JsonForm FilterRule := record {} [
  optional "name" (·.name) fun r v => { r with name := v },
  optional "value" (·.value) fun r v => { r with value := v }]

/-- Conditions on the key of an object. -/
structure KeyFilter where
  filterRules : Option (List FilterRule) := none
  deriving DecidableEq, Inhabited

instance : JsonForm KeyFilter := record {} [
  optional "filterRules" (·.filterRules) fun r v => { r with filterRules := v }]

/-- The objects whose events are sent. -/
structure NotificationConfigurationFilter where
  key : Option KeyFilter := none
  deriving DecidableEq, Inhabited

instance : JsonForm NotificationConfigurationFilter := record {} [
  optional "key" (·.key) fun r v => { r with key := v }]

/-- Delivery to the event bus; the marker carries nothing. -/
structure EventBridgeConfiguration where
  deriving DecidableEq, Inhabited

instance : JsonForm EventBridgeConfiguration := record {} []

/-- Events sent to a function. -/
structure LambdaFunctionConfiguration where
  events : Option (List String) := none
  filter : Option NotificationConfigurationFilter := none
  id : Option String := none
  lambdaFunctionArn : Option String := none
  deriving DecidableEq, Inhabited

instance : JsonForm LambdaFunctionConfiguration := record {} [
  optional "events" (·.events) fun r v => { r with events := v },
  optional "filter" (·.filter) fun r v => { r with filter := v },
  optional "id" (·.id) fun r v => { r with id := v },
  optional "lambdaFunctionArn" (·.lambdaFunctionArn) fun r v => { r with lambdaFunctionArn := v }]

/-- Events sent to a queue. -/
structure QueueConfiguration where
  events : Option (List String) := none
  filter : Option NotificationConfigurationFilter := none
  id : Option String := none
  queueArn : Option String := none
  deriving DecidableEq, Inhabited

instance : JsonForm QueueConfiguration := record {} [
  optional "events" (·.events) fun r v => { r with events := v },
  optional "filter" (·.filter) fun r v => { r with filter := v },
  optional "id" (·.id) fun r v => { r with id := v },
  optional "queueArn" (·.queueArn) fun r v => { r with queueArn := v }]

/-- Events sent to a topic. -/
structure TopicConfiguration where
  events : Option (List String) := none
  filter : Option NotificationConfigurationFilter := none
  id : Option String := none
  topicArn : Option String := none
  deriving DecidableEq, Inhabited

instance : JsonForm TopicConfiguration := record {} [
  optional "events" (·.events) fun r v => { r with events := v },
  optional "filter" (·.filter) fun r v => { r with filter := v },
  optional "id" (·.id) fun r v => { r with id := v },
  optional "topicArn" (·.topicArn) fun r v => { r with topicArn := v }]

/-- The event notifications of a bucket. -/
structure NotificationConfiguration where
  eventBridgeConfiguration : Option EventBridgeConfiguration := none
  lambdaFunctionConfigurations : Option (List LambdaFunctionConfiguration) := none
  queueConfigurations : Option (List QueueConfiguration) := none
  topicConfigurations : Option (List TopicConfiguration) := none
  deriving DecidableEq, Inhabited

instance : JsonForm NotificationConfiguration := record {} [
  optional "eventBridgeConfiguration" (·.eventBridgeConfiguration)
    fun r v => { r with eventBridgeConfiguration := v },
  optional "lambdaFunctionConfigurations" (·.lambdaFunctionConfigurations)
    fun r v => { r with lambdaFunctionConfigurations := v },
  optional "queueConfigurations" (·.queueConfigurations)
    fun r v => { r with queueConfigurations := v },
  optional "topicConfigurations" (·.topicConfigurations)
    fun r v => { r with topicConfigurations := v }]

end BucketSteward
