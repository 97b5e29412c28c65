import BucketSteward.Configuration.Notification
import BucketSteward.Wire.Encoding

/-!
Event notifications on the wire: every receiver names its resource and the events it receives.
Receivers are encoded by their kind, topics first, then queues, then functions.
-/

namespace BucketSteward.Wire

structure KeyFilter where
  filterRules : Option (List FilterRule)
  deriving DecidableEq

namespace KeyFilter

def encode (filter : BucketSteward.KeyFilter) : KeyFilter where
  filterRules := filter.filterRules

def decode (filter : KeyFilter) : BucketSteward.KeyFilter where
  filterRules := filter.filterRules.bind decodeSame

end KeyFilter

structure NotificationFilter where
  key : Option KeyFilter
  deriving DecidableEq

namespace NotificationFilter

def encode (filter : NotificationConfigurationFilter) : NotificationFilter where
  key := filter.key.map KeyFilter.encode

def decode (filter : NotificationFilter) : NotificationConfigurationFilter where
  key := filter.key.map KeyFilter.decode

end NotificationFilter

/-- A receiver of events of any kind. -/
structure Receiver where
  arn : String
  events : List String
  filter : Option NotificationFilter
  id : Option String
  deriving DecidableEq

namespace Receiver

/-- The receiver of a type that names its resource by one of its members. -/
def encode (type member : String) (arn : Option String) (events : Option (List String))
    (filter : Option NotificationConfigurationFilter) (id : Option String) :
    Encoded Receiver := do
  let arn ← demand type member arn
  let events ← demand type "events" events
  pure { arn, events, filter := filter.map NotificationFilter.encode, id }

def encodeTopic (topic : TopicConfiguration) : Encoded Receiver :=
  encode "TopicConfiguration" "topic_arn" topic.topicArn topic.events topic.filter topic.id

def decodeTopic (receiver : Receiver) : TopicConfiguration where
  topicArn := some receiver.arn
  events := decodeSame receiver.events
  filter := receiver.filter.map NotificationFilter.decode
  id := receiver.id

def encodeQueue (queue : QueueConfiguration) : Encoded Receiver :=
  encode "QueueConfiguration" "queue_arn" queue.queueArn queue.events queue.filter queue.id

def decodeQueue (receiver : Receiver) : QueueConfiguration where
  queueArn := some receiver.arn
  events := decodeSame receiver.events
  filter := receiver.filter.map NotificationFilter.decode
  id := receiver.id

def encodeFunction (function : LambdaFunctionConfiguration) : Encoded Receiver :=
  encode "LambdaFunctionConfiguration" "lambda_function_arn" function.lambdaFunctionArn
    function.events function.filter function.id

def decodeFunction (receiver : Receiver) : LambdaFunctionConfiguration where
  lambdaFunctionArn := some receiver.arn
  events := decodeSame receiver.events
  filter := receiver.filter.map NotificationFilter.decode
  id := receiver.id

end Receiver

structure Notification where
  eventBridge : Option EventBridgeConfiguration
  functions : Option (List Receiver)
  queues : Option (List Receiver)
  topics : Option (List Receiver)
  deriving DecidableEq

namespace Notification

def encode (configuration : NotificationConfiguration) : Encoded Notification := do
  let topics ← encodeItems Receiver.encodeTopic configuration.topicConfigurations
  let queues ← encodeItems Receiver.encodeQueue configuration.queueConfigurations
  let functions ← encodeItems Receiver.encodeFunction configuration.lambdaFunctionConfigurations
  pure { eventBridge := configuration.eventBridgeConfiguration, functions, queues, topics }

def decode (configuration : Notification) : NotificationConfiguration where
  eventBridgeConfiguration := configuration.eventBridge
  lambdaFunctionConfigurations := decodeItems Receiver.decodeFunction configuration.functions
  queueConfigurations := decodeItems Receiver.decodeQueue configuration.queues
  topicConfigurations := decodeItems Receiver.decodeTopic configuration.topics

end Notification

end BucketSteward.Wire
