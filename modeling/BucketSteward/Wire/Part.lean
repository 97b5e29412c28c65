import BucketSteward.Part
import BucketSteward.Wire.Analytics
import BucketSteward.Wire.Cors
import BucketSteward.Wire.Encryption
import BucketSteward.Wire.IntelligentTiering
import BucketSteward.Wire.Inventory
import BucketSteward.Wire.Lifecycle
import BucketSteward.Wire.Logging
import BucketSteward.Wire.Metrics
import BucketSteward.Wire.Notification
import BucketSteward.Wire.Ownership
import BucketSteward.Wire.Replication
import BucketSteward.Wire.RequestPayment
import BucketSteward.Wire.Website

/-!
The parts of a bucket in their wire form. A part that asks for nothing and that has no list and no
date is the same on the wire.

An answer need not hold a value: what a setting or a document decodes to then is told by
`Setting.ofAnswer` and `Document.ofAnswer`.
-/

namespace BucketSteward

open Wire (Encoded)

namespace Setting

@[reducible] def Sent : Setting → Type
  | accelerate => AccelerateConfiguration
  | logging => Wire.Logging
  | notification => Wire.Notification
  | requestPayment => Wire.RequestPayment
  | versioning => VersioningConfiguration

instance : (setting : Setting) → DecidableEq setting.Sent
  | accelerate => inferInstanceAs (DecidableEq AccelerateConfiguration)
  | logging => inferInstanceAs (DecidableEq Wire.Logging)
  | notification => inferInstanceAs (DecidableEq Wire.Notification)
  | requestPayment => inferInstanceAs (DecidableEq Wire.RequestPayment)
  | versioning => inferInstanceAs (DecidableEq VersioningConfiguration)

def encode : (setting : Setting) → setting.Value → Encoded setting.Sent
  | accelerate, value => .ok value
  | logging, value => Wire.Logging.encode value
  | notification, value => Wire.Notification.encode value
  | requestPayment, value => Wire.RequestPayment.encode value
  | versioning, value => .ok value

def decode : (setting : Setting) → setting.Sent → setting.Value
  | accelerate, sent => sent
  | logging, sent => sent.decode
  | notification, sent => sent.decode
  | requestPayment, sent => sent.decode
  | versioning, sent => sent

/-- An answer without a value says nothing about the setting. -/
def ofAnswer (setting : Setting) : Option setting.Sent → setting.Value
  | some sent => setting.decode sent
  | none => setting.blank

end Setting

namespace Document

@[reducible] def Sent : Document → Type
  | cors => Wire.Cors
  | encryption => Wire.Encryption
  | lifecycle => Wire.Lifecycle
  | ownershipControls => Wire.Ownership
  | publicAccessBlock => PublicAccessBlockConfiguration
  | replication => Wire.Replication
  | tagging => Wire.Tagging
  | website => Wire.Website

instance : (document : Document) → DecidableEq document.Sent
  | cors => inferInstanceAs (DecidableEq Wire.Cors)
  | encryption => inferInstanceAs (DecidableEq Wire.Encryption)
  | lifecycle => inferInstanceAs (DecidableEq Wire.Lifecycle)
  | ownershipControls => inferInstanceAs (DecidableEq Wire.Ownership)
  | publicAccessBlock => inferInstanceAs (DecidableEq PublicAccessBlockConfiguration)
  | replication => inferInstanceAs (DecidableEq Wire.Replication)
  | tagging => inferInstanceAs (DecidableEq Wire.Tagging)
  | website => inferInstanceAs (DecidableEq Wire.Website)

def encode : (document : Document) → document.Content → Encoded document.Sent
  | cors, content => Wire.Cors.encode content
  | encryption, content => Wire.Encryption.encode content
  | lifecycle, content => Wire.Lifecycle.encode content
  | ownershipControls, content => Wire.Ownership.encode content
  | publicAccessBlock, content => .ok content
  | replication, content => Wire.Replication.encode content
  | tagging, content => Wire.Tagging.encode content
  | website, content => Wire.Website.encode content

def decode : (document : Document) → document.Sent → document.Content
  | cors, sent => sent.decode
  | encryption, sent => sent.decode
  | lifecycle, sent => sent.decode
  | ownershipControls, sent => sent.decode
  | publicAccessBlock, sent => sent
  | replication, sent => sent.decode
  | tagging, sent => sent.decode
  | website, sent => sent.decode

/-- The document as it is answered. -/
def completed : (document : Document) → document.Sent → document.Sent
  | replication, sent => Wire.Replication.completed sent
  | website, sent => Wire.Website.completed sent
  | cors, sent | encryption, sent | lifecycle, sent | ownershipControls, sent
  | publicAccessBlock, sent | tagging, sent => sent

/-- An answer without the document may count as no document. -/
def mayBeMissing : Document → Bool
  | ownershipControls | publicAccessBlock | replication => true
  | _ => false

/-- An answer without the document is no document, or else a blank one. -/
def ofAnswer (document : Document) : Option document.Sent → Option document.Content
  | some sent => some (document.decode sent)
  | none => if document.mayBeMissing then none else some document.blank

end Document

namespace Collection

@[reducible] def Sent : Collection → Type
  | analytics => Wire.Analytics
  | intelligentTiering => Wire.IntelligentTiering
  | inventory => Wire.Inventory
  | metrics => Wire.Metrics

instance : (collection : Collection) → DecidableEq collection.Sent
  | analytics => inferInstanceAs (DecidableEq Wire.Analytics)
  | intelligentTiering => inferInstanceAs (DecidableEq Wire.IntelligentTiering)
  | inventory => inferInstanceAs (DecidableEq Wire.Inventory)
  | metrics => inferInstanceAs (DecidableEq Wire.Metrics)

/-- The id of an item on the wire, which always has one. -/
def sentId : (collection : Collection) → collection.Sent → String
  | analytics, sent => sent.id
  | intelligentTiering, sent => sent.id
  | inventory, sent => sent.id
  | metrics, sent => sent.id

def encode : (collection : Collection) → collection.Item → Encoded collection.Sent
  | analytics, item => Wire.Analytics.encode item
  | intelligentTiering, item => Wire.IntelligentTiering.encode item
  | inventory, item => Wire.Inventory.encode item
  | metrics, item => Wire.Metrics.encode item

def decode : (collection : Collection) → collection.Sent → collection.Item
  | analytics, sent => sent.decode
  | intelligentTiering, sent => sent.decode
  | inventory, sent => sent.decode
  | metrics, sent => sent.decode

/-- The item as it is answered. -/
def completed : (collection : Collection) → collection.Sent → collection.Sent
  | analytics, sent => Wire.Analytics.completed sent
  | inventory, sent => Wire.Inventory.completed sent
  | intelligentTiering, sent | metrics, sent => sent

end Collection

end BucketSteward
