import BucketSteward.Acl.Headers
import BucketSteward.Delta

/-!
How a desired and an observed specification are made comparable. A store reports a value for some
parts that nobody configured, so a part without opinion has to compare equal to what the store
assumes there; a document that would be deleted has to compare equal to none; and the order of
items, and of tags, carries no meaning.

Every part is treated on its own: what becomes of it depends on the two values of that part alone,
except that the six texts of the ACL belong together.
-/

namespace BucketSteward

/-! ## What a store assumes -/

def defaultAccelerateStatus : String := "Suspended"
def defaultPayer : String := "BucketOwner"
def defaultVersioningStatus : String := "Suspended"

/-- The block on public access of a bucket that was never given one. -/
def defaultPublicAccessBlock : PublicAccessBlockConfiguration where
  blockPublicAcls := some false
  blockPublicPolicy := some false
  ignorePublicAcls := some false
  restrictPublicBuckets := some false

/-- A list says something when it has at least one element. -/
def isFilled {α : Type} (list : Option (List α)) : Bool :=
  match list with
  | some (_ :: _) => true
  | _ => false

namespace Document

/-- The content is something that can be put; any other content is the same as no document. -/
def isConfigured : (document : Document) → document.Content → Bool
  | .cors, content => isFilled content.corsRules
  | .encryption, content => isFilled content.rules
  | .lifecycle, content => isFilled content.rules
  | .ownershipControls, content => isFilled content.rules
  | .publicAccessBlock, content => content != defaultPublicAccessBlock
  | .replication, content => isFilled content.rules
  | .tagging, content => isFilled content.tagSet
  | .website, content => content.indexDocument.isSome

/-- What having no opinion on an observed document is compared as. -/
def assumed : (document : Document) → document.Content
  | .publicAccessBlock => defaultPublicAccessBlock
  | document => document.blank

end Document

/-- An observed word, if it is the one assumed. -/
def keepDefault (observed : Option String) (word : String) : Option String :=
  observed.filter (· == word)

namespace Setting

/-- What having no opinion is compared as, beside an observed value. -/
def assumed : (setting : Setting) → setting.Value → setting.Value
  | .accelerate, observed => { status := keepDefault observed.status defaultAccelerateStatus }
  | .logging, _ => {}
  | .notification, _ => {}
  | .requestPayment, _ => { payer := some defaultPayer }
  | .versioning, observed => { status := keepDefault observed.status defaultVersioningStatus }

end Setting

/-! ## The rules for one part -/

/-- A desired value, or what its absence is compared as where something is observed. -/
def filled {α : Type} (assumed : α → α) (desired observed : Option α) : Option α :=
  desired.orElse fun _ => observed.map assumed

/-- An observed document; none is the same as a desired one that would be deleted. -/
def unlessDeleted {α : Type} (isConfigured : α → Bool) (desired observed : Option α) : Option α :=
  observed.orElse fun _ => desired.filter (!isConfigured ·)

namespace Collection

/-- The items in the order of their ids. Of several with one id the first stands. -/
def byId (collection : Collection) (items : List collection.Item) : List collection.Item :=
  (items.foldr (fun item map => map.insert (collection.id item) item) Keyed.empty).values

end Collection

namespace Tag

/-- The order of tags is that of their keys; a tag without key comes first. -/
def comesBefore (a b : Tag) : Bool :=
  match a.key, b.key with
  | none, some _ => true
  | some k, some l => k < l
  | _, none => false

/-- Puts a tag before the first one that does not come before it. -/
def insertInOrder (tag : Tag) : List Tag → List Tag
  | [] => [tag]
  | t :: rest => if t.comesBefore tag then t :: insertInOrder tag rest else tag :: t :: rest

/-- The tags in the order of their keys; tags with one key keep their order. -/
def inOrder (tags : List Tag) : List Tag :=
  tags.foldr insertInOrder []

end Tag

def Tagging.inOrder (tagging : Tagging) : Tagging :=
  { tagSet := tagging.tagSet.map Tag.inOrder }

/-! ## The ACL -/

namespace BucketSpec

/-- The six texts that describe the ACL. -/
def aclTexts (spec : BucketSpec) : AclGrants where
  acl := spec.acl
  grantFullControl := spec.grantFullControl
  grantRead := spec.grantRead
  grantReadAcp := spec.grantReadAcp
  grantWrite := spec.grantWrite
  grantWriteAcp := spec.grantWriteAcp

end BucketSpec

namespace AclGrants

/-- No permission is spoken of. -/
def isWithoutGrants (texts : AclGrants) : Bool :=
  texts.grantFullControl.isNone && texts.grantRead.isNone && texts.grantReadAcp.isNone
    && texts.grantWrite.isNone && texts.grantWriteAcp.isNone

/-- An empty text where one is observed and none is desired. -/
def placeholder (desired observed : Option String) : Option String :=
  desired.orElse fun _ => observed.map fun _ => ""

/-- Makes the texts of two ACLs comparable. A canned ACL and grants describe the same thing, so a
desired canned ACL leaves only the canned ACL to compare, and that against the one of the observed
names that it is. Without one, an observed ACL that may be the default counts as none, and
permissions are compared only if some is desired. The owner holds every permission, whether or not
that is desired. -/
def normalize (desired observed : AclGrants) : AclGrants × AclGrants :=
  match desired.acl with
  | some acl =>
      match observed.acl with
      | some names =>
          let chosen := ((CannedAcls.parse acl).first?).getD ""
          ({ acl := some chosen }, { acl := (CannedAcls.parse names).matching? chosen })
      | none => ({ acl := some acl }, {})
  | none =>
      let acl := observed.acl.filter fun names => !(CannedAcls.parse names).isDefault
      if desired.isWithoutGrants then (desired, { acl })
      else
        let owners := desired.grantFullControl.isNone && observed.grantFullControl.isSome
        ({ acl := none
           grantFullControl := if owners then some "" else desired.grantFullControl
           grantRead := placeholder desired.grantRead observed.grantRead
           grantReadAcp := placeholder desired.grantReadAcp observed.grantReadAcp
           grantWrite := placeholder desired.grantWrite observed.grantWrite
           grantWriteAcp := placeholder desired.grantWriteAcp observed.grantWriteAcp },
         { observed with
           acl
           grantFullControl := if owners then some "" else observed.grantFullControl })

end AclGrants

/-! ## Whole specifications -/

namespace BucketSpec

/-- A desired setting beside the observed one. -/
def filledSetting (desired observed : BucketSpec) (setting : Setting) : Option setting.Value :=
  filled setting.assumed (desired.setting setting) (observed.setting setting)

/-- A desired document beside the observed one. -/
def filledDocument (desired observed : BucketSpec) (document : Document) :
    Option document.Content :=
  filled (fun _ => document.assumed) (desired.document document) (observed.document document)

/-- An observed document beside the desired one. -/
def keptDocument (desired observed : BucketSpec) (document : Document) : Option document.Content :=
  unlessDeleted document.isConfigured (desired.filledDocument observed document)
    (observed.document document)

/-- The items of a desired collection beside the observed one. -/
def filledItems (desired observed : BucketSpec) (collection : Collection) :
    Option (List collection.Item) :=
  (filled (fun _ => []) (desired.collection collection) (observed.collection collection)).map
    collection.byId

/-- What is desired, made comparable with what was observed. -/
def normalizedDesired (desired observed : BucketSpec) : BucketSpec :=
  let acl := (desired.aclTexts.normalize observed.aclTexts).1
  { name := desired.name
    acl := acl.acl
    grantFullControl := acl.grantFullControl
    grantRead := acl.grantRead
    grantReadAcp := acl.grantReadAcp
    grantWrite := acl.grantWrite
    grantWriteAcp := acl.grantWriteAcp
    createBucketConfiguration := desired.createBucketConfiguration
    objectLockEnabledForBucket := desired.objectLockEnabledForBucket
    accelerate := desired.filledSetting observed .accelerate
    analytics := desired.filledItems observed .analytics
    cors := desired.filledDocument observed .cors
    encryption := desired.filledDocument observed .encryption
    intelligentTiering := desired.filledItems observed .intelligentTiering
    inventory := desired.filledItems observed .inventory
    lifecycle := desired.filledDocument observed .lifecycle
    logging := desired.filledSetting observed .logging
    metrics := desired.filledItems observed .metrics
    notification := desired.filledSetting observed .notification
    ownershipControls := desired.filledDocument observed .ownershipControls
    policy := desired.policy
    publicAccessBlock := desired.filledDocument observed .publicAccessBlock
    replication := desired.filledDocument observed .replication
    requestPayment := desired.filledSetting observed .requestPayment
    tagging := (desired.filledDocument observed .tagging).map Tagging.inOrder
    versioning := desired.filledSetting observed .versioning
    website := desired.filledDocument observed .website }

/-- What was observed, made comparable with what is desired. -/
def normalizedObserved (desired observed : BucketSpec) : BucketSpec :=
  let acl := (desired.aclTexts.normalize observed.aclTexts).2
  { name := observed.name
    acl := acl.acl
    grantFullControl := acl.grantFullControl
    grantRead := acl.grantRead
    grantReadAcp := acl.grantReadAcp
    grantWrite := acl.grantWrite
    grantWriteAcp := acl.grantWriteAcp
    createBucketConfiguration := observed.createBucketConfiguration
    -- Object lock can not be turned off, so without opinion there is nothing to compare.
    objectLockEnabledForBucket :=
      desired.objectLockEnabledForBucket.bind fun _ => observed.objectLockEnabledForBucket
    accelerate := observed.accelerate
    analytics := observed.analytics.map (Collection.byId .analytics)
    cors := desired.keptDocument observed .cors
    encryption := desired.keptDocument observed .encryption
    intelligentTiering := observed.intelligentTiering.map (Collection.byId .intelligentTiering)
    inventory := observed.inventory.map (Collection.byId .inventory)
    lifecycle := desired.keptDocument observed .lifecycle
    logging := observed.logging
    metrics := observed.metrics.map (Collection.byId .metrics)
    notification := observed.notification
    ownershipControls := desired.keptDocument observed .ownershipControls
    policy := observed.policy
    publicAccessBlock := desired.keptDocument observed .publicAccessBlock
    replication := desired.keptDocument observed .replication
    requestPayment := observed.requestPayment
    tagging := (desired.keptDocument observed .tagging).map Tagging.inOrder
    versioning := observed.versioning
    website := desired.keptDocument observed .website }

end BucketSpec

end BucketSteward
