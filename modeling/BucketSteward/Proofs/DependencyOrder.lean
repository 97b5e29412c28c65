import BucketSteward.Proofs.Settling

/-! The order in which a pass writes parts that depend on each other, while any calls are made to
fail. A part that leads is written before the one that follows it, or is already as it has to be, so
that the second is only written behind the guard that the first sets up (`Pass.Leads`). Of this kind
are versioning and replication, either way round, and the block on public access and the policy. -/
namespace BucketSteward

open Store BucketSpec

namespace Pass

open Program

variable {store there : Store} {location : Location} {adoption : AdoptionPolicy}
  {desired observed : BucketSpec} {holds : Call → Store → Prop} {label : CallLabel} {call : Call}

/-! ## Two parts in order -/

/-- A part that is written by one call. -/
abbrev single (label : CallLabel) (call : Call) : Pass Bool :=
  (Pass.call label call).bind fun _ => .done (.ok true)

theorem steps_single : (single label call).Steps serve holds store ↔ holds call store := by
  simp [single, steps_bind, steps_call]

theorem run_single {written : Bool}
    (ran : (single label call).run serve store = (.ok written, there)) :
    ∃ reply, serve call store = (.ok reply, there) := by
  obtain ⟨reply, middle, first, last⟩ := (run_bind_eq_ok serve).mp ran
  cases last
  exact ⟨reply, run_call first⟩

/-- Writing the first part sets up a guard, which depends on that part alone; every call of writing
parts keeps a step property, that of writing the second part behind the guard. -/
structure Leads (location : Location) (desired observed : BucketSpec) (holds : Call → Store → Prop)
    (guard : StoredBucket → Prop) (first second : Part) where
  leadLabel : CallLabel
  lead : Call
  followLabel : CallLabel
  follow : Call
  effect : StoredBucket → StoredBucket
  leading : first.write location desired observed = single leadLabel lead
  following : second.write location desired observed = single followLabel follow
  writes : lead.effect? = some (desired.name, effect)
  guards : ∀ stored, guard (effect stored)
  alone : ∀ a b, a.SamePart b first → guard b → guard a
  apart : first ≠ second
  leads : ∀ there, holds lead there
  follows : ∀ there, there.Has desired.name guard → holds follow there
  others : ∀ call there, call.part? ≠ none → call.part? ≠ some first → call.part? ≠ some second →
    holds call there

/-- Writing parts is writing the first, and then, if that succeeds, the others. -/
theorem writeParts_cons_steps {part : Part} {rest : List Part}
    (now : (part.write location desired observed).Steps serve holds store)
    (next : ∀ written after, (part.write location desired observed).run serve store
        = (.ok written, after) →
      (writeParts location desired observed rest).Steps serve holds after) :
    (writeParts location desired observed (part :: rest)).Steps serve holds store := by
  rw [writeParts, bind_eq, steps_bind, under, steps_mapFault]
  refine ⟨now, fun written after ran => ?_⟩
  rw [run_mapFault] at ran
  rw [bind_eq, steps_bind]
  refine ⟨next written after ?_, fun _ _ _ => steps_done _ _⟩
  rcases outcome : (part.write location desired observed).run serve store with ⟨fault | value, final⟩
  · rw [outcome] at ran
    cases ran
  · rw [outcome] at ran
    exact ran

/-- Writing a part that is neither of the two keeps the step property, and the guard. -/
theorem Leads.write_other {guard : StoredBucket → Prop} {first second part : Part}
    (order : Leads location desired observed holds guard first second) (notFirst : part ≠ first)
    (notSecond : part ≠ second) (store : Store) :
    (part.write location desired observed).Steps serve holds store ∧
      (store.Has desired.name guard →
        ((part.write location desired observed).run serve store).2.Has desired.name guard) := by
  have uses := (write_obeys location desired observed part).uses
  have kept := uses.invariant serve
    (fun there => store.Has desired.name guard → there.Has desired.name guard)
    (fun call there own kept guarded => serve_has order.alone (by simp [own.1])
      (by simpa [own.1] using notFirst) (kept guarded)) id
  refine ⟨fun asked among => ?_, kept.2⟩
  obtain ⟨own, -⟩ := (kept.1 asked among).1
  exact order.others _ _ (by simp [own]) (by simpa [own] using notFirst) (by simpa [own] using notSecond)

/-- Every call of writing a list of parts keeps the step property, if the second part is behind the
guard from the start or comes after the first. -/
theorem Leads.writeParts_steps {guard : StoredBucket → Prop} {first second : Part}
    (order : Leads location desired observed holds guard first second) {parts : List Part}
    (distinct : parts.Nodup)
    (ordered : second ∈ parts → store.Has desired.name guard ∨ [first, second].Sublist parts) :
    (writeParts location desired observed parts).Steps serve holds store := by
  induction parts generalizing store with
  | nil => exact steps_done _ _
  | cons part rest ih =>
    obtain ⟨fresh, distinct⟩ := List.nodup_cons.mp distinct
    by_cases isFirst : part = first
    · subst isFirst
      refine writeParts_cons_steps ?_ fun written after ran => ih distinct fun _ => .inl ?_
      · rw [order.leading, steps_single]
        exact order.leads store
      · rw [order.leading] at ran
        obtain ⟨reply, served⟩ := run_single ran
        have done : (serve order.lead store).1 = .ok reply := by rw [served]
        obtain ⟨stored, -, there⟩ := serve_of_ok order.writes done
        rw [served] at there
        exact ⟨_, there, order.guards stored⟩
    by_cases isSecond : part = second
    · subst isSecond
      have guarded : store.Has desired.name guard := by
        rcases ordered List.mem_cons_self with guarded | sublist
        · exact guarded
        · cases sublist with
          | cons _ within => exact absurd (within.subset (by simp)) fresh
          | cons_cons _ _ => exact absurd rfl order.apart
      refine writeParts_cons_steps ?_ fun _ _ _ => ih distinct fun among => absurd among fresh
      rw [order.following, steps_single]
      exact order.follows store guarded
    · obtain ⟨now, final⟩ := order.write_other isFirst isSecond store
      refine writeParts_cons_steps now fun written after ran => ih distinct fun among => ?_
      rw [ran] at final
      rcases ordered (List.mem_cons_of_mem _ among) with guarded | sublist
      · exact .inl (final guarded)
      · cases sublist with
        | cons _ within => exact .inr within
        | cons_cons _ _ => exact absurd rfl isFirst

/-! ## Parts that one call writes -/

/-- A document of a general purpose bucket is put or deleted by one call. -/
theorem write_document (location : Location) (observed : BucketSpec)
    (general : isDirectoryName desired.name = false) (d : Document) :
    ∃ label call, (Part.document d).write location desired observed = single label call ∧
      call.part? = some (.document d) ∧ call.effect? = some (desired.name,
        (·.withDocument d ((desired.document d).filter d.isConfigured))) := by
  have written : (Part.document d).write location desired observed
      = (syncDocument d desired.name (desired.document d)).bind fun _ => .done (.ok true) := by
    cases d with
    | tagging =>
      simp only [Part.write, general, Bool.false_eq_true, if_false]
      rfl
    | _ => rfl
  rw [written, syncDocument]
  cases (desired.document d).filter d.isConfigured with
  | some content => exact ⟨_, _, rfl, rfl, rfl⟩
  | none => exact ⟨_, _, rfl, rfl, rfl⟩

/-- A policy is put or deleted by one call. -/
theorem write_policy (location : Location) (desired observed : BucketSpec) :
    ∃ label call, Part.policy.write location desired observed = single label call ∧
      call.part? = some .policy ∧ ∃ effect, call.effect? = some (desired.name, effect) := by
  simp only [Part.write, syncPolicy]
  cases desired.policy with
  | some policy => exact ⟨_, _, rfl, rfl, _, rfl⟩
  | none => exact ⟨_, _, rfl, rfl, _, rfl⟩

/-- Choosing from a list keeps the order of two parts that are both chosen. -/
theorem chosen_in_order {first second : Part} {parts : List Part} {chosen : Part → Bool}
    (order : [first, second].Sublist parts) (one : chosen first = true) (two : chosen second = true) :
    [first, second].Sublist (parts.filter chosen) := by
  simpa [one, two] using order.filter chosen

/-! ## A whole pass -/

/-- The calls of a pass over a general purpose bucket: those that only read, the creation, and those
of writing what is stated of a new bucket or what differs on one that was found. -/
theorem sync_steps (general : isDirectoryName desired.name = false)
    (reads : ∀ call there, call.mutates = false → holds call there)
    (creates : ∀ there, holds (.createBucket desired.creation) there)
    (stated : ∀ there : Store, there.Has desired.name (· = newBucket desired.creation) →
      (writeParts location desired { name := desired.name } (Part.creationOrder.filter fun part =>
        part.existsOn desired.name && part.isStated desired)).Steps serve holds there)
    (differing : ∀ calls observed stored, store.Shows desired.name stored observed →
      let wanted := desired.normalizedDesired observed
      let found := desired.normalizedObserved observed
      (update location wanted found (Delta.between wanted found)).Steps serve holds
        { store with calls := store.calls ++ calls }) :
    (sync location desired adoption).Steps serve holds store := by
  rw [sync_eq, steps_bind]
  refine ⟨steps_done _ _, fun arn _ accepted => ?_⟩
  obtain ⟨-, rfl⟩ := Prod.mk.inj accepted
  rw [steps_bind]
  constructor
  · have search := (find_reads location desired).steps serve store
    exact fun asked among => reads _ _ (search asked among)
  · intro found after searched
    obtain ⟨calls, -, ran⟩ := Store.run_of_reads (find_reads location desired) store
    rw [ran] at searched
    obtain ⟨seen, rfl⟩ := Prod.mk.inj searched
    cases found with
    | none =>
      simp only [conclude]
      split
      · exact steps_done _ _
      · rw [bind_eq, steps_bind, create, bind_eq, steps_bind]
        refine ⟨⟨steps_call.mpr (creates _), fun place there made => ?_⟩, fun _ _ _ => steps_done _ _⟩
        have served := run_call made
        have done : (serve (.createBucket desired.creation) _).1 = .ok place :=
          congrArg Prod.fst served
        have new := serve_created done
        rw [served] at new
        rw [bind_eq, steps_bind, writeStated, bind_eq, steps_bind]
        exact ⟨⟨stated there ⟨_, new, rfl⟩, fun _ _ _ => steps_done _ _⟩, fun _ _ _ => steps_done _ _⟩
    | some observed =>
      obtain ⟨stored, shown⟩ := find_sees general seen
      simp only [conclude]
      rw [bind_eq, steps_bind]
      refine ⟨?_, fun _ _ _ => steps_done _ _⟩
      rw [settle_eq]
      split
      · exact steps_done _ _
      · rw [steps_bind]
        exact ⟨differing calls observed stored shown, fun _ _ _ => steps_done _ _⟩

end Pass

/-! ## The block on public access and the policy -/

/-- The block on public access that is stored for a bucket is as desired. -/
def BucketSpec.BlockMatches (desired : BucketSpec) (stored : StoredBucket) : Prop :=
  Document.publicAccessBlock.Matches desired.publicAccessBlock stored.publicAccessBlock

/-- The block on public access that is stored for a bucket is not hidden: reading it is not made to say
that none was ever configured, or the specification asks for a block of its own, or what is stored is
as desired anyway. -/
def BucketSpec.BlockSeen (desired : BucketSpec) (store : Store) : Prop :=
  store.failures.get? "GetPublicAccessBlock" = some "NoSuchPublicAccessBlockConfiguration" →
    (∃ content, desired.publicAccessBlock = some content ∧
      Document.publicAccessBlock.Speaks content) ∨
    ∀ stored, store.buckets.get? desired.name = some stored → desired.BlockMatches stored

/-- Where a call sends a policy, the block on public access is as desired. -/
def BucketSpec.PolicyBehindBlock (desired : BucketSpec) (call : Call) (there : Store) : Prop :=
  ∀ bucket policy confirm, call = .putPolicy bucket policy confirm →
    there.Has bucket desired.BlockMatches

namespace Pass

open Program

variable {store there : Store} {location : Location} {adoption : AdoptionPolicy}
  {desired wanted found observed : BucketSpec} {parts : List Part}

/-- Policies are sent behind the block, if that is as desired from the start or written before. -/
theorem writeParts_behindBlock (asks : wanted.AsksFor desired observed)
    (general : isDirectoryName desired.name = false) (distinct : parts.Nodup)
    (ordered : .policy ∈ parts → store.Has desired.name desired.BlockMatches ∨
      [.document .publicAccessBlock, .policy].Sublist parts) :
    (writeParts location wanted found parts).Steps serve desired.PolicyBehindBlock store := by
  rw [← asks.name] at general ordered
  obtain ⟨leadLabel, lead, leading, own, writes⟩ := write_document location found general .publicAccessBlock
  obtain ⟨followLabel, follow, following, policy, effect, target⟩ := write_policy location wanted found
  have elsewhere (call : Call) (there : Store) (other : call.part? ≠ some .policy) :
      desired.PolicyBehindBlock call there := by
    rintro bucket text confirm rfl
    exact absurd rfl other
  let order : Leads location wanted found desired.PolicyBehindBlock desired.BlockMatches
      (.document .publicAccessBlock) .policy := {
    leadLabel, lead, followLabel, follow, leading, following, writes
    effect := (·.withDocument .publicAccessBlock _)
    guards := fun stored => asks.document_matches (d := .publicAccessBlock) (by simp)
    alone := fun a b same matched => by
      have kept : a.publicAccessBlock = b.publicAccessBlock := same
      rwa [BlockMatches, kept]
    apart := by simp
    leads := fun there => elsewhere lead there (by simp [own])
    follows := by
      rintro there guarded bucket text confirm rfl
      cases target
      exact guarded
    others := fun call there _ _ other => elsewhere call there other }
  exact order.writeParts_steps distinct ordered

/-- An update writes the block on public access before the policy. -/
theorem block_before_policy :
    [.document .publicAccessBlock, .policy].Sublist (Part.orderFor desired) := by
  unfold Part.orderFor Part.replicationOrder
  split <;> decide

/-- Policies are sent behind the block on public access, unless that is hidden. -/
theorem sync_policyBehindBlock (general : isDirectoryName desired.name = false)
    (seen : desired.BlockSeen store) :
    (sync location desired adoption).Steps serve desired.PolicyBehindBlock store := by
  refine sync_steps general ?_ ?_ ?_ ?_
  · rintro call there reads bucket policy confirm rfl
    cases reads
  · intro there bucket policy confirm sends
    cases sends
  · intro there ⟨stored, found, new⟩
    refine writeParts_behindBlock (asksFor_self desired) general
      (List.Nodup.filter _ (by decide)) fun among => ?_
    cases wish : desired.publicAccessBlock with
    | some content =>
      refine .inr (chosen_in_order (by decide) ?_ (List.mem_filter.mp among).2)
      simp [Part.existsOn, general, Part.isStated, BucketSpec.document, wish]
    | none =>
      refine .inl ⟨stored, found, ?_⟩
      rw [new, BlockMatches, wish]
      exact .inl rfl
  · intro calls observed stored shown wanted found
    refine writeParts_behindBlock (asksFor_normalized desired observed) general
      ((Part.orderFor_nodup wanted).filter _) fun among => ?_
    by_cases differs : (Part.document .publicAccessBlock).differsIn (Delta.between wanted found) = true
    · have named : isDirectoryName wanted.name = false := general
      refine .inr (chosen_in_order block_before_policy ?_ (List.mem_filter.mp among).2)
      simp [Part.existsOn, named, differs]
    · -- The block was observed as it is desired, and so it is stored.
      have same : wanted.SaysSame found (.document .publicAccessBlock) := by
        rw [Part.differsIn_iff, if_neg (by simp), not_not] at differs
        exact differs
      rw [document_same_iff, Document.map_arrange (by simp), Document.map_arrange (by simp)] at same
      refine .inl ⟨stored, shown.1, ?_⟩
      rcases shown.2 .publicAccessBlock with kept | ⟨hidden, injected⟩
      · rw [kept] at same
        exact same
      · rcases seen injected with ⟨content, wish, speaks⟩ | fine
        · rw [hidden, show desired.document .publicAccessBlock = some content from wish] at same
          cases same.1 speaks
        · exact fine stored shown.1

end Pass

/-! ## Replication and versioning -/

/-- Replication has rules only while versioning is enabled. -/
def ReplicatesOnlyVersioned (replication : Option ReplicationConfiguration)
    (versioning : Option VersioningConfiguration) : Prop :=
  ∀ content, replication = some content → Document.replication.Speaks content →
    versioning.bind (·.status) = some "Enabled"

theorem ReplicatesOnlyVersioned.enabled {replication : Option ReplicationConfiguration}
    {versioning : Option VersioningConfiguration}
    (only : ReplicatesOnlyVersioned replication versioning)
    (replicates : replication.any Document.replication.isConfigured = true) :
    versioning.bind (·.status) = some "Enabled" := by
  obtain ⟨content, said, configured⟩ := (Option.any_eq_true _ _).mp replicates
  exact only content said ((Document.isConfigured_iff _ content).mp configured)

/-- If a bucket is stored under a name, it replicates only while it is versioned. -/
def Store.ReplicatesOnlyVersioned (store : Store) (name : String) : Prop :=
  ∀ stored, store.buckets.get? name = some stored →
    BucketSteward.ReplicatesOnlyVersioned stored.replication stored.versioning

/-- A call does not make a bucket replicate that is not versioned. -/
def KeepsVersioned (name : String) (call : Call) (there : Store) : Prop :=
  there.ReplicatesOnlyVersioned name → (serve call there).2.ReplicatesOnlyVersioned name

/-- What is to be replicated was desired; without opinion nothing is. -/
theorem BucketSpec.AsksFor.replication_eq {wanted desired observed : BucketSpec}
    (asks : wanted.AsksFor desired observed)
    (replicates : wanted.replication.any Document.replication.isConfigured = true) :
    desired.replication = wanted.replication := by
  have asked : wanted.replication = filled (fun _ => Document.replication.assumed)
      desired.replication observed.replication := by
    have arranged := asks.document .replication
    rwa [Document.map_arrange (by simp), Document.map_arrange (by simp)] at arranged
  rw [asked] at replicates ⊢
  cases wish : desired.replication with
  | some content => rfl
  | none =>
    rw [wish] at replicates
    cases seen : observed.replication with
    | none => rfl
    | some stored =>
      rw [seen] at replicates
      cases replicates

namespace Pass

open Program

variable {store there : Store} {location : Location} {adoption : AdoptionPolicy}
  {desired wanted found observed : BucketSpec} {parts : List Part} {name : String}
  {call : Call}

/-- What a call on a part makes of a bucket decides whether it keeps it versioned. -/
theorem keepsVersioned_of_effect (own : call.part? ≠ none)
    (keeps : ∀ effect stored, call.effect? = some (name, effect) →
      there.buckets.get? name = some stored →
      ReplicatesOnlyVersioned stored.replication stored.versioning →
      ReplicatesOnlyVersioned (effect stored).replication (effect stored).versioning) :
    KeepsVersioned name call there := by
  intro before after found
  rcases serve_get? own there name with same | ⟨effect, stored, writes, here, wrote⟩
  · exact before after (same.symm.trans found)
  · obtain rfl := Option.some.inj (wrote.symm.trans found)
    exact keeps effect stored writes here (before stored here)

theorem keepsVersioned_of_other (own : call.part? ≠ none)
    (notVersioning : call.part? ≠ some (.setting .versioning))
    (notReplication : call.part? ≠ some (.document .replication)) :
    KeepsVersioned name call there := by
  refine keepsVersioned_of_effect own fun effect stored writes _ before => ?_
  have versioning : (effect stored).versioning = stored.versioning :=
    Call.effect_samePart writes notVersioning stored
  have replication : (effect stored).replication = stored.replication :=
    Call.effect_samePart writes notReplication stored
  rwa [versioning, replication]

/-- Where versioning is to be enabled, it is enabled before anything is replicated. -/
theorem writeParts_enabling (general : isDirectoryName desired.name = false)
    (enabled : desired.versioning.bind (·.status) = some "Enabled") (distinct : parts.Nodup)
    (ordered : .document .replication ∈ parts →
      [.setting .versioning, .document .replication].Sublist parts) :
    (writeParts location desired observed parts).Steps serve (KeepsVersioned desired.name) store := by
  obtain ⟨followLabel, follow, following, own, writes⟩ :=
    write_document location observed general .replication
  let put := Setting.versioning.toPut desired.versioning
  have status : put.status = some "Enabled" := by
    obtain ⟨value, wanted, spoken⟩ := Option.bind_eq_some_iff.mp enabled
    simp [put, Setting.toPut, wanted, spoken]
  let order : Leads location desired observed (KeepsVersioned desired.name)
      (fun stored => stored.versioning.bind (·.status) = some "Enabled")
      (.setting .versioning) (.document .replication) := {
    leadLabel := Setting.versioning.putLabel
    lead := .putSetting .versioning desired.name put
    effect := (·.withSetting .versioning put)
    followLabel, follow, following
    leading := rfl
    writes := rfl
    guards := fun _ => status
    alone := fun a b same => by
      have kept : a.versioning = b.versioning := same
      rw [kept]
      exact id
    apart := by simp
    leads := fun there => keepsVersioned_of_effect (by simp [Call.part?]) fun effect stored wrote _ _ => by
      cases wrote
      exact fun _ _ _ => status
    follows := fun there guarded => keepsVersioned_of_effect (by simp [own])
      fun effect stored wrote here _ => by
        obtain ⟨_, found, versioned⟩ := guarded
        obtain rfl := Option.some.inj (here.symm.trans found)
        have other : follow.part? ≠ some (.setting .versioning) := by simp [own]
        have kept : (effect stored).versioning = stored.versioning :=
          Call.effect_samePart wrote other stored
        exact fun _ _ _ => kept ▸ versioned
    others := fun call there own versioning replication =>
      keepsVersioned_of_other own versioning replication }
  exact order.writeParts_steps distinct fun among => .inr (ordered among)

/-- Where nothing is to be replicated, replication ends before anything is said on versioning. -/
theorem writeParts_ending (general : isDirectoryName desired.name = false)
    (silent : desired.replication.filter Document.replication.isConfigured = none)
    (distinct : parts.Nodup)
    (ordered : .setting .versioning ∈ parts →
      store.Has desired.name (·.replication = none) ∨
        [.document .replication, .setting .versioning].Sublist parts) :
    (writeParts location desired observed parts).Steps serve (KeepsVersioned desired.name) store := by
  obtain ⟨leadLabel, lead, leading, own, writes⟩ := write_document location observed general .replication
  let put := Setting.versioning.toPut desired.versioning
  let order : Leads location desired observed (KeepsVersioned desired.name)
      (·.replication = none) (.document .replication) (.setting .versioning) := {
    followLabel := Setting.versioning.putLabel
    follow := .putSetting .versioning desired.name put
    effect := (·.withDocument .replication _)
    leadLabel, lead, leading, writes
    following := rfl
    guards := fun _ => silent
    alone := fun a b same ended => Eq.trans same ended
    apart := by simp
    leads := fun there => keepsVersioned_of_effect (by simp [own]) fun effect stored wrote _ _ => by
      rw [writes] at wrote
      cases wrote
      intro content replicated
      cases silent.symm.trans replicated
    follows := fun there guarded => keepsVersioned_of_effect (by simp [Call.part?])
      fun effect stored wrote here _ => by
        obtain ⟨_, found, ended⟩ := guarded
        obtain rfl := Option.some.inj (found.symm.trans here)
        cases wrote
        intro content replicated
        cases ended.symm.trans replicated
    others := fun call there own replication versioning =>
      keepsVersioned_of_other own versioning replication }
  exact order.writeParts_steps distinct ordered

/-- Writing parts keeps a bucket versioned while it replicates, if versioning comes before replication
where something is replicated, and after it or on a bucket that replicates nothing where not. -/
theorem writeParts_keepsVersioned (asks : wanted.AsksFor desired observed)
    (general : isDirectoryName desired.name = false)
    (asked : ReplicatesOnlyVersioned desired.replication desired.versioning) (distinct : parts.Nodup)
    (enabling : wanted.replication.any Document.replication.isConfigured = true →
      .document .replication ∈ parts → [.setting .versioning, .document .replication].Sublist parts)
    (ending : ¬ wanted.replication.any Document.replication.isConfigured = true →
      .setting .versioning ∈ parts → store.Has desired.name (·.replication = none) ∨
        [.document .replication, .setting .versioning].Sublist parts) :
    (writeParts location wanted found parts).Steps serve (KeepsVersioned desired.name) store := by
  rw [← asks.name] at general ending ⊢
  by_cases replicates : wanted.replication.any Document.replication.isConfigured = true
  · have same := asks.replication_eq replicates
    rw [← same] at replicates
    obtain ⟨value, said, status⟩ := Option.bind_eq_some_iff.mp (asked.enabled replicates)
    have kept : wanted.versioning = some value := by
      rw [show wanted.versioning = _ from asks.setting .versioning,
        show desired.setting .versioning = some value from said]
      rfl
    refine writeParts_enabling general ?_ distinct (enabling (same ▸ replicates))
    rw [kept]
    exact status
  · refine writeParts_ending general ?_ distinct (ending replicates)
    cases wish : wanted.replication with
    | none => rfl
    | some content =>
      rw [wish] at replicates
      exact Option.filter_some_neg (by simpa using replicates)

/-- Where something is replicated, an update writes versioning before replication. -/
theorem versioning_before_replication
    (replicates : desired.replication.any Document.replication.isConfigured = true) :
    [.setting .versioning, .document .replication].Sublist (Part.orderFor desired) := by
  have configured : (desired.document .replication).any Document.replication.isConfigured = true :=
    replicates
  unfold Part.orderFor Part.replicationOrder
  rw [if_pos configured]
  decide

/-- Where nothing is replicated, an update writes replication before versioning. -/
theorem replication_before_versioning
    (nothing : ¬ desired.replication.any Document.replication.isConfigured = true) :
    [.document .replication, .setting .versioning].Sublist (Part.orderFor desired) := by
  have unconfigured : ¬ (desired.document .replication).any Document.replication.isConfigured = true :=
    nothing
  unfold Part.orderFor Part.replicationOrder
  rw [if_neg unconfigured]
  decide

/-- No call of a pass makes a bucket replicate that is not versioned, if the specification does not
ask for that. -/
theorem sync_keepsVersioned (general : isDirectoryName desired.name = false)
    (asked : ReplicatesOnlyVersioned desired.replication desired.versioning) :
    (sync location desired adoption).Steps serve (KeepsVersioned desired.name) store := by
  refine sync_steps general ?_ ?_ ?_ ?_
  · intro call there reads before
    rw [serve_of_reads reads]
    exact before
  · intro there before after found
    rcases serve_buckets there (.createBucket desired.creation) with same |
      ⟨_, _, _, writes, -⟩ | ⟨creation, made, -, same⟩ | ⟨_, deletes, -⟩
    · exact before after (same ▸ found)
    · cases writes
    · cases made
      rw [same, Keyed.get?_insert] at found
      split at found
      · cases found
        exact nofun
      · exact before after found
    · cases deletes
  · intro there ⟨stored, found, new⟩
    refine writeParts_keepsVersioned (asksFor_self desired) general asked
      (List.Nodup.filter _ (by decide)) (fun replicates among => ?_) fun _ _ => .inl ⟨stored, found, ?_⟩
    · obtain ⟨value, said, -⟩ := Option.bind_eq_some_iff.mp (asked.enabled replicates)
      refine chosen_in_order (by decide) ?_ (List.mem_filter.mp among).2
      simp [Part.existsOn, general, Part.isStated, BucketSpec.setting, said]
    · rw [new]
      rfl
  · intro calls observed stored shown wanted found
    -- A difference in one of the two is one in both, so that both are written or none.
    refine writeParts_keepsVersioned (asksFor_normalized desired observed) general asked
      ((Part.orderFor_nodup wanted).filter _) (fun replicates among => ?_)
      fun nothing among => .inr ?_
    · have chosen := (List.mem_filter.mp among).2
      exact chosen_in_order (versioning_before_replication replicates) chosen chosen
    · have chosen := (List.mem_filter.mp among).2
      exact chosen_in_order (replication_before_versioning nothing) chosen chosen

/-! ## Both orders -/

/-- Dependencies are kept in order at every call of a pass, whatever calls are made to fail: a bucket
replicates only while it is versioned, if that held at the start and is not asked otherwise, and a
policy is sent behind the block on public access that is desired, unless the stored one is hidden. -/
theorem dependencies_in_order {call : Call} (general : isDirectoryName desired.name = false)
    (sent : (call, there) ∈ (sync location desired adoption).trace serve store) :
    (ReplicatesOnlyVersioned desired.replication desired.versioning →
      store.ReplicatesOnlyVersioned desired.name →
      (serve call there).2.ReplicatesOnlyVersioned desired.name) ∧
    (desired.BlockSeen store → desired.PolicyBehindBlock call there) := by
  constructor
  · intro asked start
    exact (sync_keepsVersioned general asked).chain start _ sent
  · intro seen
    exact sync_policyBehindBlock general seen _ sent

/-- A new bucket gets its policy behind its block and is versioned then. -/
theorem new_policy_in_order :
    let desired : BucketSpec := {
      name := "ledger"
      versioning := some { status := some "Enabled" }
      replication := some { rules := some [{ status := some "Enabled" }] }
      publicAccessBlock := some { blockPublicPolicy := some true }
      policy := some "words" }
    let calls := (sync ⟨none, "eu-west-1"⟩ desired .adoptOrCreate).trace serve {}
    let there := (calls[4]?.map (·.2)).getD {}
    calls[4]? = some (.putPolicy "ledger" "words" (some false), there) ∧
      (serve (.putPolicy "ledger" "words" (some false)) there).2.ReplicatesOnlyVersioned "ledger" ∧
      there.Has "ledger" desired.BlockMatches := by
  intro desired calls there
  have sent : calls[4]? = some (.putPolicy "ledger" "words" (some false), there) := by decide +kernel
  have general : isDirectoryName desired.name = false := by decide +kernel
  obtain ⟨versioned, behind⟩ := dependencies_in_order general (List.mem_of_getElem? sent)
  refine ⟨sent, versioned (fun _ _ _ => rfl) (fun _ => nofun), behind nofun _ _ _ rfl⟩

/-- A block whose reading is made to fail as if there were none outlives the sending of a policy. -/
theorem hidden_block_stays :
    let stored : StoredBucket := {
      acl := privateAcl
      requestPayment := some { payer := some "BucketOwner" }
      publicAccessBlock := some { blockPublicPolicy := some true } }
    let store : Store := {
      buckets := Keyed.ofList [("ledger", stored)]
      failures := Keyed.ofList [("GetPublicAccessBlock", "NoSuchPublicAccessBlockConfiguration")] }
    let desired : BucketSpec := { name := "ledger", policy := some "words" }
    ∃ step ∈ (sync ⟨none, "eu-west-1"⟩ desired .adopt).trace serve store,
      ¬ desired.PolicyBehindBlock step.1 step.2 := by
  intro stored store desired
  let calls := (sync ⟨none, "eu-west-1"⟩ desired .adopt).trace serve store
  have sent : (calls.find? (·.1 == .putPolicy "ledger" "words" (some false))).map
      (fun step => step.2.buckets.get? "ledger") = some (some stored) := by decide +kernel
  obtain ⟨step, found, kept⟩ := Option.map_eq_some_iff.mp sent
  refine ⟨step, List.mem_of_find?_eq_some found, fun behind => ?_⟩
  have sends := List.find?_some found
  obtain ⟨there, here, matched⟩ := behind _ _ _ (beq_iff_eq.mp sends)
  obtain rfl := Option.some.inj (kept.symm.trans here)
  rcases matched with missing | assumed
  · cases missing
  · revert assumed
    decide

end Pass

end BucketSteward
