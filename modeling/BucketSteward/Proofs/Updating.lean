import BucketSteward.Proofs.DependencyOrder
import BucketSteward.Proofs.Isolation

/-! What an update changes and what it reports, while any calls are made to fail. A call changes only
the part it is about, so a part that no difference is reported for is kept; an update that succeeds
names the parts that it wrote to, in the order in which it writes them; and one that fails names the
part it failed at and has not touched the parts that come later. Versioning and replication are written
together when either differs. -/
namespace BucketSteward

open Store Program

/-! ## Parts that are kept -/

/-- Two buckets store the same for a part and for how it was sent: the ACL with the last one that was
put, and the policy with its word on locking oneself out. -/
structure StoredBucket.SameStored (a b : StoredBucket) (part : Part) : Prop where
  stored : a.SamePart b part
  sentAcl : part = .acl → a.lastAclPut = b.lastAclPut
  confirm : part = .policy → a.policyConfirm = b.policyConfirm

namespace StoredBucket.SameStored

variable {a b c : StoredBucket} {part : Part}

theorem refl (bucket : StoredBucket) (part : Part) : bucket.SameStored bucket part :=
  ⟨.refl _ _, fun _ => rfl, fun _ => rfl⟩

theorem trans (first : a.SameStored b part) (second : b.SameStored c part) : a.SameStored c part :=
  ⟨first.stored.trans second.stored, fun acl => (first.sentAcl acl).trans (second.sentAcl acl),
    fun policy => (first.confirm policy).trans (second.confirm policy)⟩

end StoredBucket.SameStored

/-- A call leaves the parts that it is not about as they are, and how they were sent. -/
theorem Call.effect_sameStored {call : Call} {name : String} {effect : StoredBucket → StoredBucket}
    (writes : call.effect? = some (name, effect)) {part : Part} (other : call.part? ≠ some part)
    (stored : StoredBucket) : (effect stored).SameStored stored part := by
  have same := effect_samePart writes other stored
  cases call with
  | putSetting s _ _ => cases writes; cases s <;> exact ⟨same, fun _ => rfl, fun _ => rfl⟩
  | putDocument d _ _ | deleteDocument d _ =>
    cases writes; cases d <;> exact ⟨same, fun _ => rfl, fun _ => rfl⟩
  | putItem c _ _ | deleteItem c _ _ =>
    cases writes; cases c <;> exact ⟨same, fun _ => rfl, fun _ => rfl⟩
  | putObjectLock _ _ => cases writes; exact ⟨same, fun _ => rfl, fun _ => rfl⟩
  | putAcl _ _ => cases writes; exact ⟨same, fun acl => absurd (acl ▸ rfl) other, fun _ => rfl⟩
  | putPolicy _ _ _ | deletePolicy _ =>
    cases writes; exact ⟨same, fun _ => rfl, fun policy => absurd (policy ▸ rfl) other⟩
  | _ => cases writes

/-- A store keeps a part of a bucket as it was in another one. The tags of a directory bucket are not
stored with it, so all tags are compared for that part. -/
structure Store.Keeps (name : String) (part : Part) (before after : Store) : Prop where
  bucket : Option.Rel (fun a b => StoredBucket.SameStored a b part)
    (after.buckets.get? name) (before.buckets.get? name)
  tags : part = .document .tagging → after.tags = before.tags

namespace Store.Keeps

variable {name : String} {part : Part} {before between after : Store} {call : Call}

theorem refl (store : Store) : Keeps name part store store := by
  refine ⟨?_, fun _ => rfl⟩
  cases store.buckets.get? name with
  | none => exact .none
  | some stored => exact .some (.refl stored part)

theorem trans (first : Keeps name part before between) (second : Keeps name part between after) :
    Keeps name part before after := by
  refine ⟨?_, fun tagging => (second.tags tagging).trans (first.tags tagging)⟩
  have early := first.bucket
  have late := second.bucket
  generalize after.buckets.get? name = last at late ⊢
  generalize between.buckets.get? name = middle at early late
  generalize before.buckets.get? name = start at early ⊢
  cases late with
  | none => exact early
  | some late =>
    cases early with
    | some early => exact .some (late.trans early)

/-- A call keeps the parts that it is not about. -/
theorem serve (own : call.part? ≠ none) (other : call.part? ≠ some part) (store : Store) :
    Keeps name part store (Store.serve call store).2 := by
  constructor
  · rcases serve_get? own store name with same | ⟨effect, stored, writes, here, there⟩
    · rw [same]
      exact (refl store).bucket
    · rw [here, there]
      exact .some (Call.effect_sameStored writes other stored)
  · rintro rfl
    rcases serve_tags store call with same | ⟨account, arn, ⟨tags, rfl⟩ | ⟨keys, rfl⟩, -⟩
    · exact same
    · exact absurd rfl other
    · exact absurd rfl other

/-- What depends on a part alone holds of a bucket whose part is kept. -/
theorem has {property : StoredBucket → Prop}
    (alone : ∀ a b, a.SamePart b part → property b → property a)
    (kept : Keeps name part before after) (has : before.Has name property) :
    after.Has name property := by
  obtain ⟨stored, found, holds⟩ := has
  have same := kept.bucket
  rw [found] at same
  cases there : after.buckets.get? name with
  | none =>
    rw [there] at same
    cases same
  | some now =>
    rw [there] at same
    obtain ⟨same⟩ := same
    exact ⟨now, there, alone _ _ same.stored holds⟩

end Store.Keeps

/-! ## What was written -/

/-- The call puts or deletes an item of a collection. -/
def Call.writesItemOf (collection : Collection) : Call → Bool
  | putItem c _ _ | deleteItem c _ _ => c == collection
  | _ => false

/-- No two parts are reported as one property. -/
theorem Part.property_injective {part other : Part} (same : part.property = other.property) :
    part = other := by
  have distinct : ((orderFor default).map property).Nodup := by decide
  exact List.inj_on_of_nodup_map distinct (mem_orderFor _ part) (mem_orderFor _ other) same

/-- What counts as written after some calls: a collection when one of its items was put or deleted, and
every other part. -/
def Part.wroteIn (calls : List Call) : Part → Bool
  | .collection c => calls.any (·.writesItemOf c)
  | _ => true

/-- The call is about a part and can change it. The tags of a directory bucket are looked up first, and
left alone if they are as desired, so for them the look-up counts. -/
def Call.IsWriteOf (name : String) (part : Part) (call : Call) : Prop :=
  call.part? = some part ∧
    (call.mutates = true ∨ part = .document .tagging ∧ isDirectoryName name = true)

/-- Only the calls about a part tell whether it was written. -/
theorem Part.wroteIn_append (part : Part) (calls : List Call) {others : List Call}
    (apart : ∀ call ∈ others, call.part? ≠ some part) :
    part.wroteIn (calls ++ others) = part.wroteIn calls ∧
      part.wroteIn (others ++ calls) = part.wroteIn calls := by
  cases part with
  | collection c =>
    have none : others.any (·.writesItemOf c) = false := by
      rw [List.any_eq_false]
      intro call among writes
      refine apart call among ?_
      cases call with
      | putItem own _ _ | deleteItem own _ _ => exact congrArg _ (congrArg _ (beq_iff_eq.mp writes))
      | _ => cases writes
    simp only [wroteIn, List.any_append, none, Bool.or_false, Bool.false_or, and_self]
  | _ => exact ⟨rfl, rfl⟩

namespace Pass

variable {α : Type} {location : Location} {desired observed : BucketSpec} {store after : Store}
  {part other : Part} {parts rest : List Part} {written : Bool} {names : List String} {fault : Fault}

/-- A pass keeps a part when it makes no call about it. -/
theorem run_keeps {pass : Pass α} {name : String}
    (uses : pass.Uses fun call : Call => call.part? ≠ none ∧ call.part? ≠ some part) (store : Store) :
    Keeps name part store (pass.run serve store).2 :=
  (uses.invariant serve (Keeps name part store)
    (fun _ there asked kept => kept.trans (.serve asked.1 asked.2 there)) (.refl store)).2

theorem write_keeps (location : Location) (desired observed : BucketSpec) (apart : other ≠ part)
    (store : Store) :
    Keeps desired.name other store ((part.write location desired observed).run serve store).2 := by
  refine run_keeps ((write_obeys location desired observed part).uses.mono ?_) store
  rintro call ⟨own, -⟩
  simpa [own] using apart.symm

theorem writeParts_keeps (location : Location) (desired observed : BucketSpec) (absent : other ∉ parts)
    (store : Store) :
    Keeps desired.name other store
      ((writeParts location desired observed parts).run serve store).2 := by
  refine run_keeps ((writeParts_obeys location desired observed parts).uses.mono ?_) store
  rintro call ⟨part, among, own, -⟩
  have apart : part ≠ other := fun same => absent (same ▸ among)
  simpa [own] using apart

/-- Carrying out a plan tells whether an item was put or deleted. -/
theorem carryOut_answer {collection : Collection} {bucket : String}
    {plan : List (ItemAction × collection.Item)}
    (ran : (carryOut collection bucket plan).run serve store = (.ok written, after)) :
    written = Part.wroteIn (((carryOut collection bucket plan).trace serve store).map (·.1))
      (.collection collection) := by
  induction plan with
  | nil =>
    cases ran
    rfl
  | cons step rest ih =>
    obtain ⟨action, item⟩ := step
    cases action with
    | keep => exact ih ran
    | put | update | delete =>
      obtain ⟨_, _, -, ran⟩ := (run_bind_eq_ok serve).mp ran
      obtain ⟨_, _, -, ran⟩ := (run_bind_eq_ok serve).mp ran
      cases ran
      refine (List.any_eq_true.mpr ⟨_, List.mem_map_of_mem List.mem_cons_self, ?_⟩).symm
      exact beq_self_eq_true collection

theorem answer_true {first : Pass α}
    (ran : (first.bind fun _ => .done (.ok true)).run serve store = (.ok written, after)) :
    written = true := by
  obtain ⟨_, _, -, ran⟩ := (run_bind_eq_ok serve).mp ran
  cases ran
  rfl

/-- Writing a part tells whether something was written. -/
theorem write_answer
    (ran : (part.write location desired observed).run serve store = (.ok written, after)) :
    written = part.wroteIn (((part.write location desired observed).trace serve store).map (·.1)) := by
  cases part with
  | collection c => exact carryOut_answer ran
  | document d =>
    cases d with
    | tagging =>
      simp only [Part.write] at ran
      split at ran
      · obtain ⟨_, _, -, ran⟩ := (run_bind_eq_ok serve).mp ran
        exact answer_true ran
      · exact answer_true ran
    | _ => exact answer_true ran
  | _ => exact answer_true ran

theorem syncDocument_made (document : Document) (name : String) (content : Option document.Content)
    (next : Unit → Pass α) (store : Store) :
    ∃ call ∈ (((syncDocument document name content).bind next).trace serve store).map (·.1),
      Call.IsWriteOf name (.document document) call := by
  unfold syncDocument
  split <;> exact ⟨_, List.mem_map_of_mem List.mem_cons_self, rfl, .inl rfl⟩

theorem syncResourceTags_made (account arn : String) (tagging : Option Tagging)
    (next : Unit → Pass α) (store : Store) :
    .listTags account arn
      ∈ (((syncResourceTags account arn tagging).bind next).trace serve store).map (·.1) := by
  unfold syncResourceTags
  split <;> exact List.mem_map_of_mem List.mem_cons_self

/-- What was written was written by a call. -/
theorem write_made
    (ran : (part.write location desired observed).run serve store = (.ok true, after)) :
    ∃ call ∈ ((part.write location desired observed).trace serve store).map (·.1),
      call.IsWriteOf desired.name part := by
  cases part with
  | collection c =>
    obtain ⟨call, made, writes⟩ := List.any_eq_true.mp (carryOut_answer ran).symm
    refine ⟨call, made, ?_⟩
    cases call with
    | putItem own _ _ | deleteItem own _ _ =>
      obtain rfl : own = c := beq_iff_eq.mp writes
      exact ⟨rfl, .inl rfl⟩
    | _ => cases writes
  | setting | objectLock | acl => exact ⟨_, List.mem_map_of_mem List.mem_cons_self, rfl, .inl rfl⟩
  | policy =>
    simp only [Part.write, syncPolicy]
    cases desired.policy <;> exact ⟨_, List.mem_map_of_mem List.mem_cons_self, rfl, .inl rfl⟩
  | document d =>
    have alone (next : Unit → Pass Bool) :=
      syncDocument_made d desired.name (desired.document d) next store
    cases d with
    | tagging =>
      simp only [Part.write] at ran ⊢
      split at ran
      case isTrue directory =>
        rw [if_pos directory]
        cases target : location.tagTarget desired.name with
        | error fault =>
          rw [target] at ran
          cases ran
        | ok owner =>
          exact ⟨_, syncResourceTags_made owner.1 owner.2 desired.tagging _ store, rfl,
            .inr ⟨rfl, directory⟩⟩
      case isFalse general =>
        rw [if_neg general]
        exact alone _
    | _ => exact alone _

/-- Parts are written one after the other until one fails, and that one is named. -/
theorem writeParts_cons_run :
    (writeParts location desired observed (part :: rest)).run serve store
      = match (part.write location desired observed).run serve store with
        | (.ok written, there) =>
          match (writeParts location desired observed rest).run serve there with
          | (.ok names, after) => (.ok (if written then part.property :: names else names), after)
          | (.error fault, after) => (.error fault, after)
        | (.error inner, there) => (.error (.property part.property inner), there) := by
  rw [writeParts, bind_eq, run_bind, under, run_mapFault]
  rcases (part.write location desired observed).run serve store with ⟨inner | written, there⟩
  · rfl
  · simp only [Except.mapError]
    rw [bind_eq, run_bind]
    rcases (writeParts location desired observed rest).run serve there with ⟨fault | names, after⟩ <;> rfl

/-- Parts are all written when the first is and then the others; it is named if something was written. -/
theorem writeParts_cons_ok
    (ran : (writeParts location desired observed (part :: rest)).run serve store = (.ok names, after)) :
    ∃ written there others, (part.write location desired observed).run serve store = (.ok written, there) ∧
      (writeParts location desired observed rest).run serve there = (.ok others, after) ∧
      names = if written then part.property :: others else others := by
  rw [writeParts_cons_run] at ran
  rcases first : (part.write location desired observed).run serve store with ⟨inner | written, there⟩
  · rw [first] at ran
    cases ran
  · rw [first] at ran
    rcases second : (writeParts location desired observed rest).run serve there with ⟨found | others, last⟩
    · simp only [second] at ran
      cases ran
    · simp only [second] at ran
      cases ran
      exact ⟨written, there, others, rfl, second, rfl⟩

/-- Writing parts fails at the first, which is then named, or at one of the others. -/
theorem writeParts_cons_error
    (ran : (writeParts location desired observed (part :: rest)).run serve store = (.error fault, after)) :
    (∃ inner, (part.write location desired observed).run serve store = (.error inner, after) ∧
      fault = .property part.property inner) ∨
    ∃ written there, (part.write location desired observed).run serve store = (.ok written, there) ∧
      (writeParts location desired observed rest).run serve there = (.error fault, after) := by
  rw [writeParts_cons_run] at ran
  rcases first : (part.write location desired observed).run serve store with ⟨inner | written, there⟩
  · rw [first] at ran
    cases ran
    exact .inl ⟨inner, rfl, rfl⟩
  · rw [first] at ran
    rcases second : (writeParts location desired observed rest).run serve there with ⟨found | others, last⟩
    · simp only [second] at ran
      cases ran
      exact .inr ⟨written, there, rfl, second⟩
    · simp only [second] at ran
      cases ran

theorem writeParts_cons_trace {there : Store}
    (first : (part.write location desired observed).run serve store = (.ok written, there)) :
    (writeParts location desired observed (part :: rest)).trace serve store
      = (part.write location desired observed).trace serve store
        ++ (writeParts location desired observed rest).trace serve there := by
  rw [writeParts, bind_eq, trace_bind, under, trace_mapFault, run_mapFault, first]
  simp only [Except.mapError]
  rw [bind_eq, trace_bind]
  rcases (writeParts location desired observed rest).run serve there with ⟨fault | names, after⟩ <;>
    simp [trace, pure_eq]

theorem write_calls {call : Call}
    (made : call ∈ ((part.write location desired observed).trace serve store).map (·.1)) :
    call.part? = some part := by
  obtain ⟨step, among, rfl⟩ := List.mem_map.mp made
  exact ((write_obeys location desired observed part).uses.steps serve store step among).1

theorem writeParts_calls {call : Call}
    (made : call ∈ ((writeParts location desired observed parts).trace serve store).map (·.1)) :
    ∃ part ∈ parts, call.part? = some part := by
  obtain ⟨step, among, rfl⟩ := List.mem_map.mp made
  obtain ⟨part, inside, own, -⟩ :=
    (writeParts_obeys location desired observed parts).uses.steps serve store step among
  exact ⟨part, inside, own⟩

/-- Parts that were written are named when something was written, in the order of writing. -/
theorem writeParts_names (distinct : parts.Nodup)
    (ran : (writeParts location desired observed parts).run serve store = (.ok names, after)) :
    names = (parts.filter (Part.wroteIn
      (((writeParts location desired observed parts).trace serve store).map (·.1)))).map
        Part.property := by
  induction parts generalizing store names with
  | nil =>
    cases ran
    rfl
  | cons part rest ih =>
    obtain ⟨fresh, distinct⟩ := List.nodup_cons.mp distinct
    obtain ⟨written, there, others, first, second, rfl⟩ := writeParts_cons_ok ran
    rw [writeParts_cons_trace first]
    -- Neither list of calls has one about a part of the other.
    have head : part.wroteIn (((part.write location desired observed).trace serve store).map (·.1)
        ++ ((writeParts location desired observed rest).trace serve there).map (·.1)) = written := by
      rw [write_answer first]
      refine (part.wroteIn_append _ fun call made own => ?_).1
      obtain ⟨other, among, about⟩ := writeParts_calls made
      exact fresh (Option.some.inj (about.symm.trans own) ▸ among)
    have tail := List.filter_congr fun other (among : other ∈ rest) =>
      (other.wroteIn_append (((writeParts location desired observed rest).trace serve there).map (·.1))
        fun call (made : call ∈ ((part.write location desired observed).trace serve store).map (·.1))
          own => fresh (Option.some.inj ((write_calls made).symm.trans own) ▸ among)).2
    rw [List.map_append, List.filter_cons, head, tail, ih distinct second]
    cases written <;> rfl

/-- Every part that is named was written by a call. -/
theorem writeParts_made
    (ran : (writeParts location desired observed parts).run serve store = (.ok names, after))
    (named : part.property ∈ names) :
    ∃ call ∈ ((writeParts location desired observed parts).trace serve store).map (·.1),
      call.IsWriteOf desired.name part := by
  induction parts generalizing store names with
  | nil =>
    cases ran
    cases named
  | cons first rest ih =>
    obtain ⟨written, there, others, now, second, rfl⟩ := writeParts_cons_ok ran
    rw [writeParts_cons_trace now, List.map_append]
    by_cases among : part.property ∈ others
    · obtain ⟨call, made, writes⟩ := ih second among
      exact ⟨call, List.mem_append_right _ made, writes⟩
    · obtain ⟨rfl, same⟩ : written = true ∧ part.property = first.property := by
        cases written with
        | false => exact absurd named among
        | true => exact ⟨rfl, (List.mem_cons.mp named).resolve_right among⟩
      obtain rfl := Part.property_injective same
      obtain ⟨call, made, writes⟩ := write_made now
      exact ⟨call, List.mem_append_left _ made, writes⟩

/-- When writing parts fails, it fails at one of them, which is named, and only those before it were
written. -/
theorem writeParts_failed
    (ran : (writeParts location desired observed parts).run serve store = (.error fault, after)) :
    ∃ done part later inner, parts = done ++ part :: later ∧
      fault = .property part.property inner ∧
      ∀ other, other ∉ done → other ≠ part → Keeps desired.name other store after := by
  induction parts generalizing store with
  | nil => cases ran
  | cons part rest ih =>
    have kept {other : Part} (apart : other ≠ part) := write_keeps location desired observed apart store
    rcases writeParts_cons_error ran with ⟨inner, first, named⟩ | ⟨written, there, first, second⟩
    · simp only [first] at kept
      exact ⟨[], part, rest, inner, rfl, named, fun other _ apart => kept apart⟩
    · simp only [first] at kept
      obtain ⟨done, failed, later, inner, split, named, untouched⟩ := ih second
      refine ⟨part :: done, failed, later, inner, by rw [split]; rfl, named, fun other absent apart => ?_⟩
      obtain ⟨unlike, absent⟩ := not_or.mp (mt List.mem_cons.mpr absent)
      exact (kept unlike).trans (untouched other absent apart)

/-! ## Parts that one call writes -/

/-- Writing the part makes one call, which leaves the part with a property that depends on it alone. -/
structure Puts (location : Location) (desired observed : BucketSpec) (part : Part)
    (property : StoredBucket → Prop) (call : Call) (effect : StoredBucket → StoredBucket) : Prop where
  written : ∃ label, part.write location desired observed = single label call
  own : call.part? = some part
  writes : call.effect? = some (desired.name, effect)
  lands : ∀ stored, property (effect stored)
  alone : ∀ a b, a.SamePart b part → property b → property a
  untagged : part ≠ .document .tagging

namespace Puts

variable {property : StoredBucket → Prop} {call : Call} {effect : StoredBucket → StoredBucket}
  (puts : Puts location desired observed part property call effect)
include puts

/-- Of all parts written, that one is written by its call only. -/
theorem uses (parts : List Part) : (writeParts location desired observed parts).Uses
    fun asked : Call => asked.part? ≠ none ∧ (asked.part? = some part → asked = call) := by
  induction parts with
  | nil => exact .done _
  | cons first rest ih =>
    have one : (first.write location desired observed).Uses
        fun asked : Call => asked.part? ≠ none ∧ (asked.part? = some part → asked = call) := by
      by_cases same : first = part
      · subst same
        obtain ⟨label, written⟩ := puts.written
        rw [written]
        exact (call_uses ⟨by simp [puts.own], fun _ => rfl⟩).bind fun _ => .done _
      · refine (write_obeys location desired observed first).uses.mono ?_
        rintro asked ⟨own, -⟩
        simp [own, same]
    exact (one.handle fun _ => .done _).bind fun _ => ih.bind fun _ => .done _

/-- The part is kept, or it was put and stays as it was put. -/
theorem kept_or_put (parts : List Part) (store : Store) :
    let after := ((writeParts location desired observed parts).run serve store).2
    Keeps desired.name part store after ∨ after.Has desired.name property := by
  intro after
  refine ((puts.uses parts).invariant serve
    (fun there => Keeps desired.name part store there ∨ there.Has desired.name property)
    (fun asked there allowed sofar => ?_) (.inl (.refl store))).2
  have goOn (kept : Keeps desired.name part there (serve asked there).2) :
      Keeps desired.name part store (serve asked there).2 ∨ (serve asked there).2.Has desired.name property :=
    sofar.imp (·.trans kept) (kept.has puts.alone)
  by_cases about : asked.part? = some part
  · obtain rfl := allowed.2 about
    rcases serve_get? allowed.1 there desired.name with same | ⟨_, stored, writes, -, put⟩
    · refine goOn ⟨?_, fun tagging => absurd tagging puts.untagged⟩
      rw [same]
      exact (Keeps.refl there).bucket
    · obtain ⟨-, rfl⟩ := Prod.mk.inj (Option.some.inj (writes.symm.trans puts.writes))
      exact .inr ⟨_, put, puts.lands stored⟩
  · exact goOn (.serve allowed.1 about there)

/-- When all parts could be written and that one is among them, it was put. -/
theorem put_of_ok (among : part ∈ parts)
    (ran : (writeParts location desired observed parts).run serve store = (.ok names, after)) :
    after.Has desired.name property := by
  induction parts generalizing store names with
  | nil => cases among
  | cons first rest ih =>
    obtain ⟨written, there, others, now, second, -⟩ := writeParts_cons_ok ran
    by_cases same : first = part
    · subst same
      obtain ⟨label, alone⟩ := puts.written
      rw [alone] at now
      obtain ⟨reply, served⟩ := run_single now
      have done : (serve call store).1 = .ok reply := by rw [served]
      obtain ⟨stored, -, put⟩ := serve_of_ok puts.writes done
      rw [served] at put
      have later := puts.kept_or_put rest there
      rw [second] at later
      exact later.elim (fun kept => kept.has puts.alone ⟨_, put, puts.lands stored⟩) id
    · exact ih ((List.mem_cons.mp among).resolve_left (Ne.symm same)) second

end Puts

end Pass

/-! ## Updates -/

/-- Versioning and replication, which are written together. -/
def Part.IsPaired (part : Part) : Prop :=
  part = .setting .versioning ∨ part = .document .replication

/-- Versioning as it is put: what is desired, and suspended where no status is. -/
def BucketSpec.versioningPut (desired : BucketSpec) : VersioningConfiguration :=
  let value := desired.versioning.getD {}
  { value with status := some (value.status.getD "Suspended") }

/-- Replication as it is put: what is desired, and nothing where there is no rule. -/
def BucketSpec.replicationPut (desired : BucketSpec) : Option ReplicationConfiguration :=
  desired.replication.filter fun content => isFilled content.rules

theorem BucketSpec.replicationPut_eq_none (desired : BucketSpec) :
    desired.replicationPut = none ↔
      ¬ desired.replication.any Document.replication.isConfigured = true := by
  rw [replicationPut, Option.filter_eq_none_iff, Option.any_eq_true, not_exists]
  exact forall_congr' fun _ => not_and.symm

namespace Pass

theorem versioning_puts (location : Location) (desired observed : BucketSpec) :
    Puts location desired observed (.setting .versioning)
      (·.versioning = some desired.versioningPut)
      (.putSetting .versioning desired.name desired.versioningPut)
      (·.withSetting .versioning desired.versioningPut) where
  written := ⟨_, rfl⟩
  own := rfl
  writes := rfl
  lands _ := rfl
  alone _ _ same put := Eq.trans same put
  untagged := by simp

theorem replication_puts (location : Location) (observed : BucketSpec)
    (general : isDirectoryName desired.name = false) :
    ∃ call effect, Puts location desired observed (.document .replication)
      (·.replication = desired.replicationPut) call effect := by
  obtain ⟨label, call, written, own, writes⟩ := write_document location observed general .replication
  refine ⟨call, _, ⟨label, written⟩, own, writes, ?_, fun _ _ same put => Eq.trans same put, by simp⟩
  exact fun stored => stored.document_withDocument .replication _

section Update
variable {delta : Delta}

/-- An update keeps what the bucket has not and what does not differ. -/
theorem update_keeps (location : Location) (desired observed : BucketSpec)
    (left : (part.existsOn desired.name && part.differsIn delta) = false) (store : Store) :
    Keeps desired.name part store ((update location desired observed delta).run serve store).2 := by
  refine writeParts_keeps location desired observed (fun among => ?_) store
  have written := (List.mem_filter.mp among).2
  rw [left] at written
  cases written

/-- An update names what differs and was written, in its order. -/
theorem update_names
    (ran : (update location desired observed delta).run serve store = (.ok names, after)) :
    names = ((Part.orderFor desired).filter fun part =>
      part.existsOn desired.name && part.differsIn delta &&
        part.wroteIn (((update location desired observed delta).trace serve store).map (·.1))).map
          Part.property := by
  refine (writeParts_names ((Part.orderFor_nodup desired).filter _) ran).trans ?_
  rw [List.filter_filter]
  exact congrArg _ (List.filter_congr fun _ _ => Bool.and_comm _ _)

/-- An update that fails names a part, and has not touched what comes after that part in its order. -/
theorem update_failed
    (ran : (update location desired observed delta).run serve store = (.error fault, after)) :
    ∃ part inner, fault = .property part.property inner ∧
      ∀ earlier later, Part.orderFor desired = earlier ++ part :: later →
        ∀ other ∈ later, Keeps desired.name other store after := by
  obtain ⟨done, part, rest, inner, split, named, untouched⟩ := writeParts_failed ran
  refine ⟨part, inner, named, fun earlier later order other among => ?_⟩
  -- The parts that were chosen before the one that failed are before it in the whole order, too.
  obtain ⟨before, others, whole, chosen, failed⟩ := List.filter_eq_append_iff.mp split
  obtain ⟨skipped, left, rfl, -, -, -⟩ := List.filter_eq_cons_iff.mp failed
  rw [← List.append_assoc] at whole
  have distinct := Part.orderFor_nodup desired
  rw [whole] at distinct
  obtain ⟨-, rightDistinct, apart⟩ := List.nodup_append.mp distinct
  have unlike := (List.nodup_cons.mp rightDistinct).1
  have absent : part ∉ before ++ skipped := fun inside => apart part inside part List.mem_cons_self rfl
  obtain ⟨-, -, rfl⟩ := (List.append_cons_inj_of_notMem absent unlike).mp (whole.symm.trans order)
  refine untouched other (fun early => ?_) fun same => unlike (same ▸ among)
  rw [← chosen] at early
  have inside := List.mem_append_left skipped (List.mem_of_mem_filter early)
  exact apart other inside other (List.mem_cons_of_mem _ among) rfl

theorem Puts.kept_or_put_of_update {property : StoredBucket → Prop} {call : Call}
    {effect : StoredBucket → StoredBucket} (puts : Puts location desired observed part property call effect)
    (delta : Delta) (store : Store) :
    Keeps desired.name part store ((update location desired observed delta).run serve store).2 ∨
      ((update location desired observed delta).run serve store).2.Has desired.name property :=
  puts.kept_or_put _ store

/-- A part that one call puts is put by every update that succeeds and in which it differs. -/
theorem Puts.put_of_update {property : StoredBucket → Prop} {call : Call}
    {effect : StoredBucket → StoredBucket} (puts : Puts location desired observed part property call effect)
    (there : part.existsOn desired.name = true) (differs : part.differsIn delta = true)
    (ran : (update location desired observed delta).run serve store = (.ok names, after)) :
    after.Has desired.name property := by
  refine puts.put_of_ok (List.mem_filter.mpr ⟨Part.mem_orderFor desired part, ?_⟩) ran
  rw [there, differs]
  rfl

/-- Replication is kept or put; a directory bucket has none that could be put. -/
theorem update_replication (location : Location) (desired observed : BucketSpec) (delta : Delta)
    (store : Store) :
    Keeps desired.name (.document .replication) store
        ((update location desired observed delta).run serve store).2 ∨
      ((update location desired observed delta).run serve store).2.Has desired.name
        (·.replication = desired.replicationPut) := by
  cases general : isDirectoryName desired.name with
  | true =>
    have missing : (Part.document .replication).existsOn desired.name = false := by
      simp [Part.existsOn, general, Part.isDirectoryPart]
    exact .inl (update_keeps location desired observed (by rw [missing, Bool.false_and]) store)
  | false =>
    obtain ⟨call, effect, puts⟩ := replication_puts location observed general
    exact puts.kept_or_put_of_update delta store

/-- Versioning and replication are both put by every update that succeeds and in which either differs. -/
theorem update_pair (general : isDirectoryName desired.name = false)
    (either : (delta.touches "replication" || delta.touches "versioning") = true)
    (ran : (update location desired observed delta).run serve store = (.ok names, after)) :
    after.Has desired.name fun stored =>
      stored.versioning = some desired.versioningPut ∧ stored.replication = desired.replicationPut := by
  obtain ⟨call, effect, puts⟩ := replication_puts location observed general
  have there (part : Part) : part.existsOn desired.name = true := by simp [Part.existsOn, general]
  have differs {part : Part} (paired : part.IsPaired) : part.differsIn delta = true := by
    rcases paired with rfl | rfl <;> exact either
  obtain ⟨stored, found, versioning⟩ := (versioning_puts location desired observed).put_of_update
    (there _) (differs (.inl rfl)) ran
  obtain ⟨also, foundToo, replication⟩ := puts.put_of_update (there _) (differs (.inr rfl)) ran
  obtain rfl := Option.some.inj (found.symm.trans foundToo)
  exact ⟨stored, found, versioning, replication⟩

end Update

/-- **An update touches what drifted and reports what it touched.** A part that is not reported to differ
is kept; versioning and replication are kept when neither is, and otherwise each is kept or put as it
is desired, both of them if the update succeeds. An update that succeeds names, in its order, the parts of
the bucket that differ, a collection only if one of its items was put or deleted, and it made a call about
each part that it names. One that fails names the part it failed at and keeps those that come later. In
that order versioning comes before replication that has rules, and after replication that has none. -/
theorem update_touches_drift (location : Location) (desired observed : BucketSpec) (store : Store) :
    let delta := Delta.between desired observed
    let pass := update location desired observed delta
    let calls := (pass.trace serve store).map (·.1)
    let after := (pass.run serve store).2
    let order := Part.orderFor desired
    (∀ part : Part, ¬ part.IsPaired → part.members.any delta.touches = false →
      Keeps desired.name part store after) ∧
    (∀ part : Part, part.IsPaired →
      delta.touches "replication" = false → delta.touches "versioning" = false →
        Keeps desired.name part store after) ∧
    (Keeps desired.name (.setting .versioning) store after ∨
      after.Has desired.name (·.versioning = some desired.versioningPut)) ∧
    (Keeps desired.name (.document .replication) store after ∨
      after.Has desired.name (·.replication = desired.replicationPut)) ∧
    (if desired.replicationPut = none then [.document .replication, .setting .versioning].Sublist order
      else [.setting .versioning, .document .replication].Sublist order) ∧
    match (pass.run serve store).1 with
    | .ok names =>
      names = (order.filter fun part =>
        part.existsOn desired.name && part.differsIn delta && part.wroteIn calls).map Part.property ∧
      (∀ part : Part, part.property ∈ names → ∃ call ∈ calls, call.IsWriteOf desired.name part) ∧
      (isDirectoryName desired.name = false →
        (delta.touches "replication" || delta.touches "versioning") = true →
          after.Has desired.name fun stored =>
            stored.versioning = some desired.versioningPut ∧ stored.replication = desired.replicationPut)
    | .error fault =>
      (∃ part : Part, ∃ inner, fault = .property part.property inner) ∧
      ∀ (part : Part) inner earlier later, fault = .property part.property inner →
        order = earlier ++ part :: later → ∀ other ∈ later, Keeps desired.name other store after := by
  intro delta pass calls after order
  have unreported {part : Part} (same : part.differsIn delta = false) :
      Keeps desired.name part store after :=
    update_keeps location desired observed (by rw [same, Bool.and_false]) store
  refine ⟨fun part other same => unreported ?_, fun part paired replication versioning => unreported ?_,
    ?_, ?_, ?_, ?_⟩
  · unfold Part.differsIn
    split
    · exact absurd (.inl rfl) other
    · exact absurd (.inr rfl) other
    · exact same
  · rcases paired with rfl | rfl <;> simp only [Part.differsIn, replication, versioning, Bool.or_self]
  · exact (versioning_puts location desired observed).kept_or_put_of_update delta store
  · exact update_replication location desired observed delta store
  · have rules := desired.replicationPut_eq_none
    split
    case isTrue nothing => exact replication_before_versioning (rules.mp nothing)
    case isFalse ruled => exact versioning_before_replication (not_not.mp (mt rules.mpr ruled))
  · rcases ran : pass.run serve store with ⟨fault | names, last⟩
    · have left : after = last := congrArg Prod.snd ran
      rw [left]
      obtain ⟨failed, inner, named, untouched⟩ := update_failed ran
      refine ⟨⟨failed, inner, named⟩, fun part source earlier later same => ?_⟩
      have equal : failed = part := Part.property_injective (Fault.property.inj (named.symm.trans same)).1
      exact equal ▸ untouched earlier later
    · have left : after = last := congrArg Prod.snd ran
      rw [left]
      exact ⟨update_names ran, fun part => writeParts_made ran,
        fun general either => update_pair general either ran⟩

end Pass
end BucketSteward
