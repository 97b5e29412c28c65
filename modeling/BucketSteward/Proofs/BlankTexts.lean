import BucketSteward.Proofs.Convergence
import BucketSteward.Proofs.SentAcl

/-! What becomes of a pass when blank texts of the ACL are left out of its specification. A creation sends
nothing for a blank text, so there it makes no difference; but a text that is compared is never equal to
a blank one, so a blank text has the ACL written in every pass that gets there. Two passes, with the blank
texts and without, do the same up to the writing of the ACL (`SameUntilAcl`), and go on alike only if both
write it or neither does. -/
namespace BucketSteward

open Store Program

/-! ## Texts -/

namespace AclGrants

/-- A text is kept, or it is blank and left out. -/
def LeftOut (text given : Option String) : Prop := text = given ∨ given = some "" ∧ text = none

/-- Some of the blank texts are left out. -/
structure LeavesOutBlanks (texts given : AclGrants) : Prop where
  acl : LeftOut texts.acl given.acl
  fullControl : LeftOut texts.grantFullControl given.grantFullControl
  read : LeftOut texts.grantRead given.grantRead
  readAcp : LeftOut texts.grantReadAcp given.grantReadAcp
  write : LeftOut texts.grantWrite given.grantWrite
  writeAcp : LeftOut texts.grantWriteAcp given.grantWriteAcp

/-- A blank text is compared: the canned ACL, or without one a permission. -/
def HasBlank (texts : AclGrants) : Prop :=
  texts.acl = some "" ∨ texts.acl = none ∧ (texts.grantFullControl = some "" ∨
    texts.grantRead = some "" ∨ texts.grantReadAcp = some "" ∨ texts.grantWrite = some "" ∨
    texts.grantWriteAcp = some "")

theorem nonBlank_of_leftOut {text given : Option String} (left : LeftOut text given) :
    nonBlank text = nonBlank given := by
  rcases left with rfl | ⟨rfl, rfl⟩
  · rfl
  · decide

/-- Without a canned ACL, leaving something out takes a blank permission. -/
theorem LeavesOutBlanks.hasBlank {texts given : AclGrants} (left : texts.LeavesOutBlanks given)
    (acl : given.acl = none) (fewer : texts ≠ given) : given.HasBlank := by
  by_contra none
  simp only [HasBlank, acl, not_or, reduceCtorEq, true_and, not_false_eq_true] at none
  obtain ⟨fullControl, read, readAcp, write, writeAcp⟩ := none
  have unnamed : given.acl ≠ some "" := by simp [acl]
  have kept {text given : Option String} (left : LeftOut text given) (said : given ≠ some "") :
      text = given := left.resolve_right fun blank => said blank.1
  have same := And.intro (kept left.acl unnamed) <| And.intro (kept left.fullControl fullControl) <|
    And.intro (kept left.read read) <| And.intro (kept left.readAcp readAcp) <|
    And.intro (kept left.write write) (kept left.writeAcp writeAcp)
  apply fewer
  cases texts
  cases given
  rw [AclGrants.mk.injEq]
  exact same

theorem LeavesOutBlanks.spoken_eq {texts given : AclGrants} (left : texts.LeavesOutBlanks given) :
    texts.spoken = given.spoken := by
  simp only [spoken, nonBlank_of_leftOut left.fullControl, nonBlank_of_leftOut left.read,
    nonBlank_of_leftOut left.readAcp, nonBlank_of_leftOut left.write, nonBlank_of_leftOut left.writeAcp]

section Normalized
variable {given observed : AclGrants}

/-- Every permission that is observed, that to hold all of them as well, has a text that says
something. -/
structure SpeaksWholly (observed : AclGrants) : Prop extends observed.Speaks where
  fullControl : observed.grantFullControl ≠ some ""

/-- A blank text that is compared differs from whatever is observed. -/
theorem HasBlank.differs (blank : given.HasBlank) (speaks : observed.SpeaksWholly) :
    (given.normalize observed).1 ≠ (given.normalize observed).2 := by
  rcases blank with acl | ⟨acl, permission⟩
  · have unnamed : ((CannedAcls.parse "").first?).getD "" = "" := by decide
    unfold normalize
    rw [acl]
    cases observed.acl with
    | none => simp
    | some names =>
      have absent : "" ∉ (CannedAcls.parse names).names := fun among =>
        (CannedAcls.isToken_of_mem_parse among).filled rfl
      simp [unnamed, CannedAcls.matching?, absent]
  · intro same
    have spoken : given.isWithoutGrants = false := by
      rcases permission with blank | blank | blank | blank | blank <;> simp [isWithoutGrants, blank]
    have grants : (given.normalize observed).1.SameGrants (given.normalize observed).2 := by
      rw [same]
      exact ⟨rfl, rfl, rfl, rfl, rfl⟩
    have named := (normalize_sameGrants_iff acl spoken speaks.toSpeaks).mp grants
    rcases permission with blank | blank | blank | blank | blank
    · rcases named.fullControl with none | equal
      · rw [blank] at none
        cases none
      · exact speaks.fullControl (equal.symm.trans blank)
    · exact speaks.read (named.read.symm.trans blank)
    · exact speaks.readAcp (named.readAcp.symm.trans blank)
    · exact speaks.write (named.write.symm.trans blank)
    · exact speaks.writeAcp (named.writeAcp.symm.trans blank)

/-- Normalizing fills in blank texts only, so that the same is sent. -/
theorem toSend_normalize (acl : given.acl = none) (observed : AclGrants) :
    (given.normalize observed).1.toSend = given.toSend := by
  have filled (desired observed : Option String) :
      nonBlank (placeholder desired observed) = nonBlank desired := by
    cases desired with
    | some text => rfl
    | none =>
      cases observed with
      | none => rfl
      | some text => simp [placeholder, nonBlank]
  have unnamed := (normalize_acl observed acl).1
  have spoken : (given.normalize observed).1.spoken = given.spoken := by
    unfold normalize
    rw [acl]
    simp only
    split
    · rfl
    · have owners : nonBlank (if given.grantFullControl.isNone && observed.grantFullControl.isSome
          then some "" else given.grantFullControl) = nonBlank given.grantFullControl := by
        split
        case isTrue both =>
          simp only [Bool.and_eq_true, Option.isNone_iff_eq_none] at both
          rw [both.1]
          rfl
        case isFalse => rfl
      simp only [AclGrants.spoken, filled, owners]
  rw [toSend, toSend, unnamed, acl, spoken]

/-- Leaving out blank texts either changes nothing that is compared, or the given texts differ from those
observed: then the same is sent without the blank ones, unless the canned ACL is one of them. -/
theorem LeavesOutBlanks.normalize_cases {texts : AclGrants} (left : texts.LeavesOutBlanks given)
    (speaks : observed.SpeaksWholly) :
    texts.acl = given.acl ∧ texts.normalize observed = given.normalize observed ∨
    (given.normalize observed).1 ≠ (given.normalize observed).2 ∧
      (texts.acl = given.acl ∧
          (texts.normalize observed).1.toSend = (given.normalize observed).1.toSend ∨
        texts.acl ≠ given.acl ∧
          (texts.normalize observed).1.toSend ≠ (given.normalize observed).1.toSend) := by
  rcases left.acl with same | ⟨blank, unnamed⟩
  · cases acl : given.acl with
    | some name =>
      refine .inl ⟨same.trans acl, ?_⟩
      unfold normalize
      rw [same, acl]
    | none =>
      have silent : texts.acl = none := same.trans acl
      by_cases fewer : texts = given
      · exact .inl ⟨silent, by rw [fewer]⟩
      · refine .inr ⟨(left.hasBlank acl fewer).differs speaks, .inl ⟨silent, ?_⟩⟩
        rw [toSend_normalize silent, toSend_normalize acl, toSend, toSend, silent, acl, left.spoken_eq]
  · have sent : (given.normalize observed).1.toSend = { acl := some "" } := by
      have unnamed : ((CannedAcls.parse "").first?).getD "" = "" := by decide
      unfold normalize
      rw [blank]
      cases observed.acl with
      | none => rfl
      | some names => simp [toSend, unnamed]
    have other : texts.toSend ≠ { acl := some "" } := by
      unfold toSend
      rw [unnamed]
      simp only
      split
      · decide
      · simp [AclGrants.spoken]
    refine .inr ⟨HasBlank.differs (.inl blank) speaks, .inr ⟨by simp [blank, unnamed], ?_⟩⟩
    rwa [toSend_normalize unnamed, sent]

end Normalized

end AclGrants

namespace BucketSpec

theorem speaksWholly_withObservedAcl (base : BucketSpec) (policy : AccessControlPolicy) :
    (base.withObservedAcl policy).aclTexts.SpeaksWholly where
  toSpeaks := speaks_withObservedAcl base policy
  fullControl := GrantHeaders.header?_ne_blank _ _

/-- No ACL is as it is desired by a blank text. -/
theorem not_matchesAcl_of_blank {desired : BucketSpec} (blank : desired.aclTexts.HasBlank)
    (policy : AccessControlPolicy) : ¬ desired.MatchesAcl policy := by
  let observed := ({ name := desired.name } : BucketSpec).withObservedAcl policy
  have texts : observed.aclTexts
    = (({ name := desired.name } : BucketSpec).withObservedAcl policy).aclTexts := rfl
  rw [matchesAcl_iff desired policy texts]
  exact blank.differs (speaksWholly_withObservedAcl _ policy)

/-- The specification with other texts of the ACL. -/
def withAclTexts (spec : BucketSpec) (texts : AclGrants) : BucketSpec :=
  { spec with
    acl := texts.acl
    grantFullControl := texts.grantFullControl
    grantRead := texts.grantRead
    grantReadAcp := texts.grantReadAcp
    grantWrite := texts.grantWrite
    grantWriteAcp := texts.grantWriteAcp }

/-- The texts of the ACL and all other parts are normalized on their own. -/
theorem normalized_withAclTexts (desired observed : BucketSpec) (texts : AclGrants) :
    (desired.withAclTexts texts).normalizedDesired observed
      = (desired.normalizedDesired observed).withAclTexts (texts.normalize observed.aclTexts).1 ∧
    (desired.withAclTexts texts).normalizedObserved observed
      = (desired.normalizedObserved observed).withAclTexts (texts.normalize observed.aclTexts).2 :=
  ⟨rfl, rfl⟩

theorem saysSame_withAclTexts (a b : BucketSpec) (texts others : AclGrants) {part : Part}
    (other : part ≠ .acl) :
    (a.withAclTexts texts).SaysSame (b.withAclTexts others) part ↔ a.SaysSame b part := by
  cases part with
  | setting s => cases s <;> rfl
  | document d => cases d <;> rfl
  | collection c => cases c <;> rfl
  | policy | objectLock => rfl
  | acl => exact absurd rfl other

end BucketSpec

namespace Part

/-- Whether another part differs does not depend on the texts of the ACL. -/
theorem differsIn_withAclTexts (a b : BucketSpec) (texts others : AclGrants) {part : Part}
    (other : part ≠ .acl) :
    part.differsIn (Delta.between (a.withAclTexts texts) (b.withAclTexts others))
      = part.differsIn (Delta.between a b) := by
  rw [Bool.eq_iff_iff, differsIn_iff, differsIn_iff, BucketSpec.saysSame_withAclTexts a b _ _ other]
  rfl

/-- No other part is written from the texts of the ACL. -/
theorem write_withAclTexts (location : Location) (a b : BucketSpec) (texts others : AclGrants)
    {part : Part} (other : part ≠ .acl) :
    part.write location (a.withAclTexts texts) (b.withAclTexts others) = part.write location a b := by
  cases part with
  | setting s => cases s <;> rfl
  | document d => cases d <;> rfl
  | collection c => cases c <;> rfl
  | policy | objectLock => rfl
  | acl => exact absurd rfl other

end Part

namespace BucketSpec

variable {wanted found : BucketSpec}

/-- The parts to write for `found` to become as `wanted`, in order. -/
def partsToWrite (wanted found : BucketSpec) : List Part :=
  (Part.orderFor wanted).filter fun part =>
    part.existsOn wanted.name && part.differsIn (Delta.between wanted found)

/-- Where nothing differs, there is no part to write. -/
theorem partsToWrite_of_eq (equal : wanted = found) : wanted.partsToWrite found = [] := by
  subst equal
  rw [partsToWrite, List.filter_eq_nil_iff]
  intro part _ chosen
  have differs := (Part.differsIn_iff part).mp (Bool.and_eq_true_iff.mp chosen).2
  split at differs
  · simp at differs
  · exact differs (by cases part <;> rfl)

/-- The parts to write before the ACL and those after it do not depend on the texts of the ACL, and it is
among them exactly where its texts differ. -/
theorem partsToWrite_withAclTexts (general : isDirectoryName wanted.name = false) (found : BucketSpec) :
    ∃ before after : List Part, Part.acl ∉ before ∧ Part.acl ∉ after ∧
      ∀ texts others : AclGrants,
        (wanted.withAclTexts texts).partsToWrite (found.withAclTexts others)
          = before ++ ((if texts = others then [] else [.acl]) ++ after) := by
  obtain ⟨first, last, order⟩ := List.append_of_mem (Part.mem_orderFor wanted .acl)
  -- each part is written at most once, so there is no ACL on either side of the ACL
  have distinct := Part.orderFor_nodup wanted
  rw [order, List.nodup_middle] at distinct
  have apart := (List.nodup_cons.mp distinct).1
  have early : Part.acl ∉ first := fun among => apart (List.mem_append_left _ among)
  have late : Part.acl ∉ last := fun among => apart (List.mem_append_right _ among)
  let chosen (part : Part) : Bool :=
    part.existsOn wanted.name && part.differsIn (Delta.between wanted found)
  refine ⟨first.filter chosen, last.filter chosen, fun among => early (List.mem_of_mem_filter among),
    fun among => late (List.mem_of_mem_filter among), fun texts others => ?_⟩
  let choose (part : Part) : Bool := part.existsOn wanted.name &&
    part.differsIn (Delta.between (wanted.withAclTexts texts) (found.withAclTexts others))
  have same {parts : List Part} (absent : Part.acl ∉ parts) :
      parts.filter choose = parts.filter chosen := by
    apply List.filter_congr
    intro part among
    have other : part ≠ .acl := fun own => absent (own ▸ among)
    simp only [choose, chosen, Part.differsIn_withAclTexts wanted found texts others other]
  have acl : choose .acl = true ↔ texts ≠ others := by
    have there : Part.acl.existsOn wanted.name = true := by simp [Part.existsOn, general]
    have differs := Part.differsIn_iff (a := wanted.withAclTexts texts) (b := found.withAclTexts others)
      .acl
    rw [if_neg (by simp)] at differs
    simp only [choose, there, Bool.true_and]
    exact differs
  show (Part.orderFor wanted).filter choose = _
  rw [order, List.filter_append, List.filter_cons, same early, same late]
  by_cases equal : texts = others
  · rw [if_neg fun differs => acl.mp differs equal, if_pos equal]
    rfl
  · rw [if_pos (acl.mpr equal), if_neg equal]
    rfl

end BucketSpec

namespace Pass

variable {location : Location}

theorem writeParts_withAclTexts (location : Location) (a b : BucketSpec) (texts others : AclGrants)
    {parts : List Part} (absent : Part.acl ∉ parts) :
    writeParts location (a.withAclTexts texts) (b.withAclTexts others) parts
      = writeParts location a b parts := by
  induction parts with
  | nil => rfl
  | cons part rest ih =>
    obtain ⟨other, absent⟩ := not_or.mp (mt List.mem_cons.mpr absent)
    rw [writeParts, writeParts, Part.write_withAclTexts location a b texts others (Ne.symm other),
      ih absent]

/-- Parts are written one after the other. -/
theorem writeParts_append (a b : BucketSpec) {α : Type} (first second : List Part)
    (next : List String → Pass α) :
    (writeParts location a b (first ++ second)).bind next
      = (writeParts location a b first).bind fun names =>
          (writeParts location a b second).bind fun more => next (names ++ more) := by
  induction first generalizing next with
  | nil => rfl
  | cons part rest ih =>
    simp only [List.cons_append, writeParts, bind_eq, Program.bind_assoc, ih]
    congr 1
    funext written
    cases written <;> rfl

end Pass

/-! ## Two passes -/

/-- The ACL that a call sends, and the bucket that it is for. -/
def Call.sentAcl? : Call → Option (String × AclGrants)
  | .putAcl bucket grants => some (bucket, grants)
  | _ => none

namespace Pass

variable {α β : Type} {store : Store} {location : Location} {desired : BucketSpec}

/-- The ACLs that a pass sends. -/
def sentAcls (pass : Pass α) (store : Store) : List (String × AclGrants) :=
  (pass.trace serve store).filterMap (·.1.sentAcl?)

theorem sentAcls_bind (first : Pass β) (next : β → Pass α) (store : Store) :
    sentAcls (first.bind next) store = sentAcls first store ++
      match first.run serve store with
      | (.ok value, after) => sentAcls (next value) after
      | (.error _, _) => [] := by
  rw [sentAcls, trace_bind, List.filterMap_append]
  rcases first.run serve store with ⟨fault | value, after⟩ <;> rfl

theorem sentAcls_bind_eq_nil {first : Pass β} {next : β → Pass α} {store : Store}
    (silent : sentAcls first store = []) (later : ∀ value store, sentAcls (next value) store = []) :
    sentAcls (first.bind next) store = [] := by
  rw [sentAcls_bind, silent, List.nil_append]
  rcases first.run serve store with ⟨fault | value, after⟩
  · rfl
  · exact later value after

/-- A pass that makes no such call sends no ACL. -/
theorem sentAcls_of_uses {pass : Pass α} {allowed : Call → Prop} (uses : pass.Uses allowed)
    (never : ∀ call, allowed call → call.sentAcl? = none) (store : Store) : sentAcls pass store = [] := by
  rw [sentAcls, List.filterMap_eq_nil_iff]
  exact fun step among => never _ (uses.steps serve store step among)

/-- Passes that make the same calls send the same ACLs. -/
theorem sentAcls_of_calls {a b : Pass α}
    (same : (a.run serve store).2.calls = (b.run serve store).2.calls) :
    sentAcls a store = sentAcls b store := by
  have sent (pass : Pass α) : sentAcls pass store
      = ((pass.trace serve store).map (·.1)).filterMap Call.sentAcl? := by
    rw [sentAcls, List.filterMap_map]
    rfl
  rw [run_calls, run_calls] at same
  rw [sent, sent, List.append_cancel_left same]

/-- Two passes do the same if the first sends no ACL, or if they are alike and the second sends one as
well; and otherwise they do not even make the same calls. -/
structure SameUntilAcl (alike : Prop) (a b : Pass α) (store : Store) : Prop where
  same : sentAcls a store = [] ∨ alike ∧ sentAcls b store ≠ [] →
    a.run serve store = b.run serve store
  told : (a.run serve store).2.calls = (b.run serve store).2.calls →
    sentAcls a store = [] ∨ alike ∧ sentAcls b store ≠ []

namespace SameUntilAcl

variable {alike : Prop}

/-- A pass is the same as itself, if it counts as alike or sends no ACL. -/
theorem refl {pass : Pass α} (either : alike ∨ sentAcls pass store = []) :
    SameUntilAcl alike pass pass store where
  same _ := rfl
  told _ := by
    by_cases silent : sentAcls pass store = []
    · exact .inl silent
    · exact .inr ⟨either.resolve_right silent, silent⟩

/-- What comes first may be anything that sends no ACL. -/
theorem bind {first : Pass β} {a b : β → Pass α} (silent : sentAcls first store = [])
    (next : ∀ value middle, first.run serve store = (.ok value, middle) →
      SameUntilAcl alike (a value) (b value) middle) :
    SameUntilAcl alike (first.bind a) (first.bind b) store := by
  have sent (c : β → Pass α) : sentAcls (first.bind c) store = match first.run serve store with
      | (.ok value, after) => sentAcls (c value) after
      | (.error _, _) => [] := by
    rw [sentAcls_bind, silent, List.nil_append]
  rcases ran : first.run serve store with ⟨fault | value, middle⟩
  · constructor
    · intro _
      rw [run_bind, run_bind, ran]
    · intro _
      rw [sent a, ran]
      exact .inl rfl
  · have later := next value middle ran
    constructor
    · rw [sent, sent, run_bind, run_bind, ran]
      exact later.same
    · rw [sent, sent, run_bind, run_bind, ran]
      exact later.told

/-- What two passes make of their results comes to the same. -/
theorem map {a b : Pass β} (both : SameUntilAcl alike a b store) (f : β → α) :
    SameUntilAcl alike (f <$> a) (f <$> b) store := by
  have sent (pass : Pass β) : sentAcls (f <$> pass) store = sentAcls pass store := by
    rw [sentAcls, trace_map, sentAcls]
  constructor
  · rw [sent, sent, run_map, run_map]
    intro either
    rw [both.same either]
  · rw [sent, sent, run_map, run_map]
    exact both.told

end SameUntilAcl

/-! ## Settling with other texts of the ACL -/

/-- Writing other parts sends no ACL. -/
theorem sentAcls_writeParts (location : Location) (a b : BucketSpec) {parts : List Part}
    (absent : Part.acl ∉ parts) (store : Store) :
    sentAcls (writeParts location a b parts) store = [] := by
  apply sentAcls_of_uses (writeParts_obeys location a b parts).uses
  rintro call ⟨part, among, own, -⟩
  cases call with
  | putAcl bucket grants =>
    obtain rfl := Option.some.inj own
    exact absurd among absent
  | _ => rfl

/-- Sends an ACL and then writes other parts; some were written before. -/
def sendAclThen (location : Location) (wanted found : BucketSpec) (after : List Part)
    (grants : AclGrants) (names : List String) : Pass Outcome :=
  .ask (I := Storage) (.putAcl wanted.name grants) fun answer =>
    .note (I := Storage) ⟨⟨.update, "PutBucketAcl"⟩, failure? answer⟩ <|
      match answer with
      | .ok _ => (fun more => .reporting (names ++ Part.acl.property :: more)) <$>
          writeParts location wanted found after
      | .error e => .done (.error (.property Part.acl.property (.api e)))

/-- Sends the ACL if the desired texts and those found differ, and then writes other parts; some were
written before. -/
def aclThen (location : Location) (wanted found : BucketSpec) (after : List Part)
    (texts : AclGrants × AclGrants) (names : List String) : Pass Outcome :=
  if texts.1 = texts.2 then
    (fun more => .reporting (names ++ more)) <$> writeParts location wanted found after
  else sendAclThen location wanted found after texts.1.toSend names

theorem sentAcls_aclThen (location : Location) (wanted found : BucketSpec) {after : List Part}
    (absent : Part.acl ∉ after) (texts : AclGrants × AclGrants) (names : List String) (store : Store) :
    sentAcls (aclThen location wanted found after texts names) store
      = if texts.1 = texts.2 then [] else [(wanted.name, texts.1.toSend)] := by
  have rest (f : List String → Outcome) (store : Store) :
      sentAcls (f <$> writeParts location wanted found after) store = [] := by
    rw [sentAcls, trace_map, ← sentAcls, sentAcls_writeParts location wanted found absent]
  unfold aclThen
  split
  · exact rest _ store
  · rw [sendAclThen, sentAcls, trace, List.filterMap_cons]
    simp only [Call.sentAcl?, trace]
    split
    · exact congrArg _ (rest _ _)
    · rfl

/-- What settling comes to: the parts that differ are written, and reported. -/
theorem settle_eq_writeParts (location : Location) (desired observed : BucketSpec) :
    let wanted := desired.normalizedDesired observed
    let found := desired.normalizedObserved observed
    settle location desired observed
      = Outcome.reporting <$> writeParts location wanted found (wanted.partsToWrite found) := by
  intro wanted found
  rw [settle_eq]
  split
  case isTrue same =>
    rw [BucketSpec.partsToWrite_of_eq (Delta.isEmpty_between.mp same)]
    rfl
  case isFalse => rfl

/-- Writing the ACL, and other parts after it. -/
theorem writeParts_acl (wanted found : BucketSpec) {after : List Part} (absent : Part.acl ∉ after)
    {texts : AclGrants × AclGrants} (differ : texts.1 ≠ texts.2) (names : List String) :
    (writeParts location (wanted.withAclTexts texts.1) (found.withAclTexts texts.2) (.acl :: after)).bind
        (fun more => .done (.ok (Outcome.reporting (names ++ more))))
      = aclThen location wanted found after texts names := by
  have sent : under Part.acl.property
      (Part.acl.write location (wanted.withAclTexts texts.1) (found.withAclTexts texts.2))
        = .ask (I := Storage) (.putAcl wanted.name texts.1.toSend) fun answer =>
          .note (I := Storage) ⟨⟨.update, "PutBucketAcl"⟩, failure? answer⟩ <|
            match answer with
            | .ok _ => .done (.ok true)
            | .error e => .done (.error (.property Part.acl.property (.api e))) := by
    show Program.ask (I := Storage) (.putAcl wanted.name texts.1.toSend) _ = _
    congr 1
    funext answer
    cases answer <;> rfl
  rw [aclThen, if_neg differ, sendAclThen, writeParts, sent,
    writeParts_withAclTexts location wanted found _ _ absent, bind_eq, Program.bind_assoc]
  show Program.ask (I := Storage) (.putAcl wanted.name texts.1.toSend) _ = _
  congr 1
  funext answer
  cases answer with
  | ok _ => exact congrArg (Program.note _) (Program.bind_assoc _ _ _)
  | error e => rfl

/-- Settling writes the parts before the ACL, which do not depend on its texts, and then goes on as they
say. -/
theorem settle_withAclTexts (general : isDirectoryName desired.name = false) (location : Location)
    (observed : BucketSpec) :
    let wanted := desired.normalizedDesired observed
    let found := desired.normalizedObserved observed
    ∃ before after : List Part, Part.acl ∉ before ∧ Part.acl ∉ after ∧
      ∀ texts : AclGrants, settle location (desired.withAclTexts texts) observed
        = (writeParts location wanted found before).bind
            (aclThen location wanted found after (texts.normalize observed.aclTexts)) := by
  intro wanted found
  have named : isDirectoryName wanted.name = false := general
  obtain ⟨before, after, early, late, chosen⟩ := BucketSpec.partsToWrite_withAclTexts named found
  refine ⟨before, after, early, late, fun texts => ?_⟩
  obtain ⟨newWanted, newFound⟩ := BucketSpec.normalized_withAclTexts desired observed texts
  let pair := texts.normalize observed.aclTexts
  rw [settle_eq_writeParts, newWanted, newFound]
  show Outcome.reporting <$> writeParts location (wanted.withAclTexts pair.1) (found.withAclTexts pair.2)
    ((wanted.withAclTexts pair.1).partsToWrite (found.withAclTexts pair.2)) = _
  rw [chosen, map_eq, writeParts_append, writeParts_withAclTexts location wanted found _ _ early]
  congr 1
  funext names
  by_cases equal : pair.1 = pair.2
  · rw [if_pos equal, List.nil_append, writeParts_withAclTexts location wanted found _ _ late, aclThen,
      if_pos equal, map_eq]
  · rw [if_neg equal]
    exact writeParts_acl wanted found late equal names

/-- A bucket that was found is settled alike with blank texts and without until the ACL is set, and after
that if the ACL is set both times and no canned ACL was left out. -/
theorem settle_sameUntilAcl (general : isDirectoryName desired.name = false) (location : Location)
    {observed : BucketSpec} (speaks : observed.aclTexts.SpeaksWholly) {texts : AclGrants}
    (left : texts.LeavesOutBlanks desired.aclTexts) (store : Store) :
    SameUntilAcl (texts.acl = desired.acl) (settle location desired observed)
      (settle location (desired.withAclTexts texts) observed) store := by
  obtain ⟨before, after, early, late, settled⟩ := settle_withAclTexts general location observed
  have given : settle location desired observed = _ := settled desired.aclTexts
  rw [given, settled texts]
  apply SameUntilAcl.bind (sentAcls_writeParts location _ _ early store)
  intro names middle _
  have sent := sentAcls_aclThen location (desired.normalizedDesired observed)
    (desired.normalizedObserved observed) late
  -- up to here both are one program; what follows depends on the texts only by what is compared and sent
  rcases left.normalize_cases speaks with ⟨acl, same⟩ | ⟨differs, ⟨acl, same⟩ | ⟨acl, other⟩⟩
  · rw [same]
    exact .refl (.inl acl)
  · constructor
    · rw [sent, sent, if_neg differs]
      rintro (none | ⟨-, some⟩)
      · cases none
      · have both : (texts.normalize observed.aclTexts).1 ≠ (texts.normalize observed.aclTexts).2 :=
          fun equal => some (if_pos equal)
        rw [aclThen, aclThen, if_neg differs, if_neg both, same]
    · intro calls
      have equal := sentAcls_of_calls calls
      rw [sent, if_neg differs] at equal
      exact .inr ⟨acl, by simp [← equal]⟩
  · constructor
    · rw [sent, sent, if_neg differs]
      rintro (none | ⟨alike, -⟩)
      · cases none
      · exact absurd alike acl
    · intro calls
      have equal := sentAcls_of_calls calls
      rw [sent, sent, if_neg differs] at equal
      split at equal
      · cases equal
      · have sends : (desired.aclTexts.normalize observed.aclTexts).1.toSend
            = (texts.normalize observed.aclTexts).1.toSend := by simpa using equal
        exact absurd sends.symm other

/-! ## Whole passes -/

/-- Texts of an ACL that differ in blanks alone create the same bucket. -/
theorem create_withAclTexts (location : Location) {texts : AclGrants}
    (left : texts.LeavesOutBlanks desired.aclTexts) :
    create location (desired.withAclTexts texts) = create location desired := by
  have grants : AclGrants.ofNewSpec (desired.withAclTexts texts) = .ofNewSpec desired := by
    rw [AclGrants.ofNewSpec_eq, AclGrants.ofNewSpec_eq]
    have spoken : (desired.withAclTexts texts).aclTexts.spoken = desired.aclTexts.spoken :=
      left.spoken_eq
    have acl : nonBlank (desired.withAclTexts texts).acl = nonBlank desired.acl :=
      AclGrants.nonBlank_of_leftOut left.acl
    rw [spoken, acl]
  have written : writeStated location (desired.withAclTexts texts) = writeStated location desired := by
    let stated (part : Part) : Bool := part.existsOn desired.name && part.isStated desired
    have absent : Part.acl ∉ Part.creationOrder.filter stated := fun among =>
      absurd (List.mem_of_mem_filter among) (by decide)
    have parts := writeParts_withAclTexts location desired { name := desired.name } texts {}
      absent
    exact congrArg (fun work : Pass (List String) => work.bind fun _ => .done (.ok ())) parts
  rw [create, grants, written]
  rfl

/-- A creation sets no ACL after it. -/
theorem sentAcls_create (location : Location) (desired : BucketSpec) (store : Store) :
    sentAcls (create location desired) store = [] := by
  have made (creation : BucketCreation) : sentAcls (Pass.call ⟨.create, "CreateBucket"⟩ (.createBucket creation)) store = [] := by
    rw [call_eq, sentAcls, trace, List.filterMap_cons]
    simp only [Call.sentAcl?, trace]
    split <;> rfl
  have stated (store : Store) : sentAcls (writeStated location desired) store = [] := by
    apply sentAcls_bind_eq_nil
    · apply sentAcls_writeParts
      exact fun among => absurd (List.mem_of_mem_filter among) (by decide)
    · exact fun _ _ => rfl
  apply sentAcls_bind_eq_nil (made _)
  exact fun created after => sentAcls_bind_eq_nil (stated after) fun _ _ => rfl

/-- A general purpose bucket is searched, and then the pass goes on with what it found. -/
theorem sync_eq_find (general : isDirectoryName desired.name = false) (location : Location)
    (adoption : AdoptionPolicy) :
    sync location desired adoption = (find location desired).bind
      (conclude location desired adoption ("arn:aws:s3:::" ++ desired.name)) := by
  have valid : desired.validate = .ok () := by simp [BucketSpec.validate, general]
  have addressed : bucketArn desired.name location.region location.account
      = .ok ("arn:aws:s3:::" ++ desired.name) := by simp [bucketArn, general]
  rw [sync_eq, valid, addressed]
  rfl

/-- A search sends no ACL. -/
theorem sentAcls_find (location : Location) (desired : BucketSpec) (store : Store) :
    sentAcls (find location desired) store = [] := by
  apply sentAcls_of_uses (find_reads location desired)
  intro call reads
  cases call with
  | putAcl _ _ => cases reads
  | _ => rfl

/-- A pass over a general purpose bucket does the same with blank texts and without until it sets the
ACL. -/
theorem sync_sameUntilAcl (general : isDirectoryName desired.name = false) {texts : AclGrants}
    (left : texts.LeavesOutBlanks desired.aclTexts) (location : Location) (adoption : AdoptionPolicy)
    (store : Store) :
    SameUntilAcl (texts.acl = desired.acl) (sync location desired adoption)
      (sync location (desired.withAclTexts texts) adoption) store := by
  have search : find location (desired.withAclTexts texts) = find location desired := rfl
  have named : isDirectoryName (desired.withAclTexts texts).name = false := general
  rw [sync_eq_find general, sync_eq_find named, search]
  apply SameUntilAcl.bind (sentAcls_find location desired store)
  intro found middle ran
  cases found with
  | none =>
    have created : conclude location (desired.withAclTexts texts) adoption
        ("arn:aws:s3:::" ++ desired.name) none
          = conclude location desired adoption ("arn:aws:s3:::" ++ desired.name) none := by
      simp only [conclude, create_withAclTexts location left]
      rfl
    have silent : sentAcls (conclude location desired adoption ("arn:aws:s3:::" ++ desired.name) none)
        middle = [] := by
      simp only [conclude]
      split
      · rfl
      · exact sentAcls_bind_eq_nil (sentAcls_create location desired middle) fun _ _ => rfl
    show SameUntilAcl _ _ (conclude location (desired.withAclTexts texts) adoption
      ("arn:aws:s3:::" ++ desired.name) none) middle
    rw [created]
    exact .refl (.inr silent)
  | some observed =>
    obtain ⟨calls, -, read⟩ := run_of_reads (find_reads location desired) store
    rw [ran] at read
    obtain ⟨policy, seen⟩ := find_sees_acl general (Prod.mk.inj read).1.symm
    have speaks : observed.aclTexts.SpeaksWholly := by
      rw [seen]
      exact BucketSpec.speaksWholly_withObservedAcl _ policy
    exact (settle_sameUntilAcl general location speaks left middle).map fun outcome =>
      (⟨outcome, "arn:aws:s3:::" ++ desired.name, none⟩ : Synced)

/-- A pass whose specification leaves out blank texts of the ACL does the same, call by call, if none is
sent with them, or if one is sent both times and no canned ACL is left out; and in no other case. And
a blank text that is compared is never matched. -/
theorem sync_withoutBlanks_iff (general : isDirectoryName desired.name = false) {texts : AclGrants}
    (left : texts.LeavesOutBlanks desired.aclTexts) (location : Location) (adoption : AdoptionPolicy)
    (store : Store) :
    let given := sync location desired adoption
    let without := sync location (desired.withAclTexts texts) adoption
    (given.run serve store = without.run serve store ↔
      sentAcls given store = [] ∨ texts.acl = desired.acl ∧ sentAcls without store ≠ []) ∧
    (desired.aclTexts.HasBlank → ∀ policy, ¬ desired.MatchesAcl policy) := by
  intro given without
  have alike := sync_sameUntilAcl general left location adoption store
  refine ⟨⟨fun equal => alike.told (congrArg (·.2.calls) equal), alike.same⟩, fun blank policy => ?_⟩
  exact BucketSpec.not_matchesAcl_of_blank blank policy

/-- The ACL of a bucket that anybody may read is reset with a blank permission as it is without. -/
theorem public_read_reset_alike :
    let location : Location := ⟨none, "eu-west-1"⟩
    let stored : StoredBucket := {
      acl := {
        owner := some { id := some "owner" }
        grants := [
          { grantee := some { id := some "owner" }, permission := some "FULL_CONTROL" },
          { grantee := some { uri := some "http://acs.amazonaws.com/groups/global/AllUsers" }
            permission := some "READ" }] } }
    let store : Store := { buckets := Keyed.ofList [("ledger", stored)] }
    let given := sync location { name := "ledger", grantRead := some "" } .adopt
    let without := sync location { name := "ledger" } .adopt
    sentAcls without store = [("ledger", { acl := some "private" })] ∧
      given.run serve store = without.run serve store := by
  intro location stored store given without
  have sent : sentAcls without store = [("ledger", { acl := some "private" })] := by decide +kernel
  have general : isDirectoryName "ledger" = false := by decide +kernel
  have left : AclGrants.LeavesOutBlanks {}
      ({ name := "ledger", grantRead := some "" } : BucketSpec).aclTexts :=
    ⟨.inl rfl, .inl rfl, .inr ⟨rfl, rfl⟩, .inl rfl, .inl rfl, .inl rfl⟩
  obtain ⟨alike, -⟩ := sync_withoutBlanks_iff general left location .adopt store
  refine ⟨sent, alike.mpr (.inr ⟨rfl, ?_⟩)⟩
  show sentAcls without store ≠ []
  rw [sent]
  exact List.cons_ne_nil _ _

/-- A blank permission has the ACL of a private bucket written, which is in sync without it. -/
theorem blank_permission_written :
    let location : Location := ⟨none, "eu-west-1"⟩
    let stored : StoredBucket := {
      acl := privateAcl
      requestPayment := some { payer := some "BucketOwner" } }
    let store : Store := { buckets := Keyed.ofList [("ledger", stored)] }
    let arn := "arn:aws:s3:::ledger"
    ((sync location { name := "ledger", grantRead := some "" } .adopt).run serve store).1
        = .ok ⟨.updated ["ACLs or Grant Headers"], arn, none⟩ ∧
      ((sync location { name := "ledger" } .adopt).run serve store).1 = .ok ⟨.inSync, arn, none⟩ := by
  decide +kernel

end Pass

end BucketSteward
