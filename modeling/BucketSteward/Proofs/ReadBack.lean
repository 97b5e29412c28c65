import BucketSteward.Proofs.Settling
import BucketSteward.Proofs.WireRoundTrip

/-! A service that keeps exactly what it is sent answers the canonical form of what was written to
it. Normalizing knows what a service assumes of a part that nobody configured, but not what the wire
loses inside one, so after a specification was written and read back the parts still reported as
differing are exactly those that have another canonical form: such a part is written again in every
pass. -/
namespace BucketSteward

open BucketSpec

/-! ## What is answered -/

/-- A value goes over the wire, is kept and comes back as the answer. -/
def Wire.Echoes {α β : Type} (encode : α → Encoded β) (decode : β → α) (value answer : α) : Prop :=
  ∃ sent, encode value = .ok sent ∧ answer = decode sent

theorem Wire.Restores.echo {α β : Type} {encode : α → Encoded β} {decode : β → α}
    {canonical : α → α} (restores : Restores encode decode canonical) {value answer : α}
    (echoes : Echoes encode decode value answer) : answer = canonical value := by
  obtain ⟨sent, encoded, rfl⟩ := echoes
  exact restores value sent encoded

abbrev Setting.Echoes (s : Setting) : s.Value → s.Value → Prop := Wire.Echoes s.encode s.decode

abbrev Document.Echoes (d : Document) : d.Content → d.Content → Prop := Wire.Echoes d.encode d.decode

abbrev Collection.Echoes (c : Collection) : c.Item → c.Item → Prop := Wire.Echoes c.encode c.decode

/-- A setting that is spoken of is answered as it was put; any other is not answered, or as a service
has it that was never told. -/
def Setting.ReadBack (s : Setting) (desired observed : Option s.Value) : Prop :=
  match desired with
  | some value => ∃ answer, s.Echoes (s.toPut (some value)) answer ∧ observed = some answer
  | none => ∀ stored, observed = some stored → s.Matches none stored

/-- A document that says something is answered as it was put, in whatever order its tags went; any
other was deleted. -/
def Document.ReadBack (d : Document) (desired observed : Option d.Content) : Prop :=
  match desired.filter d.isConfigured with
  | some content => ∃ put answer, d.arrange put = d.arrange content ∧ d.Echoes put answer ∧
      observed = some answer
  | none => observed = none

/-- Of a collection the first item under every id is answered, in the order of the ids. -/
def Collection.ReadBack (c : Collection) (desired observed : Option (List c.Item)) : Prop :=
  ∃ answers, List.Forall₂ c.Echoes (c.byId (desired.getD [])) answers ∧ observed = some answers

namespace BucketSpec

/-- Every part that is spoken of has a form on the wire. -/
structure Encodes (desired : BucketSpec) : Prop where
  setting (s : Setting) (value : s.Value) : desired.setting s = some value →
    ∃ answer, s.Echoes value answer
  document (d : Document) (content : d.Content) : desired.document d = some content →
    ∃ answer, d.Echoes content answer
  collection (c : Collection) (items : List c.Item) : desired.collection c = some items →
    ∀ item ∈ items, ∃ answer, c.Echoes item answer

/-- What is observed of a bucket once all that is desired was written to it. -/
structure ReadBack (desired observed : BucketSpec) : Prop where
  setting (s : Setting) : s.ReadBack (desired.setting s) (observed.setting s)
  document (d : Document) : d.ReadBack (desired.document d) (observed.document d)
  collection (c : Collection) : c.ReadBack (desired.collection c) (observed.collection c)

end BucketSpec

/-! ## What is still reported -/

/-- A setting is reported exactly when it does not come back as it is desired: because its canonical
form is another, or because a word was filled in that the specification leaves out. -/
theorem Setting.readBack_differs_iff (s : Setting) {desired observed : Option s.Value}
    (answered : s.ReadBack desired observed) :
    filled s.assumed desired observed ≠ observed ↔
      ∃ value, desired = some value ∧ s.canonical (s.toPut (some value)) ≠ value := by
  cases desired with
  | none =>
    have same : filled s.assumed none observed = observed := by
      cases observed with
      | none => rfl
      | some stored => exact (s.same_iff_matches none stored).mpr (answered stored rfl)
    simp [same]
  | some value =>
    obtain ⟨answer, echoes, rfl⟩ := answered
    have canonical := s.restores.echo echoes
    simp [filled, canonical, eq_comm]

/-- Sorting tags and forgetting empty lists do not disturb each other. -/
theorem Document.arrange_canonical (d : Document) (content : d.Content) :
    d.arrange (d.canonical content) = d.canonical (d.arrange content) := by
  cases d with
  | tagging =>
    obtain ⟨tags⟩ := content
    cases tags with
    | none => rfl
    | some tags =>
      cases tags with
      | nil => rfl
      | cons tag rest =>
        have filled : Tag.inOrder (tag :: rest) ≠ [] := by simp [Tag.inOrder_eq_nil]
        simp [arrange, canonical, Tagging.inOrder, Tagging.canonical, unlessEmpty, Option.filter,
          filled]
  | _ => rfl

/-- A document that has a canonical form of its own has one in the order of its tags too. -/
theorem Document.arrange_canonical_eq_iff (d : Document) (content : d.Content) :
    d.arrange (d.canonical content) = d.arrange content ↔ d.canonical content = content := by
  cases d with
  | tagging =>
    obtain ⟨tags⟩ := content
    cases tags with
    | none => exact iff_of_true rfl rfl
    | some tags =>
      cases tags with
      | nil => exact iff_of_false (by decide) (by decide)
      | cons tag rest => exact iff_of_true rfl rfl
  | _ => exact Iff.rfl

/-- A document is reported exactly when it says something and has another canonical form. -/
theorem Document.readBack_matches_iff (d : Document) {desired observed : Option d.Content}
    (answered : d.ReadBack desired observed) :
    ¬ d.Matches (desired.map d.arrange) (observed.map d.arrange) ↔
      ∃ content, desired = some content ∧ d.isConfigured content = true ∧
        d.canonical content ≠ content := by
  cases desired with
  | none =>
    obtain rfl : observed = none := answered
    simp [Matches]
  | some content =>
    have spoken := d.isConfigured_iff (d.arrange content)
    rw [isConfigured_arrange] at spoken
    by_cases configured : d.isConfigured content = true
    · simp only [ReadBack, Option.filter_some_pos configured] at answered
      obtain ⟨put, answer, order, echoes, rfl⟩ := answered
      have answer : d.arrange answer = d.arrange (d.canonical content) := by
        rw [d.restores.echo echoes, arrange_canonical, order, ← arrange_canonical]
      simp [Matches, spoken.mp configured, answer, arrange_canonical_eq_iff, configured]
    · have unset : d.isConfigured content = false := by simpa using configured
      simp only [ReadBack, Option.filter_some_neg unset] at answered
      have silent := mt spoken.mpr configured
      simp [Matches, silent, answered, unset]

/-- A collection is reported exactly when one of the items that stand has another canonical form. -/
theorem Collection.readBack_differs_iff (c : Collection) {desired observed : Option (List c.Item)}
    (answered : c.ReadBack desired observed) :
    (filled (fun _ => []) desired observed).map c.byId ≠ observed.map c.byId ↔
      ∃ item, c.find? (c.id item) (desired.getD []) = some item ∧ c.canonical item ≠ item := by
  obtain ⟨answers, echoes, rfl⟩ := answered
  have canonical : answers = (c.byId (desired.getD [])).map c.canonical := by
    rw [← List.forall₂_eq_eq_eq, List.forall₂_map_right_iff]
    exact echoes.flip.imp fun _ _ echo => c.restores.echo echo
  have stands : c.byId answers = (c.byId (desired.getD [])).map c.canonical := by
    rw [canonical, byId_map c.id_canonical, byId_byId]
  have wanted : filled (fun _ => []) desired (some answers) = some (desired.getD []) := by
    cases desired <;> rfl
  have kept : (c.byId (desired.getD [])).map c.canonical = c.byId (desired.getD []) ↔
      ∀ item ∈ c.byId (desired.getD []), c.canonical item = item := by
    conv_lhs => rhs; rw [← List.map_id (c.byId (desired.getD []))]
    exact List.map_inj_left
  rw [wanted, Option.map_some, Option.map_some, stands, ne_eq, Option.some.injEq, eq_comm, kept]
  simp only [Collection.mem_byId, not_forall, exists_prop]

/-! ## Reading back -/

/-- What a setting is put as has a form on the wire when what is desired of it has. -/
theorem Setting.encodes_toPut (s : Setting) {value answer : s.Value}
    (echoes : s.Echoes value answer) : ∃ answer, s.Echoes (s.toPut (some value)) answer := by
  cases s with
  | logging | notification => exact ⟨_, echoes⟩
  | _ => exact ⟨_, _, rfl, rfl⟩

theorem Setting.exists_readBack (s : Setting) {desired : Option s.Value}
    (encodes : ∀ value, desired = some value → ∃ answer, s.Echoes value answer) :
    ∃ observed, s.ReadBack desired observed := by
  cases desired with
  | none =>
    refine ⟨none, ?_⟩
    rintro stored ⟨⟩
  | some value =>
    obtain ⟨_, spoken⟩ := encodes value rfl
    obtain ⟨answer, echoes⟩ := s.encodes_toPut spoken
    exact ⟨some answer, answer, echoes, rfl⟩

theorem Document.exists_readBack (d : Document) {desired : Option d.Content}
    (encodes : ∀ content, desired = some content → ∃ answer, d.Echoes content answer) :
    ∃ observed, d.ReadBack desired observed := by
  unfold ReadBack
  cases said : desired.filter d.isConfigured with
  | none => exact ⟨none, rfl⟩
  | some content =>
    obtain ⟨answer, echoes⟩ := encodes content (Option.filter_eq_some_iff.mp said).1
    exact ⟨some answer, content, answer, rfl, echoes, rfl⟩

theorem Collection.exists_readBack (c : Collection) {desired : Option (List c.Item)}
    (encodes : ∀ items, desired = some items → ∀ item ∈ items, ∃ answer, c.Echoes item answer) :
    ∃ observed, c.ReadBack desired observed := by
  have each : ∀ item ∈ c.byId (desired.getD []), ∃ answer, c.Echoes item answer := by
    intro item stands
    have among : item ∈ desired.getD [] := List.mem_of_find?_eq_some (mem_byId.mp stands)
    cases desired with
    | none => cases among
    | some items => exact encodes items rfl item among
  have answers : ∃ answers, List.Forall₂ c.Echoes (c.byId (desired.getD [])) answers := by
    generalize c.byId (desired.getD []) = items at each
    induction items with
    | nil => exact ⟨[], .nil⟩
    | cons item rest ih =>
      obtain ⟨answer, echoes⟩ := each item List.mem_cons_self
      obtain ⟨answers, others⟩ := ih fun other later => each other (List.mem_cons_of_mem _ later)
      exact ⟨answer :: answers, .cons echoes others⟩
  obtain ⟨answers, echoes⟩ := answers
  exact ⟨some answers, answers, echoes, rfl⟩

namespace BucketSpec

variable {desired : BucketSpec}

/-- Whatever has a form on the wire can be read back. -/
theorem exists_readBack (encodes : desired.Encodes) : ∃ observed, desired.ReadBack observed := by
  choose settings answeredSettings using fun s : Setting => s.exists_readBack (encodes.setting s)
  choose documents answeredDocuments using fun d : Document => d.exists_readBack (encodes.document d)
  choose collections answeredCollections using fun c : Collection => c.exists_readBack (encodes.collection c)
  refine ⟨{
    name := desired.name
    accelerate := settings .accelerate
    analytics := collections .analytics
    cors := documents .cors
    encryption := documents .encryption
    intelligentTiering := collections .intelligentTiering
    inventory := collections .inventory
    lifecycle := documents .lifecycle
    logging := settings .logging
    metrics := collections .metrics
    notification := settings .notification
    ownershipControls := documents .ownershipControls
    publicAccessBlock := documents .publicAccessBlock
    replication := documents .replication
    requestPayment := settings .requestPayment
    tagging := documents .tagging
    versioning := settings .versioning
    website := documents .website }, ?_, ?_, ?_⟩
  · intro s
    cases s <;> exact answeredSettings _
  · intro d
    cases d <;> exact answeredDocuments _
  · intro c
    cases c <;> exact answeredCollections _

/-- A specification that has a form on the wire can be read back, and however it is read back, a part
is still reported exactly when the wire does not keep it: a setting that has another canonical form
or leaves out the word that is filled in, a document that says something and has another canonical
form, a collection with an item that stands and has another canonical form. -/
theorem touches_readBack_iff (encodes : desired.Encodes) :
    (∃ observed, desired.ReadBack observed) ∧
    ∀ observed, desired.ReadBack observed →
      let delta := Delta.between (desired.normalizedDesired observed)
        (desired.normalizedObserved observed)
      (∀ s : Setting, delta.touches s.member = true ↔
        ∃ value, desired.setting s = some value ∧ s.canonical (s.toPut (some value)) ≠ value) ∧
      (∀ d : Document, delta.touches d.member = true ↔
        ∃ content, desired.document d = some content ∧ d.isConfigured content = true ∧
          d.canonical content ≠ content) ∧
      ∀ c : Collection, delta.touches c.member = true ↔
        ∃ item, c.find? (c.id item) ((desired.collection c).getD []) = some item ∧
          c.canonical item ≠ item := by
  refine ⟨exists_readBack encodes, fun observed answered => ⟨fun s => ?_, fun d => ?_, fun c => ?_⟩⟩
  · rw [Delta.touches_setting, normalizedDesired_setting, normalizedObserved_setting]
    exact s.readBack_differs_iff (answered.setting s)
  · rw [Delta.touches_document, ← d.readBack_matches_iff (answered.document d)]
    exact not_congr (document_same_iff desired observed d)
  · rw [Delta.touches_collection, normalizedDesired_collection, normalizedObserved_collection]
    exact c.readBack_differs_iff (answered.collection c)

/-- The part of a second in a date is reported for ever; a bucket that is versioned is not. -/
theorem fraction_of_second_stays_reported :
    let date : Timestamp := ⟨1704067200, 250000000, by decide, by decide, by decide, by decide⟩
    let rule : LifecycleRule := { status := some "Enabled", expiration := some { date := some date } }
    let desired : BucketSpec := {
      name := "ledger"
      lifecycle := some { rules := some [rule] }
      versioning := some { status := some "Enabled" } }
    desired.Encodes ∧ (∃ observed, desired.ReadBack observed) ∧
    ∀ observed, desired.ReadBack observed →
      let delta := Delta.between (desired.normalizedDesired observed)
        (desired.normalizedObserved observed)
      delta.touches "lifecycle" = true ∧ delta.touches "versioning" = false := by
  intro date rule desired
  have encodes : desired.Encodes := by
    refine ⟨?_, ?_, ?_⟩
    · rintro (_ | _) value ⟨⟩
      exact ⟨_, _, rfl, rfl⟩
    · rintro (_ | _) content ⟨⟩
      exact ⟨_, _, rfl, rfl⟩
    · rintro (_ | _) items ⟨⟩
  obtain ⟨exists_one, reported⟩ := touches_readBack_iff encodes
  refine ⟨encodes, exists_one, fun observed answered => ?_⟩
  obtain ⟨settings, documents, -⟩ := reported observed answered
  constructor
  · refine (documents .lifecycle).mpr ⟨_, rfl, rfl, ?_⟩
    decide
  · rw [Bool.eq_false_iff]
    intro differs
    obtain ⟨value, ⟨⟩, changed⟩ := (settings .versioning).mp differs
    exact changed rfl

/-- Rules for other origins with an empty list of headers are read back without the list, and are
reported. -/
theorem empty_headers_stay_reported :
    let rule : CorsRule := { allowedMethods := some ["GET"], allowedOrigins := some ["*"] }
    let desired : BucketSpec := {
      name := "ledger"
      cors := some { corsRules := some [{ rule with allowedHeaders := some [] }] } }
    let observed : BucketSpec := {
      name := "ledger"
      accelerate := some {}
      analytics := some []
      cors := some { corsRules := some [rule] }
      intelligentTiering := some []
      inventory := some []
      logging := some {}
      metrics := some []
      notification := some {}
      requestPayment := some { payer := some "BucketOwner" }
      versioning := some {} }
    desired.Encodes ∧ desired.ReadBack observed ∧
      (Delta.between (desired.normalizedDesired observed)
        (desired.normalizedObserved observed)).touches "cors" = true := by
  intro rule desired observed
  refine ⟨⟨?_, ?_, ?_⟩, ⟨?_, ?_, ?_⟩, ?_⟩
  · rintro (_ | _) value ⟨⟩
  · rintro (_ | _) content ⟨⟩
    exact ⟨_, _, rfl, rfl⟩
  · rintro (_ | _) items ⟨⟩
  · rintro (_ | _) stored ⟨⟩
    · exact .inl rfl
    · rfl
    · rfl
    · rfl
    · exact ⟨.inl rfl, rfl⟩
  · intro d
    cases d with
    | cors => exact ⟨_, _, rfl, ⟨_, rfl, rfl⟩, rfl⟩
    | _ => rfl
  · intro c
    cases c <;> exact ⟨[], .nil, rfl⟩
  · refine (Delta.touches_document .cors).mpr ?_
    decide

end BucketSpec

end BucketSteward
