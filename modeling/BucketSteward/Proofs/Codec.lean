import BucketSteward.Proofs.CanonicalForms
import BucketSteward.Wire.Encoding

/-! Codecs that restore what they encode. A codec restores the canonical form of whatever it can
encode (`Wire.Restores`); what it makes of an option, of a list that is always sent, of a list that
may be absent and of a union follows, so that a record is restored when its members are. -/
namespace BucketSteward.Wire

/-! ## Encodings that succeed -/

variable {α β : Type}

theorem bind_eq_ok {first : Encoded α} {next : α → Encoded β} {result : β} :
    (first >>= next) = .ok result ↔ ∃ value, first = .ok value ∧ next value = .ok result := by
  cases first with
  | error missing =>
    constructor
    · intro impossible
      cases impossible
    · rintro ⟨value, impossible, -⟩
      cases impossible
  | ok value =>
    constructor
    · intro done
      exact ⟨value, rfl, done⟩
    · rintro ⟨other, same, done⟩
      cases same
      exact done

theorem pure_eq_ok {value result : α} : (pure value : Encoded α) = .ok result ↔ value = result := by
  constructor
  · intro same
    exact Except.ok.inj same
  · rintro rfl
    rfl

theorem demand_eq_ok {type member : String} {given : Option α} {value : α} :
    demand type member given = .ok value ↔ given = some value := by
  cases given <;> simp [demand]

/-- What may be absent is left out, or it is encoded. -/
theorem encodeOption_eq_ok {encode : α → Encoded β} {given : Option α} {sent : Option β} :
    encodeOption encode given = .ok sent ↔ given = none ∧ sent = none ∨
      ∃ value written, given = some value ∧ encode value = .ok written ∧ sent = some written := by
  cases given with
  | none => simp [encodeOption, eq_comm]
  | some value =>
    cases one : encode value with
    | error missing => simp [encodeOption, one, Except.map]
    | ok written => simp [encodeOption, one, Except.map, eq_comm]

/-! ## Codecs -/

/-- Whatever can be encoded decodes to its canonical form. -/
def Restores (encode : α → Encoded β) (decode : β → α) (canonical : α → α) : Prop :=
  ∀ value sent, encode value = .ok sent → decode sent = canonical value

section Codec
variable {encode : α → Encoded β} {decode : β → α} {canonical : α → α}

theorem decodeAll_eq (decode : β → α) (items : List β) :
    decodeAll decode items = unlessEmpty (some (items.map decode)) := by
  cases items <;> rfl

theorem decodeSame_eq (items : List α) : decodeSame items = unlessEmpty (some items) := by
  rw [decodeSame, decodeAll_eq, List.map_id]

theorem bind_decodeSame (items : Option (List α)) : items.bind decodeSame = unlessEmpty items := by
  cases items with
  | none => rfl
  | some items => exact decodeSame_eq items

theorem canonicalItems_id (items : Option (List α)) : canonicalItems id items = unlessEmpty items := by
  simp [canonicalItems]

theorem Restores.option (restores : Restores encode decode canonical) {given : Option α}
    {sent : Option β} (encoded : encodeOption encode given = .ok sent) :
    sent.map decode = given.map canonical := by
  rcases encodeOption_eq_ok.mp encoded with ⟨rfl, rfl⟩ | ⟨value, written, rfl, one, rfl⟩
  · rfl
  · rw [Option.map_some, Option.map_some, restores value written one]

theorem Restores.list (restores : Restores encode decode canonical) {items : List α}
    {sent : List β} (encoded : encodeList encode items = .ok sent) :
    sent.map decode = items.map canonical := by
  induction items generalizing sent with
  | nil =>
    cases encoded
    rfl
  | cons item rest ih =>
    simp only [encodeList, bind_eq_ok, pure_eq_ok] at encoded
    obtain ⟨first, one, others, tail, rfl⟩ := encoded
    rw [List.map_cons, List.map_cons, restores item first one, ih tail]

/-- A list that is always sent is restored, and an empty one is restored as absent. -/
theorem Restores.all (restores : Restores encode decode canonical) {items : Option (List α)}
    {sent : List β} (encoded : encodeAll encode items = .ok sent) :
    decodeAll decode sent = canonicalItems canonical items := by
  rw [decodeAll_eq, restores.list encoded]
  cases items <;> rfl

/-- A list that may be absent is restored, and an empty one is restored as absent. -/
theorem Restores.items (restores : Restores encode decode canonical) {items : Option (List α)}
    {sent : Option (List β)} (encoded : encodeItems encode items = .ok sent) :
    decodeItems decode sent = canonicalItems canonical items := by
  have lists : Restores (encodeList encode) (List.map decode) (List.map canonical) :=
    fun _ _ => restores.list
  rw [canonicalItems, ← lists.option encoded, decodeItems]
  cases sent with
  | none => rfl
  | some sent => exact decodeAll_eq decode sent

end Codec

/-- A union that may have no member is restored to the member that it has. -/
theorem restores_join {ω : Type} {encode : α → Encoded (Option β)} {decode : β → ω}
    {canonical : α → Option ω}
    (restores : ∀ value sent, encode value = .ok sent → sent.map decode = canonical value)
    {given : Option α} {sent : Option (Option β)} (encoded : encodeOption encode given = .ok sent) :
    sent.join.map decode = given.bind canonical := by
  rcases encodeOption_eq_ok.mp encoded with ⟨rfl, rfl⟩ | ⟨value, written, rfl, one, rfl⟩
  · rfl
  · rw [Option.join_some, Option.bind_some, restores value written one]

end BucketSteward.Wire
