import BucketSteward.Proofs.CannedGrants
import BucketSteward.Proofs.Trimming

/-! Names of canned ACLs as they are kept, in one text with a bar between every two. Whoever writes such a
text may put blanks around a name and leave places between bars empty, and nothing of that is read. What is
read is therefore read again from the text it is written to, and the names that are recognised from grants
can be read as well. A name that is empty, has a blank at an end or has a bar in it gets lost. -/
namespace BucketSteward

/-- What a text is split on is in none of the pieces. -/
theorem Text.not_mem_of_mem_splitOn {text piece : List Char} {bar : Char}
    (among : piece ∈ text.splitOn bar) : bar ∉ piece := by
  induction text generalizing piece with
  | nil => simp_all
  | cons c rest ih =>
    rw [List.splitOn_cons_eq_if_modifyHead] at among
    split at among
    case isTrue =>
      rcases List.mem_cons.mp among with rfl | later
      · exact List.not_mem_nil
      · exact ih later
    case isFalse other =>
      cases pieces : rest.splitOn bar with
      | nil => exact absurd pieces (List.splitOn_ne_nil _ _)
      | cons first more =>
        rw [pieces, List.modifyHead_cons] at among
        rcases List.mem_cons.mp among with rfl | later
        · have apart : bar ∉ first := ih (by simp [pieces])
          have unlike : bar ≠ c := fun same => other (by simp [same])
          simp [unlike, apart]
        · exact ih (by simp [pieces, later])

namespace CannedAcls

/-! ## Reading -/

/-- A name that can be read from a text: it says something, has no blank at its ends and no bar. -/
structure IsToken (name : String) : Prop where
  filled : name ≠ ""
  trimmed : Text.IsTrimmed name.toList
  barless : '|' ∉ name.toList

/-- In the places between bars stand names, each with any blanks around it; the other places are blank. -/
inductive Lists : List (List Char) → List String → Prop where
  | nothing : Lists [] []
  | blank {piece : List Char} {pieces : List (List Char)} {names : List String}
      (empty : ∀ c ∈ piece, Text.isBlank c = true) (rest : Lists pieces names) :
      Lists (piece :: pieces) names
  | name (before : List Char) {name : String} (after : List Char) {pieces : List (List Char)}
      {names : List String} (filled : name ≠ "") (trimmed : Text.IsTrimmed name.toList)
      (left : ∀ c ∈ before, Text.isBlank c = true) (right : ∀ c ∈ after, Text.isBlank c = true)
      (rest : Lists pieces names) :
      Lists ((before ++ name.toList ++ after) :: pieces) (name :: names)

/-- A text says the names, in their order, between its bars. -/
def SaidBy (acls : CannedAcls) (text : String) : Prop :=
  ∃ pieces : List (List Char), text.toList = ['|'].intercalate pieces ∧ pieces ≠ [] ∧
    (∀ piece ∈ pieces, '|' ∉ piece) ∧ Lists pieces acls.names

theorem lists_iff {pieces : List (List Char)} {names : List String} : Lists pieces names ↔
    ((pieces.map Text.trim).filter (!·.isEmpty)).map String.ofList = names := by
  constructor
  · intro listed
    induction listed with
    | nothing => rfl
    | blank empty _ ih => simp [Text.trim_eq_nil_iff.mpr empty, ih]
    | name before after filled trimmed left right _ ih =>
      rw [List.map_cons, Text.trim_padded left right trimmed]
      simp [filled, ih]
  · rintro rfl
    induction pieces with
    | nil => exact .nothing
    | cons piece pieces ih =>
      -- A place is blank exactly if trimming leaves nothing of it; what it leaves is the name.
      by_cases empty : Text.trim piece = []
      · simpa [empty] using ih.blank (Text.trim_eq_nil_iff.mp empty)
      · obtain ⟨before, after, padded, left, right⟩ := Text.exists_padded piece
        have filled : String.ofList (Text.trim piece) ≠ "" := by simpa using empty
        have trimmed : Text.IsTrimmed (String.ofList (Text.trim piece)).toList := by
          simpa using Text.isTrimmed_trim piece
        have listed := ih.name before after filled trimmed left right
        rw [String.toList_ofList, ← padded] at listed
        simpa [empty] using listed

/-- Exactly the names that a text says are read from it. -/
theorem parse_eq_iff {text : String} {acls : CannedAcls} : parse text = acls ↔ acls.SaidBy text := by
  obtain ⟨names⟩ := acls
  have read : parse text = ⟨names⟩ ↔ Lists (text.toList.splitOn '|') names := by
    rw [lists_iff, parse, mk.injEq]
  rw [read]
  constructor
  · intro listed
    exact ⟨_, (List.intercalate_splitOn '|').symm, List.splitOn_ne_nil _ _,
      fun piece => Text.not_mem_of_mem_splitOn, listed⟩
  · rintro ⟨pieces, joined, some, barless, listed⟩
    rwa [joined, List.splitOn_intercalate '|' barless some]

theorem isToken_of_mem_parse {text name : String} (among : name ∈ (parse text).names) :
    IsToken name := by
  obtain ⟨token, inside, rfl⟩ := List.mem_map.mp among
  obtain ⟨trimmed, filled⟩ := List.mem_filter.mp inside
  obtain ⟨piece, between, rfl⟩ := List.mem_map.mp trimmed
  constructor
  · simpa using filled
  · simpa using Text.isTrimmed_trim piece
  · simpa using fun bar => Text.not_mem_of_mem_splitOn between (Text.mem_of_mem_trim bar)

/-! ## Writing -/

theorem lists_of_tokens {names : List String} (tokens : ∀ name ∈ names, IsToken name) :
    Lists (names.map String.toList) names := by
  induction names with
  | nil => exact .nothing
  | cons name names ih =>
    obtain ⟨token, others⟩ := List.forall_mem_cons.mp tokens
    simpa using (ih others).name [] [] token.filled token.trimmed (by simp) (by simp)

/-- Names that can be read are read from the text that they are written to. -/
theorem parse_display {acls : CannedAcls} (tokens : ∀ name ∈ acls.names, IsToken name) :
    parse acls.display = acls := by
  obtain ⟨names⟩ := acls
  rw [parse_eq_iff]
  by_cases empty : names = []
  · subst empty
    exact ⟨[[]], rfl, by simp, by simp, .blank (by simp) .nothing⟩
  · have barless : ∀ piece ∈ names.map String.toList, '|' ∉ piece := by
      intro piece among bar
      obtain ⟨name, inside, rfl⟩ := List.mem_map.mp among
      exact (tokens name inside).barless bar
    exact ⟨_, String.toList_ofList, by simpa using empty, barless, lists_of_tokens tokens⟩

theorem parse_display_iff {acls : CannedAcls} :
    parse acls.display = acls ↔ ∀ name ∈ acls.names, IsToken name := by
  constructor
  · intro again name among
    rw [← again] at among
    exact isToken_of_mem_parse among
  · exact parse_display

/-- A name that was read is read as itself. -/
theorem parse_of_mem_parse {text name : String} (among : name ∈ (parse text).names) :
    parse name = ⟨[name]⟩ := by
  have alone : display ⟨[name]⟩ = name := by simp [display]
  have again : parse (display ⟨[name]⟩) = ⟨[name]⟩ :=
    parse_display (by simpa using isToken_of_mem_parse among)
  rwa [alone] at again

/-! ## Recognised names -/

/-- A name that can stand in one text with others: it is not empty and has neither blanks nor bars. -/
def isPlain (name : String) : Bool :=
  !name.toList.isEmpty && name.toList.all fun c => c != '|' && !Text.isBlank c

theorem isToken_of_isPlain {name : String} (plain : isPlain name = true) : IsToken name := by
  obtain ⟨filled, each⟩ : name ≠ "" ∧ ∀ c ∈ name.toList, c ≠ '|' ∧ Text.isBlank c = false := by
    simpa [isPlain] using plain
  exact ⟨filled, Text.isTrimmed_of_plain fun c among => (each c among).2, fun bar => (each _ bar).1 rfl⟩

theorem isToken_of_mem_ofGrants {owner : Option Owner} {grants : List Grant} {name : String}
    (among : name ∈ (ofGrants owner grants).names) : IsToken name := by
  cases owned : owner.bind (·.id) with
  | none =>
    rw [ofGrants, owned] at among
    cases among
  | some id =>
    have recognised : ofGrants owner grants ≠ ⟨[]⟩ := by
      intro none
      rw [none] at among
      cases among
    obtain ⟨kind, described⟩ := describes_of_ofGrants owned recognised
    rw [ofGrants_of_describes owned described] at among
    have plain : kind.names.all isPlain = true := by cases kind <;> decide
    exact isToken_of_isPlain (List.all_eq_true.mp plain name among)

/-! ## Names that are kept -/

/-- **Names survive the text that they are kept in.** Exactly what a text says is read from it, whatever the
blanks. The names that are read say something and have no blank at their ends and no bar; they are read again
from the text they are written to, and that is written the same again. Names recognised from grants come back
as well, and any set of names does exactly when each of them could have been read. -/
theorem survives_text :
    (∀ text : String, (∀ acls : CannedAcls, parse text = acls ↔ acls.SaidBy text) ∧
      (∀ name ∈ (parse text).names, IsToken name) ∧
      parse (parse text).display = parse text ∧
      (parse (parse text).display).display = (parse text).display) ∧
    (∀ (owner : Option Owner) (grants : List Grant),
      parse (ofGrants owner grants).display = ofGrants owner grants) ∧
    ∀ acls : CannedAcls, parse acls.display = acls ↔ ∀ name ∈ acls.names, IsToken name := by
  refine ⟨fun text => ?_, fun owner grants => parse_display fun _ => isToken_of_mem_ofGrants,
    fun acls => parse_display_iff⟩
  have again : parse (parse text).display = parse text :=
    parse_display fun _ => isToken_of_mem_parse
  exact ⟨fun acls => parse_eq_iff, fun _ => isToken_of_mem_parse, again, congrArg display again⟩

/-- Two names with blanks around them and an empty place between; a bar in a name does not survive. -/
theorem padded_names_survive :
    let text := " private||public read\t|"
    "public read" ∈ (parse text).names ∧ IsToken "public read" ∧
      parse (parse text).display = parse text ∧ (parse text).display = "private|public read" ∧
      parse (display ⟨["public|read"]⟩) ≠ ⟨["public|read"]⟩ := by
  intro text
  obtain ⟨kept, -, others⟩ := survives_text
  obtain ⟨-, tokens, again, -⟩ := kept text
  have among : "public read" ∈ (parse text).names := by decide
  refine ⟨among, tokens _ among, again, by decide, fun survives => ?_⟩
  exact ((others _).mp survives "public|read" (by simp)).barless (by decide)

end CannedAcls

end BucketSteward
