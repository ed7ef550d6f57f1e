import AssetBroker.Json.Payload
import AssetBroker.Proofs.Lookups
import Mathlib

/-! How payloads are read from documents, whatever stands around and between their parts. A text
is read as the document it holds. The members of an object may come in any order, and so may
those of an object that lists a dictionary: it is read back just when all its values are. -/
namespace AssetBroker.Json

variable {α : Type}

/-- A text that is one document, with blanks around it at most. -/
def Holds (text : String) (document : Document) : Prop :=
  ∃ rest, read? text = some (document, rest) ∧ skipBlank rest = []

theorem ofText_of_holds {text : String} {document : Document} (holds : Holds text document)
    (read? : Document → Option (Logged α)) :
    ofText read? text = match read? document with
      | some payload => ⟨some payload.value, payload.events⟩
      | none => ⟨none, []⟩ := by
  obtain ⟨rest, read, blank⟩ := holds
  simp only [ofText, read, blank, if_pos]
  cases read? document <;> rfl

theorem ofText?_of_holds {text : String} {document : Document} (holds : Holds text document)
    (read? : Document → Option α) : ofText? read? text = read? document := by
  rw [ofText?, ofText_of_holds holds]
  cases read? document <;> rfl

/-- A document is read as a payload or refused, and so is every text that holds it. -/
def ReadAs (read? : Document → Option α) (document : Document) (answer : Option α) : Prop :=
  read? document = answer ∧ ∀ text, Holds text document → ofText? read? text = answer

theorem readAs_of_eq {read? : Document → Option α} {document : Document} {answer : Option α}
    (read : read? document = answer) : ReadAs read? document answer :=
  ⟨read, fun _ holds => (ofText?_of_holds holds read?).trans read⟩

/-- As `ReadAs`, for payloads whose reading may report something. -/
def IngestedAs (read? : Document → Option (Logged α)) (document : Document)
    (answer : Option (Logged α)) : Prop :=
  read? document = answer ∧ ∀ text, Holds text document →
    ofText read? text = ⟨answer.map Logged.value, answer.elim [] Logged.events⟩

theorem ingestedAs_of_eq {read? : Document → Option (Logged α)} {document : Document}
    {answer : Option (Logged α)} (read : read? document = answer) :
    IngestedAs read? document answer := by
  refine ⟨read, fun text holds => ?_⟩
  rw [ofText_of_holds holds, read]
  cases answer <;> rfl

namespace Document

theorem field?_perm {members others : List (Option String × Document)}
    (perm : members.Perm others) (key : String) : field? key members = field? key others := by
  have same := perm.filter fun member => member.1 == some key
  rw [field?, field?]
  generalize members.filter (fun member => member.1 == some key) = held at same ⊢
  generalize others.filter (fun member => member.1 == some key) = held' at same ⊢
  match held with
  | [] =>
    obtain rfl := List.nil_perm.mp same
    rfl
  | [member] =>
    obtain rfl := List.singleton_perm.mp same
    rfl
  | first :: second :: rest =>
    -- A repeated key is refused on both sides.
    match held', same.length_eq with
    | _ :: _ :: _, _ => rfl

/-- The fields of an object do not depend on the order of its members. -/
theorem fields?_object_perm {members others : List (Option String × Document)}
    (perm : members.Perm others) (keys : List String) :
    (object members).fields? keys = (object others).fields? keys := by
  have fields : (fun key => field? key members) = fun key => field? key others :=
    funext (field?_perm perm)
  rw [fields?, fields?, perm.all_eq, fields]

/-- An object lists a dictionary if its members are the entries in any order, with each value
written as it may be. -/
def Lists (written : α → Document → Prop) (d : Dictionary α) (document : Document) : Prop :=
  ∃ entries members, entries.Perm d.entries ∧ document = object members ∧
    List.Forall₂ (fun entry member => member.1 = some entry.1 ∧ written entry.2 member.2)
      entries members

theorem lists_ofDictionary {written : α → Document → Prop} {write : α → Document}
    (writes : ∀ value, written value (write value)) (d : Dictionary α) :
    Lists written d (ofDictionary write d) := by
  refine ⟨d.entries, _, .refl _, rfl, ?_⟩
  rw [List.forall₂_map_right_iff]
  exact List.forall₂_same.mpr fun entry _ => ⟨rfl, writes entry.2⟩

section

variable {written : α → Document → Prop} {read? : Document → Option α} {good : α → Bool}
  (reads : ∀ value document, written value document →
    read? document = if good value then some value else none)

include reads

theorem mapM_readMember? {entries : List (String × α)}
    {members : List (Option String × Document)}
    (listed : List.Forall₂ (fun entry member => member.1 = some entry.1 ∧
      written entry.2 member.2) entries members) :
    members.mapM (readMember? read?) =
      if entries.all fun entry => good entry.2 then some entries else none := by
  induction listed with
  | nil => rfl
  | @cons entry member entries members first _ ih =>
    obtain ⟨key, writes⟩ := first
    rw [List.mapM_cons, ih, readMember?, key, reads _ _ writes, List.all_cons]
    cases good entry.2 with
    | false => rfl
    | true => cases entries.all fun entry => good entry.2 <;> rfl

/-- An object that lists a dictionary is read as that dictionary, or refused for one value that
is not read. -/
theorem dictionary?_of_lists {d : Dictionary α} {document : Document}
    (lists : Lists written d document) :
    document.dictionary? read? = if d.all good then some d else none := by
  obtain ⟨entries, members, perm, rfl, listed⟩ := lists
  rw [dictionary?, mapM_readMember? reads listed, perm.all_eq, Dictionary.all]
  split
  · exact congrArg some (Dictionary.ofList_of_perm perm)
  · rfl

end

end Document

end AssetBroker.Json
