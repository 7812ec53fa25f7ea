import PartQuery.Json.Reader
import PartQuery.Order
import PartQuery.Part.Dataset

/-!
# Reading datasets

How entities are written in JSON. An attribute names its kind beside its value, in any order, so its
members are read first and understood afterwards; every other entity is a record.
-/

namespace PartQuery

open Json (Reader Slot Outline Fault)

/-- A date of a document. -/
def readDate : Reader Instant :=
  .meaning Calendar.readDocument?

namespace PartReference

/-- Reads a reference to a part. -/
def read : Reader PartReference :=
  .record default [
    .of "workspaceId" .required .text fun s p => { p with workspace := s },
    .of "number" .required .text fun s p => { p with number := s }]

end PartReference

namespace AttributeKind

/-- Reads the kind of an attribute: its name, or its name as the only key of an object that holds
nothing. -/
def read? : Outline → Option AttributeKind
  | .text (.ok s) => ofName? s
  | .object _ [(.ok s, .null)] .closed => ofName? s
  | .object _ [(.ok s, .object _ [] .closed)] .closed => ofName? s
  | _ => none

end AttributeKind

namespace AttributeValue

/-- Reads the chosen index and the entries of a list of values, which must be an object. -/
def readLov : Reader AttributeValue := fun o => do
  let (index, items) ← Reader.recordObject (0, [])
    [.of "index" .required (.natural 32) fun i v => (i, v.2),
      .of "items" .required (.list .text) fun l v => (v.1, l)] o
  return .lov index items

/-- Reads the value of an attribute of a known kind. -/
def read (kind : AttributeKind) : Reader AttributeValue := fun o =>
  match kind with
  | .text => (Reader.text o).map .text
  | .longText => (Reader.text o).map .longText
  | .date => (readDate o).map .date
  | .boolean => (Reader.boolean o).map .boolean
  | .url => (Reader.text o).map .url
  | .number => (Reader.real o).map .number
  | .lov => readLov o
  | .partNumber => (Reader.optional PartReference.read o).map .partNumber

/-- The value of an attribute with these members. Its kind is given once; its value is given once,
or not at all if it is a reference, which then is unset. -/
def ofMembers? (members : List (String × Outline)) : Option AttributeValue :=
  let given (key : String) := members.filter (·.1 == key)
  match given "kind", given "value" with
  | [(_, kind)], [(_, value)] =>
    (AttributeKind.read? kind).bind fun kind => (read kind value).toOption
  | [(_, kind)], [] =>
    (AttributeKind.read? kind).bind fun kind =>
      if kind = .partNumber then some (.partNumber none) else none
  | _, _ => none

end AttributeValue

namespace Attribute

/-- Reads the members of an attribute, keeping the name apart. -/
def gather (name : Option String) (others : List (String × Outline)) :
    List (Except Json.Flaw String × Outline) →
      Except Fault (Option String × List (String × Outline))
  | [] => .ok (name, others.reverse)
  | (key, o) :: rest => do
    let key ← Json.readPart key
    if key = "name" then
      if name.isSome then .error .mismatch else gather (some (← Reader.text o)) others rest
    else
      o.check
      gather name ((key, o) :: others) rest

/-- Reads an attribute, which must be an object. -/
def read : Reader Attribute
  | .object level members ending => do
    Json.checkLevel level
    let (name, others) ← gather none [] members
    ending.check
    match name, AttributeValue.ofMembers? others with
    | some name, some value => .ok ⟨name, value⟩
    | _, _ => .error .mismatch
  | o => .error o.otherKind

end Attribute

namespace Master

/-- Reads a part. -/
def read : Reader Master :=
  .record default [
    .of "workspaceId" .required .text fun s m => { m with workspace := s },
    .of "number" .required .text fun s m => { m with number := s },
    .of "name" .defaulted .text fun s m => { m with name := s },
    .of "type" .defaulted .text fun s m => { m with type := s },
    .of "creationDate" .nullable (.optional readDate) fun t m => { m with creationDate := t }]

end Master

namespace Author

/-- Reads an account. -/
def read : Reader Author :=
  .record default [
    .of "login" .required .text fun s a => { a with login := s },
    .of "name" .defaulted .text fun s a => { a with name := s },
    .of "email" .defaulted .text fun s a => { a with email := s },
    .of "language" .defaulted .text fun s a => { a with language := s }]

end Author

namespace Iteration

/-- Reads an iteration of a revision. -/
def read : Reader Iteration :=
  .record default [
    .of "iteration" .required (.natural 32) fun n i => { i with number := n },
    .of "checkInDate" .nullable (.optional readDate) fun t i => { i with checkInDate := t },
    .of "modificationDate" .nullable (.optional readDate) fun t i =>
      { i with modificationDate := t },
    .of "attributes" .defaulted (.list Attribute.read) fun l i => { i with attributes := l }]

end Iteration

namespace Revision

/-- Reads a revision. -/
def read : Reader Revision :=
  .record default [
    .of "master" .required Master.read fun m r => { r with master := m },
    .of "version" .required .text fun s r => { r with version := s },
    .of "author" .required Author.read fun a r => { r with author := a },
    .of "description" .defaulted .text fun s r => { r with description := s },
    .of "creationDate" .nullable (.optional readDate) fun t r => { r with creationDate := t },
    .of "status" .required (.word Status.ofName?) fun s r => { r with status := s },
    .of "lifecycleState" .defaulted .text fun s r => { r with lifeCycleState := s },
    .of "tags" .defaulted (.list .text) fun l r => { r with tags := sortDistinct l },
    .of "checkoutDate" .nullable (.optional readDate) fun t r => { r with checkoutDate := t },
    .of "iterations" .defaulted (.list Iteration.read) fun l r => { r with iterations := l }]

end Revision

namespace PathIteration

/-- Reads an iteration of path data. -/
def read : Reader PathIteration :=
  .record default [
    .of "iteration" .required (.natural 32) fun n i => { i with number := n },
    .of "note" .defaulted .text fun s i => { i with note := s },
    .of "attributes" .defaulted (.list Attribute.read) fun l i => { i with attributes := l }]

end PathIteration

/-- A whole number of 64 bits with a sign. -/
def readId : Reader Int :=
  .whole (-(twoPow 63 : Int)) (twoPow 63 - 1 : Nat)

namespace PathData

/-- Reads path data. -/
def read : Reader PathData :=
  .record default [
    .of "id" .required readId fun n p => { p with id := n },
    .of "path" .required .text fun s p => { p with path := s },
    .of "iterations" .defaulted (.list PathIteration.read) fun l p => { p with iterations := l }]

end PathData

namespace ProductInstance

/-- Reads an iteration of a product instance. -/
def read : Reader ProductInstance :=
  .record default [
    .of "serialNumber" .required .text fun s i => { i with serialNumber := s },
    .of "configurationItem" .required .text fun s i => { i with configurationItem := s },
    .of "iteration" .required (.natural 32) fun n i => { i with iteration := n },
    .of "pathDataIds" .defaulted (.list readId) fun l i => { i with pathDataIds := l }]

end ProductInstance

namespace Dataset

/-- Reads a dataset. -/
def read : Reader Dataset :=
  .record {} [
    .of "revisions" .defaulted (.list Revision.read) fun l d => { d with revisions := l },
    .of "pathData" .defaulted (.list PathData.read) fun l d => { d with pathData := l },
    .of "productInstances" .defaulted (.list ProductInstance.read) fun l d =>
      { d with instances := l }]

/-- Reads the JSON of a dataset. -/
def ofJson (text : String) : Except Fault Dataset :=
  Json.readDocument read text

end Dataset

end PartQuery
