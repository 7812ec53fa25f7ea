import PartQuery.Rule.Tree

/-!
# Fields

A field is named by what it belongs to: `pm.` the part, `pr.` the revision, `author.` the account of
its author, and `attr-` and `pd-attr-` an attribute of an iteration of a revision or of path data.
An attribute is named by its kind, a point and its own name, which is not empty and may hold
anything.
-/

namespace PartQuery

/-- A field of the part that a revision belongs to. -/
inductive MasterField where
  | number
  | name
  | type
  | creationDate
deriving DecidableEq, Repr

/-- A field of the revision itself. The check-in date and the modification date are those of its
last iteration. -/
inductive RevisionField where
  | version
  | description
  | creationDate
  | checkoutDate
  | lifeCycleState
  | checkInDate
  | modificationDate
  | status
  | tags
  | linkedDocuments
deriving DecidableEq, Repr

/-- A field of the account of a revision's author. -/
inductive AuthorField where
  | login
  | name
  | email
  | language
deriving DecidableEq, Repr

/-- What an attribute holds. -/
inductive AttributeKind where
  | text
  | longText
  | date
  | boolean
  | url
  | number
  /-- One entry of a list of values. -/
  | lov
  /-- A reference to a part. -/
  | partNumber
deriving DecidableEq, Repr

/-- The entities a query is about. -/
inductive Family where
  | revision
  | pathData
deriving DecidableEq, Repr

/-- A field that comparisons can name. -/
inductive Field where
  | master (field : MasterField)
  | revision (field : RevisionField)
  | author (field : AuthorField)
  | dynamic (owner : Family) (kind : AttributeKind) (name : String)
deriving DecidableEq, Repr

/-- What a field holds, which decides what it can be compared with. -/
inductive ValueKind where
  | text
  | date
  | number
  | boolean
  | lov
  | status
  | tags
  /-- The field is not looked at: any comparison holds. -/
  | unchecked
deriving DecidableEq, Repr

namespace MasterField

/-- The word for a field, after its prefix. -/
def key : MasterField → String
  | number => "number"
  | name => "name"
  | type => "type"
  | creationDate => "creationDate"

/-- All fields of a part. -/
def all : List MasterField :=
  [number, name, type, creationDate]

/-- The field of a part with this key. -/
def ofKey? (s : String) : Option MasterField :=
  all.find? (·.key == s)

end MasterField

namespace RevisionField

/-- The word for a field, after its prefix. -/
def key : RevisionField → String
  | version => "version"
  | description => "description"
  | creationDate => "creationDate"
  | checkoutDate => "checkoutDate"
  | lifeCycleState => "lifeCycleState"
  | checkInDate => "checkInDate"
  | modificationDate => "modificationDate"
  | status => "status"
  | tags => "tags"
  | linkedDocuments => "linkedDocuments"

/-- All fields of a revision. -/
def all : List RevisionField :=
  [version, description, creationDate, checkoutDate, lifeCycleState, checkInDate, modificationDate,
    status, tags, linkedDocuments]

/-- The field of a revision with this key. -/
def ofKey? (s : String) : Option RevisionField :=
  all.find? (·.key == s)

end RevisionField

namespace AuthorField

/-- The word for a field, after its prefix. -/
def key : AuthorField → String
  | login => "login"
  | name => "name"
  | email => "email"
  | language => "language"

/-- All fields of an account. -/
def all : List AuthorField :=
  [login, name, email, language]

/-- The field of an account with this key. -/
def ofKey? (s : String) : Option AuthorField :=
  all.find? (·.key == s)

end AuthorField

namespace AttributeKind

/-- The word for a kind. -/
def name : AttributeKind → String
  | text => "TEXT"
  | longText => "LONG_TEXT"
  | date => "DATE"
  | boolean => "BOOLEAN"
  | url => "URL"
  | number => "NUMBER"
  | lov => "LOV"
  | partNumber => "PART_NUMBER"

/-- All kinds. -/
def all : List AttributeKind :=
  [text, longText, date, boolean, url, number, lov, partNumber]

/-- The kind with this name. -/
def ofName? (s : String) : Option AttributeKind :=
  all.find? (·.name == s)

@[simp] theorem ofName?_name (k : AttributeKind) : ofName? k.name = some k := by
  cases k <;> rfl

/-- What an attribute of a kind holds. -/
def valueKind : AttributeKind → ValueKind
  | text | longText | url | partNumber => .text
  | date => .date
  | number => .number
  | boolean => .boolean
  | lov => .lov

end AttributeKind

namespace Field

/-- The prefix of the attributes of an owner. -/
def attributePrefix : Family → String
  | .revision => "attr-"
  | .pathData => "pd-attr-"

/-- The name of a field. -/
def name : Field → String
  | master f => "pm." ++ f.key
  | revision f => "pr." ++ f.key
  | author f => "author." ++ f.key
  | dynamic owner kind name => attributePrefix owner ++ kind.name ++ "." ++ name

/-- What follows a word at the beginning of a text. -/
def after? (word : String) (s : String) : Option String :=
  if word.toList.isPrefixOf s.toList then some (String.ofList (s.toList.drop word.length)) else none

/-- The attribute named by a kind, a point and a name that is not empty. -/
def dynamic? (owner : Family) (s : String) : Option Field :=
  let kind := s.toList.takeWhile (· != '.')
  match s.toList.dropWhile (· != '.') with
  | _ :: c :: rest =>
    (AttributeKind.ofName? (String.ofList kind)).map
      (dynamic owner · (String.ofList (c :: rest)))
  | _ => none

/-- The field with this name. No two prefixes can begin the same text, so their order does not
matter. -/
def ofName? (s : String) : Option Field :=
  if let some key := after? "pm." s then (MasterField.ofKey? key).map master
  else if let some key := after? "pr." s then (RevisionField.ofKey? key).map revision
  else if let some key := after? "author." s then (AuthorField.ofKey? key).map author
  else if let some key := after? (attributePrefix .revision) s then dynamic? .revision key
  else if let some key := after? (attributePrefix .pathData) s then dynamic? .pathData key
  else none

/-- The entities that have a field. -/
def family : Field → Family
  | dynamic .pathData _ _ => .pathData
  | _ => .revision

/-- What a field holds. -/
def valueKind : Field → ValueKind
  | master .creationDate => .date
  | master _ => .text
  | revision .version | revision .description | revision .lifeCycleState => .text
  | revision .creationDate | revision .checkoutDate => .date
  | revision .checkInDate | revision .modificationDate => .date
  | revision .status => .status
  | revision .tags => .tags
  | revision .linkedDocuments => .unchecked
  | author _ => .text
  | dynamic _ kind _ => kind.valueKind

/-- Whether a field is held by the iterations of a revision and read from the last one. -/
def isLastIterationOnly : Field → Bool
  | revision .checkInDate | revision .modificationDate => true
  | _ => false

end Field

namespace Comparison

/-- The field of a comparison. -/
def resolve (c : Comparison) : Except QueryError Field :=
  match Field.ofName? c.field with
  | some field => .ok field
  | none => .error c.unresolved

/-- The field of a comparison, which must be one that the entities of a family have. -/
def resolveFor (family : Family) (c : Comparison) : Except QueryError Field := do
  let field ← c.resolve
  if field.family = family then .ok field else .error c.unresolved

end Comparison

end PartQuery
