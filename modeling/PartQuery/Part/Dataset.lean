import PartQuery.Calendar.Instant
import PartQuery.Field
import PartQuery.Part.Status
import PartQuery.Scalar

/-!
# Datasets

The entities that queries are about. A part has revisions, a revision has iterations, and iterations
carry attributes. A product instance places parts; what is known of such a place is path data, which
has iterations of its own. All of it is only read.
-/

namespace PartQuery

/-- A reference to a part. -/
structure PartReference where
  workspace : String
  number : String
deriving DecidableEq, Repr, Inhabited

/-- What an attribute holds. -/
inductive AttributeValue where
  | text (s : String)
  | longText (s : String)
  | number (x : Binary64)
  | boolean (b : Bool)
  | date (t : Instant)
  | url (s : String)
  /-- The chosen index, and the entries to choose from. -/
  | lov (index : Nat) (items : List String)
  /-- The part that is referred to, if any. -/
  | partNumber (part : Option PartReference)
deriving DecidableEq

namespace AttributeValue

/-- The kind of attribute that holds a value. -/
def kind : AttributeValue → AttributeKind
  | text _ => .text
  | longText _ => .longText
  | number _ => .number
  | boolean _ => .boolean
  | date _ => .date
  | url _ => .url
  | lov _ _ => .lov
  | partNumber _ => .partNumber

/-- The value as comparisons see it: of a reference its part number, and nothing when it is unset.
-/
def scalar? : AttributeValue → Option Scalar
  | text s | longText s | url s => some (.text s)
  | number x => some (.number x)
  | boolean b => some (.boolean b)
  | date t => some (.date t)
  | lov index _ => some (.lov index)
  | partNumber part => part.map (.text ·.number)

/-- The value as comparisons of one kind see it. -/
def scalarOf? (kind : AttributeKind) (v : AttributeValue) : Option Scalar :=
  if v.kind = kind then v.scalar? else none

end AttributeValue

/-- A named value of an iteration. -/
structure Attribute where
  name : String
  value : AttributeValue
deriving DecidableEq

/-- Whether some attribute of this kind and name has a value that passes a test. -/
def hasAttribute (attributes : List Attribute) (kind : AttributeKind) (name : String)
    (test : Scalar → Bool) : Bool :=
  ((attributes.filter (·.name == name)).filterMap (·.value.scalarOf? kind)).any test

/-- A part. -/
structure Master where
  workspace : String
  number : String
  name : String
  type : String
  creationDate : Option Instant
deriving DecidableEq, Inhabited

/-- The account of an author. -/
structure Author where
  login : String
  name : String
  email : String
  language : String
deriving DecidableEq, Repr, Inhabited

/-- One state of a revision; a draft has no check-in date. -/
structure Iteration where
  number : Nat
  checkInDate : Option Instant
  modificationDate : Option Instant
  attributes : List Attribute
deriving DecidableEq, Inhabited

/-- What identifies a revision. -/
structure RevisionKey where
  workspace : String
  number : String
  version : String
deriving DecidableEq, Repr

namespace RevisionKey

/-- Keys are ordered by workspace, then number, then version. -/
def compare (a b : RevisionKey) : Ordering :=
  ((Ord.compare a.workspace b.workspace).then (Ord.compare a.number b.number)).then
    (Ord.compare a.version b.version)

instance : Ord RevisionKey := ⟨compare⟩

/-- The key as it is shown. -/
def toText (k : RevisionKey) : String :=
  k.workspace ++ "/" ++ k.number ++ "-" ++ k.version

end RevisionKey

/-- A version of a part. -/
structure Revision where
  master : Master
  version : String
  author : Author
  description : String
  creationDate : Option Instant
  status : Status
  lifeCycleState : String
  /-- The labels in order, without repetitions. -/
  tags : List String
  checkoutDate : Option Instant
  iterations : List Iteration
deriving DecidableEq, Inhabited

namespace Revision

/-- What identifies this revision. -/
def key (r : Revision) : RevisionKey :=
  ⟨r.master.workspace, r.master.number, r.version⟩

/-- Whether an iteration is the last one: its number is the number of iterations. -/
def isLast (r : Revision) (i : Iteration) : Bool :=
  i.number == r.iterations.length

/-- The last of the iterations, in the order they are held, that is checked in. -/
def lastCheckedIn? (r : Revision) : Option Iteration :=
  r.iterations.reverse.find? (·.checkInDate.isSome)

end Revision

/-- One state of the path data. -/
structure PathIteration where
  number : Nat
  note : String
  attributes : List Attribute
deriving DecidableEq, Inhabited

/-- What is known of one place in a product. -/
structure PathData where
  id : Int
  path : String
  iterations : List PathIteration
deriving DecidableEq, Inhabited

namespace PathData

/-- Whether an iteration is the last one: its number is the number of iterations. -/
def isLast (p : PathData) (i : PathIteration) : Bool :=
  i.number == p.iterations.length

end PathData

/-- An iteration of a product instance, with the path data attached to it. -/
structure ProductInstance where
  serialNumber : String
  configurationItem : String
  iteration : Nat
  pathDataIds : List Int
deriving DecidableEq, Repr, Inhabited

/-- All entities at hand. -/
structure Dataset where
  revisions : List Revision := []
  pathData : List PathData := []
  instances : List ProductInstance := []
deriving Inhabited

namespace Dataset

/-- The product instance with a serial number, in its highest iteration; of several, the last. -/
def instance? (d : Dataset) (serialNumber : String) : Option ProductInstance :=
  (d.instances.filter (·.serialNumber == serialNumber)).foldl
    (fun best i =>
      match best with
      | some b => if b.iteration ≤ i.iteration then some i else best
      | none => some i)
    none

end Dataset

end PartQuery
