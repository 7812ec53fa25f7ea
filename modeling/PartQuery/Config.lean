import PartQuery.Calendar.Scan
import PartQuery.Calendar.Writing
import PartQuery.Json.Reader
import PartQuery.Json.Value
import PartQuery.Text.Lowercase

/-!
# Configuration

The offset of dates that name none, the tables that entities are stored in, and from how many
alternatives on a statement lists them. A configuration may leave anything out. Tables it does not
name are those of the default configuration.
-/

namespace PartQuery

open Json (Reader Slot Value)

/-- What is found under the name of a file. -/
inductive StoredFile where
  /-- Nothing. -/
  | missing
  /-- Something that cannot be read as text. -/
  | unreadable
  | text (content : String)
deriving DecidableEq, Repr

/-- The tables of entities, in the order they were first named. -/
abbrev TableMap := List (String × String)

namespace TableMap

/-- The table of an entity. -/
def get? (tables : TableMap) (entity : String) : Option String :=
  (tables.find? (·.1 == entity)).map (·.2)

/-- Names the table of an entity, in place of the one named before. -/
def put (tables : TableMap) (entity table : String) : TableMap :=
  if tables.any (·.1 == entity) then
    tables.map fun entry => if entry.1 == entity then (entity, table) else entry
  else tables ++ [(entity, table)]

/-- Names the table of an entity that has none. -/
def complete (tables : TableMap) (entity table : String) : TableMap :=
  if tables.any (·.1 == entity) then tables else tables ++ [(entity, table)]

/-- The tables that pairs name; later ones count. -/
def ofPairs (pairs : List (String × String)) : TableMap :=
  pairs.foldl (fun tables (entity, table) => tables.put entity table) []

/-- The tables of the default configuration. -/
def standard : TableMap :=
  [("PartRevision", "part_revision"),
    ("PartIteration", "part_iteration"),
    ("PartMaster", "part_master"),
    ("Account", "account"),
    ("Tag", "revision_tag"),
    ("TextAttribute", "text_attribute"),
    ("LongTextAttribute", "long_text_attribute"),
    ("DateAttribute", "date_attribute"),
    ("BooleanAttribute", "boolean_attribute"),
    ("UrlAttribute", "url_attribute"),
    ("NumberAttribute", "number_attribute"),
    ("LovAttribute", "lov_attribute"),
    ("PartNumberAttribute", "part_number_attribute"),
    ("PathDataMaster", "path_data_master"),
    ("PathDataIteration", "path_data_iteration")]

end TableMap

/-- The settings of a program that answers queries. -/
structure Config where
  /-- The offset of dates that name none. -/
  timezone : Offset := Offset.zero
  tables : TableMap := TableMap.standard
  /-- From how many alternatives on a statement lists them. -/
  listThreshold : Nat := 5
deriving DecidableEq, Inhabited

/-- Why a configuration cannot be had. -/
inductive ConfigError where
  | missing (path : String)
  | unreadable (path : String)
  | unparsable (path : String) (fault : Json.Fault)
deriving DecidableEq, Repr

namespace Config

/-- Reads the parts that a configuration gives. -/
def read : Reader Config :=
  .record {} [
    .of "timezone" .defaulted (.meaning Calendar.readOffset?) fun t c => { c with timezone := t },
    .of "tableMapping" .defaulted (.mapping .text) fun pairs c =>
      { c with tables := TableMap.ofPairs pairs },
    .of "maxOrConditionsForIn" .defaulted (.natural 64) fun n c => { c with listThreshold := n }]

/-- Names the tables that a configuration leaves out. -/
def complete (c : Config) : Config :=
  { c with
    tables := TableMap.standard.foldl (fun tables (entity, table) => tables.complete entity table)
      c.tables }

/-- Reads the JSON of a configuration. -/
def ofJson (text : String) : Except Json.Fault Config := do
  return (← Json.readDocument read text).complete

/-- The configuration that a file holds. -/
def ofFile (path : String) : StoredFile → Except ConfigError Config
  | .missing => .error (.missing path)
  | .unreadable => .error (.unreadable path)
  | .text content =>
    match ofJson content with
    | .ok config => .ok config
    | .error fault => .error (.unparsable path fault)

/-- The table of an entity; one that is not named has the name of the entity in lower case. -/
def table (c : Config) (entity : String) : String :=
  (c.tables.get? entity).getD (Text.lower entity)

/-- The JSON of a configuration. -/
def toValue (c : Config) : Value :=
  .object [
    ("timezone", .text (Calendar.writeOffset c.timezone)),
    ("tableMapping", .object (c.tables.map fun (entity, table) => (entity, .text table))),
    ("maxOrConditionsForIn", .natural c.listThreshold)]

/-- The JSON text of a configuration. -/
def toJson (c : Config) : String :=
  c.toValue.render

end Config

end PartQuery
