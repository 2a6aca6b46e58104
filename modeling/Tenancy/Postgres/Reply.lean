import Tenancy.Database
import Tenancy.Postgres.Statement

/-! # Replies of a server

What a server answers to a statement, and how rows are read as values of the domain.  A row names
its columns and their types; a column that must have a value and has none is a failure, and so is a
column that is missing or has a value of a type that does not fit.  The first failure, in the order
in which a record lists its columns, counts. -/

namespace Tenancy.Postgres

/-- A type of a column. -/
inductive ColumnType where
  | bool
  | int2
  | int4
  | int8
  | text
  | varchar
  | name
  | uuid
  | timestamptz
  | textArray
  deriving DecidableEq

namespace ColumnType

/-- All types. -/
def all : List ColumnType :=
  [bool, int2, int4, int8, text, varchar, name, uuid, timestamptz, textArray]

/-- How messages show a type. -/
def shown : ColumnType → String
  | bool => "BOOL"
  | int2 => "INT2"
  | int4 => "INT4"
  | int8 => "INT8"
  | text => "TEXT"
  | varchar => "VARCHAR"
  | name => "NAME"
  | uuid => "UUID"
  | timestamptz => "TIMESTAMPTZ"
  | textArray => "TEXT[]"

/-- The type of a name, in any case of its letters. -/
def ofName? (n : String) : Option ColumnType := all.find? fun t => Text.equalsIgnoringCase t.shown n

end ColumnType

/-- A column of a reply. -/
structure Column where
  name : String
  type : ColumnType
  deriving DecidableEq

/-- A row with its columns. -/
structure Row where
  columns : List Column
  values : List Value

/-- An answer to a statement. -/
inductive Reply where
  | rows (columns : List Column) (rows : List (List Value))
  /-- So many rows were changed. -/
  | affected (count : Nat)

namespace Reply

/-- The rows of an answer. -/
def rowList : Reply → List Row
  | rows columns rs => rs.map fun values => ⟨columns, values⟩
  | affected _ => []

/-- How many rows an answer is about. -/
def count : Reply → Nat
  | rows _ rs => rs.length
  | affected n => n

/-- The row of an answer that must have one. -/
def one (r : Reply) : Except DbError Row :=
  match r.rowList with
  | row :: _ => .ok row
  | [] => .error .rowNotFound

end Reply

/-! ## Values of columns -/

/-- How a value of a column is read. -/
structure Reader (α : Type) where
  /-- How messages show what is read. -/
  shown : String
  /-- The types of the columns that it is read from; the first is its own. -/
  types : List ColumnType
  read : Value → Option α

namespace Reader

def bool : Reader Bool where
  shown := "bool"
  types := [.bool]
  read
    | .bool b => some b
    | _ => none

def bigint : Reader Int where
  shown := "i64"
  types := [.int8]
  read
    | .bigint n => some n
    | _ => none

def text : Reader String where
  shown := "alloc::string::String"
  types := [.text, .varchar, .name]
  read
    | .text s => some s
    | _ => none

def uuid : Reader TenantId where
  shown := "uuid::Uuid"
  types := [.uuid]
  read
    | .uuid t => some t
    | _ => none

def timestamp : Reader Timestamp where
  shown := "chrono::datetime::DateTime<chrono::offset::utc::Utc>"
  types := [.timestamptz]
  read
    | .timestamp t => some t
    | _ => none

/-- The items of an array that all have a value. -/
def texts : Reader (List String) where
  shown := "alloc::vec::Vec<alloc::string::String>"
  types := [.textArray]
  read
    | .textArray items => items.mapM id
    | _ => none

variable {α : Type}

/-- Reads a column that may have no value. -/
def optional (r : Reader α) : Reader (Option α) where
  shown := "core::option::Option<" ++ r.shown ++ ">"
  types := r.types
  read
    | .null => some none
    | v => (r.read v).map some

/-- Reads the value of a column. -/
def decode (r : Reader α) (ref : ColumnRef) (type : ColumnType) (v : Value) : Except DbError α :=
  if v ≠ .null ∧ type ∉ r.types then
    .error (.mismatchedColumn ref r.shown ((r.types.head?.map ColumnType.shown).getD "") type.shown)
  else match r.read v with
    | some a => .ok a
    | none => .error (.nullColumn ref)

end Reader

namespace Row

variable {α : Type}

/-- Reads the column of a name; of several, the last. -/
def get (r : Row) (reader : Reader α) (name : String) : Except DbError α :=
  match (r.columns.zip r.values).reverse.find? (·.1.name == name) with
  | some (column, v) => reader.decode (.named name) column.type v
  | none => .error (.missingColumn name)

/-- Reads the first column. -/
def first (r : Row) (reader : Reader α) : Except DbError α :=
  match r.columns.zip r.values with
  | (column, v) :: _ => reader.decode (.position 0) column.type v
  | [] => .error (.columnOutOfBounds 0 0)

/-! ## Records -/

/-- Reads a tenant's row; absent subscriptions are none. -/
def tenantRecord (r : Row) : Except DbError TenantRecord := do
  let tenant ← r.get .uuid "tenant_id"
  let slug ← r.get .text "tenant_slug"
  let displayName ← r.get .text "tenant_name"
  let contactEmail ← r.get (.optional .text) "contact_email"
  let modules ← r.get (.optional .texts) "modules_subscribed"
  let active ← r.get .bool "is_active"
  let finance ← r.get (.optional .text) "finance_schema"
  let operations ← r.get (.optional .text) "operations_schema"
  let inventory ← r.get (.optional .text) "inventory_schema"
  let hrms ← r.get (.optional .text) "hrms_schema"
  let modifiedAt ← r.get (.optional .timestamp) "modified_at"
  return { tenant, slug, displayName, contactEmail, active, modules := modules.getD []
           schemas := { finance, operations, inventory, hrms }, modifiedAt }

/-- Reads a row of the audit log up to its status, which may be a text that stores none. -/
def auditColumns (r : Row) : Except DbError (String × (Audit.Status → Audit.Entry)) := do
  let id ← r.get .bigint "id"
  let tenant ← r.get .uuid "tenant_id"
  let moduleName ← r.get .text "module_name"
  let action ← r.get .text "action"
  let schema ← r.get .text "schema_name"
  let status ← r.get .text "status"
  let error ← r.get (.optional .text) "error_message"
  let actor ← r.get (.optional .text) "provisioned_by"
  let createdAt ← r.get .timestamp "created_at"
  return (status, fun status =>
    { id, tenant, moduleName, action, schema, status, error, actor, createdAt })

/-- The row of the audit log, once its status is understood. -/
def auditEntry (columns : String × (Audit.Status → Audit.Entry)) : Except DbError Audit.Entry :=
  match Audit.Status.ofName? columns.1 with
  | some status => .ok (columns.2 status)
  | none => .error (.decode (Audit.Status.unknownMessage columns.1))

/-- Reads rows of the audit log: the columns of all rows first, then their statuses. -/
def auditEntries (rows : List Row) : Except DbError (List Audit.Entry) := do
  (← rows.mapM auditColumns).mapM auditEntry

end Row

end Tenancy.Postgres
