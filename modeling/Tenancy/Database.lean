/-! # Database failures

What can go wrong between the service and a database, and how each failure reads. -/

namespace Tenancy

/-- How a failure names a column of a reply. -/
inductive ColumnRef where
  | named (name : String)
  | position (index : Nat)
  deriving DecidableEq

/-- A column as a failure shows it: a name in quotes, a position as a number. -/
def ColumnRef.text : ColumnRef → String
  | named name => "\"" ++ name ++ "\""
  | position index => String.ofList (Nat.toDigits 10 index)

/-- A failed database call. -/
inductive DbError where
  /-- The other side broke the protocol. -/
  | protocol (detail : String)
  /-- One row was required and none came. -/
  | rowNotFound
  /-- No connection became free in time. -/
  | poolTimedOut
  /-- The pool was closed before. -/
  | poolClosed
  /-- A background worker is gone. -/
  | workerCrashed
  /-- A value could not be understood. -/
  | decode (detail : String)
  /-- The connection is configured wrongly. -/
  | configuration (detail : String)
  /-- The connection broke. -/
  | io (detail : String)
  /-- The server refused the statement or the login. -/
  | refused (detail : String)
  /-- A column that must have a value had none. -/
  | nullColumn (column : ColumnRef)
  /-- A column has a value of a type that does not fit what is read. -/
  | mismatchedColumn (column : ColumnRef) (wanted : String) (wantedType foundType : String)
  /-- The reply has too few columns. -/
  | columnOutOfBounds (index size : Nat)
  /-- The reply lacks a column. -/
  | missingColumn (name : String)
  deriving DecidableEq

namespace DbError

/-- The text of a failure. -/
def message : DbError → String
  | protocol detail => "encountered unexpected or invalid data: " ++ detail
  | rowNotFound => "no rows returned by a query that expected to return at least one row"
  | poolTimedOut => "pool timed out while waiting for an open connection"
  | poolClosed => "attempted to acquire a connection on a closed pool"
  | workerCrashed => "attempted to communicate with a crashed background worker"
  | decode detail => "error occurred while decoding: " ++ detail
  | configuration detail => "error with configuration: " ++ detail
  | io detail => "error communicating with database: " ++ detail
  | refused detail => "error returned from database: " ++ detail
  | nullColumn column =>
    "error occurred while decoding column " ++ column.text ++
      ": unexpected null; try decoding as an `Option`"
  | mismatchedColumn column wanted wantedType foundType =>
    "error occurred while decoding column " ++ column.text ++ ": mismatched types; Rust type `" ++
      wanted ++ "` (as SQL type `" ++ wantedType ++ "`) is not compatible with SQL type `" ++
      foundType ++ "`"
  | columnOutOfBounds index size =>
    "column index out of bounds: the len is " ++ String.ofList (Nat.toDigits 10 size) ++
      ", but the index is " ++ String.ofList (Nat.toDigits 10 index)
  | missingColumn name => "no column found for name: " ++ name

end DbError

/-- The two database clusters: the shared tenant registry and the database of this service. -/
inductive Cluster where
  | registry
  | operations
  deriving DecidableEq, Repr

namespace Cluster

/-- How messages name a cluster. -/
def name : Cluster → String
  | registry => "tenant registry"
  | operations => "operations"

/-- Only the operations cluster runs tenant sessions, so only its connections have their search
    path restored when they come back. -/
def resetsSearchPath : Cluster → Bool
  | registry => false
  | operations => true

end Cluster

end Tenancy
