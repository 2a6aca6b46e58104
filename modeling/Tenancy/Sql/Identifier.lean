/-! # Delimited identifiers

A name put between double quotes, with every double quote inside it written twice, is one
identifier whatever characters it has.  `readQuoted?` is the reader of that form. -/

namespace Tenancy.Sql

/-- The characters of a name with every double quote written twice. -/
def doubleQuotes (cs : List Char) : List Char :=
  cs.flatMap fun c => if c = '"' then ['"', '"'] else [c]

/-- A name as a delimited identifier. -/
def quoteIdent (name : String) : String :=
  String.ofList ('"' :: doubleQuotes name.toList ++ ['"'])

/-- A table name qualified by its schema. -/
def qualified (schema table : String) : String := quoteIdent schema ++ "." ++ quoteIdent table

/-- The statement that makes `schema`, then the shared schema, the places where names are looked
    up. -/
def searchPathStatement (schema : String) : String :=
  "SET search_path TO " ++ quoteIdent schema ++ ", public"

/-- The statement that restores the default places where names are looked up. -/
def resetSearchPath : String := "RESET search_path"

/-- Reads the inside of a delimited identifier up to the closing quote. -/
def readInside? : List Char → Option (List Char × List Char)
  | [] => none
  | '"' :: '"' :: rest => (readInside? rest).map fun r => ('"' :: r.1, r.2)
  | '"' :: rest => some ([], rest)
  | c :: rest => (readInside? rest).map fun r => (c :: r.1, r.2)

/-- Reads one delimited identifier from the front: its name and what follows it. -/
def readQuoted? : List Char → Option (List Char × List Char)
  | '"' :: rest => readInside? rest
  | _ => none

end Tenancy.Sql
