import SqlWire.Text.Identifier

/-! # Fixtures

A database made for a test, with the tables that the test puts there. What was made last is dropped
first.
-/

namespace SqlWire

/-- A database for a test, with its tables in the order of their making. -/
structure Fixture where
  database : String
  tables : List String
deriving Repr, DecidableEq

namespace Fixture

def create (f : Fixture) : String := "CREATE DATABASE IF NOT EXISTS " ++ Identifier.quote f.database

def drop (f : Fixture) : String := "DROP DATABASE IF EXISTS " ++ Identifier.quote f.database

def dropTables (f : Fixture) : List String :=
  f.tables.reverse.map fun table =>
    "DROP TABLE IF EXISTS " ++ Identifier.quotePair f.database table

end Fixture

end SqlWire
