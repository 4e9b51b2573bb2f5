/-!
# Faults of the engine

What the engine can find wrong with a statement, either while reading it or while running it.

## Main definitions

* `Fault` — the causes
* `Fault.message`, `Fault.code` — wording and result code
* `Fault.offset?` — where in the statement the fault lies, in bytes, if that is known
-/

namespace NamedSql.Sql

/-- The keys whose values may not repeat. The kind of a key decides the result code of its fault. -/
inductive KeyKind where
  /-- A primary key, of which a table has at most one. -/
  | primary
  /-- A unique key that is not the primary one, of which there may be several. -/
  | unique
  /-- The rowid of a table whose primary key is not the rowid. -/
  | rowid
deriving DecidableEq, Repr

/-- What is wrong with a statement, with all that its message tells of it. -/
inductive Fault where
  /-- A token cannot stand where it stands, whatever may follow it. -/
  | syntaxError (near : String) (offset : Nat)
  /-- Characters that make no token, found where the grammar reaches them. -/
  | unrecognizedToken (text : String) (offset : Nat)
  /-- The statement breaks off where more of it is wanted. -/
  | incomplete
  /-- The number of a parameter is out of range, being zero or too large. -/
  | parameterNumber (offset : Nat)
  | tooManyParameters (offset : Nat)
  | tooManyArguments (function : String) (offset : Nat)
  /-- Parentheses, operators and queries are nested too deeply to be read. -/
  | nestedTooDeeply
  /-- An expression has too many levels, each of which holds the next. -/
  | tooManyLevels
  | tooManyResults
  | tooManyColumns (table : String)
  | hexTooBig (written : String) (offset : Nat)
  | noSuchTable (table : String)
  /-- A query without a table returns every column of its table. -/
  | noTable
  | noSuchColumn (column : String) (offset : Option Nat)
  | noSuchFunction (function : String) (offset : Nat)
  | argumentCount (function : String) (offset : Nat)
  /-- An aggregate stands where there is nothing to aggregate, as in the values of a single row. -/
  | misusedAggregate (function : String) (offset : Nat)
  /-- An aggregate stands where the rows are not known yet, as in what selects them. -/
  | earlyAggregate (function : String) (offset : Nat)
  /-- An aggregate is referred to by a name where there is nothing to aggregate. -/
  | aliasedAggregate (label : String)
  /-- A change returns the columns of a table by its name, which only a query may. -/
  | returnedTable
  /-- What a condition of a table must not contain, since it would be about more than a row. -/
  | prohibitedInCheck (what : String) (offset : Option Nat)
  | reservedObjectName (name : String)
  | tableExists (table : String) (offset : Option Nat)
  | repeatedColumn (column : String)
  | severalPrimaryKeys (table : String)
  /-- A column that is added to a table must not be a key, for the rows that are there have no
  values of their own in it. -/
  | addedKey (kind : KeyKind)
  /-- A column that is added to a table with rows must be something in them. -/
  | addedNull
  /-- A column that is added to a table with rows must not refer to anything in them. -/
  | addedReference
  /-- A column that is added to a table must not break a condition in its rows. -/
  | addedCheck
  | noSuchTarget (table column : String)
  /-- A row does not have one value for each column of the table, and no columns are listed. -/
  | tableValues (table : String) (columns values : Nat)
  /-- A row does not have one value for each listed column. -/
  | listedValues (values columns : Nat)
  | unevenRows
  /-- A query that stands for a value returns several columns, of which none is preferred. -/
  | subqueryColumns (columns : Nat)
  /-- A foreign key refers to columns that are no key, so it would not be known which row is meant.
  -/
  | keyMismatch (child parent : String)
  | orderTerm (position columns : Nat) (offset : Option Nat)
  | notUnique (kind : KeyKind) (table : String) (columns : List String)
  | nullValue (table column : String)
  | failedCheck (condition : String)
  | foreignKey
  | datatypeMismatch
  /-- A registered function failed, with a message of its own. -/
  | functionFailed (message : String)
  | nestedTransaction
  | noTransactionToCommit
  | noTransactionToRollBack
  | noSuchSavepoint (name : String)
  | notADatabase
  /-- The journal mode cannot become, or cannot stop being, a write-ahead log. -/
  | journalModeFixed (into : Bool)
  | readOnly
  | cannotOpen
deriving DecidableEq, Repr

namespace Fault

/-- An ordinal number in a message about the terms of an ordering. -/
def ordinal (n : Nat) : String :=
  let ending :=
    if n / 10 % 10 = 1 then "th"
    else if n % 10 = 1 then "st"
    else if n % 10 = 2 then "nd"
    else if n % 10 = 3 then "rd"
    else "th"
  toString n ++ ending

/-- The wording of a fault. Names are told as the statement writes them or as the table was defined.
-/
def message : Fault → String
  | .syntaxError near _ => "near \"" ++ near ++ "\": syntax error"
  | .unrecognizedToken text _ => "unrecognized token: \"" ++ text ++ "\""
  | .incomplete => "incomplete input"
  | .parameterNumber _ => "variable number must be between ?1 and ?32766"
  | .tooManyParameters _ => "too many SQL variables"
  | .tooManyArguments function _ => "too many arguments on function " ++ function
  | .nestedTooDeeply => "parser stack overflow"
  | .tooManyLevels => "Expression tree is too large (maximum depth 1000)"
  | .tooManyResults => "too many columns in result set"
  | .tooManyColumns table => "too many columns on " ++ table
  | .hexTooBig written _ => "hex literal too big: " ++ written
  | .noSuchTable table => "no such table: " ++ table
  | .noTable => "no tables specified"
  | .noSuchColumn column _ => "no such column: " ++ column
  | .noSuchFunction function _ => "no such function: " ++ function
  | .argumentCount function _ => "wrong number of arguments to function " ++ function ++ "()"
  | .misusedAggregate function _ => "misuse of aggregate function " ++ function ++ "()"
  | .earlyAggregate function _ => "misuse of aggregate: " ++ function ++ "()"
  | .aliasedAggregate label => "misuse of aliased aggregate " ++ label
  | .returnedTable => "RETURNING may not use \"TABLE.*\" wildcards"
  | .prohibitedInCheck what _ => what ++ " prohibited in CHECK constraints"
  | .reservedObjectName name => "object name reserved for internal use: " ++ name
  | .tableExists table _ => "table " ++ table ++ " already exists"
  | .repeatedColumn column => "duplicate column name: " ++ column
  | .severalPrimaryKeys table => "table \"" ++ table ++ "\" has more than one primary key"
  | .addedKey .primary => "Cannot add a PRIMARY KEY column"
  | .addedKey _ => "Cannot add a UNIQUE column"
  | .addedNull => "Cannot add a NOT NULL column with default value NULL"
  | .addedReference => "Cannot add a REFERENCES column with non-NULL default value"
  | .addedCheck => "CHECK constraint failed"
  | .noSuchTarget table column => "table " ++ table ++ " has no column named " ++ column
  | .tableValues table columns values =>
    "table " ++ table ++ " has " ++ toString columns ++ " columns but " ++ toString values ++
      " values were supplied"
  | .listedValues values columns =>
    toString values ++ " values for " ++ toString columns ++ " columns"
  | .unevenRows => "all VALUES must have the same number of terms"
  | .subqueryColumns columns =>
    "sub-select returns " ++ toString columns ++ " columns - expected 1"
  | .keyMismatch child parent =>
    "foreign key mismatch - \"" ++ child ++ "\" referencing \"" ++ parent ++ "\""
  | .orderTerm position columns _ =>
    ordinal position ++ " ORDER BY term out of range - should be between 1 and " ++
      toString columns
  | .notUnique _ table columns =>
    "UNIQUE constraint failed: " ++ ", ".intercalate (columns.map fun c => table ++ "." ++ c)
  | .nullValue table column => "NOT NULL constraint failed: " ++ table ++ "." ++ column
  | .failedCheck condition => "CHECK constraint failed: " ++ condition
  | .foreignKey => "FOREIGN KEY constraint failed"
  | .datatypeMismatch => "datatype mismatch"
  | .functionFailed message => message
  | .nestedTransaction => "cannot start a transaction within a transaction"
  | .noTransactionToCommit => "cannot commit - no transaction is active"
  | .noTransactionToRollBack => "cannot rollback - no transaction is active"
  | .noSuchSavepoint name => "no such savepoint: " ++ name
  | .notADatabase => "file is not a database"
  | .journalModeFixed into =>
    "cannot change " ++ (if into then "into" else "out of") ++
      " wal mode from within a transaction"
  | .readOnly => "attempt to write a readonly database"
  | .cannotOpen => "unable to open database file"

/-- The result code of a fault. The low byte of the code of a constraint is nineteen. -/
def code : Fault → Int
  | .notUnique .primary _ _ => 1555
  | .notUnique .unique _ _ => 2067
  | .notUnique .rowid _ _ => 2579
  | .nullValue _ _ => 1299
  | .failedCheck _ => 275
  | .foreignKey => 787
  | .datatypeMismatch => 20
  | .notADatabase => 26
  | .readOnly => 8
  | .cannotOpen => 14
  | _ => 1

/-- Where in the statement the fault lies, in bytes, if that is known. -/
def offset? : Fault → Option Nat
  | .syntaxError _ offset | .unrecognizedToken _ offset | .parameterNumber offset
  | .tooManyParameters offset | .tooManyArguments _ offset | .hexTooBig _ offset
  | .noSuchFunction _ offset | .argumentCount _ offset | .misusedAggregate _ offset
  | .earlyAggregate _ offset => some offset
  | .noSuchColumn _ offset | .tableExists _ offset | .orderTerm _ _ offset
  | .prohibitedInCheck _ offset => offset
  | _ => none

/-- Whether a constraint of a table was violated. -/
def isConstraint : Fault → Bool
  | .notUnique .. | .nullValue .. | .failedCheck _ | .foreignKey => true
  | _ => false

theorem isConstraint_iff (f : Fault) : f.isConstraint = true ↔ f.code % 256 = 19 := by
  cases f with
  | notUnique kind _ _ => cases kind <;> simp [isConstraint, code]
  | _ => simp [isConstraint, code]

end Fault

end NamedSql.Sql
