import NamedSql.Query.Kind

/-!
# Errors

Everything that can go wrong with a registry of queries, as causes. The wording, the stable code
and the classification of each are functions on it.

## Main definitions

* `Error` — the causes
* `ErrorKind`, `Error.kind` — their classification, with a stable code for each class
* `Error.message` — the wording
* `Error.rootCause` — the cause inside the wrappers that transactions put around it

## Main results

* `Error.rootCause_ne_wrapped` — a root cause is not itself wrapped
* `Error.queryName_rootCause`, `Error.engineCode_rootCause` — the accessors see through wrappers
-/

namespace NamedSql

/-- The classes of errors. A class has a name and a code of its own, and says nothing of the query,
the line or the cause. -/
inductive ErrorKind where
  | parseStructure
  | unknownKind
  | invalidArgument
  | reservedName
  | duplicateQueryName
  | prepareFailed
  | duplicateFunction
  | notFound
  | kindMismatch
  | queryExecution
  | transactionAborted
  | aborted
  | persistence
  | io
  | invalidConfig
deriving DecidableEq, Repr, Inhabited

namespace ErrorKind

/-- Every class: first those of loading, then those of calling, of transactions and of the
surroundings. -/
def values : List ErrorKind :=
  [.parseStructure, .unknownKind, .invalidArgument, .reservedName, .duplicateQueryName,
    .prepareFailed, .duplicateFunction, .notFound, .kindMismatch, .queryExecution,
    .transactionAborted, .aborted, .persistence, .io, .invalidConfig]

/-- The name of a class as it is shown and logged. -/
def name : ErrorKind → String
  | .parseStructure => "ParseStructure"
  | .unknownKind => "UnknownKind"
  | .invalidArgument => "InvalidArgument"
  | .reservedName => "ReservedName"
  | .duplicateQueryName => "DuplicateQueryName"
  | .prepareFailed => "PrepareFailed"
  | .duplicateFunction => "DuplicateFunction"
  | .notFound => "NotFound"
  | .kindMismatch => "KindMismatch"
  | .queryExecution => "QueryExecution"
  | .transactionAborted => "TransactionAborted"
  | .aborted => "Aborted"
  | .persistence => "Persistence"
  | .io => "Io"
  | .invalidConfig => "InvalidConfig"

/-- The code of a class, which stays the same whatever the wording, so that callers may rely on it.
-/
def code : ErrorKind → String
  | .parseStructure => "ERR_PARSE_STRUCTURE"
  | .unknownKind => "ERR_UNKNOWN_KIND"
  | .invalidArgument => "ERR_INVALID_ARGUMENT"
  | .reservedName => "ERR_RESERVED_NAME"
  | .duplicateQueryName => "ERR_DUPLICATE_QUERY_NAME"
  | .prepareFailed => "ERR_PREPARE_FAILED"
  | .duplicateFunction => "ERR_DUPLICATE_FUNCTION"
  | .notFound => "ERR_NOT_FOUND"
  | .kindMismatch => "ERR_KIND_MISMATCH"
  | .queryExecution => "ERR_QUERY_EXECUTION"
  | .transactionAborted => "ERR_TRANSACTION_ABORTED"
  | .aborted => "ERR_ABORTED"
  | .persistence => "ERR_PERSISTENCE"
  | .io => "ERR_IO"
  | .invalidConfig => "ERR_INVALID_CONFIG"

/-- Whether errors of the class are raised while queries are loaded, and so concern their author
and not their caller. -/
def isAuthoring : ErrorKind → Bool
  | .parseStructure | .unknownKind | .invalidArgument | .reservedName | .duplicateQueryName
  | .prepareFailed | .duplicateFunction => true
  | _ => false

end ErrorKind

/-- What can go wrong with a registry, each with what it concerns: the name of a query, the line of
a header, an operation, a cause in words. -/
inductive Error where
  /-- The annotated text is malformed; the line is the first at which it cannot be read on. -/
  | parseStructure (line : Nat) (reason : String)
  /-- A header names a kind that does not exist. -/
  | unknownKind (name : String) (kind : String)
  /-- A header gives an argument to a kind that takes none. -/
  | invalidArgument (name : String) (kind : QueryKind)
  /-- A query would take the name of an operation of the registry. -/
  | reservedName (name : String)
  /-- A query of that name is there already. -/
  | duplicateQueryName (name : String)
  /-- The engine refuses the statement, or the body is not exactly one statement; only the engine
  gives a code. -/
  | prepareFailed (name : String) (line : Nat) (cause : String) (engineCode : Option Int)
  /-- A function of that name is there already. -/
  | duplicateFunction (name : String)
  /-- There is no query of that name. -/
  | unknownQuery (name : String)
  /-- A query was called as if it had another shape. -/
  | kindMismatch (name : String) (expected : String) (actual : String)
  /-- The statement of a query failed. -/
  | queryExecution (name : String) (cause : String) (engineCode : Option Int)
  /-- The body of a transaction failed, and it was rolled back. The error of the body is kept as the
  source of this one. -/
  | transactionAborted (source : Error)
  /-- A unit inside a transaction had failed, so the transaction was rolled back. -/
  | rollbackOnly
  /-- The caller gave a transaction up. -/
  | aborted (reason : String)
  /-- The connection failed: opening, schema, begin, commit. -/
  | persistence (op : String) (cause : String)
  /-- A file could not be read. -/
  | io (op : String) (cause : String)
  /-- The configuration could not be read. -/
  | invalidConfig (reason : String)
deriving DecidableEq, Repr, Inhabited

namespace Error

/-- The class of an error. -/
def kind : Error → ErrorKind
  | .parseStructure .. => .parseStructure
  | .unknownKind .. => .unknownKind
  | .invalidArgument .. => .invalidArgument
  | .reservedName .. => .reservedName
  | .duplicateQueryName .. => .duplicateQueryName
  | .prepareFailed .. => .prepareFailed
  | .duplicateFunction .. => .duplicateFunction
  | .unknownQuery .. => .notFound
  | .kindMismatch .. => .kindMismatch
  | .queryExecution .. => .queryExecution
  | .transactionAborted .. => .transactionAborted
  | .rollbackOnly => .transactionAborted
  | .aborted .. => .aborted
  | .persistence .. => .persistence
  | .io .. => .io
  | .invalidConfig .. => .invalidConfig

/-- The code of an error's class, the same for every error of the class. -/
def code (e : Error) : String := e.kind.code

/-- The wording of an error, in which everything stands that the error carries, but for the code of
the engine. -/
def message : Error → String
  | .parseStructure line reason =>
    "Malformed query annotations at line " ++ toString line ++ ": " ++ reason
  | .unknownKind name kind => "Unknown kind of query for '" ++ name ++ "': " ++ kind
  | .invalidArgument name kind =>
    "Query '" ++ name ++ "' of kind '" ++ kind.identifier ++ "' does not take an argument"
  | .reservedName name => "Query name '" ++ name ++ "' is reserved by the registry"
  | .duplicateQueryName name => "Query name '" ++ name ++ "' is already registered"
  | .prepareFailed name line cause _ =>
    "Failed to prepare query '" ++ name ++ "' (line " ++ toString line ++ "): " ++ cause
  | .duplicateFunction name => "SQL function '" ++ name ++ "' is already registered"
  | .unknownQuery name => "No query named '" ++ name ++ "'"
  | .kindMismatch name expected actual =>
    "Query '" ++ name ++ "' is declared ':" ++ actual ++ "', not ':" ++ expected ++ "'"
  | .queryExecution name cause _ => "Query '" ++ name ++ "' failed: " ++ cause
  | .transactionAborted source => "Transaction aborted: " ++ source.message
  | .rollbackOnly => "Transaction marked rollback-only by a failed nested unit"
  | .aborted reason => "Aborted: " ++ reason
  | .persistence op cause => "Database error in '" ++ op ++ "': " ++ cause
  | .io op cause => "IO error in '" ++ op ++ "': " ++ cause
  | .invalidConfig reason => "Invalid registry configuration: " ++ reason

/-- The query that an error concerns, if it concerns one. An error that wraps another one concerns
what that one does. -/
def queryName : Error → Option String
  | .unknownKind name _ | .invalidArgument name _ | .reservedName name | .duplicateQueryName name
  | .prepareFailed name _ _ _ | .unknownQuery name | .kindMismatch name _ _
  | .queryExecution name _ _ => some name
  | .transactionAborted source => source.queryName
  | _ => none

/-- The engine's result code behind an error, if there is one. It is looked for inside of wrappers
too. -/
def engineCode : Error → Option Int
  | .prepareFailed _ _ _ code | .queryExecution _ _ code => code
  | .transactionAborted source => source.engineCode
  | _ => none

/-- The result code of every constraint failure, which is also the low byte of the codes that
tell the constraints apart. -/
def constraintCode : Int := 19

/-- Whether a constraint was violated: a key, a unique or a foreign one, a column that may not be
null, or a check. -/
def isConstraintViolation (e : Error) : Bool :=
  match e.engineCode with
  | some code => code % 256 == constraintCode
  | none => false

/-- The cause inside the wrappers of transactions, however many there are; every other error is its
own cause. -/
def rootCause : Error → Error
  | .transactionAborted source => source.rootCause
  | e => e

/-- Puts the wrapper of a failed transaction around an error that has none, so that an error which
passes through several transactions is wrapped once. -/
def wrap : Error → Error
  | .transactionAborted source => .transactionAborted source
  | e => .transactionAborted e

theorem rootCause_ne_wrapped (e source : Error) : e.rootCause ≠ .transactionAborted source := by
  induction e with
  | transactionAborted s ih => exact ih
  | _ => simp [rootCause]

theorem queryName_rootCause (e : Error) : e.rootCause.queryName = e.queryName := by
  induction e with
  | transactionAborted s ih => exact ih
  | _ => rfl

theorem engineCode_rootCause (e : Error) : e.rootCause.engineCode = e.engineCode := by
  induction e with
  | transactionAborted s ih => exact ih
  | _ => rfl

end Error

end NamedSql
