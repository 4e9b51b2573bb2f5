/-!
# Reserved names

The names that no query may take: those of the operations of a registry, in both of the spellings
that annotated texts use.

## Main definitions

* `reservedNames` — the names
-/

namespace NamedSql

/-- The names of operations, which no query may take. -/
def reservedNames : List String :=
  ["open", "open_in_memory", "open_with", "register_function", "with_function", "has_function",
    "load_queries", "load_queries_str", "with_queries", "with_queries_str", "call", "run",
    "changes", "last_row_id", "get", "get_value", "all", "all_values", "one", "list", "exists",
    "insert_one", "insert_many", "transaction", "query", "names", "contains", "len", "is_empty",
    "close", "dbFunction", "module", "addFunction", "addQueries", "loadQueries",
    "registerFunction", "insertOne", "insertMany", "lastRowId"]

end NamedSql
