/-! # System tables

Every database answers for some tables that nobody made: its catalogue, a table for each of its
parameters, those that describe other tables, and those that take a document apart. They are there
for introspection only, under names in any case of ASCII letters. -/

namespace BinaryDiff

/-- Whether two names are the same but for the case of ASCII letters. -/
def sameName (a b : String) : Bool :=
  a.toList.map Char.toLower == b.toList.map Char.toLower

/-- Some tables of the same form. -/
structure SystemTables where
  names : List String
  columns : List String
deriving DecidableEq, Repr

namespace SystemTables

/-- The catalogue of the tables that were made. -/
def catalogue : SystemTables :=
  ⟨["sqlite_master", "sqlite_schema", "sqlite_temp_master", "sqlite_temp_schema"],
    ["type", "name", "tbl_name", "rootpage", "sql"]⟩

/-- The tables that take a document apart. -/
def documents : SystemTables :=
  ⟨["json_each", "json_tree"],
    ["key", "value", "type", "atom", "id", "parent", "fullkey", "path"]⟩

/-- The tables that take a text apart, and those about storage and running statements. -/
def inspections : List SystemTables :=
  [⟨["fts3tokenize"], ["input", "token", "start", "end", "position"]⟩,
   ⟨["dbstat"],
    ["name", "path", "pageno", "pagetype", "ncell", "payload", "unused", "mx_payload", "pgoffset",
     "pgsize"]⟩,
   ⟨["sqlite_stmt"],
    ["sql", "ncol", "ro", "busy", "nscan", "nsort", "naidx", "nstep", "reprep", "run", "mem"]⟩]

/-- What stands before the name of a parameter in the name of its table. -/
def parameterMark : String := "pragma_"

/-- The parameters whose tables have one column, named like the parameter. -/
def plainParameters : List String :=
  ["analysis_limit", "application_id", "auto_vacuum", "automatic_index", "cache_size",
   "cache_spill", "cell_size_check", "checkpoint_fullfsync", "compile_options", "count_changes",
   "data_version", "defer_foreign_keys", "empty_result_callbacks", "encoding", "foreign_keys",
   "freelist_count", "full_column_names", "fullfsync", "hard_heap_limit",
   "ignore_check_constraints", "integrity_check", "journal_mode", "journal_size_limit",
   "legacy_alter_table", "locking_mode", "max_page_count", "optimize", "page_count", "page_size",
   "query_only", "quick_check", "read_uncommitted", "recursive_triggers",
   "reverse_unordered_selects", "schema_version", "secure_delete", "short_column_names",
   "soft_heap_limit", "synchronous", "temp_store", "threads", "trusted_schema", "user_version",
   "writable_schema"]

/-- The other parameters, with the columns of their tables. -/
def wideParameters : List (String × List String) :=
  [("busy_timeout", ["timeout"]),
   ("collation_list", ["seq", "name"]),
   ("database_list", ["seq", "name", "file"]),
   ("default_cache_size", ["cache_size"]),
   ("foreign_key_check", ["table", "rowid", "parent", "fkid"]),
   ("foreign_key_list",
    ["id", "seq", "table", "from", "to", "on_update", "on_delete", "match"]),
   ("function_list", ["name", "builtin", "type", "enc", "narg", "flags"]),
   ("index_info", ["seqno", "cid", "name"]),
   ("index_list", ["seq", "name", "unique", "origin", "partial"]),
   ("index_xinfo", ["seqno", "cid", "name", "desc", "coll", "key"]),
   ("module_list", ["name"]),
   ("pragma_list", ["name"]),
   ("table_info", ["cid", "name", "type", "notnull", "dflt_value", "pk"]),
   ("table_list", ["schema", "name", "type", "ncol", "wr", "strict"]),
   ("table_xinfo", ["cid", "name", "type", "notnull", "dflt_value", "pk", "hidden"])]

/-- All system tables. -/
def all : List SystemTables :=
  [catalogue, documents] ++ inspections
    ++ (plainParameters.map fun name => ⟨[parameterMark ++ name], [name]⟩)
    ++ wideParameters.map fun parameter => ⟨[parameterMark ++ parameter.1], parameter.2⟩

/-- The columns of the system table of a name; none if there is no such table. -/
def columnNames (name : String) : List String :=
  ((all.find? fun tables => tables.names.any (sameName name)).map columns).getD []

end SystemTables
end BinaryDiff
