/-!
# Names of SQL dialects

Which dialects there are is for the toolkit that reads SQL to say. These are the ones of a common
toolkit, for where none is at hand.
-/

namespace SchemaMigration.Dialect

/-- The dialects of a common toolkit. The empty name stands for SQL that follows no dialect. -/
def commonNames : List String :=
  ["", "athena", "bigquery", "clickhouse", "databricks", "dax", "doris", "dremio", "drill", "druid",
    "duckdb", "dune", "exasol", "fabric", "hive", "materialize", "mysql", "oracle", "postgres",
    "presto", "prql", "redshift", "risingwave", "singlestore", "snowflake", "solr", "spark",
    "spark2", "sqlite", "starrocks", "tableau", "teradata", "trino", "tsql"]

end SchemaMigration.Dialect
