import SchemaMigration.Batch.Edges
import SchemaMigration.Outline

/-!
# The edge document

The edges of a batch as a document for other programs.
-/

namespace SchemaMigration

/-- A key as a record of its three levels. -/
def ObjectKey.outline (key : ObjectKey) : Outline :=
  .record [("schema", .text key.schema), ("object", .text key.object), ("field", .text key.field)]

/-- The entry of a statement in the edge document. -/
def StatementEdges.outline (edges : StatementEdges) : Outline :=
  .record [("index", .number edges.index), ("sql", .text edges.sql),
    ("depended_on", .list (edges.requires.map ObjectKey.outline)),
    ("solved", .list (edges.provides.map ObjectKey.outline))]

/-- The edge document of a batch. -/
def edgeDocument (edges : List StatementEdges) : Outline :=
  .record [("statements", .list (edges.map StatementEdges.outline))]

end SchemaMigration
