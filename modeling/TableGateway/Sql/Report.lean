import TableGateway.Sql.Schema

/-!
# Reports about tables

What a connection tells about its tables, indexes and keys, as rows of cells.
-/

namespace TableGateway.Sql

/-- A report. -/
inductive Report where
  /-- The columns of a table, or also those that are computed. -/
  | columns (t : Table) (all : Bool)
  /-- The columns of a view with their types. -/
  | viewColumns (columns : List (String × String)) (all : Bool)
  /-- The tables and views of some spaces, or the one with a name; the views come with how many
  columns they have. -/
  | relations (widths : List (Space × List (String × Nat))) (name : Option String)
  | indexes (t : Table)
  /-- The columns of an index, or also those behind them that make its rows differ. -/
  | indexColumns (t : Table) (i : Index) (all : Bool)
  | foreignKeys (t : Table)
  | databases
  | collations
  | nothing

/-- The words for what happens to rows that refer to a row. -/
def KeyAction.text : KeyAction → String
  | none => "NO ACTION"
  | restrict => "RESTRICT"
  | setNull => "SET NULL"
  | setDefault => "SET DEFAULT"
  | cascade => "CASCADE"

/-- Where an index comes from, as a letter or two. -/
def IndexOrigin.text : IndexOrigin → String
  | created => "c"
  | unique => "u"
  | primary => "pk"

namespace Report

/-- A truth as a cell. -/
def flag (b : Bool) : Cell := .ofNat (if b then 1 else 0)

/-- The places of the columns of the primary key. -/
def keyPlaces (t : Table) : List Nat :=
  let own := ((t.primaryIndex?.map Index.columns).getD []).filterMap fun k => k.key.place?
  t.key.toList ++ own

/-- The rows about the columns of a table. -/
def columnRows (e : Encoding) (t : Table) (all : Bool) : List (List Cell) :=
  let keys := keyPlaces t
  let shown := t.columns.zipIdx.filter fun (c, _) => all || c.generated.isNone
  shown.zipIdx.map fun ((c, i), n) =>
    let hidden : Nat := match c.generated with
      | some (_, true) => 3
      | some (_, false) => 2
      | none => 0
    [.ofNat n, .ofString e c.name, .ofString e c.type, flag c.notNull.isSome,
      (c.default.map fun d => Cell.ofString e d.text).getD .null,
      .ofNat (((keys.idxOf? i).map (· + 1)).getD 0)] ++
      (if all then [.ofNat hidden] else [])

/-- The rows about the columns of an index. A column that is computed has no name. -/
def indexRows (e : Encoding) (t : Table) (i : Index) (all : Bool) : List (List Cell) :=
  let place (k : IndexKey) : Int := match k with
    | .column n => n
    | .rowid => -1
    | .computed _ => -2
  let name (k : IndexKey) : Cell := match k with
    | .column n => ((t.columns[n]?).map fun c => Cell.ofString e c.name).getD .null
    | _ => .null
  let row (n : Nat) (k : IndexColumn) (isKey : Bool) : List Cell :=
    [.ofNat n, .int (.ofInt (place k.key)), name k.key] ++
      if all then [flag k.descending, .ofString e k.collation.name, flag isKey] else []
  let own := i.columns.zipIdx.map fun (k, n) => row n k true
  let rest : List IndexColumn := if !t.clustered then [⟨.rowid, .binary, false⟩]
    else
      let keys := (t.primaryIndex?.map Index.columns).getD []
      if i.origin = .primary then
        t.columns.zipIdx.filterMap fun (_, n) =>
          if keys.any fun k => k.key.place? == some n then none
          else some ⟨.column n, .binary, false⟩
      else keys.filter fun k => !(i.columns.any fun c => c.key.place? == k.key.place?)
  if all then own ++ rest.zipIdx.map fun (k, n) => row (own.length + n) k false else own

/-- The rows about the foreign keys of a table, the last one first. -/
def foreignRows (e : Encoding) (t : Table) : List (List Cell) :=
  t.foreignKeys.reverse.zipIdx.flatMap fun (k, id) =>
    k.columns.zipIdx.map fun (i, n) =>
      [.ofNat id, .ofNat n, .ofString e k.refersTo.table,
        ((t.columns[i]?).map fun c => Cell.ofString e c.name).getD .null,
        ((k.refersTo.columns[n]?).map (Cell.ofString e)).getD .null,
        .ofString e k.refersTo.onUpdate.text, .ofString e k.refersTo.onDelete.text,
        .ofString e "NONE"]

/-- The rows about the tables and views of a schema, in the order in which they are listed. -/
def relationRows (c : Catalog) (space : Space) (widths : List (String × Nat))
    (name : Option String) : List (List Cell) :=
  let s := c.schema space
  let text (s : String) : Cell := .ofString c.encoding s
  let row (n kind : String) (width : Nat) (clustered strict : Bool) : List Cell :=
    [text space.name, text n, text kind, .ofNat width, flag clustered, flag strict]
  let entries := match space with
    | .main => "sqlite_schema"
    | .temp => "sqlite_temp_schema"
  ((s.listed space).filter fun n => name.all (sameName n)).filterMap fun n =>
    if n == Schema.entryName space then some (row entries "table" 5 false false)
    else
      match s.table? n with
      | some t => some (row t.name "table" t.columns.length t.clustered t.strict)
      | none => (widths.lookup n).map fun width => row n "view" width false false

/-- The rows of a report. -/
def rows (c : Catalog) : Report → List (List Cell)
  | columns t all => columnRows c.encoding t all
  | viewColumns cs all =>
    cs.zipIdx.map fun ((name, type), n) =>
      [.ofNat n, .ofString c.encoding name, .ofString c.encoding type, .ofNat 0, .null,
        .ofNat 0] ++ if all then [.ofNat 0] else []
  | relations widths name =>
    widths.flatMap fun (space, widths) => relationRows c space widths name
  | indexes t =>
    t.indexes.zipIdx.map fun (i, n) =>
      [.ofNat n, .ofString c.encoding i.name, flag i.unique,
        .ofString c.encoding i.origin.text, flag i.filter.isSome]
  | indexColumns t i all => indexRows c.encoding t i all
  | foreignKeys t => foreignRows c.encoding t
  | databases =>
    let text (s : String) : Cell := .ofString c.encoding s
    [.ofNat 0, text "main", text ""] ::
      if c.temp.entries.isEmpty then [] else [[.ofNat 1, text "temp", text ""]]
  | collations =>
    [Collation.rtrim, .nocase, .binary].zipIdx.map fun (k, n) =>
      [.ofNat n, .ofString c.encoding k.name]
  | nothing => []

/-- The names of the columns of a report. -/
def labels : Report → List String
  | columns _ all | viewColumns _ all =>
    ["cid", "name", "type", "notnull", "dflt_value", "pk"] ++ if all then ["hidden"] else []
  | relations .. => ["schema", "name", "type", "ncol", "wr", "strict"]
  | indexes _ => ["seq", "name", "unique", "origin", "partial"]
  | indexColumns _ _ all =>
    ["seqno", "cid", "name"] ++ if all then ["desc", "coll", "key"] else []
  | foreignKeys _ => ["id", "seq", "table", "from", "to", "on_update", "on_delete", "match"]
  | databases => ["seq", "name", "file"]
  | collations => ["seq", "name"]
  | nothing => []

end Report

end TableGateway.Sql
