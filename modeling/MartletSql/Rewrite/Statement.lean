import MartletSql.Rewrite.Expr

/-!
# MartletSql — statement renders

`Statement::rewrite` (`rewrite/mod.rs`) with the small renders it calls: `Assignment`,
`SqlOption`, `SetVariableValue`, `ShowStatementFilter`. The `CreateTable` arm is the longest;
it is `CreateTable.rewrite`: the flags and the name, the column and constraint list
(`CreateTable.rewriteColumns`), then the clauses (`CreateTable.rewriteClauses`).

* **`Statement.runOn_createTable`** — what the arm writes right after the table name, before
  `WITHOUT ROWID` and the later clauses.
-/

namespace Martlet

section
variable {X : Foreign} (R : Renders X)

/-- `Assignment::rewrite`: `id = value`. -/
def Assignment.rewrite (a : Assignment X) (ctx : Context) : RW Unit := do
  a.id.rewrite ctx
  write " = "
  a.value.rewrite R ctx

/-- `SqlOption::rewrite`: `name = value`. -/
def SqlOption.rewrite (o : SqlOption X) (ctx : Context) : RW Unit := do
  o.name.rewrite ctx
  write " = "
  write (R.value o.value ctx)

def SetVariableValue.rewrite (v : SetVariableValue X) (ctx : Context) : RW Unit :=
  match v with
  | .ident i => i.rewrite ctx
  | .literal l => write (R.value l ctx)

/-- `ShowStatementFilter::rewrite`. The `LIKE` pattern goes through the escaping routine; an
`ILIKE` filter writes nothing. -/
def ShowStatementFilter.rewrite (filter : ShowStatementFilter X) (ctx : Context) : RW Unit :=
  match filter with
  | .like pattern => do
    write "LIKE '"
    write (escapeSingleQuoteString pattern)
    write "'"
  | .where expr => do
    write "WHERE "
    expr.rewrite R ctx
  | .iLike _ => pure ()

/-- The column and constraint list of `Statement::CreateTable`: ` (` columns, `, ` when both
lists are non-empty, constraints `)`; ` ()` when both are empty and there is no `AS` query. -/
def CreateTable.rewriteColumns (t : CreateTable X) (ctx : Context) : RW Unit :=
  if !t.columns.isEmpty || !t.constraints.isEmpty then do
    write " ("
    displayCommaSeparated (t.columns.map fun c => write (R.columnDef c ctx))
    when (!t.columns.isEmpty && !t.constraints.isEmpty) do
      write ", "
    displayCommaSeparated (t.constraints.map fun c => write (R.tableConstraint c ctx))
    write ")"
  else if t.query.isNone then
    write " ()"
  else
    pure ()

/-- The text of the column and constraint list: ` (`, the renders joined by `, `, and `)`;
with neither, ` ()`, or nothing when an `AS` query follows. -/
theorem CreateTable.runOn_rewriteColumns (t : CreateTable X) (ctx : Context) (f : String) :
    runOn f (t.rewriteColumns R ctx) = .ok (f ++
      if t.columns.isEmpty && t.constraints.isEmpty then (if t.query.isNone then " ()" else "")
      else " (" ++ String.intercalate ", " (t.columns.map (R.columnDef · ctx) ++
        t.constraints.map (R.tableConstraint · ctx)) ++ ")") := by
  unfold CreateTable.rewriteColumns displayCommaSeparated
  rcases hc : t.columns with _ | ⟨c, cs⟩ <;> rcases hk : t.constraints with _ | ⟨k, ks⟩
  case nil.nil => cases t.query <;> simp
  all_goals
    simp [-List.map_cons, runOn_displaySeparated_write, intercalate_append, String.append_assoc]

/-- The `match hive_distribution` of the `CreateTable` arm. `SKEWED` closes its column list
with `))`. -/
def HiveDistributionStyle.rewrite (hd : HiveDistributionStyle X) (ctx : Context) : RW Unit :=
  match hd with
  | .PARTITIONED columns => do
    write " PARTITIONED BY ("
    displayCommaSeparated (columns.map fun c => write (R.columnDef c ctx))
    write ")"
  | .CLUSTERED columns sortedBy numBuckets => do
    write " CLUSTERED BY ("
    displayCommaSeparated (columns.map (·.rewrite ctx))
    write ")"
    when (!sortedBy.isEmpty) do
      write " SORTED BY ("
      displayCommaSeparated (sortedBy.map fun c => write (R.columnDef c ctx))
      write ")"
    when (numBuckets > 0) do
      write (" INTO " ++ toString numBuckets ++ " BUCKETS")
  | .SKEWED columns «on» storedAsDirectories => do
    write " SKEWED BY ("
    displayCommaSeparated (columns.map fun c => write (R.columnDef c ctx))
    write ")) ON ("
    displayCommaSeparated («on».map fun c => write (R.columnDef c ctx))
    write ")"
    when storedAsDirectories do
      write " STORED AS DIRECTORIES"
  | .NONE => pure ()

/-- The `match row_format` of a Hive format. -/
def HiveRowFormat.rewrite (rowFormat : HiveRowFormat) (_ctx : Context) : RW Unit :=
  match rowFormat with
  | .SERDE «class» => write (" ROW FORMAT SERDE '" ++ «class» ++ "'")
  | .DELIMITED => write " ROW FORMAT DELIMITED"

/-- The `match storage` of a Hive format: a file format is written only for a table that is
not external. -/
def HiveIOFormat.rewrite (storage : HiveIOFormat X) (external : Bool) (ctx : Context) :
    RW Unit :=
  match storage with
  | .IOF inputFormat outputFormat => do
    write " STORED AS INPUTFORMAT "
    inputFormat.rewrite R ctx
    write " OUTPUTFORMAT "
    outputFormat.rewrite R ctx
  | .fileFormat format =>
    if !external then do
      write " STORED AS "
      format.rewrite ctx
    else pure ()

/-- The `if let Some(HiveFormat { .. }) = hive_formats` block of the `CreateTable` arm. -/
def HiveFormat.rewrite (hf : HiveFormat X) (external : Bool) (ctx : Context) : RW Unit := do
  hf.rowFormat.forM (·.rewrite ctx)
  hf.storage.forM (·.rewrite R external ctx)
  when (!external) do
    hf.location.forM fun loc => write (" LOCATION '" ++ loc ++ "'")

/-- The clauses of the `Statement::CreateTable` arm after the column list: `WITHOUT ROWID`,
`LIKE`, the Hive clauses and the `WITH` options in their fixed order, and the `AS` query. An
external table unwraps its file format and location. -/
def CreateTable.rewriteClauses (t : CreateTable X) (ctx : Context) : RW Unit := do
  when t.withoutRowid do
    write " WITHOUT ROWID"
  t.like.forM fun l => do
    write " LIKE "
    l.rewrite ctx
  t.hiveDistribution.rewrite R ctx
  t.hiveFormats.forM (·.rewrite R t.external ctx)
  when t.external do
    write " STORED AS "
    (← unwrap t.fileFormat).rewrite ctx
    write " LOCATION '"
    String.rewrite (← unwrap t.location) ctx
    write "'"
  when (!t.tableProperties.isEmpty) do
    write " TBLPROPERTIES ("
    displayCommaSeparated (t.tableProperties.map (·.rewrite R ctx))
    write ")"
  when (!t.withOptions.isEmpty) do
    write " WITH ("
    displayCommaSeparated (t.withOptions.map (·.rewrite R ctx))
    write ")"
  t.query.forM fun query => do
    write " AS "
    write (R.query query ctx)

/-- The `Statement::CreateTable` arm: the flags, the name, the column list, then the clauses. -/
def CreateTable.rewrite (t : CreateTable X) (ctx : Context) : RW Unit := do
  write ("CREATE " ++ (if t.orReplace then "OR REPLACE " else "") ++
    (if t.external then "EXTERNAL " else "") ++ "TABLE " ++
    (if t.ifNotExists then "IF NOT EXISTS " else ""))
  t.name.rewrite ctx
  t.rewriteColumns R ctx
  t.rewriteClauses R ctx

/-- `Statement::rewrite`. -/
def Statement.rewrite : Statement X → Context → RW Unit
  | .explain verbose isAnalyze statement, ctx => do
    write "EXPLAIN "
    when isAnalyze do
      write "ANALYZE "
    when verbose do
      write "VERBOSE "
    Statement.rewrite statement ctx
  | .query s, ctx => write (R.query s ctx)
  | .directory overwrite «local» path fileFormat source, ctx => do
    write ("INSERT" ++ (if overwrite then " OVERWRITE" else "") ++
      (if «local» then " LOCAL" else "") ++ " DIRECTORY '" ++ path ++ "'")
    fileFormat.forM fun ff => do
      write " STORED AS "
      ff.rewrite ctx
    write (R.query source ctx)
  | .msck tableName repair partitionAction, ctx => do
    write ("MSCK " ++ (if repair then "REPAIR " else "") ++ "TABLE ")
    tableName.rewrite ctx
    partitionAction.forM fun pa => do
      write " "
      pa.rewrite ctx
  | .truncate tableName partitions, ctx => do
    write "TRUNCATE TABLE "
    tableName.rewrite ctx
    partitions.forM fun parts => do
      when (!parts.isEmpty) do
        write " PARTITION ("
        displayCommaSeparated (parts.map (·.rewrite R ctx))
        write ")"
  | .analyze tableName partitions forColumns columns cacheMetadata noscan computeStatistics,
      ctx => do
    write "ANALYZE TABLE "
    tableName.rewrite ctx
    partitions.forM fun parts => do
      when (!parts.isEmpty) do
        write " PARTITION ("
        displayCommaSeparated (parts.map (·.rewrite R ctx))
        write ")"
    when computeStatistics do
      write " COMPUTE STATISTICS"
    when noscan do
      write " NOSCAN"
    when cacheMetadata do
      write " CACHE METADATA"
    when forColumns do
      write " FOR COLUMNS"
      when (!columns.isEmpty) do
        write " "
        displayCommaSeparated (columns.map (·.rewrite ctx))
  | .insert or tableName columns overwrite source partitioned afterColumns table, ctx => do
    (match or with
      | some action => do
        write "INSERT OR "
        action.rewrite ctx
        write " INTO "
        tableName.rewrite ctx
        write " "
      | none => do
        write ("INSERT " ++ (if overwrite then "OVERWRITE" else "INTO") ++
          (if table then " TABLE" else "") ++ " ")
        tableName.rewrite ctx
        write " ")
    when (!columns.isEmpty) do
      write "("
      displayCommaSeparated (columns.map (·.rewrite ctx))
      write ") "
    partitioned.forM fun parts => do
      when (!parts.isEmpty) do
        write "PARTITION ("
        displayCommaSeparated (parts.map (·.rewrite R ctx))
        write ") "
    when (!afterColumns.isEmpty) do
      write "("
      displayCommaSeparated (afterColumns.map (·.rewrite ctx))
      write ") "
    write (R.query source ctx)
  | .copy tableName columns values, ctx => do
    write "COPY "
    tableName.rewrite ctx
    when (!columns.isEmpty) do
      write " ("
      displayCommaSeparated (columns.map (·.rewrite ctx))
      write ")"
    write " FROM stdin; "
    when (!values.isEmpty) do
      write "\n"
      -- the values loop is `DisplaySeparated`'s, with `\t` as the separator
      displaySeparated (values.map fun v => write (v.getD "\\N")) "\t"
    write "\n\\."
  | .update tableName assignments selection limit, ctx => do
    write "UPDATE "
    tableName.rewrite ctx
    when (!assignments.isEmpty) do
      write " SET "
      displayCommaSeparated (assignments.map (·.rewrite R ctx))
    selection.forM fun selection => do
      write " WHERE "
      selection.rewrite R ctx
    limit.forM fun limit => do
      write " LIMIT "
      limit.rewrite R ctx
  | .delete tableName selection, ctx => do
    write "DELETE FROM "
    tableName.rewrite ctx
    selection.forM fun selection => do
      write " WHERE "
      selection.rewrite R ctx
  | .createDatabase dbName ifNotExists location managedLocation, ctx => do
    write "CREATE"
    when ifNotExists do
      write " IF NOT EXISTS"
    write " "
    dbName.rewrite ctx
    location.forM fun l => do
      write (" LOCATION '" ++ l ++ "'")
    managedLocation.forM fun ml => do
      write (" MANAGEDLOCATION '" ++ ml ++ "'")
  | .createView orReplace name columns viewQuery materialized withOptions, ctx => do
    write ("CREATE " ++ (if orReplace then "OR REPLACE " else "") ++
      (if materialized then "MATERIALIZED " else "") ++ "VIEW ")
    name.rewrite ctx
    when (!withOptions.isEmpty) do
      write " WITH ("
      displayCommaSeparated (withOptions.map (·.rewrite R ctx))
      write ")"
    when (!columns.isEmpty) do
      write " ("
      displayCommaSeparated (columns.map (·.rewrite ctx))
      write ")"
    write " AS "
    write (R.query viewQuery ctx)
  | .createTable t, ctx => t.rewrite R ctx
  | .createVirtualTable name ifNotExists moduleName moduleArgs, ctx => do
    write ("CREATE VIRTUAL TABLE " ++ (if ifNotExists then "IF NOT EXISTS " else ""))
    name.rewrite ctx
    write " USING "
    moduleName.rewrite ctx
    when (!moduleArgs.isEmpty) do
      write " ("
      displayCommaSeparated (moduleArgs.map (·.rewrite ctx))
      write ")"
  | .createIndex name tableName columns unique ifNotExists, ctx => do
    write ("CREATE " ++ (if unique then "UNIQUE " else "") ++ "INDEX " ++
      (if ifNotExists then "IF NOT EXISTS " else ""))
    name.rewrite ctx
    write " ON "
    tableName.rewrite ctx
    write "("
    displaySeparated (columns.map fun c => write (R.orderByExpr c ctx)) ","
    write ")"
  | .alterTable name operation, ctx => do
    write "ALTER TABLE "
    name.rewrite ctx
    write " "
    write (R.alterTableOperation operation ctx)
  | .drop objectType ifExists names cascade purge, ctx => do
    write "DROP "
    objectType.rewrite ctx
    write ((if ifExists then " IF EXISTS" else "") ++ " ")
    displayCommaSeparated (names.map (·.rewrite ctx))
    write ((if cascade then " CASCADE" else "") ++ (if purge then " PURGE" else ""))
  | .setVariable «local» hivevar «variable» value, ctx => do
    write "SET "
    when «local» do
      write "LOCAL "
    write (if hivevar then "HIVEVAR:" else "")
    «variable».rewrite ctx
    write " = "
    displayCommaSeparated (value.map (·.rewrite R ctx))
  | .showVariable «variable», ctx => do
    write "SHOW "
    when (!«variable».isEmpty) do
      write " "
      displaySeparated («variable».map (·.rewrite ctx)) " "
  | .useDatabase «variable», ctx => do
    write "USE "
    «variable».rewrite ctx
  | .showColumns extended full tableName filter, ctx => do
    write ("SHOW " ++ (if extended then "EXTENDED " else "") ++ (if full then "FULL " else "") ++
      "COLUMNS FROM ")
    tableName.rewrite ctx
    filter.forM fun filter => do
      write " "
      filter.rewrite R ctx
  | .startTransaction modes, ctx => do
    write "START TRANSACTION"
    when (!modes.isEmpty) do
      write " "
      displayCommaSeparated (modes.map (·.rewrite ctx))
  | .setTransaction session modes, ctx => do
    write ("SET" ++ (if session then " SESSION" else "") ++ " TRANSACTION")
    when (!modes.isEmpty) do
      write " "
      displayCommaSeparated (modes.map (·.rewrite ctx))
  | .setNames «variable», ctx => do
    write "SET NAMES "
    «variable».rewrite ctx
  | .commit chain, _ => write ("COMMIT" ++ if chain then " AND CHAIN" else "")
  | .savepoint «variable», ctx => do
    write "SAVEPOINT "
    «variable».rewrite ctx
  | .rollback chain toSavepoint, ctx =>
    match toSavepoint with
    | some sp => do
      write "ROLLBACK TO SAVEPOINT "
      sp.rewrite ctx
    | none => write ("ROLLBACK" ++ if chain then " AND CHAIN" else "")
  | .release «variable», ctx => do
    write "RELEASE SAVEPOINT "
    «variable».rewrite ctx
  | .createSchema schemaName ifNotExists, ctx => do
    write ("CREATE SCHEMA " ++ if ifNotExists then "IF NOT EXISTS " else "")
    schemaName.rewrite ctx
  | .assert condition message, ctx => do
    write "ASSERT "
    condition.rewrite R ctx
    message.forM fun m => do
      write " AS "
      m.rewrite R ctx
  | .deallocate name isPrepare, ctx => do
    write ("DEALLOCATE " ++ if isPrepare then "PREPARE " else "")
    name.rewrite ctx
  | .execute name parameters, ctx => do
    write "EXECUTE "
    name.rewrite ctx
    when (!parameters.isEmpty) do
      write "("
      displayCommaSeparated (parameters.map (·.rewrite R ctx))
      write "()"
  | .prepare name dataTypes statement, ctx => do
    write "PREPARE "
    name.rewrite ctx
    write " "
    when (!dataTypes.isEmpty) do
      write "("
      displayCommaSeparated (dataTypes.map (·.rewrite ctx))
      write ") "
    write "AS "
    Statement.rewrite statement ctx

/-- **The column list of `CREATE TABLE`.** `Statement::rewrite` writes the flags and the
table name, then right after the name ` (`, the column and constraint renders joined by `, `,
and `)`; with neither, ` ()`, or nothing when an `AS` query follows. Only then come
`WITHOUT ROWID` and the later clauses. -/
theorem Statement.runOn_createTable (t : CreateTable X) (ctx : Context) (f : String) :
    runOn f (Statement.rewrite R (.createTable t) ctx) =
      (runOn (f ++ ("CREATE " ++ (if t.orReplace then "OR REPLACE " else "") ++
          (if t.external then "EXTERNAL " else "") ++ "TABLE " ++
          (if t.ifNotExists then "IF NOT EXISTS " else ""))) (t.name.rewrite ctx)).bind
        fun g => runOn (g ++
          if t.columns.isEmpty && t.constraints.isEmpty then (if t.query.isNone then " ()" else "")
          else " (" ++ String.intercalate ", " (t.columns.map (R.columnDef · ctx) ++
            t.constraints.map (R.tableConstraint · ctx)) ++ ")") (t.rewriteClauses R ctx) := by
  rw [Statement.rewrite, CreateTable.rewrite, runOn_bind, runOn_write]
  simp only [runOn_bind, CreateTable.runOn_rewriteColumns]
  rfl

end

end Martlet
