import MartletSql.Literal.Expr
import MartletSql.Balance.Statement

/-!
# MartletSql — literals of statement renders

`renderPass_expr_literals` reads the literals of an expression render; this module reads those
of a whole statement. Besides the literals of its expressions and of the foreign texts, a
statement writes literals of its own: a `SHOW … LIKE` pattern through the escaping routine,
and the paths and class names of `INSERT DIRECTORY`, `LOCATION`, `MANAGEDLOCATION` and
`ROW FORMAT SERDE` as they are, which read back only when they hold no quote
(`createDatabase_location_unescaped`).

* **`readsG_write_quoted`** — a quote-free value written between quotes in one text reads as
  itself.
* **`CreateTable.rewrite_reads`** — the `CREATE TABLE` arm, clause by clause.
* **`renderPass_statement_literals`** — every run of `Statement::rewrite` reads exactly
  `Statement.literals` whenever the texts the statement writes unescaped hold no quote, the
  renders of the nodes outside these files close every literal they open, and a query's text
  does not start with a quote: it follows the closing quote of an `INSERT DIRECTORY` path.
-/

namespace Martlet

section
variable {X : Foreign}

/-- The renders of the nodes outside these files close every literal they open, column
definitions, constraints and `ALTER TABLE` operations included, and a query's text does not
start with a quote. -/
structure Renders.AllQuoted (R : Renders X) extends Renders.Quoted R : Prop where
  columnDef : ∀ c ctx, (scanLiterals (R.columnDef c ctx)).isSome
  tableConstraint : ∀ c ctx, (scanLiterals (R.tableConstraint c ctx)).isSome
  alterTableOperation : ∀ o ctx, (scanLiterals (R.alterTableOperation o ctx)).isSome
  queryStart : ∀ q ctx, startsQuote (R.query q ctx) = false

/-! ## Texts written unescaped -/

def Assignment.rawTexts (a : Assignment X) : List String := a.id.value :: a.value.rawTexts

def ShowStatementFilter.rawTexts : ShowStatementFilter X → List String
  | .«where» expr => expr.rawTexts
  | _ => []

def HiveIOFormat.rawTexts : HiveIOFormat X → List String
  | .IOF inputFormat outputFormat => inputFormat.rawTexts ++ outputFormat.rawTexts
  | .fileFormat _ => []

def HiveFormat.rawTexts (hf : HiveFormat X) : List String :=
  hf.rowFormat.toList.flatMap HiveRowFormat.leaves ++
    hf.storage.toList.flatMap HiveIOFormat.rawTexts ++ hf.location.toList

def CreateTable.rawTexts (t : CreateTable X) : List String :=
  t.name.leaves ++ t.like.toList.flatMap ObjectName.leaves ++ t.hiveDistribution.leaves ++
    t.hiveFormats.toList.flatMap HiveFormat.rawTexts ++ t.location.toList ++
    t.tableProperties.flatMap SqlOption.leaves ++ t.withOptions.flatMap SqlOption.leaves

/-- The texts a statement's render writes unescaped: names, paths, locations, `COPY` values,
and those of its expressions. A `LIKE` pattern goes through the escaping routine and is not
among them. -/
def Statement.rawTexts : Statement X → List String
  | .explain _ _ statement => statement.rawTexts
  | .query _ => []
  | .directory _ _ path _ _ => [path]
  | .msck tableName _ _ => tableName.leaves
  | .truncate tableName partitions =>
    tableName.leaves ++ partitions.toList.flatMap (·.flatMap Expr.rawTexts)
  | .analyze tableName partitions _ columns _ _ _ =>
    tableName.leaves ++ partitions.toList.flatMap (·.flatMap Expr.rawTexts) ++
      columns.map (·.value)
  | .insert _ tableName columns _ _ partitioned afterColumns _ =>
    tableName.leaves ++ columns.map (·.value) ++
      partitioned.toList.flatMap (·.flatMap Expr.rawTexts) ++ afterColumns.map (·.value)
  | .copy tableName columns values =>
    tableName.leaves ++ columns.map (·.value) ++ values.filterMap id
  | .update tableName assignments selection limit =>
    tableName.leaves ++ assignments.flatMap Assignment.rawTexts ++
      selection.toList.flatMap Expr.rawTexts ++ limit.toList.flatMap Expr.rawTexts
  | .delete tableName selection => tableName.leaves ++ selection.toList.flatMap Expr.rawTexts
  | .createDatabase dbName _ location managedLocation =>
    dbName.leaves ++ location.toList ++ managedLocation.toList
  | .createView _ name columns _ _ withOptions =>
    name.leaves ++ columns.map (·.value) ++ withOptions.flatMap SqlOption.leaves
  | .createTable t => t.rawTexts
  | .createVirtualTable name _ moduleName moduleArgs =>
    name.leaves ++ moduleName.value :: moduleArgs.map (·.value)
  | .createIndex name tableName _ _ _ => name.leaves ++ tableName.leaves
  | .alterTable name _ => name.leaves
  | .drop _ _ names _ _ => names.flatMap ObjectName.leaves
  | .setVariable _ _ «variable» value =>
    «variable».value :: value.flatMap SetVariableValue.leaves
  | .showVariable «variable» => «variable».map (·.value)
  | .useDatabase «variable» => [«variable».value]
  | .showColumns _ _ tableName filter =>
    tableName.leaves ++ filter.toList.flatMap ShowStatementFilter.rawTexts
  | .startTransaction _ => []
  | .setTransaction _ _ => []
  | .setNames «variable» => [«variable».value]
  | .commit _ => []
  | .savepoint «variable» => [«variable».value]
  | .rollback _ toSavepoint => toSavepoint.toList.map (·.value)
  | .release «variable» => [«variable».value]
  | .createSchema schemaName _ => schemaName.leaves
  | .assert condition message => condition.rawTexts ++ message.toList.flatMap Expr.rawTexts
  | .deallocate name _ => [name.value]
  | .execute name parameters => name.value :: parameters.flatMap Expr.rawTexts
  | .prepare name dataTypes statement =>
    name.value :: dataTypes.flatMap DataType.leaves ++ statement.rawTexts

/-! ## The literals a statement writes -/

section
variable (R : Renders X) (ctx : Context)

def Assignment.literals (a : Assignment X) : List String := a.id.literals ++ a.value.literals R ctx

def SqlOption.literals (o : SqlOption X) : List String :=
  o.name.literals ++ textLiterals (R.value o.value ctx)

def SetVariableValue.literals : SetVariableValue X → List String
  | .ident i => i.literals
  | .literal l => textLiterals (R.value l ctx)

def ShowStatementFilter.literals : ShowStatementFilter X → List String
  | .like pattern => [pattern]
  | .iLike _ => []
  | .«where» expr => expr.literals R ctx

/-- The literals of the renders of a list of column definitions. -/
def columnDefLiterals (columns : List (ColumnDef X)) : List String :=
  columns.flatMap fun c => textLiterals (R.columnDef c ctx)

def HiveDistributionStyle.literals : HiveDistributionStyle X → List String
  | .PARTITIONED columns => columnDefLiterals R ctx columns
  | .CLUSTERED columns sortedBy _ =>
    columns.flatMap Ident.literals ++ columnDefLiterals R ctx sortedBy
  | .SKEWED columns «on» _ => columnDefLiterals R ctx columns ++ columnDefLiterals R ctx «on»
  | .NONE => []

def HiveRowFormat.literals : HiveRowFormat → List String
  | .SERDE «class» => [«class»]
  | .DELIMITED => []

def HiveIOFormat.literals : HiveIOFormat X → List String
  | .IOF inputFormat outputFormat => inputFormat.literals R ctx ++ outputFormat.literals R ctx
  | .fileFormat _ => []

/-- The literals of a Hive format. Its location is written only for a table that is not
external. -/
def HiveFormat.literals (hf : HiveFormat X) (external : Bool) : List String :=
  hf.rowFormat.elim [] HiveRowFormat.literals ++
    (hf.storage.elim [] (HiveIOFormat.literals R ctx) ++
      if !external then hf.location.elim [] ([·]) else [])

/-- The literals of a `CREATE TABLE`, clause by clause; an external table's location is one. -/
def CreateTable.literals (t : CreateTable X) : List String :=
  t.name.literals ++
    (columnDefLiterals R ctx t.columns ++
        t.constraints.flatMap (fun c => textLiterals (R.tableConstraint c ctx)) ++
      (t.like.elim [] ObjectName.literals ++
      (t.hiveDistribution.literals R ctx ++
      (t.hiveFormats.elim [] (·.literals R ctx t.external) ++
      ((if t.external then t.location.elim [] ([·]) else []) ++
      (t.tableProperties.flatMap (·.literals R ctx) ++
      (t.withOptions.flatMap (·.literals R ctx) ++
        t.query.elim [] fun q => textLiterals (R.query q ctx))))))))

/-- The values of the literals a statement's render writes, in order. -/
def Statement.literals : Statement X → List String
  | .explain _ _ statement => statement.literals
  | .query s => textLiterals (R.query s ctx)
  | .directory _ _ path _ source => path :: textLiterals (R.query source ctx)
  | .msck tableName _ _ => tableName.literals
  | .truncate tableName partitions =>
    tableName.literals ++ partitions.elim [] (·.flatMap (Expr.literals R ctx))
  | .analyze tableName partitions forColumns columns _ _ _ =>
    tableName.literals ++ (partitions.elim [] (·.flatMap (Expr.literals R ctx)) ++
      if forColumns then columns.flatMap Ident.literals else [])
  | .insert _ tableName columns _ source partitioned afterColumns _ =>
    tableName.literals ++ (columns.flatMap Ident.literals ++
      (partitioned.elim [] (·.flatMap (Expr.literals R ctx)) ++
      (afterColumns.flatMap Ident.literals ++ textLiterals (R.query source ctx))))
  | .copy tableName columns _ => tableName.literals ++ columns.flatMap Ident.literals
  | .update tableName assignments selection limit =>
    tableName.literals ++ (assignments.flatMap (·.literals R ctx) ++
      (selection.elim [] (Expr.literals R ctx) ++ limit.elim [] (Expr.literals R ctx)))
  | .delete tableName selection => tableName.literals ++ selection.elim [] (Expr.literals R ctx)
  | .createDatabase dbName _ location managedLocation =>
    dbName.literals ++ (location.elim [] ([·]) ++ managedLocation.elim [] ([·]))
  | .createView _ name columns viewQuery _ withOptions =>
    name.literals ++ (withOptions.flatMap (·.literals R ctx) ++
      (columns.flatMap Ident.literals ++ textLiterals (R.query viewQuery ctx)))
  | .createTable t => t.literals R ctx
  | .createVirtualTable name _ moduleName moduleArgs =>
    name.literals ++ (moduleName.literals ++ moduleArgs.flatMap Ident.literals)
  | .createIndex name tableName columns _ _ =>
    name.literals ++ (tableName.literals ++
      columns.flatMap fun c => textLiterals (R.orderByExpr c ctx))
  | .alterTable name operation =>
    name.literals ++ textLiterals (R.alterTableOperation operation ctx)
  | .drop _ _ names _ _ => names.flatMap ObjectName.literals
  | .setVariable _ _ «variable» value =>
    «variable».literals ++ value.flatMap (·.literals R ctx)
  | .showVariable «variable» => «variable».flatMap Ident.literals
  | .useDatabase «variable» => «variable».literals
  | .showColumns _ _ tableName filter => tableName.literals ++ filter.elim [] (·.literals R ctx)
  | .startTransaction _ => []
  | .setTransaction _ _ => []
  | .setNames «variable» => «variable».literals
  | .commit _ => []
  | .savepoint «variable» => «variable».literals
  | .rollback _ toSavepoint => toSavepoint.elim [] Ident.literals
  | .release «variable» => «variable».literals
  | .createSchema schemaName _ => schemaName.literals
  | .assert condition message =>
    condition.literals R ctx ++ message.elim [] (Expr.literals R ctx)
  | .deallocate name _ => name.literals
  | .execute name parameters => name.literals ++ parameters.flatMap (Expr.literals R ctx)
  | .prepare name dataTypes statement =>
    name.literals ++ (dataTypes.flatMap DataType.literals ++ statement.literals)

end

end

/-! ## Clauses that read their literals -/

section
variable {m : RW Unit} {la : List String}

/-- A text that opens a literal, a quote-free value and the closing quote, written as one text:
one literal, read back as the value. -/
theorem readsG_write_quoted {pre : String}
    (hpre : pre.data.foldl scanChar (.outside, []) = (.inside [], []))
    (hs : startsQuote pre = false) {v : String} (hv : QuoteFree v) :
    (write (pre ++ v ++ "'")).Sat (ReadsG [v]) := by
  have hne : pre ≠ "" := by
    rintro rfl
    simp at hpre
  simp only [RW.Sat, RW.runs_write, forall_eq', ReadsG, Reads, join_singleton]
  refine ⟨?_, ?_⟩
  · simp [scanLiterals, List.foldl_append, hpre, foldl_scanChar_inside hv, scanChar]
  · rw [String.append_assoc, startsQuote_append, if_neg hne, hs]

/-- A foreign text that closes its literals and does not start with a quote. -/
theorem readsG_write_text {s : String} (h : (scanLiterals s).isSome) (hs : startsQuote s = false) :
    (write s).Sat (ReadsG (textLiterals s)) := fun w hw => by
  refine ⟨reads_write_text h w hw, ?_⟩
  rw [RW.runs_write] at hw
  subst hw
  simpa using hs

/-- A clause that reads nothing, before the rest of a run. -/
theorem readsG_nil_bind {k : Unit → RW Unit} (hm : m.Sat (ReadsG []))
    (hk : (k ()).Sat (ReadsG la)) :
    (m >>= k).Sat (ReadsG la) :=
  readsG_bind hm hk

theorem readsOut_nil_bind {k : Unit → RW Unit} (hm : m.Sat (ReadsOut []))
    (hk : (k ()).Sat (Reads la)) :
    (m >>= k).Sat (Reads la) :=
  readsOut_bind hm hk

theorem readsOut_when_keyword (c : Prop) [Decidable c] {kw : String} (hk : QuoteFree kw) :
    (when c (write kw)).Sat (ReadsOut []) :=
  RW.sat_when c (readsOut_write hk) readsOut_nil

theorem readsG_when_keyword (c : Prop) [Decidable c] {kw : String} (hk : QuoteFree kw) :
    (when c (write kw)).Sat (ReadsG []) :=
  RW.sat_when c (readsG_write hk) readsG_nil

/-- `when c t` on a flag: the literals of `t` exactly when the flag is set. -/
theorem readsG_when_if {c : Bool} {t : RW Unit} (ht : t.Sat (ReadsG la)) :
    (when c t).Sat (ReadsG (if c then la else [])) := by
  cases c
  exacts [pure_readsG, ht]

/-- `when (!l.isEmpty) t`, where `t` reads the literals of the elements of `l`. -/
theorem readsG_when_nonempty {α : Type} {l : List α} {g : α → List String} {t : RW Unit}
    (ht : t.Sat (ReadsG (l.flatMap g))) : (when (!l.isEmpty) t).Sat (ReadsG (l.flatMap g)) :=
  readsG_when ht (by cases l <;> simp)

/-- A list between two keywords, written when it is not empty: `(columns)`, `PARTITION (…)`. -/
theorem readsG_when_enclosed {α : Type} {l : List α} {g : α → List String} {t : RW Unit}
    {pre post : String} (hpre : QuoteFree pre) (hne : pre ≠ "") (hpost : QuoteFree post)
    (ht : t.Sat (Reads (l.flatMap g))) :
    (when (!l.isEmpty) (do write pre; t; write post)).Sat (ReadsG (l.flatMap g)) :=
  readsG_when_nonempty (keyword_bind_readsG hpre hne (reads_bind_write ht hpost))

/-- A separated list of foreign texts that close their literals. -/
theorem reads_displaySeparated_text {sep : String} (hsep : QuoteFree sep) (hne : sep ≠ "")
    {α : Type} {l : List α} {f : α → String} (h : ∀ a ∈ l, (scanLiterals (f a)).isSome) :
    (displaySeparated (l.map fun a => write (f a)) sep).Sat
      (Reads (l.flatMap fun a => textLiterals (f a))) :=
  reads_displaySeparated hsep hne (forall₂_map_reads fun a ha => reads_write_text (h a ha))

/-- A separated list of runs that read no literal reads none. -/
theorem reads_displaySeparated_nil {sep : String} (hsep : QuoteFree sep) (hne : sep ≠ "")
    {α : Type} {l : List α} {f : α → RW Unit} (h : ∀ a ∈ l, (f a).Sat (Reads [])) :
    (displaySeparated (l.map f) sep).Sat (Reads []) := by
  simpa using reads_displaySeparated hsep hne (forall₂_map_reads h)

theorem Ident.displaySeparated_reads {sep : String} (hsep : QuoteFree sep) (hne : sep ≠ "")
    {l : List Ident} (h : ∀ s ∈ l.map (·.value), QuoteFree s) (ctx : Context) :
    (displaySeparated (l.map (·.rewrite ctx)) sep).Sat (Reads (l.flatMap Ident.literals)) :=
  reads_displaySeparated hsep hne <| forall₂_map_reads fun _ hi =>
    Ident.rewrite_reads (h _ (List.mem_map_of_mem _ hi)) ctx

end

/-! ## Statement clauses -/

theorem quoteFree_intToString (i : Int) : QuoteFree (toString i) := by
  cases i with
  | ofNat m => exact quoteFree_toString m
  | negSucc m => exact quoteFree_append.2 ⟨by decide, quoteFree_toString (m + 1)⟩

theorem FileFormat.rewrite_readsG (ff : FileFormat) (ctx : Context) :
    (ff.rewrite ctx).Sat (ReadsG []) :=
  readsG_write (by cases ff <;> decide)

theorem TransactionMode.rewrite_reads (mode : TransactionMode) (ctx : Context) :
    (mode.rewrite ctx).Sat (Reads []) := by
  rcases mode with m | l
  · exact reads_of_readsG (readsG_write (by cases m <;> decide))
  · exact keyword_bind_reads (by decide) (reads_of_readsG (readsG_write (by cases l <;> decide)))

theorem HiveRowFormat.rewrite_readsG (rowFormat : HiveRowFormat) (ctx : Context)
    (h : ∀ s ∈ rowFormat.leaves, QuoteFree s) :
    (rowFormat.rewrite ctx).Sat (ReadsG rowFormat.literals) := by
  cases rowFormat with
  | SERDE «class» =>
    exact readsG_write_quoted (by decide) (by decide) (List.forall_mem_singleton.1 h)
  | DELIMITED => exact readsG_write (by decide)

section
variable {X : Foreign} {R : Renders X}

theorem Expr.displayCommaSeparated_reads (hR : R.Quoted) {es : List (Expr X)} (ctx : Context)
    (h : ∀ e ∈ es, ∀ s ∈ e.rawTexts, QuoteFree s) :
    (displayCommaSeparated (es.map (Expr.rewrite R · ctx))).Sat
      (Reads (es.flatMap (Expr.literals R ctx))) :=
  reads_displaySeparated (by decide) (by decide) <| forall₂_map_reads fun e he =>
    Expr.rewrite_reads hR e ctx (h e he)

theorem Assignment.rewrite_reads (hR : R.Quoted) (a : Assignment X) (ctx : Context)
    (h : ∀ s ∈ a.rawTexts, QuoteFree s) : (a.rewrite R ctx).Sat (Reads (a.literals R ctx)) :=
  have h := List.forall_mem_cons.1 h
  reads_bind_guarded (Ident.rewrite_reads h.1 ctx) <|
    keyword_bind_readsG (by decide) (by decide) (Expr.rewrite_reads hR a.value ctx h.2)

theorem SqlOption.rewrite_reads (hR : R.Quoted) (o : SqlOption X) (ctx : Context)
    (h : ∀ s ∈ o.leaves, QuoteFree s) : (o.rewrite R ctx).Sat (Reads (o.literals R ctx)) :=
  reads_bind_guarded (Ident.rewrite_reads (List.forall_mem_singleton.1 h) ctx) <|
    keyword_bind_readsG (by decide) (by decide) (reads_write_text (hR.value o.value ctx))

theorem SqlOption.displayCommaSeparated_reads (hR : R.Quoted) {l : List (SqlOption X)}
    (h : ∀ o ∈ l, ∀ s ∈ o.leaves, QuoteFree s) (ctx : Context) :
    (displayCommaSeparated (l.map (·.rewrite R ctx))).Sat
      (Reads (l.flatMap (·.literals R ctx))) :=
  reads_displaySeparated (by decide) (by decide) <| forall₂_map_reads fun o ho =>
    SqlOption.rewrite_reads hR o ctx (h o ho)

theorem SetVariableValue.rewrite_reads (hR : R.Quoted) (v : SetVariableValue X) (ctx : Context)
    (h : ∀ s ∈ v.leaves, QuoteFree s) : (v.rewrite R ctx).Sat (Reads (v.literals R ctx)) := by
  cases v with
  | ident i => exact Ident.rewrite_reads (List.forall_mem_singleton.1 h) ctx
  | literal l => exact reads_write_text (hR.value l ctx)

theorem ShowStatementFilter.rewrite_readsG (hR : R.Quoted) (filter : ShowStatementFilter X)
    (ctx : Context) (h : ∀ s ∈ filter.rawTexts, QuoteFree s) :
    (filter.rewrite R ctx).Sat (ReadsG (filter.literals R ctx)) := by
  cases filter with
  | like pattern => exact readsG_quoted "LIKE " (by decide) (by decide) (by decide) pattern
  | iLike _ => exact pure_readsG
  | «where» expr =>
    exact keyword_bind_readsG (by decide) (by decide) (Expr.rewrite_reads hR expr ctx h)

theorem HiveIOFormat.rewrite_readsG (hR : R.Quoted) (storage : HiveIOFormat X) (external : Bool)
    (ctx : Context) (h : ∀ s ∈ storage.rawTexts, QuoteFree s) :
    (storage.rewrite R external ctx).Sat (ReadsG (storage.literals R ctx)) := by
  cases storage with
  | IOF inputFormat outputFormat =>
    have h := List.forall_mem_append.1 h
    exact keyword_bind_readsG (by decide) (by decide) <|
      reads_bind_guarded (Expr.rewrite_reads hR inputFormat ctx h.1) <|
      keyword_bind_readsG (by decide) (by decide) (Expr.rewrite_reads hR outputFormat ctx h.2)
  | fileFormat format =>
    exact (RW.forall_runs_ite _ _ _ _).2 ⟨fun _ => readsG_bind_nil (readsG_write (by decide))
      (format.rewrite_readsG ctx), fun _ => pure_readsG⟩

theorem HiveFormat.rewrite_readsG (hR : R.Quoted) (hf : HiveFormat X) (external : Bool)
    (ctx : Context) (h : ∀ s ∈ hf.rawTexts, QuoteFree s) :
    (hf.rewrite R external ctx).Sat (ReadsG (hf.literals R ctx external)) := by
  simp only [HiveFormat.rawTexts, List.forall_mem_append, List.forall_mem_flatMap,
    Option.mem_toList] at h
  exact readsG_bind (readsG_forM fun r hr => r.rewrite_readsG ctx (h.1.1 r hr)) <|
    readsG_bind (readsG_forM fun st hst => st.rewrite_readsG hR external ctx (h.1.2 st hst)) <|
    readsG_when_if <| readsG_forM fun loc hloc =>
      readsG_write_quoted (by decide) (by decide) (h.2 loc hloc)

theorem HiveDistributionStyle.rewrite_readsG (hR : R.AllQuoted) (hd : HiveDistributionStyle X)
    (ctx : Context) (h : ∀ s ∈ hd.leaves, QuoteFree s) :
    (hd.rewrite R ctx).Sat (ReadsG (hd.literals R ctx)) := by
  cases hd with
  | PARTITIONED columns =>
    exact keyword_bind_readsG (by decide) (by decide) <| reads_bind_write
      (reads_displaySeparated_text (by decide) (by decide) fun c _ => hR.columnDef c ctx)
      (by decide)
  | CLUSTERED columns sortedBy numBuckets =>
    exact keyword_bind_readsG (by decide) (by decide) <|
      reads_bind_guarded (Ident.displaySeparated_reads (by decide) (by decide) h ctx) <|
      keyword_bind_readsG (by decide) (by decide) <| reads_of_readsG <|
      readsG_bind_nil (readsG_when_enclosed (by decide) (by decide) (by decide)
        (reads_displaySeparated_text (by decide) (by decide)
          fun c _ => hR.columnDef c ctx)) <|
      RW.sat_when _ (readsG_write (quoteFree_append.2 ⟨quoteFree_append.2
        ⟨by decide, quoteFree_intToString numBuckets⟩, by decide⟩)) readsG_nil
  | SKEWED columns «on» storedAsDirectories =>
    exact keyword_bind_readsG (by decide) (by decide) <|
      reads_bind_guarded (reads_displaySeparated_text (by decide) (by decide)
        fun c _ => hR.columnDef c ctx) <|
      keyword_bind_readsG (by decide) (by decide) <|
      reads_bind_guarded_nil (reads_displaySeparated_text (by decide) (by decide)
        fun c _ => hR.columnDef c ctx) <|
      readsG_bind_nil (readsG_write (by decide)) (readsG_when_keyword _ (by decide))
  | NONE => exact pure_readsG

/-- The column and constraint list: ` (` guards the first list, and `, ` the second when both
are there. -/
theorem CreateTable.rewriteColumns_readsG (hR : R.AllQuoted) (t : CreateTable X) (ctx : Context) :
    (t.rewriteColumns R ctx).Sat (ReadsG (columnDefLiterals R ctx t.columns ++
      t.constraints.flatMap fun c => textLiterals (R.tableConstraint c ctx))) := by
  have hC (l : List (ColumnDef X)) :
      (displayCommaSeparated (l.map fun c => write (R.columnDef c ctx))).Sat
        (Reads (columnDefLiterals R ctx l)) :=
    reads_displaySeparated_text (by decide) (by decide) fun c _ => hR.columnDef c ctx
  have hK (l : List (TableConstraint X)) :
      (displayCommaSeparated (l.map fun c => write (R.tableConstraint c ctx))).Sat
        (Reads (l.flatMap fun c => textLiterals (R.tableConstraint c ctx))) :=
    reads_displaySeparated_text (by decide) (by decide) fun c _ => hR.tableConstraint c ctx
  unfold CreateTable.rewriteColumns
  split_ifs with h
  · rcases t.columns with _ | ⟨c, cs⟩
    · -- no column: ` (` guards the constraints
      exact keyword_bind_readsG (by decide) (by decide) <| sat_pure_bind <|
        readsOut_nil_bind (readsOut_when_keyword _ (by decide))
          (reads_bind_write (hK _) (by decide))
    · refine keyword_bind_readsG (by decide) (by decide) (reads_bind_guarded (hC _) ?_)
      rcases t.constraints with _ | ⟨k, ks⟩
      · exact readsG_nil_bind (readsG_when_keyword _ (by decide))
          (sat_pure_bind (readsG_write (by decide)))
      · exact keyword_bind_readsG (by decide) (by decide) (reads_bind_write (hK _) (by decide))
  all_goals
    obtain ⟨hc, hk⟩ : t.columns = [] ∧ t.constraints = [] := by simpa using h
    rw [hc, hk]
    first
      | exact readsG_write (by decide)
      | exact pure_readsG

/-- The location of an external table, between the quotes written around it. -/
theorem readsG_location {o : Option String} (h : ∀ l ∈ o, QuoteFree l) (ctx : Context) :
    (do write " LOCATION '"; String.rewrite (← unwrap o) ctx; write "'" : RW Unit).Sat
      (ReadsG (o.elim [] ([·]))) := by
  cases o with
  | none => simp [RW.Sat, RW.forall_runs_bind]
  | some l =>
    have hl := readsG_quoted " LOCATION " (by decide) (by decide)
      (show " LOCATION " ++ "'" = " LOCATION '" by decide) l
    rw [escapeSingleQuoteString_of_quoteFree (h l rfl)] at hl
    simpa only [RW.unwrap_some_bind] using hl

theorem CreateTable.rewrite_reads (hR : R.AllQuoted) (t : CreateTable X) (ctx : Context)
    (h : ∀ s ∈ t.rawTexts, QuoteFree s) : (t.rewrite R ctx).Sat (Reads (t.literals R ctx)) := by
  simp only [CreateTable.rawTexts, List.forall_mem_append, List.forall_mem_flatMap,
    Option.mem_toList, and_assoc] at h
  obtain ⟨hn, hl, hd, hf, hloc, hp, hw⟩ := h
  exact keyword_bind_reads (by split_ifs <;> decide) <|
    reads_bind_guarded (ObjectName.rewrite_reads hn ctx) <|
    readsG_bind (t.rewriteColumns_readsG hR ctx) <|
    readsG_nil_bind (readsG_when_keyword _ (by decide)) <|
    readsG_bind (readsG_forM fun l hl' => keyword_bind_readsG (by decide) (by decide)
      (ObjectName.rewrite_reads (hl l hl') ctx)) <|
    readsG_bind (t.hiveDistribution.rewrite_readsG hR ctx hd) <|
    readsG_bind (readsG_forM fun f hf' =>
      HiveFormat.rewrite_readsG hR.toQuoted f t.external ctx (hf f hf')) <|
    readsG_bind (readsG_when_if <| keyword_bind_readsG (by decide) (by decide) <|
      RW.sat_unwrap_bind fun ff _ => keyword_bind_reads (by cases ff <;> decide) <|
        reads_of_readsG (readsG_location hloc ctx)) <|
    readsG_bind (readsG_when_enclosed (by decide) (by decide) (by decide)
      (SqlOption.displayCommaSeparated_reads hR.toQuoted hp ctx)) <|
    readsG_bind (readsG_when_enclosed (by decide) (by decide) (by decide)
      (SqlOption.displayCommaSeparated_reads hR.toQuoted hw ctx)) <|
    readsG_forM fun q _ =>
      keyword_bind_readsG (by decide) (by decide) (reads_write_text (hR.query q ctx))

/-- Every run of `Statement::rewrite` reads the statement's literals. Each arm follows its `do`
block; the one seam no keyword guards is the query right after an `INSERT DIRECTORY` path. -/
theorem Statement.rewrite_reads (hR : R.AllQuoted) : ∀ (st : Statement X) (ctx : Context),
    (∀ s ∈ st.rawTexts, QuoteFree s) →
      (Statement.rewrite R st ctx).Sat (Reads (st.literals R ctx))
  | .explain _ _ statement, ctx, h =>
    keyword_bind_reads (by decide) <| readsOut_nil_bind (readsOut_when_keyword _ (by decide)) <|
      readsOut_nil_bind (readsOut_when_keyword _ (by decide)) <|
      Statement.rewrite_reads hR statement ctx h
  | .query s, ctx, _ => reads_write_text (hR.query s ctx)
  | .directory _ _ path _ source, ctx, h =>
    reads_bind_guarded (reads_of_readsG (readsG_write_quoted (by split_ifs <;> decide)
        (by split_ifs <;> decide) (List.forall_mem_singleton.1 h))) <|
      readsG_nil_bind (RW.sat_forM (fun ff _ => readsG_bind_nil (readsG_write (by decide))
        (ff.rewrite_readsG ctx)) readsG_nil) <|
      readsG_write_text (hR.query source ctx) (hR.queryStart source ctx)
  | .msck tableName _ _, ctx, h =>
    keyword_bind_reads (by split_ifs <;> decide) <|
      reads_bind_guarded_nil (ObjectName.rewrite_reads h ctx) <|
      RW.sat_forM (fun pa _ => readsG_bind_nil (readsG_write (by decide))
        (readsG_write (by cases pa <;> decide))) readsG_nil
  | .truncate tableName partitions, ctx, h => by
    simp only [Statement.rawTexts, List.forall_mem_append, List.forall_mem_flatMap,
      Option.mem_toList] at h
    exact keyword_bind_reads (by decide) <|
      reads_bind_guarded (ObjectName.rewrite_reads h.1 ctx) <|
      readsG_forM fun parts hp => readsG_when_enclosed (by decide) (by decide) (by decide)
        (Expr.displayCommaSeparated_reads hR.toQuoted ctx (h.2 parts hp))
  | .analyze tableName partitions _ columns _ _ _, ctx, h => by
    simp only [Statement.rawTexts, List.forall_mem_append, List.forall_mem_flatMap,
      Option.mem_toList] at h
    exact keyword_bind_reads (by decide) <|
      reads_bind_guarded (ObjectName.rewrite_reads h.1.1 ctx) <|
      readsG_bind (readsG_forM fun parts hp =>
        readsG_when_enclosed (by decide) (by decide) (by decide)
          (Expr.displayCommaSeparated_reads hR.toQuoted ctx (h.1.2 parts hp))) <|
      readsG_nil_bind (readsG_when_keyword _ (by decide)) <|
      readsG_nil_bind (readsG_when_keyword _ (by decide)) <|
      readsG_nil_bind (readsG_when_keyword _ (by decide)) <|
      readsG_when_if <| keyword_bind_readsG (by decide) (by decide) <| reads_of_readsG <|
        readsG_when_nonempty <| keyword_bind_readsG (by decide) (by decide) <|
        Ident.displaySeparated_reads (by decide) (by decide) h.2 ctx
  | .insert onConflict tableName columns _ source partitioned afterColumns _, ctx, h => by
    simp only [Statement.rawTexts, List.forall_mem_append, List.forall_mem_flatMap,
      Option.mem_toList, and_assoc] at h
    obtain ⟨hn, hc, hp, hac⟩ := h
    refine reads_bind_guarded ?_ <|
      readsG_bind (readsG_when_enclosed (by decide) (by decide) (by decide)
        (Ident.displaySeparated_reads (by decide) (by decide) hc ctx)) <|
      readsG_bind (readsG_forM fun parts hparts =>
        readsG_when_enclosed (by decide) (by decide) (by decide)
          (Expr.displayCommaSeparated_reads hR.toQuoted ctx (hp parts hparts))) <|
      readsG_bind (readsG_when_enclosed (by decide) (by decide) (by decide)
        (Ident.displaySeparated_reads (by decide) (by decide) hac ctx)) <|
      readsG_write_text (hR.query source ctx) (hR.queryStart source ctx)
    cases onConflict with
    | some action =>
      exact keyword_bind_reads (by decide) <| keyword_bind_reads (by cases action <;> decide) <|
        keyword_bind_reads (by decide)
          (reads_bind_write (ObjectName.rewrite_reads hn ctx) (by decide))
    | none =>
      exact keyword_bind_reads (by split_ifs <;> decide)
        (reads_bind_write (ObjectName.rewrite_reads hn ctx) (by decide))
  | .copy tableName columns values, ctx, h => by
    simp only [Statement.rawTexts, List.forall_mem_append, List.forall_mem_filterMap, id] at h
    exact keyword_bind_reads (by decide) <|
      reads_bind_guarded (ObjectName.rewrite_reads h.1.1 ctx) <|
      readsG_bind_nil (readsG_when_enclosed (by decide) (by decide) (by decide)
        (Ident.displaySeparated_reads (by decide) (by decide) h.1.2 ctx)) <|
      keyword_bind_readsG (by decide) (by decide) <| reads_bind_write (reads_of_readsG <|
        readsG_when (keyword_bind_readsG (by decide) (by decide) <|
          reads_displaySeparated_nil (by decide) (by decide) fun v hv => reads_of_readsG <|
            readsG_write (by cases v with
              | none => decide
              | some b => exact h.2 _ hv b rfl)) fun _ => rfl) (by decide)
  | .update tableName assignments selection limit, ctx, h => by
    simp only [Statement.rawTexts, List.forall_mem_append, List.forall_mem_flatMap,
      Option.mem_toList] at h
    exact keyword_bind_reads (by decide) <|
      reads_bind_guarded (ObjectName.rewrite_reads h.1.1.1 ctx) <|
      readsG_bind (readsG_when_nonempty <| keyword_bind_readsG (by decide) (by decide) <|
        reads_displaySeparated (by decide) (by decide) <| forall₂_map_reads fun a ha =>
          Assignment.rewrite_reads hR.toQuoted a ctx (h.1.1.2 a ha)) <|
      readsG_bind (readsG_forM fun e he => keyword_bind_readsG (by decide) (by decide)
        (Expr.rewrite_reads hR.toQuoted e ctx (h.1.2 e he))) <|
      readsG_forM fun e he => keyword_bind_readsG (by decide) (by decide)
        (Expr.rewrite_reads hR.toQuoted e ctx (h.2 e he))
  | .delete tableName selection, ctx, h => by
    simp only [Statement.rawTexts, List.forall_mem_append, List.forall_mem_flatMap,
      Option.mem_toList] at h
    exact keyword_bind_reads (by decide) <|
      reads_bind_guarded (ObjectName.rewrite_reads h.1 ctx) <|
      readsG_forM fun e he => keyword_bind_readsG (by decide) (by decide)
        (Expr.rewrite_reads hR.toQuoted e ctx (h.2 e he))
  | .createDatabase dbName _ location managedLocation, ctx, h => by
    simp only [Statement.rawTexts, List.forall_mem_append, Option.mem_toList] at h
    exact keyword_bind_reads (by decide) <|
      readsOut_nil_bind (readsOut_when_keyword _ (by decide)) <|
      keyword_bind_reads (by decide) <|
      reads_bind_guarded (ObjectName.rewrite_reads h.1.1 ctx) <|
      readsG_bind (readsG_forM fun l hl => readsG_write_quoted (by decide) (by decide) (h.1.2 l hl))
        (readsG_forM fun l hl => readsG_write_quoted (by decide) (by decide) (h.2 l hl))
  | .createView _ name columns viewQuery _ withOptions, ctx, h => by
    simp only [Statement.rawTexts, List.forall_mem_append, List.forall_mem_flatMap] at h
    exact keyword_bind_reads (by split_ifs <;> decide) <|
      reads_bind_guarded (ObjectName.rewrite_reads h.1.1 ctx) <|
      readsG_bind (readsG_when_enclosed (by decide) (by decide) (by decide)
        (SqlOption.displayCommaSeparated_reads hR.toQuoted h.2 ctx)) <|
      readsG_bind (readsG_when_enclosed (by decide) (by decide) (by decide)
        (Ident.displaySeparated_reads (by decide) (by decide) h.1.2 ctx)) <|
      keyword_bind_readsG (by decide) (by decide) (reads_write_text (hR.query viewQuery ctx))
  | .createTable t, ctx, h => CreateTable.rewrite_reads hR t ctx h
  | .createVirtualTable name _ moduleName moduleArgs, ctx, h => by
    simp only [Statement.rawTexts, List.forall_mem_append, List.forall_mem_cons] at h
    exact keyword_bind_reads (by split_ifs <;> decide) <|
      reads_bind_guarded (ObjectName.rewrite_reads h.1 ctx) <|
      keyword_bind_readsG (by decide) (by decide) <|
      reads_bind_guarded (Ident.rewrite_reads h.2.1 ctx) <|
      readsG_when_enclosed (by decide) (by decide) (by decide)
        (Ident.displaySeparated_reads (by decide) (by decide) h.2.2 ctx)
  | .createIndex name tableName columns _ _, ctx, h =>
    have h := List.forall_mem_append.1 h
    keyword_bind_reads (by split_ifs <;> decide) <|
      reads_bind_guarded (ObjectName.rewrite_reads h.1 ctx) <|
      keyword_bind_readsG (by decide) (by decide) <|
      reads_bind_guarded (ObjectName.rewrite_reads h.2 ctx) <|
      keyword_bind_readsG (by decide) (by decide) <| reads_bind_write
        (reads_displaySeparated_text (by decide) (by decide) fun c _ => hR.orderByExpr c ctx)
        (by decide)
  | .alterTable name operation, ctx, h =>
    keyword_bind_reads (by decide) <| reads_bind_guarded (ObjectName.rewrite_reads h ctx) <|
      keyword_bind_readsG (by decide) (by decide)
        (reads_write_text (hR.alterTableOperation operation ctx))
  | .drop objectType _ names _ _, ctx, h =>
    keyword_bind_reads (by decide) <| keyword_bind_reads (by cases objectType <;> decide) <|
      keyword_bind_reads (by split_ifs <;> decide) <|
      reads_bind_write (reads_displaySeparated (by decide) (by decide) <| forall₂_map_reads
        fun n hn => ObjectName.rewrite_reads (List.forall_mem_flatMap.1 h n hn) ctx)
        (by split_ifs <;> decide)
  | .setVariable _ _ «variable» value, ctx, h =>
    have h := List.forall_mem_cons.1 h
    keyword_bind_reads (by decide) <| readsOut_nil_bind (readsOut_when_keyword _ (by decide)) <|
      keyword_bind_reads (by split_ifs <;> decide) <|
      reads_bind_guarded (Ident.rewrite_reads h.1 ctx) <|
      keyword_bind_readsG (by decide) (by decide) <|
      reads_displaySeparated (by decide) (by decide) <| forall₂_map_reads fun v hv =>
        SetVariableValue.rewrite_reads hR.toQuoted v ctx (List.forall_mem_flatMap.1 h.2 v hv)
  | .showVariable «variable», ctx, h =>
    keyword_bind_reads (by decide) <| reads_of_readsG <| readsG_when_nonempty <|
      keyword_bind_readsG (by decide) (by decide)
        (Ident.displaySeparated_reads (by decide) (by decide) h ctx)
  | .useDatabase «variable», ctx, h =>
    keyword_bind_reads (by decide) (Ident.rewrite_reads (List.forall_mem_singleton.1 h) ctx)
  | .showColumns _ _ tableName filter, ctx, h => by
    simp only [Statement.rawTexts, List.forall_mem_append, List.forall_mem_flatMap,
      Option.mem_toList] at h
    exact keyword_bind_reads (by split_ifs <;> decide) <|
      reads_bind_guarded (ObjectName.rewrite_reads h.1 ctx) <|
      readsG_forM fun f hf => keyword_bind_readsG (by decide) (by decide)
        (reads_of_readsG (f.rewrite_readsG hR.toQuoted ctx (h.2 f hf)))
  | .startTransaction modes, ctx, _ =>
    keyword_bind_reads (by decide) <| reads_of_readsG <|
      readsG_when (keyword_bind_readsG (by decide) (by decide) <| reads_displaySeparated_nil
        (by decide) (by decide) fun m _ => m.rewrite_reads ctx) fun _ => rfl
  | .setTransaction _ modes, ctx, _ =>
    keyword_bind_reads (by split_ifs <;> decide) <| reads_of_readsG <|
      readsG_when (keyword_bind_readsG (by decide) (by decide) <| reads_displaySeparated_nil
        (by decide) (by decide) fun m _ => m.rewrite_reads ctx) fun _ => rfl
  | .setNames «variable», ctx, h =>
    keyword_bind_reads (by decide) (Ident.rewrite_reads (List.forall_mem_singleton.1 h) ctx)
  | .commit _, _, _ => reads_of_readsG (readsG_write (by split_ifs <;> decide))
  | .savepoint «variable», ctx, h =>
    keyword_bind_reads (by decide) (Ident.rewrite_reads (List.forall_mem_singleton.1 h) ctx)
  | .rollback _ toSavepoint, ctx, h => by
    cases toSavepoint with
    | some sp =>
      exact keyword_bind_reads (by decide) (Ident.rewrite_reads (List.forall_mem_singleton.1 h) ctx)
    | none => exact reads_of_readsG (readsG_write (by split_ifs <;> decide))
  | .release «variable», ctx, h =>
    keyword_bind_reads (by decide) (Ident.rewrite_reads (List.forall_mem_singleton.1 h) ctx)
  | .createSchema schemaName _, ctx, h =>
    keyword_bind_reads (by split_ifs <;> decide) (ObjectName.rewrite_reads h ctx)
  | .assert condition message, ctx, h => by
    simp only [Statement.rawTexts, List.forall_mem_append, List.forall_mem_flatMap,
      Option.mem_toList] at h
    exact keyword_bind_reads (by decide) <|
      reads_bind_guarded (Expr.rewrite_reads hR.toQuoted condition ctx h.1) <|
      readsG_forM fun m hm => keyword_bind_readsG (by decide) (by decide)
        (Expr.rewrite_reads hR.toQuoted m ctx (h.2 m hm))
  | .deallocate name _, ctx, h =>
    keyword_bind_reads (by split_ifs <;> decide)
      (Ident.rewrite_reads (List.forall_mem_singleton.1 h) ctx)
  | .execute name parameters, ctx, h =>
    have h := List.forall_mem_cons.1 h
    keyword_bind_reads (by decide) <| reads_bind_guarded (Ident.rewrite_reads h.1 ctx) <|
      readsG_when_enclosed (by decide) (by decide) (by decide)
        (Expr.displayCommaSeparated_reads hR.toQuoted ctx (List.forall_mem_flatMap.1 h.2))
  | .prepare name dataTypes statement, ctx, h => by
    simp only [Statement.rawTexts, List.forall_mem_append, List.forall_mem_cons,
      List.forall_mem_flatMap] at h
    exact keyword_bind_reads (by decide) <| reads_bind_guarded (Ident.rewrite_reads h.1.1 ctx) <|
      keyword_bind_readsG (by decide) (by decide) <| reads_of_readsG <|
      readsG_bind (readsG_when_enclosed (by decide) (by decide) (by decide)
        (reads_displaySeparated (by decide) (by decide) <|
          forall₂_map_reads fun d hd => DataType.rewrite_reads (h.1.2 d hd) ctx)) <|
      keyword_bind_readsG (by decide) (by decide) (Statement.rewrite_reads hR statement ctx h.2)

/-- **Literals of statements.** When the texts a statement writes unescaped hold no quote, the
renders of the nodes outside these files close every literal they open, and a query's text
does not start with a quote, the text of every successful run of `Statement::rewrite` closes
every literal it opens, and the values it reads are `Statement.literals`: those of its
expressions and foreign texts, its `LIKE` patterns as they are, and its paths, locations and
Hive class names, in the order they are written. -/
theorem renderPass_statement_literals (hR : R.AllQuoted) (st : Statement X) (ctx : Context)
    (h : ∀ s ∈ st.rawTexts, QuoteFree s) (w : List String)
    (hw : (Statement.rewrite R st ctx).out = .ok w) :
    scanLiterals (String.join w) = some (st.literals R ctx) :=
  Statement.rewrite_reads hR st ctx h w hw

end

theorem Renders.quotedText_allQuoted : Renders.quotedText.AllQuoted :=
  { Renders.quotedText_quoted with
    columnDef := fun _ _ => rfl
    tableConstraint := fun _ _ => rfl
    alterTableOperation := fun _ _ => rfl
    queryStart := fun q _ => q.2.2 }

/-- `INSERT DIRECTORY '/out'SELECT 'a'`: the query follows the path's closing quote with no
space, and both literals read back. -/
theorem renderPass_statement_literals_directory :
    (Statement.rewrite Renders.quotedText
        (.directory false false "/out" none ⟨"SELECT 'a'", by decide⟩) []).out =
        .ok ["INSERT DIRECTORY '/out'", "SELECT 'a'"] ∧
      scanLiterals (String.join ["INSERT DIRECTORY '/out'", "SELECT 'a'"]) = some ["/out", "a"] :=
  ⟨by decide, renderPass_statement_literals Renders.quotedText_allQuoted
    (.directory false false "/out" none ⟨"SELECT 'a'", by decide⟩) [] (by decide)
    ["INSERT DIRECTORY '/out'", "SELECT 'a'"] (by decide)⟩

end Martlet
