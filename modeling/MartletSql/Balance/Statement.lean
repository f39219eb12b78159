import MartletSql.Balance

/-!
# MartletSql — balance of statement renders

`skewed_execute_unbalanced` finds two arms of `Statement::rewrite` that write unbalanced text
around balanced children. This module shows that they are the only ones.

* **`Statement.avoidsSkewedExecute`** — the statement holds neither a `SKEWED BY` distribution
  nor an `EXECUTE` with parameters, also under `EXPLAIN` and `PREPARE`.
* **`Statement.rewrite_keepsDepth`** — without them every run keeps the depth. Each arm is
  checked along its `do` block, as the expression arms are.
* **`Statement.rewrite_not_keepsDepth`** — with one of them no run does: `SKEWED BY` closes a
  parenthesis it did not open, which nothing written after it can mend (`Breaks`), and
  `EXECUTE` leaves one open at the end of the text.
* **`renderPass_statement_balanced_iff`** — so a successful run writes balanced text exactly
  when the statement avoids the two arms, whenever the texts the statement holds and the
  renders of the nodes outside these files are balanced.
-/

namespace Martlet

section
variable {X : Foreign}

/-- The renders of the nodes outside these files write balanced text, column definitions,
constraints and `ALTER TABLE` operations included. -/
structure Renders.AllBalanced (R : Renders X) extends Renders.Balanced R : Prop where
  columnDef : ∀ c ctx, Martlet.Balanced (R.columnDef c ctx)
  tableConstraint : ∀ c ctx, Martlet.Balanced (R.tableConstraint c ctx)
  alterTableOperation : ∀ o ctx, Martlet.Balanced (R.alterTableOperation o ctx)

/-! ## Leaf texts of statements -/

def Assignment.leaves (a : Assignment X) : List String := a.id.value :: a.value.leaves

def SqlOption.leaves (o : SqlOption X) : List String := [o.name.value]

def SetVariableValue.leaves : SetVariableValue X → List String
  | .ident i => [i.value]
  | .literal _ => []

def ShowStatementFilter.leaves : ShowStatementFilter X → List String
  | .like pattern => [pattern]
  | .iLike _ => []
  | .«where» expr => expr.leaves

def HiveDistributionStyle.leaves : HiveDistributionStyle X → List String
  | .CLUSTERED columns _ _ => columns.map (·.value)
  | _ => []

def HiveRowFormat.leaves : HiveRowFormat → List String
  | .SERDE «class» => [«class»]
  | .DELIMITED => []

def HiveIOFormat.leaves : HiveIOFormat X → List String
  | .IOF inputFormat outputFormat => inputFormat.leaves ++ outputFormat.leaves
  | .fileFormat _ => []

def HiveFormat.leaves (hf : HiveFormat X) : List String :=
  hf.rowFormat.toList.flatMap HiveRowFormat.leaves ++
    hf.storage.toList.flatMap HiveIOFormat.leaves ++ hf.location.toList

/-- The texts a `CREATE TABLE` writes as they are: names, Hive class names and locations, and
the names of its options. -/
def CreateTable.leaves (t : CreateTable X) : List String :=
  t.name.leaves ++ t.like.toList.flatMap ObjectName.leaves ++ t.hiveDistribution.leaves ++
    t.hiveFormats.toList.flatMap HiveFormat.leaves ++ t.location.toList ++
    t.tableProperties.flatMap SqlOption.leaves ++ t.withOptions.flatMap SqlOption.leaves

/-- The texts a statement's render writes as they are: names, paths, locations, literals of
`COPY` and `LIKE`, and the leaves of its expressions and types. -/
def Statement.leaves : Statement X → List String
  | .explain _ _ statement => statement.leaves
  | .query _ => []
  | .directory _ _ path _ _ => [path]
  | .msck tableName _ _ => tableName.leaves
  | .truncate tableName partitions =>
    tableName.leaves ++ partitions.toList.flatMap Expr.leavesList
  | .analyze tableName partitions _ columns _ _ _ =>
    tableName.leaves ++ partitions.toList.flatMap Expr.leavesList ++ columns.map (·.value)
  | .insert _ tableName columns _ _ partitioned afterColumns _ =>
    tableName.leaves ++ columns.map (·.value) ++ partitioned.toList.flatMap Expr.leavesList ++
      afterColumns.map (·.value)
  | .copy tableName columns values =>
    tableName.leaves ++ columns.map (·.value) ++ values.filterMap id
  | .update tableName assignments selection limit =>
    tableName.leaves ++ assignments.flatMap Assignment.leaves ++ Expr.leavesOption selection ++
      Expr.leavesOption limit
  | .delete tableName selection => tableName.leaves ++ Expr.leavesOption selection
  | .createDatabase dbName _ location managedLocation =>
    dbName.leaves ++ location.toList ++ managedLocation.toList
  | .createView _ name columns _ _ withOptions =>
    name.leaves ++ columns.map (·.value) ++ withOptions.flatMap SqlOption.leaves
  | .createTable t => t.leaves
  | .createVirtualTable name _ moduleName moduleArgs =>
    name.leaves ++ moduleName.value :: moduleArgs.map (·.value)
  | .createIndex name tableName _ _ _ => name.leaves ++ tableName.leaves
  | .alterTable name _ => name.leaves
  | .drop _ _ names _ _ => names.flatMap ObjectName.leaves
  | .setVariable _ _ «variable» value =>
    «variable».value :: value.flatMap SetVariableValue.leaves
  | .showVariable «variable» => «variable».map (·.value)
  | .useDatabase «variable» => [«variable».value]
  | .showColumns _ _ tableName filter =>
    tableName.leaves ++ filter.toList.flatMap ShowStatementFilter.leaves
  | .startTransaction _ => []
  | .setTransaction _ _ => []
  | .setNames «variable» => [«variable».value]
  | .commit _ => []
  | .savepoint «variable» => [«variable».value]
  | .rollback _ toSavepoint => toSavepoint.toList.map (·.value)
  | .release «variable» => [«variable».value]
  | .createSchema schemaName _ => schemaName.leaves
  | .assert condition message => condition.leaves ++ Expr.leavesOption message
  | .deallocate name _ => [name.value]
  | .execute name parameters => name.value :: Expr.leavesList parameters
  | .prepare name dataTypes statement =>
    name.value :: dataTypes.flatMap DataType.leaves ++ statement.leaves

/-! ## The two unbalanced arms -/

def HiveDistributionStyle.isSkewed : HiveDistributionStyle X → Bool
  | .SKEWED _ _ _ => true
  | _ => false

/-- The statement holds neither a `SKEWED BY` distribution nor an `EXECUTE` with parameters,
also under `EXPLAIN` and `PREPARE`. -/
def Statement.avoidsSkewedExecute : Statement X → Bool
  | .explain _ _ statement => statement.avoidsSkewedExecute
  | .createTable t => !t.hiveDistribution.isSkewed
  | .execute _ parameters => parameters.isEmpty
  | .prepare _ _ statement => statement.avoidsSkewedExecute
  | _ => true

end

/-! ## Clauses keep the depth -/

theorem keepsDepth_ite {c : Prop} [Decidable c] {t e : RW Unit} (ht : t.Sat KeepsDepth)
    (he : e.Sat KeepsDepth) : (if c then t else e).Sat KeepsDepth := by
  split
  exacts [ht, he]

theorem keepsDepth_when_false {c : Prop} [Decidable c] (hc : ¬c) (t : RW Unit) :
    (when c t).Sat KeepsDepth :=
  (RW.forall_runs_when c t _).2 ⟨fun h => absurd h hc, fun _ => keepsDepth_nil⟩

theorem FileFormat.rewrite_keepsDepth (ff : FileFormat) (ctx : Context) :
    (ff.rewrite ctx).Sat KeepsDepth := by
  cases ff <;> exact write_keepsDepth (by decide)

theorem AddDropSync.rewrite_keepsDepth (a : AddDropSync) (ctx : Context) :
    (a.rewrite ctx).Sat KeepsDepth := by
  cases a <;> exact write_keepsDepth (by decide)

theorem ObjectType.rewrite_keepsDepth (t : ObjectType) (ctx : Context) :
    (t.rewrite ctx).Sat KeepsDepth := by
  cases t <;> exact write_keepsDepth (by decide)

theorem SqliteOnConflict.rewrite_keepsDepth (c : SqliteOnConflict) (ctx : Context) :
    (c.rewrite ctx).Sat KeepsDepth := by
  cases c <;> exact write_keepsDepth (by decide)

theorem TransactionMode.rewrite_keepsDepth (m : TransactionMode) (ctx : Context) :
    (m.rewrite ctx).Sat KeepsDepth := by
  rcases m with m | l
  · cases m <;> exact write_keepsDepth (by decide)
  · exact keepsDepth_bind (write_keepsDepth (by decide))
      (by cases l <;> exact write_keepsDepth (by decide))

theorem HiveRowFormat.rewrite_keepsDepth (rowFormat : HiveRowFormat) (ctx : Context)
    (h : ∀ s ∈ rowFormat.leaves, Balanced s) : (rowFormat.rewrite ctx).Sat KeepsDepth := by
  cases rowFormat with
  | SERDE «class» =>
    exact write_keepsDepth (((show Balanced " ROW FORMAT SERDE '" by decide).append
      (List.forall_mem_singleton.1 h)).append (by decide))
  | DELIMITED => exact write_keepsDepth (by decide)

section
variable {X : Foreign} {R : Renders X}

theorem Expr.allKeepsDepth_map (hR : R.Balanced) (es : List (Expr X)) (ctx : Context)
    (h : ∀ s ∈ Expr.leavesList es, Balanced s) :
    RW.AllSat KeepsDepth (es.map (Expr.rewrite R · ctx)) := by
  rw [← Expr.rewriteList_eq]
  exact Expr.rewriteList_keepsDepth hR es ctx h

theorem Expr.forall_leavesOption {o : Option (Expr X)} {P : String → Prop}
    (h : ∀ s ∈ Expr.leavesOption o, P s) : ∀ e ∈ o, ∀ s ∈ e.leaves, P s := by
  rintro e rfl
  exact h

theorem Assignment.rewrite_keepsDepth (hR : R.Balanced) (a : Assignment X) (ctx : Context)
    (h : ∀ s ∈ a.leaves, Balanced s) : (a.rewrite R ctx).Sat KeepsDepth :=
  have h := List.forall_mem_cons.1 h
  keepsDepth_bind (Ident.rewrite_keepsDepth h.1 ctx) <|
    keepsDepth_bind (write_keepsDepth (by decide)) (Expr.rewrite_keepsDepth hR a.value ctx h.2)

theorem SqlOption.rewrite_keepsDepth (hR : R.Balanced) (o : SqlOption X) (ctx : Context)
    (h : ∀ s ∈ o.leaves, Balanced s) : (o.rewrite R ctx).Sat KeepsDepth :=
  keepsDepth_bind (Ident.rewrite_keepsDepth (List.forall_mem_singleton.1 h) ctx) <|
    keepsDepth_bind (write_keepsDepth (by decide)) (write_keepsDepth (hR.value o.value ctx))

theorem SqlOption.allKeepsDepth (hR : R.Balanced) {l : List (SqlOption X)}
    (h : ∀ o ∈ l, ∀ s ∈ o.leaves, Balanced s) (ctx : Context) :
    RW.AllSat KeepsDepth (l.map (·.rewrite R ctx)) :=
  allKeepsDepth_map fun o ho => SqlOption.rewrite_keepsDepth hR o ctx (h o ho)

theorem SetVariableValue.rewrite_keepsDepth (hR : R.Balanced) (v : SetVariableValue X)
    (ctx : Context) (h : ∀ s ∈ v.leaves, Balanced s) : (v.rewrite R ctx).Sat KeepsDepth := by
  cases v with
  | ident i => exact Ident.rewrite_keepsDepth (List.forall_mem_singleton.1 h) ctx
  | literal l => exact write_keepsDepth (hR.value l ctx)

theorem ShowStatementFilter.rewrite_keepsDepth (hR : R.Balanced) (filter : ShowStatementFilter X)
    (ctx : Context) (h : ∀ s ∈ filter.leaves, Balanced s) :
    (filter.rewrite R ctx).Sat KeepsDepth := by
  cases filter with
  | like pattern =>
    exact keepsDepth_bind (write_keepsDepth (by decide)) <|
      keepsDepth_bind (write_keepsDepth (List.forall_mem_singleton.1 h).escapeSingleQuoteString)
        (write_keepsDepth (by decide))
  | iLike _ => exact pure_keepsDepth
  | «where» expr =>
    exact keepsDepth_bind (write_keepsDepth (by decide)) (Expr.rewrite_keepsDepth hR expr ctx h)

theorem HiveIOFormat.rewrite_keepsDepth (hR : R.Balanced) (storage : HiveIOFormat X)
    (external : Bool) (ctx : Context) (h : ∀ s ∈ storage.leaves, Balanced s) :
    (storage.rewrite R external ctx).Sat KeepsDepth := by
  cases storage with
  | IOF inputFormat outputFormat =>
    have h := List.forall_mem_append.1 h
    exact keepsDepth_bind (write_keepsDepth (by decide)) <|
      keepsDepth_bind (Expr.rewrite_keepsDepth hR inputFormat ctx h.1) <|
      keepsDepth_bind (write_keepsDepth (by decide))
        (Expr.rewrite_keepsDepth hR outputFormat ctx h.2)
  | fileFormat format =>
    exact keepsDepth_ite (keepsDepth_bind (write_keepsDepth (by decide))
      (FileFormat.rewrite_keepsDepth format ctx)) pure_keepsDepth

theorem HiveFormat.rewrite_keepsDepth (hR : R.Balanced) (hf : HiveFormat X) (external : Bool)
    (ctx : Context) (h : ∀ s ∈ hf.leaves, Balanced s) :
    (hf.rewrite R external ctx).Sat KeepsDepth := by
  simp only [HiveFormat.leaves, List.forall_mem_append, List.forall_mem_flatMap,
    Option.mem_toList] at h
  exact keepsDepth_bind (keepsDepth_forM fun r hr =>
      HiveRowFormat.rewrite_keepsDepth r ctx (h.1.1 r hr)) <|
    keepsDepth_bind (keepsDepth_forM fun st hst =>
      HiveIOFormat.rewrite_keepsDepth hR st external ctx (h.1.2 st hst)) <|
    keepsDepth_when _ <| keepsDepth_forM fun loc hloc => write_keepsDepth
      (((show Balanced " LOCATION '" by decide).append (h.2 loc hloc)).append (by decide))

theorem HiveDistributionStyle.rewrite_keepsDepth (hR : R.AllBalanced) (hd : HiveDistributionStyle X)
    (ctx : Context) (hs : hd.isSkewed = false) (h : ∀ s ∈ hd.leaves, Balanced s) :
    (hd.rewrite R ctx).Sat KeepsDepth := by
  cases hd with
  | PARTITIONED columns =>
    exact enclose_keepsDepth (by rfl) (keepsDepth_displayCommaSeparated
      (allKeepsDepth_map_write (hR.columnDef · ctx) columns)) (by rfl)
  | CLUSTERED columns sortedBy numBuckets =>
    exact open_keepsDepth (by rfl) <| closes_bind (keepsDepth_displayCommaSeparated
        (Ident.allKeepsDepth (List.forall_mem_map.1 h) ctx)) <|
      close_bind (by rfl) <|
      keepsDepth_bind (keepsDepth_when _ (enclose_keepsDepth (by rfl)
        (keepsDepth_displayCommaSeparated (allKeepsDepth_map_write (hR.columnDef · ctx) sortedBy))
        (by rfl))) <|
      keepsDepth_when _ (write_keepsDepth (((show Balanced " INTO " by decide).append
        (balanced_intToString numBuckets)).append (by decide)))
  | SKEWED => simp [HiveDistributionStyle.isSkewed] at hs
  | NONE => exact pure_keepsDepth

theorem CreateTable.rewriteColumns_keepsDepth (hR : R.AllBalanced) (t : CreateTable X)
    (ctx : Context) : (t.rewriteColumns R ctx).Sat KeepsDepth := by
  unfold CreateTable.rewriteColumns
  split_ifs
  · exact open_keepsDepth (by rfl) <| closes_bind (keepsDepth_displayCommaSeparated
        (allKeepsDepth_map_write (hR.columnDef · ctx) _)) <|
      closes_bind (keepsDepth_when _ (write_keepsDepth (by decide))) <|
      closes_bind (keepsDepth_displayCommaSeparated
        (allKeepsDepth_map_write (hR.tableConstraint · ctx) _)) (close_write (by rfl))
  · exact write_keepsDepth (by decide)
  · exact pure_keepsDepth

theorem CreateTable.rewrite_keepsDepth (hR : R.AllBalanced) (t : CreateTable X) (ctx : Context)
    (hs : t.hiveDistribution.isSkewed = false) (h : ∀ s ∈ t.leaves, Balanced s) :
    (t.rewrite R ctx).Sat KeepsDepth := by
  simp only [CreateTable.leaves, List.forall_mem_append, List.forall_mem_flatMap,
    Option.mem_toList, and_assoc] at h
  obtain ⟨hn, hl, hd, hf, hloc, hp, hw⟩ := h
  exact keepsDepth_bind (write_keepsDepth (by split_ifs <;> decide)) <|
    keepsDepth_bind (ObjectName.rewrite_keepsDepth hn ctx) <|
    keepsDepth_bind (t.rewriteColumns_keepsDepth hR ctx) <|
    keepsDepth_bind (keepsDepth_when _ (write_keepsDepth (by decide))) <|
    keepsDepth_bind (keepsDepth_forM fun l hl' => keepsDepth_bind (write_keepsDepth (by decide))
      (ObjectName.rewrite_keepsDepth (hl l hl') ctx)) <|
    keepsDepth_bind (t.hiveDistribution.rewrite_keepsDepth hR ctx hs hd) <|
    keepsDepth_bind (keepsDepth_forM fun f hf' =>
      HiveFormat.rewrite_keepsDepth hR.toBalanced f t.external ctx (hf f hf')) <|
    keepsDepth_bind (keepsDepth_when _ <| keepsDepth_bind (write_keepsDepth (by decide)) <|
      keepsDepth_unwrap_bind fun ff _ => keepsDepth_bind (FileFormat.rewrite_keepsDepth ff ctx) <|
      keepsDepth_bind (write_keepsDepth (by decide)) <|
      keepsDepth_unwrap_bind fun loc hloc' =>
        keepsDepth_bind (write_keepsDepth (hloc loc hloc')) (write_keepsDepth (by decide))) <|
    keepsDepth_bind (keepsDepth_when _ <| enclose_keepsDepth (by rfl)
      (keepsDepth_displayCommaSeparated (SqlOption.allKeepsDepth hR.toBalanced hp ctx)) (by rfl)) <|
    keepsDepth_bind (keepsDepth_when _ <| enclose_keepsDepth (by rfl)
      (keepsDepth_displayCommaSeparated (SqlOption.allKeepsDepth hR.toBalanced hw ctx)) (by rfl)) <|
    keepsDepth_forM fun q _ =>
      keepsDepth_bind (write_keepsDepth (by decide)) (write_keepsDepth (hR.query q ctx))

/-- **Balanced statements.** Without the two unbalanced arms, every run of
`Statement::rewrite` keeps the depth. -/
theorem Statement.rewrite_keepsDepth (hR : R.AllBalanced) : ∀ (st : Statement X) (ctx : Context),
    st.avoidsSkewedExecute = true → (∀ s ∈ st.leaves, Balanced s) →
      (Statement.rewrite R st ctx).Sat KeepsDepth
  | .explain _ _ statement, ctx, ha, h =>
    keepsDepth_bind (write_keepsDepth (by decide)) <|
      keepsDepth_bind (keepsDepth_when _ (write_keepsDepth (by decide))) <|
      keepsDepth_bind (keepsDepth_when _ (write_keepsDepth (by decide))) <|
      Statement.rewrite_keepsDepth hR statement ctx ha h
  | .query s, ctx, _, _ => write_keepsDepth (hR.query s ctx)
  | .directory _ _ path _ source, ctx, _, h =>
    keepsDepth_bind (write_keepsDepth (Balanced.append (Balanced.append (by split_ifs <;> decide)
        (List.forall_mem_singleton.1 h)) (by decide))) <|
      keepsDepth_bind (keepsDepth_forM fun ff _ => keepsDepth_bind (write_keepsDepth (by decide))
        (FileFormat.rewrite_keepsDepth ff ctx)) <|
      write_keepsDepth (hR.query source ctx)
  | .msck tableName _ _, ctx, _, h =>
    keepsDepth_bind (write_keepsDepth (by split_ifs <;> decide)) <|
      keepsDepth_bind (ObjectName.rewrite_keepsDepth h ctx) <|
      keepsDepth_forM fun pa _ => keepsDepth_bind (write_keepsDepth (by decide))
        (AddDropSync.rewrite_keepsDepth pa ctx)
  | .truncate tableName partitions, ctx, _, h => by
    simp only [Statement.leaves, List.forall_mem_append, List.forall_mem_flatMap,
      Option.mem_toList] at h
    exact keepsDepth_bind (write_keepsDepth (by decide)) <|
      keepsDepth_bind (ObjectName.rewrite_keepsDepth h.1 ctx) <|
      keepsDepth_forM fun parts hp => keepsDepth_when _ <| enclose_keepsDepth (by rfl)
        (keepsDepth_displayCommaSeparated
          (Expr.allKeepsDepth_map hR.toBalanced parts ctx (h.2 parts hp))) (by rfl)
  | .analyze tableName partitions _ columns _ _ _, ctx, _, h => by
    simp only [Statement.leaves, List.forall_mem_append, List.forall_mem_flatMap,
      List.forall_mem_map, Option.mem_toList] at h
    exact keepsDepth_bind (write_keepsDepth (by decide)) <|
      keepsDepth_bind (ObjectName.rewrite_keepsDepth h.1.1 ctx) <|
      keepsDepth_bind (keepsDepth_forM fun parts hp => keepsDepth_when _ <|
        enclose_keepsDepth (by rfl) (keepsDepth_displayCommaSeparated
          (Expr.allKeepsDepth_map hR.toBalanced parts ctx (h.1.2 parts hp))) (by rfl)) <|
      keepsDepth_bind (keepsDepth_when _ (write_keepsDepth (by decide))) <|
      keepsDepth_bind (keepsDepth_when _ (write_keepsDepth (by decide))) <|
      keepsDepth_bind (keepsDepth_when _ (write_keepsDepth (by decide))) <|
      keepsDepth_when _ <| keepsDepth_bind (write_keepsDepth (by decide)) <|
        keepsDepth_when _ <| keepsDepth_bind (write_keepsDepth (by decide)) <|
          keepsDepth_displayCommaSeparated (Ident.allKeepsDepth h.2 ctx)
  | .insert onConflict tableName columns _ source partitioned afterColumns _, ctx, _, h => by
    simp only [Statement.leaves, List.forall_mem_append, List.forall_mem_flatMap,
      List.forall_mem_map, Option.mem_toList, and_assoc] at h
    obtain ⟨hn, hc, hp, hac⟩ := h
    refine keepsDepth_bind ?_ <|
      keepsDepth_bind (keepsDepth_when _ <| enclose_keepsDepth (by rfl)
        (keepsDepth_displayCommaSeparated (Ident.allKeepsDepth hc ctx)) (by rfl)) <|
      keepsDepth_bind (keepsDepth_forM fun parts hparts => keepsDepth_when _ <|
        enclose_keepsDepth (by rfl) (keepsDepth_displayCommaSeparated
          (Expr.allKeepsDepth_map hR.toBalanced parts ctx (hp parts hparts))) (by rfl)) <|
      keepsDepth_bind (keepsDepth_when _ <| enclose_keepsDepth (by rfl)
        (keepsDepth_displayCommaSeparated (Ident.allKeepsDepth hac ctx)) (by rfl)) <|
      write_keepsDepth (hR.query source ctx)
    cases onConflict with
    | some action =>
      exact keepsDepth_bind (write_keepsDepth (by decide)) <|
        keepsDepth_bind (SqliteOnConflict.rewrite_keepsDepth action ctx) <|
        keepsDepth_bind (write_keepsDepth (by decide)) <|
        keepsDepth_bind (ObjectName.rewrite_keepsDepth hn ctx) (write_keepsDepth (by decide))
    | none =>
      exact keepsDepth_bind (write_keepsDepth (by split_ifs <;> decide)) <|
        keepsDepth_bind (ObjectName.rewrite_keepsDepth hn ctx) (write_keepsDepth (by decide))
  | .copy tableName columns values, ctx, _, h => by
    simp only [Statement.leaves, List.forall_mem_append, List.forall_mem_map,
      List.forall_mem_filterMap, id] at h
    exact keepsDepth_bind (write_keepsDepth (by decide)) <|
      keepsDepth_bind (ObjectName.rewrite_keepsDepth h.1.1 ctx) <|
      keepsDepth_bind (keepsDepth_when _ <| enclose_keepsDepth (by rfl)
        (keepsDepth_displayCommaSeparated (Ident.allKeepsDepth h.1.2 ctx)) (by rfl)) <|
      keepsDepth_bind (write_keepsDepth (by decide)) <|
      keepsDepth_bind (keepsDepth_when _ <| keepsDepth_bind (write_keepsDepth (by decide)) <|
        keepsDepth_displaySeparated (by decide) <| allKeepsDepth_map fun v hv => write_keepsDepth
          (by cases v with
              | none => decide
              | some b => exact h.2 _ hv b rfl)) <|
      write_keepsDepth (by decide)
  | .update tableName assignments selection limit, ctx, _, h => by
    simp only [Statement.leaves, List.forall_mem_append, List.forall_mem_flatMap] at h
    exact keepsDepth_bind (write_keepsDepth (by decide)) <|
      keepsDepth_bind (ObjectName.rewrite_keepsDepth h.1.1.1 ctx) <|
      keepsDepth_bind (keepsDepth_when _ <| keepsDepth_bind (write_keepsDepth (by decide)) <|
        keepsDepth_displayCommaSeparated <| allKeepsDepth_map fun a ha' =>
          Assignment.rewrite_keepsDepth hR.toBalanced a ctx (h.1.1.2 a ha')) <|
      keepsDepth_bind (keepsDepth_forM fun e he => keepsDepth_bind (write_keepsDepth (by decide))
        (Expr.rewrite_keepsDepth hR.toBalanced e ctx (Expr.forall_leavesOption h.1.2 e he))) <|
      keepsDepth_forM fun e he => keepsDepth_bind (write_keepsDepth (by decide))
        (Expr.rewrite_keepsDepth hR.toBalanced e ctx (Expr.forall_leavesOption h.2 e he))
  | .delete tableName selection, ctx, _, h =>
    have h := List.forall_mem_append.1 h
    keepsDepth_bind (write_keepsDepth (by decide)) <|
      keepsDepth_bind (ObjectName.rewrite_keepsDepth h.1 ctx) <|
      keepsDepth_forM fun e he => keepsDepth_bind (write_keepsDepth (by decide))
        (Expr.rewrite_keepsDepth hR.toBalanced e ctx (Expr.forall_leavesOption h.2 e he))
  | .createDatabase dbName _ location managedLocation, ctx, _, h => by
    simp only [Statement.leaves, List.forall_mem_append, Option.mem_toList] at h
    exact keepsDepth_bind (write_keepsDepth (by decide)) <|
      keepsDepth_bind (keepsDepth_when _ (write_keepsDepth (by decide))) <|
      keepsDepth_bind (write_keepsDepth (by decide)) <|
      keepsDepth_bind (ObjectName.rewrite_keepsDepth h.1.1 ctx) <|
      keepsDepth_bind (keepsDepth_forM fun l hl => write_keepsDepth
        (((show Balanced " LOCATION '" by decide).append (h.1.2 l hl)).append (by decide))) <|
      keepsDepth_forM fun l hl => write_keepsDepth
        (((show Balanced " MANAGEDLOCATION '" by decide).append (h.2 l hl)).append (by decide))
  | .createView _ name columns viewQuery _ withOptions, ctx, _, h => by
    simp only [Statement.leaves, List.forall_mem_append, List.forall_mem_map,
      List.forall_mem_flatMap] at h
    exact keepsDepth_bind (write_keepsDepth (by split_ifs <;> decide)) <|
      keepsDepth_bind (ObjectName.rewrite_keepsDepth h.1.1 ctx) <|
      keepsDepth_bind (keepsDepth_when _ <| enclose_keepsDepth (by rfl)
        (keepsDepth_displayCommaSeparated (SqlOption.allKeepsDepth hR.toBalanced h.2 ctx))
        (by rfl)) <|
      keepsDepth_bind (keepsDepth_when _ <| enclose_keepsDepth (by rfl)
        (keepsDepth_displayCommaSeparated (Ident.allKeepsDepth h.1.2 ctx)) (by rfl)) <|
      keepsDepth_bind (write_keepsDepth (by decide)) (write_keepsDepth (hR.query viewQuery ctx))
  | .createTable t, ctx, ha, h =>
    CreateTable.rewrite_keepsDepth hR t ctx (by simpa [Statement.avoidsSkewedExecute] using ha) h
  | .createVirtualTable name _ moduleName moduleArgs, ctx, _, h => by
    simp only [Statement.leaves, List.forall_mem_append, List.forall_mem_cons,
      List.forall_mem_map] at h
    exact keepsDepth_bind (write_keepsDepth (by split_ifs <;> decide)) <|
      keepsDepth_bind (ObjectName.rewrite_keepsDepth h.1 ctx) <|
      keepsDepth_bind (write_keepsDepth (by decide)) <|
      keepsDepth_bind (Ident.rewrite_keepsDepth h.2.1 ctx) <|
      keepsDepth_when _ <| enclose_keepsDepth (by rfl)
        (keepsDepth_displayCommaSeparated (Ident.allKeepsDepth h.2.2 ctx)) (by rfl)
  | .createIndex name tableName columns _ _, ctx, _, h =>
    have h := List.forall_mem_append.1 h
    keepsDepth_bind (write_keepsDepth (by split_ifs <;> decide)) <|
      keepsDepth_bind (ObjectName.rewrite_keepsDepth h.1 ctx) <|
      keepsDepth_bind (write_keepsDepth (by decide)) <|
      keepsDepth_bind (ObjectName.rewrite_keepsDepth h.2 ctx) <|
      enclose_keepsDepth (by rfl) (keepsDepth_displaySeparated (by decide)
        (allKeepsDepth_map_write (hR.orderByExpr · ctx) columns)) (by rfl)
  | .alterTable name operation, ctx, _, h =>
    keepsDepth_bind (write_keepsDepth (by decide)) <|
      keepsDepth_bind (ObjectName.rewrite_keepsDepth h ctx) <|
      keepsDepth_bind (write_keepsDepth (by decide))
        (write_keepsDepth (hR.alterTableOperation operation ctx))
  | .drop objectType _ names _ _, ctx, _, h =>
    keepsDepth_bind (write_keepsDepth (by decide)) <|
      keepsDepth_bind (ObjectType.rewrite_keepsDepth objectType ctx) <|
      keepsDepth_bind (write_keepsDepth (by split_ifs <;> decide)) <|
      keepsDepth_bind (keepsDepth_displayCommaSeparated <| allKeepsDepth_map fun n hn =>
        ObjectName.rewrite_keepsDepth (List.forall_mem_flatMap.1 h n hn) ctx) <|
      write_keepsDepth (by split_ifs <;> decide)
  | .setVariable _ _ «variable» value, ctx, _, h =>
    have h := List.forall_mem_cons.1 h
    keepsDepth_bind (write_keepsDepth (by decide)) <|
      keepsDepth_bind (keepsDepth_when _ (write_keepsDepth (by decide))) <|
      keepsDepth_bind (write_keepsDepth (by split_ifs <;> decide)) <|
      keepsDepth_bind (Ident.rewrite_keepsDepth h.1 ctx) <|
      keepsDepth_bind (write_keepsDepth (by decide)) <|
      keepsDepth_displayCommaSeparated <| allKeepsDepth_map fun v hv =>
        SetVariableValue.rewrite_keepsDepth hR.toBalanced v ctx (List.forall_mem_flatMap.1 h.2 v hv)
  | .showVariable «variable», ctx, _, h =>
    keepsDepth_bind (write_keepsDepth (by decide)) <| keepsDepth_when _ <|
      keepsDepth_bind (write_keepsDepth (by decide)) <|
      keepsDepth_displaySeparated (by decide) (Ident.allKeepsDepth (List.forall_mem_map.1 h) ctx)
  | .useDatabase «variable», ctx, _, h =>
    keepsDepth_bind (write_keepsDepth (by decide))
      (Ident.rewrite_keepsDepth (List.forall_mem_singleton.1 h) ctx)
  | .showColumns _ _ tableName filter, ctx, _, h => by
    simp only [Statement.leaves, List.forall_mem_append, List.forall_mem_flatMap,
      Option.mem_toList] at h
    exact keepsDepth_bind (write_keepsDepth (by split_ifs <;> decide)) <|
      keepsDepth_bind (ObjectName.rewrite_keepsDepth h.1 ctx) <|
      keepsDepth_forM fun f hf => keepsDepth_bind (write_keepsDepth (by decide))
        (ShowStatementFilter.rewrite_keepsDepth hR.toBalanced f ctx (h.2 f hf))
  | .startTransaction modes, ctx, _, _ =>
    keepsDepth_bind (write_keepsDepth (by decide)) <| keepsDepth_when _ <|
      keepsDepth_bind (write_keepsDepth (by decide)) <| keepsDepth_displayCommaSeparated <|
        allKeepsDepth_map fun m _ => TransactionMode.rewrite_keepsDepth m ctx
  | .setTransaction _ modes, ctx, _, _ =>
    keepsDepth_bind (write_keepsDepth (by split_ifs <;> decide)) <| keepsDepth_when _ <|
      keepsDepth_bind (write_keepsDepth (by decide)) <| keepsDepth_displayCommaSeparated <|
        allKeepsDepth_map fun m _ => TransactionMode.rewrite_keepsDepth m ctx
  | .setNames «variable», ctx, _, h =>
    keepsDepth_bind (write_keepsDepth (by decide))
      (Ident.rewrite_keepsDepth (List.forall_mem_singleton.1 h) ctx)
  | .commit _, _, _, _ => write_keepsDepth (by split_ifs <;> decide)
  | .savepoint «variable», ctx, _, h =>
    keepsDepth_bind (write_keepsDepth (by decide))
      (Ident.rewrite_keepsDepth (List.forall_mem_singleton.1 h) ctx)
  | .rollback _ toSavepoint, ctx, _, h => by
    cases toSavepoint with
    | some sp =>
      exact keepsDepth_bind (write_keepsDepth (by decide))
        (Ident.rewrite_keepsDepth (List.forall_mem_singleton.1 h) ctx)
    | none => exact write_keepsDepth (by split_ifs <;> decide)
  | .release «variable», ctx, _, h =>
    keepsDepth_bind (write_keepsDepth (by decide))
      (Ident.rewrite_keepsDepth (List.forall_mem_singleton.1 h) ctx)
  | .createSchema schemaName _, ctx, _, h =>
    keepsDepth_bind (write_keepsDepth (by split_ifs <;> decide))
      (ObjectName.rewrite_keepsDepth h ctx)
  | .assert condition message, ctx, _, h =>
    have h := List.forall_mem_append.1 h
    keepsDepth_bind (write_keepsDepth (by decide)) <|
      keepsDepth_bind (Expr.rewrite_keepsDepth hR.toBalanced condition ctx h.1) <|
      keepsDepth_forM fun m hm => keepsDepth_bind (write_keepsDepth (by decide))
        (Expr.rewrite_keepsDepth hR.toBalanced m ctx (Expr.forall_leavesOption h.2 m hm))
  | .deallocate name _, ctx, _, h =>
    keepsDepth_bind (write_keepsDepth (by split_ifs <;> decide))
      (Ident.rewrite_keepsDepth (List.forall_mem_singleton.1 h) ctx)
  | .execute name parameters, ctx, ha, h =>
    keepsDepth_bind (write_keepsDepth (by decide)) <|
      keepsDepth_bind (Ident.rewrite_keepsDepth (List.forall_mem_cons.1 h).1 ctx) <|
      keepsDepth_when_false (by simpa [Statement.avoidsSkewedExecute] using ha) _
  | .prepare name dataTypes statement, ctx, ha, h => by
    simp only [Statement.leaves, List.forall_mem_cons, List.forall_mem_append,
      List.forall_mem_flatMap] at h
    exact keepsDepth_bind (write_keepsDepth (by decide)) <|
      keepsDepth_bind (Ident.rewrite_keepsDepth h.1.1 ctx) <|
      keepsDepth_bind (write_keepsDepth (by decide)) <|
      keepsDepth_bind (keepsDepth_when _ <| enclose_keepsDepth (by rfl)
        (keepsDepth_displayCommaSeparated <| allKeepsDepth_map fun d hd =>
          DataType.rewrite_keepsDepth (h.1.2 d hd) ctx) (by rfl)) <|
      keepsDepth_bind (write_keepsDepth (by decide)) <|
      Statement.rewrite_keepsDepth hR statement ctx ha h.2

end

/-! ## The two arms that unbalance -/

/-- Read with `k` parentheses open, the run closes one that is not open, so that nothing
written after it brings the text back to balance. -/
def Breaks (k : Nat) (w : List String) : Prop := ∀ v, ¬Closes k (w ++ v)

theorem Breaks.not_keepsDepth {w : List String} (h : Breaks 0 w) : ¬KeepsDepth w := by
  simpa using h []

theorem breaks_bind_left {m : RW Unit} {k : Nat} (hm : m.Sat (Breaks k)) (f : Unit → RW Unit) :
    (m >>= f).Sat (Breaks k) := by
  simp only [RW.Sat, RW.forall_runs_bind]
  intro a ha b _ v
  rw [List.append_assoc]
  exact hm a ha _

theorem breaks_bind_right {m : RW Unit} (hm : m.Sat KeepsDepth) {f : Unit → RW Unit} {k : Nat}
    (hf : (f ()).Sat (Breaks k)) : (m >>= f).Sat (Breaks k) := by
  simp only [RW.Sat, RW.forall_runs_bind]
  intro a ha b hb v
  rw [List.append_assoc, closes_append_keeps (hm a ha)]
  exact hf b hb v

theorem open_breaks {pre : String} (hpre : parenEffect pre.data = (0, 1)) {f : Unit → RW Unit}
    (hf : (f ()).Sat (Breaks 1)) : (write pre >>= f).Sat (Breaks 0) := by
  simp only [RW.Sat, RW.forall_runs_bind, RW.runs_write, forall_eq', List.singleton_append,
    Breaks, List.cons_append, closes_cons, hpre]
  exact fun w hw v h => hf w hw v h.2

/-- A text that closes more parentheses than are open. -/
theorem write_bind_breaks {s : String} {k : Nat} (hs : k < (parenEffect s.data).1)
    (f : Unit → RW Unit) : (write s >>= f).Sat (Breaks k) := by
  simp only [RW.Sat, RW.forall_runs_bind, RW.runs_write, forall_eq', List.singleton_append,
    Breaks, List.cons_append, closes_cons]
  exact fun _ _ _ h => absurd h.1 (by omega)

theorem notKeepsDepth_bind_right {m : RW Unit} (hm : m.Sat KeepsDepth) {f : Unit → RW Unit}
    (hf : (f ()).Sat (¬KeepsDepth ·)) : (m >>= f).Sat (¬KeepsDepth ·) := by
  simp only [RW.Sat, RW.forall_runs_bind]
  intro a ha b hb
  rw [keepsDepth_append_keeps (hm a ha)]
  exact hf b hb

/-- An opening text, a run that keeps the depth, and a text that closes nothing: one
parenthesis stays open. -/
theorem unclosed_not_keepsDepth {pre post : String} (hpre : parenEffect pre.data = (0, 1))
    {m : RW Unit} (hm : m.Sat KeepsDepth) (hpost : parenEffect post.data = (0, 0)) :
    (do write pre; m; write post : RW Unit).Sat (¬KeepsDepth ·) := by
  simp only [RW.Sat, RW.forall_runs_bind, RW.runs_write, forall_eq', List.singleton_append,
    KeepsDepth, closes_cons, hpre]
  intro a ha h
  rw [closes_append_keeps (hm a ha), closes_cons, hpost, closes_nil] at h
  exact absurd h.2 (by decide)

theorem sat_when_of {P : List String → Prop} {c : Prop} [Decidable c] (hc : c) {t : RW Unit}
    (ht : t.Sat P) : (when c t).Sat P :=
  (RW.forall_runs_when c t P).2 ⟨fun _ => ht, fun h => absurd hc h⟩

section
variable {X : Foreign} {R : Renders X}

/-- `SKEWED BY (…)) ON (…)`: the second `)` closes a parenthesis the text did not open. -/
theorem HiveDistributionStyle.rewrite_skewed_breaks (hR : R.AllBalanced)
    (columns «on» : List (ColumnDef X)) (storedAsDirectories : Bool) (ctx : Context) :
    ((HiveDistributionStyle.SKEWED columns «on» storedAsDirectories).rewrite R ctx).Sat
      (Breaks 0) :=
  open_breaks (by rfl) <| breaks_bind_right (keepsDepth_displayCommaSeparated
    (allKeepsDepth_map_write (hR.columnDef · ctx) columns)) (write_bind_breaks (by decide) _)

theorem CreateTable.rewrite_skewed_breaks (hR : R.AllBalanced) (t : CreateTable X)
    (ctx : Context) (hs : t.hiveDistribution.isSkewed = true) (h : ∀ s ∈ t.leaves, Balanced s) :
    (t.rewrite R ctx).Sat (Breaks 0) := by
  simp only [CreateTable.leaves, List.forall_mem_append, List.forall_mem_flatMap,
    Option.mem_toList, and_assoc] at h
  obtain ⟨hn, hl, -⟩ := h
  obtain ⟨columns, «on», storedAsDirectories, hd⟩ :
      ∃ c o s, t.hiveDistribution = .SKEWED c o s := by
    cases hd : t.hiveDistribution <;> simp_all [HiveDistributionStyle.isSkewed]
  refine breaks_bind_right (write_keepsDepth (by split_ifs <;> decide)) <|
    breaks_bind_right (ObjectName.rewrite_keepsDepth hn ctx) <|
    breaks_bind_right (t.rewriteColumns_keepsDepth hR ctx) <|
    breaks_bind_right (keepsDepth_when _ (write_keepsDepth (by decide))) <|
    breaks_bind_right (keepsDepth_forM fun l hl' => keepsDepth_bind (write_keepsDepth (by decide))
      (ObjectName.rewrite_keepsDepth (hl l hl') ctx)) <|
    breaks_bind_left ?_ _
  rw [hd]
  exact HiveDistributionStyle.rewrite_skewed_breaks hR columns «on» storedAsDirectories ctx

/-- **Unbalanced statements.** With a `SKEWED BY` distribution or an `EXECUTE` with parameters,
no run of `Statement::rewrite` keeps the depth. -/
theorem Statement.rewrite_not_keepsDepth (hR : R.AllBalanced) :
    ∀ (st : Statement X) (ctx : Context), st.avoidsSkewedExecute = false →
      (∀ s ∈ st.leaves, Balanced s) → (Statement.rewrite R st ctx).Sat (¬KeepsDepth ·)
  | st, ctx, ha, h => by
    cases st with
    | explain _ _ statement =>
      exact notKeepsDepth_bind_right (write_keepsDepth (by decide)) <|
        notKeepsDepth_bind_right (keepsDepth_when _ (write_keepsDepth (by decide))) <|
        notKeepsDepth_bind_right (keepsDepth_when _ (write_keepsDepth (by decide))) <|
        Statement.rewrite_not_keepsDepth hR statement ctx ha h
    | createTable t =>
      exact fun w hw => (CreateTable.rewrite_skewed_breaks hR t ctx
        (by simpa [Statement.avoidsSkewedExecute] using ha) h w hw).not_keepsDepth
    | execute name parameters =>
      exact notKeepsDepth_bind_right (write_keepsDepth (by decide)) <|
        notKeepsDepth_bind_right (Ident.rewrite_keepsDepth (List.forall_mem_cons.1 h).1 ctx) <|
        sat_when_of (by simpa [Statement.avoidsSkewedExecute] using ha) <|
        unclosed_not_keepsDepth (by rfl) (keepsDepth_displayCommaSeparated
          (Expr.allKeepsDepth_map hR.toBalanced parameters ctx (List.forall_mem_cons.1 h).2))
          (by rfl)
    | prepare name dataTypes statement =>
      simp only [Statement.leaves, List.forall_mem_cons, List.forall_mem_append,
        List.forall_mem_flatMap] at h
      exact notKeepsDepth_bind_right (write_keepsDepth (by decide)) <|
        notKeepsDepth_bind_right (Ident.rewrite_keepsDepth h.1.1 ctx) <|
        notKeepsDepth_bind_right (write_keepsDepth (by decide)) <|
        notKeepsDepth_bind_right (keepsDepth_when _ <| enclose_keepsDepth (by rfl)
          (keepsDepth_displayCommaSeparated <| allKeepsDepth_map fun d hd =>
            DataType.rewrite_keepsDepth (h.1.2 d hd) ctx) (by rfl)) <|
        notKeepsDepth_bind_right (write_keepsDepth (by decide)) <|
        Statement.rewrite_not_keepsDepth hR statement ctx ha h.2
    | _ => simp [Statement.avoidsSkewedExecute] at ha

/-- **Exactly two arms unbalance.** Whenever the texts a statement holds and the renders of the
nodes outside these files are balanced, a successful run of `Statement::rewrite` writes
balanced text exactly when the statement has neither a `SKEWED BY` distribution nor an
`EXECUTE` with parameters. -/
theorem renderPass_statement_balanced_iff (hR : R.AllBalanced) (st : Statement X)
    (ctx : Context) (h : ∀ s ∈ st.leaves, Balanced s) (w : List String)
    (hw : (Statement.rewrite R st ctx).out = .ok w) :
    Balanced (String.join w) ↔ st.avoidsSkewedExecute = true := by
  rw [← keepsDepth_iff_balanced]
  cases ha : st.avoidsSkewedExecute
  · simpa using Statement.rewrite_not_keepsDepth hR st ctx ha h w hw
  · simpa using Statement.rewrite_keepsDepth hR st ctx ha h w hw

end

/-- Renders for `Foreign.balancedText` whose column definitions write a fixed clause. -/
def Renders.balancedClauses : Renders Foreign.balancedText :=
  { Renders.balancedText with columnDef := fun _ _ => "c INT" }

theorem Renders.balancedClauses_allBalanced : Renders.balancedClauses.AllBalanced :=
  ⟨⟨fun q _ => q.2, fun v _ => v.2, fun d _ => d.2, fun o _ => o.2⟩,
    fun _ _ => show Martlet.Balanced "c INT" by decide,
    fun _ _ => show Martlet.Balanced "UNIQUE (id)" by decide,
    fun _ _ => show Martlet.Balanced "DROP COLUMN c" by decide⟩

/-- `EXECUTE p(1()`: the parameter list is left open, and the statement has an `EXECUTE` with
parameters. -/
theorem renderPass_statement_balanced_iff_execute :
    (Statement.rewrite Renders.balancedClauses
        (.execute ⟨"p", none⟩ [.value ⟨"1", by decide⟩]) []).out =
        .ok ["EXECUTE ", "p", "(", "", "1", "()"] ∧
      (Balanced (String.join ["EXECUTE ", "p", "(", "", "1", "()"]) ↔
        (Statement.execute ⟨"p", none⟩ [.value ⟨"1", by decide⟩] :
          Statement Foreign.balancedText).avoidsSkewedExecute = true) :=
  ⟨by decide, renderPass_statement_balanced_iff Renders.balancedClauses_allBalanced
    (.execute ⟨"p", none⟩ [.value ⟨"1", by decide⟩]) [] (by decide)
    ["EXECUTE ", "p", "(", "", "1", "()"] (by decide)⟩

end Martlet
