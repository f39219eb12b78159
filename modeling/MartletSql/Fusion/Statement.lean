import MartletSql.Fusion

/-!
# MartletSql — token separation of statement renders

`directory_fileFormat_fused` finds one seam of `Statement::rewrite` where two fragments are
written with nothing between them that keeps them apart. This module shows that it is the
only one.

* **`Statement.fusesFileFormat`** — the statement is an `INSERT DIRECTORY … STORED AS` whose
  source query text starts with a word character, also under `EXPLAIN` and `PREPARE`.
* **`Statement.rewrite_noFusion`** — otherwise no run fuses. Each arm is checked along its `do`
  block: a clause that opens with a space is guarded, one that closes with a space is
  end-guarded, and a child's run enters only through what its own theorem says of it.
* **`Statement.rewrite_fuses`** — with it every run fuses: every file format ends in a letter.
* **`renderPass_statement_noFusion_iff`** — so a successful run keeps its fragments apart
  exactly when the statement is not such an `INSERT DIRECTORY`.
-/

namespace Martlet

/-! ## End-guarded runs

The mirror image of `Guarded`: nothing written after an end-guarded run can fuse with it. -/

/-- The run does not fuse and does not end in a word character. -/
def EndGuarded (w : List String) : Prop := NoFusion w ∧ endsWord (String.join w) = false

theorem endGuarded_nil : EndGuarded [] := ⟨noFusion_nil, rfl⟩

theorem endsWord_append_of_ne (a : String) {b : String} (hb : b ≠ "") :
    endsWord (a ++ b) = endsWord b := by
  rw [endsWord_append, if_neg hb]

/-- Anything that does not fuse can follow an end-guarded run. -/
theorem noFusion_append_of_endGuarded {a b : List String} (ha : EndGuarded a)
    (hb : NoFusion b) : NoFusion (a ++ b) :=
  (noFusion_append a b).2 ⟨ha.1, hb, by simp [fuses, ha.2]⟩

theorem endGuarded_append {a b : List String} (ha : EndGuarded a) (hb : EndGuarded b) :
    EndGuarded (a ++ b) :=
  ⟨noFusion_append_of_endGuarded ha hb.1, by
    rw [join_append, endsWord_append]; split <;> simp [ha.2, hb.2]⟩

/-- A keyword that separates, between a run that does not fuse and an end-guarded one. -/
theorem endGuarded_append_keyword_cons {a : List String} (ha : NoFusion a) {kw : String}
    (hk : separates kw = true) {b : List String} (hb : EndGuarded b) :
    EndGuarded (a ++ kw :: b) := by
  refine ⟨noFusion_append_guarded ha (guarded_keyword_cons hk hb.1), ?_⟩
  simp only [separates, Bool.and_eq_true, decide_eq_true_eq, Bool.not_eq_true'] at hk
  rw [join_append, join_cons, ← String.append_assoc, endsWord_append]
  split
  · rw [endsWord_append_of_ne _ hk.1.1, hk.2]
  · exact hb.2

/-! ## Runs -/

theorem endGuarded_write {s : String} (hs : endsWord s = false) : (write s).Sat EndGuarded := by
  simp [RW.Sat, EndGuarded, fuses, hs]

theorem pure_endGuarded : (pure () : RW Unit).Sat EndGuarded := by
  simpa [RW.Sat] using endGuarded_nil

section
variable {m : RW Unit} {k : Unit → RW Unit}

theorem endGuarded_bind_noFusion (hm : m.Sat EndGuarded) (hk : (k ()).Sat NoFusion) :
    (m >>= k).Sat NoFusion := by
  simp only [RW.Sat, RW.forall_runs_bind]
  exact fun a ha b hb => noFusion_append_of_endGuarded (hm a ha) (hk b hb)

theorem endGuarded_bind (hm : m.Sat EndGuarded) (hk : (k ()).Sat EndGuarded) :
    (m >>= k).Sat EndGuarded := by
  simp only [RW.Sat, RW.forall_runs_bind]
  exact fun a ha b hb => endGuarded_append (hm a ha) (hk b hb)

/-- A keyword that separates, after a run that does not fuse and before an end-guarded one. -/
theorem noFusion_bind_keyword_bind {kw : String} (hm : m.Sat NoFusion) (hkw : separates kw = true)
    (hk : (k ()).Sat EndGuarded) : (m >>= fun _ => write kw >>= k).Sat EndGuarded := by
  simp only [RW.Sat, RW.forall_runs_bind, RW.runs_write, forall_eq', List.singleton_append]
  exact fun a ha b hb => endGuarded_append_keyword_cons (hm a ha) hkw (hk b hb)

/-- A closing keyword that separates. -/
theorem noFusion_bind_keyword {kw : String} (hm : m.Sat NoFusion) (hkw : separates kw = true) :
    (m >>= fun _ => write kw).Sat EndGuarded := by
  simp only [RW.Sat, RW.forall_runs_bind, RW.runs_write, forall_eq']
  exact fun a ha => endGuarded_append_keyword_cons (hm a ha) hkw endGuarded_nil

end

/-- `pre`, a run that does not fuse, and `post`: guarded when `pre` separates and `post` does
not start with a word character. -/
theorem enclose_guarded {pre post : String} (hpre : separates pre = true) {m : RW Unit}
    (hm : m.Sat NoFusion) (hpost : startsWord post = false) :
    (do write pre; m; write post : RW Unit).Sat Guarded :=
  keyword_bind_guarded hpre (noFusion_bind_guarded hm (guarded_write hpost))

/-- `pre`, a run that does not fuse, and `post`: end-guarded when `pre` does not end in a word
character and `post` separates. -/
theorem enclose_endGuarded {pre post : String} (hpre : endsWord pre = false) {m : RW Unit}
    (hm : m.Sat NoFusion) (hpost : separates post = true) :
    (do write pre; m; write post : RW Unit).Sat EndGuarded :=
  endGuarded_bind (endGuarded_write hpre) (noFusion_bind_keyword hm hpost)

/-- A run that fuses stays fused whatever is written before it. -/
theorem not_noFusion_bind_right {m : RW Unit} {k : Unit → RW Unit}
    (hk : (k ()).Sat (¬NoFusion ·)) : (m >>= k).Sat (¬NoFusion ·) := by
  simp only [RW.Sat, RW.forall_runs_bind]
  exact fun a _ b hb h => hk b hb ((noFusion_append a b).1 h).2.1

/-! ## Clauses -/

theorem TransactionMode.rewrite_noFusion (m : TransactionMode) (ctx : Context) :
    (m.rewrite ctx).Sat NoFusion := by
  cases m with
  | accessMode _ => exact noFusion_write _
  | isolationLevel _ =>
    exact keyword_bind_noFusion (by decide) (noFusion_write _)

/-- Every file format is written as one word. -/
theorem FileFormat.rewrite_endsWord (ff : FileFormat) (ctx : Context) :
    ∃ s, ff.rewrite ctx = write s ∧ endsWord s = true := by
  cases ff <;> exact ⟨_, rfl, by decide⟩

theorem HiveRowFormat.rewrite_guarded (rowFormat : HiveRowFormat) (ctx : Context) :
    (rowFormat.rewrite ctx).Sat Guarded := by
  cases rowFormat with
  | SERDE «class» => exact guarded_write (by rw [startsWord_append_append (by decide)]; decide)
  | DELIMITED => exact guarded_write (by decide)

section
variable {X : Foreign} (R : Renders X)

theorem Expr.allNoFusion_map (es : List (Expr X)) (ctx : Context) :
    RW.AllSat NoFusion (es.map (Expr.rewrite R · ctx)) := by
  rw [← Expr.rewriteList_eq]
  exact Expr.rewriteList_noFusion R es ctx

theorem Assignment.rewrite_noFusion (a : Assignment X) (ctx : Context) :
    (a.rewrite R ctx).Sat NoFusion :=
  noFusion_bind_guarded (Ident.rewrite_noFusion a.id ctx) <|
    keyword_bind_guarded (by decide) (Expr.rewrite_noFusion R a.value ctx)

theorem SqlOption.allNoFusion (l : List (SqlOption X)) (ctx : Context) :
    RW.AllSat NoFusion (l.map (·.rewrite R ctx)) :=
  RW.allSat_map fun o _ => noFusion_bind_guarded (Ident.rewrite_noFusion o.name ctx) <|
    keyword_bind_guarded (by decide) (noFusion_write _)

theorem SetVariableValue.rewrite_noFusion (v : SetVariableValue X) (ctx : Context) :
    (v.rewrite R ctx).Sat NoFusion := by
  cases v with
  | ident i => exact Ident.rewrite_noFusion i ctx
  | literal _ => exact noFusion_write _

theorem ShowStatementFilter.rewrite_noFusion (filter : ShowStatementFilter X) (ctx : Context) :
    (filter.rewrite R ctx).Sat NoFusion := by
  cases filter with
  | like _ =>
    exact keyword_bind_noFusion (by decide) <|
      noFusion_bind_guarded (noFusion_write _) (guarded_write (by decide))
  | iLike _ => exact fun w hw => (pure_guarded w hw).1
  | «where» expr =>
    exact keyword_bind_noFusion (by decide) (Expr.rewrite_noFusion R expr ctx)

theorem HiveIOFormat.rewrite_guarded (storage : HiveIOFormat X) (external : Bool)
    (ctx : Context) : (storage.rewrite R external ctx).Sat Guarded := by
  cases storage with
  | IOF inputFormat outputFormat =>
    exact keyword_bind_guarded (by decide) <|
      noFusion_bind_guarded (Expr.rewrite_noFusion R inputFormat ctx) <|
      keyword_bind_guarded (by decide) (Expr.rewrite_noFusion R outputFormat ctx)
  | fileFormat _ =>
    exact (RW.forall_runs_ite _ _ _ _).2
      ⟨fun _ => keyword_bind_guarded (by decide) (noFusion_write _), fun _ => pure_guarded⟩

theorem HiveFormat.rewrite_guarded (hf : HiveFormat X) (external : Bool) (ctx : Context) :
    (hf.rewrite R external ctx).Sat Guarded :=
  guarded_bind (RW.sat_forM (fun r _ => HiveRowFormat.rewrite_guarded r ctx) guarded_nil) <|
    guarded_bind (RW.sat_forM (fun s _ => HiveIOFormat.rewrite_guarded R s external ctx)
      guarded_nil) <|
    RW.sat_when _ (RW.sat_forM (fun _ _ =>
      guarded_write (by rw [startsWord_append_append (by decide)]; decide)) guarded_nil) guarded_nil

theorem HiveDistributionStyle.rewrite_guarded (hd : HiveDistributionStyle X) (ctx : Context) :
    (hd.rewrite R ctx).Sat Guarded := by
  cases hd with
  | PARTITIONED columns =>
    exact enclose_guarded (by decide)
      (noFusion_displayCommaSeparated (allNoFusion_map_write columns _)) (by decide)
  | CLUSTERED columns sortedBy numBuckets =>
    exact keyword_bind_guarded (by decide) <|
      noFusion_bind_guarded (noFusion_displayCommaSeparated (Ident.allNoFusion ctx columns)) <|
      guarded_bind (guarded_write (by decide)) <|
      guarded_bind (RW.sat_when _ (enclose_guarded (by decide)
        (noFusion_displayCommaSeparated (allNoFusion_map_write sortedBy _)) (by decide))
        guarded_nil) <|
      RW.sat_when _ (guarded_write (by rw [startsWord_append_append (by decide)]; decide))
        guarded_nil
  | SKEWED columns «on» _ =>
    exact keyword_bind_guarded (by decide) <|
      noFusion_bind_guarded (noFusion_displayCommaSeparated (allNoFusion_map_write columns _)) <|
      keyword_bind_guarded (by decide) <|
      noFusion_bind_guarded (noFusion_displayCommaSeparated (allNoFusion_map_write «on» _)) <|
      guarded_bind (guarded_write (by decide))
        (RW.sat_when _ (guarded_write (by decide)) guarded_nil)
  | NONE => exact pure_guarded

/-- The column list: ` (`, the columns, `, ` when both lists are non-empty, the constraints and
`)`. Without columns the constraints follow the opening parenthesis. -/
theorem CreateTable.rewriteColumns_guarded (t : CreateTable X) (ctx : Context) :
    (t.rewriteColumns R ctx).Sat Guarded := by
  unfold CreateTable.rewriteColumns
  split_ifs
  · rcases t.columns with _ | ⟨c, cs⟩
    · exact keyword_bind_guarded (by decide) <| endGuarded_bind_noFusion pure_endGuarded <|
        endGuarded_bind_noFusion (RW.sat_when _ (endGuarded_write (by decide)) endGuarded_nil) <|
        noFusion_bind_guarded (noFusion_displayCommaSeparated (allNoFusion_map_write _ _))
          (guarded_write (by decide))
    · rcases t.constraints with _ | ⟨k, ks⟩
      · exact keyword_bind_guarded (by decide) <|
          noFusion_bind_guarded (noFusion_displayCommaSeparated (allNoFusion_map_write _ _)) <|
          guarded_bind (RW.sat_when _ (guarded_write (by decide)) guarded_nil) <|
          guarded_bind pure_guarded (guarded_write (by decide))
      · exact keyword_bind_guarded (by decide) <|
          noFusion_bind_guarded (noFusion_displayCommaSeparated (allNoFusion_map_write _ _)) <|
          keyword_bind_guarded (by decide) <|
          noFusion_bind_guarded (noFusion_displayCommaSeparated (allNoFusion_map_write _ _))
            (guarded_write (by decide))
  · exact guarded_write (by decide)
  · exact pure_guarded

/-- Every clause after the table name opens with a space. -/
theorem CreateTable.rewrite_noFusion (t : CreateTable X) (ctx : Context) :
    (t.rewrite R ctx).Sat NoFusion :=
  endGuarded_bind_noFusion (endGuarded_write (by split_ifs <;> decide)) <|
  noFusion_bind_guarded (ObjectName.rewrite_noFusion t.name ctx) <|
  guarded_bind (t.rewriteColumns_guarded R ctx) <|
  guarded_bind (RW.sat_when _ (guarded_write (by decide)) guarded_nil) <|
  guarded_bind (RW.sat_forM (fun l _ => keyword_bind_guarded (by decide)
    (ObjectName.rewrite_noFusion l ctx)) guarded_nil) <|
  guarded_bind (t.hiveDistribution.rewrite_guarded R ctx) <|
  guarded_bind (RW.sat_forM (fun f _ => f.rewrite_guarded R t.external ctx) guarded_nil) <|
  guarded_bind (RW.sat_when _ (keyword_bind_guarded (by decide) <| RW.sat_unwrap_bind fun _ _ =>
    noFusion_bind_guarded (noFusion_write _) <| keyword_bind_guarded (by decide) <|
    RW.sat_unwrap_bind fun _ _ => noFusion_bind_guarded (noFusion_write _)
      (guarded_write (by decide))) guarded_nil) <|
  guarded_bind (RW.sat_when _ (enclose_guarded (by decide)
    (noFusion_displayCommaSeparated (SqlOption.allNoFusion R _ ctx)) (by decide)) guarded_nil) <|
  guarded_bind (RW.sat_when _ (enclose_guarded (by decide)
    (noFusion_displayCommaSeparated (SqlOption.allNoFusion R _ ctx)) (by decide)) guarded_nil) <|
  RW.sat_forM (fun _ _ => keyword_bind_guarded (by decide) (noFusion_write _)) guarded_nil

/-! ## Statements -/

/-- The statement is an `INSERT DIRECTORY … STORED AS` whose source query text starts with a
word character, also under `EXPLAIN` and `PREPARE`. -/
def Statement.fusesFileFormat (ctx : Context) : Statement X → Bool
  | .explain _ _ statement => statement.fusesFileFormat ctx
  | .directory _ _ _ fileFormat source => fileFormat.isSome && startsWord (R.query source ctx)
  | .prepare _ _ statement => statement.fusesFileFormat ctx
  | _ => false

/-- **Separated statements.** Unless the statement is an `INSERT DIRECTORY … STORED AS` whose
query starts with a word character, no run of `Statement::rewrite` fuses. -/
theorem Statement.rewrite_noFusion : ∀ (st : Statement X) (ctx : Context),
    st.fusesFileFormat R ctx = false → (Statement.rewrite R st ctx).Sat NoFusion
  | .explain _ _ statement, ctx, hf =>
    keyword_bind_noFusion (by decide) <|
      endGuarded_bind_noFusion (RW.sat_when _ (endGuarded_write (by decide)) endGuarded_nil) <|
      endGuarded_bind_noFusion (RW.sat_when _ (endGuarded_write (by decide)) endGuarded_nil) <|
      Statement.rewrite_noFusion statement ctx hf
  | .query _, _, _ => noFusion_write _
  | .directory _ _ _ fileFormat source, ctx, hf => by
    cases hq : startsWord (R.query source ctx)
    · exact noFusion_bind_guarded (noFusion_write _) <|
        guarded_bind (RW.sat_forM (fun _ _ => keyword_bind_guarded (by decide) (noFusion_write _))
          guarded_nil) (guarded_write hq)
    · -- the query starts with a word character, so no file format stands before it
      obtain rfl : fileFormat = none := by simpa [Statement.fusesFileFormat, hq] using hf
      exact endGuarded_bind_noFusion
        (endGuarded_write (by rw [endsWord_append_of_ne _ (by decide)]; decide)) <|
        endGuarded_bind_noFusion pure_endGuarded (noFusion_write _)
  | .msck tableName _ _, ctx, _ =>
    endGuarded_bind_noFusion (endGuarded_write (by split_ifs <;> decide)) <|
      noFusion_bind_guarded (ObjectName.rewrite_noFusion tableName ctx) <|
      RW.sat_forM (fun _ _ => keyword_bind_guarded (by decide) (noFusion_write _)) guarded_nil
  | .truncate tableName _, ctx, _ =>
    keyword_bind_noFusion (by decide) <|
      noFusion_bind_guarded (ObjectName.rewrite_noFusion tableName ctx) <|
      RW.sat_forM (fun parts _ => RW.sat_when _ (enclose_guarded (by decide)
        (noFusion_displayCommaSeparated (Expr.allNoFusion_map R parts ctx)) (by decide))
        guarded_nil) guarded_nil
  | .analyze tableName _ _ columns _ _ _, ctx, _ =>
    keyword_bind_noFusion (by decide) <|
      noFusion_bind_guarded (ObjectName.rewrite_noFusion tableName ctx) <|
      guarded_bind (RW.sat_forM (fun parts _ => RW.sat_when _ (enclose_guarded (by decide)
        (noFusion_displayCommaSeparated (Expr.allNoFusion_map R parts ctx)) (by decide))
        guarded_nil) guarded_nil) <|
      guarded_bind (RW.sat_when _ (guarded_write (by decide)) guarded_nil) <|
      guarded_bind (RW.sat_when _ (guarded_write (by decide)) guarded_nil) <|
      guarded_bind (RW.sat_when _ (guarded_write (by decide)) guarded_nil) <|
      RW.sat_when _ (guarded_bind (guarded_write (by decide)) <|
        RW.sat_when _ (keyword_bind_guarded (by decide)
          (noFusion_displayCommaSeparated (Ident.allNoFusion ctx columns))) guarded_nil)
        guarded_nil
  | .insert onConflict tableName columns _ _ _ afterColumns _, ctx, _ => by
    -- every clause before the query closes with a space
    refine endGuarded_bind_noFusion ?_ <|
      endGuarded_bind_noFusion (RW.sat_when _ (enclose_endGuarded (by decide)
        (noFusion_displayCommaSeparated (Ident.allNoFusion ctx columns)) (by decide))
        endGuarded_nil) <|
      endGuarded_bind_noFusion (RW.sat_forM (fun parts _ => RW.sat_when _
        (enclose_endGuarded (by decide)
          (noFusion_displayCommaSeparated (Expr.allNoFusion_map R parts ctx)) (by decide))
        endGuarded_nil) endGuarded_nil) <|
      endGuarded_bind_noFusion (RW.sat_when _ (enclose_endGuarded (by decide)
        (noFusion_displayCommaSeparated (Ident.allNoFusion ctx afterColumns)) (by decide))
        endGuarded_nil) <|
      noFusion_write _
    cases onConflict with
    | some _ =>
      exact endGuarded_bind (endGuarded_write (by decide)) <|
        noFusion_bind_keyword_bind (noFusion_write _) (by decide) <|
        noFusion_bind_keyword (ObjectName.rewrite_noFusion tableName ctx) (by decide)
    | none =>
      exact endGuarded_bind (endGuarded_write (by split_ifs <;> decide)) <|
        noFusion_bind_keyword (ObjectName.rewrite_noFusion tableName ctx) (by decide)
  | .copy tableName columns values, ctx, _ =>
    keyword_bind_noFusion (by decide) <|
      noFusion_bind_guarded (ObjectName.rewrite_noFusion tableName ctx) <|
      guarded_bind (RW.sat_when _ (enclose_guarded (by decide)
        (noFusion_displayCommaSeparated (Ident.allNoFusion ctx columns)) (by decide))
        guarded_nil) <|
      guarded_bind (guarded_write (by decide)) <|
      guarded_bind (RW.sat_when _ (keyword_bind_guarded (by decide)
        (noFusion_displaySeparated (by decide) (allNoFusion_map_write values _))) guarded_nil) <|
      guarded_write (by decide)
  | .update tableName assignments _ _, ctx, _ =>
    keyword_bind_noFusion (by decide) <|
      noFusion_bind_guarded (ObjectName.rewrite_noFusion tableName ctx) <|
      guarded_bind (RW.sat_when _ (keyword_bind_guarded (by decide)
        (noFusion_displayCommaSeparated (RW.allSat_map fun a _ =>
          Assignment.rewrite_noFusion R a ctx))) guarded_nil) <|
      guarded_bind (RW.sat_forM (fun e _ => keyword_bind_guarded (by decide)
        (Expr.rewrite_noFusion R e ctx)) guarded_nil) <|
      RW.sat_forM (fun e _ => keyword_bind_guarded (by decide) (Expr.rewrite_noFusion R e ctx))
        guarded_nil
  | .delete tableName _, ctx, _ =>
    keyword_bind_noFusion (by decide) <|
      noFusion_bind_guarded (ObjectName.rewrite_noFusion tableName ctx) <|
      RW.sat_forM (fun e _ => keyword_bind_guarded (by decide) (Expr.rewrite_noFusion R e ctx))
        guarded_nil
  | .createDatabase dbName _ _ _, ctx, _ =>
    noFusion_bind_guarded (noFusion_write _) <|
      guarded_bind (RW.sat_when _ (guarded_write (by decide)) guarded_nil) <|
      keyword_bind_guarded (by decide) <|
      noFusion_bind_guarded (ObjectName.rewrite_noFusion dbName ctx) <|
      guarded_bind (RW.sat_forM (fun _ _ =>
        guarded_write (by rw [startsWord_append_append (by decide)]; decide)) guarded_nil) <|
      RW.sat_forM (fun _ _ =>
        guarded_write (by rw [startsWord_append_append (by decide)]; decide)) guarded_nil
  | .createView _ name columns _ _ withOptions, ctx, _ =>
    endGuarded_bind_noFusion (endGuarded_write (by split_ifs <;> decide)) <|
      noFusion_bind_guarded (ObjectName.rewrite_noFusion name ctx) <|
      guarded_bind (RW.sat_when _ (enclose_guarded (by decide)
        (noFusion_displayCommaSeparated (SqlOption.allNoFusion R withOptions ctx)) (by decide))
        guarded_nil) <|
      guarded_bind (RW.sat_when _ (enclose_guarded (by decide)
        (noFusion_displayCommaSeparated (Ident.allNoFusion ctx columns)) (by decide))
        guarded_nil) <|
      keyword_bind_guarded (by decide) (noFusion_write _)
  | .createTable t, ctx, _ => t.rewrite_noFusion R ctx
  | .createVirtualTable name _ moduleName moduleArgs, ctx, _ =>
    endGuarded_bind_noFusion (endGuarded_write (by split_ifs <;> decide)) <|
      noFusion_bind_guarded (ObjectName.rewrite_noFusion name ctx) <|
      keyword_bind_guarded (by decide) <|
      noFusion_bind_guarded (Ident.rewrite_noFusion moduleName ctx) <|
      RW.sat_when _ (enclose_guarded (by decide)
        (noFusion_displayCommaSeparated (Ident.allNoFusion ctx moduleArgs)) (by decide))
        guarded_nil
  | .createIndex name tableName columns _ _, ctx, _ =>
    endGuarded_bind_noFusion (endGuarded_write (by split_ifs <;> decide)) <|
      noFusion_bind_guarded (ObjectName.rewrite_noFusion name ctx) <|
      keyword_bind_guarded (by decide) <|
      noFusion_bind_guarded (ObjectName.rewrite_noFusion tableName ctx) <|
      enclose_guarded (by decide)
        (noFusion_displaySeparated (by decide) (allNoFusion_map_write columns _)) (by decide)
  | .alterTable name _, ctx, _ =>
    keyword_bind_noFusion (by decide) <|
      noFusion_bind_guarded (ObjectName.rewrite_noFusion name ctx) <|
      keyword_bind_guarded (by decide) (noFusion_write _)
  | .drop _ _ names _ _, ctx, _ =>
    keyword_bind_noFusion (by decide) <|
      noFusion_bind_guarded (noFusion_write _) <|
      keyword_bind_guarded (by split_ifs <;> decide) <|
      noFusion_bind_guarded (noFusion_displayCommaSeparated (RW.allSat_map fun n _ =>
        ObjectName.rewrite_noFusion n ctx)) <|
      guarded_write (by split_ifs <;> decide)
  | .setVariable _ _ «variable» value, ctx, _ =>
    keyword_bind_noFusion (by decide) <|
      endGuarded_bind_noFusion (RW.sat_when _ (endGuarded_write (by decide)) endGuarded_nil) <|
      endGuarded_bind_noFusion (endGuarded_write (by split_ifs <;> decide)) <|
      noFusion_bind_guarded (Ident.rewrite_noFusion «variable» ctx) <|
      keyword_bind_guarded (by decide) (noFusion_displayCommaSeparated (RW.allSat_map fun v _ =>
        SetVariableValue.rewrite_noFusion R v ctx))
  | .showVariable «variable», ctx, _ =>
    noFusion_bind_guarded (noFusion_write _) <|
      RW.sat_when _ (keyword_bind_guarded (by decide)
        (noFusion_displaySeparated (by decide) (Ident.allNoFusion ctx «variable»))) guarded_nil
  | .useDatabase «variable», ctx, _ =>
    keyword_bind_noFusion (by decide) (Ident.rewrite_noFusion «variable» ctx)
  | .showColumns _ _ tableName _, ctx, _ =>
    endGuarded_bind_noFusion (endGuarded_write (by split_ifs <;> decide)) <|
      noFusion_bind_guarded (ObjectName.rewrite_noFusion tableName ctx) <|
      RW.sat_forM (fun f _ => keyword_bind_guarded (by decide)
        (ShowStatementFilter.rewrite_noFusion R f ctx)) guarded_nil
  | .startTransaction modes, ctx, _ =>
    noFusion_bind_guarded (noFusion_write _) <|
      RW.sat_when _ (keyword_bind_guarded (by decide) (noFusion_displayCommaSeparated
        (RW.allSat_map fun m _ => TransactionMode.rewrite_noFusion m ctx))) guarded_nil
  | .setTransaction _ modes, ctx, _ =>
    noFusion_bind_guarded (noFusion_write _) <|
      RW.sat_when _ (keyword_bind_guarded (by decide) (noFusion_displayCommaSeparated
        (RW.allSat_map fun m _ => TransactionMode.rewrite_noFusion m ctx))) guarded_nil
  | .setNames «variable», ctx, _ =>
    keyword_bind_noFusion (by decide) (Ident.rewrite_noFusion «variable» ctx)
  | .commit _, _, _ => noFusion_write _
  | .savepoint «variable», ctx, _ =>
    keyword_bind_noFusion (by decide) (Ident.rewrite_noFusion «variable» ctx)
  | .rollback _ toSavepoint, ctx, _ => by
    cases toSavepoint with
    | some sp =>
      exact keyword_bind_noFusion (by decide) (Ident.rewrite_noFusion sp ctx)
    | none => exact noFusion_write _
  | .release «variable», ctx, _ =>
    keyword_bind_noFusion (by decide) (Ident.rewrite_noFusion «variable» ctx)
  | .createSchema schemaName _, ctx, _ =>
    endGuarded_bind_noFusion (endGuarded_write (by split_ifs <;> decide))
      (ObjectName.rewrite_noFusion schemaName ctx)
  | .assert condition _, ctx, _ =>
    keyword_bind_noFusion (by decide) <|
      noFusion_bind_guarded (Expr.rewrite_noFusion R condition ctx) <|
      RW.sat_forM (fun m _ => keyword_bind_guarded (by decide) (Expr.rewrite_noFusion R m ctx))
        guarded_nil
  | .deallocate name _, ctx, _ =>
    endGuarded_bind_noFusion (endGuarded_write (by split_ifs <;> decide))
      (Ident.rewrite_noFusion name ctx)
  | .execute name parameters, ctx, _ =>
    keyword_bind_noFusion (by decide) <|
      noFusion_bind_guarded (Ident.rewrite_noFusion name ctx) <|
      RW.sat_when _ (enclose_guarded (by decide)
        (noFusion_displayCommaSeparated (Expr.allNoFusion_map R parameters ctx)) (by decide))
        guarded_nil
  | .prepare name dataTypes statement, ctx, hf =>
    keyword_bind_noFusion (by decide) <|
      noFusion_bind_guarded (Ident.rewrite_noFusion name ctx) <|
      keyword_bind_guarded (by decide) <|
      endGuarded_bind_noFusion (RW.sat_when _ (enclose_endGuarded (by decide)
        (noFusion_displayCommaSeparated (RW.allSat_map fun d _ => DataType.rewrite_noFusion d ctx))
        (by decide)) endGuarded_nil) <|
      keyword_bind_noFusion (by decide) <|
      Statement.rewrite_noFusion statement ctx hf

/-- **The fused arm.** Under `EXPLAIN` and `PREPARE` as on its own, `INSERT DIRECTORY … STORED
AS` writes the file format, which ends in a letter, and then the query: when the query starts
with a word character, every run fuses there. -/
theorem Statement.rewrite_fuses : ∀ (st : Statement X) (ctx : Context),
    st.fusesFileFormat R ctx = true → (Statement.rewrite R st ctx).Sat (¬NoFusion ·)
  | st, ctx, hf => by
    cases st with
    | explain _ _ statement =>
      exact not_noFusion_bind_right <| not_noFusion_bind_right <| not_noFusion_bind_right <|
        Statement.rewrite_fuses statement ctx hf
    | directory _ _ _ fileFormat source =>
      simp only [Statement.fusesFileFormat, Bool.and_eq_true, Option.isSome_iff_exists] at hf
      obtain ⟨⟨ff, rfl⟩, hq⟩ := hf
      obtain ⟨s, hs, he⟩ := FileFormat.rewrite_endsWord ff ctx
      simp only [RW.Sat, Statement.rewrite, RW.forM_some, hs, RW.forall_runs_bind, RW.runs_write,
        forall_eq', List.singleton_append, List.cons_append, List.nil_append, noFusion_cons]
      simp [fuses, he, hq]
    | prepare _ _ statement =>
      exact not_noFusion_bind_right <| not_noFusion_bind_right <| not_noFusion_bind_right <|
        not_noFusion_bind_right <| not_noFusion_bind_right <|
        Statement.rewrite_fuses statement ctx hf
    | _ => simp [Statement.fusesFileFormat] at hf

/-- **Exactly one arm fuses.** A successful run of `Statement::rewrite` keeps every two
consecutive fragments apart exactly when the statement is not an `INSERT DIRECTORY … STORED AS`
whose query starts with a word character, whatever the renders of the nodes outside these
files write. -/
theorem renderPass_statement_noFusion_iff (st : Statement X) (ctx : Context) (w : List String)
    (hw : (Statement.rewrite R st ctx).out = .ok w) :
    NoFusion w ↔ st.fusesFileFormat R ctx = false := by
  cases hf : st.fusesFileFormat R ctx
  · simpa using Statement.rewrite_noFusion R st ctx hf w hw
  · simpa using Statement.rewrite_fuses R st ctx hf w hw

end

/-- `EXPLAIN INSERT DIRECTORY 'p' STORED AS ORC (SELECT 1)`: the query opens with a parenthesis,
so the file format before it does not fuse with it. -/
theorem renderPass_statement_noFusion_iff_explain :
    (Statement.rewrite Renders.text
        (.explain false false (.directory false false "p" (some .ORC) "(SELECT 1)")) []).out =
        .ok ["EXPLAIN ", "INSERT DIRECTORY 'p'", " STORED AS ", "ORC", "(SELECT 1)"] ∧
      (NoFusion ["EXPLAIN ", "INSERT DIRECTORY 'p'", " STORED AS ", "ORC", "(SELECT 1)"] ↔
        (Statement.explain false false (.directory false false "p" (some .ORC) "(SELECT 1)") :
          Statement Foreign.text).fusesFileFormat Renders.text [] = false) :=
  ⟨by decide, renderPass_statement_noFusion_iff Renders.text
    (.explain false false (.directory false false "p" (some .ORC) "(SELECT 1)")) []
    ["EXPLAIN ", "INSERT DIRECTORY 'p'", " STORED AS ", "ORC", "(SELECT 1)"] (by decide)⟩

end Martlet
