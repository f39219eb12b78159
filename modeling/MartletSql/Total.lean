import MartletSql.Rewrite.Statement

/-!
# MartletSql — the Render Pass is total on well-formed trees

Five places of the Render Pass can panic:

* `Ident::rewrite` on a quote character other than `"`, `'`, backtick and `[`;
* `Word::rewrite` and `matching_end_quote` on one other than `"`, backtick and `[`;
* the `Decimal` arm of `DataType::rewrite`, which unwraps the precision of a type with a scale;
* the external `CREATE TABLE`, which unwraps its file format and location.

`wellFormed` rules each of them out, at every depth of a tree; the renders of the nodes outside
these files are total by their type. **`rewrite_total`** is the result: on a well-formed tree,
every render returns `Ok`.

Totality of a run is `RW.Total`, and its simp set pushes it through the combinators the renders
are written with, so that each arm of a render reduces to the totality of its children.
-/

namespace Martlet

/-- A render run that returns `Ok`. -/
def RW.Total (m : RW Unit) : Prop := ∃ w, m.out = .ok w

namespace RW

@[simp] theorem total_pure : Total (pure ()) := ⟨[], rfl⟩

@[simp] theorem total_write (s : String) : Total (write s) := ⟨[s], rfl⟩

@[simp] theorem not_total_fail (msg : String) : ¬Total (fail msg) := by
  simp [Total]

@[simp] theorem total_bind (m : RW Unit) (k : Unit → RW Unit) :
    Total (m >>= k) ↔ Total m ∧ Total (k ()) := by
  simp only [Total, out_bind]
  rcases m.out with e | w <;> rcases (k ()).out with e' | w' <;> simp [Except.bind, Except.map]

@[simp] theorem total_when (c : Prop) [Decidable c] (t : RW Unit) :
    Total (when c t) ↔ (c → Total t) := by
  unfold when; split <;> simp [*]

@[simp] theorem total_ite (c : Prop) [Decidable c] (a b : RW Unit) :
    Total (if c then a else b) ↔ (c → Total a) ∧ (¬c → Total b) := by
  split <;> simp [*]

@[simp] theorem total_forM {α : Type} (o : Option α) (k : α → RW Unit) :
    Total (o.forM k) ↔ ∀ a, o = some a → Total (k a) := by
  cases o <;> simp

@[simp] theorem total_unwrap_bind {α : Type} (o : Option α) (k : α → RW Unit) :
    Total (unwrap o >>= k) ↔ ∃ a, o = some a ∧ Total (k a) := by
  cases o <;> simp

/-- Every run of a list returns `Ok`. -/
def AllTotal (rs : List (RW Unit)) : Prop := ∀ r ∈ rs, Total r

@[simp] theorem allTotal_nil : AllTotal [] := by simp [AllTotal]

@[simp] theorem allTotal_cons (r : RW Unit) (rs : List (RW Unit)) :
    AllTotal (r :: rs) ↔ Total r ∧ AllTotal rs := by
  simp [AllTotal]

@[simp] theorem allTotal_map_write {α : Type} (l : List α) (g : α → String) :
    AllTotal (l.map fun a => write (g a)) := by
  simp [AllTotal]

theorem total_loop (sep delim : String) (rs : List (RW Unit)) :
    Total (displaySeparated.loop sep delim rs) ↔ AllTotal rs := by
  induction rs generalizing delim <;> simp [displaySeparated.loop, *]

@[simp] theorem total_displaySeparated (rs : List (RW Unit)) (sep : String) :
    Total (displaySeparated rs sep) ↔ AllTotal rs :=
  total_loop sep "" rs

@[simp] theorem total_displayCommaSeparated (rs : List (RW Unit)) :
    Total (displayCommaSeparated rs) ↔ AllTotal rs :=
  total_displaySeparated rs ", "

theorem total_whenThens_zip {l₁ l₂ : List (RW Unit)} (h₁ : AllTotal l₁) (h₂ : AllTotal l₂) :
    Total (whenThens (l₁.zip l₂)) := by
  induction l₁ generalizing l₂ with
  | nil => exact total_pure
  | cons r l₁ ih =>
    cases l₂ with
    | nil => exact total_pure
    | cons r' l₂ =>
      simp only [allTotal_cons] at h₁ h₂
      simpa [whenThens, h₁.1, h₂.1] using ih h₁.2 h₂.2

end RW

/-! ## Well-formed trees -/

/-- `Ident::rewrite` knows the quote: none, `"`, `'`, backtick or `[`. -/
def Ident.wellQuoted (i : Ident) : Bool :=
  i.quoteStyle.all fun q => q ∈ ['"', '\'', '`', '[']

def ObjectName.wellQuoted (n : ObjectName) : Bool :=
  n.parts.all Ident.wellQuoted

/-- A `Decimal` with a scale has a precision, and every name is well quoted. -/
def DataType.wellFormed : DataType → Bool
  | .decimal precision scale => scale.isNone || precision.isSome
  | .custom ty => ty.wellQuoted
  | .array ty => ty.wellFormed
  | _ => true

/-- `Word::rewrite` knows the quote: none, `"`, backtick or `[`. -/
def Word.wellQuoted (w : Word) : Bool :=
  w.quoteStyle.all fun q => q ∈ ['"', '`', '[']

def Token.wellFormed : Token → Bool
  | .word w => w.wellQuoted
  | _ => true

open RW

theorem option_all_eq_true {α : Type} (p : α → Bool) (o : Option α) :
    o.all p = true ↔ ∀ a, o = some a → p a = true := by
  cases o <;> simp

@[simp] theorem Ident.rewrite_total (ctx : Context) {i : Ident} (h : i.wellQuoted) :
    (i.rewrite ctx).Total := by
  rcases i with ⟨v, _ | q⟩
  · simp [Ident.rewrite]
  · simp only [Ident.wellQuoted, Option.all_some, decide_eq_true_eq, List.mem_cons,
      List.mem_singleton, List.not_mem_nil, or_false] at h
    rcases h with rfl | rfl | rfl | rfl <;> simp [Ident.rewrite]

@[simp] theorem Ident.allTotal (ctx : Context) {l : List Ident} (h : l.all Ident.wellQuoted) :
    AllTotal (l.map (·.rewrite ctx)) := by
  simp only [List.all_eq_true] at h
  simpa [AllTotal] using fun i hi => Ident.rewrite_total ctx (h i hi)

@[simp] theorem ObjectName.rewrite_total (ctx : Context) {n : ObjectName} (h : n.wellQuoted) :
    (n.rewrite ctx).Total := by
  simpa [ObjectName.rewrite] using Ident.allTotal ctx h

@[simp] theorem ObjectName.allTotal (ctx : Context) {l : List ObjectName}
    (h : l.all ObjectName.wellQuoted) : AllTotal (l.map (·.rewrite ctx)) := by
  simp only [List.all_eq_true] at h
  simpa [AllTotal] using fun n hn => ObjectName.rewrite_total ctx (h n hn)

@[simp] theorem DataType.rewrite_total (ctx : Context) {d : DataType} (h : d.wellFormed) :
    (d.rewrite ctx).Total := by
  induction d with
  | decimal precision scale =>
    rcases scale with _ | s
    · simp [DataType.rewrite, formatTypeWithOptionalLength]
    · rcases precision with _ | p
      · simp [DataType.wellFormed] at h
      · simp [DataType.rewrite]
  | custom ty => exact ObjectName.rewrite_total ctx h
  | array ty ih => simpa [DataType.rewrite] using ih h
  | _ => simp [DataType.rewrite, formatTypeWithOptionalLength]

@[simp] theorem DataType.allTotal (ctx : Context) {l : List DataType} (h : l.all DataType.wellFormed) :
    AllTotal (l.map (·.rewrite ctx)) := by
  simp only [List.all_eq_true] at h
  simpa [AllTotal] using fun d hd => DataType.rewrite_total ctx (h d hd)

/-- `Word::rewrite` and `matching_end_quote` do not panic on a well-quoted word. -/
theorem Token.rewrite_total (ctx : Context) {t : Token} (h : t.wellFormed) :
    (t.rewrite ctx).Total := by
  cases t
  case word w =>
    rcases w with ⟨v, _ | q⟩
    · simp [Token.rewrite, Word.rewrite]
    · simp only [Token.wellFormed, Word.wellQuoted, Option.all_some, decide_eq_true_eq,
        List.mem_cons, List.mem_singleton, List.not_mem_nil, or_false] at h
      rcases h with rfl | rfl | rfl <;> simp [Token.rewrite, Word.rewrite, matchingEndQuote]
  case whitespace ws => simp [Token.rewrite, Whitespace.rewrite]
  all_goals simp only [Token.rewrite, total_write, total_pure]

@[simp] theorem TransactionMode.allTotal (ctx : Context) (l : List TransactionMode) :
    AllTotal (l.map (·.rewrite ctx)) := by
  simp only [AllTotal, List.mem_map]
  rintro _ ⟨m, -, rfl⟩
  cases m <;> simp [TransactionMode.rewrite, TransactionAccessMode.rewrite,
    TransactionIsolationLevel.rewrite]

section
variable {X : Foreign}

mutual
/-- Every identifier of the expression is well quoted and every type in it well formed. -/
def Expr.wellFormed : Expr X → Bool
  | .identifier s => s.wellQuoted
  | .mapAccess column _ => column.wellFormed
  | .wildcard => true
  | .qualifiedWildcard q => q.all Ident.wellQuoted
  | .compoundIdentifier s => s.all Ident.wellQuoted
  | .isNull ast => ast.wellFormed
  | .isNotNull ast => ast.wellFormed
  | .inList expr list _ => expr.wellFormed && Expr.allWellFormed list
  | .inSubquery expr _ _ => expr.wellFormed
  | .between expr _ low high => expr.wellFormed && low.wellFormed && high.wellFormed
  | .binaryOp left _ right => left.wellFormed && right.wellFormed
  | .unaryOp _ expr => expr.wellFormed
  | .cast expr dataType => expr.wellFormed && dataType.wellFormed
  | .tryCast expr dataType => expr.wellFormed && dataType.wellFormed
  | .extract _ expr => expr.wellFormed
  | .collate expr collation => expr.wellFormed && collation.wellQuoted
  | .nested ast => ast.wellFormed
  | .value _ => true
  | .typedString dataType _ => dataType.wellFormed
  | .function fn => fn.wellFormed
  | .case operand conditions results elseResult =>
    Expr.optionWellFormed operand && Expr.allWellFormed conditions &&
      Expr.allWellFormed results && Expr.optionWellFormed elseResult
  | .exists _ => true
  | .subquery _ => true
  | .listAgg listagg => listagg.wellFormed
  | .substring expr substringFrom substringFor =>
    expr.wellFormed && Expr.optionWellFormed substringFrom &&
      Expr.optionWellFormed substringFor
  | .parameterMark _ => true

def Expr.allWellFormed : List (Expr X) → Bool
  | [] => true
  | e :: es => e.wellFormed && Expr.allWellFormed es

def Expr.optionWellFormed : Option (Expr X) → Bool
  | none => true
  | some e => e.wellFormed

def FunctionArg.wellFormed : FunctionArg X → Bool
  | .named name arg => name.wellQuoted && arg.wellFormed
  | .unnamed arg => arg.wellFormed

def FunctionArg.allWellFormed : List (FunctionArg X) → Bool
  | [] => true
  | a :: as => a.wellFormed && FunctionArg.allWellFormed as

def Function.wellFormed : Function X → Bool
  | .mk name args over _ =>
    name.wellQuoted && FunctionArg.allWellFormed args && WindowSpec.optionWellFormed over

def WindowSpec.wellFormed : WindowSpec X → Bool
  | .mk partitionBy _ _ => Expr.allWellFormed partitionBy

def WindowSpec.optionWellFormed : Option (WindowSpec X) → Bool
  | none => true
  | some w => w.wellFormed

def ListAgg.wellFormed : ListAgg X → Bool
  | .mk _ expr separator onOverflow _ =>
    expr.wellFormed && Expr.optionWellFormed separator &&
      ListAggOnOverflow.optionWellFormed onOverflow

def ListAggOnOverflow.wellFormed : ListAggOnOverflow X → Bool
  | .error => true
  | .truncate filler _ => Expr.optionWellFormed filler

def ListAggOnOverflow.optionWellFormed : Option (ListAggOnOverflow X) → Bool
  | none => true
  | some o => o.wellFormed
end

end

/-! ## Expressions -/

section
variable {X : Foreign} (R : Renders X)

mutual
theorem Expr.rewrite_total : ∀ (e : Expr X) (ctx : Context), e.wellFormed →
    (Expr.rewrite R e ctx).Total
  | e, ctx, h => by
    cases e <;> simp only [Expr.wellFormed, Bool.and_eq_true] at h <;>
      simp only [Expr.rewrite, h, total_bind, total_write, total_pure, total_ite,
        total_displaySeparated, total_displayCommaSeparated, Ident.rewrite_total, Ident.allTotal,
        ObjectName.rewrite_total, DataType.rewrite_total, and_self, and_true, true_and,
        implies_true, Expr.rewrite_total _ ctx, Expr.rewriteList_total _ ctx,
        Expr.rewriteOption_total _ _ ctx, Function.rewrite_total _ ctx, ListAgg.rewrite_total _ ctx,
        total_whenThens_zip, UnaryOperator.rewrite, BinaryOperator.rewrite]

theorem Expr.rewriteList_total : ∀ (es : List (Expr X)) (ctx : Context), Expr.allWellFormed es →
    AllTotal (Expr.rewriteList R es ctx)
  | [], _, _ => allTotal_nil
  | e :: es, ctx, h => by
    simp only [Expr.allWellFormed, Bool.and_eq_true] at h
    simp [Expr.rewriteList, Expr.rewrite_total e ctx h.1, Expr.rewriteList_total es ctx h.2]

theorem Expr.rewriteOption_total : ∀ (keyword : String) (o : Option (Expr X)) (ctx : Context),
    Expr.optionWellFormed o → (Expr.rewriteOption R keyword o ctx).Total
  | _, none, _, _ => total_pure
  | _, some e, ctx, h => by simp [Expr.rewriteOption, Expr.rewrite_total e ctx h]

theorem FunctionArg.rewrite_total : ∀ (a : FunctionArg X) (ctx : Context), a.wellFormed →
    (FunctionArg.rewrite R a ctx).Total
  | .named name arg, ctx, h => by
    simp only [FunctionArg.wellFormed, Bool.and_eq_true] at h
    simp [FunctionArg.rewrite, h.1, Expr.rewrite_total arg ctx h.2]
  | .unnamed arg, ctx, h => Expr.rewrite_total arg ctx h

theorem FunctionArg.rewriteList_total : ∀ (as : List (FunctionArg X)) (ctx : Context),
    FunctionArg.allWellFormed as → AllTotal (FunctionArg.rewriteList R as ctx)
  | [], _, _ => allTotal_nil
  | a :: as, ctx, h => by
    simp only [FunctionArg.allWellFormed, Bool.and_eq_true] at h
    simp [FunctionArg.rewriteList, FunctionArg.rewrite_total a ctx h.1,
      FunctionArg.rewriteList_total as ctx h.2]

theorem Function.rewrite_total : ∀ (f : Function X) (ctx : Context), f.wellFormed →
    (Function.rewrite R f ctx).Total
  | .mk name args over _, ctx, h => by
    simp only [Function.wellFormed, Bool.and_eq_true] at h
    simp [Function.rewrite, h.1.1, FunctionArg.rewriteList_total args ctx h.1.2,
      WindowSpec.rewriteOver_total over ctx h.2]

theorem WindowSpec.rewriteOver_total : ∀ (o : Option (WindowSpec X)) (ctx : Context),
    WindowSpec.optionWellFormed o → (WindowSpec.rewriteOver R o ctx).Total
  | none, _, _ => total_pure
  | some w, ctx, h => by simp [WindowSpec.rewriteOver, WindowSpec.rewrite_total w ctx h]

theorem WindowSpec.rewrite_total : ∀ (w : WindowSpec X) (ctx : Context), w.wellFormed →
    (WindowSpec.rewrite R w ctx).Total
  | .mk partitionBy orderBy windowFrame, ctx, h => by
    have := Expr.rewriteList_total partitionBy ctx h
    rcases windowFrame with _ | ⟨u, s, _ | e⟩ <;>
      simp [WindowSpec.rewrite, this, WindowFrameUnits.rewrite, WindowFrameBound.rewrite]

theorem ListAgg.rewrite_total : ∀ (l : ListAgg X) (ctx : Context), l.wellFormed →
    (ListAgg.rewrite R l ctx).Total
  | .mk _ expr separator onOverflow _, ctx, h => by
    simp only [ListAgg.wellFormed, Bool.and_eq_true] at h
    simp [ListAgg.rewrite, Expr.rewrite_total expr ctx h.1.1,
      Expr.rewriteOption_total _ separator ctx h.1.2,
      ListAggOnOverflow.rewriteOption_total onOverflow ctx h.2]

theorem ListAggOnOverflow.rewrite_total : ∀ (o : ListAggOnOverflow X) (ctx : Context),
    o.wellFormed → (ListAggOnOverflow.rewrite R o ctx).Total
  | .error, _, _ => by simp [ListAggOnOverflow.rewrite]
  | .truncate filler _, ctx, h => by
    simp [ListAggOnOverflow.rewrite, Expr.rewriteOption_total _ filler ctx h]

theorem ListAggOnOverflow.rewriteOption_total : ∀ (o : Option (ListAggOnOverflow X))
    (ctx : Context), ListAggOnOverflow.optionWellFormed o →
      (ListAggOnOverflow.rewriteOption R o ctx).Total
  | none, _, _ => total_pure
  | some o, ctx, h => ListAggOnOverflow.rewrite_total o ctx h
end

attribute [simp] Expr.rewrite_total

@[simp] theorem Expr.allTotal_map (ctx : Context) {es : List (Expr X)} (h : Expr.allWellFormed es) :
    AllTotal (es.map (Expr.rewrite R · ctx)) := by
  rw [← Expr.rewriteList_eq]; exact Expr.rewriteList_total R es ctx h

end

/-! ## Statements -/

section
variable {X : Foreign}

def HiveDistributionStyle.wellFormed : HiveDistributionStyle X → Bool
  | .CLUSTERED columns _ _ => columns.all Ident.wellQuoted
  | _ => true

def HiveIOFormat.wellFormed : HiveIOFormat X → Bool
  | .IOF inputFormat outputFormat => inputFormat.wellFormed && outputFormat.wellFormed
  | .fileFormat _ => true

def HiveFormat.wellFormed (hf : HiveFormat X) : Bool :=
  hf.storage.all HiveIOFormat.wellFormed

def SqlOption.wellFormed (o : SqlOption X) : Bool :=
  o.name.wellQuoted

def Assignment.wellFormed (a : Assignment X) : Bool :=
  a.id.wellQuoted && a.value.wellFormed

def SetVariableValue.wellFormed : SetVariableValue X → Bool
  | .ident i => i.wellQuoted
  | .literal _ => true

def ShowStatementFilter.wellFormed : ShowStatementFilter X → Bool
  | .where expr => expr.wellFormed
  | _ => true

/-- Every name of the table is well quoted, every expression well formed, and an external
table names its file format and its location. -/
def CreateTable.wellFormed (t : CreateTable X) : Bool :=
  t.name.wellQuoted && t.like.all ObjectName.wellQuoted && t.hiveDistribution.wellFormed &&
    t.hiveFormats.all HiveFormat.wellFormed && t.tableProperties.all SqlOption.wellFormed &&
    t.withOptions.all SqlOption.wellFormed &&
    (!t.external || t.fileFormat.isSome && t.location.isSome)

/-- Every identifier and name of the statement is well quoted, every expression and type in
it well formed, every `CREATE TABLE` in it well formed. The nodes rendered outside these files
are not inspected. -/
def Statement.wellFormed : Statement X → Bool
  | .explain _ _ statement => statement.wellFormed
  | .query _ => true
  | .directory .. => true
  | .msck tableName _ _ => tableName.wellQuoted
  | .truncate tableName partitions =>
    tableName.wellQuoted && partitions.all Expr.allWellFormed
  | .analyze tableName partitions _ columns _ _ _ =>
    tableName.wellQuoted && partitions.all Expr.allWellFormed && columns.all Ident.wellQuoted
  | .insert _ tableName columns _ _ partitioned afterColumns _ =>
    tableName.wellQuoted && columns.all Ident.wellQuoted &&
      partitioned.all Expr.allWellFormed && afterColumns.all Ident.wellQuoted
  | .copy tableName columns _ => tableName.wellQuoted && columns.all Ident.wellQuoted
  | .update tableName assignments selection limit =>
    tableName.wellQuoted && assignments.all Assignment.wellFormed &&
      selection.all Expr.wellFormed && limit.all Expr.wellFormed
  | .delete tableName selection => tableName.wellQuoted && selection.all Expr.wellFormed
  | .createDatabase dbName _ _ _ => dbName.wellQuoted
  | .createView _ name columns _ _ withOptions =>
    name.wellQuoted && columns.all Ident.wellQuoted && withOptions.all SqlOption.wellFormed
  | .createTable t => t.wellFormed
  | .createVirtualTable name _ moduleName moduleArgs =>
    name.wellQuoted && moduleName.wellQuoted && moduleArgs.all Ident.wellQuoted
  | .createIndex name tableName _ _ _ => name.wellQuoted && tableName.wellQuoted
  | .alterTable name _ => name.wellQuoted
  | .drop _ _ names _ _ => names.all ObjectName.wellQuoted
  | .setVariable _ _ «variable» value =>
    «variable».wellQuoted && value.all SetVariableValue.wellFormed
  | .showVariable «variable» => «variable».all Ident.wellQuoted
  | .useDatabase «variable» => «variable».wellQuoted
  | .showColumns _ _ tableName filter =>
    tableName.wellQuoted && filter.all ShowStatementFilter.wellFormed
  | .startTransaction _ => true
  | .setTransaction _ _ => true
  | .setNames «variable» => «variable».wellQuoted
  | .commit _ => true
  | .savepoint «variable» => «variable».wellQuoted
  | .rollback _ sp => sp.all Ident.wellQuoted
  | .release «variable» => «variable».wellQuoted
  | .createSchema schemaName _ => schemaName.wellQuoted
  | .assert condition message => condition.wellFormed && message.all Expr.wellFormed
  | .deallocate name _ => name.wellQuoted
  | .execute name parameters => name.wellQuoted && Expr.allWellFormed parameters
  | .prepare name dataTypes statement =>
    name.wellQuoted && dataTypes.all DataType.wellFormed && statement.wellFormed

end

section
variable {X : Foreign} (R : Renders X)

@[simp] theorem Assignment.allTotal (ctx : Context) {l : List (Assignment X)}
    (h : l.all Assignment.wellFormed) : AllTotal (l.map (·.rewrite R ctx)) := by
  simp only [List.all_eq_true, Assignment.wellFormed, Bool.and_eq_true] at h
  simp only [AllTotal, List.mem_map]
  rintro _ ⟨a, ha, rfl⟩
  simp [Assignment.rewrite, h a ha]

@[simp] theorem SqlOption.allTotal (ctx : Context) {l : List (SqlOption X)}
    (h : l.all SqlOption.wellFormed) : AllTotal (l.map (·.rewrite R ctx)) := by
  simp only [List.all_eq_true, SqlOption.wellFormed] at h
  simp only [AllTotal, List.mem_map]
  rintro _ ⟨o, ho, rfl⟩
  simp [SqlOption.rewrite, h o ho]

@[simp] theorem SetVariableValue.allTotal (ctx : Context) {l : List (SetVariableValue X)}
    (h : l.all SetVariableValue.wellFormed) : AllTotal (l.map (·.rewrite R ctx)) := by
  simp only [List.all_eq_true] at h
  simp only [AllTotal, List.mem_map]
  rintro _ ⟨v, hv, rfl⟩
  have := h v hv
  cases v <;> simp_all [SetVariableValue.rewrite, SetVariableValue.wellFormed]

@[simp] theorem ShowStatementFilter.rewrite_total (ctx : Context) {f : ShowStatementFilter X}
    (h : f.wellFormed) : (f.rewrite R ctx).Total := by
  cases f <;> simp_all [ShowStatementFilter.rewrite, ShowStatementFilter.wellFormed]

theorem HiveDistributionStyle.rewrite_total (ctx : Context) {hd : HiveDistributionStyle X}
    (h : hd.wellFormed) : (hd.rewrite R ctx).Total := by
  cases hd <;> simp_all [HiveDistributionStyle.rewrite, HiveDistributionStyle.wellFormed]

theorem HiveIOFormat.rewrite_total (ctx : Context) (external : Bool) {io : HiveIOFormat X}
    (h : io.wellFormed) : (io.rewrite R external ctx).Total := by
  cases io <;> simp_all [HiveIOFormat.rewrite, HiveIOFormat.wellFormed, FileFormat.rewrite]

theorem HiveFormat.rewrite_total (ctx : Context) (external : Bool) {hf : HiveFormat X}
    (h : hf.wellFormed) : (hf.rewrite R external ctx).Total := by
  simp only [HiveFormat.wellFormed, option_all_eq_true] at h
  simp +contextual [HiveFormat.rewrite, h, HiveIOFormat.rewrite_total R ctx external]
  intro rf _
  cases rf <;> simp [HiveRowFormat.rewrite]

/-- An external table is written only when it names its file format and location. -/
@[simp] theorem CreateTable.rewrite_total (ctx : Context) {t : CreateTable X} (h : t.wellFormed) :
    (t.rewrite R ctx).Total := by
  simp only [CreateTable.wellFormed, Bool.and_eq_true, Bool.or_eq_true, Bool.not_eq_true',
    option_all_eq_true] at h
  obtain ⟨⟨⟨⟨⟨⟨hn, hl⟩, hd⟩, hf⟩, hp⟩, hw⟩, he⟩ := h
  simp only [CreateTable.rewrite, CreateTable.rewriteColumns, CreateTable.rewriteClauses,
    total_bind, total_write, total_when, total_ite, total_forM, total_displayCommaSeparated,
    total_unwrap_bind, allTotal_map_write, total_pure, implies_true, and_true, true_and]
  refine ⟨ObjectName.rewrite_total ctx hn, fun n hn' => ObjectName.rewrite_total ctx (hl n hn'),
    HiveDistributionStyle.rewrite_total R ctx hd,
    fun f hf' => HiveFormat.rewrite_total R ctx _ (hf f hf'), fun hx => ?_,
    fun _ => SqlOption.allTotal R ctx hp, fun _ => SqlOption.allTotal R ctx hw⟩
  rcases he with he | ⟨hff, hloc⟩
  · simp [he] at hx
  · obtain ⟨ff, hff⟩ := Option.isSome_iff_exists.mp hff
    obtain ⟨loc, hloc⟩ := Option.isSome_iff_exists.mp hloc
    exact ⟨ff, hff, by simp [FileFormat.rewrite], loc, hloc, by simp [String.rewrite]⟩

theorem Statement.rewrite_total : ∀ (s : Statement X) (ctx : Context), s.wellFormed →
    (Statement.rewrite R s ctx).Total
  | s, ctx, h => by
    cases s <;> simp only [Statement.wellFormed, Bool.and_eq_true, option_all_eq_true] at h <;>
      simp +contextual only [h, Statement.rewrite, Statement.rewrite_total _ ctx, total_bind,
        total_write, total_pure, total_when, total_ite, total_forM, total_displaySeparated,
        total_displayCommaSeparated, allTotal_map_write, Ident.rewrite_total, Ident.allTotal,
        ObjectName.rewrite_total, ObjectName.allTotal, DataType.allTotal, TransactionMode.allTotal,
        Expr.rewrite_total, Expr.allTotal_map, Assignment.allTotal, SqlOption.allTotal,
        SetVariableValue.allTotal, ShowStatementFilter.rewrite_total, CreateTable.rewrite_total,
        FileFormat.rewrite, AddDropSync.rewrite, ObjectType.rewrite, and_self, and_true, true_and,
        implies_true, forall_const] <;>
      split <;> simp_all [SqliteOnConflict.rewrite]

/-- **The Render Pass is total on well-formed trees.** No panic of `Ident::rewrite`,
`Word::rewrite` or `matching_end_quote` and no unwrap of the `Decimal` or the external
`CREATE TABLE` arm is reached from a well-formed statement, expression, type or token. -/
theorem renderPass_total (ctx : Context) :
    (∀ s : Statement X, s.wellFormed → (Statement.rewrite R s ctx).Total) ∧
      (∀ e : Expr X, e.wellFormed → (Expr.rewrite R e ctx).Total) ∧
      (∀ d : DataType, d.wellFormed → (d.rewrite ctx).Total) ∧
      (∀ t : Token, t.wellFormed → (t.rewrite ctx).Total) :=
  ⟨(Statement.rewrite_total R · ctx), (Expr.rewrite_total R · ctx),
    fun _ => DataType.rewrite_total ctx, fun _ => Token.rewrite_total ctx⟩

end

/-- A backtick-quoted `USE` is well formed, and renders. -/
theorem renderPass_total_useDatabase :
    (Statement.useDatabase ⟨"a", some '`'⟩ : Statement Foreign.text).wellFormed ∧
      (Statement.rewrite Renders.text (.useDatabase ⟨"a", some '`'⟩) []).Total :=
  ⟨rfl, (renderPass_total Renders.text []).1 _ rfl⟩

end Martlet
