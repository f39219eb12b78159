import MartletSql.Rewrite.Statement

/-!
# MartletSql — the render context

Every render of `rewrite/mod.rs`, `rewrite/data_type.rs` and `rewrite/operator.rs` hands `ctx`
unchanged to its children, and none reads it: `Ident::rewrite` writes the identifier's own
value. The context can therefore reach the output only through the foreign renders.

`rewrite_eq_withContext` makes this precise: rendering with `ctx` is rendering with the
empty context once the foreign renders are given `ctx` (`Renders.withContext`). The
substitution law one might expect, that a context entry `v ↦ w` renders an identifier `v` as
`w`, fails already for `USE a` (`useDatabase_substitution_fails`).
-/

namespace Martlet

section
variable {X : Foreign} (R : Renders X)

/-- The foreign renders with the context fixed to `ctx`, whatever context they are passed. -/
def Renders.withContext (ctx : Context) : Renders X where
  query q _ := R.query q ctx
  value v _ := R.value v ctx
  dateTimeField d _ := R.dateTimeField d ctx
  orderByExpr o _ := R.orderByExpr o ctx
  columnDef c _ := R.columnDef c ctx
  tableConstraint c _ := R.tableConstraint c ctx
  alterTableOperation a _ := R.alterTableOperation a ctx

/-- `ObjectName::rewrite` writes its identifiers' own values, whatever the context. -/
theorem ObjectName.rewrite_context (n : ObjectName) (ctx : Context) :
    n.rewrite ctx = n.rewrite [] := rfl

theorem DataType.rewrite_context (d : DataType) (ctx : Context) :
    d.rewrite ctx = d.rewrite [] := by
  induction d <;> simp only [DataType.rewrite, ObjectName.rewrite_context _ ctx, *]

/-! ## Expressions

One mutual induction over the expression family: in every arm both sides unfold to the same
writes, the children's renders agree by induction, and a leaf's context argument is unused. -/

mutual
theorem Expr.rewrite_context : ∀ (e : Expr X) (ctx : Context),
    Expr.rewrite R e ctx = Expr.rewrite (R.withContext ctx) e []
  | e, ctx => by
    cases e <;>
      simp only [Expr.rewrite, Expr.rewrite_context _ ctx, Expr.rewriteList_context _ ctx,
        Expr.rewriteOption_context _ _ ctx, Function.rewrite_context _ ctx,
        ListAgg.rewrite_context _ ctx, DataType.rewrite_context _ ctx] <;> rfl

theorem Expr.rewriteList_context : ∀ (es : List (Expr X)) (ctx : Context),
    Expr.rewriteList R es ctx = Expr.rewriteList (R.withContext ctx) es []
  | [], _ => rfl
  | e :: es, ctx => by
    simp only [Expr.rewriteList, Expr.rewrite_context e ctx, Expr.rewriteList_context es ctx]

theorem Expr.rewriteOption_context : ∀ (keyword : String) (o : Option (Expr X)) (ctx : Context),
    Expr.rewriteOption R keyword o ctx = Expr.rewriteOption (R.withContext ctx) keyword o []
  | _, none, _ => rfl
  | _, some e, ctx => by simp only [Expr.rewriteOption, Expr.rewrite_context e ctx]

theorem FunctionArg.rewrite_context : ∀ (a : FunctionArg X) (ctx : Context),
    FunctionArg.rewrite R a ctx = FunctionArg.rewrite (R.withContext ctx) a []
  | .named _ arg, ctx => by simp only [FunctionArg.rewrite, Expr.rewrite_context arg ctx]; rfl
  | .unnamed arg, ctx => by simp only [FunctionArg.rewrite, Expr.rewrite_context arg ctx]

theorem FunctionArg.rewriteList_context : ∀ (as : List (FunctionArg X)) (ctx : Context),
    FunctionArg.rewriteList R as ctx = FunctionArg.rewriteList (R.withContext ctx) as []
  | [], _ => rfl
  | a :: as, ctx => by
    simp only [FunctionArg.rewriteList, FunctionArg.rewrite_context a ctx,
      FunctionArg.rewriteList_context as ctx]

theorem Function.rewrite_context : ∀ (f : Function X) (ctx : Context),
    Function.rewrite R f ctx = Function.rewrite (R.withContext ctx) f []
  | .mk _ args over _, ctx => by
    simp only [Function.rewrite, FunctionArg.rewriteList_context args ctx,
      WindowSpec.rewriteOver_context over ctx]
    rfl

theorem WindowSpec.rewriteOver_context : ∀ (o : Option (WindowSpec X)) (ctx : Context),
    WindowSpec.rewriteOver R o ctx = WindowSpec.rewriteOver (R.withContext ctx) o []
  | none, _ => rfl
  | some w, ctx => by simp only [WindowSpec.rewriteOver, WindowSpec.rewrite_context w ctx]

theorem WindowSpec.rewrite_context : ∀ (w : WindowSpec X) (ctx : Context),
    WindowSpec.rewrite R w ctx = WindowSpec.rewrite (R.withContext ctx) w []
  | .mk partitionBy _ _, ctx => by
    simp only [WindowSpec.rewrite, Expr.rewriteList_context partitionBy ctx]
    rfl

theorem ListAgg.rewrite_context : ∀ (l : ListAgg X) (ctx : Context),
    ListAgg.rewrite R l ctx = ListAgg.rewrite (R.withContext ctx) l []
  | .mk _ expr separator onOverflow _, ctx => by
    simp only [ListAgg.rewrite, Expr.rewrite_context expr ctx,
      Expr.rewriteOption_context _ separator ctx,
      ListAggOnOverflow.rewriteOption_context onOverflow ctx]
    rfl

theorem ListAggOnOverflow.rewrite_context : ∀ (o : ListAggOnOverflow X) (ctx : Context),
    ListAggOnOverflow.rewrite R o ctx = ListAggOnOverflow.rewrite (R.withContext ctx) o []
  | .error, _ => rfl
  | .truncate filler _, ctx => by
    simp only [ListAggOnOverflow.rewrite, Expr.rewriteOption_context _ filler ctx]

theorem ListAggOnOverflow.rewriteOption_context :
    ∀ (o : Option (ListAggOnOverflow X)) (ctx : Context),
      ListAggOnOverflow.rewriteOption R o ctx =
        ListAggOnOverflow.rewriteOption (R.withContext ctx) o []
  | none, _ => rfl
  | some o, ctx => by
    simp only [ListAggOnOverflow.rewriteOption, ListAggOnOverflow.rewrite_context o ctx]
end

/-! ## Statements -/

theorem CreateTable.rewrite_context (t : CreateTable X) (ctx : Context) :
    t.rewrite R ctx = t.rewrite (R.withContext ctx) [] := by
  simp only [CreateTable.rewrite, CreateTable.rewriteColumns, CreateTable.rewriteClauses,
    HiveDistributionStyle.rewrite, HiveFormat.rewrite, HiveIOFormat.rewrite,
    Expr.rewrite_context R _ ctx]
  rfl

theorem Statement.rewrite_context : ∀ (s : Statement X) (ctx : Context),
    Statement.rewrite R s ctx = Statement.rewrite (R.withContext ctx) s []
  | s, ctx => by
    cases s <;>
      simp only [Statement.rewrite, Statement.rewrite_context _ ctx, Expr.rewrite_context R _ ctx,
        CreateTable.rewrite_context _ _ ctx, DataType.rewrite_context _ ctx,
        Assignment.rewrite, SqlOption.rewrite, SetVariableValue.rewrite,
        ShowStatementFilter.rewrite] <;> rfl

/-- **The context is read only by the foreign renders.** Rendering a statement or an
expression with `ctx` writes what rendering it with the empty context writes, once the
renders of the foreign nodes are handed `ctx`. No identifier is substituted. -/
theorem rewrite_eq_withContext (ctx : Context) :
    (∀ s : Statement X, Statement.rewrite R s ctx = Statement.rewrite (R.withContext ctx) s []) ∧
      (∀ e : Expr X, Expr.rewrite R e ctx = Expr.rewrite (R.withContext ctx) e []) :=
  ⟨(Statement.rewrite_context R · ctx), (Expr.rewrite_context R · ctx)⟩

end

/-- Substitution through the context at one identifier: a value that the context maps is
replaced by its entry, and the quote style is kept. -/
def Ident.substitute (ctx : Context) (i : Ident) : Ident :=
  match ctx.lookup i.value with
  | some v => { i with value := v }
  | none => i

/-- With the context `a ↦ b`, `USE a` is still written `USE a`, not `USE b`. -/
theorem useDatabase_substitution_fails :
    (Statement.rewrite Renders.text (.useDatabase ⟨"a", none⟩) [("a", "b")]).out ≠
      (Statement.rewrite Renders.text (.useDatabase (Ident.substitute [("a", "b")] ⟨"a", none⟩))
        []).out := by
  decide

end Martlet
