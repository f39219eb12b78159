import MartletSql.Rewrite.Leaf

/-!
# MartletSql — expression renders

`Expr::rewrite` and the renders of the nodes it reaches through calls and aggregates
(`Function`, `FunctionArg`, `WindowSpec`, `ListAgg`, `ListAggOnOverflow`), one mutual block
by structural recursion.

A slice of children goes to `displaySeparated` as the list of their renders: `rewriteList`
maps a render over a slice inside the block, where Lean sees each call is on a subterm;
`Expr.rewriteList_eq` says it is the plain `List.map`. Likewise each
`if let Some(x) = o { ... }` on an optional child is a helper of the block (`rewriteOption`,
`rewriteOver`), so that every arm of `Expr.rewrite` unfolds by `rfl`.
-/

namespace Martlet

/-- The `for (c, r) in conditions.iter().zip(results)` loop of `Expr::Case`, given the
renders of the paired conditions and results. -/
def whenThens : List (RW Unit × RW Unit) → RW Unit
  | [] => pure ()
  | (c, r) :: arms => do
    write " WHEN "
    c
    write " THEN "
    r
    whenThens arms

section
variable {X : Foreign} (R : Renders X)

mutual
/-- `Expr::rewrite`. `TryCast` and `ParameterMark` write nothing. -/
def Expr.rewrite : Expr X → Context → RW Unit
  | .identifier s, ctx => s.rewrite ctx
  | .mapAccess column key, ctx => do
    Expr.rewrite column ctx
    write ("[\"" ++ key ++ "\"]")
  | .wildcard, _ => write "*"
  | .qualifiedWildcard q, ctx => do
    displaySeparated (q.map (·.rewrite ctx)) "."
    write ".*"
  | .compoundIdentifier s, ctx => displaySeparated (s.map (·.rewrite ctx)) "."
  | .isNull ast, ctx => do
    Expr.rewrite ast ctx
    write " IS NULL"
  | .isNotNull ast, ctx => do
    Expr.rewrite ast ctx
    write " IS NOT NULL"
  | .inList expr list negated, ctx => do
    Expr.rewrite expr ctx
    write (" " ++ (if negated then "NOT " else "") ++ "IN (")
    displayCommaSeparated (Expr.rewriteList list ctx)
    write ")"
  | .inSubquery expr subquery negated, ctx => do
    Expr.rewrite expr ctx
    write (" " ++ (if negated then "NOT " else "") ++ "IN (")
    write (R.query subquery ctx)
    write ")"
  | .between expr negated low high, ctx => do
    Expr.rewrite expr ctx
    write (" " ++ (if negated then "NOT " else "") ++ "BETWEEN ")
    Expr.rewrite low ctx
    write " AND "
    Expr.rewrite high ctx
  | .binaryOp left op right, ctx => do
    Expr.rewrite left ctx
    write " "
    op.rewrite ctx
    write " "
    Expr.rewrite right ctx
  | .unaryOp op expr, ctx =>
    if op = .pgPostfixFactorial then do
      Expr.rewrite expr ctx
      op.rewrite ctx
    else do
      op.rewrite ctx
      write " "
      Expr.rewrite expr ctx
  | .cast expr dataType, ctx => do
    write "CAST("
    Expr.rewrite expr ctx
    write " AS "
    dataType.rewrite ctx
    write ")"
  | .extract field expr, ctx => do
    write "EXTRACT("
    write (R.dateTimeField field ctx)
    write " FROM "
    Expr.rewrite expr ctx
    write ")"
  | .collate expr collation, ctx => do
    Expr.rewrite expr ctx
    write " COLLATE "
    collation.rewrite ctx
  | .nested ast, ctx => do
    write "("
    Expr.rewrite ast ctx
    write ")"
  | .value v, ctx => write (R.value v ctx)
  | .typedString dataType value, ctx => do
    dataType.rewrite ctx
    write " '"
    write (escapeSingleQuoteString value)
    write "'"
  | .function fn, ctx => Function.rewrite fn ctx
  | .case operand conditions results elseResult, ctx => do
    write "CASE"
    Expr.rewriteOption " " operand ctx
    whenThens ((Expr.rewriteList conditions ctx).zip (Expr.rewriteList results ctx))
    Expr.rewriteOption " ELSE " elseResult ctx
    write " END"
  | .exists s, ctx => do
    write "EXISTS ("
    write (R.query s ctx)
    write ")"
  | .subquery s, ctx => do
    write "("
    write (R.query s ctx)
    write ")"
  | .listAgg listagg, ctx => ListAgg.rewrite listagg ctx
  | .substring expr substringFrom substringFor, ctx => do
    write "SUBSTRING("
    Expr.rewrite expr ctx
    Expr.rewriteOption " FROM " substringFrom ctx
    Expr.rewriteOption " FOR " substringFor ctx
    write ")"
  | .tryCast _ _, _ => pure ()
  | .parameterMark _, _ => pure ()

/-- The renders of a slice of expressions. -/
def Expr.rewriteList : List (Expr X) → Context → List (RW Unit)
  | [], _ => []
  | e :: es, ctx => Expr.rewrite e ctx :: Expr.rewriteList es ctx

/-- `if let Some(e) = o { write!(f, keyword)?; e.rewrite(f, ctx)?; }`. -/
def Expr.rewriteOption : String → Option (Expr X) → Context → RW Unit
  | _, none, _ => pure ()
  | keyword, some e, ctx => do
    write keyword
    Expr.rewrite e ctx

def FunctionArg.rewrite : FunctionArg X → Context → RW Unit
  | .named name arg, ctx => do
    name.rewrite ctx
    write " => "
    Expr.rewrite arg ctx
  | .unnamed arg, ctx => Expr.rewrite arg ctx

def FunctionArg.rewriteList : List (FunctionArg X) → Context → List (RW Unit)
  | [], _ => []
  | a :: as, ctx => FunctionArg.rewrite a ctx :: FunctionArg.rewriteList as ctx

/-- `Function::rewrite`: `name([DISTINCT ]args)`, then ` OVER (spec)` when windowed. -/
def Function.rewrite : Function X → Context → RW Unit
  | .mk name args over distinct, ctx => do
    name.rewrite ctx
    write ("(" ++ (if distinct then "DISTINCT " else ""))
    displayCommaSeparated (FunctionArg.rewriteList args ctx)
    write ")"
    WindowSpec.rewriteOver over ctx

/-- `if let Some(o) = &self.over { write!(f, " OVER (")?; o.rewrite(f, ctx)?; write!(f, ")")?; }`. -/
def WindowSpec.rewriteOver : Option (WindowSpec X) → Context → RW Unit
  | none, _ => pure ()
  | some o, ctx => do
    write " OVER ("
    WindowSpec.rewrite o ctx
    write ")"

/-- `WindowSpec::rewrite`: each present clause, `delim` holding the space that separates it
from an earlier one. -/
def WindowSpec.rewrite : WindowSpec X → Context → RW Unit
  | .mk partitionBy orderBy windowFrame, ctx => do
    let mut delim := ""
    if !partitionBy.isEmpty then
      delim := " "
      write "PARTITION BY "
      displayCommaSeparated (Expr.rewriteList partitionBy ctx)
    if !orderBy.isEmpty then
      write delim
      delim := " "
      write "ORDER BY "
      displayCommaSeparated (orderBy.map fun o => write (R.orderByExpr o ctx))
    if let some windowFrame := windowFrame then
      if let some endBound := windowFrame.endBound then
        write delim
        windowFrame.units.rewrite ctx
        write " BETWEEN "
        windowFrame.startBound.rewrite ctx
        write " AND "
        endBound.rewrite ctx
      else
        write delim
        windowFrame.units.rewrite ctx
        write " "
        windowFrame.startBound.rewrite ctx

def ListAgg.rewrite : ListAgg X → Context → RW Unit
  | .mk distinct expr separator onOverflow withinGroup, ctx => do
    write ("LISTAGG(" ++ (if distinct then "DISTINCT " else ""))
    Expr.rewrite expr ctx
    Expr.rewriteOption ", " separator ctx
    ListAggOnOverflow.rewriteOption onOverflow ctx
    write ")"
    when (!withinGroup.isEmpty) do
      write " WITHIN GROUP (ORDER BY "
      displayCommaSeparated (withinGroup.map fun o => write (R.orderByExpr o ctx))
      write ")"

def ListAggOnOverflow.rewrite : ListAggOnOverflow X → Context → RW Unit
  | .error, _ => do
    write " ON OVERFLOW"
    write " ERROR"
  | .truncate filler withCount, ctx => do
    write " ON OVERFLOW"
    write " TRUNCATE"
    Expr.rewriteOption " " filler ctx
    (if withCount then write " WITH" else write " WITHOUT")
    write " COUNT"

/-- `if let Some(on_overflow) = &self.on_overflow { on_overflow.rewrite(f, ctx)?; }`. -/
def ListAggOnOverflow.rewriteOption : Option (ListAggOnOverflow X) → Context → RW Unit
  | none, _ => pure ()
  | some o, ctx => ListAggOnOverflow.rewrite o ctx
end

theorem Expr.rewriteList_eq (es : List (Expr X)) (ctx : Context) :
    Expr.rewriteList R es ctx = es.map (Expr.rewrite R · ctx) := by
  induction es with
  | nil => rfl
  | cons e es ih => simp [Expr.rewriteList, ih]

theorem FunctionArg.rewriteList_eq (as : List (FunctionArg X)) (ctx : Context) :
    FunctionArg.rewriteList R as ctx = as.map (FunctionArg.rewrite R · ctx) := by
  induction as with
  | nil => rfl
  | cons a as ih => simp [FunctionArg.rewriteList, ih]

end

end Martlet
