import MartletSql.Ast
import Mathlib.Control.Combinators

/-!
# MartletSql — the DDL analysis

`analyse/ddl.rs` walks the DDL nodes for the Analysis Pass. Each node hands its identifiers,
names, expressions, types and tokens, in the order the Render Pass writes them, to the
analysis of that sub-node, threading the caller's accumulator and stopping at the first
failure. The accumulator's type and the sub-node analyses live outside `ddl.rs`; here they are
`σ`, `ε` and the fields of `Analyses`.

An analysis is an `EStateM ε σ Unit`: a failure returns the error together with the state the
failing step left, which is what `analyse(&self, ctx: &mut SQLStatementContext)` with `?`
does.

* **`foldVisit_append`** — the fail-fast fold over a concatenation is the fold over the second
  part from where the first one stopped, or the first part's failure.
* **`ddlAnalyse_eq_foldVisit`** — every DDL node's analysis is the fail-fast left-to-right fold
  of the sub-node analyses over `sub false`: its sub-nodes without the constraint names.
* **`checkConstraint_name_skipped`** — `display_constraint_name` analyses nothing, so the name
  of a named constraint never reaches the accumulator.
-/

namespace Martlet

/-- A sub-node the DDL analysis hands on. -/
inductive SubNode (X : Foreign) where
  | ident (i : Ident)
  | objectName (n : ObjectName)
  | expr (e : Expr X)
  | dataType (d : DataType)
  | token (t : Token)

/-- The analyses of the sub-nodes, defined outside `ddl.rs`, over the accumulator `σ`. -/
structure Analyses (X : Foreign) (σ ε : Type) where
  ident : Ident → EStateM ε σ Unit
  objectName : ObjectName → EStateM ε σ Unit
  expr : Expr X → EStateM ε σ Unit
  dataType : DataType → EStateM ε σ Unit
  token : Token → EStateM ε σ Unit

section
variable {X : Foreign} {σ ε : Type}

/-- The analysis of one sub-node. -/
def Analyses.visit (A : Analyses X σ ε) : SubNode X → EStateM ε σ Unit
  | .ident i => A.ident i
  | .objectName n => A.objectName n
  | .expr e => A.expr e
  | .dataType d => A.dataType d
  | .token t => A.token t

/-- Modelled from the spec: `DisplaySeparated::analyse` (in `analyse/mod.rs`, not part of this
development) analyses the elements in order and fails fast, "the moment any
accumulation/validation step signals failure, the remaining siblings at every enclosing level
are skipped". -/
def DisplaySeparated.analyse : List (EStateM ε σ Unit) → EStateM ε σ Unit
  | [] => pure ()
  | a :: as => do
    a
    DisplaySeparated.analyse as

/-- `display_constraint_name(name).analyse(ctx)`: its `if let Some(name)` arm holds only the
render's write, commented out, so it analyses nothing. -/
def displayConstraintName (_name : Option Ident) : EStateM ε σ Unit := pure ()

/-- `ReferentialAction::analyse`: its body is the render's write, commented out. -/
def ReferentialAction.analyse (_action : ReferentialAction) : EStateM ε σ Unit := pure ()

section
variable (A : Analyses X σ ε)

/-- `ColumnOption::analyse`. -/
def ColumnOption.analyse : ColumnOption X → EStateM ε σ Unit
  | .null => pure ()
  | .notNull => pure ()
  | .default expr => A.expr expr
  | .unique _ => pure ()
  | .foreignKey foreignTable referredColumns onDelete onUpdate => do
    A.objectName foreignTable
    when (!referredColumns.isEmpty) (DisplaySeparated.analyse (referredColumns.map A.ident))
    onDelete.forM ReferentialAction.analyse
    onUpdate.forM ReferentialAction.analyse
  | .check expr => A.expr expr
  | .dialectSpecific val => DisplaySeparated.analyse (val.map A.token)

/-- `ColumnOptionDef::analyse`: the constraint name, then the option. -/
def ColumnOptionDef.analyse (o : ColumnOptionDef X) : EStateM ε σ Unit := do
  displayConstraintName o.name
  o.option.analyse A

/-- `ColumnDef::analyse`: the name, the type, then each option. -/
def ColumnDef.analyse (c : ColumnDef X) : EStateM ε σ Unit := do
  A.ident c.name
  A.dataType c.dataType
  c.options.forM (·.analyse A)

/-- `TableConstraint::analyse`. -/
def TableConstraint.analyse : TableConstraint X → EStateM ε σ Unit
  | .unique name columns _ => do
    displayConstraintName name
    DisplaySeparated.analyse (columns.map A.ident)
  | .foreignKey name columns foreignTable referredColumns => do
    displayConstraintName name
    DisplaySeparated.analyse (columns.map A.ident)
    A.objectName foreignTable
    DisplaySeparated.analyse (referredColumns.map A.ident)
  | .check name expr => do
    displayConstraintName name
    A.expr expr

/-- `AlterTableOperation::analyse`. -/
def AlterTableOperation.analyse : AlterTableOperation X → EStateM ε σ Unit
  | .addPartitions _ newPartitions => DisplaySeparated.analyse (newPartitions.map A.expr)
  | .addConstraint c => c.analyse A
  | .addColumn columnDef => columnDef.analyse A
  | .dropPartitions partitions _ => DisplaySeparated.analyse (partitions.map A.expr)
  | .dropConstraint name => A.ident name
  | .dropColumn columnName _ _ => A.ident columnName
  | .renamePartitions oldPartitions newPartitions => do
    DisplaySeparated.analyse (oldPartitions.map A.expr)
    DisplaySeparated.analyse (newPartitions.map A.expr)
  | .renameColumn oldColumnName newColumnName => do
    A.ident oldColumnName
    A.ident newColumnName
  | .renameTable tableName => A.objectName tableName

end

end

/-! ## The fail-fast fold

`foldVisit` is what the Analysis Pass is for: the sub-node analyses run over a list of
sub-nodes, each once and in order, the first failure returned with the state its step left and
no later node visited. `Folds A a l` says the analysis `a` is that fold over `l`, from every
state; it composes along `do` blocks by `folds_bind`, so that each node's analysis is matched
to its list one constructor at a time. -/

section
variable {X : Foreign} {σ ε : Type} (A : Analyses X σ ε)

/-- The fail-fast left-to-right fold of the sub-node analyses over `nodes`, from state `s`. -/
def Analyses.foldVisit (A : Analyses X σ ε) : List (SubNode X) → σ → EStateM.Result ε σ Unit
  | [], s => .ok () s
  | n :: ns, s =>
    match A.visit n s with
    | .ok _ s' => A.foldVisit ns s'
    | .error e s' => .error e s'

/-- **Fail-fast composition.** The fold over `l₁ ++ l₂` is the fold over `l₂` from where the
fold over `l₁` ended, or the failure of the fold over `l₁`, with the state it left. -/
theorem foldVisit_append (l₁ l₂ : List (SubNode X)) (s : σ) :
    A.foldVisit (l₁ ++ l₂) s =
      match A.foldVisit l₁ s with
      | .ok _ s' => A.foldVisit l₂ s'
      | .error e s' => .error e s' := by
  induction l₁ generalizing s with
  | nil => rfl
  | cons n ns ih =>
    simp only [List.cons_append, Analyses.foldVisit]
    split <;> simp [ih]

/-- The analysis `a` is the fail-fast fold over `l`, from every state. -/
def Analyses.Folds (a : EStateM ε σ Unit) (l : List (SubNode X)) : Prop :=
  ∀ s, a s = A.foldVisit l s

theorem folds_pure : A.Folds (pure ()) [] := fun _ => rfl

theorem folds_visit (n : SubNode X) : A.Folds (A.visit n) [n] := by
  intro s
  simp only [Analyses.foldVisit]
  split <;> rename_i h <;> rw [h]

theorem folds_bind {a b : EStateM ε σ Unit} {la lb : List (SubNode X)} (ha : A.Folds a la)
    (hb : A.Folds b lb) : A.Folds (a >>= fun _ => b) (la ++ lb) := by
  intro s
  simp only [bind, EStateM.bind, foldVisit_append, ha s]
  rcases A.foldVisit la s with ⟨_, s'⟩ | ⟨_, _⟩
  · exact hb s'
  · rfl

theorem folds_separated {α : Type} (f : α → EStateM ε σ Unit) (g : α → SubNode X)
    (hf : ∀ x, A.Folds (f x) [g x]) (l : List α) :
    A.Folds (DisplaySeparated.analyse (l.map f)) (l.map g) := by
  induction l with
  | nil => exact folds_pure A
  | cons x l ih => exact folds_bind A (hf x) ih

theorem folds_forM {α : Type} (f : α → EStateM ε σ Unit) (g : α → List (SubNode X))
    (hf : ∀ x, A.Folds (f x) (g x)) (l : List α) : A.Folds (l.forM f) (l.flatMap g) := by
  induction l with
  | nil => exact folds_pure A
  | cons x l ih => exact folds_bind A (hf x) ih

theorem folds_when (c : Prop) [Decidable c] {a : EStateM ε σ Unit} {l : List (SubNode X)}
    (h : A.Folds a l) : A.Folds (when c a) (if c then l else []) := by
  unfold when; split
  · exact h
  · exact folds_pure A

theorem folds_referentialActions (o : Option ReferentialAction) :
    A.Folds (o.forM ReferentialAction.analyse) [] := by
  cases o <;> exact folds_pure A

end

/-! ## The sub-nodes of each DDL node

`sub names n` lists the sub-nodes of `n` in the order the Render Pass writes them; the name of a
named constraint or column option is among them when `names` is set. -/

section
variable {X : Foreign}

def constraintNameSub (names : Bool) : Option Ident → List (SubNode X)
  | some name => if names then [.ident name] else []
  | none => []

def ColumnOption.sub : ColumnOption X → List (SubNode X)
  | .default expr => [.expr expr]
  | .foreignKey foreignTable referredColumns _ _ =>
    .objectName foreignTable :: referredColumns.map .ident
  | .check expr => [.expr expr]
  | .dialectSpecific val => val.map .token
  | _ => []

def ColumnOptionDef.sub (names : Bool) (o : ColumnOptionDef X) : List (SubNode X) :=
  constraintNameSub names o.name ++ o.option.sub

def ColumnDef.sub (names : Bool) (c : ColumnDef X) : List (SubNode X) :=
  .ident c.name :: .dataType c.dataType :: c.options.flatMap (·.sub names)

def TableConstraint.sub (names : Bool) : TableConstraint X → List (SubNode X)
  | .unique name columns _ => constraintNameSub names name ++ columns.map .ident
  | .foreignKey name columns foreignTable referredColumns =>
    constraintNameSub names name ++ columns.map .ident ++
      .objectName foreignTable :: referredColumns.map .ident
  | .check name expr => constraintNameSub names name ++ [.expr expr]

def AlterTableOperation.sub (names : Bool) : AlterTableOperation X → List (SubNode X)
  | .addPartitions _ newPartitions => newPartitions.map .expr
  | .addConstraint c => c.sub names
  | .addColumn columnDef => columnDef.sub names
  | .dropPartitions partitions _ => partitions.map .expr
  | .dropConstraint name => [.ident name]
  | .dropColumn columnName _ _ => [.ident columnName]
  | .renamePartitions oldPartitions newPartitions =>
    oldPartitions.map .expr ++ newPartitions.map .expr
  | .renameColumn oldColumnName newColumnName => [.ident oldColumnName, .ident newColumnName]
  | .renameTable tableName => [.objectName tableName]

end

/-! ## Each node's analysis is the fold over its sub-nodes -/

section
variable {X : Foreign} {σ ε : Type} (A : Analyses X σ ε)

theorem folds_displayConstraintName (name : Option Ident) :
    A.Folds (displayConstraintName name) (constraintNameSub false name) := by
  cases name <;> exact folds_pure A

theorem folds_idents (l : List Ident) :
    A.Folds (DisplaySeparated.analyse (l.map A.ident)) (l.map .ident) :=
  folds_separated A A.ident .ident (fun i => folds_visit A (.ident i)) l

theorem folds_exprs (l : List (Expr X)) :
    A.Folds (DisplaySeparated.analyse (l.map A.expr)) (l.map .expr) :=
  folds_separated A A.expr .expr (fun e => folds_visit A (.expr e)) l

theorem ColumnOption.folds_analyse : ∀ o : ColumnOption X, A.Folds (o.analyse A) o.sub
  | .null | .notNull | .unique _ => folds_pure A
  | .default expr | .check expr => folds_visit A (.expr expr)
  | .foreignKey foreignTable referredColumns onDelete onUpdate => by
    have h := folds_bind A (folds_visit A (.objectName foreignTable)) <|
      folds_bind A
        (folds_when A (!referredColumns.isEmpty = true) (folds_idents A referredColumns)) <|
        folds_bind A (folds_referentialActions A onDelete) (folds_referentialActions A onUpdate)
    cases referredColumns <;> simpa [ColumnOption.analyse, ColumnOption.sub] using h
  | .dialectSpecific val => folds_separated A A.token .token (fun t => folds_visit A (.token t)) val

theorem ColumnOptionDef.folds_analyse (o : ColumnOptionDef X) :
    A.Folds (o.analyse A) (o.sub false) :=
  folds_bind A (folds_displayConstraintName A o.name) (ColumnOption.folds_analyse A o.option)

theorem ColumnDef.folds_analyse (c : ColumnDef X) : A.Folds (c.analyse A) (c.sub false) :=
  folds_bind A (folds_visit A (.ident c.name)) <|
    folds_bind A (folds_visit A (.dataType c.dataType)) <|
      folds_forM A _ _ (ColumnOptionDef.folds_analyse A) c.options

theorem TableConstraint.folds_analyse :
    ∀ c : TableConstraint X, A.Folds (c.analyse A) (c.sub false)
  | .unique name columns _ =>
    folds_bind A (folds_displayConstraintName A name) (folds_idents A columns)
  | .foreignKey name columns foreignTable referredColumns => by
    have h := folds_bind A (folds_displayConstraintName A name) <|
      folds_bind A (folds_idents A columns) <|
        folds_bind A (folds_visit A (.objectName foreignTable)) (folds_idents A referredColumns)
    simpa [TableConstraint.analyse, TableConstraint.sub] using h
  | .check name expr =>
    folds_bind A (folds_displayConstraintName A name) (folds_visit A (.expr expr))

theorem AlterTableOperation.folds_analyse :
    ∀ op : AlterTableOperation X, A.Folds (op.analyse A) (op.sub false)
  | .addPartitions _ newPartitions => folds_exprs A newPartitions
  | .addConstraint c => TableConstraint.folds_analyse A c
  | .addColumn columnDef => ColumnDef.folds_analyse A columnDef
  | .dropPartitions partitions _ => folds_exprs A partitions
  | .dropConstraint name => folds_visit A (.ident name)
  | .dropColumn columnName _ _ => folds_visit A (.ident columnName)
  | .renamePartitions oldPartitions newPartitions =>
    folds_bind A (folds_exprs A oldPartitions) (folds_exprs A newPartitions)
  | .renameColumn oldColumnName newColumnName =>
    folds_bind A (folds_visit A (.ident oldColumnName)) (folds_visit A (.ident newColumnName))
  | .renameTable tableName => folds_visit A (.objectName tableName)

end

/-- **The DDL analysis is a fail-fast fold.** For every DDL node and every accumulator state,
the analysis hands the node's sub-nodes, the names of named constraints and column options
left out, to their analyses once each and in the Render Pass's order, and stops at the first
failure with the state that step left. -/
theorem ddlAnalyse_eq_foldVisit {X : Foreign} {σ ε : Type} (A : Analyses X σ ε) (s : σ) :
    (∀ op : AlterTableOperation X, op.analyse A s = A.foldVisit (op.sub false) s) ∧
      (∀ c : TableConstraint X, c.analyse A s = A.foldVisit (c.sub false) s) ∧
      (∀ c : ColumnDef X, c.analyse A s = A.foldVisit (c.sub false) s) ∧
      (∀ o : ColumnOptionDef X, o.analyse A s = A.foldVisit (o.sub false) s) ∧
      (∀ o : ColumnOption X, o.analyse A s = A.foldVisit o.sub s) :=
  ⟨fun op => AlterTableOperation.folds_analyse A op s,
    fun c => TableConstraint.folds_analyse A c s,
    fun c => ColumnDef.folds_analyse A c s, fun o => ColumnOptionDef.folds_analyse A o s,
    fun o => ColumnOption.folds_analyse A o s⟩

/-! ## A named constraint -/

/-- An accumulator that records each sub-node it is handed and never fails. -/
def recorder : Analyses Foreign.text (List String) String where
  ident i := modify (· ++ ["ident " ++ i.value])
  objectName _ := modify (· ++ ["name"])
  expr _ := modify (· ++ ["expr"])
  dataType _ := modify (· ++ ["type"])
  token _ := modify (· ++ ["token"])

/-- **`CONSTRAINT c CHECK (1)`.** The analysis hands the recorder the check expression only; the
fold over the constraint's sub-nodes hands it the name `c` first. -/
theorem checkConstraint_name_skipped :
    (TableConstraint.check (some ⟨"c", none⟩) (.value "1")).analyse recorder [] =
        .ok () ["expr"] ∧
      recorder.foldVisit ((TableConstraint.check (some ⟨"c", none⟩) (.value "1")).sub true) [] =
        .ok () ["ident c", "expr"] :=
  ⟨rfl, rfl⟩

end Martlet
