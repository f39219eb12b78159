import Mathlib.Init

/-!
# MartletSql — the statement grammar

The abstract syntax both passes walk: the `sqlparser::ast` and `sqlparser::tokenizer` types
that `rewrite/mod.rs`, `rewrite/data_type.rs`, `rewrite/operator.rs` and `analyse/ddl.rs`
match on, with the fields those passes read.

Four node kinds (`Query`, `Value`, `DateTimeField`, `OrderByExpr`) are rendered by
`rewrite/query.rs` and `rewrite/value.rs`, which are not part of this development. The grammar
takes them as the carriers of a `Foreign` record, so every result holds whatever those types
are. `ColumnDef`, `TableConstraint` and `AlterTableOperation` are spelled out, since
`analyse/ddl.rs` walks them, but their renders are likewise taken as given.

Rust's `u64` sizes become `Nat`; the one `i32` (`num_buckets`) becomes `Int`. Nothing in
either pass does arithmetic on them.
-/

namespace Martlet

/-- The node kinds whose definition and render live outside this development. -/
structure Foreign where
  Query : Type
  Value : Type
  DateTimeField : Type
  OrderByExpr : Type

/-- The grammar whose foreign nodes are given by their SQL text. -/
def Foreign.text : Foreign := ⟨String, String, String, String⟩

/-- `Ident`: the text of an identifier and the quote character it was written with. -/
structure Ident where
  value : String
  quoteStyle : Option Char
deriving DecidableEq, Repr

/-- `ObjectName(Vec<Ident>)`: a name made of `.`-separated parts. -/
structure ObjectName where
  parts : List Ident
deriving DecidableEq, Repr

/-! ## Operators, types and keyword enums -/

inductive UnaryOperator where
  | plus | minus | not | pgBitwiseNot | pgSquareRoot | pgCubeRoot
  | pgPostfixFactorial | pgPrefixFactorial | pgAbs
deriving DecidableEq, Repr

inductive BinaryOperator where
  | plus | minus | multiply | divide | modulus | stringConcat | gt | lt | gtEq | ltEq
  | spaceship | eq | notEq | and | or | like | notLike | bitwiseOr | bitwiseAnd
  | bitwiseXor | pgBitwiseXor | pgBitwiseShiftLeft | pgBitwiseShiftRight | iLike | notILike
deriving DecidableEq, Repr

/-- `DataType`: the column and cast types. -/
inductive DataType where
  | char (size : Option Nat)
  | varchar (size : Option Nat)
  | uuid
  | clob (size : Nat)
  | binary (size : Nat)
  | varbinary (size : Nat)
  | blob (size : Nat)
  | decimal (precision scale : Option Nat)
  | float (size : Option Nat)
  | smallInt | int | bigInt | real | double | boolean | date | time | timestamp
  | interval | regclass | text | string | bytea
  | custom (ty : ObjectName)
  | array (ty : DataType)
deriving Repr

inductive WindowFrameUnits where
  | rows | range | groups
deriving DecidableEq, Repr

inductive WindowFrameBound where
  | currentRow
  | preceding (n : Option Nat)
  | following (n : Option Nat)
deriving DecidableEq, Repr

structure WindowFrame where
  units : WindowFrameUnits
  startBound : WindowFrameBound
  endBound : Option WindowFrameBound
deriving DecidableEq, Repr

inductive FileFormat where
  | TEXTFILE | SEQUENCEFILE | ORC | PARQUET | AVRO | RCFILE | JSONFILE
deriving DecidableEq, Repr

inductive AddDropSync where
  | ADD | DROP | SYNC
deriving DecidableEq, Repr

inductive ObjectType where
  | table | view | index | schema
deriving DecidableEq, Repr

inductive TransactionAccessMode where
  | readOnly | readWrite
deriving DecidableEq, Repr

inductive TransactionIsolationLevel where
  | readUncommitted | readCommitted | repeatableRead | serializable
deriving DecidableEq, Repr

inductive TransactionMode where
  | accessMode (mode : TransactionAccessMode)
  | isolationLevel (level : TransactionIsolationLevel)
deriving DecidableEq, Repr

inductive SqliteOnConflict where
  | rollback | abort | fail | ignore | replace
deriving DecidableEq, Repr

inductive ReferentialAction where
  | restrict | cascade | setNull | noAction | setDefault
deriving DecidableEq, Repr

/-! ## Tokens

`Token` is what `ColumnOption::DialectSpecific` carries. `Word`'s `keyword` field is read by
neither pass and is left out; the payload of `ParameterMark` is never read either. The
comment-opening field of `SingleLineComment` is called `opener` here. -/

inductive Whitespace where
  | space | newline | tab
  | singleLineComment (opener comment : String)
  | multiLineComment (s : String)
deriving DecidableEq, Repr

structure Word where
  value : String
  quoteStyle : Option Char
deriving DecidableEq, Repr

inductive Token where
  | eof
  | word (w : Word)
  | number (n : String) (long : Bool)
  | char (c : Char)
  | singleQuotedString (s : String)
  | nationalStringLiteral (s : String)
  | hexStringLiteral (s : String)
  | comma
  | whitespace (ws : Whitespace)
  | doubleEq | spaceship | eq | neq | lt | gt | ltEq | gtEq | plus | minus | mult | div
  | stringConcat | mod | lParen | rParen | period | colon | doubleColon | semiColon
  | backslash | lBracket | rBracket | ampersand | caret | pipe | lBrace | rBrace | rArrow
  | sharp | exclamationMark | doubleExclamationMark | tilde | atSign | shiftLeft
  | shiftRight | pgSquareRoot | pgCubeRoot
  | parameterMark (mark : String)
deriving Repr

/-! ## Expressions

`Expr` and the nodes it reaches through function calls (`Function`, `FunctionArg`,
`WindowSpec`, `ListAgg`, `ListAggOnOverflow`) are one mutual family. Rust's `Box` fields
are plain subterms. -/

mutual
/-- `Expr`: an SQL expression of any type. -/
inductive Expr (X : Foreign) where
  | identifier (s : Ident)
  | mapAccess (column : Expr X) (key : String)
  | wildcard
  | qualifiedWildcard (q : List Ident)
  | compoundIdentifier (s : List Ident)
  | isNull (ast : Expr X)
  | isNotNull (ast : Expr X)
  | inList (expr : Expr X) (list : List (Expr X)) (negated : Bool)
  | inSubquery (expr : Expr X) (subquery : X.Query) (negated : Bool)
  | between (expr : Expr X) (negated : Bool) (low high : Expr X)
  | binaryOp (left : Expr X) (op : BinaryOperator) (right : Expr X)
  | unaryOp (op : UnaryOperator) (expr : Expr X)
  | cast (expr : Expr X) (dataType : DataType)
  | tryCast (expr : Expr X) (dataType : DataType)
  | extract (field : X.DateTimeField) (expr : Expr X)
  | collate (expr : Expr X) (collation : ObjectName)
  | nested (ast : Expr X)
  | value (v : X.Value)
  | typedString (dataType : DataType) (value : String)
  | function (fn : Function X)
  | case (operand : Option (Expr X)) (conditions results : List (Expr X))
      (elseResult : Option (Expr X))
  | exists (s : X.Query)
  | subquery (s : X.Query)
  | listAgg (listagg : ListAgg X)
  | substring (expr : Expr X) (substringFrom substringFor : Option (Expr X))
  | parameterMark (mark : String)

/-- `Function`: a call `name(args) [OVER (spec)]`. -/
inductive Function (X : Foreign) where
  | mk (name : ObjectName) (args : List (FunctionArg X)) (over : Option (WindowSpec X))
      (distinct : Bool)

inductive FunctionArg (X : Foreign) where
  | named (name : Ident) (arg : Expr X)
  | unnamed (arg : Expr X)

/-- `WindowSpec`: the `PARTITION BY`, `ORDER BY` and frame of an `OVER` clause. -/
inductive WindowSpec (X : Foreign) where
  | mk (partitionBy : List (Expr X)) (orderBy : List X.OrderByExpr)
      (windowFrame : Option WindowFrame)

/-- `ListAgg`: `LISTAGG([DISTINCT] expr[, separator] [ON OVERFLOW ...])`. -/
inductive ListAgg (X : Foreign) where
  | mk (distinct : Bool) (expr : Expr X) (separator : Option (Expr X))
      (onOverflow : Option (ListAggOnOverflow X)) (withinGroup : List X.OrderByExpr)

inductive ListAggOnOverflow (X : Foreign) where
  | error
  | truncate (filler : Option (Expr X)) (withCount : Bool)
end

/-! ## Table definitions

The DDL nodes `analyse/ddl.rs` walks. `ColumnDef`'s collation is read by neither pass and is
left out. -/

inductive ColumnOption (X : Foreign) where
  | null
  | notNull
  | default (expr : Expr X)
  | unique (isPrimary : Bool)
  | foreignKey (foreignTable : ObjectName) (referredColumns : List Ident)
      (onDelete onUpdate : Option ReferentialAction)
  | check (expr : Expr X)
  | dialectSpecific (val : List Token)

/-- `ColumnOptionDef`: `[CONSTRAINT name] option`. -/
structure ColumnOptionDef (X : Foreign) where
  name : Option Ident
  option : ColumnOption X

structure ColumnDef (X : Foreign) where
  name : Ident
  dataType : DataType
  options : List (ColumnOptionDef X)

inductive TableConstraint (X : Foreign) where
  | unique (name : Option Ident) (columns : List Ident) (isPrimary : Bool)
  | foreignKey (name : Option Ident) (columns : List Ident) (foreignTable : ObjectName)
      (referredColumns : List Ident)
  | check (name : Option Ident) (expr : Expr X)

inductive AlterTableOperation (X : Foreign) where
  | addPartitions (ifNotExists : Bool) (newPartitions : List (Expr X))
  | addConstraint (c : TableConstraint X)
  | addColumn (columnDef : ColumnDef X)
  | dropPartitions (partitions : List (Expr X)) (ifExists : Bool)
  | dropConstraint (name : Ident)
  | dropColumn (columnName : Ident) (ifExists cascade : Bool)
  | renamePartitions (oldPartitions newPartitions : List (Expr X))
  | renameColumn (oldColumnName newColumnName : Ident)
  | renameTable (tableName : ObjectName)

/-! ## Statements -/

inductive HiveDistributionStyle (X : Foreign) where
  | PARTITIONED (columns : List (ColumnDef X))
  | CLUSTERED (columns : List Ident) (sortedBy : List (ColumnDef X)) (numBuckets : Int)
  | SKEWED (columns «on» : List (ColumnDef X)) (storedAsDirectories : Bool)
  | NONE

inductive HiveRowFormat where
  | SERDE («class» : String)
  | DELIMITED
deriving DecidableEq, Repr

inductive HiveIOFormat (X : Foreign) where
  | IOF (inputFormat outputFormat : Expr X)
  | fileFormat (format : FileFormat)

structure HiveFormat (X : Foreign) where
  rowFormat : Option HiveRowFormat
  storage : Option (HiveIOFormat X)
  location : Option String

/-- `SqlOption`: `name = value` in `WITH (...)` and `TBLPROPERTIES (...)`. -/
structure SqlOption (X : Foreign) where
  name : Ident
  value : X.Value

/-- `Assignment`: `id = value` in an `UPDATE`. -/
structure Assignment (X : Foreign) where
  id : Ident
  value : Expr X

inductive SetVariableValue (X : Foreign) where
  | ident (ident : Ident)
  | literal (literal : X.Value)

inductive ShowStatementFilter (X : Foreign) where
  | like (pattern : String)
  | iLike (pattern : String)
  | «where» (expr : Expr X)

/-- The fields of `Statement::CreateTable`. The `temporary` flag is read by neither pass and
is left out. -/
structure CreateTable (X : Foreign) where
  orReplace : Bool
  external : Bool
  ifNotExists : Bool
  name : ObjectName
  columns : List (ColumnDef X)
  constraints : List (TableConstraint X)
  hiveDistribution : HiveDistributionStyle X
  hiveFormats : Option (HiveFormat X)
  tableProperties : List (SqlOption X)
  withOptions : List (SqlOption X)
  fileFormat : Option FileFormat
  location : Option String
  query : Option X.Query
  withoutRowid : Bool
  like : Option ObjectName

/-- `Statement`: a top-level statement. -/
inductive Statement (X : Foreign) where
  | explain (verbose analyze : Bool) (statement : Statement X)
  | query (s : X.Query)
  | directory (overwrite «local» : Bool) (path : String) (fileFormat : Option FileFormat)
      (source : X.Query)
  | msck (tableName : ObjectName) (repair : Bool) (partitionAction : Option AddDropSync)
  | truncate (tableName : ObjectName) (partitions : Option (List (Expr X)))
  | analyze (tableName : ObjectName) (partitions : Option (List (Expr X))) (forColumns : Bool)
      (columns : List Ident) (cacheMetadata noscan computeStatistics : Bool)
  | insert (or : Option SqliteOnConflict) (tableName : ObjectName) (columns : List Ident)
      (overwrite : Bool) (source : X.Query) (partitioned : Option (List (Expr X)))
      (afterColumns : List Ident) (table : Bool)
  | copy (tableName : ObjectName) (columns : List Ident) (values : List (Option String))
  | update (tableName : ObjectName) (assignments : List (Assignment X))
      (selection limit : Option (Expr X))
  | delete (tableName : ObjectName) (selection : Option (Expr X))
  | createDatabase (dbName : ObjectName) (ifNotExists : Bool)
      (location managedLocation : Option String)
  | createView (orReplace : Bool) (name : ObjectName) (columns : List Ident) (query : X.Query)
      (materialized : Bool) (withOptions : List (SqlOption X))
  | createTable (t : CreateTable X)
  | createVirtualTable (name : ObjectName) (ifNotExists : Bool) (moduleName : Ident)
      (moduleArgs : List Ident)
  | createIndex (name tableName : ObjectName) (columns : List X.OrderByExpr)
      (unique ifNotExists : Bool)
  | alterTable (name : ObjectName) (operation : AlterTableOperation X)
  | drop (objectType : ObjectType) (ifExists : Bool) (names : List ObjectName)
      (cascade purge : Bool)
  | setVariable («local» hivevar : Bool) («variable» : Ident) (value : List (SetVariableValue X))
  | showVariable («variable» : List Ident)
  | useDatabase («variable» : Ident)
  | showColumns (extended full : Bool) (tableName : ObjectName)
      (filter : Option (ShowStatementFilter X))
  | startTransaction (modes : List TransactionMode)
  | setTransaction (session : Bool) (modes : List TransactionMode)
  | setNames («variable» : Ident)
  | commit (chain : Bool)
  | savepoint («variable» : Ident)
  | rollback (chain : Bool) (savepoint : Option Ident)
  | release («variable» : Ident)
  | createSchema (schemaName : ObjectName) (ifNotExists : Bool)
  | assert (condition : Expr X) (message : Option (Expr X))
  | deallocate (name : Ident) (prepare : Bool)
  | execute (name : Ident) (parameters : List (Expr X))
  | prepare (name : Ident) (dataTypes : List DataType) (statement : Statement X)

end Martlet
