import MartletSql.Rewrite.Separated

/-!
# MartletSql — leaf renders

The renders of `rewrite/mod.rs`, `rewrite/data_type.rs` and `rewrite/operator.rs` that call no
`Expr` render: identifiers and names, operators, data types, the keyword enums, and tokens.

Two things these renders use are outside the development. `value::escape_single_quote_string`
is modelled from the spec (`escapeSingleQuoteString`). The renders of `Query`, `Value`,
`DateTimeField`, `OrderByExpr`, `ColumnDef`, `TableConstraint` and `AlterTableOperation` are
the fields of a `Renders` record: each writes one fragment and returns `Ok`.

None of these renders reads the context; the argument is kept so the signatures are those of
`SQLReWrite::rewrite`.
-/

namespace Martlet

/-- `Ident::rewrite`: the value between the recorded quotes, `[`…`]` for `[`, bare when
there is no quote; any other quote character panics. -/
def Ident.rewrite (i : Ident) (_ctx : Context) : RW Unit :=
  match i.quoteStyle with
  | some q =>
    if q = '"' ∨ q = '\'' ∨ q = '`' then write (q.toString ++ i.value ++ q.toString)
    else if q = '[' then write ("[" ++ i.value ++ "]")
    else fail "unexpected quote style"
  | none => write i.value

/-- `ObjectName::rewrite`: the parts joined by `.`. -/
def ObjectName.rewrite (n : ObjectName) (ctx : Context) : RW Unit :=
  displaySeparated (n.parts.map (·.rewrite ctx)) "."

/-- `String::rewrite`: the string itself. -/
def String.rewrite (s : String) (_ctx : Context) : RW Unit :=
  write s

/-- Modelled from the spec: `value::escape_single_quote_string` (in `rewrite/value.rs`, not
part of this development) is "the one shared escaping routine" for single-quoted literals;
each `'` is written twice, every other character once. -/
def escapeSingleQuoteString (s : String) : String :=
  ⟨s.data.flatMap fun c => if c = '\'' then ['\'', '\''] else [c]⟩

/-! ## Operators -/

def UnaryOperator.rewrite (op : UnaryOperator) (_ctx : Context) : RW Unit :=
  write <| match op with
    | .plus => "+"
    | .minus => "-"
    | .not => "NOT"
    | .pgBitwiseNot => "~"
    | .pgSquareRoot => "|/"
    | .pgCubeRoot => "||/"
    | .pgPostfixFactorial => "!"
    | .pgPrefixFactorial => "!!"
    | .pgAbs => "@"

def BinaryOperator.rewrite (op : BinaryOperator) (_ctx : Context) : RW Unit :=
  write <| match op with
    | .plus => "+"
    | .minus => "-"
    | .multiply => "*"
    | .divide => "/"
    | .modulus => "%"
    | .stringConcat => "||"
    | .gt => ">"
    | .lt => "<"
    | .gtEq => ">="
    | .ltEq => "<="
    | .spaceship => "<=>"
    | .eq => "="
    | .notEq => "<>"
    | .and => "AND"
    | .or => "OR"
    | .like => "LIKE"
    | .notLike => "NOT LIKE"
    | .bitwiseOr => "|"
    | .bitwiseAnd => "&"
    | .bitwiseXor => "^"
    | .pgBitwiseXor => "#"
    | .pgBitwiseShiftLeft => "<<"
    | .pgBitwiseShiftRight => ">>"
    | .iLike => "ILIKE"
    | .notILike => "NOT ILIKE"

/-! ## Data types -/

/-- `format_type_with_optional_length`: the type name, then `(len)` when there is one. -/
def formatTypeWithOptionalLength (sqlType : String) (len : Option Nat) : RW Unit := do
  write sqlType
  len.forM fun len => write ("(" ++ toString len ++ ")")

/-- `DataType::rewrite`. A `Decimal` with a scale unwraps its precision. -/
def DataType.rewrite : DataType → Context → RW Unit
  | .char size, _ => formatTypeWithOptionalLength "CHAR" size
  | .varchar size, _ => formatTypeWithOptionalLength "CHARACTER VARYING" size
  | .uuid, _ => write "UUID"
  | .clob size, _ => write ("CLOB(" ++ toString size ++ ")")
  | .binary size, _ => write ("BINARY(" ++ toString size ++ ")")
  | .varbinary size, _ => write ("VARBINARY(" ++ toString size ++ ")")
  | .blob size, _ => write ("BLOB(" ++ toString size ++ ")")
  | .decimal precision scale, _ =>
    match scale with
    | some scale => do
      let p ← unwrap precision
      write ("NUMERIC(" ++ toString p ++ "," ++ toString scale ++ ")")
    | none => formatTypeWithOptionalLength "NUMERIC" precision
  | .float size, _ => formatTypeWithOptionalLength "FLOAT" size
  | .smallInt, _ => write "SMALLINT"
  | .int, _ => write "INT"
  | .bigInt, _ => write "BIGINT"
  | .real, _ => write "REAL"
  | .double, _ => write "DOUBLE"
  | .boolean, _ => write "BOOLEAN"
  | .date, _ => write "DATE"
  | .time, _ => write "TIME"
  | .timestamp, _ => write "TIMESTAMP"
  | .interval, _ => write "INTERVAL"
  | .regclass, _ => write "REGCLASS"
  | .text, _ => write "TEXT"
  | .string, _ => write "STRING"
  | .bytea, _ => write "BYTEA"
  | .array ty, ctx => do
    ty.rewrite ctx
    write "[]"
  | .custom ty, ctx => ty.rewrite ctx

/-! ## Keyword enums -/

def WindowFrameUnits.rewrite (u : WindowFrameUnits) (_ctx : Context) : RW Unit :=
  write <| match u with
    | .rows => "ROWS"
    | .range => "RANGE"
    | .groups => "GROUPS"

def WindowFrameBound.rewrite (b : WindowFrameBound) (_ctx : Context) : RW Unit :=
  write <| match b with
    | .currentRow => "CURRENT ROW"
    | .preceding none => "UNBOUNDED PRECEDING"
    | .following none => "UNBOUNDED FOLLOWING"
    | .preceding (some n) => toString n ++ " PRECEDING"
    | .following (some n) => toString n ++ " FOLLOWING"

def AddDropSync.rewrite (a : AddDropSync) (_ctx : Context) : RW Unit :=
  write <| match a with
    | .SYNC => "SYNC PARTITIONS"
    | .DROP => "DROP PARTITIONS"
    | .ADD => "ADD PARTITIONS"

/-- `FileFormat::rewrite`. `JSONFILE` is written as `TEXTFILE`. -/
def FileFormat.rewrite (ff : FileFormat) (_ctx : Context) : RW Unit :=
  write <| match ff with
    | .TEXTFILE => "TEXTFILE"
    | .SEQUENCEFILE => "SEQUENCEFILE"
    | .ORC => "ORC"
    | .PARQUET => "PARQUET"
    | .AVRO => "AVRO"
    | .RCFILE => "RCFILE"
    | .JSONFILE => "TEXTFILE"

def ObjectType.rewrite (t : ObjectType) (_ctx : Context) : RW Unit :=
  write <| match t with
    | .table => "TABLE"
    | .view => "VIEW"
    | .index => "INDEX"
    | .schema => "SCHEMA"

def TransactionAccessMode.rewrite (m : TransactionAccessMode) (_ctx : Context) : RW Unit :=
  write <| match m with
    | .readOnly => "READ ONLY"
    | .readWrite => "READ WRITE"

def TransactionIsolationLevel.rewrite (l : TransactionIsolationLevel) (_ctx : Context) :
    RW Unit :=
  write <| match l with
    | .readUncommitted => "READ UNCOMMITTED"
    | .readCommitted => "READ COMMITTED"
    | .repeatableRead => "REPEATABLE READ"
    | .serializable => "SERIALIZABLE"

def TransactionMode.rewrite (m : TransactionMode) (ctx : Context) : RW Unit :=
  match m with
  | .accessMode mode => mode.rewrite ctx
  | .isolationLevel level => do
    write "ISOLATION LEVEL "
    level.rewrite ctx

def SqliteOnConflict.rewrite (c : SqliteOnConflict) (_ctx : Context) : RW Unit :=
  write <| match c with
    | .rollback => "ROLLBACK"
    | .abort => "ABORT"
    | .fail => "FAIL"
    | .ignore => "IGNORE"
    | .replace => "REPLACE"

/-! ## Tokens -/

/-- `matching_end_quote`: the closer of a word's quote; any other opener panics. -/
def matchingEndQuote (ch : Char) : Except RenderError Char :=
  if ch = '"' then .ok '"'
  else if ch = '[' then .ok ']'
  else if ch = '`' then .ok '`'
  else .error (.panic "unexpected quoting style!")

/-- `Word::rewrite`: like `Ident::rewrite`, but a single quote is not a word quote. -/
def Word.rewrite (w : Word) (_ctx : Context) : RW Unit :=
  match w.quoteStyle with
  | some s =>
    if s = '"' ∨ s = '[' ∨ s = '`' then
      match matchingEndQuote s with
      | .ok e => write (s.toString ++ w.value ++ e.toString)
      | .error err => .error err
    else fail "Unexpected quote_style!"
  | none => write w.value

def Whitespace.rewrite (ws : Whitespace) (_ctx : Context) : RW Unit :=
  write <| match ws with
    | .space => " "
    | .newline => "\n"
    | .tab => "\t"
    | .singleLineComment opener comment => opener ++ comment
    | .multiLineComment s => "/*" ++ s ++ "*/"

/-- `Token::rewrite`. A parameter mark is written as nothing. -/
def Token.rewrite (t : Token) (ctx : Context) : RW Unit :=
  match t with
  | .eof => write "EOF"
  | .word w => w.rewrite ctx
  | .number n l => write (n ++ if l then "L" else "")
  | .char c => write c.toString
  | .singleQuotedString s => write ("'" ++ s ++ "'")
  | .nationalStringLiteral s => write ("N'" ++ s ++ "'")
  | .hexStringLiteral s => write ("X'" ++ s ++ "'")
  | .comma => write ","
  | .whitespace ws => ws.rewrite ctx
  | .doubleEq => write "=="
  | .spaceship => write "<=>"
  | .eq => write "="
  | .neq => write "<>"
  | .lt => write "<"
  | .gt => write ">"
  | .ltEq => write "<="
  | .gtEq => write ">="
  | .plus => write "+"
  | .minus => write "-"
  | .mult => write "*"
  | .div => write "/"
  | .stringConcat => write "||"
  | .mod => write "%"
  | .lParen => write "("
  | .rParen => write ")"
  | .period => write "."
  | .colon => write ":"
  | .doubleColon => write "::"
  | .semiColon => write ";"
  | .backslash => write "\\"
  | .lBracket => write "["
  | .rBracket => write "]"
  | .ampersand => write "&"
  | .caret => write "^"
  | .pipe => write "|"
  | .lBrace => write "\x7b"
  | .rBrace => write "\x7d"
  | .rArrow => write "=>"
  | .sharp => write "#"
  | .exclamationMark => write "!"
  | .doubleExclamationMark => write "!!"
  | .tilde => write "~"
  | .atSign => write "@"
  | .shiftLeft => write "<<"
  | .shiftRight => write ">>"
  | .pgSquareRoot => write "|/"
  | .pgCubeRoot => write "||/"
  | .parameterMark _ => pure ()

/-! ## Renders taken as given -/

/-- The renders of `rewrite/query.rs`, `rewrite/value.rs` and the render half of
`rewrite/ddl.rs`, which are not part of this development: each writes one fragment. -/
structure Renders (X : Foreign) where
  query : X.Query → Context → String
  value : X.Value → Context → String
  dateTimeField : X.DateTimeField → Context → String
  orderByExpr : X.OrderByExpr → Context → String
  columnDef : ColumnDef X → Context → String
  tableConstraint : TableConstraint X → Context → String
  alterTableOperation : AlterTableOperation X → Context → String

/-- Renders for `Foreign.text`: a foreign node writes its own text, a column definition its
name; constraints and `ALTER TABLE` operations write a fixed clause. -/
def Renders.text : Renders Foreign.text where
  query q _ := q
  value v _ := v
  dateTimeField d _ := d
  orderByExpr o _ := o
  columnDef c _ := c.name.value
  tableConstraint _ _ := "UNIQUE (id)"
  alterTableOperation _ _ := "DROP COLUMN c"

end Martlet
