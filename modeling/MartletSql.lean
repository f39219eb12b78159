import MartletSql.Ast
import MartletSql.Sink
import MartletSql.Rewrite.Separated
import MartletSql.Rewrite.Leaf
import MartletSql.Rewrite.Expr
import MartletSql.Rewrite.Statement
import MartletSql.Context
import MartletSql.Total
import MartletSql.Literal
import MartletSql.Balance
import MartletSql.Balance.Statement
import MartletSql.Fusion
import MartletSql.Fusion.Statement
import MartletSql.Literal.Expr
import MartletSql.Literal.Statement
import MartletSql.Token
import MartletSql.Analyse.Ddl
