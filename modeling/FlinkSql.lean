import FlinkSql.Deployment
import FlinkSql.Expr.Build
import FlinkSql.Expr.Same
import FlinkSql.Function.Standard
import FlinkSql.Query.Fluent
import FlinkSql.Snapshot.Table
import FlinkSql.Statement.Script
import FlinkSql.Proofs.Expr.Alike
import FlinkSql.Proofs.Table.Lasting
import FlinkSql.Proofs.Statement.Roles
import FlinkSql.Proofs.Query.Recorded
import FlinkSql.Proofs.Statement.Catalog
import FlinkSql.Proofs.Statement.Confined
import FlinkSql.Proofs.Statement.Format
import FlinkSql.Proofs.Statement.JoinScope
import FlinkSql.Proofs.Statement.Remark
import FlinkSql.Proofs.Statement.Renamed
import FlinkSql.Proofs.Table.Refused
import FlinkSql.Proofs.Deployment
import FlinkSql.Proofs.Expr.Comment
import FlinkSql.Proofs.Json.Reread
import FlinkSql.Proofs.Snapshot.Expr
import FlinkSql.Proofs.Snapshot.Plan
import FlinkSql.Proofs.Json.Printed
import FlinkSql.Proofs.Snapshot.Printed
import FlinkSql.Proofs.Table.Commuting
import FlinkSql.Proofs.Expr.Writable
import FlinkSql.Proofs.Function.Like
import FlinkSql.Proofs.Name.Words
import FlinkSql.Proofs.Time.Interval
import FlinkSql.Proofs.Statement.Properties
import FlinkSql.Proofs.Statement.Startup
import FlinkSql.Proofs.Table.Declared
import FlinkSql.Proofs.Statement.Grouping
import FlinkSql.Proofs.Expr.Rewriting
import FlinkSql.Proofs.Function.Template
import FlinkSql.Proofs.Expr.Ascii
import FlinkSql.Proofs.Expr.LiteralKind
import FlinkSql.Proofs.Statement.Collision
import FlinkSql.Proofs.Expr.Aligned
