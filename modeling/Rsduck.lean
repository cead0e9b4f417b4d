import Rsduck.Lib.Session
import Rsduck.Lib.Table
import Rsduck.Catalog.Journal
import Rsduck.Db.Injection
import Rsduck.Db.VectorBatch
import Rsduck.Db.Transactions
import Rsduck.Mysql.Codec
import Rsduck.Mysql.Prepare
import Rsduck.Sql.Text
import Rsduck.SqlRoute
import Rsduck.Catalog.Guard
import Rsduck.Catalog.TypeMapping
import Rsduck.Catalog.ReadAuthorization
import Rsduck.Db.SearchPath
import Rsduck.Catalog.Auth.CurrentPassword
import Rsduck.Catalog.Auth.Administrator
import Rsduck.Mysql.Visibility
import Rsduck.Mysql.Conversation
import Rsduck.Catalog.Partition.Bounds
import Rsduck.Catalog.Partition.Disjoint
import Rsduck.Catalog.Partition.Retention
import Rsduck.Catalog.Partition.ContentsRuns
import Rsduck.Catalog.Partition.StatsRuns
import Rsduck.Catalog.ColumnTypes
import Rsduck.Catalog.ChecksumStream
import Rsduck.Db.Retention
import Rsduck.Db.TopK
import Rsduck.Server.VectorApi
import Rsduck.Server.VectorRequests
import Rsduck.Server.Shutdown
import Rsduck.Db.Literal
import Rsduck.Mysql.DescribeParams
import Rsduck.Mysql.ParamsRoundTrip
import Rsduck.Server.Paging
import Rsduck.Catalog.GuardVerdict
import Rsduck.Mysql.TwoProtocols
import Rsduck.Mysql.Statements
import Rsduck.Mysql.Handshake
import Rsduck.Mysql.LikePattern
import Rsduck.Server.ParquetReads
import Rsduck.ProcessLock
import Rsduck.DuckdbImport.Args
import Rsduck.DuckdbImport.Plan
import Rsduck.DuckdbImport.Run
import Rsduck.Catalog.Startup
import Rsduck.Lib.Sweep
