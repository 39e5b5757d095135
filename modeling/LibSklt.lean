import LibSklt.Foundation.Transition
import LibSklt.Foundation.Framing
import LibSklt.Foundation.Simulation
import LibSklt.Foundation.Services
import LibSklt.Foundation.Streams
import LibSklt.Foundation.Processes
import LibSklt.Foundation.ByteImage
import LibSklt.Foundation.CString
import LibSklt.Foundation.Decimal
import LibSklt.Foundation.Resp
import LibSklt.Foundation.Hex
import LibSklt.Foundation.RunningMean
import LibSklt.Foundation.MachineWord
import LibSklt.Foundation.Ledger
import LibSklt.Foundation.Ring
import LibSklt.Foundation.Separated
import LibSklt.Foundation.Tokens
import LibSklt.Foundation.Printf
import LibSklt.Util.CommonPool
import LibSklt.Util.Pool
import LibSklt.Util.PoolUse
import LibSklt.Util.PoolWaiters
import LibSklt.Util.MemoryManager
import LibSklt.Util.ByteOrder
import LibSklt.Util.BufferCursor
import LibSklt.Util.IntegerTypes
import LibSklt.Util.Buffer
import LibSklt.Util.BufferQueue
import LibSklt.Util.BufferAccess
import LibSklt.Util.Encoder
import LibSklt.Util.Logger
import LibSklt.Util.Calculation
import LibSklt.Util.Configure
import LibSklt.Util.Container
import LibSklt.Handler.HandlerManager
import LibSklt.Net.Header
import LibSklt.DummyServer.HeaderCct
import LibSklt.DummyServer.HeaderSending
import LibSklt.Net.AsyncSessionImpl
import LibSklt.Net.SkltServer
import LibSklt.DummyServer.Main
import LibSklt.TestClient.HeaderCct
import LibSklt.TestClient.HeaderReuse
import LibSklt.Net.SessionCustody
import LibSklt.Net.ConnectionIsolation
import LibSklt.Net.ReceiveOperations
import LibSklt.Net.ReceiveLoop
import LibSklt.Net.FramingSafety
import LibSklt.Net.BodyCapacity
import LibSklt.Net.BodyBlocks
import LibSklt.Net.BlockReturn
import LibSklt.Net.BlockLoss
import LibSklt.Net.ResponseStreams
import LibSklt.Net.HexCode
import LibSklt.Net.PacketPipeline
import LibSklt.Net.Dispatch
import LibSklt.Net.LockStep
import LibSklt.DummyServer.Handlers
import LibSklt.Net.SyncSessionImpl
import LibSklt.Net.SyncSessionPool
import LibSklt.Net.SyncExchange
import LibSklt.Net.PacketProcess
import LibSklt.Net.SyncParsing
import LibSklt.Net.SyncStream
import LibSklt.Net.PoolCalls
import LibSklt.Net.PoolSessions
import LibSklt.Net.ConnectionAccounting
import LibSklt.Net.LoneClient
import LibSklt.Net.Destroy
import LibSklt.Net.PacketNumbers
import LibSklt.Db.RedisConnector
import LibSklt.Db.RedisHandlers
import LibSklt.Db.RedisRounds
import LibSklt.Db.RedisStaleBuffer
import LibSklt.Db.RedisReplies
import LibSklt.Db.RedisSuccess
import LibSklt.Db.MultiBulk
import LibSklt.Db.DbConnector
import LibSklt.Db.HandleBalance
import LibSklt.PacketGenerator.Generator
import LibSklt.PacketGenerator.Emitted
import LibSklt.PacketGenerator.Deserialize
import LibSklt.PacketGenerator.StringGrowth
import LibSklt.PacketGenerator.ProtocolProcess
import LibSklt.PacketGenerator.Serialize
import LibSklt.PacketGenerator.LostBytes
import LibSklt.PacketGenerator.RoundTrip
import LibSklt.PacketGenerator.PacketTest
import LibSklt.PacketGenerator.PackedBody
import LibSklt.PacketGenerator.SettledFields
import LibSklt.PacketGenerator.Disagreement
import LibSklt.PacketGenerator.Agreement
import LibSklt.PacketGenerator.Texts
import LibSklt.PacketGenerator.Sources
import LibSklt.PacketGenerator.StatementReader
import LibSklt.PacketGenerator.FileReader
import LibSklt.PacketGenerator.CodecTexts
import LibSklt.PacketGenerator.GeneratedFile
import LibSklt.PacketGenerator.GeneratedHeader
import LibSklt.PacketGenerator.WriteGenerator
import LibSklt.PacketGenerator.LogCalls
import LibSklt.PacketGenerator.LogLimit
