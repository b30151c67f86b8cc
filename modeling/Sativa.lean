import Sativa.Prog
import Sativa.Rules
import Sativa.Recorded
import Sativa.Machine
import Sativa.Buffer
import Sativa.Table
import Sativa.Ieee
import Sativa.Toml
import Sativa.Utf8
import Sativa.Cbor
import Sativa.CborCodec
import Sativa.CborAccess
import Sativa.Like
import Sativa.StoreModel
import Sativa.DataStore
import Sativa.StoreSpec
import Sativa.StoreRuns
import Sativa.StoreTypes
import Sativa.RowIds
import Sativa.Subtree
import Sativa.Config
import Sativa.AccessRules
import Sativa.ConfigRead
import Sativa.ConfigOnce
import Sativa.ConfigLayers
import Sativa.Steps
import Sativa.Interleave
import Sativa.Linearize
import Sativa.StoreSteps
import Sativa.RowAccess
import Sativa.Commute
import Sativa.Threads
import Sativa.Rpc
import Sativa.RpcServer
import Sativa.RpcServe
import Sativa.RpcIsolation
import Sativa.RpcFraming
import Sativa.RequestFields
import Sativa.KeyNames
import Sativa.RpcConnection
import Sativa.ReceiveHistory
import Sativa.Confd
import Sativa.Link
import Sativa.LinkCalls
import Sativa.ReplyMaps
import Sativa.Quiet
import Sativa.RoundTrip
import Sativa.RealValues
import Sativa.ControlValues
import Sativa.Classify
import Sativa.Wire
import Sativa.Attribution
import Sativa.ReplyAccess
import Sativa.ReplyTotal
import Sativa.UpdateReply
import Sativa.ClientBase
import Sativa.PacketLength
import Sativa.ClientLife
import Sativa.ClientReads
import Sativa.ClientDescriptor
import Sativa.MapLookup
import Sativa.StoreAccepts
import Sativa.Sessions
import Sativa.Simulation
import Sativa.Clients
import Sativa.ClientsSpec
import Sativa.RequestAccess
import Sativa.Ledger
import Sativa.ListenSocket
import Sativa.ServerLife
import Sativa.HexDump
import Sativa.Util
import Sativa.UtilSpec
import Sativa.SrmDev
import Sativa.SrmDevices
import Sativa.SrmBooks
import Sativa.SrmFlags
import Sativa.SrmMessages
import Sativa.SrmRuns
import Sativa.SrmNames
import Sativa.SrmPrepare
