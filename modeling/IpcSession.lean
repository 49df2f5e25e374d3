import IpcSession.Peers.Finisher
import IpcSession.Peers.Hosed
import IpcSession.Peers.Flush
import IpcSession.Peers.Barrier
import IpcSession.Client.Fresh
import IpcSession.Client.Cns
import IpcSession.Client.Api
import IpcSession.Client.AllOrNothing
import IpcSession.Server.LogIn
import IpcSession.Server.Access
import IpcSession.Server.Api
import IpcSession.Server.Resources
import IpcSession.Server.InitChannels
import IpcSession.SessionServer.Namespaces
import IpcSession.SessionServer.Shutdown
import IpcSession.SessionServer.Graveyard
import IpcSession.SessionServer.OutArgs
import IpcSession.Names.Cleanup
import IpcSession.SyncIo.SessionGate
import IpcSession.SyncIo.ServerGate
import IpcSession.Client.Completes
import IpcSession.Client.TakenOver
import IpcSession.Cns.Leads
import IpcSession.Cns.Mutex
import IpcSession.Cns.Checks
