import DragonflyClient.Urma.OwnerLoop
import DragonflyClient.Urma.Reorder
import DragonflyClient.Urma.RouterCalls
import DragonflyClient.Urma.AcquireTx
import DragonflyClient.Urma.Layout
import DragonflyClient.Urma.Ownership
import DragonflyClient.Urma.Handshake
import DragonflyClient.Urma.Emission
import DragonflyClient.Urma.Sizing
import DragonflyClient.Server.Exchange
import DragonflyClient.Urma.Cancellation
import DragonflyClient.Storage.Record
import DragonflyClient.Resource.ParentPiece
import DragonflyClient.Resource.TaskLifecycle
import DragonflyClient.Storage.PolledReader
import DragonflyClient.Storage.PieceBytes
import DragonflyClient.Storage.LinkedCache
import DragonflyClient.Storage.CacheSize
import DragonflyClient.Storage.FdCache
import DragonflyClient.Util.TaskIdentity
import DragonflyClient.Storage.ContentPath
import DragonflyClient.Urma.WindowSlots
import DragonflyClient.Dfget.IncludeFiles
import DragonflyClient.Dfget.Transfer
import DragonflyClient.Resource.InFlightWait
import DragonflyClient.Resource.ClientPenalty
import DragonflyClient.Util.CanonicalUrl
import DragonflyClient.Urma.Identities
import DragonflyClient.Resource.PieceLength
import DragonflyClient.Gc.EvictSpace
import DragonflyClient.Util.RollingWindow
import DragonflyClient.Backend.ObjectStorage
import DragonflyClient.Backend.HuggingFace
import DragonflyClient.Urma.WrArena
