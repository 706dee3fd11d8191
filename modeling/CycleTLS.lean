import CycleTLS.Aborts
import CycleTLS.Arguments
import CycleTLS.AsyncClient
import CycleTLS.AsyncRequest
import CycleTLS.Authority
import CycleTLS.Batch
import CycleTLS.BatchPayload
import CycleTLS.Batcher
import CycleTLS.Blame
import CycleTLS.BodyStream
import CycleTLS.Brotli
import CycleTLS.Builders
import CycleTLS.CallerHeaders
import CycleTLS.Cancellation
import CycleTLS.Captures
import CycleTLS.ClientHints
import CycleTLS.Confinement
import CycleTLS.ConnectTunnel
import CycleTLS.Conversion
import CycleTLS.CookieJar
import CycleTLS.CookieTrip
import CycleTLS.Coverage
import CycleTLS.Creation
import CycleTLS.Decompression
import CycleTLS.Defaults
import CycleTLS.Delivery
import CycleTLS.Demultiplexing
import CycleTLS.Entry
import CycleTLS.Errors
import CycleTLS.FFI
import CycleTLS.Failures
import CycleTLS.Fingerprint
import CycleTLS.FingerprintGrammar
import CycleTLS.ForcedHTTP1
import CycleTLS.FormData
import CycleTLS.Frames
import CycleTLS.GlobalSession
import CycleTLS.Grease
import CycleTLS.Groups
import CycleTLS.HTTP2Fingerprint
import CycleTLS.Handlers
import CycleTLS.Handoff
import CycleTLS.HeaderOnce
import CycleTLS.HeaderOrders
import CycleTLS.HeaderWrites
import CycleTLS.Hello
import CycleTLS.Interleaving
import CycleTLS.Isolation
import CycleTLS.JA3
import CycleTLS.JA4R
import CycleTLS.JA4RFormat
import CycleTLS.JA4RTrip
import CycleTLS.JarListing
import CycleTLS.KeyShares
import CycleTLS.Leaks
import CycleTLS.Lib.Base64
import CycleTLS.Lib.Buffered
import CycleTLS.Lib.Cache
import CycleTLS.Lib.Decimal
import CycleTLS.Lib.Dict
import CycleTLS.Lib.EventStream
import CycleTLS.Lib.FormURL
import CycleTLS.Lib.Format
import CycleTLS.Lib.Greatest
import CycleTLS.Lib.Iteration
import CycleTLS.Lib.Ledger
import CycleTLS.Lib.Log
import CycleTLS.Lib.Machine
import CycleTLS.Lib.Merge
import CycleTLS.Lib.MsgPack
import CycleTLS.Lib.Multipart
import CycleTLS.Lib.Polling
import CycleTLS.Lib.Radix
import CycleTLS.Lib.Raising
import CycleTLS.Lib.Reader
import CycleTLS.Lib.Runs
import CycleTLS.Lib.Scan
import CycleTLS.Lib.StableSort
import CycleTLS.Lib.Table
import CycleTLS.Lib.Text
import CycleTLS.Lib.Transition
import CycleTLS.Lib.Utf8
import CycleTLS.LocalAddress
import CycleTLS.Malformed
import CycleTLS.MergeCache
import CycleTLS.Net
import CycleTLS.OpenConnections
import CycleTLS.OptionsTrip
import CycleTLS.Origin
import CycleTLS.Payload
import CycleTLS.Pool
import CycleTLS.Precedence
import CycleTLS.Prepare
import CycleTLS.Prepared
import CycleTLS.PreparedHeaders
import CycleTLS.Protocols
import CycleTLS.ProxyAddress
import CycleTLS.ProxyTunnels
import CycleTLS.PseudoHeaders
import CycleTLS.Python
import CycleTLS.QueryMerge
import CycleTLS.Recovery
import CycleTLS.Redirect
import CycleTLS.Registry
import CycleTLS.RegistryCalls
import CycleTLS.RegistryLookup
import CycleTLS.Request
import CycleTLS.Response
import CycleTLS.ResponseTrip
import CycleTLS.Retrieval
import CycleTLS.RoundTripper
import CycleTLS.SSE
import CycleTLS.SSEDispatch
import CycleTLS.SSEHandles
import CycleTLS.Schema
import CycleTLS.SendPaths
import CycleTLS.Server
import CycleTLS.ServerCancel
import CycleTLS.ServerCommands
import CycleTLS.ServerNames
import CycleTLS.Session
import CycleTLS.SessionCookies
import CycleTLS.SessionRequest
import CycleTLS.SetDefault
import CycleTLS.Shutdown
import CycleTLS.Socks4
import CycleTLS.StreamFailures
import CycleTLS.Submissions
import CycleTLS.Tasks
import CycleTLS.Transparency
import CycleTLS.Verification
import CycleTLS.WebSocket
import CycleTLS.WebSocketDispatch
import CycleTLS.WebSocketHandles
import CycleTLS.Wire
import CycleTLS.WireOrder
