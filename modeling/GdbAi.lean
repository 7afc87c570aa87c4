import GdbAi.Gateway.Arguments
import GdbAi.Gateway.Audit
import GdbAi.Gateway.Freshness
import GdbAi.Gateway.Leases
import GdbAi.Gateway.Operations
import GdbAi.Gateway.Processes
import GdbAi.Gateway.ReadAgreement
import GdbAi.Gateway.Reclamation
import GdbAi.Gateway.Reconciliation
import GdbAi.Gateway.Responses
import GdbAi.Gateway.Schemas
import GdbAi.Gateway.Streams
import GdbAi.Kernel.PageTables
import GdbAi.Kernel.Symbols
import GdbAi.Output.Readers
import GdbAi.Reducer.Consistency
import GdbAi.Reducer.Limitations
import GdbAi.Reducer.StopContext
import GdbAi.Reducer.Waits
import GdbAi.Replay.Limits
import GdbAi.Session.Overlap
import GdbAi.Session.Refinement
import GdbAi.Session.Resume
import GdbAi.Session.Tokens
import GdbAi.Session.Tracking
import GdbAi.Session.Values
import GdbAi.Store.Quotas
