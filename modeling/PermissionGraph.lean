import PermissionGraph.Registry
import PermissionGraph.Command
import PermissionGraph.Interchange
import PermissionGraph.Proofs.Walk.Route
import PermissionGraph.Proofs.Walk.Breadth
import PermissionGraph.Proofs.Resolution.Lookup
import PermissionGraph.Proofs.Resolution.Opinion
import PermissionGraph.Proofs.Cache.Entries
import PermissionGraph.Proofs.Engine.Operation
import PermissionGraph.Proofs.Engine.Check
import PermissionGraph.Proofs.Engine.Trace
import PermissionGraph.Proofs.Table.Parsed
import PermissionGraph.Proofs.Table.Record
import PermissionGraph.Proofs.Table.Bulk
import PermissionGraph.Proofs.Config
import PermissionGraph.Proofs.Overlay.Call
import PermissionGraph.Proofs.Overlay.Coherence
import PermissionGraph.Proofs.Yaml.Shift
import PermissionGraph.Proofs.Yaml.Comment
import PermissionGraph.Proofs.Yaml.Progress
import PermissionGraph.Proofs.Yaml.Reading
import PermissionGraph.Proofs.Files.Write
import PermissionGraph.Proofs.Files.RoundTrip
import PermissionGraph.Proofs.Overlay.Restart
import PermissionGraph.Proofs.Text.Cut
import PermissionGraph.Proofs.Engine.Fresh
import PermissionGraph.Proofs.Engine.Wildcard
import PermissionGraph.Proofs.Overlay.Retry
import PermissionGraph.Proofs.Overlay.Reload
import PermissionGraph.Proofs.Overlay.Withdrawal
import PermissionGraph.Proofs.Overlay.Registration
import PermissionGraph.Proofs.Cache.Owner
import PermissionGraph.Proofs.Cache.Session
import PermissionGraph.Proofs.Cache.Nested
import PermissionGraph.Proofs.Cache.Waiting
import PermissionGraph.Proofs.Cache.Accounting
import PermissionGraph.Proofs.Resolution.Search
import PermissionGraph.Proofs.Engine.Isolation
import PermissionGraph.Proofs.Walk.Appended
import PermissionGraph.Proofs.Engine.Attached
import PermissionGraph.Proofs.Overlay.Enumeration
import PermissionGraph.Proofs.Walk.Order
import PermissionGraph.Proofs.Walk.Depth
import PermissionGraph.Proofs.Resolution.Asked
import PermissionGraph.Proofs.Engine.Contexts
import PermissionGraph.Proofs.Engine.Current
import PermissionGraph.Proofs.Registry.Call
import PermissionGraph.Proofs.Registry.History
import PermissionGraph.Proofs.Registry.Parents
import PermissionGraph.Proofs.Priority.Distinct
import PermissionGraph.Proofs.Priority.Edit
import PermissionGraph.Proofs.Table.Listing
import PermissionGraph.Proofs.Source.Union
import PermissionGraph.Proofs.Source.Views
import PermissionGraph.Proofs.Resolution.Tables
import PermissionGraph.Proofs.Resolution.Insertion
import PermissionGraph.Proofs.Command.Nodes
import PermissionGraph.Proofs.Engine.Held
import PermissionGraph.Proofs.Command.Authorization
