import WorkspaceGateway.Access
import WorkspaceGateway.Base64Url
import WorkspaceGateway.Catalog.Document
import WorkspaceGateway.Catalog.Snapshot
import WorkspaceGateway.Catalog.Store
import WorkspaceGateway.CommandLine.Options
import WorkspaceGateway.CommandLine.Words
import WorkspaceGateway.Cors
import WorkspaceGateway.Credential.Bearer
import WorkspaceGateway.Credential.Subprotocol
import WorkspaceGateway.Decimal.Binary64
import WorkspaceGateway.Decimal.Shortest
import WorkspaceGateway.Digest.Sha2
import WorkspaceGateway.Directory
import WorkspaceGateway.Fault
import WorkspaceGateway.Files
import WorkspaceGateway.Headers
import WorkspaceGateway.Json.Reader
import WorkspaceGateway.Json.Record
import WorkspaceGateway.Json.Value
import WorkspaceGateway.Json.Writer
import WorkspaceGateway.Main
import WorkspaceGateway.MemberEndpoint
import WorkspaceGateway.Metrics
import WorkspaceGateway.ObjectKey
import WorkspaceGateway.Octets
import WorkspaceGateway.Outbound
import WorkspaceGateway.Proxy
import WorkspaceGateway.Relay
import WorkspaceGateway.RequestPath
import WorkspaceGateway.RequestTarget
import WorkspaceGateway.Response
import WorkspaceGateway.Route
import WorkspaceGateway.Router
import WorkspaceGateway.SocketAddress
import WorkspaceGateway.Startup
import WorkspaceGateway.Text.Blank
import WorkspaceGateway.Text.Printable
import WorkspaceGateway.Text.Quoted
import WorkspaceGateway.Text.Split
import WorkspaceGateway.Timestamp
import WorkspaceGateway.Tls.Der
import WorkspaceGateway.Tls.Material
import WorkspaceGateway.Tls.Pem
import WorkspaceGateway.Token.Jwt
import WorkspaceGateway.Token.Keys
import WorkspaceGateway.Token.Rsa
import WorkspaceGateway.Url.Address
import WorkspaceGateway.Url.Basic
import WorkspaceGateway.Url.Domain
import WorkspaceGateway.Url.Parser
import WorkspaceGateway.Url.Path
import WorkspaceGateway.Url.Percent
import WorkspaceGateway.Url.Punycode
import WorkspaceGateway.Workspace
import WorkspaceGateway.WorkspaceApi
import WorkspaceGateway.Yaml.Cursor
import WorkspaceGateway.Yaml.Node
import WorkspaceGateway.Yaml.Scalar
import WorkspaceGateway.Yaml.Token
import WorkspaceGateway.Proofs.OutboundFields
import WorkspaceGateway.Proofs.RoutingStages
import WorkspaceGateway.Proofs.SameFields
import WorkspaceGateway.Proofs.ImpersonationFields
import WorkspaceGateway.Proofs.CatalogListing
import WorkspaceGateway.Proofs.ActingUser
import WorkspaceGateway.Proofs.FaultAnswers
import WorkspaceGateway.Proofs.HiddenWorkspace
import WorkspaceGateway.Proofs.PercentCoding
import WorkspaceGateway.Proofs.ResolvedPath
import WorkspaceGateway.Proofs.NamespaceReading
import WorkspaceGateway.Proofs.DirectedFields
import WorkspaceGateway.Proofs.PresentedCredential
import WorkspaceGateway.Proofs.CallerCredential
import WorkspaceGateway.Proofs.ConfinedCredential
import WorkspaceGateway.Proofs.ServingCluster
import WorkspaceGateway.Proofs.CatalogRuns
import WorkspaceGateway.Proofs.CompleteMediation
import WorkspaceGateway.Proofs.RequestLookups
import WorkspaceGateway.Proofs.ChangingCatalog
import WorkspaceGateway.Proofs.PublicViewer
import WorkspaceGateway.Proofs.AcceptedTokens
import WorkspaceGateway.Proofs.KeyRefreshes
import WorkspaceGateway.Proofs.WorkspaceAnswers
import WorkspaceGateway.Proofs.RequestCounts
import WorkspaceGateway.Proofs.NearestBinding
import WorkspaceGateway.Proofs.PathGrammar
import WorkspaceGateway.Proofs.BasePath
import WorkspaceGateway.Proofs.RefusalCounts
import WorkspaceGateway.Proofs.BitGroups
import WorkspaceGateway.Proofs.FoundTokens
import WorkspaceGateway.Proofs.ReplacedTokens
import WorkspaceGateway.Proofs.HomeWorkspaces
import WorkspaceGateway.Proofs.DeterminedFields
import WorkspaceGateway.Proofs.UsableKeys
import WorkspaceGateway.Proofs.MemberTokens
import WorkspaceGateway.Proofs.ListedWorkspaces
import WorkspaceGateway.Proofs.PreflightAnswers
import WorkspaceGateway.Proofs.CanonicalNames
