import RouteCompiler.CommandLine.Run
import RouteCompiler.Main
import RouteCompiler.Service.Reload
import RouteCompiler.Toml.Write
import RouteCompiler.Proofs.Routing.Conflict
import RouteCompiler.Proofs.Routing.Consistent
import RouteCompiler.Proofs.Routing.Dispatch
import RouteCompiler.Proofs.Routing.Resolution
import RouteCompiler.Proofs.Json.RoundTrip
import RouteCompiler.Proofs.Document.Reading
import RouteCompiler.Proofs.Service.RoundTrip
import RouteCompiler.Proofs.Routing.Reordering
import RouteCompiler.Proofs.Routing.History
import RouteCompiler.Proofs.Service.Attribution
import RouteCompiler.Proofs.Cors.Methods
import RouteCompiler.Proofs.Service.Reload
import RouteCompiler.Proofs.Routing.Canonical
import RouteCompiler.Proofs.Compile.Written
import RouteCompiler.Proofs.Document.Acceptance
import RouteCompiler.Proofs.Json.Depth
import RouteCompiler.Proofs.Service.Respelling
import RouteCompiler.Proofs.Service.Notations
import RouteCompiler.Proofs.CommandLine.Agreement
import RouteCompiler.Proofs.Routing.Renaming
import RouteCompiler.Proofs.Routing.Decision
import RouteCompiler.Proofs.Routing.Grammar
import RouteCompiler.Proofs.Compile.Forms
import RouteCompiler.Proofs.Routing.Recasing
import RouteCompiler.Proofs.Service.Problems
import RouteCompiler.Proofs.Compile.Endpoints
import RouteCompiler.Proofs.Routing.Quotation
import RouteCompiler.Proofs.Cors.Fields
import RouteCompiler.Proofs.CommandLine.Trace
