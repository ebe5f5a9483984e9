import PrintPlanner.Chain.Enumeration
import PrintPlanner.Fixture.Office
import PrintPlanner.Media.History
import PrintPlanner.Proofs.Chain.Additions
import PrintPlanner.Proofs.Chain.Monotonicity
import PrintPlanner.Proofs.Chain.Optimality
import PrintPlanner.Proofs.Chain.TieBreaking
import PrintPlanner.Proofs.Declaration.Drift
import PrintPlanner.Proofs.Graph.Handles
import PrintPlanner.Proofs.Graph.Offers
import PrintPlanner.Proofs.Query.Completion
import PrintPlanner.Proofs.Query.Copies
import PrintPlanner.Proofs.Query.DeclarationOrder
import PrintPlanner.Proofs.Query.FurtherTypes
import PrintPlanner.Proofs.Reach.Distance
import PrintPlanner.Proofs.Registry.Lookup
import PrintPlanner.Proofs.Registry.Registration
import PrintPlanner.Proofs.Service.Admission
import PrintPlanner.Proofs.Service.Advertised
import PrintPlanner.Proofs.Service.Atomicity
import PrintPlanner.Proofs.Service.FreshStart
import PrintPlanner.Proofs.Service.Jobs
import PrintPlanner.Proofs.Service.NewPrinter
import PrintPlanner.Proofs.Service.Switch
import PrintPlanner.Proofs.Service.Transparency
import PrintPlanner.Proofs.Settings.Directory
import PrintPlanner.Proofs.Settings.MediaTypes
import PrintPlanner.Proofs.Settings.Resolution
import PrintPlanner.Proofs.Signature.FirstWriter
import PrintPlanner.Proofs.Signature.Profile
import PrintPlanner.Proofs.Signature.SingleChange
import PrintPlanner.Service.History
import PrintPlanner.Settings.Directory
import PrintPlanner.Settings.Memory
