import TrafficShaping.Files.Tree
import TrafficShaping.Main
import TrafficShaping.Proofs.Command.Drafting
import TrafficShaping.Proofs.CommandLine.Arguments
import TrafficShaping.Proofs.Configuration.Parameters
import TrafficShaping.Proofs.Configuration.Ports
import TrafficShaping.Proofs.Configuration.Validity
import TrafficShaping.Proofs.Json.ReadBack
import TrafficShaping.Proofs.Platform.Convergence
import TrafficShaping.Proofs.Profile.Lookup
import TrafficShaping.Proofs.Program.Gates
import TrafficShaping.Proofs.Rules.Classification
import TrafficShaping.Proofs.Selector.Grammar
import TrafficShaping.Proofs.Session.Naming
import TrafficShaping.Proofs.Rules.Symmetry
import TrafficShaping.Proofs.Text.Encoding
import TrafficShaping.Proofs.Text.Matching
import TrafficShaping.Proofs.Session.Advice
import TrafficShaping.Proofs.Session.Collection
