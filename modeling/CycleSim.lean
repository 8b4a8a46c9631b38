import CycleSim.Main
import CycleSim.Proofs.Coverage.Reading
import CycleSim.Proofs.Loop.Exit
import CycleSim.Proofs.Loop.Lifecycle
import CycleSim.Proofs.Loop.Resume
import CycleSim.Proofs.FileTree.Writing
import CycleSim.Proofs.Loop.Closing
import CycleSim.Proofs.Loop.CoverageFile
import CycleSim.Proofs.Coverage.Counts
import CycleSim.Proofs.Loop.EdgeRun
import CycleSim.Proofs.Config.Settings
import CycleSim.Proofs.Context.Initial
import CycleSim.Proofs.Model.CounterRegister
import CycleSim.Proofs.Model.CounterRun
import CycleSim.Proofs.Model.DoublerCoverage
import CycleSim.Proofs.Model.DoublerRun
import CycleSim.Proofs.Loop.Outcome
import CycleSim.Proofs.Loop.Refusal
import CycleSim.Proofs.Loop.Report
import CycleSim.Proofs.Coverage.Lines
import CycleSim.Proofs.Binary64.Classes
import CycleSim.Proofs.Binary64.Value
import CycleSim.Proofs.Model.CoverageBlind
import CycleSim.Proofs.Model.ResetBlind
import CycleSim.Proofs.CommandLine.Stages
import CycleSim.Proofs.Model.CounterStimulus
import CycleSim.Proofs.Model.DoublerStimulus
import CycleSim.Proofs.Decimal.Numeral
import CycleSim.Proofs.Context.PlusArg
import CycleSim.Proofs.Context.Overrides
import CycleSim.Proofs.Context.Settled
import CycleSim.Proofs.Coverage.AnyOrder
import CycleSim.Proofs.Context.Draws
import CycleSim.Proofs.Model.DoublerVectors
import CycleSim.Proofs.Model.Construction
