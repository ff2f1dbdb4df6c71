import CodeDiff.Py
import CodeDiff.Regex
import CodeDiff.Dict
import CodeDiff.Kernel
import CodeDiff.Parser
import CodeDiff.Run
import CodeDiff.Diff
import CodeDiff.Proofs.Parser.Step
import CodeDiff.Proofs.Kernel
import CodeDiff.Proofs.Text
import CodeDiff.Proofs.Parser.Colour
import CodeDiff.Proofs.Parser.Invariant
import CodeDiff.Proofs.Parser.Brackets
import CodeDiff.Proofs.Parser.Provenance
import CodeDiff.Proofs.Preamble
import CodeDiff.Proofs.Diff.Spec
import CodeDiff.Proofs.Diff.Symmetry
import CodeDiff.Proofs.Diff.Report
import CodeDiff.Proofs.Diff.Criterion
import CodeDiff.Proofs.Join.Spec
import CodeDiff.Proofs.Join.Shards
import CodeDiff.Proofs.Join.Failure
import CodeDiff.Proofs.Diff.Gate
import CodeDiff.Proofs.Normalise.Nvfuser
import CodeDiff.Proofs.Normalise.Ptx
import CodeDiff.Proofs.Diff.Normalised
import CodeDiff.Proofs.Reload
import CodeDiff.Proofs.Normalise.Fixpoint
import CodeDiff.Proofs.Diff.Parsed
import CodeDiff.Proofs.Join.Unshard
