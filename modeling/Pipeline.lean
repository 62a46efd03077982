import Pipeline.Harness.Setting
import Pipeline.Main
import Pipeline.Proofs.Run.Log
import Pipeline.Proofs.Script.Agreement
import Pipeline.Proofs.Script.Mirror
import Pipeline.Proofs.Script.Aliasing
import Pipeline.Proofs.Task.Scope
import Pipeline.Target.Recording
import Pipeline.Proofs.Task.Draft
import Pipeline.Proofs.Run.FailFast
import Pipeline.Proofs.Run.Cleanup
import Pipeline.Proofs.Cli.CleanUp
import Pipeline.Proofs.Shell.Raw
import Pipeline.Proofs.Shell.Spelling
import Pipeline.Proofs.Shell.Reading
import Pipeline.Proofs.Shell.Expansion
import Pipeline.Proofs.Shell.Environment
import Pipeline.Proofs.Shell.Exec
import Pipeline.Proofs.Harness.LoopBack
import Pipeline.Proofs.Machine.FileSystem
import Pipeline.Proofs.Harness.Installed
import Pipeline.Proofs.Run.Exchange
import Pipeline.Proofs.Harness.Unstarted
import Pipeline.Proofs.Stream.Capture
import Pipeline.Proofs.Cli.Callback
import Pipeline.Proofs.Machine.Deposit
import Pipeline.Proofs.Harness.Filling
import Pipeline.Proofs.Harness.Failed
import Pipeline.Proofs.Stream.Copying
import Pipeline.Proofs.Stream.Isolated
import Pipeline.Proofs.Stream.Draining
import Pipeline.Proofs.Run.Outputs
import Pipeline.Proofs.Script.Cut
import Pipeline.Proofs.Target.Diagnosis
import Pipeline.Proofs.Cli.Placeholders
import Pipeline.Proofs.Cli.CalledName
import Pipeline.Proofs.Harness.Handler
import Pipeline.Proofs.Cli.Priority
import Pipeline.Proofs.Run.Interaction
import Pipeline.Proofs.Run.Footprint
import Pipeline.Proofs.Task.Declared
import Pipeline.Proofs.Shell.QuotedWords
import Pipeline.Proofs.Target.ExitReport
import Pipeline.Proofs.Script.DeclaredInputs
import Pipeline.Proofs.Task.Promises
