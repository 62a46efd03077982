import Pipeline.Task.Builder

/-!
# A sample pipeline

The end-to-end test of a runner controller on a cluster of its own: start the cluster, deploy,
trigger a workflow, and commit the workflow file that a function step names. The input `seed` names
the cluster and the workflow file.
-/

namespace Pipeline.Demo

/-- The output that holds the path of the workflow file. -/
def yamlPath : String := "yamlPath"

/-- A command with literal arguments. -/
def command (path : String) (args : List String) (more : List Ref) : Command :=
  ⟨path, args.map .literal ++ more.map .ref⟩

/-- Names the workflow file after the seed. -/
def generate : Body :=
  .future <| .resolving (.input "seed") fun seed =>
    .executing (command "bash" ["-c", "echo test"] []) fun echo =>
      .set yamlPath (".github/workflows/" ++ seed ++ ".yaml") (.set "echoTest" echo.stdout .done)

def define : Except DefineError Builder := do
  let b := Builder.empty.declareInput "seed"
  let seed ← b.input "seed"
  let b := b.defer "stop cluster"
    (.command (command "kind" ["delete", "cluster", "--name"] [seed]))
  let (_, b) := b.step "start cluster"
    (.command (command "kind" ["create", "cluster", "--name"] [seed]))
  let (_, b) := b.step "deploy controller"
    (.command
      (command "helm" ["upgrade", "--install", "../charts/actions-runner-controller"] [seed]))
  let (_, b) := b.step "deploy runners"
    (.command (command "kubectl" ["apply", "-f", "testdata/"] []))
  let (_, b) := b.step "wait for runners"
    (.command
      (command "kubectl" ["wait", "-n", "actions-runner-system", "deploy/controller-manager"] []))
  let (_, b) := b.step "trigger workflow run"
    (.command
      (command "ghcp"
        ["empty-commit", "-u", "mumoshu", "-r", "actions-test", "-m", "empty commit 1", "-b",
          "main"]
        []))
  let (workflow, b) := b.step "generate workflow" (.func ⟨"gen", [yamlPath], generate⟩)
  let file ← workflow.get yamlPath
  let (_, b) := b.step "setup workflow"
    (.command
      (command "ghcp"
        ["commit", "-u", "mumoshu", "-r", "actions-test", "-m", "empty commit 1", "-b", "main"]
        [file]))
  return b

def task : Except DefineError Task := define >>= Builder.build

end Pipeline.Demo
