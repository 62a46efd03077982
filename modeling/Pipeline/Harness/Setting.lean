import Pipeline.Harness.Basic

/-!
# Setting up a harness

A harness is made from the launch of its process and set up by calls in any order. Repeated calls
add stubs and permissions; of anything else the last call counts. The directory for wrappers may be
given before there are any wrappers in it.
-/

namespace Pipeline

/-- One call that sets up a harness. -/
inductive Setting where
  /-- Expects a command. -/
  | stub (s : Stub)
  /-- Lets the programs of a base name run for real. -/
  | allow (binary : String)
  /-- Lets every other program run for real, or takes that back. -/
  | allowByDefault (allow : Bool)
  | testName (name : String)
  /-- Gives the directory for wrappers, in place of a scratch directory. -/
  | binDir (dir : String)
  | printer (p : ExpectationPrinter)
  /-- Chooses where the output of a stream goes. -/
  | sink (stream : Stream)

namespace Harness

/-- A harness that expects nothing and allows nothing. -/
def fresh (launch : Launch) : Harness where
  launch := launch
  stubs := []
  allowByDefault := false
  allowed := []
  testName := none
  printer := stubDefinition
  binDir := none
  scratch := none

/-- Sets up one thing. The sinks of the target take everything wherever it goes, so a choice among
them leaves nothing to hold. -/
def set (h : Harness) : Setting → Harness
  | .stub s => { h with stubs := h.stubs ++ [s] }
  | .allow binary => { h with allowed := h.allowed ++ [binary] }
  | .allowByDefault allow => { h with allowByDefault := allow }
  | .testName name => { h with testName := some name }
  | .binDir dir => { h with binDir := some dir }
  | .printer p => { h with printer := p }
  | .sink _ => h

/-- The harness that calls make, one after the other. -/
def setUp (launch : Launch) (settings : List Setting) : Harness :=
  settings.foldl set (fresh launch)

end Harness
end Pipeline
