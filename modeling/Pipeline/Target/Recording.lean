import Pipeline.Target.Basic

/-!
# Targets that run nothing

`recording` notes every invocation and answers with empty output. `scripted` notes it too and
answers by the first of its rules that covers it; a command that no rule covers is answered with its
own line.
-/

namespace Pipeline

/-- Notes every invocation and answers with empty output. -/
def recording : Target Record where
  execute c args r := (.streams .empty .empty, r.invoke c.path args)
  sink _ _ := .buffer
  absorb := Record.absorb

/-- An answer for the commands of one path, or of one path and argument list. -/
structure Rule where
  path : String
  args : Option (List String)
  answer : Execution

/-- Whether a rule is for an invocation; without arguments of its own it is for all of its path. -/
def Rule.covers (rule : Rule) (path : String) (args : List String) : Bool :=
  rule.path == path && (rule.args.isNone || rule.args == some args)

/-- What to answer when no rule covers a command. -/
def echoLine (path : String) (args : List String) : Execution :=
  .streams (.ofBytes (Utf8.encode ((Invocation.mk path args).line ++ "\n"))) .empty

/-- Notes every invocation and answers by the first rule that covers it. -/
def scripted (rules : List Rule) (sinks : Stream → Sink) : Target Record where
  execute c args r :=
    let answer := match rules.find? fun rule => rule.covers c.path args with
      | some rule => rule.answer
      | none => echoLine c.path args
    (answer, r.invoke c.path args)
  sink stream _ := sinks stream
  absorb := Record.absorb

end Pipeline
