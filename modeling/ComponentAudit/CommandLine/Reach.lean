import ComponentAudit.CommandLine.Arguments
import ComponentAudit.CommandLine.ConfigSource
import ComponentAudit.CommandLine.Starter

/-!
# The reach of a call

What a call can look at and write apart from the files of the tree that it checks, known before it runs.
-/

namespace ComponentAudit.CommandLine

/-- The file that a call may write. -/
def Invocation.target? (i : Invocation) : Option Path :=
  match i.command with
  | .check a => a.output
  | .listRules => none
  | .init _ => some Starter.path

/-- The paths that a call looks at by name: where a configuration may be, where it starts, and what it may write and the
directory that it would write it to. -/
def Invocation.reach (env : Environment) (i : Invocation) : List Path :=
  ConfigSource.candidates env i.project i.config ++ [i.project] ++
    i.target?.toList.flatMap fun p => [p.directory, p]

/-- Whether a call checks a tree. -/
def Invocation.isCheck (i : Invocation) : Bool :=
  match i.command with
  | .check _ => true
  | _ => false

end ComponentAudit.CommandLine
