import ComponentAudit.Path

/-!
# Arguments

What the arguments of a run ask for. Options may stand before and after what they belong to, short ones together behind
one dash, and values after an equals sign, right after a short option or as an argument of their own. The first argument
that does not fit decides, be it wrong or a call for help.
-/

namespace ComponentAudit.CommandLine

/-- How a report is shown. -/
inductive OutputFormat where
  /-- The issues in a few lines each, and the digest. -/
  | text
  /-- The report as JSON. -/
  | json
  /-- A line for each issue, and nothing else. -/
  | compact
  /-- The issues over the lines that they are about, and the digest. -/
  | rich
  deriving Repr, DecidableEq

namespace OutputFormat

/-- All formats. -/
def all : List OutputFormat := [.text, .json, .compact, .rich]

/-- The name of a format. -/
def name : OutputFormat → String
  | text => "text"
  | json => "json"
  | compact => "compact"
  | rich => "rich"

/-- The format of a name. -/
def ofName? (s : String) : Option OutputFormat :=
  all.find? (·.name = s)

end OutputFormat

/-- What a check is asked for. -/
structure CheckArguments where
  /-- The root; the configuration has another one if there is none. -/
  path : Option Path := none
  format : OutputFormat := .text
  /-- The rules to use, with commas between. -/
  rules : Option String := none
  /-- Globs of paths to pass over. -/
  excluded : List String := []
  session : Option String := none
  /-- A file to write the report to. -/
  output : Option Path := none
  /-- The number of workers. -/
  jobs : Option Nat := none
  deriving Repr, DecidableEq

/-- What is to be done. -/
inductive Command where
  | check (a : CheckArguments)
  | listRules
  | init (force : Bool)
  deriving Repr, DecidableEq

/-- What the arguments of a run ask for. -/
structure Invocation where
  verbose : Bool := false
  /-- The configuration to use. -/
  config : Option Path := none
  command : Command
  deriving Repr, DecidableEq

/-- The directory that is searched for a configuration. -/
def Invocation.project (i : Invocation) : Path :=
  match i.command with
  | .check a => a.path.getD ⟨"."⟩
  | _ => ⟨"."⟩

/-- The places of a command line: before a command, or after it. -/
inductive Level where
  | top
  | check
  | listRules
  | init
  deriving Repr, DecidableEq

/-- What help can be about. -/
inductive HelpTopic where
  /-- What may stand at a place, in short or in full. -/
  | level (l : Level) (full : Bool)
  /-- The command that asks for help. -/
  | help
  deriving Repr, DecidableEq

/-- Why the arguments ask for nothing that can be done. -/
inductive Stop where
  /-- They are wrong. -/
  | usage
  /-- They ask for help. -/
  | help (topic : HelpTopic)
  /-- They ask for the version. -/
  | version
  deriving Repr, DecidableEq

/-- An option. -/
inductive Flag where
  | verbose
  | config
  | help
  | version
  | format
  | rules
  | exclude
  | session
  | output
  | jobs
  | force
  deriving Repr, DecidableEq

namespace Flag

/-- The long name of an option. -/
def long : Flag → String
  | verbose => "verbose"
  | config => "config"
  | help => "help"
  | version => "version"
  | format => "format"
  | rules => "rules"
  | exclude => "exclude"
  | session => "session"
  | output => "output"
  | jobs => "jobs"
  | force => "force"

/-- The short name of an option. -/
def short? : Flag → Option Char
  | verbose => some 'v'
  | config => some 'c'
  | help => some 'h'
  | version => some 'V'
  | format => some 'f'
  | exclude => some 'e'
  | output => some 'o'
  | jobs => some 'j'
  | rules | session | force => none

/-- Whether an option has a value. -/
def hasValue : Flag → Bool
  | verbose | help | version | force => false
  | _ => true

/-- Whether an option may be given more than once. -/
def isRepeatable (f : Flag) : Bool :=
  f = exclude

end Flag

/-- The options of a level. -/
def Level.flags : Level → List Flag
  | top => [.verbose, .config, .help, .version]
  | check => [.verbose, .config, .help, .format, .rules, .exclude, .session, .output, .jobs]
  | listRules => [.verbose, .config, .help]
  | init => [.verbose, .config, .help, .force]

/-- The level of a command's name. -/
def Level.ofCommand? : String → Option Level
  | "check" => some .check
  | "list-rules" => some .listRules
  | "init" => some .init
  | _ => none

/-- The largest count that a word holds. -/
def wordLimit : Nat := UInt64.size

/-- The count that a text stands for. -/
def count? (s : String) : Option Nat :=
  let digits := match s.toList with
    | '+' :: rest => rest
    | digits => digits
  if digits.isEmpty ∨ !digits.all Char.isDigit then none
  else
    let n := digits.foldl (fun n c => 10 * n + (c.toNat - 48)) 0
    if n < wordLimit then some n else none

/-- Whether a value will do for an option. -/
def Flag.allows : Flag → String → Bool
  | config, s | output, s => s ≠ ""
  | format, s => (OutputFormat.ofName? s).isSome
  | jobs, s => (count? s).isSome
  | _, _ => true

/-- The options and the other arguments of a level, as far as they have been read. -/
structure Given where
  /-- The options, latest first. -/
  flags : List (Flag × String) := []
  /-- An option that waits for its value. -/
  pending : Option Flag := none
  positionals : List String := []
  /-- No more options can follow. -/
  ended : Bool := false

namespace Given

/-- Adds an option with its value. -/
def add (g : Given) (f : Flag) (value : String) : Except Stop Given :=
  if f.allows value ∧ (f.isRepeatable ∨ !g.flags.any (·.1 = f)) then
    .ok { g with flags := (f, value) :: g.flags, pending := none }
  else .error .usage

/-- Adds an option that has no value. Help is in full if its long name asks for it. -/
def addFlag (g : Given) (level : Level) (isLong : Bool) : Flag → Except Stop Given
  | .help => .error (.help (.level level isLong))
  | .version => .error .version
  | f => g.add f ""

/-- Adds an argument that is no option. -/
def addPositional (g : Given) (level : Level) (arg : String) : Except Stop Given :=
  if level = .check ∧ g.positionals = [] ∧ arg ≠ "" then .ok { g with positionals := [arg] } else .error .usage

/-- Reads short options behind one dash. -/
def readShort (g : Given) (level : Level) : List Char → Except Stop Given
  | [] => .ok g
  | c :: rest =>
    match level.flags.find? (·.short? = some c) with
    | none => .error .usage
    | some f =>
      if f.hasValue then
        match rest with
        | [] => .ok { g with pending := some f }
        | '=' :: value | value => g.add f (String.ofList value)
      else do readShort (← g.addFlag level false f) level rest

/-- Reads a long option. -/
def readLong (g : Given) (level : Level) (text : List Char) : Except Stop Given :=
  let name := text.takeWhile (· ≠ '=')
  match level.flags.find? (·.long.toList = name), text.dropWhile (· ≠ '=') with
  | none, _ => .error .usage
  | some f, [] => if f.hasValue then .ok { g with pending := some f } else g.addFlag level true f
  | some f, _ :: value => if f.hasValue then g.add f (String.ofList value) else .error .usage

/-- Whether an argument looks like an option. -/
def isOption (arg : List Char) : Bool :=
  arg.head? = some '-' && 1 < arg.length

/-- Reads an argument of a level. -/
def read (g : Given) (level : Level) (arg : String) : Except Stop Given :=
  match g.pending with
  | some f => if isOption arg.toList then .error .usage else g.add f arg
  | none =>
    if g.ended then g.addPositional level arg
    else match arg.toList with
      | ['-', '-'] => .ok { g with ended := true }
      | '-' :: '-' :: rest => g.readLong level rest
      | '-' :: c :: rest => g.readShort level (c :: rest)
      | _ => g.addPositional level arg

/-- The value of an option. -/
def value? (g : Given) (f : Flag) : Option String :=
  g.flags.lookup f

/-- The values of an option, in order. -/
def values (g : Given) (f : Flag) : List String :=
  (g.flags.filter (·.1 = f)).reverse.map (·.2)

/-- The command of a level. -/
def command? (g : Given) : Level → Option Command
  | .top => none
  | .check => some <| .check {
      path := g.positionals.head?.map (⟨·⟩)
      format := ((g.value? .format).bind OutputFormat.ofName?).getD .text
      rules := g.value? .rules
      excluded := g.values .exclude
      session := g.value? .session
      output := (g.value? .output).map (⟨·⟩)
      jobs := (g.value? .jobs).bind count? }
  | .listRules => some .listRules
  | .init => some (.init (g.value? .force).isSome)

end Given

/-- Reads the arguments after a command. -/
def readCommand (top : Given) (level : Level) (args : List String) : Except Stop Invocation := do
  let g ← args.foldlM (fun (g : Given) arg => g.read level arg) {}
  match g.pending, g.command? level with
  | none, some command =>
    return {
      verbose := (g.value? .verbose <|> top.value? .verbose).isSome
      config := (g.value? .config <|> top.value? .config).map (⟨·⟩)
      command }
  | _, _ => throw .usage

/-- What a call for help is about, by the names of commands after it. -/
def helpTopic : List String → Stop
  | [] => .help (.level .top true)
  | ["help"] => .help .help
  | [name] => match Level.ofCommand? name with
    | some level => .help (.level level true)
    | none => .usage
  | _ => .usage

/-- Reads the arguments up to a command, and then those after it. -/
def readTop (g : Given) : List String → Except Stop Invocation
  | [] => .error .usage
  | arg :: rest =>
    if g.pending.isNone ∧ !g.ended ∧ !Given.isOption arg.toList then
      if arg = "help" then .error (helpTopic rest)
      else match Level.ofCommand? arg with
        | some level => readCommand g level rest
        | none => .error .usage
    else match g.read .top arg with
      | .ok g => readTop g rest
      | .error stop => .error stop

/-- What the arguments of a run ask for. -/
def Invocation.parse (args : List String) : Except Stop Invocation :=
  readTop {} args

end ComponentAudit.CommandLine
