import StaticSite.Config.SiteConfig
import StaticSite.Decimal.Written

/-!
# The options of the command line

The command line names a command, perhaps a name for it, and options anywhere between them.
A long option may be cut short as long as it is told apart from the others, and a value may
follow its option or be attached to it with an equals sign.  Behind two dashes nothing is an
option, and two dashes that are attached to an option get lost.
-/

namespace StaticSite

namespace CommandLine

/-- What the program can be asked to do. -/
inductive Command where
  | build
  | server
  | newSite
  | health
  | version
  deriving DecidableEq, Repr

def Command.word : Command → Text
  | .build => "build"
  | .server => "server"
  | .newSite => "newsite"
  | .health => "health"
  | .version => "version"

def Command.all : List Command := [.build, .server, .newSite, .health, .version]

def Command.ofWord? (word : Text) : Option Command :=
  Command.all.find? fun command => command.word = word

/-- What the command line asks for.  A value that got lost is none. -/
structure Options where
  command : Command := .build
  name : Text := ""
  root : Option Text := some "."
  config : Option Text := some Config.defaultName
  buildDrafts : Bool := false
  /-- Whether pages load themselves again when they have changed. -/
  reload : Bool := false
  watch : Bool := true
  host : Option Text := some "127.0.0.1"
  port : Option Int := some 8080
  /-- The seconds between two looks for changes. -/
  interval : Option Float := some 1.0
  /-- How many documents may be rendered at a time; zero leaves it open. -/
  workers : Option Int := some 0

/-- What an option sets. -/
inductive Switch where
  | help
  | root
  | config
  | buildDrafts
  | reload
  | watch (on : Bool)
  | host
  | port
  | interval
  | workers
  deriving DecidableEq, Repr

/-- The names of the options, in the order in which they are listed. -/
def optionNames : List (Text × Switch) :=
  [("-h", .help), ("--help", .help), ("--root", .root), ("--config", .config),
    ("-D", .buildDrafts), ("--build-drafts", .buildDrafts), ("--buildDrafts", .buildDrafts),
    ("--dev", .reload), ("--watch", .watch true), ("--no-watch", .watch false),
    ("--host", .host), ("--port", .port), ("--interval", .interval),
    ("--build-workers", .workers)]

/-- The names of an option as a fault shows them. -/
def Switch.label : Switch → Text
  | .help => "-h/--help"
  | .root => "--root"
  | .config => "--config"
  | .buildDrafts => "-D/--build-drafts/--buildDrafts"
  | .reload => "--dev"
  | .watch _ => "--watch/--no-watch"
  | .host => "--host"
  | .port => "--port"
  | .interval => "--interval"
  | .workers => "--build-workers"

def Switch.takesValue : Switch → Bool
  | .root | .config | .host | .port | .interval | .workers => true
  | .help | .buildDrafts | .reload | .watch _ => false

/-- What is wrong with a command line. -/
inductive UsageFault where
  | ambiguous (argument : Text) (names : List Text)
  | missingValue (switch : Switch)
  | needlessValue (switch : Switch) (value : Text)
  | noInteger (switch : Switch) (value : Text)
  | noNumber (switch : Switch) (value : Text)
  | unknownCommand (word : Text)
  | leftOver (arguments : List Text)
  deriving DecidableEq, Repr

def aboutArgument (label message : Text) : Text := "argument " ++ label ++ ": " ++ message

/-- The wording of a fault of the command line. -/
def UsageFault.message : UsageFault → Text
  | .ambiguous argument names =>
    "ambiguous option: " ++ argument ++ " could match " ++ Text.join ", " names
  | .missingValue switch => aboutArgument switch.label "expected one argument"
  | .needlessValue switch value =>
    aboutArgument switch.label ("ignored explicit argument " ++ Text.quoted value)
  | .noInteger switch value =>
    aboutArgument switch.label ("invalid int value: " ++ Text.quoted value)
  | .noNumber switch value =>
    aboutArgument switch.label ("invalid float value: " ++ Text.quoted value)
  | .unknownCommand word =>
    aboutArgument "command" ("invalid choice: " ++ Text.quoted word ++ " (choose from " ++
      Text.join ", " (Command.all.map fun command => Text.quoted command.word) ++ ")")
  | .leftOver arguments => "unrecognized arguments: " ++ Text.join " " arguments

/-- Why there are no options to go on with. -/
inductive Stop where
  /-- The user asks how the program is used. -/
  | help
  | fault (fault : UsageFault)
  deriving DecidableEq, Repr

/-! ## Arguments by their form -/

/-- An argument by its form. -/
inductive Slot where
  | argument (text : Text)
  /-- The two dashes behind which nothing is an option. -/
  | separator
  | option (name : Text) (switch : Switch) (attached : Option Text)
  /-- What looks like an option and is none. -/
  | unknown (text : Text)
  deriving DecidableEq, Repr

def switch? (name : Text) : Option Switch :=
  (optionNames.find? fun entry => entry.1 = name).map Prod.snd

/-- Whether a name is short: it has one dash only. -/
def isShort (name : Text) : Bool := (name.drop 1).head? != some '-'

/-- The options that an argument with a dash can stand for. -/
def candidates (argument : Text) : List (Text × Switch × Option Text) :=
  if isShort argument then
    optionNames.filterMap fun (name, switch) =>
      if name = argument.take 2 then some (name, switch, some (argument.drop 2)) else none
  else
    let (start, attached) :=
      match Text.cut? "=" argument with
      | some (start, value) => (start, some value)
      | none => (argument, none)
    optionNames.filterMap fun (name, switch) =>
      if Text.startsWith start name then some (name, switch, attached) else none

/-- Whether an argument is a negative number, which is no option.  It may end in a line
feed. -/
def isNegativeNumber : Text → Bool
  | '-' :: rest =>
    let number := if rest.getLast? = some '\n' then rest.dropLast else rest
    let fraction := number.dropWhile Text.isDigit
    match fraction with
    | [] => ! number.isEmpty
    | '.' :: digits => ! digits.isEmpty && digits.all Text.isDigit
    | _ => false
  | _ => false

/-- The option that an argument names in full, with an attached value behind an equals
sign. -/
def fullOption? (argument : Text) : Option Slot :=
  match switch? argument with
  | some switch => some (.option argument switch none)
  | none => do
    let (name, value) ← Text.cut? "=" argument
    return .option name (← switch? name) (some value)

def classify (argument : Text) : Except UsageFault Slot :=
  match argument with
  | '-' :: _ :: _ =>
    match fullOption? argument, candidates argument with
    | some slot, _ => .ok slot
    | none, [(name, switch, attached)] => .ok (.option name switch attached)
    | none, [] =>
      if isNegativeNumber argument || ' ' ∈ argument then .ok (.argument argument)
      else .ok (.unknown argument)
    | none, several => .error (.ambiguous argument (several.map Prod.fst))
  | _ => .ok (.argument argument)

/-- The arguments of a command line by their forms. -/
def slots : List Text → Except UsageFault (List Slot)
  | [] => .ok []
  | argument :: rest =>
    if argument = ['-', '-'] then .ok (.separator :: rest.map .argument)
    else do return (← classify argument) :: (← slots rest)

/-! ## Options from arguments -/

/-- The written form of an argument that nothing takes. -/
def Slot.text : Slot → Text
  | .argument text => text
  | .separator => "--"
  | .option name _ none => name
  | .option name _ (some value) => name ++ "=" ++ value
  | .unknown text => text

/-- Let an option without a value have its effect. -/
def Options.turn (options : Options) : Switch → Except Stop Options
  | .help => .error .help
  | .buildDrafts => .ok { options with buildDrafts := true }
  | .reload => .ok { options with reload := true }
  | .watch on => .ok { options with watch := on }
  | switch => .error (.fault (.missingValue switch))

/-- Let options without values have their effects. -/
def Options.turnAll (options : Options) : List Switch → Except Stop Options
  | [] => .ok options
  | switch :: rest => do (← options.turn switch).turnAll rest

def integerOf (switch : Switch) (value : Text) : Except Stop Int :=
  match Decimal.integer? value with
  | some number => .ok number
  | none => .error (.fault (.noInteger switch value))

def numberOf (switch : Switch) (value : Text) : Except Stop Float :=
  match Decimal.float? value with
  | some number => .ok number
  | none => .error (.fault (.noNumber switch value))

/-- Give a value to an option, or none if it got lost. -/
def Options.give (options : Options) (switch : Switch) (value : Option Text) :
    Except Stop Options :=
  match switch with
  | .root => .ok { options with root := value }
  | .config => .ok { options with config := value }
  | .host => .ok { options with host := value }
  | .port => do return { options with port := ← value.mapM (integerOf switch) }
  | .workers => do return { options with workers := ← value.mapM (integerOf switch) }
  | .interval => do return { options with interval := ← value.mapM (numberOf switch) }
  | .help | .buildDrafts | .reload | .watch _ =>
    .error (.fault (.needlessValue switch (value.getD "--")))

/-- The short options that follow one another behind a single dash. -/
def cluster (switch : Switch) : Text → Except UsageFault (List Switch)
  | [] => .ok [switch]
  | letter :: rest =>
    match switch? ['-', letter] with
    | none => .error (.needlessValue switch (letter :: rest))
    | some next => do return switch :: (← cluster next rest)

def Options.attach (options : Options) (name : Text) (switch : Switch) (value : Text) :
    Except Stop Options :=
  if switch.takesValue then
    options.give switch (if value = ['-', '-'] then none else some value)
  else if isShort name && ! value.isEmpty then
    match cluster switch value with
    | .ok switches => options.turnAll switches
    | .error fault => .error (.fault fault)
  else .error (.fault (.needlessValue switch value))

/-- The first plain argument, with the separator around it, and the rest.  Two dashes are
never an argument of their own here. -/
def takeArgument : List Slot → Option Text × List Slot
  | .separator :: .argument text :: rest => (some text, rest)
  | .separator :: rest => (none, rest)
  | .argument text :: .separator :: rest => (some text, rest)
  | .argument text :: rest => (if text = ['-', '-'] then none else some text, rest)
  | rest => (none, rest)

theorem length_takeArgument (slots : List Slot) :
    (takeArgument slots).2.length ≤ slots.length := by
  unfold takeArgument
  split <;> simp <;> omega

/-- Take the command and its name, of which each may be missing. -/
def Options.takeNames (options : Options) (command name : Option Text) : Except Stop Options := do
  let command ←
    match command with
    | none => pure options.command
    | some word =>
      match Command.ofWord? word with
      | some command => pure command
      | none => .error (.fault (.unknownCommand word))
  return { options with command := command, name := name.getD options.name }

/-- Go through the arguments.  The command and its name are taken where the first plain
argument stands; `named` tells whether they have been. -/
def consume (options : Options) (named : Bool) (extras : List Text) (slots : List Slot) :
    Except Stop (Options × List Text) :=
  match slots with
  | .unknown text :: rest => consume options named (extras ++ [text]) rest
  | .option name switch (some value) :: rest => do
    consume (← options.attach name switch value) named extras rest
  | .option _ switch none :: rest =>
    if switch.takesValue then
      match rest with
      | .argument value :: rest => do
        consume (← options.give switch (some value)) named extras rest
      | _ => .error (.fault (.missingValue switch))
    else do consume (← options.turn switch) named extras rest
  | [] =>
    if named then .ok (options, extras)
    else do
      return (← options.takeNames none none, extras)
  | slot :: rest =>
    if named then consume options named (extras ++ [slot.text]) rest
    else do
      let first := takeArgument (slot :: rest)
      let second := takeArgument first.2
      consume (← options.takeNames first.1 second.1) true extras second.2
termination_by (slots.length, if named then 0 else 1)
decreasing_by
  all_goals try (apply Prod.Lex.left; simp only [List.length_cons]; omega)
  have first := length_takeArgument (slot :: rest)
  have second := length_takeArgument (takeArgument (slot :: rest)).2
  rcases Nat.lt_or_ge (takeArgument (takeArgument (slot :: rest)).2).2.length
      (slot :: rest).length with less | more
  · exact Prod.Lex.left _ _ less
  · rw [Nat.le_antisymm (Nat.le_trans second first) more]
    exact Prod.Lex.right _ (by simp [*])

def Options.parse (arguments : List Text) : Except Stop Options := do
  match slots arguments with
  | .error fault => .error (.fault fault)
  | .ok slots =>
    let (options, extras) ← consume {} false [] slots
    if extras.isEmpty then .ok options else .error (.fault (.leftOver extras))

end CommandLine

end StaticSite
