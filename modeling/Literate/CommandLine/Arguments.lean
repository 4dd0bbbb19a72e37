/-
This file reads the arguments of the command line. A command has a path and options;
some options are understood before the name of the command as well. An option has a
value, which is attached to it or is the next argument. Given on both sides of the
name of the command, what stands after it wins.
-/

import Literate.Inclusion.Policy

namespace Literate.CommandLine

/-! ### Options -/

/-- The options of the command line. -/
inductive OptionName where
  /-- A directory to search for inclusions; may be repeated. -/
  | searchPath
  /-- The configuration file. -/
  | config
  /-- The policy for inclusions. -/
  | policy
  /-- The file to write to. -/
  | output
  /-- The macro to expand. -/
  | root
  /-- The section to extract. -/
  | title
  /-- The form of a listing of tokens. -/
  | format
  deriving DecidableEq

namespace OptionName

/-- The long name of an option. -/
def long : OptionName → String
  | .searchPath => "include"
  | .config => "config"
  | .policy => "policy"
  | .output => "output"
  | .root => "root"
  | .title => "section"
  | .format => "format"

/-- The letter of an option that has one. -/
def letter? : OptionName → Option Char
  | .searchPath => some 'I'
  | .config => none
  | .policy => none
  | .output => some 'o'
  | .root => some 'r'
  | .title => some 'S'
  | .format => some 'f'

/-- Whether an option may take a value. -/
def accepts : OptionName → Text → Bool
  | .policy, value => (IncludePolicy.ofName? value).isSome
  | .format, value => value == Text.ofString "json" || value == Text.ofString "simple"
  | _, _ => true

end OptionName

/-- The options that are understood everywhere. -/
def globalOptions : List OptionName := [.searchPath, .config, .policy]

/-! ### Commands -/

/-- The commands by name. -/
inductive CommandName where
  | tangle
  | listFiles
  | listSections
  | extract
  | trace
  | tokens
  deriving DecidableEq

namespace CommandName

/-- The command of a name. -/
def ofText? (name : Text) : Option CommandName :=
  [("tangle", tangle), ("list-files", listFiles), ("list-sections", listSections),
    ("extract", extract), ("trace", trace), ("tokens", tokens)].findSome? fun entry =>
      if Text.ofString entry.1 = name then some entry.2 else none

/-- The options of a command beside those understood everywhere. -/
def options : CommandName → List OptionName
  | .tangle => [.output, .root]
  | .extract => [.title, .output]
  | .tokens => [.format]
  | _ => []

end CommandName

/-- Why the arguments lead to no command. -/
inductive Refusal where
  /-- The arguments are wrong. -/
  | usage
  /-- The version is asked for. -/
  | version
  /-- Help is asked for. -/
  | help
  deriving DecidableEq

/-- The options and other arguments read so far. -/
structure Collected where
  options : List (OptionName × Text) := []
  positionals : List Text := []

namespace Collected

/-- The values of an option in order. -/
def values (collected : Collected) (name : OptionName) : List Text :=
  collected.options.filterMap fun entry => if entry.1 = name then some entry.2 else none

/-- Enters the value of an option. Only search paths may be given more than once. -/
def enter (collected : Collected) (name : OptionName) (value : Text) :
    Except Refusal Collected :=
  if !name.accepts value then .error .usage
  else if name ≠ .searchPath ∧ collected.values name ≠ [] then .error .usage
  else .ok { collected with options := collected.options ++ [(name, value)] }

end Collected

/-! ### Reading arguments -/

/-- What one argument is. -/
inductive Argument where
  /-- The end of the options. -/
  | divider
  /-- An option with the value attached to it, if any. -/
  | option (name : OptionName) (attached : Option Text)
  /-- A request or an error that ends the reading. -/
  | refused (refusal : Refusal)
  /-- Anything else. -/
  | positional (value : Text)

/-- Where options are read: before the name of a command or after it. -/
structure Level where
  options : List OptionName
  hasVersion : Bool

/-- The meaning of a long option without its two dashes. -/
def Level.long (level : Level) (body : Text) : Argument :=
  let (name, attached) :=
    match Text.cutAt? '=' body with
    | some (name, value) => (name, some value)
    | none => (body, none)
  match level.options.find? fun option => Text.ofString option.long = name with
  | some option => .option option attached
  | none =>
    if name = Text.ofString "help" ∧ attached = none then .refused .help
    else if level.hasVersion ∧ name = Text.ofString "version" ∧ attached = none then
      .refused .version
    else .refused .usage

/-- The meaning of an option that is given by a letter. What follows the letter is its value,
with or without a sign of equality in front. -/
def Level.short (level : Level) (letter : Char) (rest : Text) : Argument :=
  match level.options.find? fun option => option.letter? = some letter with
  | some option =>
    match rest with
    | [] => .option option none
    | '=' :: value => .option option (some value)
    | value => .option option (some value)
  | none =>
    if letter = 'h' then .refused .help
    else if level.hasVersion ∧ letter = 'V' then .refused .version
    else .refused .usage

/-- What an argument is. A single dash is no option. -/
def Level.classify (level : Level) (argument : Text) : Argument :=
  match argument with
  | ['-', '-'] => .divider
  | '-' :: '-' :: body => level.long body
  | '-' :: letter :: rest => level.short letter rest
  | other => .positional other

/-- Whether an argument can be the value of the option before it. -/
def isValue (argument : Text) : Bool :=
  match argument with
  | '-' :: _ :: _ => false
  | _ => true

/-- Reads arguments at a level. Before the name of a command the first argument that is no option
ends the reading, and is given back with those after it. -/
def Level.read (level : Level) (stopsAtName : Bool) (collected : Collected) :
    List Text → Except Refusal (Collected × List Text)
  | [] => .ok (collected, [])
  | argument :: rest =>
    match level.classify argument with
    | .divider =>
      if stopsAtName then .error .usage
      else .ok ({ collected with positionals := collected.positionals ++ rest }, [])
    | .refused refusal => .error refusal
    | .positional value =>
      if stopsAtName then .ok (collected, argument :: rest)
      else if collected.positionals ≠ [] then .error .usage
      else
        level.read stopsAtName { collected with positionals := [value] } rest
    | .option name (some value) =>
      match collected.enter name value with
      | .error refusal => .error refusal
      | .ok entered => level.read stopsAtName entered rest
    | .option name none =>
      match rest with
      | [] => .error .usage
      | value :: later =>
        if isValue value then
          match collected.enter name value with
          | .error refusal => .error refusal
          | .ok entered => level.read stopsAtName entered later
        else .error .usage

/-! ### Invocations -/

/-- What a command is asked to do. -/
inductive Task where
  /-- Expand a macro. -/
  | tangle (output root : Option Text)
  /-- List the FILE macros. -/
  | listFiles
  /-- List the SECTION macros. -/
  | listSections
  /-- Write the assignments of a section. -/
  | extract (title : Text) (output : Option Text)
  /-- Print the trace of a run. -/
  | trace
  /-- List the tokens, structured or one on a line. -/
  | tokens (structured : Bool)
  deriving DecidableEq

/-- A task for a document, with the settings that are asked for. -/
structure Invocation where
  task : Task
  path : Text
  searchPaths : List Text
  config : Option Text
  policy : Option IncludePolicy
  deriving DecidableEq

/-- The task of a command with its options, if all it needs is there. -/
def taskOf (name : CommandName) (collected : Collected) : Except Refusal Task :=
  let first (option : OptionName) : Option Text := (collected.values option).head?
  match name with
  | .tangle => .ok (.tangle (first .output) (first .root))
  | .listFiles => .ok .listFiles
  | .listSections => .ok .listSections
  | .extract =>
    match first .title with
    | some title => .ok (.extract title (first .output))
    | none => .error .usage
  | .trace => .ok .trace
  | .tokens => .ok (.tokens (first .format == some (Text.ofString "json")))

/-- Whether a word asks for help. -/
def isHelp (word : Text) : Bool := word == Text.ofString "help"

/-- What a first word that names no command leads to. Help can be asked for in general or on one
subject, which is a command or help itself. -/
def withoutCommand (first : Text) (others : List Text) : Refusal :=
  let isSubject (word : Text) : Bool := (CommandName.ofText? word).isSome || isHelp word
  if isHelp first && others.length ≤ 1 && others.all isSubject then .help else .usage

/-- The invocation that a list of arguments asks for. -/
def parse (arguments : List Text) : Except Refusal Invocation := do
  let (outer, rest) ← Level.read ⟨globalOptions, true⟩ true {} arguments
  match rest with
  | [] => throw .usage
  | first :: others =>
    match CommandName.ofText? first with
    | none => throw (withoutCommand first others)
    | some name =>
      let (inner, _) ← Level.read ⟨globalOptions ++ name.options, false⟩ false {} others
      let task ← taskOf name inner
      let settled (option : OptionName) : List Text :=
        if inner.values option = [] then outer.values option else inner.values option
      match inner.positionals with
      | [path] =>
        return {
          task
          path
          searchPaths := settled .searchPath
          config := (settled .config).head?
          policy := (settled .policy).head?.bind IncludePolicy.ofName? }
      | _ => throw .usage

end Literate.CommandLine
