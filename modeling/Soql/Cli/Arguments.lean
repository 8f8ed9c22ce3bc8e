/-
# Arguments of the command line

Options stand before or after the command. The value of an option follows it, as the next
argument, after an equals sign, or right after the letter of the option. An argument that
begins with a hyphen is no value unless it is the hyphen alone. No option is given twice,
but the one that names fields.

Key definitions: `Cli.Opt`, `Cli.Given`, `Cli.readOptions`, `Cli.Command`, `Cli.Invocation.parse`.
-/
import Soql.Named
import Soql.Query.Basic

namespace Soql.Cli

inductive Opt where
  | config
  | object
  | fields
  | filter
  | orderBy
  | desc
  | limit
  | soql
  | output
  | help
  | version
deriving DecidableEq, Repr

namespace Opt

def name : Opt → String
  | config => "config"
  | object => "object"
  | fields => "fields"
  | filter => "filter"
  | orderBy => "order-by"
  | desc => "desc"
  | limit => "limit"
  | soql => "soql"
  | output => "output"
  | help => "help"
  | version => "version"

def letter : Opt → Option Char
  | config => some 'c'
  | object => some 'o'
  | fields => some 'f'
  | filter => some 'w'
  | limit => some 'l'
  | output => some 'o'
  | help => some 'h'
  | version => some 'V'
  | orderBy | desc | soql => none

def takesValue : Opt → Bool
  | desc | help | version => false
  | _ => true

end Opt

/-- Why there is nothing to run. -/
inductive Stop where
  | help
  | version
  | misuse
deriving DecidableEq, Repr

/-- The options that were given. -/
structure Given where
  config : Option String
  object : Option String
  fields : List String
  filter : Option String
  orderBy : Option String
  desc : Bool
  limit : Option UInt32
  soql : Option String
  output : Option String
deriving DecidableEq, Repr

namespace Given

def nothing : Given := ⟨none, none, [], none, none, false, none, none, none⟩

/-- A value for an option that has none yet. -/
def once {α : Type} (old : Option α) (x : α) : Except Stop (Option α) :=
  match old with
  | none => .ok (some x)
  | some _ => .error .misuse

/-- A path may not be empty. -/
def path (old : Option String) (value : String) : Except Stop (Option String) :=
  if value.isEmpty then .error .misuse else once old value

/-- A number of 32 bits, with or without a sign. -/
def readLimit? (value : String) : Option UInt32 :=
  match value.toList with
  | '-' :: ds =>
    if !ds.isEmpty && ds.all (· = '0') then some 0 else none
  | s =>
    match Text.readNat? s with
    | some n => if n < UInt32.size then some (UInt32.ofNat n) else none
    | none => none

/-- The options with one more. An option that takes no value is given an empty one. -/
def add (g : Given) (o : Opt) (value : String) : Except Stop Given :=
  match o with
  | .config => do return { g with config := ← path g.config value }
  | .object => do return { g with object := ← once g.object value }
  | .fields =>
    let names := (Text.pieces (· == ',') value.toList).map String.ofList
    return { g with fields := g.fields ++ names }
  | .filter => do return { g with filter := ← once g.filter value }
  | .orderBy => do return { g with orderBy := ← once g.orderBy value }
  | .desc => if g.desc then .error .misuse else .ok { g with desc := true }
  | .limit =>
    match readLimit? value with
    | some n => do return { g with limit := ← once g.limit n }
    | none => .error .misuse
  | .soql => do return { g with soql := ← once g.soql value }
  | .output => do return { g with output := ← path g.output value }
  | .help => .error .help
  | .version => .error .version

end Given

/-! ### Reading -/

/-- What an argument says by its form. -/
inductive Shape where
  /-- Two hyphens: no option comes after them. -/
  | last
  | long (name : String) (value : Option String)
  | short (letter : Char) (value : Option String)
  | plain
deriving DecidableEq, Repr

/-- The value after an equals sign. -/
def valueAfter : List Char → Option String
  | [] => none
  | '=' :: s => some (String.ofList s)
  | s => some (String.ofList s)

def Shape.of (argument : String) : Shape :=
  match argument.toList with
  | ['-', '-'] => .last
  | '-' :: '-' :: s =>
    .long (String.ofList (s.takeWhile (· != '='))) (valueAfter (s.dropWhile (· != '=')))
  | '-' :: c :: s => .short c (valueAfter s)
  | _ => .plain

/-- Reads options up to the first argument that is none; the arguments from there on. -/
def readOptions (known : List Opt) :
    Given → List String → Except Stop (Given × List String)
  | g, [] => .ok (g, [])
  | g, a :: rest =>
    let option (o? : Option Opt) (value : Option String) : Except Stop (Given × List String) :=
      match o?, value with
      | none, _ => .error .misuse
      | some o, some v =>
        if o.takesValue then do readOptions known (← g.add o v) rest else .error .misuse
      | some o, none =>
        if !o.takesValue then do readOptions known (← g.add o "") rest
        else
          match rest with
          | [] => .error .misuse
          | v :: rest =>
            if Shape.of v = .plain then do readOptions known (← g.add o v) rest
            else .error .misuse
    match Shape.of a with
    | .last => if rest.isEmpty then .ok (g, []) else .error .misuse
    | .plain => .ok (g, a :: rest)
    | .long name value => option (known.find? (·.name == name)) value
    | .short letter value =>
      match known.find? (·.letter == some letter) with
      | some o => if o.takesValue then option (some o) value else option (some o) none
      | none => .error .misuse

/-! ### Commands -/

/-- The options that describe a query. -/
structure Selection where
  object : String
  fields : List String
  filter : Option String
  orderBy : Option String
  desc : Bool
  limit : Option UInt32
deriving DecidableEq, Repr

/-- The commands that come to an end by themselves. -/
inductive Single where
  | compile (x : Selection)
  | query (x : Selection) (soql : Option String)
  | copy (x : Selection)
  | auth
  | status
  | logout
  | config (output : Option String)
deriving DecidableEq, Repr

inductive Command where
  | single (c : Single)
  | serve
deriving DecidableEq, Repr

def Given.selection (g : Given) : Selection :=
  ⟨g.object.getD Query.fallbackObject, g.fields, g.filter, g.orderBy, g.desc, g.limit⟩

def selectionOptions : List Opt := [.object, .fields, .filter, .orderBy, .desc, .limit]

/-- The commands by their names, with the options that they take. -/
def commands : List (String × List Opt × (Given → Command)) := [
  ("compile", selectionOptions, fun g => .single (.compile g.selection)),
  ("query", .soql :: selectionOptions, fun g => .single (.query g.selection g.soql)),
  ("copy", selectionOptions, fun g => .single (.copy g.selection)),
  ("auth", [], fun _ => .single .auth),
  ("status", [], fun _ => .single .status),
  ("logout", [], fun _ => .single .logout),
  ("serve", [], fun _ => .serve),
  ("config", [.output], fun g => .single (.config g.output))]

structure Invocation where
  command : Command
  /-- Where the configuration is, if that was said. -/
  configPath : Option String
deriving DecidableEq, Repr

namespace Invocation

/-- A command and its options. A configuration named after the command goes before one that is
named in front of it. -/
def parseCommand (before : Given) (name : String) (rest : List String) :
    Except Stop Invocation :=
  match Named.get? name commands with
  | none => .error .misuse
  | some (options, make) => do
    let (g, surplus) ← readOptions (.config :: .help :: options) .nothing rest
    if surplus.isEmpty then return ⟨make g, g.config <|> before.config⟩ else throw .misuse

/-- Help about all commands, or about one. -/
def parseHelp : List String → Stop
  | [] => .help
  | [name] => if name = "help" || (Named.get? name commands).isSome then .help else .misuse
  | _ => .misuse

def parse (arguments : List String) : Except Stop Invocation := do
  match ← readOptions [.config, .help, .version] .nothing arguments with
  | (_, []) => throw .misuse
  | (before, name :: rest) =>
    if name = "help" then throw (parseHelp rest) else parseCommand before name rest

end Invocation

end Soql.Cli
