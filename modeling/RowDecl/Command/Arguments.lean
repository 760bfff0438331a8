/-! # Arguments

The arguments of the command are options and paths in any order. A long option takes its value
behind an equals sign or from the next argument; short options may stand together, and the first
that takes a value takes what is left. Two hyphens alone end the options. -/

namespace RowDecl.Command

inductive OptionName
  | config
  | nullablePolicy
  | exportNamespaces
  | generationComment
  | verbose
  | help
  deriving DecidableEq, Repr

namespace OptionName

def all : List OptionName :=
  [.config, .nullablePolicy, .exportNamespaces, .generationComment, .verbose, .help]

/-- The long spelling. -/
def word : OptionName → String
  | .config => "--config"
  | .nullablePolicy => "--nullable-policy"
  | .exportNamespaces => "--export-namespaces"
  | .generationComment => "--generation-comment"
  | .verbose => "--verbose"
  | .help => "--help"

/-- The letter of the short spelling. -/
def letter? : OptionName → Option Char
  | .config => some 'c'
  | .verbose => some 'v'
  | _ => none

def takesValue : OptionName → Bool
  | .config | .nullablePolicy => true
  | _ => false

def ofWord? (w : List Char) : Option OptionName := all.find? (·.word.toList = w)

def ofLetter? (c : Char) : Option OptionName := all.find? (·.letter? = some c)

end OptionName

/-- An option with its value; an option that takes none has the empty text. -/
abbrev Given := OptionName × String

/-- What one argument gives: options, and perhaps one more whose value is the next argument. -/
structure Spelled where
  given : List Given
  pending : Option OptionName

/-- Short options that stand together, without their hyphen. -/
def readLetters? : List Char → Option Spelled
  | [] => some ⟨[], none⟩
  | c :: r =>
    match OptionName.ofLetter? c with
    | none => none
    | some o =>
      if o.takesValue then
        if r = [] then some ⟨[], some o⟩ else some ⟨[(o, String.ofList r)], none⟩
      else (readLetters? r).map fun s => ⟨(o, "") :: s.given, s.pending⟩

/-- An argument that begins with a hyphen and has more to it. -/
def readOption? (a : List Char) : Option Spelled :=
  let word := a.takeWhile (· ≠ '=')
  let value := a.drop (word.length + 1)
  let hasValue := a.contains '='
  match OptionName.ofWord? word with
  | some o =>
    match o.takesValue, hasValue with
    | true, true => some ⟨[(o, String.ofList value)], none⟩
    | true, false => some ⟨[], some o⟩
    | false, true => none
    | false, false => some ⟨[(o, "")], none⟩
  | none => if ['-', '-'].isPrefixOf a then none else readLetters? (a.drop 1)

/-- Options in order and the other arguments in order. -/
structure Arguments where
  given : List Given
  paths : List String
  deriving DecidableEq, Repr

/-- Whether an option is among those that are given. -/
def Arguments.has (a : Arguments) (o : OptionName) : Bool := a.given.any (·.1 = o)

/-- Whether an argument is spelled as an option. -/
def isOption (a : List Char) : Bool := a.head? = some '-' && a.length > 1

/-- Tells options and paths apart; none if an option is unknown or lacks its value. -/
def Arguments.read? : List String → Option Arguments
  | [] => some ⟨[], []⟩
  | a :: r =>
    if a = "--" then some ⟨[], r⟩
    else if isOption a.toList then
      match readOption? a.toList, r with
      | none, _ => none
      | some ⟨gs, none⟩, r => (Arguments.read? r).map fun t => ⟨gs ++ t.given, t.paths⟩
      | some ⟨_, some _⟩, [] => none
      | some ⟨gs, some o⟩, v :: r =>
        (Arguments.read? r).map fun t => ⟨gs ++ (o, v) :: t.given, t.paths⟩
    else (Arguments.read? r).map fun t => ⟨t.given, a :: t.paths⟩

/-- What the command says about itself. -/
def helpText : String :=
  String.join ([
    "Usage: sql-schema-to-code [OPTIONS] CATALOG OUTPUT",
    "",
    "Options:",
    "  -c, --config PATH",
    "  --nullable-policy [ignore|optional|union]",
    "                                  How nullable columns are rendered (overrides",
    "                                  config file if set)",
    "  --export-namespaces             Emit 'export namespace' blocks",
    "  --generation-comment            Start the file with a '// Generated by'",
    "                                  comment",
    "  -v, --verbose",
    "  --help                          Show this message and exit."].map (· ++ "\n"))

end RowDecl.Command
