import RowDecl.Catalog.Load
import RowDecl.Command.Host
import RowDecl.Command.Invocation
import RowDecl.Declaration.Braces
import RowDecl.Store.Write
import RowDecl.Text.Control

/-! # Runs

A run reads the settings, loads the catalog, generates the document and writes it, in this order,
and ends at the first failure. The store after a run is the store before it unless the run came to
writing. What is not decided by the store and the arguments is a matter of the host. -/

namespace RowDecl.Command

/-- How a run ends: well, with the help that was asked for, with a failure that is reported, with
one that is not, or because the arguments are not used as they should be. -/
inductive Ending
  | success
  | help
  | reported (message : String)
  | escaped (e : Error)
  | usage
  deriving DecidableEq, Repr

/-- A failure as an ending. -/
def Ending.ofError (e : Error) : Ending := if e.isReported then .reported e.message else .escaped e

def Ending.exitCode : Ending → Nat
  | .success | .help => 0
  | .reported _ | .escaped _ => 1
  | .usage => 2

/-- One line of the log. -/
structure LogLine where
  level : String
  source : String
  message : String
  deriving DecidableEq, Repr

def LogLine.text (l : LogLine) : String := l.level ++ " " ++ l.source ++ " - " ++ l.message

namespace LogLine

def loaded (shapes : List RowShape) : LogLine where
  level := "DEBUG"
  source := "sql_schema_to_code.catalog"
  message := "Loaded " ++ natText shapes.length ++ " row shapes from catalog"

def generating (shapes : List RowShape) : LogLine where
  level := "DEBUG"
  source := "sql_schema_to_code.generator"
  message := "Generating declarations for " ++ natText shapes.length ++ " row shapes"

/-- Repeated namespaces are counted once. -/
def generated (shapes : List RowShape) : LogLine where
  level := "INFO"
  source := "sql_schema_to_code.generator"
  message := "Generated " ++ natText shapes.length ++ " declarations in "
    ++ natText (shapes.map (·.path)).eraseDups.length ++ " namespaces"

/-- The length is counted in characters. -/
def wrote (content : String) (output : Address) : LogLine where
  level := "DEBUG"
  source := "sql_schema_to_code.writer"
  message := "Wrote " ++ natText content.length ++ " bytes to " ++ output.text

end LogLine

/-- What a run leaves behind. -/
structure Outcome where
  store : Store
  log : List LogLine
  ending : Ending

/-! ## Steps -/

/-- The bytes of the file at an address. Where nothing is, nothing is read. -/
def readFile (s : Store) (a : Address) : Except Error ByteArray :=
  match s.node? a with
  | some (.file content) => .ok content
  | some .directory => .error (.file .isDirectory)
  | none => .ok ByteArray.empty

/-- The report of what is wrong with settings. -/
def invalidSettings (path : String) (e : Error) : Ending :=
  .reported ("Invalid config in " ++ path ++ ": " ++ e.message)

/-- What a document that is not read means for a settings file. A number with too many digits is
reported like a wrong value; where the stack is exhausted, nothing is. -/
def unreadSettings (path : String) : Json.Failure → Ending
  | .fault fault => .reported ("Invalid config file " ++ path ++ ": " ++ fault.message)
  | .overrun (.digits bound given) => invalidSettings path (.overrun (.digits bound given))
  | .overrun o => .escaped (.overrun o)

/-- What settings that are refused mean for their file. A policy that is refused is shown. -/
def Host.refusedSettings (host : Host) (path : String) (e : Error) : Ending :=
  match e with
  | .badValue (.unknownPolicy given) =>
    if host.exhausts (.refusal given) then .escaped (.overrun .display) else invalidSettings path e
  | e => invalidSettings path e

/-- The settings that the bytes of a file hold. -/
def parseSettings (host : Host) (path : String) (bytes : ByteArray) : Except Ending Settings := do
  let content ← (Text.ofBytes bytes).mapError fun fault => invalidSettings path (.badEncoding fault)
  let doc ← (Json.read host.reader content).mapError (unreadSettings path)
  (Settings.ofJson doc).mapError (host.refusedSettings path)

/-- The settings of the config file, the default ones if there is none. -/
def Invocation.fileSettings (inv : Invocation) (host : Host) (s : Store) : Except Ending Settings :=
  match inv.config with
  | none => .ok .default
  | some a =>
    match readFile s a with
    | .error e => .error (.escaped e)
    | .ok bytes => parseSettings host a.text bytes

/-- Settings overlaid with the options. -/
def Invocation.overlay (inv : Invocation) (s : Settings) : Settings :=
  { s with
    nullablePolicy := inv.nullablePolicy.elim s.nullablePolicy .policy
    exportNamespaces := if inv.exportNamespaces then .bool true else s.exportNamespaces
    addGenerationComment := if inv.generationComment then .bool true else s.addGenerationComment }

/-- The row shapes of the catalog. -/
def Invocation.loadCatalog (inv : Invocation) (host : Host) (s : Store) :
    Except Error (List RowShape) := do
  Catalog.loadFile host.reader inv.catalog.text (← readFile s inv.catalog)

/-- The document of row shapes under settings. -/
def Invocation.document (inv : Invocation) (host : Host) (settings : Settings)
    (shapes : List RowShape) : Except Error String :=
  if host.exhausts (.document settings shapes) then .error (.overrun .display)
  else do generate settings (← TypeMap.ofSettings settings) shapes inv.commandLine

/-- Refuses a text that has no bytes, and then one whose braces do not match. -/
def Host.checkText (host : Host) (content : String) : Except Error Unit :=
  match host.halves.fault? content.toList with
  | some fault => .error (.unencodable fault)
  | none => checkBraces content

/-- The route from the root to an address. -/
def routeTo (a : Address) : Route := ⟨true, a⟩

/-- Carries an invocation out. A text without bytes is not stored, so this is the same as to refuse
it once the temporary file is there. -/
def Invocation.run (inv : Invocation) (host : Host) (s : Store) : Outcome :=
  match inv.fileSettings host s with
  | .error ending => ⟨s, [], ending⟩
  | .ok settings =>
    match inv.loadCatalog host s with
    | .error e => ⟨s, [], .ofError e⟩
    | .ok shapes =>
      let log := [LogLine.loaded shapes, .generating shapes]
      match inv.document host (inv.overlay settings) shapes with
      | .error e => ⟨s, log, .ofError e⟩
      | .ok content =>
        let log := log ++ [.generated shapes]
        match s.write [] (routeTo inv.output) content host.checkText with
        | (after, .error e) => ⟨after, log, .ofError e⟩
        | (after, .ok ()) => ⟨after, log ++ [.wrote content inv.output], .success⟩

/-! ## The command -/

/-- The report of a failure, without the control sequences that a message may quote. -/
def report (host : Host) (message : String) : String :=
  String.ofList (host.halves.shown (Text.plain ("Error: " ++ message ++ "\n").toList))

/-- The log as it is and the report of a failure behind it. -/
def outputText (host : Host) (verbose : Bool) (o : Outcome) : String :=
  let log := if verbose then String.join (o.log.map fun l => l.text ++ "\n") else ""
  match o.ending with
  | .reported message => log ++ report host message
  | _ => log

/-- What the command shows and leaves behind. -/
structure Result where
  store : Store
  output : String
  ending : Ending

/-- Runs the command on arguments in a working directory. -/
def run (host : Host) (s : Store) (cwd : Address) (args : List String) : Result :=
  match Invocation.ofArguments s cwd args with
  | .error .help => ⟨s, helpText, .help⟩
  | .error .usage => ⟨s, "", .usage⟩
  | .error (.error e) => ⟨s, "", .escaped e⟩
  | .ok inv =>
    let o := inv.run host s
    ⟨o.store, outputText host inv.verbose o, o.ending⟩

end RowDecl.Command
