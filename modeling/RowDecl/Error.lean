import RowDecl.Json.Display
import RowDecl.Json.Reader
import RowDecl.Text.Utf8

/-! # What can go wrong

Every failure is a value that names its cause; `Error.message` alone knows the wording.
`Error.isReported` tells the failures that a run of the command reports from those that end it. -/

namespace RowDecl

/-- Why segments are no namespace path. -/
inductive NamespaceFault
  | noSegment
  | blankSegment (given : List Json)
  deriving DecidableEq, Repr

def NamespaceFault.message : NamespaceFault → String
  | .noSegment => "Namespace path must have at least one segment"
  | .blankSegment given => "Empty namespace segment in " ++ (Json.arr given).literal

/-- Why a value of the right kind is refused. -/
inductive ValueFault
  | emptySeparator
  | emptyColumnName
  | unknownPolicy (given : Json)
  | overridesNotMapping
  | nulByte
  deriving DecidableEq, Repr

def ValueFault.message : ValueFault → String
  | .emptySeparator => "empty separator"
  | .emptyColumnName => "Column source name must not be empty"
  | .unknownPolicy given => given.literal ++ " is not a valid NullablePolicy"
  | .overridesNotMapping => "type_overrides must be a mapping of native type to target type"
  | .nulByte => "embedded null byte"

/-! ## Values of the wrong kind -/

/-- What is asked of a value that only some kinds can do. -/
inductive Ability
  | items
  | join
  | split
  | strip
  | value
  deriving DecidableEq, Repr

def Ability.word : Ability → String
  | .items => "items"
  | .join => "join"
  | .split => "split"
  | .strip => "strip"
  | .value => "value"

/-- How a value is used against its kind. -/
inductive Misuse
  | unable (kind : Kind) (ability : Ability)
  | notIterable (kind : Kind)
  | notSearchable (kind : Kind)
  | notComparable (kind : Kind)
  | notCells (kind : Kind)
  | tooFewCells (given : Nat)
  | tooManyCells (given : Nat)
  | unknownSetting (name : String)
  | repeatedArgument (name : String)
  | notCallable (kind : Kind)
  | notAssignable (kind : Kind)
  | notTable (kind : Kind)
  | notClass (kind : Kind)
  | notWritable (name : String)
  | noOverrides
  deriving DecidableEq, Repr

def Misuse.message : Misuse → String
  | .unable kind ability =>
    "'" ++ kind.word ++ "' object has no attribute '" ++ ability.word ++ "'"
  | .notIterable kind => "'" ++ kind.word ++ "' object is not iterable"
  | .notSearchable kind => "argument of type '" ++ kind.word ++ "' is not iterable"
  | .notComparable kind => "unhashable type: '" ++ kind.word ++ "'"
  | .notCells kind =>
    "sql_schema_to_code.model.ColumnDescriptor() argument after * must be an iterable, not "
      ++ kind.word
  | .tooFewCells 0 =>
    "ColumnDescriptor.__init__() missing 2 required positional arguments: 'source_name' and "
      ++ "'native_type'"
  | .tooFewCells _ =>
    "ColumnDescriptor.__init__() missing 1 required positional argument: 'native_type'"
  | .tooManyCells given =>
    "ColumnDescriptor.__init__() takes from 3 to 4 positional arguments but " ++ natText (given + 1)
      ++ " were given"
  | .unknownSetting name =>
    "CodeGeneratorConfig.__init__() got an unexpected keyword argument '" ++ name ++ "'"
  | .repeatedArgument name =>
    "CodeGeneratorConfig.__init__() got multiple values for argument '" ++ name ++ "'"
  | .notCallable kind => "'" ++ kind.word ++ "' object is not callable"
  | .notAssignable .array => "list indices must be integers or slices, not str"
  | .notAssignable kind => "'" ++ kind.word ++ "' object does not support item assignment"
  | .notTable kind => "__dict__ must be set to a dictionary, not a '" ++ kind.word ++ "'"
  | .notClass kind => "__class__ must be set to a class, not '" ++ kind.word ++ "' object"
  | .notWritable name =>
    "attribute '" ++ name ++ "' of 'CodeGeneratorConfig' objects is not writable"
  | .noOverrides => "'CodeGeneratorConfig' object has no attribute 'type_overrides'"

/-! ## Row shapes -/

/-- Why a name and columns make no row shape. -/
inductive ShapeFault
  | unnamed
  | duplicateColumn (column declaration : Json)
  | notComparable (kind : Kind)
  deriving DecidableEq, Repr

def ShapeFault.message : ShapeFault → String
  | .unnamed => "Declaration name must not be empty"
  | .duplicateColumn column declaration =>
    "Duplicate column '" ++ column.text ++ "' in '" ++ declaration.text ++ "'"
  | .notComparable kind => (Misuse.notComparable kind).message

/-! ## Catalogs -/

/-- The three lists of a catalog. -/
inductive Section
  | tables
  | statements
  | rowShapes
  deriving DecidableEq, Repr

/-- The name of the member that holds a list. -/
def Section.word : Section → String
  | .tables => "tables"
  | .statements => "statements"
  | .rowShapes => "row_shapes"

/-- The part of a catalog that a complaint is about. -/
inductive Place
  | whole
  | entry (list : Section) (index : Nat)
  | column (list : Section) (index : Nat) (column : Nat)
  deriving DecidableEq, Repr

/-- An entry of a list by its index. -/
def Section.entryText (list : Section) (index : Nat) : String :=
  list.word ++ "[" ++ natText index ++ "]"

def Place.text : Place → String
  | .whole => "catalog"
  | .entry list i => list.entryText i
  | .column list i j => list.entryText i ++ ", column " ++ natText j

/-- What is wrong at a place. -/
inductive CatalogFault
  | notObject (kind : Kind)
  | missing (key : String)
  | wrongKind (key : String) (expected : List Kind) (kind : Kind)
  | wrongItem (key : String) (kind : Kind)
  | invalidName (name : String)
  | unnamedColumn
  | badNamespace (fault : NamespaceFault)
  | badShape (fault : ShapeFault)
  deriving DecidableEq, Repr

def CatalogFault.message : CatalogFault → String
  | .notObject kind => "expected an object, got " ++ kind.word
  | .missing key => "missing '" ++ key ++ "'"
  | .wrongKind key expected kind =>
    "'" ++ key ++ "' must be " ++ String.intercalate " or " (expected.map Kind.word) ++ ", got "
      ++ kind.word
  | .wrongItem key kind => "'" ++ key ++ "' entries must be str, got " ++ kind.word
  | .invalidName name => "'" ++ name ++ "' is not a valid declaration name"
  | .unnamedColumn => ValueFault.emptyColumnName.message
  | .badNamespace fault => fault.message
  | .badShape fault => fault.message

/-- Why a catalog cannot be loaded. -/
inductive CatalogError
  | notObject
  | malformed (place : Place) (fault : CatalogFault)
  | unreadable (path : String) (fault : Json.Fault)
  deriving DecidableEq, Repr

def CatalogError.message : CatalogError → String
  | .notObject => "Catalog must be a JSON object"
  | .malformed place fault => place.text ++ ": " ++ fault.message
  | .unreadable path fault => "Invalid catalog file " ++ path ++ ": " ++ fault.message

/-! ## All failures -/

/-- What a file system refuses. -/
inductive FileFault
  | isDirectory
  | alreadyExists
  | notDirectory
  | busy
  | nameTooLong
  | notPermitted
  deriving DecidableEq, Repr

def FileFault.message : FileFault → String
  | .isDirectory => "Is a directory"
  | .alreadyExists => "File exists"
  | .notDirectory => "Not a directory"
  | .busy => "Device or resource busy"
  | .nameTooLong => "File name too long"
  | .notPermitted => "Permission denied"

inductive Error
  | badNamespace (fault : NamespaceFault)
  | badValue (fault : ValueFault)
  | badShape (fault : ShapeFault)
  | misuse (use : Misuse)
  | catalog (error : CatalogError)
  | unsupportedType (shape column : Json) (nativeType : String)
  | fieldCollision (shape first second field : String)
  | duplicateDeclaration (qualifiedName : String)
  | unbalancedBraces (opened closed : Nat)
  | rejected
  | badEncoding (fault : Text.Utf8Fault)
  | unencodable (fault : Text.HalfFault)
  | overrun (o : Json.Overrun)
  | file (fault : FileFault)
  deriving DecidableEq, Repr

namespace Error

def message : Error → String
  | .badNamespace fault => fault.message
  | .badValue fault => fault.message
  | .badShape fault => fault.message
  | .misuse use => use.message
  | .catalog error => error.message
  | .unsupportedType shape column nativeType =>
    "Unsupported native type '" ++ nativeType ++ "' for column '" ++ column.text ++ "' in '"
      ++ shape.text ++ "'"
  | .fieldCollision shape first second field =>
    "Columns '" ++ first ++ "' and '" ++ second ++ "' in '" ++ shape ++ "' both map to field '"
      ++ field ++ "'"
  | .duplicateDeclaration name => "Duplicate declaration '" ++ name ++ "'"
  | .unbalancedBraces opened closed =>
    "Generated code has unbalanced braces: " ++ natText opened ++ " open, " ++ natText closed
      ++ " close"
  | .rejected => "rejected"
  | .badEncoding fault => fault.message
  | .unencodable fault => fault.message
  | .overrun o => o.message
  | .file fault => fault.message

/-- Whether the failure lies in what was given to generate from, and is reported as such. -/
def isReported : Error → Bool
  | .badNamespace _ | .catalog _ | .unsupportedType .. | .fieldCollision ..
  | .duplicateDeclaration _ | .unbalancedBraces .. | .rejected => true
  | .badValue _ | .badShape _ | .misuse _ | .badEncoding _ | .unencodable _ | .overrun _
  | .file _ => false

end Error

end RowDecl
