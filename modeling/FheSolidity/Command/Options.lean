import FheSolidity.Listing
import FheSolidity.Output.Layout

/-!
# Options of the command

The command takes options and no other arguments. An option that takes a value is a setting, the
others are flags. The arguments are read from left to right, and the first problem decides the
outcome. The value of a setting may be attached to it or follow as an argument of its own; in that
case it is looked at only once the next option is recognized, or at the end, so that an argument
that cannot be read at all is found first.
-/

namespace FheSolidity

/-- What a run of the command is asked to do. -/
structure Options where
  /-- The metadata file. -/
  metadata : Path
  /-- The file of the library, if it is not the usual one. -/
  library : Option Path
  /-- The directory of the test contracts, if it is not the usual one. -/
  contractsDirectory : Option Path
  /-- The file of the interface module, if it is not the usual one. -/
  abi : Option Path
  /-- Whether to report what would be written instead of writing it. -/
  dryRun : Bool
  /-- Whether to list the overloads instead of generating. -/
  list : Bool
  /-- How they are listed. -/
  format : ListFormat
  /-- How often more log lines were asked for. -/
  verbosity : Nat
  deriving DecidableEq, Repr

/-- Why arguments do not ask for a run. -/
inductive UsageStop
  /-- They ask for help. -/
  | help
  /-- They ask for the version. -/
  | version
  /-- An argument is no option. -/
  | unknownArgument
  /-- A setting has no value, or one that it does not admit. -/
  | invalidValue
  /-- An option is given twice, or with one that it excludes. -/
  | conflict
  /-- A flag has a value. -/
  | tooManyValues
  deriving DecidableEq, Repr

/-- An option that takes a value. -/
inductive Setting
  | metadata
  | library
  | contractsDirectory
  | abi
  | format
  deriving DecidableEq, Repr

/-- An option without a value. -/
inductive Flag
  | dryRun
  | list
  | verbose
  | help
  | version
  deriving DecidableEq, Repr

/-- An option. -/
inductive Switch
  | setting (s : Setting)
  | flag (f : Flag)
  deriving DecidableEq, Repr

/-- The format of a listing that a word names. -/
def ListFormat.ofWord? (word : String) : Option ListFormat :=
  if word = "text" then some .text else if word = "json" then some .json else none

/-- Whether a setting admits a value. -/
def Setting.admits (s : Setting) (value : String) : Bool :=
  match s with
  | .format => (ListFormat.ofWord? value).isSome
  | _ => value != ""

namespace Switch

/-- The option with a long name. -/
def ofName? (name : String) : Option Switch :=
  [("metadata", setting .metadata), ("library", setting .library),
    ("contracts-dir", setting .contractsDirectory), ("abi", setting .abi),
    ("format", setting .format), ("dry-run", flag .dryRun), ("list", flag .list),
    ("help", flag .help), ("version", flag .version)].lookup name

/-- The option with a letter. -/
def ofLetter? (letter : Char) : Option Switch :=
  [('m', setting .metadata), ('v', flag .verbose), ('h', flag .help),
    ('V', flag .version)].lookup letter

end Switch

/-! ## Arguments -/

/-- What an argument looks like. -/
inductive Argument
  /-- Two hyphens alone, after which there are no more options. -/
  | endOfOptions
  /-- Two hyphens, a name, and perhaps an equals sign and a value. -/
  | long (name : String) (value : Option String)
  /-- A hyphen and letters. -/
  | short (letters : List Char)
  /-- Anything else. -/
  | plain (text : String)
  deriving DecidableEq, Repr

namespace Argument

/-- A long option from after its hyphens. -/
def ofLong (text : List Char) : Argument :=
  let name := String.ofList (text.takeWhile (· != '='))
  match text.dropWhile (· != '=') with
  | [] => long name none
  | _ :: value => long name (some (String.ofList value))

/-- What an argument looks like. A hyphen alone is no option. -/
def ofString (text : String) : Argument :=
  match text.toList with
  | ['-', '-'] => endOfOptions
  | '-' :: '-' :: rest => ofLong rest
  | '-' :: letter :: rest => short (letter :: rest)
  | _ => plain text

end Argument

/-! ## Reading -/

/-- The options that have been read so far. -/
structure OptionsDraft where
  /-- The settings with their values. -/
  settings : List (Setting × String) := []
  /-- Whether to list the overloads. -/
  list : Bool := false
  /-- Whether to report only. -/
  dryRun : Bool := false
  /-- How often more log lines were asked for. -/
  verbosity : Nat := 0
  /-- A setting whose value has not been looked at, and the value if there is one. -/
  pending : Option (Setting × Option String) := none
  deriving DecidableEq, Repr

namespace OptionsDraft

/-- Gives a setting its value. -/
def assign (d : OptionsDraft) (s : Setting) (value : String) : Except UsageStop OptionsDraft :=
  if (d.settings.lookup s).isSome then .error .conflict
  else if s.admits value then .ok { d with settings := (s, value) :: d.settings }
  else .error .invalidValue

/-- Looks at the value that is pending. -/
def settle (d : OptionsDraft) : Except UsageStop OptionsDraft :=
  match d.pending with
  | none => .ok d
  | some (_, none) => .error .invalidValue
  | some (s, some value) => { d with pending := none }.assign s value

/-- Takes a flag. The count of a flag that may be repeated stops at 255. -/
def raise (d : OptionsDraft) : Flag → Except UsageStop OptionsDraft
  | .dryRun => if d.dryRun then .error .conflict else .ok { d with dryRun := true }
  | .list => if d.list then .error .conflict else .ok { d with list := true }
  | .verbose => .ok { d with verbosity := min 255 (d.verbosity + 1) }
  | .help => .error .help
  | .version => .error .version

/-- Takes an option with a value attached to it, or without one. -/
def take (d : OptionsDraft) : Switch → Option String → Except UsageStop OptionsDraft
  | .flag _, some _ => .error .tooManyValues
  | .flag f, none => do (← d.settle).raise f
  | .setting s, some value => do (← d.settle).assign s value
  | .setting s, none => do return { (← d.settle) with pending := some (s, none) }

/-- The value attached to the letter of a setting. An equals sign before it is dropped. -/
def attachedValue : List Char → Option String
  | [] => none
  | '=' :: value => some (String.ofList value)
  | value => some (String.ofList value)

/-- Takes letters after a hyphen. The first letter of a setting has the rest as its value. -/
def takeLetters (d : OptionsDraft) : List Char → Except UsageStop OptionsDraft
  | [] => .ok d
  | letter :: rest =>
    match Switch.ofLetter? letter with
    | none => .error .unknownArgument
    | some (.flag f) => do (← d.take (.flag f) none).takeLetters rest
    | some (.setting s) => d.take (.setting s) (attachedValue rest)

/-- Takes a long option. -/
def takeLong (d : OptionsDraft) (name : String) (value : Option String) :
    Except UsageStop OptionsDraft :=
  match Switch.ofName? name with
  | none => .error .unknownArgument
  | some switch => d.take switch value

/-- Takes an argument that is no option, which can only be the value of a setting. -/
def takePlain (d : OptionsDraft) (text : String) : Except UsageStop OptionsDraft :=
  match d.pending with
  | some (s, none) => .ok { d with pending := some (s, some text) }
  | _ => .error .unknownArgument

/-- Takes all arguments. -/
def takeAll (d : OptionsDraft) : List String → Except UsageStop OptionsDraft
  | [] => d.settle
  | argument :: rest =>
    match Argument.ofString argument with
    | .endOfOptions => if rest.isEmpty then d.settle else .error .unknownArgument
    | .long name value => do (← d.takeLong name value).takeAll rest
    | .short letters => do (← d.takeLetters letters).takeAll rest
    | .plain text => do (← d.takePlain text).takeAll rest

/-- The path that a setting gives. -/
def path? (d : OptionsDraft) (s : Setting) : Option Path :=
  (d.settings.lookup s).map Path.mk

/-- The options that were read. Listing excludes a dry run. -/
def options (d : OptionsDraft) : Except UsageStop Options :=
  if d.list && d.dryRun then .error .conflict
  else
    .ok {
      metadata := (d.path? .metadata).getD ⟨"metadata/operations.json"⟩
      library := d.path? .library
      contractsDirectory := d.path? .contractsDirectory
      abi := d.path? .abi
      dryRun := d.dryRun
      list := d.list
      format := ((d.settings.lookup .format).bind ListFormat.ofWord?).getD .text
      verbosity := d.verbosity
    }

end OptionsDraft

namespace Options

/-- What some arguments ask for. -/
def read (arguments : List String) : Except UsageStop Options := do
  (← OptionsDraft.takeAll { } arguments).options

/-- Where the artifacts go. -/
def layout (o : Options) : OutputLayout :=
  let usual : OutputLayout := { }
  { library := o.library.getD usual.library
    contractsDirectory := o.contractsDirectory.getD usual.contractsDirectory
    abi := o.abi.getD usual.abi }

/-- The format of the listing that is asked for, if one is. -/
def listing? (o : Options) : Option ListFormat :=
  if o.list then some o.format else none

end Options

end FheSolidity
