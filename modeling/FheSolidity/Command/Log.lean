import FheSolidity.Event

/-!
# Log filters

Which events the command logs: those up to a level. The level follows from how often more lines were
asked for, unless the environment names one.
-/

namespace FheSolidity

/-- The most verbose level that is logged, or none if nothing is. -/
abbrev LogFilter := Option Level

/-- The level up to which events are logged, by how often more lines were asked for. -/
def Level.ofVerbosity : Nat → Level
  | 0 => .warn
  | 1 => .info
  | _ => .debug

/-- The name of the level for a verbosity. -/
def directive (verbosity : Nat) : String :=
  String.ofList ((Level.ofVerbosity verbosity).label.toList.map Char.toLower)

namespace LogFilter

/-- Whether an event is logged. -/
def admits (filter : LogFilter) (event : Event) : Bool :=
  match filter with
  | some level => event.level.rank ≤ level.rank
  | none => false

/-- The filters from nothing to everything. The number of a filter is its place here. -/
def all : List LogFilter :=
  [none, some .error, some .warn, some .info, some .debug, some .trace]

/-- The names of the filters. No name at all stands for the gravest level. -/
def names : List (String × LogFilter) :=
  ["off", "error", "warn", "info", "debug", "trace"].zip all ++ [("", some .error)]

/-- The filter with a number in decimal digits. -/
def ofDigits? (digits : List Char) : Option LogFilter :=
  if digits.all Char.isDigit then
    all[digits.foldl (fun n c => n * 10 + (c.toNat - '0'.toNat)) 0]?
  else none

/-- Whether a character can occur in the name of a part of a program. -/
def isPartChar (c : Char) : Bool :=
  c.isAlphanum || c == '_' || c == '-' || c == ':'

/-- The filter that a word names, in whatever case, by its name or its number. Any other name asks
for the events of a part by that name alone: there is no such part, so nothing is logged. -/
def ofWord? (word : String) : Option LogFilter :=
  (names.lookup (String.ofList (word.toList.map Char.toLower))).or
    ((ofDigits? word.toList).or (if word.toList.all isPartChar then some none else none))

/-- The filter for a verbosity and a word from the environment. A word that is no name is passed
over. -/
def choose (verbosity : Nat) (word : Option String) : LogFilter :=
  (word.bind ofWord?).getD (some (.ofVerbosity verbosity))

end LogFilter

end FheSolidity
