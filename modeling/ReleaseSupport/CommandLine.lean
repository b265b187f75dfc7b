import ReleaseSupport.Policy

/-!
The command line: its options and how an argument list is read as settings. Arguments are read from
left to right, and the first that cannot be read decides. The value of an option may stand in the
next argument; it is then looked at only when the next option begins or the arguments end, so that
an argument that no option has is found before a bad value in front of it.
-/

set_option autoImplicit false
set_option relaxedAutoImplicit false

namespace ReleaseSupport.CommandLine

/-- An option without a value. -/
inductive Flag where
  | display
  | noDisplay
  | doc
  | json
  | verbose
  deriving DecidableEq, Repr

/-- An option with a value. -/
inductive Parameter where
  | repo
  | limit
  | maxAge
  | patchWindow
  deriving DecidableEq, Repr

inductive Switch where
  | flag (flag : Flag)
  | parameter (parameter : Parameter)
  | help
  | version
  deriving DecidableEq, Repr

namespace Switch

def ofLong? (name : String) : Option Switch :=
  match name with
  | "repo" => some (.parameter .repo)
  | "display" => some (.flag .display)
  | "no-display" => some (.flag .noDisplay)
  | "doc" => some (.flag .doc)
  | "json" => some (.flag .json)
  | "limit" => some (.parameter .limit)
  | "max-age" => some (.parameter .maxAge)
  | "patch-window" => some (.parameter .patchWindow)
  | "verbose" => some (.flag .verbose)
  | "help" => some .help
  | "version" => some .version
  | _ => none

def ofShort? (name : Char) : Option Switch :=
  match name with
  | 'R' => some (.parameter .repo)
  | 'd' => some (.flag .display)
  | 'D' => some (.flag .doc)
  | 'L' => some (.parameter .limit)
  | 'v' => some (.flag .verbose)
  | 'h' => some .help
  | 'V' => some .version
  | _ => none

end Switch

inductive ValueError where
  | notRepository (text : String)
  | emptyNumber
  | invalidDigit
  | numberTooLarge
  | numberTooSmall
  | outOfRange (number : Int)
  deriving DecidableEq, Repr

def ValueError.message : ValueError → String
  | .notRepository text => "invalid repository: " ++ text ++ " (expected OWNER/REPO)"
  | .emptyNumber => "cannot parse integer from empty string"
  | .invalidDigit => "invalid digit found in string"
  | .numberTooLarge => "number too large to fit in target type"
  | .numberTooSmall => "number too small to fit in target type"
  | .outOfRange number => toString number ++ " is not in 0..=4294967295"

inductive UsageError where
  /-- No option has this spelling, or no option waits for this value. -/
  | unknownArgument (argument : String)
  | valueForFlag (switch : Switch)
  /-- An option that may stand once was given again. -/
  | repeated (switch : Switch)
  | missingValue (parameter : Parameter)
  | badValue (parameter : Parameter) (error : ValueError)
  | missingRepository
  deriving DecidableEq, Repr

inductive Stop where
  | help
  | version
  | misuse (error : UsageError)
  deriving DecidableEq, Repr

/-- Whether a text has two or three parts, none of them empty, between slashes. -/
def isRepository (text : List Char) : Bool :=
  let parts := text.splitOn '/'
  2 ≤ parts.length ∧ parts.length ≤ 3 ∧ parts.all (· ≠ [])

/-- Reads the digits of a number into a signed 64-bit word, on top of the value of those before. -/
def digits (negative : Bool) (value : Int) : List Char → Except ValueError Int
  | [] => .ok value
  | c :: rest =>
    if c.isDigit then
      let digit : Int := c.toNat - '0'.toNat
      if negative then
        let value := value * 10 - digit
        if value < -9223372036854775808 then .error .numberTooSmall else digits negative value rest
      else
        let value := value * 10 + digit
        if 9223372036854775807 < value then .error .numberTooLarge else digits negative value rest
    else .error .invalidDigit

def integer : List Char → Except ValueError Int
  | [] => .error .emptyNumber
  | ['-'] => .error .invalidDigit
  | ['+'] => .error .invalidDigit
  | '-' :: rest => digits true 0 rest
  | '+' :: rest => digits false 0 rest
  | text => digits false 0 text

def count (text : List Char) : Except ValueError UInt32 := do
  let n ← integer text
  if 0 ≤ n ∧ n < UInt32.size then .ok (UInt32.ofNat n.toNat) else .error (.outOfRange n)

/-- The options accepted so far. -/
structure Draft where
  repos : List String := []
  flags : List Flag := []
  limit : Option UInt32 := none
  maxAge : Option UInt32 := none
  patchWindow : Option UInt32 := none
  deriving DecidableEq, Repr

namespace Draft

def single (parameter : Parameter) (old : Option UInt32) (value : List Char) :
    Except UsageError (Option UInt32) :=
  match old with
  | some _ => .error (.repeated (.parameter parameter))
  | none => ((count value).mapError (.badValue parameter)).map some

def set (d : Draft) (parameter : Parameter) (value : List Char) : Except UsageError Draft :=
  match parameter with
  | .repo =>
    if isRepository value then .ok { d with repos := d.repos ++ [String.ofList value] }
    else .error (.badValue .repo (.notRepository (String.ofList value)))
  | .limit => do return { d with limit := ← single .limit d.limit value }
  | .maxAge => do return { d with maxAge := ← single .maxAge d.maxAge value }
  | .patchWindow => do return { d with patchWindow := ← single .patchWindow d.patchWindow value }

def raise (d : Draft) (flag : Flag) : Except UsageError Draft :=
  if flag ∈ d.flags then .error (.repeated (.flag flag))
  else .ok { d with flags := flag :: d.flags }

end Draft

/-- How far reading has come: the options accepted, and the option begun last if its value stands in
an argument of its own, which is still to come or not looked at yet. -/
structure Progress where
  draft : Draft := {}
  begun : Option (Parameter × Option (List Char)) := none
  deriving DecidableEq, Repr

namespace Progress

def settle (p : Progress) : Except Stop Draft :=
  match p.begun with
  | none => .ok p.draft
  | some (parameter, none) => .error (.misuse (.missingValue parameter))
  | some (parameter, some value) => (p.draft.set parameter value).mapError .misuse

def bare (p : Progress) (switch : Switch) : Except Stop Progress := do
  let draft ← p.settle
  match switch with
  | .flag flag => return ⟨← (draft.raise flag).mapError .misuse, none⟩
  | .parameter parameter => return ⟨draft, some (parameter, none)⟩
  | .help => .error .help
  | .version => .error .version

def attached (p : Progress) (parameter : Parameter) (value : List Char) :
    Except Stop Progress := do
  let draft ← p.settle
  return ⟨← (draft.set parameter value).mapError .misuse, none⟩

def unknown {α : Type} (argument : List Char) : Except Stop α :=
  .error (.misuse (.unknownArgument (String.ofList argument)))

/-- Reads what stands after two hyphens: a long name, or a long name, an equals sign and a value. -/
def long (p : Progress) (text : List Char) : Except Stop Progress :=
  let name := text.takeWhile (· ≠ '=')
  match Switch.ofLong? (String.ofList name), text.drop name.length with
  | none, _ => unknown ('-' :: '-' :: text)
  | some switch, [] => p.bare switch
  | some (.parameter parameter), _ :: value => p.attached parameter value
  | some switch, _ :: _ => .error (.misuse (.valueForFlag switch))

/-- Reads what stands after one hyphen: short names, of which the first that wants a value takes the
rest of the argument for it, without an equals sign in front. -/
def short (p : Progress) : List Char → Except Stop Progress
  | [] => .ok p
  | name :: rest =>
    match Switch.ofShort? name with
    | none => unknown ['-', name]
    | some (.parameter parameter) =>
      match rest with
      | [] => p.bare (.parameter parameter)
      | '=' :: value => p.attached parameter value
      | value => p.attached parameter value
    | some switch => do short (← p.bare switch) rest

/-- Reads an argument that is no option: the value of the option begun last, if that has none. -/
def plain (p : Progress) (argument : List Char) : Except Stop Progress :=
  match p.begun with
  | some (parameter, none) => .ok { p with begun := some (parameter, some argument) }
  | _ => unknown argument

/-- Reads one argument. A hyphen alone is no option. -/
def step (p : Progress) (argument : List Char) : Except Stop Progress :=
  match argument with
  | '-' :: '-' :: text => p.long text
  | '-' :: name :: rest => p.short (name :: rest)
  | _ => p.plain argument

/-- Reads some arguments. Two hyphens alone end the options, after which nothing may follow. -/
def readAll (p : Progress) : List (List Char) → Except Stop Progress
  | [] => .ok p
  | argument :: rest =>
    if argument = ['-', '-'] then
      match rest with
      | [] => .ok p
      | next :: _ => unknown next
    else do (← p.step argument).readAll rest

end Progress

structure Settings where
  repos : List String
  noDisplay : Bool
  doc : Bool
  json : Bool
  verbose : Bool
  limit : Option UInt32
  maxAge : UInt32
  patchWindow : UInt32
  deriving DecidableEq, Repr

namespace Settings

def display (s : Settings) : Bool := !s.noDisplay

end Settings

/-- The settings of the options accepted, the rest by default; there has to be a repository. -/
def Draft.settings (d : Draft) : Except Stop Settings :=
  if d.repos = [] then .error (.misuse .missingRepository)
  else .ok {
    repos := d.repos
    noDisplay := .noDisplay ∈ d.flags
    doc := .doc ∈ d.flags
    json := .json ∈ d.flags
    verbose := .verbose ∈ d.flags
    limit := d.limit
    maxAge := d.maxAge.getD (UInt32.ofNat Policy.defaultMaxAge)
    patchWindow := d.patchWindow.getD (UInt32.ofNat Policy.defaultPatchWindow) }

def parse (args : List String) : Except Stop Settings := do
  let progress ← ({} : Progress).readAll (args.map String.toList)
  (← progress.settle).settings

end ReleaseSupport.CommandLine
