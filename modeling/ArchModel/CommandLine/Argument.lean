import ArchModel.CommandLine.Flag
import ArchModel.Text.DigitTable
import ArchModel.Text.Quoted

/-!
# Arguments

An argument is read without regard to those around it, except that all is plain behind `--`.

* `ArgumentForm.classify` tells flags from plain texts. A long name may be cut short as long as it
  stays unambiguous, and a value may be attached to a name.
* `ArgumentForm.expand` takes the flags of one argument apart: `-ui` gives two of them.
-/

namespace ArchModel

open Text

/-- What is wrong with a command line. -/
inductive UsageFault
  /-- A name that is cut short fits several flags. -/
  | ambiguous (word : String) (names : List String)
  | valueMissing (flag : Flag)
  /-- A value is attached to a flag that has none. -/
  | valueIgnored (flag : Flag) (value : String)
  | unknownCommand (word : String)
  | commandMissing
  | unrecognized (words : List String)
  deriving DecidableEq, Repr

namespace UsageFault

/-- The wording of a fault. -/
def message : UsageFault → String
  | ambiguous word names =>
    "ambiguous option: " ++ word ++ " could match " ++ join ", " names
  | valueMissing flag => "argument " ++ flag.title ++ ": expected one argument"
  | valueIgnored flag value =>
    "argument " ++ flag.title ++ ": ignored explicit argument " ++ quoted value
  | unknownCommand word => "argument command: invalid choice: " ++ quoted word ++
      " (choose from " ++ join ", " (Command.all.map fun c => quoted c.word) ++ ")"
  | commandMissing => "the following arguments are required: command"
  | unrecognized words => "unrecognized arguments: " ++ join " " words

end UsageFault

/-- A flag as it was given. -/
structure GivenFlag where
  /-- The name, which may be cut short on the line. -/
  name : String
  flag : Flag
  /-- The text that is attached to the name. -/
  attached : Option String := none
  deriving DecidableEq, Repr, Inhabited

/-- An argument. -/
inductive Argument
  | plain (text : String)
  | flag (text : String) (given : GivenFlag)
  /-- A flag that is not known. -/
  | unknown (text : String)
  /-- The mark behind which all arguments are plain. -/
  | separator
  deriving DecidableEq, Repr, Inhabited

namespace Argument

/-- The text of the mark behind which all arguments are plain. -/
def separatorText : String := "--"

/-- The argument as it was given. -/
def text : Argument → String
  | plain s | flag s _ | unknown s => s
  | separator => separatorText

end Argument

/-- Whether a text is a negative number, with a line break behind it at most. -/
def isNegativeNumber (s : String) : Bool :=
  match s.toList with
  | '-' :: cs =>
    let cs := if cs.getLast? = some '\n' then cs.dropLast else cs
    match cutChars '.' cs with
    | none => digits cs
    | some (whole, fraction) => whole.all isDecimalDigit && digits fraction
  | _ => false
where
  /-- One digit or more. -/
  digits (cs : List Char) : Bool := !cs.isEmpty && cs.all isDecimalDigit

namespace ArgumentForm

/-- The name in front of an equals sign, and what is attached to it. -/
def cutAttached (s : String) : String × Option String :=
  match cutChars '=' s.toList with
  | some (name, text) => (String.ofList name, some (String.ofList text))
  | none => (s, none)

/-- The flags that a text may stand for: a long name cut short, or a short name with a text attached
to it. -/
def candidates (f : ArgumentForm) (s : String) : List GivenFlag :=
  if startsWith "--" s then
    let (start, attached) := cutAttached s
    (f.names.filter fun (name, _) => startsWith start name).map fun (name, flag) =>
      { name, flag, attached }
  else
    let (short, rest) := (String.ofList (s.toList.take 2), String.ofList (s.toList.drop 2))
    (f.names.filter (·.1 = short)).map fun (name, flag) =>
      { name, flag, attached := some rest }

/-- The flag that a text gives by its full name. -/
def exactly? (f : ArgumentForm) (s : String) : Option GivenFlag :=
  match f.named? s, cutAttached s with
  | some flag, _ => some { name := s, flag }
  | none, (name, some attached) =>
    (f.named? name).map fun flag => { name, flag, attached := some attached }
  | none, (_, none) => none

/-- Tell what a text is. -/
def classify (f : ArgumentForm) (s : String) : Except UsageFault Argument :=
  if !startsWith "-" s || s = "-" then .ok (.plain s)
  else
    match f.exactly? s with
    | some g => .ok (.flag s g)
    | none =>
      match f.candidates s with
      | [g] => .ok (.flag s g)
      | [] => .ok (if isNegativeNumber s || containsChar ' ' s then .plain s else .unknown s)
      | gs => .error (.ambiguous s (gs.map (·.name)))

/-- Tell what the texts of a line are. -/
def classifyAll (f : ArgumentForm) : List String → Except UsageFault (List Argument)
  | [] => .ok []
  | s :: rest =>
    if s = Argument.separatorText then .ok (.separator :: rest.map .plain)
    else do
      let a ← f.classify s
      return a :: (← f.classifyAll rest)

end ArgumentForm

/-- A flag that is set, with its value. -/
structure Setting where
  flag : Flag
  value : Option String := none
  deriving DecidableEq, Repr, Inhabited

/-- What one argument sets. -/
structure Expansion where
  /-- The flags that are set. -/
  settings : List Setting := []
  /-- A flag that is set by the next argument. -/
  awaiting : Option Flag := none
  deriving DecidableEq, Repr, Inhabited

namespace Expansion

/-- What a flag sets that has nothing attached. -/
def bare (flag : Flag) : Expansion :=
  if flag.takesValue then { awaiting := some flag } else { settings := [{ flag }] }

/-- A flag in front of others. -/
def cons (flag : Flag) (e : Expansion) : Expansion :=
  { e with settings := { flag } :: e.settings }

end Expansion

namespace ArgumentForm

/-- What a flag sets together with a text that is attached to it. The text is the value of the flag;
behind a short name of a flag without a value it holds more short names. -/
def expandAttached (f : ArgumentForm) (flag : Flag) (short : Bool) :
    List Char → Except UsageFault Expansion
  | [] =>
    if flag.takesValue then .ok { settings := [⟨flag, some ""⟩] }
    else .error (.valueIgnored flag "")
  | c :: cs =>
    if flag.takesValue then .ok { settings := [⟨flag, some (String.ofList (c :: cs))⟩] }
    else
      match if short then f.named? (String.ofList ['-', c]) else none with
      | none => .error (.valueIgnored flag (String.ofList (c :: cs)))
      | some next =>
        match cs with
        | [] => .ok ((Expansion.bare next).cons flag)
        | text => (f.expandAttached next true text).map (·.cons flag)
termination_by cs => cs.length

/-- What a flag sets as it was given. -/
def expand (f : ArgumentForm) (g : GivenFlag) : Except UsageFault Expansion :=
  match g.attached with
  | none => .ok (.bare g.flag)
  | some text => f.expandAttached g.flag (!startsWith "--" g.name) text.toList

end ArgumentForm

end ArchModel
