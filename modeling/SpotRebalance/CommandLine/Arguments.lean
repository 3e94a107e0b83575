import SpotRebalance.CommandLine.Settings
import SpotRebalance.NameTable

/-! # Reading the command line

Arguments are read from left to right. A flag takes its value after an equals sign or from the next
argument, unless that argument looks like a flag itself. Such a **pending** flag is settled when the
next known flag comes, or at the end; what is no argument of the program at all is refused before
that. The environment is read after the arguments and counts for flags that were not given. -/

namespace SpotRebalance

/-- A flag whose value comes from the next argument. -/
structure PendingFlag where
  /-- The flag. -/
  flag : Flag
  /-- Its value, once it has come. -/
  value : Option String
  deriving DecidableEq

/-- The arguments read so far. -/
structure Arguments where
  /-- What they set. -/
  settings : Settings := {}
  /-- The flags that were given. -/
  given : List Flag := []
  /-- The flag that is not settled yet. -/
  pending : Option PendingFlag := none
  deriving DecidableEq, Inhabited

/-- The form of an argument. -/
inductive ArgumentForm where
  /-- Two dashes: no flags follow. -/
  | escape
  /-- Two dashes, a name, and perhaps a value after an equals sign. -/
  | long (name : String) (value : Option String)
  /-- A dash and letters. -/
  | short (letters : List Char)
  /-- Anything else. -/
  | plain
  deriving DecidableEq

/-- The form of an argument. -/
def ArgumentForm.of (s : String) : ArgumentForm :=
  match s.toList with
  | ['-', '-'] => .escape
  | '-' :: '-' :: cs =>
    let name := String.ofList (cs.takeWhile (· != '='))
    match cs.dropWhile (· != '=') with
    | [] => .long name none
    | _ :: value => .long name (some (String.ofList value))
  | ['-'] => .plain
  | '-' :: cs => .short cs
  | _ => .plain

namespace Arguments

/-- Settles a flag with its value, unless it was given before. -/
def set (a : Arguments) (flag : Flag) (value : String) : Except UsageFault Arguments :=
  if a.given.contains flag then .error .repeatedFlag
  else
    (a.settings.assign flag value).map fun settings =>
      { settings, given := flag :: a.given, pending := none }

/-- Settles the pending flag, if there is one. -/
def settle (a : Arguments) : Except UsageFault Arguments :=
  match a.pending with
  | none => .ok a
  | some ⟨_, none⟩ => .error .invalidValue
  | some ⟨flag, some value⟩ => { a with pending := none }.set flag value

/-- Takes a flag that is known. -/
def takeFlag (a : Arguments) (flag : Flag) (value : Option String) : Except UsageFault Arguments :=
  match flag.takesValue, value with
  | true, some value => do (← a.settle).set flag value
  | true, none => a.settle.map fun a => { a with pending := some ⟨flag, none⟩ }
  | false, some _ => .error .unneededValue
  | false, none => do (← a.settle).set flag "true"

/-- Ends with what a special flag asks for, once the pending flag is settled. -/
def ask (a : Arguments) (fault : UsageFault) : Except UsageFault Arguments := do
  let _ ← a.settle
  .error fault

/-- Takes an argument of the long form. -/
def takeLong (a : Arguments) (name : String) (value : Option String) :
    Except UsageFault Arguments :=
  match Flag.ofName? name, name, value with
  | some flag, _, value => a.takeFlag flag value
  | none, "help", none => a.ask .helpAsked
  | none, "version", none => a.ask .versionAsked
  | none, "help", some _ => .error .unneededValue
  | none, "version", some _ => .error .unneededValue
  | none, _, _ => .error .unknownArgument

/-- Takes an argument of the short form; its first letter decides. -/
def takeShort (a : Arguments) : List Char → Except UsageFault Arguments
  | 'h' :: _ => a.ask .helpAsked
  | 'V' :: _ => a.ask .versionAsked
  | _ => .error .unknownArgument

/-- Takes an argument of no other form as the value of the pending flag. -/
def takePlain (a : Arguments) (s : String) : Except UsageFault Arguments :=
  match a.pending with
  | some ⟨flag, none⟩ => .ok { a with pending := some ⟨flag, some s⟩ }
  | _ => .error .unknownArgument

/-- Takes arguments from left to right. -/
def takeAll (a : Arguments) : List String → Except UsageFault Arguments
  | [] => a.settle
  | s :: rest =>
    match ArgumentForm.of s with
    | .escape => if rest.isEmpty then a.settle else .error .unknownArgument
    | .long name value => do (← a.takeLong name value).takeAll rest
    | .short letters => do (← a.takeShort letters).takeAll rest
    | .plain => do (← a.takePlain s).takeAll rest

/-- Takes what the environment says of flags that were not given. -/
def takeEnvironment (env : NameTable String) (a : Arguments) :
    List Flag → Except UsageFault Settings
  | [] => .ok a.settings
  | flag :: rest =>
    if a.given.contains flag then takeEnvironment env a rest
    else
      match env.get? flag.capitals with
      | none => takeEnvironment env a rest
      | some value => do
        let settings ← a.settings.assign flag value
        takeEnvironment env { a with settings } rest

end Arguments

/-- The settings of arguments and of the environment, its variables named without their common
beginning. -/
def Settings.read (arguments : List String) (env : NameTable String) :
    Except UsageFault Settings := do
  let taken ← ({} : Arguments).takeAll arguments
  taken.takeEnvironment env Flag.all

end SpotRebalance
