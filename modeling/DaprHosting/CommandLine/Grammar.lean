/-!
# The grammar of command lines

A command line names a command through groups of commands and then gives its options. An option
takes one value, attached to it or as the next word; an attached value is taken at once, a value of
its own only when the next option begins or the line ends, so an option that is unknown is
complained about before a value that is no good. Values that the line does not give are taken from
the environment.
-/

namespace DaprHosting.CommandLine

/-! ## 1. Why a line is not carried out -/

/-- What is done instead of the command. -/
inductive Refusal where
  /-- Help was asked for. -/
  | displayHelp
  /-- The version was asked for. -/
  | displayVersion
  /-- A group was named and no command of it. -/
  | missingCommand
  | unknownCommand
  | unknownArgument
  /-- A value is missing, or is none of those that the option allows. -/
  | invalidValue
  /-- A value cannot be read as what the option takes. -/
  | unreadableValue
  /-- An option that may stand once stands twice. -/
  | repeated
  /-- A flag was given a value. -/
  | needlessValue
  /-- The program stopped while it read a value. -/
  | stopped
deriving DecidableEq, Repr

/-- What was asked for is no error; everything else is one of usage, unless the program stops. -/
def Refusal.exitCode : Refusal → Nat
  | .displayHelp => 0
  | .displayVersion => 0
  | .stopped => 101
  | _ => 2

/-! ## 2. Options -/

/-- An option that adds its value to options `ρ`. -/
structure OptionSpec (ρ : Type) where
  long : String
  short : Option Char := none
  /-- The variable of the environment that gives the value when the line does not. -/
  variableName : Option String := none
  repeatable : Bool := false
  store : String → ρ → Except Refusal ρ

/-- The same option for a larger collection of options. -/
def OptionSpec.within {ρ τ : Type} (get : τ → ρ) (set : τ → ρ → τ) (o : OptionSpec ρ) :
    OptionSpec τ where
  long := o.long
  short := o.short
  variableName := o.variableName
  repeatable := o.repeatable
  store v t := (o.store v (get t)).map (set t)

/-- How far a line has been read: the options so far, the long names of those that were given, and
    an option whose value is still to come or still to be taken. -/
structure Reading (ρ : Type) where
  options : ρ
  given : List String := []
  pending : Option (OptionSpec ρ × Option String) := none

variable {ρ : Type}

/-- A value of an option taken. -/
def Reading.take (r : Reading ρ) (o : OptionSpec ρ) (value : String) : Except Refusal (Reading ρ) :=
  if !o.repeatable && r.given.contains o.long then .error .repeated
  else
    (o.store value r.options).map fun options =>
      { r with options := options, given := o.long :: r.given }

/-- The pending option done with. -/
def Reading.settle (r : Reading ρ) : Except Refusal (Reading ρ) :=
  match r.pending with
  | none => .ok r
  | some (_, none) => .error .invalidValue
  | some (o, some value) => { r with pending := none }.take o value

/-- An option begun, with a value attached or without. -/
def Reading.begin (r : Reading ρ) (o : OptionSpec ρ) (attached : Option String) :
    Except Refusal (Reading ρ) := do
  let r ← r.settle
  match attached with
  | some value => r.take o value
  | none => return { r with pending := some (o, none) }

/-- A flag that ends the reading. -/
def Reading.stop (r : Reading ρ) (refusal : Refusal) : Except Refusal (Reading ρ) := do
  let _ ← r.settle
  .error refusal

/-- A word: the value of the option before it, if that still needs one. -/
def Reading.word (r : Reading ρ) (w : String) : Except Refusal (Reading ρ) :=
  match r.pending with
  | some (o, none) => .ok { r with pending := some (o, some w) }
  | _ => .error .unknownArgument

/-! ## 3. Words of a line -/

/-- What a word of a command line is. -/
inductive Word where
  /-- Two hyphens: no options follow. -/
  | divider
  | long (name : List Char) (value : Option (List Char))
  | short (letter : Char) (rest : List Char)
  | plain
deriving DecidableEq, Repr

/-- Two hyphens begin a long option and one a short one; a hyphen alone is a word like any other. -/
def Word.of (w : String) : Word :=
  match w.toList with
  | ['-', '-'] => .divider
  | '-' :: '-' :: cs =>
    match cs.span (· ≠ '=') with
    | (name, _ :: value) => .long name (some value)
    | (name, []) => .long name none
  | '-' :: c :: cs => .short c cs
  | _ => .plain

/-- The value attached to a short option. -/
def attached : List Char → Option String
  | [] => none
  | '=' :: cs => some (String.ofList cs)
  | cs => some (String.ofList cs)

/-! ## 4. Options of a command -/

/-- One word of the options read. -/
def Reading.step (specs : List (OptionSpec ρ)) (r : Reading ρ) (w : String) :
    Except Refusal (Reading ρ) :=
  match Word.of w with
  | .divider => .ok r
  | .long name value =>
    match specs.find? fun o => o.long.toList == name with
    | some o => r.begin o (value.map String.ofList)
    | none =>
      if name = "help".toList then
        if value.isSome then .error .needlessValue else r.stop .displayHelp
      else .error .unknownArgument
  | .short c rest =>
    match specs.find? fun o => o.short == some c with
    | some o => r.begin o (attached rest)
    | none => if c = 'h' then r.stop .displayHelp else .error .unknownArgument
  | .plain => r.word w

/-- The words of the options read; after two hyphens no word has a meaning. -/
def Reading.line (specs : List (OptionSpec ρ)) (r : Reading ρ) :
    List String → Except Refusal (Reading ρ)
  | [] => r.settle
  | w :: ws =>
    if Word.of w = .divider then if ws.isEmpty then r.settle else .error .unknownArgument
    else
      match r.step specs w with
      | .ok r => r.line specs ws
      | .error e => .error e

/-- The values of the environment for the options that the line does not give, in the order of the
    options. An empty value is a value. -/
def Reading.fill (environment : String → Option String) (r : Reading ρ) :
    List (OptionSpec ρ) → Except Refusal ρ
  | [] => .ok r.options
  | o :: os =>
    match r.given.contains o.long, o.variableName.bind environment with
    | false, some value =>
      match o.store value r.options with
      | .ok options => { r with options := options }.fill environment os
      | .error e => .error e
    | _, _ => r.fill environment os

/-- The options that words and environment give. -/
def readOptions (specs : List (OptionSpec ρ)) (environment : String → Option String) (start : ρ)
    (words : List String) : Except Refusal ρ :=
  match ({ options := start } : Reading ρ).line specs words with
  | .ok r => r.fill environment specs
  | .error e => .error e

/-! ## 5. Groups of commands -/

/-- Commands in groups. Only a group with a version displays one. -/
inductive Tree (α : Type) where
  | command (a : α)
  | group (hasVersion : Bool) (children : List (String × Tree α))

/-- The child of a name. -/
def child? {α : Type} (name : String) : List (String × Tree α) → Option (Tree α)
  | [] => none
  | (k, t) :: rest => if k = name then some t else child? name rest

/-- The word that asks for help. -/
def helpWord : String := "help"

/-- Help on a path of commands: each must be there. -/
def helpOn {α : Type} (t : Tree α) : List String → Refusal
  | [] => .displayHelp
  | w :: ws =>
    match t with
    | .command _ => .unknownCommand
    | .group _ children =>
      match child? w children with
      | some t => helpOn t ws
      | none => if w = helpWord ∧ ws = [] then .displayHelp else .unknownCommand

/-- The command that words name, and the words after its name. -/
def choose {α : Type} (t : Tree α) (words : List String) : Except Refusal (α × List String) :=
  match t, words with
  | .command a, ws => .ok (a, ws)
  | .group .., [] => .error .missingCommand
  | .group hasVersion children, w :: ws =>
    match Word.of w with
    | .divider =>
      match ws with
      | [] => .error .missingCommand
      | v :: _ =>
        if v = helpWord ∨ (child? v children).isSome then .error .unknownArgument
        else .error .unknownCommand
    | .long name value =>
      let display :=
        if name = "help".toList then some Refusal.displayHelp
        else if hasVersion ∧ name = "version".toList then some .displayVersion
        else none
      match display, value with
      | some d, none => .error d
      | some _, some _ => .error .needlessValue
      | none, _ => .error .unknownArgument
    | .short c _ =>
      if c = 'h' then .error .displayHelp
      else if hasVersion ∧ c = 'V' then .error .displayVersion
      else .error .unknownArgument
    | .plain =>
      match child? w children with
      | some t => choose t ws
      | none => .error (if w = helpWord then helpOn t ws else .unknownCommand)
termination_by words.length

end DaprHosting.CommandLine
