import Layering.Cli.Switch

/-!
# Items of a command line

The arguments are read into items: switches with their values, and operands. A value stands in the
same argument or in the next one, letters may be joined behind one dash, and after two dashes there
are only operands. Reading stops where the name of a command stands.
-/

namespace Layering.Cli

/-- What is wrong with the arguments. -/
inductive Misuse where
  | unknownSwitch (text : String)
  | missingValue (s : Switch)
  | unwantedValue (s : Switch)
  | repeated (s : Switch)
  | invalidValue (s : Switch) (text : String)
  | emptyPath
  | unknownCommand (name : String)
  | unexpectedOperand (text : String)
  | missingOperand
  | missingCommand
deriving DecidableEq, Repr

def Misuse.message : Misuse → String
  | .unknownSwitch text => "unexpected argument '" ++ text ++ "' found"
  | .missingValue s => "a value is required for '--" ++ s.long ++ "' but none was supplied"
  | .unwantedValue s => "unexpected value for '--" ++ s.long ++ "' found; no more were expected"
  | .repeated s => "the argument '--" ++ s.long ++ "' cannot be used multiple times"
  | .invalidValue s text => "invalid value '" ++ text ++ "' for '--" ++ s.long ++ "'"
  | .emptyPath => "a path must not be empty"
  | .unknownCommand name => "unrecognized subcommand '" ++ name ++ "'"
  | .unexpectedOperand text => "unexpected argument '" ++ text ++ "' found"
  | .missingOperand => "the following required arguments were not provided"
  | .missingCommand => "a subcommand is required"

/-- An item of a command line. A switch without a value has the empty text. -/
inductive Item where
  | switch (s : Switch) (value : String)
  | operand (text : String)
deriving DecidableEq, Repr

/-- Where the items of a command line end. -/
inductive Ending where
  | complete
  /-- The name of a command, and the arguments after it. -/
  | command (name : String) (arguments : List String)
  | misuse (m : Misuse)
deriving DecidableEq, Repr

/-- Items and where they end. -/
structure Items where
  items : List Item
  ending : Ending
deriving DecidableEq, Repr

/-- Put items in front. -/
def Items.after (before : List Item) (rest : Items) : Items :=
  { rest with items := before ++ rest.items }

/-- What comes after the items of an argument. -/
inductive Next where
  | argument
  /-- The next argument is the value of a switch. -/
  | valueOf (s : Switch)
  | misuse (m : Misuse)

/-- The items of letters behind a dash. The first one that takes a value takes what is left. -/
def readLetters (known : List Switch) : List Char → List Item × Next
  | [] => ([], .argument)
  | c :: rest =>
    match known.find? fun s => s.letter? == some c with
    | none => ([], .misuse (.unknownSwitch (String.ofList ['-', c])))
    | some s =>
      if s.takesValue then
        match rest with
        | [] => ([], .valueOf s)
        | '=' :: value => ([.switch s (String.ofList value)], .argument)
        | value => ([.switch s (String.ofList value)], .argument)
      else
        let (items, next) := readLetters known rest
        (.switch s "" :: items, next)

/-- The item of a long name, with a value behind an equals sign or none. -/
def readLong (known : List Switch) (text : List Char) : List Item × Next :=
  let name := text.takeWhile (· != '=')
  match known.find? fun s => s.long.toList == name with
  | none => ([], .misuse (.unknownSwitch (String.ofList ('-' :: '-' :: name))))
  | some s => match text.dropWhile (· != '='), s.takesValue with
    | [], true => ([], .valueOf s)
    | [], false => ([.switch s ""], .argument)
    | _ :: value, true => ([.switch s (String.ofList value)], .argument)
    | _ :: _, false => ([], .misuse (.unwantedValue s))

/-- Whether an argument is no operand and no value, because it starts with a dash. A dash alone is
an operand. -/
def isDashed (argument : String) : Bool := argument.startsWith "-" && argument != "-"

/-- The items of an argument. -/
def readArgument (known : List Switch) (argument : String) : List Item × Next :=
  match argument.toList with
  | '-' :: '-' :: text => readLong known text
  | '-' :: c :: rest => readLetters known (c :: rest)
  | _ => ([.operand argument], .argument)

/-- Read arguments up to the name of a command. -/
def readItems (known : List Switch) (commands : List String) : List String → Items
  | [] => ⟨[], .complete⟩
  | argument :: rest =>
    if commands.contains argument then ⟨[], .command argument rest⟩
    else if argument == "--" then ⟨rest.map .operand, .complete⟩
    else match readArgument known argument, rest with
      | (items, .argument), rest => (readItems known commands rest).after items
      | (items, .misuse m), _ => ⟨items, .misuse m⟩
      | (items, .valueOf s), [] => ⟨items, .misuse (.missingValue s)⟩
      | (items, .valueOf s), value :: rest =>
        if isDashed value then ⟨items, .misuse (.missingValue s)⟩
        else (readItems known commands rest).after (items ++ [.switch s value])

end Layering.Cli
