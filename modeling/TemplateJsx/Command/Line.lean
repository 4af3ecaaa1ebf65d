import TemplateJsx.Component.Module
import TemplateJsx.Text.Quoted

/-
  This file defines how a command line is read. Flags may
  stand anywhere, also before the command they belong to, and
  two dashes end them.

  Key definitions include:
    * `Command.Verb`
    * `Command.Flag`
    * `Command.Settings`
    * `Command.UsageError`
    * `Command.words`
    * `Command.readFlags`
    * `Command.Request`
    * `Command.parse`
-/

------------------------------------------------------------
-- Commands and Flags
------------------------------------------------------------

namespace TemplateJsx

namespace Command

open Component (compilerName)

/- The commands. -/
inductive Verb where
  | transform
  | compile
  | version
  deriving DecidableEq, Repr

namespace Verb

/- The name of a command. -/
def name : Verb → String
  | .transform => "transform"
  | .compile => "compile"
  | .version => "version"

/- The command of a name. -/
def ofName? (name : String) : Option Verb :=
  [Verb.transform, .compile, .version].find?
    (fun verb => verb.name == name)

end Verb

/- The flags. -/
inductive Flag where
  | config
  | verbose
  | out
  | help
  deriving DecidableEq, Repr

namespace Flag

/- The name of a flag after two dashes. -/
def name : Flag → String
  | .config => "config"
  | .verbose => "verbose"
  | .out => "out"
  | .help => "help"

/- The letter of a flag after one dash. -/
def letter : Flag → Char
  | .config => 'c'
  | .verbose => 'v'
  | .out => 'o'
  | .help => 'h'

/- Flags that need no value. -/
def IsSwitch : Flag → Prop
  | .config => False
  | .verbose => True
  | .out => False
  | .help => True

instance : (flag : Flag) → Decidable flag.IsSwitch
  | .config => .isFalse id
  | .verbose => .isTrue trivial
  | .out => .isFalse id
  | .help => .isTrue trivial

end Flag

/- The flags of a command, or those that need no command. -/
def flagsOf : Option Verb → List Flag
  | some .compile => [.config, .verbose, .out]
  | _ => [.config, .verbose]

/- The values of the flags. -/
structure Settings where
  config : String
  verbose : Bool
  out : String
  help : Bool
  deriving DecidableEq, Repr

/- The values of flags that are not given. -/
def Settings.default : Settings :=
  ⟨"", false, "", false⟩

------------------------------------------------------------
-- Errors
------------------------------------------------------------

/- What can be wrong with a command line. -/
inductive UsageError where
  | unknownCommand (name : String) (owner : String)
  | tooManyArguments (count : Nat)
  | malformedFlag (argument : String)
  | unknownFlag (name : String)
  | unknownLetter (letter : Char) (letters : String)
  | missingValue (name : String)
  | missingLetterValue (letter : Char) (letters : String)
  | notBoolean (value : String) (flag : Flag)
  deriving DecidableEq, Repr

/- The wording of an error. -/
def UsageError.message : UsageError → String
  | .unknownCommand name owner =>
      "unknown command " ++ Text.quoted name ++ " for "
        ++ Text.quoted owner
  | .tooManyArguments count =>
      "accepts at most 1 arg(s), received " ++ count.repr
  | .malformedFlag argument => "bad flag syntax: " ++ argument
  | .unknownFlag name => "unknown flag: --" ++ name
  | .unknownLetter letter letters =>
      "unknown shorthand flag: " ++ Text.quotedChar letter
        ++ " in -" ++ letters
  | .missingValue name => "flag needs an argument: --" ++ name
  | .missingLetterValue letter letters =>
      "flag needs an argument: " ++ Text.quotedChar letter
        ++ " in -" ++ letters
  | .notBoolean value flag =>
      let shown :=
        "-" ++ flag.letter.toString ++ ", --" ++ flag.name
      "invalid argument " ++ Text.quoted value ++ " for "
        ++ Text.quoted shown
        ++ " flag: strconv.ParseBool: parsing "
        ++ Text.quoted value ++ ": invalid syntax"

------------------------------------------------------------
-- Finding the Command
------------------------------------------------------------

/- Whether an argument starts with a dash. -/
def isDashed (argument : String) : Bool :=
  argument.toList.head? == some '-'

/-
  Whether an argument is a flag whose value is the argument
  after it. Flags that are not known count as such.
-/
def takesNext
    (flags : List Flag)
    (argument : String) : Bool :=
  match argument.toList with
  | '-' :: '-' :: name =>
      '=' ∉ name
        && !(flags.any fun flag =>
          decide flag.IsSwitch && flag.name.toList == name)
  | ['-', letter] =>
      letter != '=' && letter.utf8Size == 1
        && !(flags.any fun flag =>
          decide flag.IsSwitch && flag.letter == letter)
  | _ => false

/-
  The arguments that are neither flags nor their values. A
  flag that wants a value ends them if fewer than two
  arguments follow it.
-/
def words
    (flags : List Flag) : List String → List String
  | [] => []
  | argument :: rest =>
      if argument = "--" then
        []
      else if takesNext flags argument then
        match rest with
        | _ :: next :: more => words flags (next :: more)
        | _ => []
      else if argument ≠ "" ∧ isDashed argument = false then
        argument :: words flags rest
      else
        words flags rest

/- The arguments without the first that is the given word. -/
def eraseWord
    (flags : List Flag)
    (word : String) : List String → List String
  | [] => []
  | argument :: rest =>
      if argument = "--" then
        argument :: rest
      else if takesNext flags argument then
        match rest with
        | [] => [argument]
        | value :: more =>
            argument :: value :: eraseWord flags word more
      else if argument = word ∧ isDashed argument = false then
        rest
      else
        argument :: eraseWord flags word rest

/- The command of a command line and what else stands there. -/
def findVerb
    (arguments : List String) :
    Except UsageError (Option Verb × List String) :=
  match words (flagsOf none) arguments with
  | [] => .ok (none, arguments)
  | word :: _ =>
      match Verb.ofName? word with
      | some verb =>
          .ok (some verb, eraseWord (flagsOf none) word arguments)
      | none => .error (.unknownCommand word compilerName)

------------------------------------------------------------
-- Values of Flags
------------------------------------------------------------

/- The truth value that a text spells. -/
def booleanOf? (text : String) : Option Bool :=
  if text ∈ ["1", "t", "T", "TRUE", "true", "True"] then
    some true
  else if text ∈ ["0", "f", "F", "FALSE", "false", "False"] then
    some false
  else
    none

/- Set a switch to the truth value that a text spells. -/
def setSwitch
    (flag : Flag)
    (text : String)
    (update : Bool → Settings) : Except UsageError Settings :=
  match booleanOf? text with
  | some value => .ok (update value)
  | none => .error (.notBoolean text flag)

/- Set a flag. -/
def setFlag
    (s : Settings)
    (flag : Flag)
    (text : String) : Except UsageError Settings :=
  match flag with
  | .config => .ok { s with config := text }
  | .out => .ok { s with out := text }
  | .verbose =>
      setSwitch flag text (fun value => { s with verbose := value })
  | .help =>
      setSwitch flag text (fun value => { s with help := value })

/- The first byte of a character, as a character. -/
def firstByte (c : Char) : Char :=
  match String.utf8EncodeChar c with
  | [] => c
  | byte :: _ => Char.ofNat byte.toNat

/-
  Set the flags of letters that stand together. The last may
  want a value that has yet to be taken.
-/
def readLetters
    (flags : List Flag)
    (s : Settings) :
    List Char →
      Except UsageError (Settings × Option (Flag × List Char))
  | [] => .ok (s, none)
  | letter :: rest =>
      match flags.find? (fun flag => flag.letter == letter) with
      | none =>
          .error (.unknownLetter (firstByte letter)
            (String.ofList (letter :: rest)))
      | some flag =>
          match rest with
          | '=' :: c :: value => do
              let s ← setFlag s flag (String.ofList (c :: value))
              return (s, none)
          | _ =>
              if flag.IsSwitch then do
                let s ← setFlag s flag "true"
                readLetters flags s rest
              else
                match rest with
                | [] => .ok (s, some (flag, [letter]))
                | _ => do
                    let s ← setFlag s flag (String.ofList rest)
                    return (s, none)

/-
  Set a flag by its name, which may be followed by its value.
  It may want a value that has yet to be taken.
-/
def readName
    (flags : List Flag)
    (s : Settings)
    (text : List Char) :
    Except UsageError (Settings × Option Flag) :=
  let name := String.ofList (text.takeWhile (· != '='))
  match text.head? with
  | none => .error (.malformedFlag (String.ofList ('-' :: '-' :: text)))
  | some c =>
      if c = '-' ∨ c = '=' then
        .error (.malformedFlag (String.ofList ('-' :: '-' :: text)))
      else
        match flags.find? (fun flag => flag.name == name) with
        | none => .error (.unknownFlag name)
        | some flag =>
            match text.dropWhile (· != '=') with
            | _ :: value => do
                let s ← setFlag s flag (String.ofList value)
                return (s, none)
            | [] =>
                if flag.IsSwitch then do
                  let s ← setFlag s flag "true"
                  return (s, none)
                else
                  .ok (s, some flag)

/- Letters that are passed over. -/
def isPassedOver (letters : List Char) : Bool :=
  "test.".toList.isPrefixOf letters

/-
  Set the flags among arguments. The other arguments are
  returned in order.
-/
def readFlags
    (flags : List Flag)
    (s : Settings) :
    List String → Except UsageError (Settings × List String)
  | [] => .ok (s, [])
  | argument :: rest =>
      match argument.toList with
      | ['-', '-'] => .ok (s, rest)
      | '-' :: '-' :: text => do
          match ← readName flags s text with
          | (s, none) => readFlags flags s rest
          | (s, some flag) =>
              match rest with
              | [] => throw (.missingValue flag.name)
              | value :: more =>
                  let s ← setFlag s flag value
                  readFlags flags s more
      | '-' :: letter :: letters =>
          if isPassedOver (letter :: letters) then
            readFlags flags s rest
          else do
            match ← readLetters flags s (letter :: letters) with
            | (s, none) => readFlags flags s rest
            | (s, some (flag, last)) =>
                match rest with
                | [] =>
                    throw (.missingLetterValue flag.letter
                      (String.ofList last))
                | value :: more =>
                    let s ← setFlag s flag value
                    readFlags flags s more
      | _ => do
          let (s, others) ← readFlags flags s rest
          return (s, argument :: others)

------------------------------------------------------------
-- Requests
------------------------------------------------------------

/- What a command line asks for. -/
inductive Request where
  | help
  | transform (path : String)
  | compile (root : String)
  | version
  deriving DecidableEq, Repr

/- The one argument of a command, or what stands for none. -/
def oneArgument
    (fallback : String) : List String → Except UsageError String
  | [] => .ok fallback
  | [argument] => .ok argument
  | arguments => .error (.tooManyArguments arguments.length)

/- What a command asks for with its arguments. -/
def request
    (verb : Verb)
    (arguments : List String) : Except UsageError Request :=
  match verb with
  | .transform => (oneArgument "-" arguments).map .transform
  | .compile => (oneArgument "." arguments).map .compile
  | .version =>
      match arguments with
      | [] => .ok .version
      | word :: _ =>
          .error (.unknownCommand word
            (compilerName ++ " " ++ verb.name))

/- What a command line asks for, and the values of its flags. -/
def parse
    (arguments : List String) :
    Except UsageError (Settings × Request) := do
  let (verb?, rest) ← findVerb arguments
  let (s, others) ←
    readFlags (flagsOf verb? ++ [.help]) .default rest
  match verb? with
  | none => return (s, .help)
  | some verb =>
      if s.help then
        return (s, .help)
      else
        let asked ← request verb others
        return (s, asked)

end Command

end TemplateJsx
