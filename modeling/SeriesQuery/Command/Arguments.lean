import SeriesQuery.Text.Split

set_option autoImplicit false

/-!
# Command-line arguments

The arguments name at most one command and give values to options, before or after the command; a
value given after it wins. Options have a long name and a letter, and a value stands in the same
argument or in the next one. Asking for help or for the version ends the reading with that request,
unless something before it was wrong.
-/

namespace SeriesQuery.Command

open SeriesQuery.Text

inductive Action where
  | start
  | checkSettings
  deriving DecidableEq, Repr

namespace Action

def name : Action → String
  | .start => "start"
  | .checkSettings => "check-config"

def all : List Action := [.start, .checkSettings]

def ofName? (name : String) : Option Action :=
  all.find? fun action => action.name == name

end Action

inductive Flag where
  | settings
  | listen
  /-- The file with the contents of the store. -/
  | fixture
  deriving DecidableEq, Repr

namespace Flag

def name : Flag → String
  | .settings => "config"
  | .listen => "listen"
  | .fixture => "fixture"

def letter : Flag → Char
  | .settings => 'c'
  | .listen => 'l'
  | .fixture => 'f'

def all : List Flag := [.settings, .listen, .fixture]

def ofName? (name : String) : Option Flag :=
  all.find? fun flag => flag.name == name

def ofLetter? (letter : Char) : Option Flag :=
  all.find? fun flag => flag.letter == letter

/-- Whether an option takes a value. Files have names that are not empty. -/
def takes (flag : Flag) (value : String) : Bool :=
  flag == .listen || value != ""

end Flag

inductive Topic where
  | program
  | action (action : Action)
  | help
  deriving DecidableEq, Repr

inductive Misuse where
  | unknownArgument (argument : String)
  | unknownCommand (name : String)
  | valueMissing (flag : Flag)
  | valueEmpty (flag : Flag)
  | valueUnwanted (name value : String)
  | givenTwice (flag : Flag)
  deriving DecidableEq, Repr

/-- Why arguments are not read to their end. -/
inductive Stop where
  | help (topic : Topic)
  | version
  | misuse (misuse : Misuse)
  deriving DecidableEq, Repr

abbrev Values := List (Flag × String)

/-- An option that was read last and whose value is not yet looked at. -/
inductive Pending where
  | none
  | awaiting (flag : Flag)
  /-- The value has come in an argument of its own. -/
  | holding (flag : Flag) (value : String)
  deriving DecidableEq, Repr

/-- What is read on one side of the command. -/
structure Side where
  values : Values
  pending : Pending
  deriving DecidableEq, Repr

namespace Side

def empty : Side := ⟨[], .none⟩

/-- Gives a value to an option, which takes it at most once. -/
def give (side : Side) (flag : Flag) (value : String) : Except Misuse Side :=
  if !flag.takes value then .error (.valueEmpty flag)
  else if (side.values.lookup flag).isSome then .error (.givenTwice flag)
  else .ok ⟨(flag, value) :: side.values, .none⟩

/-- Looks at the value of the option that was read last. -/
def settle (side : Side) : Except Misuse Side :=
  match side.pending with
  | .none => .ok side
  | .awaiting flag => .error (.valueMissing flag)
  | .holding flag value => side.give flag value

/-- Reads an option with the value that stands in the same argument, if there is one. -/
def option (side : Side) (flag : Flag) (value : Option (List Char)) : Except Misuse Side := do
  let side ← side.settle
  match value with
  | some value => side.give flag (String.ofList value)
  | none => return { side with pending := .awaiting flag }

end Side

/-- Which side of the command is read. The version can only be asked for before it, as can help on
other commands. -/
inductive Place where
  | before
  | after (action : Action)
  deriving DecidableEq, Repr

/-- What is wrong with a word that has no place: before the command it can only be one. -/
def Place.misuse : Place → String → Misuse
  | .before, word => .unknownCommand word
  | .after _, word => .unknownArgument word

/-- What help asked for at a place is about. -/
def Place.topic : Place → Topic
  | .before => .program
  | .after action => .action action

/-- Ends the reading with a request, if all before it was right. -/
def Side.stop (side : Side) (request : Stop) : Except Stop Side :=
  match side.settle with
  | .ok _ => .error request
  | .error misuse => .error (.misuse misuse)

def Side.read (side : Side) (flag : Flag) (value : Option (List Char)) : Except Stop Side :=
  (side.option flag value).mapError Stop.misuse

/-- Reads an argument that starts with two dashes, which are left out here. -/
def readName (place : Place) (side : Side) (text : List Char) : Except Stop Side :=
  let (name, value) := cut '=' text
  match Flag.ofName? (String.ofList name) with
  | some flag => side.read flag value
  | none =>
    let request? : Option Stop :=
      if name = "help".toList then some (.help place.topic)
      else if name = "version".toList ∧ place = .before then some .version
      else none
    match request?, value with
    | some request, none => side.stop request
    | some _, some value =>
      .error (.misuse (.valueUnwanted (String.ofList name) (String.ofList value)))
    | none, _ => .error (.misuse (.unknownArgument ("--" ++ String.ofList name)))

/-- Reads an argument that starts with one dash, which is left out here. After the letter of an
option an equals sign may stand before the value. -/
def readLetter (place : Place) (side : Side) (letter : Char) (rest : List Char) :
    Except Stop Side :=
  match Flag.ofLetter? letter with
  | some flag =>
    side.read flag (match rest with
      | [] => none
      | '=' :: value => some value
      | value => some value)
  | none =>
    if letter = 'h' then side.stop (.help place.topic)
    else if letter = 'V' ∧ place = .before then side.stop .version
    else .error (.misuse (.unknownArgument (String.ofList ['-', letter])))

/-- Reads the topic that help is asked about by its command. -/
def readTopic : List String → Stop
  | [] => .help .program
  | name :: rest =>
    match (Action.ofName? name).map Topic.action, name == "help", rest with
    | some topic, _, [] => .help topic
    | some _, _, extra :: _ => .misuse (.unknownCommand extra)
    | none, true, [] => .help .help
    | none, true, extra :: _ => .misuse (.unknownCommand extra)
    | none, false, _ => .misuse (.unknownCommand name)

/-- Reads an argument that is no option: a value that is awaited, else a word that has no place. -/
def readWord (place : Place) (side : Side) (word : String) : Except Stop Side :=
  match side.pending with
  | .awaiting flag => .ok { side with pending := .holding flag word }
  | _ => .error (.misuse (place.misuse word))

/-- Reads what follows two dashes alone, after which no word has a place. -/
def readRest (place : Place) (side : Side) (rest : List String) : Except Stop Side :=
  match side.pending, rest with
  | .awaiting flag, _ => .error (.misuse (.valueMissing flag))
  | _, [] => .ok side
  | _, word :: _ => .error (.misuse (place.misuse word))

/-- Whether the value of an option is to come. -/
def Side.awaits (side : Side) : Bool :=
  match side.pending with
  | .awaiting _ => true
  | _ => false

/-- Reads arguments up to a command, or to their end. -/
def readSide (place : Place) (side : Side) :
    List String → Except Stop (Side × Option (Action × List String))
  | [] => .ok (side, none)
  | argument :: rest =>
    let command? : Option Action :=
      if place = .before ∧ !side.awaits then Action.ofName? argument else none
    match command? with
    | some action => .ok (side, some (action, rest))
    | none =>
      if place = .before ∧ !side.awaits ∧ argument = "help" then .error (readTopic rest)
      else
        match argument.toList with
        | ['-', '-'] => do return (← readRest place side rest, none)
        | '-' :: '-' :: text => do readSide place (← readName place side text) rest
        | '-' :: letter :: more => do readSide place (← readLetter place side letter more) rest
        | _ => do readSide place (← readWord place side argument) rest

structure Invocation where
  action : Action
  settings : Option String
  listen : Option String
  fixture : Option String
  deriving DecidableEq, Repr

/-- The invocation of a command with the values given to options, of which the first counts. -/
def Invocation.ofValues (action : Action) (values : Values) : Invocation where
  action
  settings := values.lookup .settings
  listen := values.lookup .listen
  fixture := values.lookup .fixture

/-- Reads arguments. Without a command the service is started. -/
def read (arguments : List String) : Except Stop Invocation := do
  let (before, rest) ← readSide .before .empty arguments
  match rest with
  | none =>
    let side ← before.settle.mapError Stop.misuse
    return .ofValues .start side.values
  | some (action, rest) =>
    let (after, _) ← readSide (.after action) .empty rest
    let after ← after.settle.mapError Stop.misuse
    let before ← before.settle.mapError Stop.misuse
    return .ofValues action (after.values ++ before.values)

end SeriesQuery.Command
