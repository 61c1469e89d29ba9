import ResumableWatch.CommandLine.Page
import ResumableWatch.Text.Quoted
import ResumableWatch.Text.Similar
/-!
# Requests

How the words of a command line are read.  The options of the group come before the name of the
command, those of a command may stand between other words, and two hyphens end the options.  All
options are recognised before any value is looked at; help is then given whatever the values are;
and the values are read in the order in which their options first occur, the last value of each.

`Request.read` gives what is asked for, or a mistake.

This module stands for the library `click`, as far as its parser is used.  It follows what that
documents.  A long option takes its value behind an equals sign or from the next word, a short one also
from the rest of its own.  A group takes no options behind the name of a command, and a command takes
them anywhere.  Eager options are answered before all others; the others are read in the order in
which the user gives them, and of an option that is given more than once the last value counts.  A
`Choice` that ignores case gives the choice and not the value, an `IntRange` takes both of its bounds,
and a mistake in the words is answered on standard error with the exit code 2.  What is laid over the
environment, `configure`, is the program's own.
-/

namespace ResumableWatch.CommandLine

open Text

/-! ### Mistakes -/

/-- What is wrong with a command line. -/
inductive Mistake where
  /-- There are no words at all. -/
  | nothingAsked
  | missingCommand
  /-- No command has that name; some have similar ones. -/
  | unknownCommand (name : String) (similar : List String)
  /-- No option has that name; some have similar ones. -/
  | unknownOption (name : String) (similar : List String)
  | missingValue (name : String)
  | unwantedValue (name : String)
  | extraWords (words : List String)
  | unknownChoice (name value : String) (choices : List String)
  | notWhole (name value : String)
  | outOfRange (name : String) (value : Int)
  /-- The environment gives no configuration. -/
  | setting (cause : Configuration.SettingError)
  /-- A kind without namespaces is not to be watched in one. -/
  | clusterScoped (kind : String)

/-- What is wrong, without the option that it is about. -/
def Mistake.cause : Mistake → String
  | nothingAsked => Page.group.help
  | missingCommand => "Missing command."
  | unknownCommand name _ => "No such command " ++ quoted name ++ "."
  | unknownOption name _ => "No such option " ++ quoted name ++ "."
  | missingValue name => "Option " ++ quoted name ++ " requires an argument."
  | unwantedValue name => "Option " ++ quoted name ++ " does not take a value."
  | extraWords words =>
    "Got unexpected extra argument" ++ (if words.length = 1 then "" else "s") ++ " ("
      ++ " ".intercalate words ++ ")"
  | unknownChoice _ value choices =>
    quoted value ++ " is not one of " ++ ", ".intercalate (choices.map quoted) ++ "."
  | notWhole _ value => quoted value ++ " is not a valid integer range."
  | outOfRange _ value => toString value ++ " is not in the range 1<=x<=3600."
  | setting cause => cause.message
  | clusterScoped kind => kind ++ " is cluster-scoped; drop --namespace"

/-- The option whose value is wrong. -/
def Mistake.option? : Mistake → Option String
  | unknownChoice name _ _ => some name
  | notWhole name _ => some name
  | outOfRange name _ => some name
  | _ => none

/-- The names that may have been meant. -/
def Mistake.similar : Mistake → List String
  | unknownCommand _ similar => similar
  | unknownOption _ similar => similar
  | _ => []

/-- What a message adds about the names that may have been meant. -/
def suggestion : List String → String
  | [] => ""
  | [name] => " Did you mean " ++ quoted name ++ "?"
  | names => " (Did you mean one of: " ++ ", ".intercalate (names.map quoted) ++ "?)"

/-- What a message says about the mistake. -/
def Mistake.message (m : Mistake) : String :=
  match m.option? with
  | some name => "Invalid value for '" ++ name ++ "': " ++ m.cause
  | none => m.cause ++ suggestion m.similar

/-- A mistake, and the page that shows how to avoid it. -/
structure Refusal where
  page : Page
  mistake : Mistake

/-! ### Words -/

/-- The options that were recognised, with their values, and the other words. -/
structure Words where
  given : List (Topic × String) := []
  others : List String := []

/-- One more option in front. -/
def Words.give (topic : Topic) (value : String) (w : Words) : Words :=
  { w with given := (topic, value) :: w.given }

/-- Whether an option stands alone. -/
def Topic.isAlone : Topic → Bool
  | .help => true
  | .version => true
  | _ => false

/-- The part of a word before the first equals sign, and the part behind it, if there is one. -/
def splitValue (word : List Char) : List Char × Option (List Char) :=
  let name := word.takeWhile (· != '=')
  match word.drop name.length with
  | [] => (name, none)
  | _ :: value => (name, some value)

/-- What a word with a hyphen is. -/
inductive Sign where
  /-- An option that stands alone. -/
  | alone (topic : Topic)
  /-- An option together with its value. -/
  | valued (topic : Topic) (value : String)
  /-- An option whose value is the next word. -/
  | open (topic : Topic) (name : String)

/-- What a word with one hyphen and letters is.  All letters take values, so the first one
decides. -/
def letterSign (page : Page) (letter : Char) (rest : List Char) : Except Mistake Sign :=
  match page.letters.lookup letter with
  | none => .error (.unknownOption (String.ofList ['-', letter]) [])
  | some topic =>
    if rest.isEmpty then .ok (.open topic (String.ofList ['-', letter]))
    else .ok (.valued topic (String.ofList rest))

/-- The mistake of a long name that a page does not have. -/
def unknownName (page : Page) (name : String) : Mistake :=
  .unknownOption name (similar name (page.longNames.map (·.1)))

/-- What a word that begins with a hyphen is. -/
def sign (page : Page) (word : List Char) : Except Mistake Sign :=
  let (name, value?) := splitValue word
  match page.longNames.lookup (String.ofList name), value? with
  | some topic, none =>
    if topic.isAlone then .ok (.alone topic) else .ok (.open topic (String.ofList name))
  | some topic, some value =>
    if topic.isAlone then .error (.unwantedValue (String.ofList name))
    else .ok (.valued topic (String.ofList value))
  | none, _ =>
    match word with
    | _ :: '-' :: _ => .error (unknownName page (String.ofList name))
    | _ :: letter :: rest => letterSign page letter rest
    | _ => .error (unknownName page (String.ofList name))

/-- Whether a word is to be read as an option. -/
def isSign (word : String) : Bool :=
  match word.toList with
  | '-' :: _ :: _ => true
  | _ => false

/-- Recognises the options among words.  For the group the first other word ends them. -/
def recognise (page : Page) : List String → Except Mistake Words
  | [] => .ok {}
  | word :: rest =>
    if word = "--" then .ok { others := rest }
    else if isSign word then
      match sign page word.toList with
      | .error mistake => .error mistake
      | .ok (.alone topic) => (recognise page rest).map (·.give topic "")
      | .ok (.valued topic value) => (recognise page rest).map (·.give topic value)
      | .ok (.open topic name) =>
        match rest with
        | [] => .error (.missingValue name)
        | value :: others => (recognise page others).map (·.give topic value)
    else if page = .group then .ok { others := word :: rest }
    else (recognise page rest).map fun w => { w with others := word :: w.others }

/-! ### Values -/

/-- The choice that a value names; case may be ignored. -/
def choose (name value : String) (choices : List String) (ignoreCase : Bool) :
    Except Mistake String :=
  let same (choice : String) : Bool :=
    if ignoreCase then fold choice == fold value else choice == value
  match choices.find? same with
  | some choice => .ok choice
  | none => .error (.unknownChoice name value choices)

/-- The number of seconds that a value writes. -/
def seconds (name value : String) : Except Mistake Int :=
  match Number.integer value with
  | .error _ => .error (.notWhole name value)
  | .ok n => if 1 ≤ n ∧ n ≤ 3600 then .ok n else .error (.outOfRange name n)

/-- Lays the value of an option over the others. -/
def put (topic : Topic) (value : String) (o : Overrides) : Except Mistake Overrides :=
  match topic with
  | .kind =>
    (choose "--kind" value Kind.names true).map fun kind => { o with kind := some kind }
  | .namespaceName => .ok { o with namespaceName := some value }
  | .labelSelector => .ok { o with labelSelector := some value }
  | .fieldSelector => .ok { o with fieldSelector := some value }
  | .timeout =>
    (seconds "--timeout" value).map fun n => { o with timeoutSeconds := some n }
  | .logLevel =>
    (choose "--log-level" value Configuration.logLevels true).map fun level =>
      { o with logLevel := some level }
  | .logFormat =>
    (choose "--log-format" value Configuration.logFormats false).map fun format =>
      { o with logFormat := some format }
  | .help => .ok o
  | .version => .ok o

/-- The last value that was given for an option. -/
def lastValue (given : List (Topic × String)) (topic : Topic) : String :=
  (given.reverse.lookup topic).getD ""

/-- The values of the options, read in the order in which these first occur. -/
def overrides (given : List (Topic × String)) : Except Mistake Overrides :=
  (given.map (·.1)).eraseDups.foldlM (fun o topic => put topic (lastValue given topic) o) {}

/-- The first option that is answered before any value is looked at. -/
def eager? (given : List (Topic × String)) : Option Topic :=
  (given.map (·.1)).find? Topic.isAlone

/-! ### Requests -/

/-- What a command line asks for. -/
inductive Request where
  | version
  | help (page : Page)
  | kinds
  | watch (configuration : Configuration)

/-- The configuration to watch with: that of the environment, with the options laid over it. -/
def configure (environment : Configuration.Environment) (o : Overrides) :
    Except Mistake Configuration :=
  match Configuration.load environment with
  | .error cause => .error (.setting cause)
  | .ok loaded =>
    let c := o.apply loaded
    let isNamespaced := ((Kind.find? c.watch.kind).map Kind.isNamespaced).getD false
    if c.watch.namespaceName.isEmpty || isNamespaced then .ok c
    else .error (.clusterScoped c.watch.kind)

/-- Answers the options that come before all values, or goes on. -/
def unlessEager (page : Page) (w : Words) (go : Except Mistake Request) : Except Mistake Request :=
  match eager? w.given with
  | some .version => .ok .version
  | some _ => .ok (.help page)
  | none => go

/-- Reads the words behind the name of a command. -/
def readCommand (page : Page) (environment : Configuration.Environment) (words : List String) :
    Except Mistake Request := do
  let w ← recognise page words
  unlessEager page w do
    let o ← overrides w.given
    if !w.others.isEmpty then .error (.extraWords w.others)
    else if page = .kinds then return .kinds
    else return .watch (← configure environment o)

/-- The commands by their names. -/
def commands : List (String × Page) := [("kinds", .kinds), ("watch", .watch)]

/-- Why there is no command of that name; a word that is read as an option of the group is answered
as one. -/
def withoutCommand (name : String) (rest : List String) : Except Mistake Request := do
  let w ← recognise .group (name :: rest)
  unlessEager .group w (.error (.unknownCommand name (similar name (commands.map (·.1)))))

/-- Attaches the page on which a mistake was made. -/
def onPage (page : Page) : Except Mistake Request → Except Refusal Request
  | .ok request => .ok request
  | .error mistake => .error ⟨page, mistake⟩

/-- Reads a command line. -/
def Request.read (environment : Configuration.Environment) (words : List String) :
    Except Refusal Request :=
  if words.isEmpty then .error ⟨.group, .nothingAsked⟩
  else
    match recognise .group words with
    | .error mistake => .error ⟨.group, mistake⟩
    | .ok w =>
      match eager? w.given, w.others with
      | some .version, _ => .ok .version
      | some _, _ => .ok (.help .group)
      | none, [] => .error ⟨.group, .missingCommand⟩
      | none, name :: rest =>
        match commands.lookup name with
        | some page => onPage page (readCommand page environment rest)
        | none => onPage .group (withoutCommand name rest)

/-! ### Output -/

/-- What a command line writes, and its exit code. -/
structure Output where
  exitCode : Nat := 0
  text : String := ""

/-- Whether a mistake is shown with its page. -/
def Mistake.hasPage : Mistake → Bool
  | missingValue _ => false
  | unwantedValue _ => false
  | _ => true

/-- How a refusal is shown. -/
def Refusal.output (r : Refusal) : Output where
  exitCode := 2
  text :=
    match r.mistake with
    | .nothingAsked => r.page.help
    | mistake =>
      (if mistake.hasPage then r.page.hint else "") ++ "Error: " ++ mistake.message ++ "\n"

/-- A line of the table of kinds. -/
def kindLine (k : Kind) : String :=
  k.name ++ "\t" ++ (if k.isNamespaced then "namespaced" else "cluster") ++ "\t" ++ k.api ++ "\n"

/-- What a request writes before anything is watched. -/
def Request.output : Request → Output
  | version => { text := "cli, version 0.3.0\n" }
  | help page => { text := page.help }
  | kinds => { text := String.join (Kind.all.map kindLine) }
  | watch _ => {}

end ResumableWatch.CommandLine
