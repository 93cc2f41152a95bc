import ServiceManifest.Text.Resemblance

/-!
# Options on the command line

An option is written with two dashes and takes a value, as the next word or behind an equals sign,
or stands for a switch; single dashes take letters that stand for switches. Words that are no
options are left over, and everything behind a lone `--` is. Where the first word left over names a
command, options behind it belong to that command.
-/

namespace ServiceManifest.Command

/-- What options set. -/
inductive Field
  | root
  | src
  | out
  | verify
  | verbose
  | incremental
  | marker
  | logLevel
  | logJson
  | help
  | version
  deriving DecidableEq, Repr

/-- What an option does: it takes a value for a field, or switches a field on or off. -/
inductive OptionKind
  | text (field : Field)
  | switch (field : Field) (value : Bool)
  deriving DecidableEq, Repr

/-- The options of a command by their names with dashes. -/
abbrev OptionTable := List (String × OptionKind)

/-- What an option on the command line sets. -/
inductive Setting
  | text (field : Field) (value : String)
  | switch (field : Field) (value : Bool)
  deriving DecidableEq, Repr

/-- Why a command line makes no sense. -/
inductive UsageFault
  | noSuchOption (name : String) (similar : List String)
  | needsArgument (name : String)
  | takesNoValue (name : String)
  | extraArguments (words : List String)
  | noSuchCommand (name : String) (similar : List String)
  | noCommand
  deriving DecidableEq, Repr

/-- A command line taken apart: what its options set, and the words left over. -/
structure Parsed where
  settings : List Setting
  rest : List String
  deriving DecidableEq, Repr

/-- The option of a name. -/
def option? (table : OptionTable) (name : String) : Option OptionKind :=
  (table.find? fun entry => entry.1 = name).map (·.2)

/-- Whether a word begins with two dashes. -/
def isLong (word : String) : Bool := "--".toList.isPrefixOf word.toList

/-- The names of the options that are written with two dashes. -/
def longNames (table : OptionTable) : List String := (table.map (·.1)).filter isLong

/-- Whether a word is written like an option: a dash and more. -/
def isOptionWord (word : String) : Bool := word.toList.head? = some '-' && 1 < word.length

/-- The name of a long option and the value behind its equals sign. -/
def splitValue (word : String) : String × Option String :=
  let (name, rest) := word.toList.span (· ≠ '=')
  match rest with
  | [] => (word, none)
  | _ :: value => (String.ofList name, some (String.ofList value))

/-- The switches that letters behind a single dash stand for. -/
def shortSettings (table : OptionTable) : List Char → Except UsageFault (List Setting)
  | [] => .ok []
  | letter :: rest =>
    let name := String.ofList ['-', letter]
    match option? table name with
    | some (.switch field value) => (shortSettings table rest).map (.switch field value :: ·)
    | _ => .error (.noSuchOption name [])

/-- Put settings in front. -/
def Parsed.prepend (settings : List Setting) (parsed : Parsed) : Parsed :=
  ⟨settings ++ parsed.settings, parsed.rest⟩

/-- Take a command line apart. Unless words may be mixed with options, the first word that is no
option ends the options. -/
def parseOptions (table : OptionTable) (mixed : Bool) : List String → Except UsageFault Parsed
  | [] => .ok ⟨[], []⟩
  | word :: rest =>
    if word = "--" then .ok ⟨[], rest⟩
    else if !isOptionWord word then
      if mixed then
        (parseOptions table mixed rest).map fun parsed => ⟨parsed.settings, word :: parsed.rest⟩
      else .ok ⟨[], word :: rest⟩
    else if !isLong word then
      match shortSettings table (word.toList.drop 1) with
      | .error fault => .error fault
      | .ok settings => (parseOptions table mixed rest).map (.prepend settings)
    else
      let (name, value) := splitValue word
      match option? table name, value, rest with
      | none, _, _ => .error (.noSuchOption name (Text.resembling name (longNames table)))
      | some (.switch _ _), some _, _ => .error (.takesNoValue name)
      | some (.switch field on), none, rest =>
        (parseOptions table mixed rest).map (.prepend [.switch field on])
      | some (.text field), some value, rest =>
        (parseOptions table mixed rest).map (.prepend [.text field value])
      | some (.text _), none, [] => .error (.needsArgument name)
      | some (.text field), none, value :: rest =>
        (parseOptions table mixed rest).map (.prepend [.text field value])

/-- The values that were given for a field, in order. -/
def textsFor (field : Field) (settings : List Setting) : List String :=
  settings.filterMap fun
    | .text other value => if other = field then some value else none
    | .switch _ _ => none

/-- The value that was given for a field last. -/
def textFor? (field : Field) (settings : List Setting) : Option String :=
  (textsFor field settings).getLast?

/-- How a field was switched last. -/
def switchFor? (field : Field) (settings : List Setting) : Option Bool :=
  (settings.filterMap fun
    | .switch other value => if other = field then some value else none
    | .text _ _ => none).getLast?

/-- Whether a field was switched on. -/
def isOn (field : Field) (settings : List Setting) : Bool := (switchFor? field settings).getD false

/-- The first switch that asks for a text about the program instead of an action. -/
def inquiry? (settings : List Setting) : Option Field :=
  settings.findSome? fun
    | .switch .help _ => some .help
    | .switch .version _ => some .version
    | _ => none

/-- A hint at names that may have been meant. -/
def suggestion (similar : List String) : String :=
  let quoted := similar.map fun name => "\x27" ++ name ++ "\x27"
  match quoted with
  | [] => ""
  | [name] => " Did you mean " ++ name ++ "?"
  | names => " (Did you mean one of: " ++ ", ".intercalate names ++ "?)"

/-- The wording of a fault. -/
def UsageFault.message : UsageFault → String
  | .noSuchOption name similar => "No such option \x27" ++ name ++ "\x27." ++ suggestion similar
  | .needsArgument name => "Option \x27" ++ name ++ "\x27 requires an argument."
  | .takesNoValue name => "Option \x27" ++ name ++ "\x27 does not take a value."
  | .extraArguments words =>
    (if words.length = 1 then "Got unexpected extra argument ("
      else "Got unexpected extra arguments (") ++ " ".intercalate words ++ ")"
  | .noSuchCommand name similar => "No such command \x27" ++ name ++ "\x27." ++ suggestion similar
  | .noCommand => "Missing command."

/-- Whether the report of a fault begins with the usage: faults about the value of one option do not
need it. -/
def UsageFault.showsUsage : UsageFault → Bool
  | .needsArgument _ | .takesNoValue _ => false
  | _ => true

/-- The report of a fault behind the usage of the command. -/
def UsageFault.report (usage : String) (fault : UsageFault) : String :=
  (if fault.showsUsage then usage ++ "\n" else "") ++ "Error: " ++ fault.message ++ "\n"

end ServiceManifest.Command
