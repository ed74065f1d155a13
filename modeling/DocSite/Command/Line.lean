/-
# DocSite.Command.Line -- command lines

A command line has options for the program, the name of a command, and options for that. Options have
a long and a short name; short ones can be put together. The value of an option is the next word, or
stands in the same word, after an equals sign or right after a short name. No option is given twice,
and no value is empty. Asking for help or for the version is answered at once.
-/
import DocSite.Path

set_option autoImplicit false

namespace DocSite.Command

open Text

/-- What the program can be told to do. -/
inductive Task where
  | init (overwrite : Bool)
  | build (output : Option Path)
  | watch (output : Option Path)
deriving DecidableEq, Repr

/-- A command line that can be followed. -/
structure Line where
  config : Path
  verbose : Bool
  task : Task
deriving DecidableEq, Repr

/-- Why a command line is not followed: it asks for help or the version, or it is misused. -/
inductive Refusal where
  | answered
  | misused
deriving DecidableEq, Repr

/-- An option. -/
structure Switch where
  long : Text
  short : Char
  hasValue : Bool

namespace Line

/-! ## Options -/

/-- The option that asks for help. -/
def help : Switch := ⟨"help".toList, 'h', false⟩

/-- The option that asks for the version. -/
def version : Switch := ⟨"version".toList, 'V', false⟩

/-- The options of the program. -/
def switches : List Switch :=
  [⟨"config".toList, 'c', true⟩, ⟨"verbose".toList, 'v', false⟩, help, version]

/-- The options of a command. -/
def switchesOf (command : Text) : List Switch :=
  if command = "init".toList then [⟨"yes".toList, 'y', false⟩, help]
  else [⟨"output".toList, 'o', true⟩, help]

/-- The commands that have options. -/
def commands : List Text := ["init".toList, "build".toList, "watch".toList]

/-- What has been read: the options with their values, and the option that was read last, if it has a
value and that was not looked at yet. -/
structure State where
  given : List (Text × Text)
  awaited : Option (Text × Option Text)

namespace State

/-- Nothing has been read. -/
def start : State := ⟨[], none⟩

/-- Whether the next word is the value of an option. -/
def isWaiting (s : State) : Bool :=
  match s.awaited with
  | some (_, none) => true
  | _ => false

/-- Keeps an option that was not given before. -/
def keep (name value : Text) (s : State) : Except Refusal State :=
  if (s.given.lookup name).isSome then .error .misused
  else .ok { s with given := (name, value) :: s.given }

/-- Looks at the value of the option that was read last. -/
def settle (s : State) : Except Refusal State :=
  match s.awaited with
  | none => .ok s
  | some (_, none) => .error .misused
  | some (name, some value) =>
    if value.isEmpty then .error .misused else keep name value { s with awaited := none }

/-- Takes an option in, with its value if that stands in the same word. -/
def take (switch : Switch) (value : Option Text) (s : State) : Except Refusal State :=
  s.settle.bind fun s =>
    match switch.hasValue, value with
    | true, none => .ok { s with awaited := some (switch.long, none) }
    | true, some value => settle { s with awaited := some (switch.long, some value) }
    | false, some _ => .error .misused
    | false, none =>
      if switch.long = help.long || switch.long = version.long then .error .answered
      else keep switch.long [] s

end State

/-- Reads a word that gives an option by its long name. -/
def readLong (known : List Switch) (word : Text) (s : State) : Except Refusal State :=
  let name := word.takeWhile (· != '=')
  let value : Option Text := match word.drop name.length with
    | _ :: value => some value
    | [] => none
  match known.find? fun switch => switch.long = name with
  | none => .error .misused
  | some switch => s.take switch value

/-- Reads options given by their short names. -/
def readShort (known : List Switch) : (names : Text) → State → Except Refusal State
  | [], s => .ok s
  | name :: rest, s =>
    match known.find? fun switch => switch.short = name with
    | none => .error .misused
    | some switch =>
      if switch.hasValue && !rest.isEmpty then
        s.take switch (some ((dropPhrase? ['='] rest).getD rest))
      else (s.take switch none).bind (readShort known rest)

/-- Reads words up to the name of a command, which is given with the words after it. After two dashes
alone, nothing may follow. -/
def read (known : List Switch) (commands : List Text) :
    (words : List Text) → State → Except Refusal (State × Option (Text × List Text))
  | [], s => .ok (s, none)
  | word :: rest, s =>
    if !s.isWaiting && commands.contains word then .ok (s, some (word, rest))
    else match word with
      | ['-', '-'] => if rest.isEmpty && !s.isWaiting then .ok (s, none) else .error .misused
      | '-' :: '-' :: long => (readLong known long s).bind (read known commands rest)
      | '-' :: name :: names => (readShort known (name :: names) s).bind (read known commands rest)
      | _ =>
        match s.awaited with
        | some (name, none) => read known commands rest { s with awaited := some (name, some word) }
        | _ => .error .misused

/-! ## Commands -/

/-- The name of the command that shows help. -/
def helpCommand : Text := "help".toList

/-- Reads the options of a command. -/
def taskOf (command : Text) (words : List Text) : Except Refusal Task := do
  let (s, _) ← read (switchesOf command) [] words .start
  let s ← s.settle
  let output := (s.given.lookup "output".toList).map Path.mk
  if command = "init".toList then return .init (s.given.lookup "yes".toList).isSome
  else if command = "build".toList then return .build output
  else return .watch output

/-- Whether help can be shown for words: for the program, or for one command. -/
def hasHelp : (words : List Text) → Bool
  | [] => true
  | [command] => (helpCommand :: commands).contains command
  | _ => false

/-- Reads a command line. -/
def ofWords (words : List Text) : Except Refusal Line := do
  let (s, command) ← read switches (helpCommand :: commands) words .start
  match command with
  | none => .error .misused
  | some (command, rest) =>
    if command = helpCommand then .error (if hasHelp rest then .answered else .misused)
    else
      let task ← taskOf command rest
      let s ← s.settle
      return ⟨⟨(s.given.lookup "config".toList).getD "lectern.toml".toList⟩,
        (s.given.lookup "verbose".toList).isSome, task⟩

end Line

end DocSite.Command
