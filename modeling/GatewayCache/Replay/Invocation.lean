import GatewayCache.Snowflake
import GatewayCache.Text.Scan

/-!
The command line: one file of events, and options for the settings file and for a guild to
summarise. It is read from left to right, and the first word that decides the matter ends it.
-/
namespace GatewayCache.Replay

/-- What the command line asks for. -/
structure Invocation where
  events : String
  settings : String
  guild : Option Snowflake
deriving DecidableEq

/-- Why no replay starts. -/
inductive Stop where
  /-- The command line cannot be understood. -/
  | usage
  /-- The command line asks about the program itself. -/
  | information
  /-- The setting of the log cuts characters apart. -/
  | logSetting
deriving DecidableEq

/-- The exit code of a program that starts no replay. -/
def Stop.exitCode : Stop → UInt32
  | usage => 2
  | information => 0
  | logSetting => 101

/-- An option that takes a value. -/
inductive OptionKey where
  | settings
  | guild
deriving DecidableEq

/-- A word of the command line by its form. -/
inductive Word where
  | plain (text : String)
  /-- An option; its value may stand in the same word. -/
  | option (key : OptionKey) (value? : Option String)
  /-- All words after this one are plain. -/
  | terminator
  | information
  | unknown
deriving DecidableEq

namespace Word

/-- The word of a long option, from its name and the value behind the first equals sign. -/
def long (name : String) (value? : Option String) : Word :=
  if name = "config" then .option .settings value?
  else if name = "guild" then .option .guild value?
  else if (name = "help" || name = "version") && value?.isNone then .information
  else .unknown

/-- The value in the word of a short option; an equals sign may stand in front of it. -/
def attached : List Char → Option String
  | [] => none
  | '=' :: value => some (String.ofList value)
  | value => some (String.ofList value)

/-- The word of a short option, from its letter and what follows. -/
def short (letter : Char) (behind : List Char) : Word :=
  if letter = 'c' then .option .settings (attached behind)
  else if letter = 'g' then .option .guild (attached behind)
  else if letter = 'h' || letter = 'V' then .information
  else .unknown

/-- The form of a word. A lone hyphen is plain. -/
def ofText (text : String) : Word :=
  match text.toList with
  | ['-'] => .plain text
  | ['-', '-'] => .terminator
  | '-' :: '-' :: rest =>
    long (String.ofList (rest.takeWhile (· != '=')))
      ((rest.dropWhile (· != '=')).tail?.map String.ofList)
  | '-' :: letter :: behind => short letter behind
  | _ => .plain text

end Word

namespace Invocation

/-- The settings file, unless an option names another. -/
def standardSettings : String := "guildcache.toml"

/-- What is known of an invocation after some words. -/
structure Draft where
  events : Option String := none
  settings : Option String := none
  guild : Option Snowflake := none
deriving DecidableEq

/-- The id that decimal digits denote; a plus sign may stand in front. -/
def guildId? (text : String) : Option Snowflake :=
  let digits := match text.toList with
    | '+' :: digits => digits
    | digits => digits
  if !digits.isEmpty && digits.all Char.isDigit && Text.ofDigits digits < UInt64.size then
    some (.ofNat (Text.ofDigits digits))
  else none

namespace Draft

/-- Notes the file of events. There is one only. -/
def setEvents (d : Draft) (path : String) : Except Stop Draft :=
  if d.events.isNone && !path.isEmpty then .ok { d with events := path } else .error .usage

/-- Notes the value of an option. No option may occur twice. -/
def setOption (d : Draft) (key : OptionKey) (value : String) : Except Stop Draft :=
  match key with
  | .settings =>
    if d.settings.isNone && !value.isEmpty then .ok { d with settings := value }
    else .error .usage
  | .guild =>
    match d.guild, guildId? value with
    | none, some id => .ok { d with guild := id }
    | _, _ => .error .usage

/-- Reads on, word after word. The value of an option may be the next word, if that is plain. -/
def read (d : Draft) : List String → Except Stop Draft
  | [] => .ok d
  | word :: words =>
    match Word.ofText word with
    | .plain text => do (← d.setEvents text).read words
    | .option key (some value) => do (← d.setOption key value).read words
    | .option key none =>
      match words with
      | [] => .error .usage
      | value :: words =>
        match Word.ofText value with
        | .plain value => do (← d.setOption key value).read words
        | _ => .error .usage
    | .terminator => words.foldlM setEvents d
    | .information => .error .information
    | .unknown => .error .usage

/-- The invocation, if nothing is missing. -/
def finish (d : Draft) : Except Stop Invocation :=
  match d.events with
  | some events => .ok ⟨events, d.settings.getD standardSettings, d.guild⟩
  | none => .error .usage

end Draft

/-- Reads the words of a command line. -/
def ofWords (words : List String) : Except Stop Invocation := do
  ((← Draft.read {} words)).finish

end Invocation

end GatewayCache.Replay
