import Outbox.CommandLine.Help
import Outbox.Decimal.Integer
import Outbox.Entity
import Outbox.Registry
import Outbox.Text.Blank
import Outbox.Text.ControlSequence
import Outbox.Text.Quoted
import Outbox.Time.Read

/-!
# Arguments of the command line

A command and its options.  Values are taken as they come and read when the next option or the next
run of identifiers begins, or at the end; an argument that nobody knows stops at once, and a value
that was still unread is then not looked at.
-/

namespace Outbox.CommandLine

open Outbox.Decimal Outbox.Time

/-- What the program is asked to do. -/
inductive Command
  | migrate
  | tick
  | serve
  | enqueue (ids : List EntityId) (tag : String) (delaySeconds : Int)
  | reindexDate (start stop : Timestamp)
  | index (ids : List EntityId)
  | status
  deriving DecidableEq

/-- Why no command comes of the arguments. -/
inductive Stop
  /-- Help was asked for. -/
  | help (page : HelpPage)
  /-- The arguments do not fit together. -/
  | misuse
  /-- A value was refused. -/
  | invalidValue (value argument reason : String)
  deriving DecidableEq

/-- What precedes the first line break of a text. -/
def firstLine (cs : List Char) : List Char :=
  let line := cs.takeWhile (· ≠ '\n')
  if line.length < cs.length && line.getLast? == some '\r' then line.dropLast else line

/-- A part of a message that a terminal shows in bold. -/
def emphasized (s : String) : String := "\x1b[1m" ++ s ++ "\x1b[0m"

/-- The line that tells about a refused value, without the sequences that a terminal takes for its
own, whether the message or the value brought them. -/
def Stop.message? : Stop → Option String
  | .help _ | .misuse => none
  | .invalidValue value argument reason =>
    let message := emphasized "error:" ++ " invalid value '" ++ emphasized value ++ "' for '" ++
      emphasized argument ++ "': " ++ reason
    some (String.ofList (firstLine (Text.strip message.toList)))

/-! ### Values -/

/-- The options that take a value. -/
inductive Flag
  | tag
  | delaySeconds
  | start
  | stop
  deriving DecidableEq

/-- The name of an option, after two hyphens. -/
def Flag.name : Flag → String
  | .tag => "tag"
  | .delaySeconds => "delay-secs"
  | .start => "start"
  | .stop => "end"

/-- How an option and its value are written. -/
def Flag.spelling (f : Flag) : String :=
  "--" ++ f.name ++
    match f with
    | .tag => " <TAG>"
    | .delaySeconds => " <DELAY_SECS>"
    | .start => " <START>"
    | .stop => " <END>"

/-- What an option means. -/
def Flag.meaning : Flag → String
  | .tag => "Task tag [default: " ++ syncEntityTag ++ "]"
  | .delaySeconds => "Delay before the tasks become claimable [default: 0]"
  | .start => "Range start (RFC 3339 or YYYY-MM-DD)"
  | .stop => "Range end, inclusive (RFC 3339 or YYYY-MM-DD)"

/-- Whether a command that takes an option cannot do without it. -/
def Flag.isRequired : Flag → Bool
  | .tag | .delaySeconds => false
  | .start | .stop => true

/-- How identifiers are written. -/
def idsSpelling : String := "<IDS>..."

/-- A date: a moment with its offset, or a day, which begins in UTC. -/
def readMoment (raw : String) : Except String Timestamp :=
  let trimmed := Text.trim raw.toList
  match readStrict trimmed with
  | .ok t => .ok t
  | .error _ =>
    match readDate trimmed with
    | .ok t => .ok t
    | .error _ =>
      .error ("invalid date " ++ Text.quoted (String.ofList trimmed) ++
        ", expected RFC 3339 or YYYY-MM-DD")

/-- What was read so far. -/
structure Values where
  ids : List EntityId
  tag : Option String
  delaySeconds : Option Int
  start : Option Timestamp
  stop : Option Timestamp
  deriving DecidableEq

namespace Values

/-- Nothing read yet. -/
def none : Values := ⟨[], .none, .none, .none, .none⟩

/-- Takes the value of an option that must not have one yet. -/
def takeOnce {α : Type} (f : Flag) (slot : Option α) (value : String)
    (read : Except String α) : Except Stop (Option α) :=
  if slot.isSome then .error .misuse
  else
    match read with
    | .ok a => .ok (some a)
    | .error reason => .error (.invalidValue value f.spelling reason)

/-- Reads the value of an option. -/
def set (v : Values) (f : Flag) (raw : String) : Except Stop Values :=
  match f with
  | .tag => do
    let tag ← takeOnce f v.tag raw (.ok raw)
    .ok { v with tag := tag }
  | .delaySeconds => do
    let read := (readInteger .signed64 raw.toList).mapError IntegerError.message
    let delay ← takeOnce f v.delaySeconds raw read
    .ok { v with delaySeconds := delay }
  | .start => do
    let start ← takeOnce f v.start raw (readMoment raw)
    .ok { v with start := start }
  | .stop => do
    let stop ← takeOnce f v.stop raw (readMoment raw)
    .ok { v with stop := stop }

/-- Reads identifiers in turn. -/
def addIds (v : Values) : List String → Except Stop Values
  | [] => .ok v
  | raw :: rest =>
    match Uuid.ofText raw with
    | .ok u => addIds { v with ids := v.ids ++ [⟨u⟩] } rest
    | .error e => .error (.invalidValue raw idsSpelling e.message)

end Values

/-! ### Walking over the arguments -/

/-- A command as it is called: what it is for, which options it takes, and whether identifiers. -/
structure Shape where
  name : String
  about : String
  flags : List Flag
  takesIds : Bool
  deriving DecidableEq

/-- The name of the program. -/
def programName : String := "searchsync"

/-- How a command is called: options that may be left out, those that may not, and identifiers. -/
def Shape.usage (s : Shape) : String :=
  programName ++ " " ++ s.name ++
    (if s.flags.all Flag.isRequired then "" else " [OPTIONS]") ++
    String.join ((s.flags.filter Flag.isRequired).map fun f => " " ++ f.spelling) ++
    (if s.takesIds then " " ++ idsSpelling else "")

/-- The help page of a command. -/
def Shape.page (s : Shape) : HelpPage where
  about := s.about
  usage := s.usage
  sections :=
    (if s.takesIds then [⟨"Arguments", [⟨idsSpelling, "Entity IDs (UUIDs)"⟩]⟩] else []) ++
      [⟨"Options", s.flags.map (fun f => ⟨"    " ++ f.spelling, f.meaning⟩) ++ [.help]⟩]

/-- Values that were taken and not read yet. -/
inductive Pending
  | nothing
  /-- An option that still lacks its value. -/
  | awaiting (f : Flag)
  | value (f : Flag) (raw : String)
  | ids (raws : List String)
  deriving DecidableEq

/-- Reads what is pending. -/
def Values.settle (v : Values) : Pending → Except Stop Values
  | .nothing => .ok v
  | .awaiting _ => .error .misuse
  | .value f raw => v.set f raw
  | .ids raws => v.addIds raws

/-- An argument as it looks before anyone knows the options. -/
inductive Form
  | escape
  | long (name : List Char) (value : Option (List Char))
  | short (letter : Char)
  | plain
  deriving DecidableEq

/-- The form of an argument; a single hyphen is plain. -/
def Form.of : List Char → Form
  | ['-', '-'] => .escape
  | '-' :: '-' :: cs =>
    let name := cs.takeWhile (· ≠ '=')
    .long name (if name.length < cs.length then some (cs.drop (name.length + 1)) else .none)
  | '-' :: c :: _ => .short c
  | _ => .plain

/-- Takes an argument as an identifier. -/
def takeId (shape : Shape) (raw : String) (v : Values) (p : Pending) :
    Except Stop (Values × Pending) :=
  if !shape.takesIds then .error .misuse
  else
    match p with
    | .ids raws => .ok (v, .ids (raws ++ [raw]))
    | p => (v.settle p).map fun v => (v, .ids [raw])

/-- Takes an option; help stops, once what is pending was read. -/
def takeLong (shape : Shape) (name : List Char) (value : Option (List Char)) (v : Values)
    (p : Pending) : Except Stop (Values × Pending) :=
  match shape.flags.find? fun f => f.name.toList = name, value with
  | some f, some raw => do
    let v ← v.settle p
    let v ← v.set f (String.ofList raw)
    .ok (v, .nothing)
  | some f, .none => (v.settle p).map fun v => (v, .awaiting f)
  | .none, .none =>
    if name = ['h', 'e', 'l', 'p'] then do
      let _ ← v.settle p
      .error (.help shape.page)
    else .error .misuse
  | .none, some _ => .error .misuse

/-- Takes arguments in turn; `trailing` says that two hyphens stood alone before. -/
def walk (shape : Shape) : Bool → List String → Values → Pending → Except Stop Values
  | _, [], v, p => v.settle p
  | true, raw :: rest, v, p => do
    let (v, p) ← takeId shape raw v p
    walk shape true rest v p
  | false, raw :: rest, v, p =>
    match Form.of raw.toList with
    | .escape => walk shape true rest v p
    | .long name value => do
      let (v, p) ← takeLong shape name value v p
      walk shape false rest v p
    | .short letter =>
      if letter = 'h' then do
        let _ ← v.settle p
        .error (.help shape.page)
      else .error .misuse
    | .plain =>
      match p with
      | .awaiting f => walk shape false rest v (.value f raw)
      | p => do
        let (v, p) ← takeId shape raw v p
        walk shape false rest v p

/-! ### Commands -/

/-- The commands. -/
def shapes : List Shape := [
  ⟨"migrate", "Apply pending database migrations", [], false⟩,
  ⟨"tick", "Run a single reconcile tick", [], false⟩,
  ⟨"serve", "Run reconcile ticks on a fixed interval until interrupted", [], false⟩,
  ⟨"enqueue", "Queue entities for synchronization", [.tag, .delaySeconds], true⟩,
  ⟨"reindex-date", "Queue every entity updated within a date range", [.start, .stop], false⟩,
  ⟨"index", "Index entities immediately, bypassing the queue", [], true⟩,
  ⟨"status", "Show queue depth", [], false⟩]

/-- The command of a name. -/
def shapeOf? (name : String) : Option Shape := shapes.find? fun s => s.name == name

/-- What the command that shows help is for. -/
def helpAbout : String := "Print this message or the help of the given subcommand(s)"

/-- The help page of the program. -/
def programPage : HelpPage where
  about := "Synchronize the search index from the primary store"
  usage := programName ++ " <COMMAND>"
  sections := [
    ⟨"Commands", shapes.map (fun s => ⟨s.name, s.about⟩) ++ [⟨"help", helpAbout⟩]⟩,
    ⟨"Options", [.help]⟩]

/-- The help page of the command that shows help. -/
def helpPage : HelpPage where
  about := helpAbout
  usage := programName ++ " help [COMMAND]..."
  sections := [⟨"Arguments", [⟨"[COMMAND]...", "Print help for the subcommand(s)"⟩]⟩]

/-- The command of a name with the values it was given, if none is missing. -/
def commandOf (name : String) (v : Values) : Except Stop Command :=
  match name with
  | "migrate" => .ok .migrate
  | "tick" => .ok .tick
  | "serve" => .ok .serve
  | "status" => .ok .status
  | "enqueue" =>
    if v.ids.isEmpty then .error .misuse
    else .ok (.enqueue v.ids (v.tag.getD syncEntityTag) (v.delaySeconds.getD 0))
  | "index" => if v.ids.isEmpty then .error .misuse else .ok (.index v.ids)
  | "reindex-date" =>
    match v.start, v.stop with
    | some start, some stop => .ok (.reindexDate start stop)
    | _, _ => .error .misuse
  | _ => .error .misuse

/-- The page about a list of names; no command has commands of its own. -/
def pageOn? : List String → Option HelpPage
  | [] => some programPage
  | [name] => if name == "help" then some helpPage else (shapeOf? name).map Shape.page
  | _ => none

/-- The command that arguments ask for. -/
def parse : List String → Except Stop Command
  | [] => .error .misuse
  | "help" :: names =>
    match pageOn? names with
    | some page => .error (.help page)
    | none => .error .misuse
  | name :: rest =>
    match shapeOf? name with
    | some shape => do
      let v ← walk shape false rest .none .nothing
      commandOf name v
    | none =>
      match Form.of name.toList with
      | .long ['h', 'e', 'l', 'p'] .none => .error (.help programPage)
      | .short 'h' => .error (.help programPage)
      | _ => .error .misuse

end Outbox.CommandLine
