/-!
# Help pages

A page says what a command is for, how it is called, and then lists what it takes.  In each list the
explanations stand in one column, two blanks after the longest term.
-/

namespace Outbox.CommandLine

/-- A line of a list: a term and its explanation. -/
structure HelpEntry where
  term : String
  meaning : String
  deriving DecidableEq

/-- A list with its heading. -/
structure HelpSection where
  heading : String
  entries : List HelpEntry
  deriving DecidableEq

/-- A help page. -/
structure HelpPage where
  about : String
  usage : String
  sections : List HelpSection
  deriving DecidableEq

/-- The width of the longest term of a list. -/
def HelpSection.width (s : HelpSection) : Nat :=
  (s.entries.map fun e => e.term.length).foldl max 0

/-- A line of a list whose terms are padded to a width. -/
def HelpEntry.line (width : Nat) (e : HelpEntry) : String :=
  "  " ++ e.term ++ String.ofList (List.replicate (width - e.term.length) ' ') ++ "  " ++
    e.meaning ++ "\n"

/-- A list below its heading, after an empty line. -/
def HelpSection.text (s : HelpSection) : String :=
  "\n" ++ s.heading ++ ":\n" ++ String.join (s.entries.map (HelpEntry.line s.width))

/-- The text of a page. -/
def HelpPage.text (p : HelpPage) : String :=
  p.about ++ "\n\nUsage: " ++ p.usage ++ "\n" ++ String.join (p.sections.map HelpSection.text)

/-- The option that every command has. -/
def HelpEntry.help : HelpEntry := ⟨"-h, --help", "Print help"⟩

end Outbox.CommandLine
