import Outbox.Config.Basic
import Outbox.Telemetry.Directive

/-!
# Filters

What is reported is said by directives with commas between them.  A variable of its own holds them;
where it is not set, or one of its directives cannot be read, the configured level is taken instead,
and of that the directives that cannot be read are complained about and ignored.
-/

namespace Outbox.Telemetry.Filter

open Outbox.Text

/-- The variable that holds directives. -/
def variableName : String := "RUST_LOG"

/-- The directives of a text. -/
def directives (s : String) : List (List Char) :=
  (pieces (· == ',') s.toList).filter fun d => !d.isEmpty

/-- The line about a directive that is ignored. -/
def complaint (directive : List Char) (f : Directive.Fault) : String :=
  "ignoring \x60" ++ String.ofList directive ++ "\x60: " ++ f.message

/-- The lines about the directives that are ignored; nothing if one of them is broken. -/
def complaints? : List (List Char) → Option (List String)
  | [] => some []
  | d :: ds =>
    match Directive.check d with
    | .ok () => complaints? ds
    | .error (.fault f) => (complaints? ds).map (complaint d f :: ·)
    | .error .broken => none

/-- Whether all directives can be read; nothing if the first that cannot is broken. -/
def areReadable? : List (List Char) → Option Bool
  | [] => some true
  | d :: ds =>
    match Directive.check d with
    | .ok () => areReadable? ds
    | .error (.fault _) => some false
    | .error .broken => none

/-- The lines about the directives that are ignored when reporting begins; nothing if it cannot. -/
def prepare? (env : Environment) (level : String) : Option (List String) :=
  match (env.get? variableName).map fun s => areReadable? (directives s) with
  | none | some (some false) => complaints? (directives level)
  | some (some true) => some []
  | some none => none

end Outbox.Telemetry.Filter
