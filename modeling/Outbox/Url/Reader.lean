import Outbox.Url.Basic

/-!
# Reading URLs

A URL is read from left to right: the scheme, the user and the host with its service number where two
slashes stand before them, the path, the query and the fragment.  Blanks and controls around the text
do not count, nor do tabs and line breaks anywhere.  Under a special scheme a backslash is a slash.

Only the scheme, the host and the number after it can be at fault; in all other parts a character that
cannot stand there is encoded.
-/

namespace Outbox.Url

open Outbox.Decimal Outbox.Text

/-! ### The path -/

/-- A dot, plain or encoded, at the beginning of a segment; gives the rest. -/
def afterDot? : List Char → Option (List Char)
  | '.' :: cs => some cs
  | '%' :: '2' :: 'e' :: cs | '%' :: '2' :: 'E' :: cs => some cs
  | _ => none

/-- Whether a segment stands for the directory it is in. -/
def isHere (segment : List Char) : Bool := afterDot? segment == some []

/-- Whether a segment stands for the directory above. -/
def isAbove (segment : List Char) : Bool := (afterDot? segment).bind afterDot? == some []

/-- Adds segments to a path and follows those that stand for directories. -/
def resolve : List (List Char) → List (List Char) → List (List Char)
  | path, [] => path
  | path, s :: rest =>
    let tail := if rest.isEmpty then [[]] else []
    if isAbove s then resolve (path.dropLast ++ tail) rest
    else if isHere s then resolve (path ++ tail) rest
    else resolve (path ++ [Percent.encode Percent.inPath s]) rest

/-- A path of segments, each after a slash. -/
def pathText (segments : List (List Char)) : List Char := segments.flatMap ('/' :: ·)

/-- Reads a path below a host; without a special scheme it may be empty. -/
def readPath (special : Bool) (cs : List Char) : List Char :=
  let isSlash (c : Char) : Bool := c == '/' || (special && c == '\\')
  match cs with
  | [] => if special then ['/'] else []
  | c :: rest => pathText (resolve [] (pieces isSlash (if isSlash c then rest else c :: rest)))

/-- What comes after the host. -/
structure Rest where
  path : List Char
  query : Option (List Char)
  fragment : Option (List Char)

/-- Cuts query and fragment off. -/
def Rest.of (special : Bool) (path : List Char → List Char) (cs : List Char) : Rest :=
  let (before, fragment) := cut '#' cs
  let (before, query) := cut '?' before
  ⟨path before, query.map (Percent.encode (Percent.inQuery special)),
    fragment.map (Percent.encode Percent.inFragment)⟩

/-! ### User, host and service number -/

/-- What precedes the last `@`, and what follows it. -/
def splitUser (cs : List Char) : Option (List Char) × List Char :=
  match cut '@' cs.reverse with
  | (after, some before) => (some before.reverse, after.reverse)
  | (_, none) => (none, cs)

/-- The host, up to a colon outside brackets, and what follows the colon. -/
def splitPort : Bool → List Char → List Char × Option (List Char)
  | _, [] => ([], none)
  | bracketed, c :: cs =>
    if c = ':' ∧ ¬bracketed then ([], some cs)
    else
      let (host, number) :=
        splitPort (if c = '[' then true else if c = ']' then false else bracketed) cs
      (c :: host, number)

/-- Reads a service number of 16 bits, and leaves what follows from a backslash on. -/
def readPort (usual : Option Nat) (cs : List Char) : Except Fault (Option Nat × List Char) :=
  let ds := cs.takeWhile Char.isDigit
  let rest := cs.drop ds.length
  if 65535 < ofDigits ds ∨ (rest ≠ [] ∧ rest.head? ≠ some '\\') then .error .portNumber
  else .ok (if ds.isEmpty ∨ usual = some (ofDigits ds) then none else some (ofDigits ds), rest)

/-- Reads what comes after the two slashes of a scheme. -/
def readAuthority (scheme cs : List Char) : Except Fault Url := do
  let special := isSpecial scheme
  let authority := cs.takeWhile fun c =>
    !(c == '/' || c == '?' || c == '#' || (special && c == '\\'))
  let tail := cs.drop authority.length
  let (user, located) := splitUser authority
  if user = some [] ∧ located = [] ∧ tail ≠ [] then throw (.host .empty)
  let (username, password) := cut ':' (user.getD [])
  let password := password.getD []
  let (name, number) := splitPort false located
  if name = [] ∧ (special ∨ number.isSome ∨ username ≠ [] ∨ password ≠ []) then
    throw (.host .empty)
  let host ← ((if special then Host.ofSpecial name else Host.ofOpaque name).mapError .host)
  let (portNumber, after) ← match number with
    | none => pure (none, [])
    | some ds => readPort (usualPort? scheme) ds
  let rest := Rest.of special (readPath special) (after ++ tail)
  pure ⟨scheme, Percent.encode Percent.inUser username, Percent.encode Percent.inUser password,
    some host, portNumber, rest.path, rest.query, rest.fragment⟩

/-- Reads what comes after the scheme of files: a host only after two slashes, where no drive stands
instead and the machine itself counts as none. -/
def readFile (scheme : List Char) : List Char → Except Fault Url
  | a :: b :: cs => do
    let isSlash (c : Char) : Bool := c == '/' || c == '\\'
    let isDrive : List Char → Bool
      | [c, d] => c.isAlpha && (d == ':' || d == '|')
      | _ => false
    let name := cs.takeWhile fun c => !(isSlash c || c == '?' || c == '#')
    let rest := Rest.of true (readPath true)
    let build (host : Host) (r : Rest) : Url :=
      ⟨scheme, [], [], some host, none, r.path, r.query, r.fragment⟩
    if !(isSlash a && isSlash b) then pure (build (.name []) (rest (a :: b :: cs)))
    else if name.isEmpty || isDrive name then pure (build (.name []) (rest cs))
    else
      let host ← (Host.ofSpecial name).mapError .host
      let host := if host = .name "localhost".toList then .name [] else host
      pure (build host (rest (cs.drop name.length)))
  | cs =>
    let r := Rest.of true (readPath true) cs
    .ok ⟨scheme, [], [], some (.name []), none, r.path, r.query, r.fragment⟩

/-! ### The whole -/

/-- The scheme in lower case, and what follows its colon. -/
def readScheme? (cs : List Char) : Option (List Char × List Char) :=
  match cut ':' cs with
  | (c :: name, some rest) =>
    if c.isAlpha && name.all fun d => d.isAlphanum || d == '+' || d == '-' || d == '.' then
      some ((c :: name).map Char.toLower, rest)
    else none
  | _ => none

/-- Reads what follows the scheme. -/
def readAfterScheme (scheme cs : List Char) : Except Fault Url :=
  if isFile scheme then readFile scheme cs
  else if isSpecial scheme then readAuthority scheme (cs.dropWhile fun c => c == '/' || c == '\\')
  else
    let hostless (path : List Char → List Char) (cs : List Char) : Url :=
      let r := Rest.of false path cs
      ⟨scheme, [], [], none, none, r.path, r.query, r.fragment⟩
    match cs with
    | '/' :: '/' :: cs => readAuthority scheme cs
    | '/' :: cs => .ok (hostless (fun cs => readPath false ('/' :: cs)) cs)
    | cs => .ok (hostless (Percent.encode Percent.inControls) cs)

/-- Whether a character around a URL does not count. -/
def isMargin (c : Char) : Bool := c.toNat ≤ 0x20

/-- The characters of a text that count. -/
def significant (cs : List Char) : List Char :=
  ((cs.dropWhile isMargin).reverse.dropWhile isMargin).reverse.filter fun c =>
    !(c == '\t' || c == '\n' || c == '\r')

/-- Reads a URL. -/
def ofText (s : String) : Except Fault Url :=
  match readScheme? (significant s.toList) with
  | none => .error .relative
  | some (scheme, cs) => readAfterScheme scheme cs

end Outbox.Url
