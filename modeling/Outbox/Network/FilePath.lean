import Outbox.Text.Pieces

/-!
# Paths in the file system

A path is followed from the root, part by part.  It ends at the first part that is not there, or at a
file that is taken for a directory.  What is there is a short list of files and directories that
every machine has; nothing else is.
-/

namespace Outbox.Network.FilePath

open Outbox.Text

/-- Why a path leads nowhere. -/
inductive Fault
  | missing
  | notDirectory
  deriving DecidableEq

/-- The parts of a path, from the root on. -/
abbrev Parts := List (List Char)

/-- The parts of a path. -/
def partsOf (path : String) : Parts :=
  (pieces (· == '/') path.toList).filter fun p => !p.isEmpty

/-- Files that are there. -/
def files : List Parts :=
  ["/dev/null", "/dev/zero", "/dev/full", "/dev/random", "/dev/urandom", "/dev/tty", "/dev/stdin",
    "/dev/stdout", "/dev/stderr", "/etc/passwd", "/etc/group", "/etc/hosts", "/etc/resolv.conf",
    "/proc/version", "/proc/self/exe", "/bin/sh", "/usr/bin/env"].map partsOf

/-- Directories that are there besides those that the files are in. -/
def directories : List Parts :=
  ["/home", "/lib", "/opt", "/root", "/run", "/sbin", "/sys", "/tmp", "/usr/lib", "/var/run",
    "/var/tmp"].map partsOf

/-- Whether parts lead to a file. -/
def isFile (at_ : Parts) : Bool := files.contains at_

/-- Whether parts lead to something that is there. -/
def isThere (at_ : Parts) : Bool := (files ++ directories).any at_.isPrefixOf

/-- Follows parts from a place, at the end of which a file is looked for that is not there. -/
def follow (at_ : Parts) : Parts → Fault
  | [] | [_] => if isFile at_ then .notDirectory else .missing
  | p :: ps =>
    if isFile at_ then .notDirectory
    else if p = [] ∨ p = ['.'] then follow at_ ps
    else if p = ['.', '.'] then follow at_.dropLast ps
    else if isThere (at_ ++ [p]) then follow (at_ ++ [p]) ps
    else .missing

/-- Why a path leads to no file. -/
def fault (path : List Char) : Fault := follow [] (pieces (· == '/') path)

end Outbox.Network.FilePath
