import TeenyLexer.FileTree.Path
import TeenyLexer.Text.Quoted

/-! # File trees

A snapshot of a working directory: directories and files with their bytes, each under the
segments that lead to it. A path is followed segment by segment, and every segment but a
last name has to be taken from a directory. Outside the working directory there are
directories upwards and nothing else.
-/

namespace TeenyLexer

inductive Entry
  | missing
  | notDirectory
  | nameTooLong
  | directory
  | file (bytes : List UInt8)

inductive Refusal
  | missing
  | notDirectory
  | nameTooLong
  | isDirectory
  deriving DecidableEq

namespace Refusal

/-- The system's number for a refusal. -/
def number : Refusal → Nat
  | missing => 2
  | notDirectory => 20
  | isDirectory => 21
  | nameTooLong => 36

def description : Refusal → String
  | missing => "No such file or directory"
  | notDirectory => "Not a directory"
  | isDirectory => "Is a directory"
  | nameTooLong => "File name too long"

def message (r : Refusal) (path : String) : String :=
  "[Errno " ++ toString r.number ++ "] " ++ r.description ++ ": " ++ Text.quote path

end Refusal

def Entry.read : Entry → Except Refusal (List UInt8)
  | missing => .error .missing
  | notDirectory => .error .notDirectory
  | nameTooLong => .error .nameTooLong
  | directory => .error .isDirectory
  | file bytes => .ok bytes

structure FileTree where
  /-- The entries by their segments. A directory on the way to an entry need not be listed. -/
  entries : List (List (List Char) × Entry)

namespace FileTree

def maxNameBytes : Nat := 255

def maxPathBytes : Nat := 4095

/-- Where following a path has come to. -/
inductive Place
  | within (segments : List (List Char))
  | outside

def entryAt (t : FileTree) (segments : List (List Char)) : Entry :=
  match t.entries.find? fun entry => entry.1 == segments with
  | some entry => entry.2
  | none =>
    if segments = [] ∨ t.entries.any (fun entry => segments.isPrefixOf entry.1) then .directory
    else .missing

def look (t : FileTree) : Place → Entry
  | .within segments => t.entryAt segments
  | .outside => .directory

/-- One segment on from a directory. There is no way back from outside. -/
def enter (segment : List Char) : Place → Option Place
  | .within segments =>
    if Path.isIdle segment then some (.within segments)
    else if segment = ['.', '.'] then
      if segments = [] then some .outside else some (.within segments.dropLast)
    else some (.within (segments ++ [segment]))
  | .outside =>
    if Path.isIdle segment || segment == ['.', '.'] then some .outside else none

def follow (t : FileTree) (place : Place) : List (List Char) → Entry
  | [] => t.look place
  | segment :: more =>
    match t.look place with
    | .directory =>
      if (String.ofList segment).utf8ByteSize > maxNameBytes then .nameTooLong
      else
        match enter segment place with
        | some next => t.follow next more
        | none => .missing
    | .file _ => .notDirectory
    | entry => entry

/-- What a path leads to, from the working directory or from the root. -/
def find (t : FileTree) (path : String) : Entry :=
  if path.utf8ByteSize > maxPathBytes then .nameTooLong
  else
    match path.toList with
    | [] => .missing
    | '/' :: rest => t.follow .outside (Path.segments rest)
    | chars => t.follow (.within []) (Path.segments chars)

def ofPaths (entries : List (String × Entry)) : FileTree where
  entries := entries.map fun entry =>
    ((Path.segments entry.1.toList).filter fun segment => !Path.isIdle segment, entry.2)

end FileTree

end TeenyLexer
