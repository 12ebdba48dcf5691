namespace RouteIR

/-!
# Paths

A path is a list of parts, taken from the root or from the current directory.  Empty
parts and single dots say nothing and are dropped as a text is read; a pair of dots
stays, since what it means depends on the directories that exist.
-/

structure Path where
  absolute : Bool
  parts : List String
deriving DecidableEq, Repr

namespace Path

def root : Path := ⟨true, []⟩

def ofText (text : String) : Path :=
  ⟨text.toList.head? = some '/',
    ((text.toList.splitOn '/').map String.ofList).filter fun part => part ≠ "" && part ≠ "."⟩

def text (path : Path) : String :=
  if path.absolute then "/" ++ "/".intercalate path.parts
  else if path.parts.isEmpty then "." else "/".intercalate path.parts

/-- Whether names can be made of a text: none holds the character with number zero. -/
def isNameText (text : String) : Bool := !text.toList.contains '\x00'

/-- Whether all parts of a path can be names. -/
def isNameable (path : Path) : Bool := path.parts.all isNameText

/-- The last part, empty where there is none. -/
def name (path : Path) : String := path.parts.getLast?.getD ""

/-- The path without its last part. -/
def parent (path : Path) : Path := ⟨path.absolute, path.parts.dropLast⟩

/-- A path as seen from another: an absolute path stands for itself. -/
def join (base path : Path) : Path :=
  if path.absolute then path else ⟨base.absolute, base.parts ++ path.parts⟩

def child (base : Path) (name : String) : Path := ⟨base.absolute, base.parts ++ [name]⟩

/-- The parts that remain when every pair of dots removes the part before it.  This is
the meaning of an absolute path where no directory is a link. -/
def collapse (parts : List String) : List String :=
  parts.foldl (fun kept part => if part = ".." then kept.dropLast else kept ++ [part]) []

/-- The absolute path without dots that a path stands for, seen from a directory. -/
def resolveFrom (directory path : Path) : Path := ⟨true, collapse (directory.join path).parts⟩

/-- Whether a path is another path or lies below it. -/
def isWithin (base path : Path) : Bool :=
  base.absolute = path.absolute && base.parts.isPrefixOf path.parts

/-- The last part from its last dot on, where that dot is neither its first nor its last
character. -/
def suffix (path : Path) : List Char :=
  let chars := path.name.toList
  let ending := (chars.reverse.takeWhile (· ≠ '.')).reverse
  if ending.isEmpty || chars.length ≤ ending.length + 1 then [] else '.' :: ending

/-- The path with a leading tilde replaced by the home directory.  A tilde with a name
behind it asks for someone else's, which is not known. -/
def expandHome? (path home : Path) : Option Path :=
  match path.absolute, path.parts with
  | false, first :: rest =>
      if first = "~" then some ⟨home.absolute, home.parts ++ rest⟩
      else if first.toList.head? = some '~' then none
      else some path
  | _, _ => some path

end Path
end RouteIR
