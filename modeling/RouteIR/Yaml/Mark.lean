namespace RouteIR
namespace Yaml

/-!
# Places in a YAML text

A mark is a place: how many characters lie before it, and its line and column,
both counted from zero.  Messages show a mark with an excerpt of its line and a
caret under the place.
-/

structure Mark where
  index : Nat
  line : Nat
  column : Nat
deriving DecidableEq, Repr

def isBreak (char : Char) : Bool :=
  char = '\r' || char = '\n' || char = '\x85' || char = '\u2028' || char = '\u2029'

/-- One side of an excerpt, outwards from the place: the characters kept, and whether
dots stand for the rest of the line. -/
private def excerptSide (chars : List Char) : List Char × Bool :=
  let line := chars.takeWhile (!isBreak ·)
  if 36 < line.length then (line.take 32, true) else (line, false)

namespace Mark

/-- The excerpt of the line around a mark, and the caret line below it. -/
def excerpt (text : List Char) (mark : Mark) : String :=
  let (left, leftCut) := excerptSide (text.take mark.index).reverse
  let (right, rightCut) := excerptSide (text.drop mark.index)
  let head := if leftCut then " ... ".toList else []
  let tail := if rightCut then " ... ".toList else []
  let indent := List.replicate 4 ' '
  String.ofList (indent ++ head ++ left.reverse ++ right ++ tail ++
    '\n' :: List.replicate (4 + left.length + head.length) ' ' ++ ['^'])

/-- A mark as messages show it. -/
def describe (text : List Char) (mark : Mark) : String :=
  "  in \"<unicode string>\", line " ++ toString (mark.line + 1) ++ ", column " ++
    toString (mark.column + 1) ++ ":\n" ++ mark.excerpt text

end Mark
end Yaml
end RouteIR
