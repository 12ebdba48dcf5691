namespace RouteIR

/-!
# Placeholders of path templates

A placeholder is a name in braces.  The name is not empty and holds neither a brace
nor a slash, so placeholders do not nest and do not reach across segments.
-/

namespace Template

/-- The characters that end a name. -/
def isDelimiter (char : Char) : Bool := char = '{' || char = '}' || char = '/'

/-- The name at the start of a text that a closing brace ends. -/
def nameAt? (chars : List Char) : Option (List Char) :=
  let name := chars.takeWhile (!isDelimiter ·)
  if name.isEmpty then none
  else if (chars.drop name.length).head? = some '}' then some name
  else none

/-- All names in braces, from left to right. -/
def occurrences : List Char → List (List Char)
  | [] => []
  | char :: rest =>
      if char = '{' then (nameAt? rest).toList ++ occurrences rest else occurrences rest

/-- The placeholders of a template, each once, in the order of first occurrence. -/
def placeholders (template : String) : List String :=
  ((occurrences template.toList).map String.ofList).eraseDups

end Template
end RouteIR
