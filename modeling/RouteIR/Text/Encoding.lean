namespace RouteIR
namespace Text

/-!
# Text in files

Files hold text in UTF-8.  The ends of its lines may be written in three ways, which
all read as one newline.
-/

/-- Every line end as one newline. -/
def unifyLineEnds : List Char → List Char
  | '\r' :: '\n' :: rest => '\n' :: unifyLineEnds rest
  | '\r' :: rest => '\n' :: unifyLineEnds rest
  | char :: rest => char :: unifyLineEnds rest
  | [] => []

/-- The text of a file, absent when its bytes are not UTF-8. -/
def decodeFile? (content : List UInt8) : Option String :=
  (String.fromUTF8? ⟨content.toArray⟩).map fun text =>
    String.ofList (unifyLineEnds text.toList)

end Text
end RouteIR
