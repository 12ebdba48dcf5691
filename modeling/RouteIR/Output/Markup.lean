namespace RouteIR
namespace Markup

/-!
# Marks for colours

A mark is a tag in brackets.  It opens a style or closes one, and a closing tag has to
name a style that is open, or none where some style is.  A backslash makes a tag a text.
What is left of a text without its tags is what a console shows, apart from the colours.
-/

/-- Whether a character can stand first in a tag. -/
def startsTag (char : Char) : Bool :=
  ('a' ≤ char && char ≤ 'z') || char = '#' || char = '/' || char = '@'

/-- The tag at the front, and what follows it.  No bracket opens inside a tag. -/
def tag? : List Char → Option (List Char × List Char)
  | '[' :: first :: rest =>
      let inner := rest.takeWhile fun char => char ≠ '[' && char ≠ ']'
      match rest.drop inner.length with
      | ']' :: after => if startsTag first then some (first :: inner, after) else none
      | _ => none
  | _ => none

/-- The styles that are open after a tag, the latest first.  What follows an equals sign is
no part of a style's name. -/
def openAfter (styles : List (List Char)) (tag : List Char) : Option (List (List Char)) :=
  match tag.takeWhile (· ≠ '=') with
  | ['/'] => styles.tail?
  | '/' :: style => if styles.contains style then some (styles.erase style) else none
  | style => some (style :: styles)

/-- What is left of characters without their tags, inside the given styles.  The number bounds
the steps. -/
def strip : Nat → List (List Char) → List Char → Option (List Char)
  | 0, _, _ => some []
  | _, _, [] => some []
  | fuel + 1, styles, char :: rest =>
      let escapes := ((char :: rest).takeWhile (· = '\\')).length
      match tag? ((char :: rest).drop escapes) with
      | some (tag, after) =>
          let left :=
            if escapes % 2 = 1 then (strip fuel styles after).map ('[' :: tag ++ ']' :: ·)
            else (openAfter styles tag).bind fun styles => strip fuel styles after
          left.map (List.replicate (escapes / 2) '\\' ++ ·)
      | none =>
          if char = '\\' ∧ rest.head? = some '[' then strip fuel styles rest
          else (strip fuel styles rest).map (char :: ·)

/-- The text that a console shows for a text with marks, absent where a tag closes nothing. -/
def read? (markup : String) : Option String :=
  (strip (markup.length + 1) [] markup.toList).map String.ofList

example : read? "[bold red]Error:[/bold red] no [a]" = some "Error: no " := by decide +kernel

example : read? "[dim]\\[debug] [/v2][/dim]" = none := by decide +kernel

end Markup
end RouteIR
