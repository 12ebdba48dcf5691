import RouteIR.Text.Quoted

namespace RouteIR
namespace Text

/-!
# A quoted literal shows which text it quotes

Inside its delimiters a literal is a row of codes, one for each character, and each code
tells where it ends: a backslash announces how many characters follow, and any other
character stands for itself.  So the literal can be read back, and it holds printable
characters only.
-/

/-! ## Hexadecimal digits -/

theorem hexValue?_digitChar {value : Nat} (small : value < 16) :
    hexValue? (Nat.digitChar value) = some value := by
  have all : forall digit : Fin 16, hexValue? (Nat.digitChar digit) = some digit.val := by decide
  exact all ⟨value, small⟩

theorem hexNumber?_concat (digits : List Char) (last : Char) :
    hexNumber? (digits ++ [last]) =
      (hexNumber? digits).bind fun value => (hexValue? last).map (value * 16 + ·) := by
  rw [hexNumber?, List.foldlM_append]
  simp only [List.foldlM_cons, List.foldlM_nil, bind_pure]
  rfl

theorem hexNumber?_toDigits (value : Nat) : hexNumber? (Nat.toDigits 16 value) = some value := by
  induction value using Nat.strongRecOn with
  | ind value ih =>
      rw [Nat.toDigits_eq_if (by decide)]
      split
      · next small => simp [hexNumber?, hexValue?_digitChar small]
      · next large =>
          have smaller : value / 16 < value := by omega
          have last : value % 16 < 16 := Nat.mod_lt _ (by decide)
          rw [hexNumber?_concat, ih _ smaller, hexValue?_digitChar last]
          simp only [Option.bind_some, Option.map_some, Option.some.injEq]
          omega

theorem hexNumber?_zeros (count : Nat) (digits : List Char) :
    hexNumber? (List.replicate count '0' ++ digits) = hexNumber? digits := by
  induction count with
  | zero => rfl
  | succ count ih =>
      rw [List.replicate_succ, List.cons_append, ← ih]
      rfl

/-- Digits in base sixteen read back as their number, whatever zeros stand in front. -/
theorem hexNumber?_hexDigits (width value : Nat) :
    hexNumber? (hexDigits width value) = some value := by
  rw [hexDigits, hexNumber?_zeros, hexNumber?_toDigits]

theorem length_hexDigits {width value : Nat} (positive : 0 < width)
    (small : value < Nat.pow 16 width) : (hexDigits width value).length = width := by
  have short := (Nat.length_toDigits_le_iff (by decide) positive).mpr small
  rw [hexDigits, List.length_append, List.length_replicate]
  omega

/-- The characters that digits in base sixteen are written with. -/
def hexAlphabet : List Char := "0123456789abcdef".toList

theorem digitChar_mem_hexAlphabet {value : Nat} (small : value < 16) :
    Nat.digitChar value ∈ hexAlphabet := by
  have all : forall digit : Fin 16, Nat.digitChar digit ∈ hexAlphabet := by decide
  exact all ⟨value, small⟩

theorem mem_hexAlphabet_of_toDigits {value : Nat} {char : Char}
    (member : char ∈ Nat.toDigits 16 value) : char ∈ hexAlphabet := by
  induction value using Nat.strongRecOn with
  | ind value ih =>
      rw [Nat.toDigits_eq_if (by decide)] at member
      split at member
      · next small =>
          rw [List.mem_singleton.mp member]
          exact digitChar_mem_hexAlphabet small
      · next large =>
          rcases List.mem_append.mp member with earlier | last
          · exact ih (value / 16) (by omega) earlier
          · rw [List.mem_singleton.mp last]
            exact digitChar_mem_hexAlphabet (Nat.mod_lt _ (by decide))

theorem mem_hexAlphabet_of_hexDigits {width value : Nat} {char : Char}
    (member : char ∈ hexDigits width value) : char ∈ hexAlphabet := by
  rcases List.mem_append.mp member with zero | digit
  · rw [List.eq_of_mem_replicate zero]
    decide
  · exact mem_hexAlphabet_of_toDigits digit

/-! ## Reading a literal back -/

/-- The character whose number stands in the given count of digits, and what follows. -/
def unquoteHex (width : Nat) (chars : List Char) : Option (Char × List Char) :=
  (hexNumber? (chars.take width)).map fun code => (Char.ofNat code, chars.drop width)

/-- The character that the first code stands for, and what follows the code. -/
def unquoteChar : List Char -> Option (Char × List Char)
  | [] => none
  | '\\' :: 'n' :: rest => some ('\n', rest)
  | '\\' :: 'r' :: rest => some ('\r', rest)
  | '\\' :: 't' :: rest => some ('\t', rest)
  | '\\' :: 'x' :: rest => unquoteHex 2 rest
  | '\\' :: 'u' :: rest => unquoteHex 4 rest
  | '\\' :: 'U' :: rest => unquoteHex 8 rest
  | '\\' :: char :: rest => some (char, rest)
  | char :: rest => some (char, rest)

theorem unquoteHex_hexDigits {width : Nat} {char : Char} (positive : 0 < width)
    (small : char.toNat < Nat.pow 16 width) (rest : List Char) :
    unquoteHex width (hexDigits width char.toNat ++ rest) = some (char, rest) := by
  have long := length_hexDigits positive small
  rw [unquoteHex, List.take_left' long, List.drop_left' long, hexNumber?_hexDigits]
  simp [Char.ofNat_toNat]

theorem unquoteChar_plain {char : Char} (plain : char ≠ '\\') (rest : List Char) :
    unquoteChar (char :: rest) = some (char, rest) := by
  unfold unquoteChar
  split <;> simp_all

theorem toNat_lt_hex (char : Char) : char.toNat < Nat.pow 16 8 := by
  exact char.val.toNat_lt

/-- The delimiters of literals. -/
def IsDelimiter (mark : Char) : Prop := mark = '\'' ∨ mark = '"'

theorem isDelimiter_delimiter (holdsApostrophe holdsQuote : Bool) :
    IsDelimiter (delimiter holdsApostrophe holdsQuote) := by
  unfold delimiter
  split
  · exact Or.inr rfl
  · exact Or.inl rfl

/-- The code of a character reads back, whatever follows it. -/
theorem unquoteChar_quoteChar {mark : Char} (delimits : IsDelimiter mark) (char : Char)
    (rest : List Char) : unquoteChar (quoteChar mark char ++ rest) = some (char, rest) := by
  unfold quoteChar
  split
  · next escaped =>
      have known : char = '\'' ∨ char = '"' ∨ char = '\\' := by
        rcases escaped with rfl | rfl
        · exact delimits.imp_right Or.inl
        · exact Or.inr (Or.inr rfl)
      rcases known with rfl | rfl | rfl <;> rfl
  · next plain =>
      split
      · next same => rw [same]; rfl
      · split
        · next same => rw [same]; rfl
        · split
          · next same => rw [same]; rfl
          · split
            · exact unquoteChar_plain (fun same => plain (Or.inr same)) rest
            · split
              · next small => exact unquoteHex_hexDigits (by decide) small rest
              · split
                · next small => exact unquoteHex_hexDigits (by decide) small rest
                · exact unquoteHex_hexDigits (by decide) (toNat_lt_hex char) rest

/-- A text is known from a row of codes when each code can be told from what follows it. -/
theorem flatMap_injective {α : Type} {code : α -> List Char}
    {decode : List Char -> Option (α × List Char)} (atEnd : decode [] = none)
    (undo : forall item rest, decode (code item ++ rest) = some (item, rest)) {left right : List α}
    (same : left.flatMap code = right.flatMap code) : left = right := by
  induction left generalizing right with
  | nil =>
      cases right with
      | nil => rfl
      | cons item rest =>
          have decoded := undo item (rest.flatMap code)
          rw [← List.flatMap_cons, ← same, List.flatMap_nil, atEnd] at decoded
          cases decoded
  | cons item rest ih =>
      have decoded := undo item (rest.flatMap code)
      rw [← List.flatMap_cons, same] at decoded
      cases right with
      | nil =>
          rw [List.flatMap_nil, atEnd] at decoded
          cases decoded
      | cons other others =>
          rw [List.flatMap_cons, undo] at decoded
          rcases Prod.mk.inj (Option.some.inj decoded) with ⟨sameItem, sameRest⟩
          rw [sameItem, ih sameRest.symm]

/-- Two texts have one literal only when they are the same. -/
theorem quote_injective {left right : String} (same : quote left = quote right) : left = right := by
  rw [quote, quote, String.ofList_inj] at same
  rcases List.cons.inj same with ⟨sameMark, sameRest⟩
  rw [sameMark] at sameRest
  have sameBody := List.append_cancel_right sameRest
  have delimits := isDelimiter_delimiter (right.toList.contains '\'') (right.toList.contains '"')
  have sameChars := flatMap_injective rfl (unquoteChar_quoteChar delimits) sameBody
  exact String.toList_inj.mp sameChars

/-! ## Printable characters -/

theorem isPrintable_of_hexDigits {width value : Nat} {char : Char}
    (member : char ∈ hexDigits width value) : isPrintable char = true := by
  have all : hexAlphabet.all isPrintable = true := by decide
  exact List.all_eq_true.mp all char (mem_hexAlphabet_of_hexDigits member)

theorem isPrintable_of_mark {mark : Char} (delimits : IsDelimiter mark) :
    isPrintable mark = true := by
  rcases delimits with rfl | rfl <;> decide

theorem isPrintable_of_quoteChar {mark char shown : Char} (delimits : IsDelimiter mark)
    (member : shown ∈ quoteChar mark char) : isPrintable shown = true := by
  have escape {letter : Char} {rest : List Char} (member : shown ∈ '\\' :: letter :: rest)
      (isLetter : isPrintable letter = true)
      (others : shown ∈ rest -> isPrintable shown = true) : isPrintable shown = true := by
    rcases List.mem_cons.mp member with rfl | later
    · decide
    · rcases List.mem_cons.mp later with rfl | last
      · exact isLetter
      · exact others last
  unfold quoteChar at member
  split at member
  · next escaped =>
      refine escape member ?_ nofun
      rcases escaped with rfl | rfl
      · exact isPrintable_of_mark delimits
      · decide
  · split at member
    · exact escape member (by decide) nofun
    · split at member
      · exact escape member (by decide) nofun
      · split at member
        · exact escape member (by decide) nofun
        · split at member
          · next printable =>
              rw [List.mem_singleton.mp member]
              exact printable
          · split at member
            · exact escape member (by decide) isPrintable_of_hexDigits
            · split at member
              · exact escape member (by decide) isPrintable_of_hexDigits
              · exact escape member (by decide) isPrintable_of_hexDigits

/-- Whatever a text holds, its literal is printable. -/
theorem isPrintable_of_quote {text : String} {char : Char} (member : char ∈ (quote text).toList) :
    isPrintable char = true := by
  have delimits := isDelimiter_delimiter (text.toList.contains '\'') (text.toList.contains '"')
  rw [quote, String.toList_ofList] at member
  rcases List.mem_append.mp member with inside | last
  · rcases List.mem_cons.mp inside with rfl | body
    · exact isPrintable_of_mark delimits
    · rcases List.mem_flatMap.mp body with ⟨quoted, _, shown⟩
      exact isPrintable_of_quoteChar delimits shown
  · rw [List.mem_singleton.mp last]
    exact isPrintable_of_mark delimits

end Text
end RouteIR
