import RouteIR.Proofs.Decoder.Linkage
import RouteIR.Proofs.Number.Text
import RouteIR.Proofs.Schema.Reading
import RouteIR.Proofs.Text.Quoted

namespace RouteIR

/-!
# What a name tells

A name can be read back.  The characters of a number are rewritten one by one, and the
rewritten text still shows where its signs and its point were.  The words of a name are
joined by the underscore that they hold themselves, but each begins with a letter that no
value has, so the joins are found again.  Only digests, and the texts of floating-point
numbers, have to be trusted to differ.
-/

/-! ## Numbers -/

/-- The text behind the characters of a number in a name, its first sign left as it is. -/
def unnamed : List Char -> List Char
  | [] => []
  | '_' :: rest => '.' :: unnamed rest
  | 'e' :: 'n' :: 'e' :: 'g' :: rest => 'e' :: '-' :: unnamed rest
  | 'e' :: rest => 'e' :: '+' :: unnamed rest
  | char :: rest => char :: unnamed rest

/-- The text of a number behind its characters in a name. -/
def spelling : List Char -> List Char
  | 'n' :: 'e' :: 'g' :: rest => '-' :: unnamed rest
  | text => unnamed text

theorem nameChars_of_isDigit {char : Char} (isDigit : char.isDigit = true) :
    nameChars char = [char] := by
  unfold nameChars
  split
  · cases isDigit
  · cases isDigit
  · cases isDigit
  · rfl

theorem unnamed_of_isDigit {char : Char} (isDigit : char.isDigit = true) (rest : List Char) :
    unnamed (char :: rest) = char :: unnamed rest := by
  rw [unnamed]
  · rintro rfl
    cases isDigit
  · rintro inner rfl
    cases isDigit
  · rintro rfl
    cases isDigit

/-- What is spelled begins with a digit, a point or an exponent. -/
theorem Spelled.head?_ne {text : List Char} (spelled : Spelled text) :
    (text.flatMap nameChars).head? ≠ some 'n' := by
  cases spelled with
  | nil => simp
  | @digit char rest isDigit later =>
      rw [List.flatMap_cons, nameChars_of_isDigit isDigit]
      intro same
      rw [Option.some.inj same] at isDigit
      cases isDigit
  | point later => simp [nameChars]
  | raised later => simp [nameChars]
  | lowered later => simp [nameChars]

theorem unnamed_raised {rest : List Char} (unsigned : rest.head? ≠ some 'n') :
    unnamed ('e' :: rest) = 'e' :: '+' :: unnamed rest := by
  rw [unnamed]
  rintro inner rfl
  exact unsigned rfl

theorem Spelled.unnamed_flatMap {text : List Char} (spelled : Spelled text) :
    unnamed (text.flatMap nameChars) = text := by
  induction spelled with
  | nil => rfl
  | @digit char rest isDigit later ih =>
      rw [List.flatMap_cons, nameChars_of_isDigit isDigit, List.singleton_append,
        unnamed_of_isDigit isDigit, ih]
  | @point rest later ih =>
      have rewritten : ('.' :: rest).flatMap nameChars = '_' :: rest.flatMap nameChars := rfl
      rw [rewritten, unnamed, ih]
  | @raised rest later ih =>
      have rewritten : ('e' :: '+' :: rest).flatMap nameChars = 'e' :: rest.flatMap nameChars := rfl
      rw [rewritten, unnamed_raised later.head?_ne, ih]
  | @lowered rest later ih =>
      have rewritten : ('e' :: '-' :: rest).flatMap nameChars =
          'e' :: 'n' :: 'e' :: 'g' :: rest.flatMap nameChars := rfl
      rw [rewritten, unnamed, ih]

/-- The characters of a number in a name tell its text. -/
theorem Numeral.spelling_flatMap {text : List Char} (numeral : Numeral text) :
    spelling (text.flatMap nameChars) = text := by
  cases numeral with
  | nan => rfl
  | infinite => rfl
  | negativeInfinite => rfl
  | positive magnitude =>
      rw [spelling]
      · exact magnitude.spelled.unnamed_flatMap
      · intro rest same
        refine magnitude.spelled.head?_ne ?_
        rw [same]
        rfl
  | @negative text magnitude =>
      have rewritten : ('-' :: text).flatMap nameChars =
          'n' :: 'e' :: 'g' :: text.flatMap nameChars := rfl
      rw [rewritten, spelling, magnitude.spelled.unnamed_flatMap]

/-! ## Words -/

/-- The letters that words of refinements begin with.  No value has one. -/
def wordInitials : List Char := ['m', 'p']

theorem hexDigits_avoid_initials {char : Char} (member : char ∈ Text.hexAlphabet) :
    char ∉ wordInitials := by
  have all : (Text.hexAlphabet.all fun digit => decide (digit ∉ wordInitials)) = true := by decide
  exact of_decide_eq_true (List.all_eq_true.mp all char member)

theorem numbers_avoid_initials {text : List Char} (numeral : Numeral text) {char : Char}
    (member : char ∈ text.flatMap nameChars) : char ∉ wordInitials := by
  rcases List.mem_flatMap.mp member with ⟨source, sourceMember, rewritten⟩
  have all : (numeralAlphabet.all fun source =>
      (nameChars source).all fun char => decide (char ∉ wordInitials)) = true := by decide
  have ofSource := List.all_eq_true.mp all source (numeral.mem_numeralAlphabet sourceMember)
  exact of_decide_eq_true (List.all_eq_true.mp ofSource char rewritten)

theorem Digest.mem_hexAlphabet_of_shortHash {length : Nat} {text : String} {char : Char}
    (member : char ∈ (shortHash length text).toList) : char ∈ Text.hexAlphabet := by
  rw [shortHash, String.toList_ofList] at member
  have inDigest := List.mem_of_mem_take member
  rw [sha1, String.toList_ofList] at inDigest
  rcases List.mem_flatMap.mp inDigest with ⟨word, _, digit⟩
  exact Text.mem_hexAlphabet_of_hexDigits digit

namespace Refinement

/-- The part of a refinement's word that shows its value. -/
def valueChars : Refinement -> List Char
  | pattern text => (Digest.shortHash 8 text).toList
  | other => other.valueText.toList.flatMap nameChars

theorem toList_slug (refinement : Refinement) :
    refinement.slug.toList = refinement.kind.slug.toList ++ '_' :: refinement.valueChars := by
  cases refinement <;> simp [slug, valueChars, valueText]

theorem valueChars_avoid_initials {refinement : Refinement} {char : Char}
    (member : char ∈ refinement.valueChars) : char ∉ wordInitials := by
  cases refinement with
  | minLength value => exact numbers_avoid_initials (numeral_of_int value) member
  | maxLength value => exact numbers_avoid_initials (numeral_of_int value) member
  | minimum value => exact numbers_avoid_initials value.numeral_text member
  | maximum value => exact numbers_avoid_initials value.numeral_text member
  | pattern text => exact hexDigits_avoid_initials (Digest.mem_hexAlphabet_of_shortHash member)

/-- A word of a name with the underscore before it. -/
def joined (refinement : Refinement) : List Char := '_' :: refinement.slug.toList

/-- Nothing, or the beginning of another word. -/
def Begins (chars : List Char) : Prop :=
  chars = [] ∨ Exists fun initial => Exists fun rest =>
    chars = '_' :: initial :: rest ∧ initial ∈ wordInitials

theorem begins_flatMap_joined (refinements : List Refinement) :
    Begins (refinements.flatMap joined) := by
  cases refinements with
  | nil => exact Or.inl rfl
  | cons first rest =>
      have initial : Exists fun initial => Exists fun others =>
          first.kind.slug.toList = initial :: others ∧ initial ∈ wordInitials := by
        cases first.kind <;> exact ⟨_, _, rfl, by decide⟩
      rcases initial with ⟨initial, others, split, member⟩
      refine Or.inr ⟨initial, others ++ '_' :: first.valueChars ++ rest.flatMap joined, ?_, member⟩
      rw [List.flatMap_cons, joined, toList_slug, split]
      rfl

/-- A value that went on where another has ended would hold the initial of a word. -/
theorem not_begins_in_value {char : Char} {value later : List Char}
    (avoids : forall other, other ∈ char :: value -> other ∉ wordInitials)
    (laterBegins : Begins later) : ¬ Begins (char :: value ++ later) := by
  rintro (same | ⟨initial, rest, same, isInitial⟩)
  · cases same
  · rcases List.cons.inj same with ⟨rfl, sameRest⟩
    cases value with
    | nil =>
        rcases laterBegins with rfl | ⟨other, others, rfl, _⟩
        · cases sameRest
        · rw [← (List.cons.inj sameRest).1] at isInitial
          exact absurd isInitial (by decide)
    | cons next others =>
        rw [← (List.cons.inj sameRest).1] at isInitial
        exact avoids next (by simp) isInitial

/-- A value ends where the next word begins. -/
theorem value_unique {first second left right : List Char}
    (firstAvoids : forall char, char ∈ first -> char ∉ wordInitials)
    (secondAvoids : forall char, char ∈ second -> char ∉ wordInitials)
    (leftBegins : Begins left) (rightBegins : Begins right)
    (same : first ++ left = second ++ right) : first = second ∧ left = right := by
  induction first generalizing second with
  | nil =>
      cases second with
      | nil => exact ⟨rfl, same⟩
      | cons char value =>
          rw [List.nil_append] at same
          rw [same] at leftBegins
          exact absurd leftBegins (not_begins_in_value secondAvoids rightBegins)
  | cons char value ih =>
      cases second with
      | nil =>
          rw [List.nil_append] at same
          rw [← same] at rightBegins
          exact absurd rightBegins (not_begins_in_value firstAvoids leftBegins)
      | cons other others =>
          rcases List.cons.inj same with ⟨sameChar, sameRest⟩
          have parts := ih (List.forall_mem_of_forall_mem_cons firstAvoids)
            (List.forall_mem_of_forall_mem_cons secondAvoids) sameRest
          rw [sameChar, parts.1]
          exact ⟨rfl, parts.2⟩

theorem kind_unique {left right : RefinementKind} {first second : List Char}
    (same : left.slug.toList ++ '_' :: first = right.slug.toList ++ '_' :: second) :
    left = right ∧ first = second := by
  cases left <;> cases right <;> simp [RefinementKind.slug] at same ⊢
  all_goals exact same

/-- The words of a name tell kind and value of each refinement. -/
theorem words_unique {left right : List Refinement}
    (same : left.flatMap joined = right.flatMap joined) :
    List.Forall₂ (fun first second =>
      first.kind = second.kind ∧ first.valueChars = second.valueChars) left right := by
  induction left generalizing right with
  | nil =>
      cases right with
      | nil => exact .nil
      | cons second others => cases same
  | cons first rest ih =>
      cases right with
      | nil => cases same
      | cons second others =>
          simp only [List.flatMap_cons, joined, toList_slug, List.cons_append, List.append_assoc,
            List.cons.injEq, true_and] at same
          rcases kind_unique same with ⟨sameKind, sameRest⟩
          rcases value_unique (fun _ => valueChars_avoid_initials)
            (fun _ => valueChars_avoid_initials) (begins_flatMap_joined rest)
            (begins_flatMap_joined others) sameRest with ⟨sameValue, sameOthers⟩
          exact .cons ⟨sameKind, sameValue⟩ (ih sameOthers)

end Refinement

/-! ## From names to keys -/

/-- Numbers of one text count as one, as far as this can be trusted of floating-point
numbers. -/
theorem Number.identity_unique {left right : Number}
    (trusted : forall first second, left = .float first -> right = .float second ->
      first.text = second.text -> left.identity = right.identity)
    (same : left.text = right.text) : left.identity = right.identity := by
  cases left with
  | int first =>
      cases right with
      | int second =>
          have sameText : toString first = toString second := same
          rw [toString_int_injective sameText]
      | float second => exact absurd same (text_int_ne_float first second)
  | float first =>
      cases right with
      | int second => exact absurd same.symm (text_int_ne_float second first)
      | float second => exact trusted first second rfl rfl same

theorem Number.text_unique {left right : Number}
    (same : left.text.toList.flatMap nameChars = right.text.toList.flatMap nameChars) :
    left.text = right.text := by
  have leftSpelling := left.numeral_text.spelling_flatMap
  rw [same, right.numeral_text.spelling_flatMap] at leftSpelling
  exact (String.toList_inj.mp leftSpelling).symm

namespace Refinement

/-- What is trusted of two refinements: their patterns have different digests, and their
floating-point numbers have different texts, unless they count as one. -/
structure Trusted (first second : Refinement) : Prop where
  patterns : forall left right, first = .pattern left -> second = .pattern right ->
    Digest.shortHash 8 left = Digest.shortHash 8 right -> left = right
  floats : forall left right, first.number? = some (.float left) ->
    second.number? = some (.float right) -> left.text = right.text ->
    (Number.float left).identity = (Number.float right).identity

theorem identity_unique {first second : Refinement} (trusted : Trusted first second)
    (sameKind : first.kind = second.kind) (sameValue : first.valueChars = second.valueChars) :
    first.identity = second.identity := by
  have numbers {left right : Number} (isFirst : first.number? = some left)
      (isSecond : second.number? = some right)
      (same : left.text.toList.flatMap nameChars = right.text.toList.flatMap nameChars) :
      left.identity = right.identity := by
    refine Number.identity_unique ?_ (Number.text_unique same)
    rintro _ _ rfl rfl sameText
    exact trusted.floats _ _ isFirst isSecond sameText
  cases first with
  | minLength left =>
      cases second with
      | minLength right => exact congrArg (Identity.bound _) (numbers rfl rfl sameValue)
      | _ => cases sameKind
  | maxLength left =>
      cases second with
      | maxLength right => exact congrArg (Identity.bound _) (numbers rfl rfl sameValue)
      | _ => cases sameKind
  | minimum left =>
      cases second with
      | minimum right => exact congrArg (Identity.bound _) (numbers rfl rfl sameValue)
      | _ => cases sameKind
  | maximum left =>
      cases second with
      | maximum right => exact congrArg (Identity.bound _) (numbers rfl rfl sameValue)
      | _ => cases sameKind
  | pattern left =>
      cases second with
      | pattern right =>
          have sameText := trusted.patterns left right rfl rfl (String.toList_inj.mp sameValue)
          rw [sameText]
      | _ => cases sameKind

end Refinement

namespace RefinementDecoder

theorem intercalate_words (first : Refinement) (rest : List Refinement) :
    '_' :: ['_'].intercalate ((first :: rest).map (·.slug.toList)) =
      (first :: rest).flatMap Refinement.joined := by
  induction rest generalizing first with
  | nil => simp [Refinement.joined]
  | cons second others ih =>
      rw [List.map_cons, List.map_cons, List.intercalate_cons_cons, List.flatMap_cons, ← ih second]
      simp [Refinement.joined]

theorem toList_nameFor {scalar : Primitive} (refined : scalar.refinements ≠ []) :
    (nameFor scalar).toList =
      scalar.kind.text.toList ++ scalar.refinements.flatMap Refinement.joined := by
  cases refinements : scalar.refinements with
  | nil => exact absurd refinements refined
  | cons first rest =>
      rw [← intercalate_words, nameFor, refinements, String.toList_append, String.toList_append,
        String.toList_intercalate, List.append_assoc, List.map_map]
      rfl

theorem kind_unique {left right : PrimitiveKind} {first second : List Char}
    (same : left.text.toList ++ first = right.text.toList ++ second) :
    left = right ∧ first = second := by
  cases left <;> cases right <;> simp [PrimitiveKind.text] at same ⊢
  all_goals exact same

/-- The name of a check tells what it checks. -/
theorem key_unique {left right : Primitive} (leftRefined : left.refinements ≠ [])
    (rightRefined : right.refinements ≠ [])
    (trusted : forall first second, first ∈ left.refinements -> second ∈ right.refinements ->
      Refinement.Trusted first second)
    (same : nameFor left = nameFor right) : left.key = right.key := by
  have sameChars := congrArg String.toList same
  rw [toList_nameFor leftRefined, toList_nameFor rightRefined] at sameChars
  rcases kind_unique sameChars with ⟨sameKind, sameWords⟩
  have words := Refinement.words_unique sameWords
  have identities : left.refinements.map Refinement.identity =
      right.refinements.map Refinement.identity := by
    refine Outcome.map_eq_map_of_forall₂ (Outcome.forall₂_and_mem words) ?_
    rintro first second ⟨⟨sameKind, sameValue⟩, firstMember, secondMember⟩
    exact Refinement.identity_unique (trusted first second firstMember secondMember) sameKind
      sameValue
  rw [Primitive.key, Primitive.key, sameKind, identities]

end RefinementDecoder

/-! ## Sets of literals -/

namespace EnumDecoder

theorem isPrintable_of_numeral {text : List Char} (numeral : Numeral text) {char : Char}
    (member : char ∈ text) : Text.isPrintable char = true := by
  have all : numeralAlphabet.all Text.isPrintable = true := by decide
  exact List.all_eq_true.mp all char (numeral.mem_numeralAlphabet member)

theorem toList_canonical (literal : Literal) :
    (canonical literal).toList =
      literal.typeName.toList ++ ':' :: literal.toTree.quoted.toList := by
  rw [canonical, String.toList_append, String.toList_append, List.append_assoc]
  rfl

theorem isPrintable_of_canonical {literal : Literal} {char : Char}
    (member : char ∈ (canonical literal).toList) : Text.isPrintable char = true := by
  rw [toList_canonical] at member
  rcases List.mem_append.mp member with inName | later
  · have kinds : (["bool", "int", "float", "str"].all fun kind =>
        kind.toList.all Text.isPrintable) = true := by decide
    have known : literal.typeName ∈ ["bool", "int", "float", "str"] := by
      cases literal <;> simp [Literal.typeName, Literal.toTree, Tree.kindName]
    exact List.all_eq_true.mp (List.all_eq_true.mp kinds literal.typeName known) char inName
  · rcases List.mem_cons.mp later with rfl | shown
    · decide
    · cases literal with
      | bool value =>
          have all : (Tree.boolText value).toList.all Text.isPrintable = true := by
            cases value <;> decide
          exact List.all_eq_true.mp all char shown
      | int value => exact isPrintable_of_numeral (numeral_of_int value) shown
      | float value => exact isPrintable_of_numeral value.text_spec.1 shown
      | str text => exact Text.isPrintable_of_quote shown

theorem separator_not_mem_canonical (literal : Literal) : '\x1f' ∉ (canonical literal).toList := by
  intro member
  exact absurd (isPrintable_of_canonical member) (by decide)

/-- A literal in a canonical text tells its type and its value, as far as the texts of
floating-point numbers do. -/
theorem identity_unique {left right : Literal}
    (trusted : forall first second, left = .float first -> right = .float second ->
      first.text = second.text -> left.identity = right.identity)
    (same : canonical left = canonical right) : left.identity = right.identity := by
  have sameChars := congrArg String.toList same
  rw [toList_canonical, toList_canonical] at sameChars
  cases left <;> cases right <;>
    simp [Literal.typeName, Literal.toTree, Tree.kindName, String.toList_inj] at sameChars
  case bool.bool first second =>
    have all : forall first second : Bool, (Tree.bool first).quoted = (Tree.bool second).quoted ->
        first = second := by decide
    rw [all first second sameChars]
  case int.int first second =>
    have sameText : toString first = toString second := sameChars
    rw [toString_int_injective sameText]
  case float.float first second => exact trusted first second rfl rfl sameChars
  case str.str first second =>
    have sameText : Text.quote first = Text.quote second := sameChars
    rw [Text.quote_injective sameText]

theorem canonicalText_singleton (literal : Literal) :
    canonicalText [literal] = canonical literal := by
  have once : Literal.distinct [literal] = [literal] := rfl
  rw [canonicalText, once, List.map_singleton, List.mergeSort_singleton,
    String.intercalate_singleton]

/-- The literals that a canonical text is made of, in the order of their texts. -/
def sortedTexts (values : List Literal) : List String :=
  ((Literal.distinct values).map canonical).mergeSort fun left right => left ≤ right

theorem mem_sortedTexts_iff (values : List Literal) (text : String) :
    text ∈ sortedTexts values ↔
      Exists fun literal => literal ∈ Literal.distinct values ∧ canonical literal = text := by
  rw [sortedTexts, (List.mergeSort_perm _ _).mem_iff, List.mem_map]

/-- A text that can be found again among others that it is joined with. -/
def Separable (text : String) : Prop := text ≠ "" ∧ '\x1f' ∉ text.toList

theorem splitOn_joined {texts : List String} (filled : texts ≠ [])
    (separable : forall text, text ∈ texts -> Separable text) :
    ("\x1f".intercalate texts).toList.splitOn '\x1f' = texts.map String.toList := by
  rw [String.toList_intercalate]
  refine List.splitOn_intercalate '\x1f' ?_ (by simpa using filled)
  intro chars member
  rcases List.mem_map.mp member with ⟨text, textMember, rfl⟩
  exact (separable text textMember).2

theorem joined_ne_empty {texts : List String} (filled : texts ≠ [])
    (separable : forall text, text ∈ texts -> Separable text) :
    "\x1f".intercalate texts ≠ "" := by
  intro empty
  have parts := splitOn_joined filled separable
  rw [empty] at parts
  cases texts with
  | nil => exact filled rfl
  | cons first rest =>
      have firstEmpty : [] = first.toList := (List.cons.inj parts).1
      refine (separable first List.mem_cons_self).1 ?_
      rw [← String.toList_inj, ← firstEmpty]
      rfl

/-- Texts without the separator are told by the text that they are joined to. -/
theorem joined_unique {left right : List String}
    (leftSeparable : forall text, text ∈ left -> Separable text)
    (rightSeparable : forall text, text ∈ right -> Separable text)
    (same : "\x1f".intercalate left = "\x1f".intercalate right) : left = right := by
  by_cases leftEmpty : left = []
  · by_cases rightEmpty : right = []
    · rw [leftEmpty, rightEmpty]
    · rw [leftEmpty, String.intercalate_nil] at same
      exact absurd same.symm (joined_ne_empty rightEmpty rightSeparable)
  · by_cases rightEmpty : right = []
    · rw [rightEmpty, String.intercalate_nil] at same
      exact absurd same (joined_ne_empty leftEmpty leftSeparable)
    · have parts := splitOn_joined leftEmpty leftSeparable
      rw [same, splitOn_joined rightEmpty rightSeparable] at parts
      exact (List.map_injective_iff.mpr (fun _ _ => String.toList_inj.mp) parts).symm

theorem separable_of_mem_sortedTexts {values : List Literal} {text : String}
    (member : text ∈ sortedTexts values) : Separable text := by
  rcases (mem_sortedTexts_iff values text).mp member with ⟨literal, _, rfl⟩
  refine ⟨?_, separator_not_mem_canonical literal⟩
  intro empty
  have chars := toList_canonical literal
  rw [empty] at chars
  simp at chars

theorem identities_subset_of_sortedTexts {left right : List Literal}
    (trusted : forall first second, .float first ∈ left -> .float second ∈ right ->
      first.text = second.text ->
      (Literal.float first).identity = (Literal.float second).identity)
    (same : sortedTexts left = sortedTexts right) {one : Literal.Identity}
    (member : one ∈ left.map Literal.identity) : one ∈ right.map Literal.identity := by
  rw [← Literal.mem_identity_distinct_iff] at member ⊢
  rcases List.mem_map.mp member with ⟨literal, literalMember, rfl⟩
  have text : canonical literal ∈ sortedTexts left :=
    (mem_sortedTexts_iff left _).mpr ⟨literal, literalMember, rfl⟩
  rw [same] at text
  rcases (mem_sortedTexts_iff right _).mp text with ⟨other, otherMember, sameText⟩
  refine List.mem_map.mpr ⟨other, otherMember, ?_⟩
  refine (identity_unique ?_ sameText.symm).symm
  rintro first second rfl rfl sameFloat
  exact trusted first second (Literal.mem_of_mem_distinct literalMember)
    (Literal.mem_of_mem_distinct otherMember) sameFloat

/-- The canonical text of literals tells the set of them. -/
theorem identities_unique {left right : List Literal}
    (trusted : forall first second, .float first ∈ left -> .float second ∈ right ->
      first.text = second.text ->
      (Literal.float first).identity = (Literal.float second).identity)
    (same : canonicalText left = canonicalText right) :
    Literal.identities left = Literal.identities right := by
  have sameTexts : sortedTexts left = sortedTexts right :=
    joined_unique (fun _ => separable_of_mem_sortedTexts) (fun _ => separable_of_mem_sortedTexts)
      same
  ext one
  rw [Literal.identities, Literal.identities, List.mem_toFinset, List.mem_toFinset]
  constructor
  · exact identities_subset_of_sortedTexts trusted sameTexts
  · refine identities_subset_of_sortedTexts ?_ sameTexts.symm
    intro first second firstMember secondMember sameFloat
    exact (trusted second first secondMember firstMember sameFloat.symm).symm

end EnumDecoder
end RouteIR
