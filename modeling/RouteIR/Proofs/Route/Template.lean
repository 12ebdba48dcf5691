import Mathlib.Data.List.Infix
import Mathlib.Data.List.TakeWhile
import RouteIR.Route.Template

namespace RouteIR

/-!
# Placeholders found in a text

A placeholder stands in a template wherever its name stands between braces, so what is found can
be said without a search: the names that are not empty, hold no delimiter, and occur in braces,
in the order of their first places.  A search that goes on behind each name it finds loses none
of them, since no brace opens inside a placeholder.
-/

namespace Template

/-! ## Names in the order of their first occurrence -/

/-- Of names that occur, each is kept where it occurs first. -/
theorem pairwise_eraseDups (names : List String) :
    names.eraseDups.Pairwise fun name other => names.idxOf name < names.idxOf other := by
  induction names using List.reverseRecOn with
  | nil => exact .nil
  | append_singleton names last ih =>
      have early : names.eraseDups.Pairwise fun name other =>
          (names ++ [last]).idxOf name < (names ++ [last]).idxOf other := by
        refine ih.imp_of_mem fun {name other} member otherMember before => ?_
        rwa [List.idxOf_append_of_mem (List.mem_eraseDups.mp member),
          List.idxOf_append_of_mem (List.mem_eraseDups.mp otherMember)]
      rw [List.eraseDups_append]
      by_cases known : last ∈ names
      · simpa [List.removeAll, known] using early
      · have once : ([last].removeAll names).eraseDups = [last] := by
          simp [List.removeAll, known, List.eraseDups_cons]
        rw [once, List.pairwise_append]
        refine ⟨early, List.pairwise_singleton _ _, fun name member other same => ?_⟩
        have occurs := List.mem_eraseDups.mp member
        rw [List.mem_singleton.mp same, List.idxOf_append_of_mem occurs,
          List.idxOf_append_of_notMem known]
        exact Nat.lt_of_lt_of_le (List.idxOf_lt_length_of_mem occurs) (Nat.le_add_right _ _)

theorem nodup_eraseDups (names : List String) : names.eraseDups.Nodup :=
  (pairwise_eraseDups names).imp fun {_ _} before same =>
    Nat.ne_of_lt before (congrArg (names.idxOf ·) same)

theorem nodup_placeholders (template : String) : (placeholders template).Nodup :=
  nodup_eraseDups _

/-! ## Names in braces -/

/-- What stands in a template for a placeholder. -/
def braced (name : String) : String := "\x7b" ++ name ++ "\x7d"

theorem toList_braced (name : String) : (braced name).toList = '{' :: (name.toList ++ ['}']) := by
  simp [braced]

/-- A text that is not empty and holds neither a brace nor a slash. -/
def IsName (name : List Char) : Prop :=
  name ≠ [] ∧ forall char, char ∈ name -> char ≠ '{' ∧ char ≠ '}' ∧ char ≠ '/'

/-- Characters from a place on spell a placeholder. -/
def StandsAt (chars : List Char) (name : String) (place : Nat) : Prop :=
  (braced name).toList <+: chars.drop place

theorem not_isDelimiter_iff (char : Char) :
    (!isDelimiter char) = true ↔ char ≠ '{' ∧ char ≠ '}' ∧ char ≠ '/' := by
  simp [isDelimiter, and_assoc]

variable {chars name : List Char}

/-- A name at the start is all that comes before the first delimiter, if that is a closing brace. -/
theorem nameAt?_eq_some_iff :
    nameAt? chars = some name ↔ IsName name ∧ name ++ ['}'] <+: chars := by
  constructor
  · rcases List.takeWhile_prefix (!isDelimiter ·) (l := chars) with ⟨rest, parts⟩
    have plain (char : Char) (member : char ∈ chars.takeWhile (!isDelimiter ·)) :
        char ≠ '{' ∧ char ≠ '}' ∧ char ≠ '/' :=
      (not_isDelimiter_iff char).mp (List.mem_takeWhile_imp (p := (!isDelimiter ·)) member)
    rw [nameAt?]
    generalize chars.takeWhile (!isDelimiter ·) = run at parts plain
    subst parts
    simp only [List.drop_left, List.isEmpty_iff]
    intro found
    split at found
    · cases found
    · next filled =>
        split at found
        · next closed =>
            cases found
            rcases List.head?_eq_some_iff.mp closed with ⟨behind, rfl⟩
            exact ⟨⟨filled, plain⟩, behind, by simp⟩
        · cases found
  · rintro ⟨⟨filled, plain⟩, rest, rfl⟩
    have run : (name ++ ['}'] ++ rest).takeWhile (!isDelimiter ·) = name := by
      rw [List.append_assoc, List.takeWhile_append_of_pos fun char member =>
        (not_isDelimiter_iff char).mpr (plain char member)]
      simp [isDelimiter]
    rw [nameAt?, run]
    simp [filled]

/-- The name of a placeholder that stands at the start of a text. -/
def heading? : List Char -> Option (List Char)
  | [] => none
  | char :: rest => if char = '{' then nameAt? rest else none

theorem heading?_eq_some_iff :
    heading? chars = some name ↔ IsName name ∧ '{' :: (name ++ ['}']) <+: chars := by
  cases chars with
  | nil => simp [heading?]
  | cons char rest =>
      rw [heading?, List.cons_prefix_cons]
      split
      · next brace => rw [nameAt?_eq_some_iff, brace]; simp
      · next other => simp [Ne.symm other]

theorem occurrences_cons (char : Char) (rest : List Char) :
    occurrences (char :: rest) = (heading? (char :: rest)).toList ++ occurrences rest := by
  rw [occurrences, heading?]
  split <;> rfl

theorem mem_occurrences_iff :
    name ∈ occurrences chars ↔ IsName name ∧ '{' :: (name ++ ['}']) <:+: chars := by
  induction chars with
  | nil => simp [occurrences]
  | cons char rest ih =>
      rw [occurrences_cons, List.mem_append, Option.mem_toList, heading?_eq_some_iff, ih,
        ← and_or_left, List.infix_cons_iff]

/-! ## First places -/

/-- The names of a text, repetitions included. -/
def namesIn (chars : List Char) : List String := (occurrences chars).map String.ofList

theorem namesIn_cons (char : Char) (rest : List Char) :
    namesIn (char :: rest) =
      ((heading? (char :: rest)).map String.ofList).toList ++ namesIn rest := by
  rw [namesIn, occurrences_cons, List.map_append, namesIn]
  cases heading? (char :: rest) <;> rfl

theorem mem_namesIn_iff {name : String} :
    name ∈ namesIn chars ↔ IsName name.toList ∧ (braced name).toList <:+: chars := by
  rw [namesIn, List.mem_map, toList_braced, ← mem_occurrences_iff]
  constructor
  · rintro ⟨found, member, rfl⟩
    rwa [String.toList_ofList]
  · exact fun member => ⟨_, member, String.ofList_toList⟩

theorem heading?_of_standsAt {name : String} (isName : IsName name.toList)
    (stands : StandsAt chars name 0) : (heading? chars).map String.ofList = some name := by
  rw [StandsAt, List.drop_zero, toList_braced] at stands
  rw [heading?_eq_some_iff.mpr ⟨isName, stands⟩, Option.map_some, String.ofList_toList]

theorem standsAt_of_heading? {name : String}
    (found : (heading? chars).map String.ofList = some name) : StandsAt chars name 0 := by
  rcases Option.map_eq_some_iff.mp found with ⟨first, heads, rfl⟩
  rw [StandsAt, List.drop_zero, toList_braced, String.toList_ofList]
  exact (heading?_eq_some_iff.mp heads).2

/-- A name that comes before another among those of a text stands before every place of it. -/
theorem exists_standsAt_lt {name other : String} (member : name ∈ namesIn chars)
    (earlier : (namesIn chars).idxOf name < (namesIn chars).idxOf other)
    (isName : IsName other.toList) {place : Nat} (stands : StandsAt chars other place) :
    Exists fun before => before < place ∧ StandsAt chars name before := by
  induction chars generalizing place with
  | nil => cases member
  | cons char rest ih =>
      rw [namesIn_cons] at member earlier
      cases found : (heading? (char :: rest)).map String.ofList with
      | none =>
          rw [found] at member earlier
          cases place with
          | zero =>
              rw [heading?_of_standsAt isName stands] at found
              cases found
          | succ place =>
              rcases ih member earlier stands with ⟨before, sooner, there⟩
              exact ⟨before + 1, Nat.succ_lt_succ sooner, there⟩
      | some first =>
          rw [found] at member earlier
          simp only [Option.toList_some, List.singleton_append] at member earlier
          have otherwise : other ≠ first := by
            rintro rfl
            rw [List.idxOf_cons_self] at earlier
            exact Nat.not_lt_zero _ earlier
          cases place with
          | zero =>
              rw [heading?_of_standsAt isName stands] at found
              exact absurd (Option.some.inj found) otherwise
          | succ place =>
              by_cases same : name = first
              · rw [← same] at found
                exact ⟨0, Nat.succ_pos place, standsAt_of_heading? found⟩
              · have later := (List.mem_cons.mp member).resolve_left same
                rw [List.idxOf_cons_ne _ (Ne.symm same), List.idxOf_cons_ne _ (Ne.symm otherwise)]
                  at earlier
                rcases ih later (Nat.lt_of_succ_lt_succ earlier) stands with
                  ⟨before, sooner, there⟩
                exact ⟨before + 1, Nat.succ_lt_succ sooner, there⟩

/-! ## The search that goes on behind each name -/

/-- Looks for a placeholder from left to right, and goes on behind each one that it finds. -/
def scan : List Char -> List (List Char)
  | [] => []
  | char :: rest =>
      match heading? (char :: rest) with
      | some name => name :: scan (rest.drop (name.length + 1))
      | none => scan rest
termination_by chars => chars.length
decreasing_by
  all_goals simp only [List.length_cons, List.length_drop]; omega

/-- Where no brace opens, nothing is found. -/
theorem occurrences_append {skipped : List Char} (plain : '{' ∉ skipped) (rest : List Char) :
    occurrences (skipped ++ rest) = occurrences rest := by
  induction skipped with
  | nil => rfl
  | cons char skipped ih =>
      rw [List.mem_cons, not_or] at plain
      rw [List.cons_append, occurrences, if_neg (Ne.symm plain.1), ih plain.2]

theorem scan_eq_occurrences (chars : List Char) : scan chars = occurrences chars := by
  fun_induction scan chars with
  | case1 => rfl
  | case2 char rest name found ih =>
      rw [occurrences_cons, found, ih]
      rcases heading?_eq_some_iff.mp found with ⟨⟨_, plain⟩, starts⟩
      rcases (List.cons_prefix_cons.mp starts).2 with ⟨behind, rfl⟩
      have closed : '{' ∉ name ++ ['}'] := by
        simp only [List.mem_append, List.mem_singleton, not_or]
        exact ⟨fun member => (plain _ member).1 rfl, by decide⟩
      rw [occurrences_append closed, List.drop_left' (by simp)]
      rfl
  | case3 char rest found ih => rw [occurrences_cons, found, ih]; rfl

/-- The placeholders of a template are what a search finds that goes on behind each of them.  Each
is there once, and those that are there are the texts that are not empty, hold neither a brace nor
a slash, and stand in the template between braces.  They come in the order of their first places. -/
theorem placeholders_exact (template : String) :
    placeholders template = ((scan template.toList).map String.ofList).eraseDups ∧
    (placeholders template).Nodup ∧
    (forall name, name ∈ placeholders template ↔
      name ≠ "" ∧ (forall char, char ∈ name.toList -> char ≠ '{' ∧ char ≠ '}' ∧ char ≠ '/') ∧
        (braced name).toList <:+: template.toList) ∧
    (placeholders template).Pairwise fun name other => forall place,
      StandsAt template.toList other place ->
        Exists fun earlier => earlier < place ∧ StandsAt template.toList name earlier := by
  have listed : placeholders template = (namesIn template.toList).eraseDups := rfl
  have member_iff (name : String) : name ∈ placeholders template ↔
      IsName name.toList ∧ (braced name).toList <:+: template.toList := by
    rw [listed, List.mem_eraseDups, mem_namesIn_iff]
  refine ⟨?_, nodup_placeholders template, fun name => ?_, ?_⟩
  · rw [scan_eq_occurrences, placeholders]
  · rw [member_iff, IsName, and_assoc, ne_eq, String.toList_eq_nil_iff]
  · rw [listed]
    refine (pairwise_eraseDups _).imp_of_mem fun {name other} member otherMember before place => ?_
    have isName := (mem_namesIn_iff.mp (List.mem_eraseDups.mp otherMember)).1
    exact exists_standsAt_lt (List.mem_eraseDups.mp member) before isName

example : placeholders "/\x7ba\x7d\x7b\x7bc\x7d\x7d\x7ba\x7d" = ["a", "c"] := by decide

end Template
end RouteIR
