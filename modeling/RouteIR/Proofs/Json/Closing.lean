import RouteIR.Json.Reader
import RouteIR.Proofs.Keyed
import RouteIR.Proofs.Outcome

namespace RouteIR
namespace Json

/-!
# Closing objects

A text whose objects are left as they are written has a value with every member in it, repeated
keys included.  What the reader makes of the text with another rule for closing objects is made
from that value, from the inside out.
-/

/-- Leaves an object as it is written. -/
def Closing.verbatim : Closing := fun members => .ok (object members)

mutual

/-- Closes the objects of a value that have been left as they are written. -/
def close (closing : Closing) : Json -> Except ReadError Json
  | array items => do return array (← closeItems closing items)
  | object members => do closing (← closeMembers closing members)
  | value => return value

def closeItems (closing : Closing) : List Json -> Except ReadError (List Json)
  | [] => return []
  | item :: rest => do return (← close closing item) :: (← closeItems closing rest)

def closeMembers (closing : Closing) :
    List (String × Json) -> Except ReadError (List (String × Json))
  | [] => return []
  | (key, value) :: rest => do
      return (key, ← close closing value) :: (← closeMembers closing rest)

end

/-- An object that is a part of a value. -/
inductive HasObject : Json -> List (String × Json) -> Prop
  | self (members : List (String × Json)) : HasObject (object members) members
  | item {items : List Json} {item : Json} {members : List (String × Json)}
      (among : item ∈ items) (inside : HasObject item members) : HasObject (array items) members
  | member {outer : List (String × Json)} {key : String} {value : Json}
      {members : List (String × Json)} (among : (key, value) ∈ outer)
      (inside : HasObject value members) : HasObject (object outer) members

/-- No object in a value repeats a key. -/
def DistinctKeys (value : Json) : Prop :=
  forall members, value.HasObject members -> (Keyed.keys members).Nodup

/-! ## One step of the reader -/

section

variable {closing : Closing} {fuel : Nat} {chars left : List Char}

/-- Items are read when a value is, and behind it the bracket or a comma and more items. -/
theorem readItems_eq_ok_iff {items : List Json} :
    readItems closing (fuel + 1) chars = .ok (items, left) ↔
      Exists fun value => Exists fun after => readValue closing fuel chars = .ok (value, after) ∧
        ((skipSpace after = ']' :: left ∧ items = [value]) ∨
          Exists fun next => skipSpace after = ',' :: next ∧ Exists fun others =>
            readItems closing fuel (skipSpace next) = .ok (others, left) ∧
              items = value :: others) := by
  rw [readItems, Outcome.bind_eq_ok_iff]
  constructor
  · rintro ⟨⟨value, after⟩, reads, continues⟩
    refine ⟨value, after, reads, ?_⟩
    dsimp only at continues
    split at continues
    · next ends =>
        cases continues
        exact .inl ⟨ends, rfl⟩
    · next next goesOn =>
        rcases Outcome.bind_eq_ok_iff.mp continues with ⟨⟨others, _⟩, rest, same⟩
        cases same
        exact .inr ⟨next, goesOn, others, rest, rfl⟩
    · cases continues
  · rintro ⟨value, after, reads, ⟨ends, rfl⟩ | ⟨next, goesOn, others, rest, rfl⟩⟩
    · refine ⟨(value, after), reads, ?_⟩
      dsimp only
      rw [ends]
      rfl
    · refine ⟨(value, after), reads, ?_⟩
      dsimp only
      rw [goesOn]
      exact Outcome.bind_eq_ok_iff.mpr ⟨(others, left), rest, rfl⟩

/-- Members are read when a key, a colon and a value are, and behind them the brace or a comma and
more members. -/
theorem readMembers_eq_ok_iff {members : List (String × Json)} :
    readMembers closing (fuel + 1) chars = .ok (members, left) ↔
      Exists fun rest => chars = '"' :: rest ∧ Exists fun key => Exists fun afterKey =>
        readString rest = .ok (key, afterKey) ∧ Exists fun afterColon =>
          skipSpace afterKey = ':' :: afterColon ∧ Exists fun value => Exists fun after =>
            readValue closing fuel (skipSpace afterColon) = .ok (value, after) ∧
              ((skipSpace after = '\x7d' :: left ∧ members = [(key, value)]) ∨
                Exists fun next => skipSpace after = ',' :: next ∧ Exists fun others =>
                  readMembers closing fuel (skipSpace next) = .ok (others, left) ∧
                    members = (key, value) :: others) := by
  constructor
  · intro reads
    rw [readMembers.eq_def] at reads
    dsimp only at reads
    split at reads
    · next rest =>
        rcases Outcome.bind_eq_ok_iff.mp reads with ⟨⟨key, afterKey⟩, isKey, reads⟩
        dsimp only at reads
        split at reads
        · next afterColon colon =>
            rcases Outcome.bind_eq_ok_iff.mp reads with ⟨⟨value, after⟩, isValue, continues⟩
            refine ⟨rest, rfl, key, afterKey, isKey, afterColon, colon, value, after, isValue, ?_⟩
            dsimp only at continues
            split at continues
            · next ends =>
                cases continues
                exact .inl ⟨ends, rfl⟩
            · next next goesOn =>
                rcases Outcome.bind_eq_ok_iff.mp continues with ⟨⟨others, _⟩, later, same⟩
                cases same
                exact .inr ⟨next, goesOn, others, later, rfl⟩
            · cases continues
        · cases reads
    · cases reads
  · rintro ⟨rest, rfl, key, afterKey, isKey, afterColon, colon, value, after, isValue, continues⟩
    rw [readMembers]
    refine Outcome.bind_eq_ok_iff.mpr ⟨(key, afterKey), isKey, ?_⟩
    dsimp only
    rw [colon]
    refine Outcome.bind_eq_ok_iff.mpr ⟨(value, after), isValue, ?_⟩
    dsimp only
    rcases continues with ⟨ends, rfl⟩ | ⟨next, goesOn, others, later, rfl⟩
    · rw [ends]
      rfl
    · rw [goesOn]
      exact Outcome.bind_eq_ok_iff.mpr ⟨(others, left), later, rfl⟩

section

variable {rest : List Char} {value : Json}

theorem readValue_text_eq_ok_iff :
    readValue closing (fuel + 1) ('"' :: rest) = .ok (value, left) ↔ Exists fun text =>
      readString rest = .ok (text, left) ∧ value = str text := by
  rw [readValue, Outcome.bind_eq_ok_iff]
  constructor
  · rintro ⟨⟨text, _⟩, isText, same⟩
    cases same
    exact ⟨text, isText, rfl⟩
  · rintro ⟨text, isText, rfl⟩
    exact ⟨(text, left), isText, rfl⟩

/-- An object ends at once, or members are read; then it is closed. -/
theorem readValue_object_eq_ok_iff :
    readValue closing (fuel + 1) ('\x7b' :: rest) = .ok (value, left) ↔ Exists fun members =>
      (skipSpace rest = '\x7d' :: left ∧ members = [] ∨
        (forall after, skipSpace rest ≠ '\x7d' :: after) ∧
          readMembers closing fuel (skipSpace rest) = .ok (members, left)) ∧
        closing members = .ok value := by
  rw [readValue]
  constructor
  · intro reads
    split at reads
    · next empty =>
        rcases Outcome.bind_eq_ok_iff.mp reads with ⟨_, closes, same⟩
        cases same
        exact ⟨[], .inl ⟨empty, rfl⟩, closes⟩
    · next filled =>
        rcases Outcome.bind_eq_ok_iff.mp reads with ⟨⟨members, _⟩, isMembers, reads⟩
        rcases Outcome.bind_eq_ok_iff.mp reads with ⟨_, closes, same⟩
        cases same
        exact ⟨members, .inr ⟨filled, isMembers⟩, closes⟩
  · rintro ⟨members, ⟨empty, rfl⟩ | ⟨filled, isMembers⟩, closes⟩
    · rw [empty]
      exact Outcome.bind_eq_ok_iff.mpr ⟨value, closes, rfl⟩
    · split
      · next after empty => exact absurd empty (filled after)
      · refine Outcome.bind_eq_ok_iff.mpr ⟨(members, left), isMembers, ?_⟩
        exact Outcome.bind_eq_ok_iff.mpr ⟨value, closes, rfl⟩

/-- An array ends at once, or items are read. -/
theorem readValue_array_eq_ok_iff :
    readValue closing (fuel + 1) ('[' :: rest) = .ok (value, left) ↔ Exists fun items =>
      (skipSpace rest = ']' :: left ∧ items = [] ∨
        (forall after, skipSpace rest ≠ ']' :: after) ∧
          readItems closing fuel (skipSpace rest) = .ok (items, left)) ∧
        value = array items := by
  rw [readValue]
  constructor
  · intro reads
    split at reads
    · next empty =>
        cases reads
        exact ⟨[], .inl ⟨empty, rfl⟩, rfl⟩
    · next filled =>
        rcases Outcome.bind_eq_ok_iff.mp reads with ⟨⟨items, _⟩, isItems, same⟩
        cases same
        exact ⟨items, .inr ⟨filled, isItems⟩, rfl⟩
  · rintro ⟨items, ⟨empty, rfl⟩ | ⟨filled, isItems⟩, rfl⟩
    · rw [empty]
      rfl
    · split
      · next after empty => exact absurd empty (filled after)
      · exact Outcome.bind_eq_ok_iff.mpr ⟨(items, left), isItems, rfl⟩

theorem readValue_other
    (other : forall first rest, chars = first :: rest -> first ∉ ['"', '\x7b', '[']) :
    readValue closing (fuel + 1) chars = readScalar chars := by
  rw [readValue.eq_def]
  dsimp only
  split
  · next rest => exact absurd (by simp) (other _ rest rfl)
  · next rest => exact absurd (by simp) (other _ rest rfl)
  · next rest => exact absurd (by simp) (other _ rest rfl)
  · rfl

end

/-- The first character of a value tells whether it is a string, an object, an array or something
else. -/
theorem readValue_eq_ok_iff {value : Json} :
    readValue closing (fuel + 1) chars = .ok (value, left) ↔
      (Exists fun rest => chars = '"' :: rest ∧ Exists fun text =>
        readString rest = .ok (text, left) ∧ value = str text) ∨
      (Exists fun rest => chars = '\x7b' :: rest ∧ Exists fun members =>
        (skipSpace rest = '\x7d' :: left ∧ members = [] ∨
          (forall after, skipSpace rest ≠ '\x7d' :: after) ∧
            readMembers closing fuel (skipSpace rest) = .ok (members, left)) ∧
          closing members = .ok value) ∨
      (Exists fun rest => chars = '[' :: rest ∧ Exists fun items =>
        (skipSpace rest = ']' :: left ∧ items = [] ∨
          (forall after, skipSpace rest ≠ ']' :: after) ∧
            readItems closing fuel (skipSpace rest) = .ok (items, left)) ∧
          value = array items) ∨
      ((forall first rest, chars = first :: rest -> first ∉ ['"', '\x7b', '[']) ∧
        readScalar chars = .ok (value, left)) := by
  constructor
  · intro reads
    by_cases other : forall first rest, chars = first :: rest -> first ∉ ['"', '\x7b', '[']
    · rw [readValue_other other] at reads
      exact .inr (.inr (.inr ⟨other, reads⟩))
    · push Not at other
      rcases other with ⟨first, rest, rfl, member⟩
      simp only [List.mem_cons, List.not_mem_nil, or_false] at member
      rcases member with rfl | rfl | rfl
      · exact .inl ⟨rest, rfl, readValue_text_eq_ok_iff.mp reads⟩
      · exact .inr (.inl ⟨rest, rfl, readValue_object_eq_ok_iff.mp reads⟩)
      · exact .inr (.inr (.inl ⟨rest, rfl, readValue_array_eq_ok_iff.mp reads⟩))
  · rintro (⟨rest, rfl, shows⟩ | ⟨rest, rfl, shows⟩ | ⟨rest, rfl, shows⟩ | ⟨other, isScalar⟩)
    · exact readValue_text_eq_ok_iff.mpr shows
    · exact readValue_object_eq_ok_iff.mpr shows
    · exact readValue_array_eq_ok_iff.mpr shows
    · rwa [readValue_other other]

end

/-! ## Reading and closing -/

/-- A word or a number has no objects to close. -/
theorem close_scalar {closing : Closing} {chars left : List Char} {value : Json}
    (isScalar : readScalar chars = .ok (value, left)) : close closing value = .ok value := by
  rw [readScalar] at isScalar
  split at isScalar
  · next word wordValue found =>
      cases isScalar
      have member := List.mem_of_find?_eq_some found
      simp only [words, List.mem_cons, Prod.mk.injEq, List.not_mem_nil, or_false] at member
      rcases member with ⟨_, rfl⟩ | ⟨_, rfl⟩ | ⟨_, rfl⟩ | ⟨_, rfl⟩ | ⟨_, rfl⟩ | ⟨_, rfl⟩ <;> rfl
  · split at isScalar
    · next result found =>
        split at isScalar
        · cases isScalar
          rw [readNumber?] at found
          dsimp only at found
          split at found
          · cases found
          · rw [Option.some_inj, numberFrom] at found
            dsimp only at found
            split at found <;> cases found <;> rfl
        · cases isScalar
    · cases isScalar

/-- Within so many steps, what is read is what is written, with its objects closed. -/
structure ClosesWhatIsWritten (closing : Closing) (fuel : Nat) : Prop where
  value : forall chars value left, readValue closing fuel chars = .ok (value, left) ↔
    Exists fun written => readValue .verbatim fuel chars = .ok (written, left) ∧
      close closing written = .ok value
  members : forall chars members left, readMembers closing fuel chars = .ok (members, left) ↔
    Exists fun written => readMembers .verbatim fuel chars = .ok (written, left) ∧
      closeMembers closing written = .ok members
  items : forall chars items left, readItems closing fuel chars = .ok (items, left) ↔
    Exists fun written => readItems .verbatim fuel chars = .ok (written, left) ∧
      closeItems closing written = .ok items

section

variable {closing : Closing} {fuel : Nat} {chars left : List Char}

theorem ClosesWhatIsWritten.value_succ (below : ClosesWhatIsWritten closing fuel) (value : Json) :
    readValue closing (fuel + 1) chars = .ok (value, left) ↔
      Exists fun written => readValue .verbatim (fuel + 1) chars = .ok (written, left) ∧
        close closing written = .ok value := by
  constructor
  · intro reads
    rcases readValue_eq_ok_iff.mp reads with ⟨rest, rfl, text, isText, rfl⟩ |
      ⟨rest, rfl, members, shows, closes⟩ | ⟨rest, rfl, items, shows, rfl⟩ | ⟨other, isScalar⟩
    · exact ⟨str text, readValue_eq_ok_iff.mpr (.inl ⟨rest, rfl, text, isText, rfl⟩), rfl⟩
    · rcases shows with ⟨empty, rfl⟩ | ⟨filled, isMembers⟩
      · exact ⟨object [], readValue_eq_ok_iff.mpr
          (.inr (.inl ⟨rest, rfl, [], .inl ⟨empty, rfl⟩, rfl⟩)), closes⟩
      · rcases (below.members _ _ _).mp isMembers with ⟨written, isWritten, closed⟩
        exact ⟨object written, readValue_eq_ok_iff.mpr
            (.inr (.inl ⟨rest, rfl, written, .inr ⟨filled, isWritten⟩, rfl⟩)),
          Outcome.bind_eq_ok_iff.mpr ⟨members, closed, closes⟩⟩
    · rcases shows with ⟨empty, rfl⟩ | ⟨filled, isItems⟩
      · exact ⟨array [], readValue_eq_ok_iff.mpr
          (.inr (.inr (.inl ⟨rest, rfl, [], .inl ⟨empty, rfl⟩, rfl⟩))), rfl⟩
      · rcases (below.items _ _ _).mp isItems with ⟨written, isWritten, closed⟩
        exact ⟨array written, readValue_eq_ok_iff.mpr
            (.inr (.inr (.inl ⟨rest, rfl, written, .inr ⟨filled, isWritten⟩, rfl⟩))),
          Outcome.bind_eq_ok_iff.mpr ⟨items, closed, rfl⟩⟩
    · exact ⟨value, readValue_eq_ok_iff.mpr (.inr (.inr (.inr ⟨other, isScalar⟩))),
        close_scalar isScalar⟩
  · rintro ⟨written, reads, closed⟩
    refine readValue_eq_ok_iff.mpr ?_
    rcases readValue_eq_ok_iff.mp reads with ⟨rest, rfl, text, isText, rfl⟩ |
      ⟨rest, rfl, members, shows, ⟨⟩⟩ | ⟨rest, rfl, items, shows, rfl⟩ | ⟨other, isScalar⟩
    · cases closed
      exact .inl ⟨rest, rfl, text, isText, rfl⟩
    · rcases Outcome.bind_eq_ok_iff.mp closed with ⟨closedMembers, areClosed, closes⟩
      refine .inr (.inl ⟨rest, rfl, closedMembers, ?_, closes⟩)
      rcases shows with ⟨empty, rfl⟩ | ⟨filled, isMembers⟩
      · cases areClosed
        exact .inl ⟨empty, rfl⟩
      · exact .inr ⟨filled, (below.members _ _ _).mpr ⟨members, isMembers, areClosed⟩⟩
    · rcases Outcome.bind_eq_ok_iff.mp closed with ⟨closedItems, areClosed, same⟩
      cases same
      refine .inr (.inr (.inl ⟨rest, rfl, closedItems, ?_, rfl⟩))
      rcases shows with ⟨empty, rfl⟩ | ⟨filled, isItems⟩
      · cases areClosed
        exact .inl ⟨empty, rfl⟩
      · exact .inr ⟨filled, (below.items _ _ _).mpr ⟨items, isItems, areClosed⟩⟩
    · rw [close_scalar isScalar] at closed
      cases closed
      exact .inr (.inr (.inr ⟨other, isScalar⟩))

theorem ClosesWhatIsWritten.items_succ (below : ClosesWhatIsWritten closing fuel)
    (items : List Json) :
    readItems closing (fuel + 1) chars = .ok (items, left) ↔
      Exists fun written => readItems .verbatim (fuel + 1) chars = .ok (written, left) ∧
        closeItems closing written = .ok items := by
  constructor
  · intro reads
    rcases readItems_eq_ok_iff.mp reads with ⟨value, after, isValue, continues⟩
    rcases (below.value _ _ _).mp isValue with ⟨first, isFirst, closedFirst⟩
    rcases continues with ⟨ends, rfl⟩ | ⟨next, goesOn, others, later, rfl⟩
    · refine ⟨[first], readItems_eq_ok_iff.mpr ⟨first, after, isFirst, .inl ⟨ends, rfl⟩⟩, ?_⟩
      exact Outcome.bind_eq_ok_iff.mpr ⟨value, closedFirst, rfl⟩
    · rcases (below.items _ _ _).mp later with ⟨rest, isRest, closedRest⟩
      refine ⟨first :: rest, readItems_eq_ok_iff.mpr
        ⟨first, after, isFirst, .inr ⟨next, goesOn, rest, isRest, rfl⟩⟩, ?_⟩
      exact Outcome.bind_eq_ok_iff.mpr ⟨value, closedFirst,
        Outcome.bind_eq_ok_iff.mpr ⟨others, closedRest, rfl⟩⟩
  · rintro ⟨written, reads, closed⟩
    rcases readItems_eq_ok_iff.mp reads with ⟨first, after, isFirst, continues⟩
    rcases continues with ⟨ends, rfl⟩ | ⟨next, goesOn, rest, isRest, rfl⟩
    · rcases Outcome.bind_eq_ok_iff.mp closed with ⟨value, closedFirst, same⟩
      cases same
      exact readItems_eq_ok_iff.mpr ⟨value, after,
        (below.value _ _ _).mpr ⟨first, isFirst, closedFirst⟩, .inl ⟨ends, rfl⟩⟩
    · rcases Outcome.bind_eq_ok_iff.mp closed with ⟨value, closedFirst, closed⟩
      rcases Outcome.bind_eq_ok_iff.mp closed with ⟨others, closedRest, same⟩
      cases same
      exact readItems_eq_ok_iff.mpr ⟨value, after,
        (below.value _ _ _).mpr ⟨first, isFirst, closedFirst⟩,
        .inr ⟨next, goesOn, others, (below.items _ _ _).mpr ⟨rest, isRest, closedRest⟩, rfl⟩⟩

theorem ClosesWhatIsWritten.members_succ (below : ClosesWhatIsWritten closing fuel)
    (members : List (String × Json)) :
    readMembers closing (fuel + 1) chars = .ok (members, left) ↔
      Exists fun written => readMembers .verbatim (fuel + 1) chars = .ok (written, left) ∧
        closeMembers closing written = .ok members := by
  constructor
  · intro reads
    rcases readMembers_eq_ok_iff.mp reads with ⟨start, rfl, key, afterKey, isKey, afterColon, colon,
      value, after, isValue, continues⟩
    rcases (below.value _ _ _).mp isValue with ⟨first, isFirst, closedFirst⟩
    rcases continues with ⟨ends, rfl⟩ | ⟨next, goesOn, others, later, rfl⟩
    · refine ⟨[(key, first)], readMembers_eq_ok_iff.mpr ⟨start, rfl, key, afterKey, isKey, afterColon,
        colon, first, after, isFirst, .inl ⟨ends, rfl⟩⟩, ?_⟩
      exact Outcome.bind_eq_ok_iff.mpr ⟨value, closedFirst, rfl⟩
    · rcases (below.members _ _ _).mp later with ⟨rest, isRest, closedRest⟩
      refine ⟨(key, first) :: rest, readMembers_eq_ok_iff.mpr ⟨start, rfl, key, afterKey, isKey,
        afterColon, colon, first, after, isFirst, .inr ⟨next, goesOn, rest, isRest, rfl⟩⟩, ?_⟩
      exact Outcome.bind_eq_ok_iff.mpr ⟨value, closedFirst,
        Outcome.bind_eq_ok_iff.mpr ⟨others, closedRest, rfl⟩⟩
  · rintro ⟨written, reads, closed⟩
    rcases readMembers_eq_ok_iff.mp reads with ⟨start, rfl, key, afterKey, isKey, afterColon, colon,
      first, after, isFirst, continues⟩
    rcases continues with ⟨ends, rfl⟩ | ⟨next, goesOn, rest, isRest, rfl⟩
    · rcases Outcome.bind_eq_ok_iff.mp closed with ⟨value, closedFirst, same⟩
      cases same
      exact readMembers_eq_ok_iff.mpr ⟨start, rfl, key, afterKey, isKey, afterColon, colon, value,
        after, (below.value _ _ _).mpr ⟨first, isFirst, closedFirst⟩, .inl ⟨ends, rfl⟩⟩
    · rcases Outcome.bind_eq_ok_iff.mp closed with ⟨value, closedFirst, closed⟩
      rcases Outcome.bind_eq_ok_iff.mp closed with ⟨others, closedRest, same⟩
      cases same
      exact readMembers_eq_ok_iff.mpr ⟨start, rfl, key, afterKey, isKey, afterColon, colon, value,
        after, (below.value _ _ _).mpr ⟨first, isFirst, closedFirst⟩,
        .inr ⟨next, goesOn, others, (below.members _ _ _).mpr ⟨rest, isRest, closedRest⟩, rfl⟩⟩

end

theorem closesWhatIsWritten (closing : Closing) (fuel : Nat) : ClosesWhatIsWritten closing fuel := by
  induction fuel with
  | zero =>
      refine ⟨fun _ _ _ => ?_, fun _ _ _ => ?_, fun _ _ _ => ?_⟩ <;>
      · constructor
        · intro reads
          cases reads
        · rintro ⟨_, reads, _⟩
          cases reads
  | succ fuel below =>
      exact ⟨fun _ value _ => below.value_succ value, fun _ members _ => below.members_succ members,
        fun _ items _ => below.items_succ items⟩

/-- A text is read as what is written in it, with its objects closed. -/
theorem read_eq_ok_iff {closing : Closing} {text : String} {value : Json} :
    read closing text = .ok value ↔
      Exists fun written => read .verbatim text = .ok written ∧ close closing written = .ok value := by
  have spelled (closing : Closing) {chars : List Char} (start : forall rest, chars ≠ '\ufeff' :: rest)
      (value : Json) : readChars closing chars = .ok value ↔ Exists fun left =>
        readValue closing (chars.length + 1) (skipSpace chars) = .ok (value, left) ∧
          skipSpace left = [] := by
    rw [readChars.eq_def]
    split
    · next rest => exact absurd rfl (start rest)
    · rw [Outcome.bind_eq_ok_iff]
      constructor
      · rintro ⟨⟨read, left⟩, reads, ends⟩
        dsimp only at ends
        split at ends
        · next empty =>
            cases ends
            exact ⟨left, reads, empty⟩
        · cases ends
      · rintro ⟨left, reads, empty⟩
        refine ⟨(value, left), reads, ?_⟩
        dsimp only
        rw [empty]
  rw [read, read]
  by_cases marked : Exists fun rest => text.toList = '\ufeff' :: rest
  · rcases marked with ⟨rest, chars⟩
    rw [chars]
    constructor
    · intro reads
      cases reads
    · rintro ⟨_, reads, _⟩
      cases reads
  · have start : forall rest, text.toList ≠ '\ufeff' :: rest := fun rest same => marked ⟨rest, same⟩
    simp only [spelled _ start]
    constructor
    · rintro ⟨left, reads, ends⟩
      rcases ((closesWhatIsWritten closing _).value _ _ _).mp reads with ⟨written, isWritten, closed⟩
      exact ⟨written, ⟨left, isWritten, ends⟩, closed⟩
    · rintro ⟨written, ⟨left, isWritten, ends⟩, closed⟩
      exact ⟨left, ((closesWhatIsWritten closing _).value _ _ _).mpr ⟨written, isWritten, closed⟩, ends⟩

/-! ## Refusing repeated keys -/

/-- Strictly closed, an object is as it is written, and its keys are all different. -/
theorem strict_eq_ok_iff {members : List (String × Json)} {value : Json} :
    Closing.strict members = .ok value ↔
      value = object members ∧ (Keyed.keys members).Nodup := by
  have distinct := Keyed.firstRepeated?_eq_none_iff [] members
  rw [Closing.strict]
  split
  · next key repeated =>
      rw [repeated] at distinct
      constructor
      · intro closes
        cases closes
      · rintro ⟨_, unique⟩
        cases distinct.mpr ⟨unique, fun _ _ => List.not_mem_nil⟩
  · next none =>
      constructor
      · intro closes
        cases closes
        exact ⟨rfl, (distinct.mp none).1⟩
      · rintro ⟨rfl, _⟩
        rfl

theorem lastWins_of_nodup {members : List (String × Json)} (distinct : (Keyed.keys members).Nodup) :
    Closing.lastWins members = .ok (object members) := by
  rw [Closing.lastWins, Keyed.ofList_of_nodup distinct]

theorem distinctKeys_array_iff {items : List Json} :
    DistinctKeys (array items) ↔ forall item, item ∈ items -> DistinctKeys item := by
  refine ⟨fun distinct item among members inside => distinct members (.item among inside), ?_⟩
  rintro distinct members ⟨⟩
  · next item among inside => exact distinct item among members inside

theorem distinctKeys_object_iff {members : List (String × Json)} :
    DistinctKeys (object members) ↔ (Keyed.keys members).Nodup ∧
      forall key value, (key, value) ∈ members -> DistinctKeys value := by
  constructor
  · intro distinct
    exact ⟨distinct members (.self members), fun key value among others inside =>
      distinct others (.member among inside)⟩
  · rintro ⟨distinct, values⟩ others ⟨⟩
    · exact distinct
    · next key value among inside => exact values key value among others inside

/-- A rule that leaves objects with distinct keys as they are. -/
def Closing.Lenient (closing : Closing) : Prop :=
  forall members, (Keyed.keys members).Nodup -> closing members = .ok (object members)

theorem lenient_strict : Closing.strict.Lenient := fun _ distinct =>
  strict_eq_ok_iff.mpr ⟨rfl, distinct⟩

theorem lenient_lastWins : Closing.lastWins.Lenient := fun _ => lastWins_of_nodup

mutual

theorem close_of_distinctKeys {closing : Closing} (lenient : closing.Lenient) :
    (value : Json) -> DistinctKeys value -> close closing value = .ok value
  | array items, distinct => by
      have items := closeItems_of_distinctKeys lenient items (distinctKeys_array_iff.mp distinct)
      exact Outcome.bind_eq_ok_iff.mpr ⟨_, items, rfl⟩
  | object members, distinct => by
      rcases distinctKeys_object_iff.mp distinct with ⟨unique, values⟩
      have closed := closeMembers_of_distinctKeys lenient members values
      exact Outcome.bind_eq_ok_iff.mpr ⟨_, closed, lenient members unique⟩
  | null, _ => rfl
  | bool _, _ => rfl
  | int _, _ => rfl
  | float _, _ => rfl
  | str _, _ => rfl

theorem closeItems_of_distinctKeys {closing : Closing} (lenient : closing.Lenient) :
    (items : List Json) -> (forall item, item ∈ items -> DistinctKeys item) ->
      closeItems closing items = .ok items
  | [], _ => rfl
  | item :: rest, distinct => by
      have first := close_of_distinctKeys lenient item (distinct item List.mem_cons_self)
      have later := closeItems_of_distinctKeys lenient rest fun other among =>
        distinct other (List.mem_cons_of_mem _ among)
      exact Outcome.bind_eq_ok_iff.mpr ⟨_, first, Outcome.bind_eq_ok_iff.mpr ⟨_, later, rfl⟩⟩

theorem closeMembers_of_distinctKeys {closing : Closing} (lenient : closing.Lenient) :
    (members : List (String × Json)) ->
      (forall key value, (key, value) ∈ members -> DistinctKeys value) ->
        closeMembers closing members = .ok members
  | [], _ => rfl
  | (key, value) :: rest, distinct => by
      have first := close_of_distinctKeys lenient value (distinct key value List.mem_cons_self)
      have later := closeMembers_of_distinctKeys lenient rest fun other value among =>
        distinct other value (List.mem_cons_of_mem _ among)
      exact Outcome.bind_eq_ok_iff.mpr ⟨_, first, Outcome.bind_eq_ok_iff.mpr ⟨_, later, rfl⟩⟩

end

mutual

/-- Objects can be closed strictly only if none repeats a key. -/
theorem distinctKeys_of_close : (written : Json) -> (value : Json) ->
    close .strict written = .ok value -> DistinctKeys written
  | array items, value, closed => by
      rcases Outcome.bind_eq_ok_iff.mp closed with ⟨closedItems, areClosed, _⟩
      exact distinctKeys_array_iff.mpr (distinctKeys_of_closeItems items closedItems areClosed)
  | object members, value, closed => by
      rcases Outcome.bind_eq_ok_iff.mp closed with ⟨closedMembers, areClosed, closes⟩
      rcases distinctKeys_of_closeMembers members closedMembers areClosed with ⟨same, values⟩
      exact distinctKeys_object_iff.mpr ⟨same ▸ (strict_eq_ok_iff.mp closes).2, values⟩
  | null, _, _ => by rintro _ ⟨⟩
  | bool _, _, _ => by rintro _ ⟨⟩
  | int _, _, _ => by rintro _ ⟨⟩
  | float _, _, _ => by rintro _ ⟨⟩
  | str _, _, _ => by rintro _ ⟨⟩

theorem distinctKeys_of_closeItems : (written : List Json) -> (items : List Json) ->
    closeItems .strict written = .ok items -> forall item, item ∈ written -> DistinctKeys item
  | [], _, closed => by
      cases closed
      exact fun _ among => absurd among List.not_mem_nil
  | item :: rest, _, closed => by
      rcases Outcome.bind_eq_ok_iff.mp closed with ⟨first, closedFirst, closed⟩
      rcases Outcome.bind_eq_ok_iff.mp closed with ⟨others, closedRest, same⟩
      cases same
      have atFirst := distinctKeys_of_close item first closedFirst
      have later := distinctKeys_of_closeItems rest others closedRest
      intro other among
      rcases List.mem_cons.mp among with rfl | among
      · exact atFirst
      · exact later other among

theorem distinctKeys_of_closeMembers : (written : List (String × Json)) ->
    (members : List (String × Json)) -> closeMembers .strict written = .ok members ->
      Keyed.keys members = Keyed.keys written ∧
        forall key value, (key, value) ∈ written -> DistinctKeys value
  | [], _, closed => by
      cases closed
      exact ⟨rfl, fun _ _ among => absurd among List.not_mem_nil⟩
  | (key, value) :: rest, _, closed => by
      rcases Outcome.bind_eq_ok_iff.mp closed with ⟨first, closedFirst, closed⟩
      rcases Outcome.bind_eq_ok_iff.mp closed with ⟨others, closedRest, same⟩
      cases same
      have atFirst := distinctKeys_of_close value first closedFirst
      rcases distinctKeys_of_closeMembers rest others closedRest with ⟨keys, later⟩
      refine ⟨congrArg (key :: ·) keys, fun otherKey other among => ?_⟩
      rcases List.mem_cons.mp among with same | among
      · cases same
        exact atFirst
      · exact later otherKey other among

end

/-- A text is read strictly as what is written in it, if no object repeats a key. -/
theorem read_strict_eq_ok_iff {text : String} {value : Json} :
    read .strict text = .ok value ↔ read .verbatim text = .ok value ∧ DistinctKeys value := by
  rw [read_eq_ok_iff]
  constructor
  · rintro ⟨written, reads, closed⟩
    have distinct := distinctKeys_of_close written value closed
    rw [close_of_distinctKeys lenient_strict written distinct] at closed
    cases closed
    exact ⟨reads, distinct⟩
  · rintro ⟨reads, distinct⟩
    exact ⟨value, reads, close_of_distinctKeys lenient_strict value distinct⟩

/-- Where no object repeats a key, the last of equal keys is the only one. -/
theorem read_lastWins_of_distinctKeys {text : String} {value : Json}
    (reads : read .verbatim text = .ok value) (distinct : DistinctKeys value) :
    read .lastWins text = .ok value :=
  read_eq_ok_iff.mpr ⟨value, reads, close_of_distinctKeys lenient_lastWins value distinct⟩

end Json
end RouteIR
