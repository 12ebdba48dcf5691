namespace RouteIR

/-!
# Ordered tables with text keys

A table is a list of pairs.  A key that is written again keeps its place and takes
the later value, so a table built from pairs has each key once, in the order of
first appearance.
-/

namespace Keyed

variable {α β : Type}

def keys (table : List (String × α)) : List String := table.map Prod.fst

/-- Writes a value under a key: in place when the key is there, else at the end. -/
def insert (key : String) (value : α) : List (String × α) → List (String × α)
  | [] => [(key, value)]
  | (entryKey, entryValue) :: rest =>
      if entryKey = key then (key, value) :: rest
      else (entryKey, entryValue) :: insert key value rest

def ofList (pairs : List (String × α)) : List (String × α) :=
  pairs.foldl (fun table pair => insert pair.1 pair.2 table) []

/-- The first key that already occurred before it. -/
def firstRepeated? : List String → List (String × α) → Option String
  | _, [] => none
  | seen, (key, _) :: rest => if key ∈ seen then some key else firstRepeated? (key :: seen) rest

@[simp] theorem keys_nil : keys ([] : List (String × α)) = [] := rfl

@[simp] theorem keys_cons (pair : String × α) (table : List (String × α)) :
    keys (pair :: table) = pair.1 :: keys table := rfl

theorem mem_keys_insert (key other : String) (value : α) (table : List (String × α)) :
    other ∈ keys (insert key value table) ↔ other = key ∨ other ∈ keys table := by
  induction table with
  | nil => simp [insert]
  | cons pair rest ih =>
      by_cases same : pair.1 = key <;> grind [insert, keys_cons]

theorem nodup_keys_insert (key : String) (value : α) (table : List (String × α))
    (distinct : (keys table).Nodup) : (keys (insert key value table)).Nodup := by
  induction table with
  | nil => simp [insert]
  | cons pair rest ih =>
      have := mem_keys_insert key pair.1 value rest
      by_cases same : pair.1 = key <;> grind [insert, keys_cons, List.nodup_cons]

/-- A table built from pairs has each key once. -/
theorem nodup_keys_ofList (pairs : List (String × α)) : (keys (ofList pairs)).Nodup := by
  suffices general : ∀ table : List (String × α), (keys table).Nodup →
      (keys (pairs.foldl (fun table pair => insert pair.1 pair.2 table) table)).Nodup by
    exact general [] (by simp)
  induction pairs with
  | nil => exact fun _ distinct => distinct
  | cons pair rest ih => exact fun table distinct => ih _ (nodup_keys_insert _ _ _ distinct)

end Keyed
end RouteIR
