import RouteIR.Proofs.Decoder.Exploration

namespace RouteIR

/-!
# Surveys one after another

Going through a list of types goes through its parts one after another.  What was explored
before is passed over, since the plan has its decoders and the components that it refers to
were visited.  So the plan changes only where something is met for the first time.  On its way
a survey looks up the names that its types lead to, and asks nothing else of the components.

A component counts as visited when it is opened, while its body is still to be explored.
Between the types of a list nothing is open any more: every visited component is finished, and
with a type that is explored everything is that it leads to.
-/

namespace Survey

variable {components : Components}

/-! ## Steps at a reference -/

theorem explore_visited {name : String} {survey : Survey} (known : name ∈ survey.visited)
    (rest : List TypeExpr) :
    explore components (.ref name :: rest) survey = explore components rest survey := by
  rw [explore, dif_pos (by simpa using known)]

theorem explore_opened {name : String} {target : TypeExpr} {survey : Survey}
    (fresh : name ∉ survey.visited) (found : components.lookup name = some target)
    (rest : List TypeExpr) :
    explore components (.ref name :: rest) survey =
      explore components (target :: rest) ⟨name :: survey.visited, survey.plan⟩ := by
  rw [explore, dif_neg (by simpa using fresh)]
  split
  · next absent =>
      rw [found] at absent
      cases absent
  · next other otherFound =>
      rw [found] at otherFound
      cases otherFound
      rfl

theorem explore_missing {name : String} {survey : Survey} (fresh : name ∉ survey.visited)
    (absent : components.lookup name = none) (rest : List TypeExpr) :
    explore components (.ref name :: rest) survey =
      (⟨name :: survey.visited, survey.plan⟩, some (.unknownComponent name)) := by
  rw [explore, dif_neg (by simpa using fresh)]
  split
  · rfl
  · next found =>
      rw [absent] at found
      cases found

/-- A reference that was not visited and can be gone through names a component. -/
theorem exists_target_of_explore {name : String} {survey : Survey} {rest : List TypeExpr}
    (fresh : name ∉ survey.visited)
    (succeeded : (explore components (.ref name :: rest) survey).2 = none) :
    Exists fun target => components.lookup name = some target := by
  rw [explore, dif_neg (by simpa using fresh)] at succeeded
  split at succeeded
  · cases succeeded
  · next target found => exact ⟨target, found⟩

/-! ## Components that have a part in a survey -/

/-- Surveys go the same way over components with the same under every name that is referred to.
Those are the names in a property of the types that is handed on from each to what it leads to. -/
theorem explore_congr {other : Components} {property : TypeExpr -> Prop}
    (hereditary : components.Hereditary property)
    (alike : forall name, property (.ref name) -> other.lookup name = components.lookup name)
    (types : List TypeExpr) (survey : Survey)
    (start : forall type, type ∈ types -> property type) :
    explore other types survey = explore components types survey := by
  revert start
  apply explore_induction components (motive := fun types survey outcome =>
    (forall type, type ∈ types -> property type) -> explore other types survey = outcome)
  case nil =>
    intro survey _
    rw [explore]
  case primitive =>
    intro scalar rest survey outcome ih start
    rw [explore, ih (List.forall_mem_of_forall_mem_cons start)]
  case enum =>
    intro values rest survey outcome ih start
    rw [explore, ih (List.forall_mem_of_forall_mem_cons start)]
  case array =>
    intro element rest survey outcome ih start
    rw [explore, ih (hereditary.opened_array start)]
  case record =>
    intro fields rest survey outcome ih start
    rw [explore, ih (hereditary.opened_record start)]
  case visited =>
    intro name rest survey outcome known ih start
    rw [explore_visited known, ih (List.forall_mem_of_forall_mem_cons start)]
  case missing =>
    intro name rest survey fresh absent start
    have absentThere := (alike name (start _ List.mem_cons_self)).trans absent
    exact explore_missing fresh absentThere rest
  case opened =>
    intro name target rest survey outcome fresh found ih start
    have foundThere := (alike name (start _ List.mem_cons_self)).trans found
    rw [explore_opened fresh foundThere]
    exact ih (hereditary.opened_ref found start)

/-! ## One list after another -/

/-- Two lists are gone through one after the other, if the first can be. -/
theorem explore_append {left : List TypeExpr} {survey : Survey}
    (succeeded : (explore components left survey).2 = none) (right : List TypeExpr) :
    explore components (left ++ right) survey =
      explore components right (explore components left survey).1 := by
  revert succeeded
  apply explore_induction components (motive := fun left survey outcome =>
    outcome.2 = none -> explore components (left ++ right) survey =
      explore components right outcome.1)
  case nil => exact fun _ _ => rfl
  case primitive =>
    intro scalar rest survey outcome ih succeeded
    rw [List.cons_append, explore, ih succeeded]
  case enum =>
    intro values rest survey outcome ih succeeded
    rw [List.cons_append, explore, ih succeeded]
  case array =>
    intro element rest survey outcome ih succeeded
    rw [List.cons_append, explore]
    exact ih succeeded
  case record =>
    intro fields rest survey outcome ih succeeded
    rw [List.cons_append, explore, ← List.append_assoc]
    exact ih succeeded
  case visited =>
    intro name rest survey outcome known ih succeeded
    rw [List.cons_append, explore_visited known, ih succeeded]
  case missing =>
    intro name rest survey _ _ failed
    cases failed
  case opened =>
    intro name target rest survey outcome fresh found ih succeeded
    rw [List.cons_append, explore_opened fresh found]
    exact ih succeeded

/-- What is explored is passed over. -/
theorem explore_explored {survey : Survey} {type : TypeExpr} (explored : Explored survey type)
    (rest : List TypeExpr) :
    explore components (type :: rest) survey = explore components rest survey := by
  induction explored generalizing rest with
  | primitive planned =>
      rw [explore, DecoderPlan.withPrimitive_of_planned planned]
  | array _ ih => rw [explore, ih]
  | enum planned => rw [explore, DecoderPlan.withEnum_of_planned planned]
  | ref visited => exact explore_visited visited rest
  | @record fields inner ih =>
      clear inner
      rw [explore]
      induction fields with
      | nil => rfl
      | cons field fields within =>
          rw [List.map_cons, List.cons_append, ih field List.mem_cons_self]
          exact within fun other member => ih other (List.mem_cons_of_mem _ member)

/-! ## Finished components -/

/-- Among some names, every component that was visited is explored from inside. -/
def Finished (components : Components) (among : String -> Prop) (survey : Survey) : Prop :=
  forall name, name ∈ survey.visited -> among name ->
    Exists fun target => components.lookup name = some target ∧ Explored survey target

theorem finished_empty (among : String -> Prop) : Finished components among empty := by
  intro name member
  cases member

theorem Finished.mono {among fewer : String -> Prop} {survey : Survey}
    (finished : Finished components among survey) (within : forall name, fewer name -> among name) :
    Finished components fewer survey :=
  fun name visited wanted => finished name visited (within name wanted)

/-- What was finished stays so, and what is opened on the way is finished in the end. -/
theorem Finished.completed {among : String -> Prop} {types : List TypeExpr}
    {before after : Survey} (finished : Finished components among before)
    (completed : Completed components types before after) : Finished components among after := by
  intro name visited wanted
  by_cases known : name ∈ before.visited
  · rcases finished name known wanted with ⟨target, found, explored⟩
    exact ⟨target, found, explored.extend completed.growth⟩
  · exact completed.opened name visited known

/-- With no component opened, what was finished stays so when the plan grows. -/
theorem Finished.extend {among : String -> Prop} {before after : Survey}
    (finished : Finished components among before) (growth : after.Extends before)
    (unopened : after.visited = before.visited) : Finished components among after := by
  intro name visited wanted
  rw [unopened] at visited
  rcases finished name visited wanted with ⟨target, found, explored⟩
  exact ⟨target, found, explored.extend growth⟩

theorem Finished.target {among : String -> Prop} {survey : Survey}
    (finished : Finished components among survey) {name : String} (visited : name ∈ survey.visited)
    (wanted : among name) {target : TypeExpr} (found : components.lookup name = some target) :
    Explored survey target := by
  rcases finished name visited wanted with ⟨other, otherFound, explored⟩
  rw [found] at otherFound
  cases otherFound
  exact explored

/-- From explored types nothing leads further than to what is explored. -/
theorem Finished.explored {roots : List TypeExpr} {survey : Survey}
    (finished : Finished components (fun name => components.Reaches roots (.ref name)) survey)
    (start : forall root, root ∈ roots -> Explored survey root) {type : TypeExpr}
    (reached : components.Reaches roots type) : Explored survey type := by
  induction reached with
  | root member => exact start _ member
  | element _ ih =>
      cases ih with
      | array inner => exact inner
  | field _ member ih =>
      cases ih with
      | record inner => exact inner _ member
  | target reached found ih =>
      cases ih with
      | ref visited => exact finished.target visited reached found

end Survey
end RouteIR
