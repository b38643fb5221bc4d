/-!
# Enumerations — names below names

What is enumerated on two levels, such as files in directories and keys in keys, is found in the
order of the outer names, and below one outer name in the order of the inner ones.
-/

namespace HardwareReport

variable {α : Type} {place : α → String × String} {outer : List String}
  {inner : String → List String} {find? : String → String → Option α}

/-- **What is found on two levels is found in the order of both names**, of which the outer one
counts first. -/
theorem pairwise_flatMap_filterMap (hOuter : outer.Pairwise (· < ·))
    (hInner : ∀ name ∈ outer, (inner name).Pairwise (· < ·))
    (hPlace : ∀ name below found, find? name below = some found → place found = (name, below)) :
    (outer.flatMap fun name => (inner name).filterMap (find? name)).Pairwise fun x y =>
      Prod.Lex (· < ·) (· < ·) (place x) (place y) := by
  rw [List.pairwise_flatMap]
  constructor
  · -- below one name
    intro name hName
    rw [List.pairwise_filterMap]
    refine (hInner name hName).imp fun {below next} hLess x hx y hy => ?_
    rw [hPlace name below x hx, hPlace name next y hy]
    exact .right name hLess
  · refine hOuter.imp fun {name next} hLess x hx y hy => ?_
    obtain ⟨below, -, hFound⟩ := List.mem_filterMap.mp hx
    obtain ⟨nextBelow, -, hNext⟩ := List.mem_filterMap.mp hy
    rw [hPlace name below x hFound, hPlace next nextBelow y hNext]
    exact .left below nextBelow hLess

end HardwareReport
