import FeatureCheck.Enablement.Graph

/-!
# Closure of the enablement relation

What a feature enables and what enables it, over any number of edges. A walk looks at keys in
breadth-first order and takes in each key once, its origin never. It would give up if it took in
more keys than the graph has nodes; that and the shrinking queue are why it ends.
-/

namespace FeatureCheck

set_option autoImplicit false

structure Walk where
  queue : List String
  visited : NameSet
  found : NameSet

namespace Walk

def start (keys : NameSet) : Walk :=
  ⟨keys.toList, ∅, ∅⟩

end Walk

namespace EnablementGraph

/-- Features and config elements together. -/
def nodeCount (graph : EnablementGraph) : Nat :=
  graph.featureCount + graph.elementCount

/-- Takes in a key, and queues the keys next to it. -/
def visit (graph : EnablementGraph) (side : FeatureNode → NameSet) (walk : Walk) (key : String) :
    Walk :=
  match graph.features[key]? with
  | some node =>
      ⟨walk.queue ++ (side node).toList, walk.visited.insert key, walk.found.insert node.name⟩
  | none => { walk with visited := walk.visited.insert key }

/-- Looks at the next key. There is nothing more to do when the queue is empty, or when the key
would be one more than there are nodes. -/
def advance (graph : EnablementGraph) (side : FeatureNode → NameSet) (origin : Option String)
    (walk : Walk) : Option Walk :=
  match walk.queue with
  | [] => none
  | key :: queue =>
      let rest := { walk with queue := queue }
      if some key = origin ∨ key ∈ walk.visited then some rest
      else if graph.nodeCount ≤ walk.visited.size then none
      else some (graph.visit side rest key)

@[simp] theorem visited_visit (graph : EnablementGraph) (side : FeatureNode → NameSet)
    (walk : Walk) (key : String) :
    (graph.visit side walk key).visited = walk.visited.insert key := by
  unfold visit
  split <;> rfl

/-- A key is passed over, or taken in while there is room. -/
theorem advance_cases {graph : EnablementGraph} {side : FeatureNode → NameSet}
    {origin : Option String} {walk next : Walk} (h : graph.advance side origin walk = some next) :
    ∃ key queue, walk.queue = key :: queue ∧
      ((some key = origin ∨ key ∈ walk.visited) ∧ next = { walk with queue := queue } ∨
        some key ≠ origin ∧ key ∉ walk.visited ∧ walk.visited.size < graph.nodeCount ∧
          next = graph.visit side { walk with queue := queue } key) := by
  unfold advance at h
  split at h
  · simp at h
  · rename_i key queue hqueue
    refine ⟨key, queue, hqueue, ?_⟩
    split at h
    · rename_i hold
      exact Or.inl ⟨hold, (Option.some.inj h).symm⟩
    · rename_i hnew
      split at h
      · simp at h
      · rename_i hroom
        exact Or.inr ⟨fun horigin => hnew (Or.inl horigin), fun hmem => hnew (Or.inr hmem),
          Nat.lt_of_not_le hroom, (Option.some.inj h).symm⟩

/-- There is nothing more to do when no key is left, or no room for the next one. -/
theorem advance_eq_none_iff {graph : EnablementGraph} {side : FeatureNode → NameSet}
    {origin : Option String} {walk : Walk} :
    graph.advance side origin walk = none ↔
      walk.queue = [] ∨ ∃ key queue, walk.queue = key :: queue ∧
        some key ≠ origin ∧ key ∉ walk.visited ∧ graph.nodeCount ≤ walk.visited.size := by
  obtain ⟨queue, visited, found⟩ := walk
  cases queue with
  | nil => simp [advance]
  | cons key queue =>
    by_cases hold : some key = origin ∨ key ∈ visited
    · rcases hold with hold | hold <;> simp [advance, hold]
    · obtain ⟨horigin, hfresh⟩ := not_or.mp hold
      simp [advance, horigin, hfresh]

/-- The room below the cap shrinks or, while it stays, the queue. -/
theorem advance_decreases {graph : EnablementGraph} {side : FeatureNode → NameSet}
    {origin : Option String} {walk next : Walk} (h : graph.advance side origin walk = some next) :
    Prod.Lex (· < ·) (· < ·)
      (graph.nodeCount - next.visited.size, next.queue.length)
      (graph.nodeCount - walk.visited.size, walk.queue.length) := by
  obtain ⟨key, queue, hqueue, ⟨-, rfl⟩ | ⟨-, hfresh, hroom, rfl⟩⟩ := advance_cases h
  · apply Prod.Lex.right
    simp [hqueue]
  · apply Prod.Lex.left
    have hsize : (walk.visited.insert key).size = walk.visited.size + 1 := by
      rw [Std.ExtTreeSet.size_insert, if_neg (by simpa using hfresh)]
    rw [visited_visit, hsize]
    omega

def finish (graph : EnablementGraph) (side : FeatureNode → NameSet) (origin : Option String)
    (walk : Walk) : Walk :=
  match _h : graph.advance side origin walk with
  | none => walk
  | some next => graph.finish side origin next
termination_by (graph.nodeCount - walk.visited.size, walk.queue.length)
decreasing_by exact advance_decreases _h

/-- Names of the features met on walks from the starting keys that do not enter the origin. -/
def walk (graph : EnablementGraph) (side : FeatureNode → NameSet) (origin : Option String)
    (start : NameSet) : NameSet :=
  (graph.finish side origin (.start start)).found

/-- The features that enable a config element or, if there is none of the name, a feature. -/
def allEnabledBy (graph : EnablementGraph) (name : String) : NameSet :=
  let key := Name.normalize name
  match graph.elements[key]?, graph.features[key]? with
  | some element, _ => graph.walk (·.enabledBy) none element.enabledBy
  | none, some node => graph.walk (·.enabledBy) (some key) node.enabledBy
  | none, none => ∅

/-- The features that a feature enables. -/
def allEnables (graph : EnablementGraph) (name : String) : NameSet :=
  let key := Name.normalize name
  (graph.features[key]?).elim ∅ fun node => graph.walk (·.enables) (some key) node.enables

end EnablementGraph

end FeatureCheck
