import FeatureCheck.Enablement.Closure
import Mathlib.Data.List.Perm.Subperm
import Mathlib.Logic.Relation

/-!
# What a walk takes in

A walk that stops with an empty queue has taken in exactly the keys that it can reach without
entering its origin: `mem_visited_iff`. If every edge ends in a node, the cap is never what stops
it: `queue_finish_eq_nil`. Cycles and edges of a node to itself are allowed.
-/

namespace FeatureCheck.EnablementGraph

set_option autoImplicit false

variable {graph : EnablementGraph} {side : FeatureNode → NameSet} {origin : Option String}
  {start : NameSet} {walk next : Walk}

/-- Keys next to a feature's in one direction; none if there is no such feature. -/
def adjacent (graph : EnablementGraph) (side : FeatureNode → NameSet) (key : String) : NameSet :=
  (graph.features[key]?).elim ∅ side

/-- The name of the node with a key. -/
def name? (graph : EnablementGraph) (key : String) : Option String :=
  (graph.features[key]?).map (·.name)

/-- An edge that does not enter the origin. -/
def Onward (graph : EnablementGraph) (side : FeatureNode → NameSet) (origin : Option String)
    (key next : String) : Prop :=
  next ∈ graph.adjacent side key ∧ some next ≠ origin

/-- The walk from the starting keys comes to a key. -/
def Reaches (graph : EnablementGraph) (side : FeatureNode → NameSet) (origin : Option String)
    (start : NameSet) (key : String) : Prop :=
  ∃ first ∈ start, some first ≠ origin ∧
    Relation.ReflTransGen (graph.Onward side origin) first key

/-- Every key that the walk may come to has a node. -/
structure Closed (graph : EnablementGraph) (side : FeatureNode → NameSet) (start : NameSet) :
    Prop where
  start_mem : ∀ key ∈ start, key ∈ graph.features
  adjacent_mem : ∀ key, ∀ next ∈ graph.adjacent side key, next ∈ graph.features

/-- Step by step the walk gets to where no key is left, and gives what it has found by then. -/
def Exhausts (graph : EnablementGraph) (side : FeatureNode → NameSet) (origin : Option String)
    (start : NameSet) : Prop :=
  ∃ last, Relation.ReflTransGen
      (fun walk next => graph.advance side origin walk = some next) (.start start) last ∧
    last.queue = [] ∧ last.found = graph.walk side origin start

/-- What holds of a walk at every moment: it has taken in and queued only what it can reach, and
what is next to the keys taken in is taken in or queued. -/
structure Covers (graph : EnablementGraph) (side : FeatureNode → NameSet) (origin : Option String)
    (start : NameSet) (walk : Walk) : Prop where
  queued : ∀ key ∈ walk.queue, some key ≠ origin → graph.Reaches side origin start key
  visited : ∀ key ∈ walk.visited, graph.Reaches side origin start key
  started : ∀ key ∈ start, some key ≠ origin → key ∈ walk.visited ∨ key ∈ walk.queue
  onward : ∀ key ∈ walk.visited, ∀ next, graph.Onward side origin key next →
    next ∈ walk.visited ∨ next ∈ walk.queue
  found : ∀ name, name ∈ walk.found ↔
    ∃ key ∈ walk.visited, graph.name? key = some name

theorem Reaches.step {key next : String} (hkey : graph.Reaches side origin start key)
    (hnext : graph.Onward side origin key next) : graph.Reaches side origin start next := by
  obtain ⟨first, hfirst, horigin, hpath⟩ := hkey
  exact ⟨first, hfirst, horigin, hpath.tail hnext⟩

theorem Closed.mem_of_reaches (hclosed : graph.Closed side start) {key : String}
    (h : graph.Reaches side origin start key) : key ∈ graph.features := by
  obtain ⟨first, hfirst, -, hpath⟩ := h
  cases hpath with
  | refl => exact hclosed.start_mem _ hfirst
  | tail _ hlast => exact hclosed.adjacent_mem _ _ hlast.1

theorem covers_start : graph.Covers side origin start (.start start) where
  queued key hkey horigin := by
    have hstart : key ∈ start := Std.ExtTreeSet.mem_toList.mp hkey
    exact ⟨key, hstart, horigin, .refl⟩
  visited key hkey := by simp [Walk.start] at hkey
  started key hkey _ := Or.inr (Std.ExtTreeSet.mem_toList.mpr hkey)
  onward key hkey := by simp [Walk.start] at hkey
  found name := by simp [Walk.start]

/-- A key that the walk does not take in again leaves everything covered. -/
theorem Covers.skip (h : graph.Covers side origin start walk) {key : String} {queue : List String}
    (hqueue : walk.queue = key :: queue) (hold : some key = origin ∨ key ∈ walk.visited) :
    graph.Covers side origin start { walk with queue := queue } := by
  have hkept : ∀ other, some other ≠ origin → other ∈ walk.visited ∨ other ∈ walk.queue →
      other ∈ walk.visited ∨ other ∈ queue := by
    intro other horigin hother
    rw [hqueue, List.mem_cons] at hother
    rcases hother with hvisited | rfl | hmem
    · exact Or.inl hvisited
    · exact Or.inl (hold.resolve_left horigin)
    · exact Or.inr hmem
  refine ⟨?_, h.visited, ?_, ?_, h.found⟩
  · intro other hother horigin
    exact h.queued other (hqueue ▸ List.mem_cons_of_mem key hother) horigin
  · intro other hother horigin
    exact hkept other horigin (h.started other hother horigin)
  · intro other hother next hnext
    exact hkept next hnext.2 (h.onward other hother next hnext)

theorem queue_visit (key : String) :
    (graph.visit side walk key).queue = walk.queue ++ (graph.adjacent side key).toList := by
  unfold visit adjacent
  cases graph.features[key]? with
  | none => simp
  | some node => simp

theorem mem_found_visit (key name : String) :
    name ∈ (graph.visit side walk key).found ↔
      graph.name? key = some name ∨ name ∈ walk.found := by
  unfold visit name?
  cases graph.features[key]? with
  | none => simp
  | some node => simp

/-- Taking in a queued key leaves everything covered: its neighbours are queued. -/
theorem Covers.visit (h : graph.Covers side origin start walk) {key : String} {queue : List String}
    (hqueue : walk.queue = key :: queue) (horigin : some key ≠ origin) :
    graph.Covers side origin start (graph.visit side { walk with queue := queue } key) := by
  have hkey : graph.Reaches side origin start key :=
    h.queued key (hqueue ▸ List.mem_cons_self) horigin
  have hvisited : ∀ other, other ∈ (graph.visit side { walk with queue := queue } key).visited ↔
      other = key ∨ other ∈ walk.visited := by
    intro other
    rw [visited_visit, NameSet.mem_insert_iff]
  have hqueued : ∀ other, other ∈ (graph.visit side { walk with queue := queue } key).queue ↔
      other ∈ queue ∨ other ∈ graph.adjacent side key := by
    intro other
    simp [queue_visit]
  have hkept : ∀ other, other ∈ walk.visited ∨ other ∈ walk.queue →
      other ∈ (graph.visit side { walk with queue := queue } key).visited ∨
        other ∈ (graph.visit side { walk with queue := queue } key).queue := by
    intro other hother
    rw [hvisited, hqueued]
    rw [hqueue, List.mem_cons] at hother
    rcases hother with hother | rfl | hother
    · exact Or.inl (Or.inr hother)
    · exact Or.inl (Or.inl rfl)
    · exact Or.inr (Or.inl hother)
  refine ⟨?_, ?_, ?_, ?_, ?_⟩
  · intro other hother hne
    rcases (hqueued other).mp hother with hmem | hadjacent
    · exact h.queued other (hqueue ▸ List.mem_cons_of_mem key hmem) hne
    · exact hkey.step ⟨hadjacent, hne⟩
  · intro other hother
    rcases (hvisited other).mp hother with rfl | hmem
    · exact hkey
    · exact h.visited other hmem
  · intro other hother hne
    exact hkept other (h.started other hother hne)
  · intro other hother next hnext
    rcases (hvisited other).mp hother with rfl | hmem
    · exact Or.inr ((hqueued next).mpr (Or.inr hnext.1))
    · exact hkept next (h.onward other hmem next hnext)
  · intro name
    rw [mem_found_visit, h.found]
    simp only [hvisited]
    constructor
    · intro hcase
      rcases hcase with hname | ⟨other, hother, hname⟩
      · exact ⟨key, Or.inl rfl, hname⟩
      · exact ⟨other, Or.inr hother, hname⟩
    · intro hexists
      obtain ⟨other, rfl | hother, hname⟩ := hexists
      · exact Or.inl hname
      · exact Or.inr ⟨other, hother, hname⟩

theorem Covers.advance (h : graph.Covers side origin start walk)
    (hnext : graph.advance side origin walk = some next) :
    graph.Covers side origin start next := by
  obtain ⟨key, queue, hqueue, ⟨hold, rfl⟩ | ⟨horigin, -, -, rfl⟩⟩ := advance_cases hnext
  · exact h.skip hqueue hold
  · exact h.visit hqueue horigin

theorem Covers.finish (h : graph.Covers side origin start walk) :
    graph.Covers side origin start (graph.finish side origin walk) := by
  fun_induction EnablementGraph.finish graph side origin walk with
  | case1 walk hstop => exact h
  | case2 walk next hnext ih => exact ih (h.advance hnext)

/-- The walk gets to its end step by step. -/
theorem steps_finish (walk : Walk) :
    Relation.ReflTransGen (fun walk next => graph.advance side origin walk = some next) walk
      (graph.finish side origin walk) := by
  fun_induction EnablementGraph.finish graph side origin walk with
  | case1 walk hstop => exact .refl
  | case2 walk next hnext ih => exact .head hnext ih

theorem advance_finish (walk : Walk) :
    graph.advance side origin (graph.finish side origin walk) = none := by
  fun_induction EnablementGraph.finish graph side origin walk with
  | case1 walk hstop => exact hstop
  | case2 walk next hnext ih => exact ih

/-- A set of keys of nodes has no more of them than there are nodes. -/
theorem size_le_nodeCount {keys : NameSet} (h : ∀ key ∈ keys, key ∈ graph.features) :
    keys.size ≤ graph.nodeCount := by
  have hsubset : keys.toList ⊆ graph.features.keys := by
    intro key hkey
    exact Std.ExtTreeMap.mem_keys.mpr (h key (Std.ExtTreeSet.mem_toList.mp hkey))
  have hlength := (List.subperm_of_subset (NameSet.nodup_toList keys) hsubset).length_le
  rw [Std.ExtTreeSet.length_toList, Std.ExtTreeMap.length_keys] at hlength
  exact Nat.le_trans hlength (Nat.le_add_right _ _)

/-- Where every edge ends in a node, a walk stops only because no key is left. -/
theorem queue_finish_eq_nil (hclosed : graph.Closed side start) :
    (graph.finish side origin (.start start)).queue = [] := by
  have hcovers : graph.Covers side origin start (graph.finish side origin (.start start)) :=
    covers_start.finish
  have hstop : graph.advance side origin (graph.finish side origin (.start start)) = none :=
    advance_finish _
  rcases advance_eq_none_iff.mp hstop with
    hnil | ⟨key, queue, hqueue, horigin, hfresh, hfull⟩
  · exact hnil
  · have hkey := hcovers.queued key (hqueue ▸ List.mem_cons_self) horigin
    have hnodes : ∀ other ∈ (graph.finish side origin (.start start)).visited.insert key,
        other ∈ graph.features := by
      intro other hother
      rw [NameSet.mem_insert_iff] at hother
      rcases hother with rfl | hother
      · exact hclosed.mem_of_reaches hkey
      · exact hclosed.mem_of_reaches (hcovers.visited other hother)
    have hsize := size_le_nodeCount hnodes
    rw [Std.ExtTreeSet.size_insert, if_neg (by simpa using hfresh)] at hsize
    omega

theorem exhausts (hclosed : graph.Closed side start) : graph.Exhausts side origin start :=
  ⟨graph.finish side origin (.start start), steps_finish _, queue_finish_eq_nil hclosed, rfl⟩

theorem mem_visited_iff (hclosed : graph.Closed side start) {key : String} :
    key ∈ (graph.finish side origin (.start start)).visited ↔
      graph.Reaches side origin start key := by
  have hcovers : graph.Covers side origin start (graph.finish side origin (.start start)) :=
    covers_start.finish
  have hempty : (graph.finish side origin (.start start)).queue = [] :=
    queue_finish_eq_nil hclosed
  constructor
  · exact hcovers.visited key
  · intro hexists
    obtain ⟨first, hfirst, horigin, hpath⟩ := hexists
    induction hpath with
    | refl => simpa [hempty] using hcovers.started first hfirst horigin
    | tail _ hlast ih => simpa [hempty] using hcovers.onward _ ih _ hlast

/-- The names that a walk finds are those of the nodes that it reaches. -/
theorem mem_walk_iff (hclosed : graph.Closed side start) {name : String} :
    name ∈ graph.walk side origin start ↔
      ∃ key, graph.Reaches side origin start key ∧ graph.name? key = some name := by
  have hcovers : graph.Covers side origin start (graph.finish side origin (.start start)) :=
    covers_start.finish
  rw [EnablementGraph.walk, hcovers.found]
  simp only [mem_visited_iff hclosed]

/-- Without an origin the walk comes to what any path from a starting key leads to. -/
theorem reaches_none_iff {key : String} :
    graph.Reaches side none start key ↔
      ∃ first ∈ start, Relation.ReflTransGen (fun key next => next ∈ graph.adjacent side key)
        first key := by
  have hedge : graph.Onward side none = fun key next => next ∈ graph.adjacent side key := by
    funext key next
    simp [Onward]
  simp [Reaches, hedge]

/-- From the neighbours of the origin the walk comes to all that the origin leads to, since a path
that enters the origin again may as well start there. -/
theorem reaches_origin_iff {origin key : String} :
    graph.Reaches side (some origin) (graph.adjacent side origin) key ↔
      key ≠ origin ∧
        Relation.TransGen (fun key next => next ∈ graph.adjacent side key) origin key := by
  constructor
  · intro hexists
    obtain ⟨first, hfirst, horigin, hpath⟩ := hexists
    induction hpath with
    | refl => exact ⟨fun heq => horigin (congrArg some heq), .single hfirst⟩
    | tail _ hlast ih => exact ⟨fun heq => hlast.2 (congrArg some heq), ih.2.tail hlast.1⟩
  · intro hall
    obtain ⟨hne, hpath⟩ := hall
    induction hpath with
    | single hfirst => exact ⟨_, hfirst, fun heq => hne (Option.some.inj heq), .refl⟩
    | @tail middle last _ hlast ih =>
      have hlast_ne : some last ≠ some origin := fun heq => hne (Option.some.inj heq)
      by_cases hmiddle : middle = origin
      · exact ⟨last, hmiddle ▸ hlast, hlast_ne, .refl⟩
      · exact (ih hmiddle).step ⟨hlast, hlast_ne⟩

end FeatureCheck.EnablementGraph
