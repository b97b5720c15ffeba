import FeatureCheck.Name
import FeatureCheck.NameSet

/-!
# The enablement graph

Features enable features and config elements. A node is found under the normal form of its name
and keeps the spelling of its first mention; the adjacency sets hold normal forms, at both ends of
every edge.
-/

namespace FeatureCheck

set_option autoImplicit false

structure FeatureNode where
  name : String
  description : Option String
  enables : NameSet
  enabledBy : NameSet
  configElements : NameSet
  deriving DecidableEq

structure ElementNode where
  name : String
  enabledBy : NameSet
  deriving DecidableEq

structure EnablementGraph where
  features : NameMap FeatureNode
  elements : NameMap ElementNode
  deriving DecidableEq

namespace FeatureNode

/-- A node without description and edges. -/
def bare (name : String) : FeatureNode :=
  ⟨Text.trim name, none, ∅, ∅, ∅⟩

@[simp] theorem name_bare (name : String) : (bare name).name = Text.trim name := rfl

@[simp] theorem enables_bare (name : String) : (bare name).enables = ∅ := rfl

@[simp] theorem enabledBy_bare (name : String) : (bare name).enabledBy = ∅ := rfl

@[simp] theorem configElements_bare (name : String) : (bare name).configElements = ∅ := rfl

end FeatureNode

namespace ElementNode

def bare (name : String) : ElementNode :=
  ⟨Text.trim name, ∅⟩

@[simp] theorem enabledBy_bare (name : String) : (bare name).enabledBy = ∅ := rfl

end ElementNode

namespace EnablementGraph

def empty : EnablementGraph :=
  ⟨∅, ∅⟩

/-- Changes the node of a feature, which is made if it is missing. -/
def updateFeature (graph : EnablementGraph) (name : String)
    (update : FeatureNode → FeatureNode) : EnablementGraph :=
  { graph with
    features := graph.features.alter (Name.normalize name) fun node =>
      some (update (node.getD (.bare name))) }

def updateElement (graph : EnablementGraph) (name : String)
    (update : ElementNode → ElementNode) : EnablementGraph :=
  { graph with
    elements := graph.elements.alter (Name.normalize name) fun node =>
      some (update (node.getD (.bare name))) }

/-- Adds a feature. A node that is there keeps its name, and its description if it has one. -/
def addFeature (graph : EnablementGraph) (name : String) (description : Option String) :
    EnablementGraph :=
  graph.updateFeature name fun node =>
    { node with description := node.description <|> description }

def addConfigElement (graph : EnablementGraph) (name : String) : EnablementGraph :=
  graph.updateElement name id

/-- Records that one feature enables another; missing nodes are made, the child first. -/
def recordEnables (graph : EnablementGraph) (parent child : String) : EnablementGraph :=
  let withChild := graph.updateFeature child fun node =>
    { node with enabledBy := node.enabledBy.insert (Name.normalize parent) }
  withChild.updateFeature parent fun node =>
    { node with enables := node.enables.insert (Name.normalize child) }

/-- Records that a feature enables a config element; missing nodes are made. -/
def recordEnablesElement (graph : EnablementGraph) (parent element : String) : EnablementGraph :=
  let withElement := graph.updateElement element fun node =>
    { node with enabledBy := node.enabledBy.insert (Name.normalize parent) }
  withElement.updateFeature parent fun node =>
    { node with configElements := node.configElements.insert (Name.normalize element) }

def feature? (graph : EnablementGraph) (name : String) : Option FeatureNode :=
  graph.features[Name.normalize name]?

def element? (graph : EnablementGraph) (name : String) : Option ElementNode :=
  graph.elements[Name.normalize name]?

def isConfigElement (graph : EnablementGraph) (name : String) : Bool :=
  graph.elements.contains (Name.normalize name)

def isEmpty (graph : EnablementGraph) : Bool :=
  graph.features.isEmpty && graph.elements.isEmpty

def featureCount (graph : EnablementGraph) : Nat :=
  graph.features.size

def elementCount (graph : EnablementGraph) : Nat :=
  graph.elements.size

end EnablementGraph

end FeatureCheck
