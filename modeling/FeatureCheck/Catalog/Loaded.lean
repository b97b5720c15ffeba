import FeatureCheck.Catalog.Basic
import FeatureCheck.Enablement.Closure

/-!
# Catalogs with graphs

Every requirement is an edge to the catalog feature of that name or, if there is none, to a bare
node with the required name. A catalog that is kept makes its graph when it is first asked for it.
-/

namespace FeatureCheck

set_option autoImplicit false

namespace Catalog

/-- The node name that a requirement points at. -/
def requirementTarget (catalog : Catalog) (required : String) : String :=
  (catalog.feature? required).elim required (·.name)

def addToGraph (catalog : Catalog) (graph : EnablementGraph) (feature : Feature) :
    EnablementGraph :=
  let withNode := graph.addFeature feature.name feature.description
  let withEdges := feature.requirements.foldl (fun graph required =>
    graph.recordEnables feature.name (catalog.requirementTarget required)) withNode
  feature.configElements.foldl (fun graph element =>
    graph.recordEnablesElement feature.name element) withEdges

def graph (catalog : Catalog) : EnablementGraph :=
  catalog.features.foldl catalog.addToGraph .empty

end Catalog

structure LoadedCatalog where
  catalog : Catalog
  hasGraph : Bool := false

namespace LoadedCatalog

def graph (loaded : LoadedCatalog) : EnablementGraph × LoadedCatalog :=
  (loaded.catalog.graph, { loaded with hasGraph := true })

end LoadedCatalog

end FeatureCheck
