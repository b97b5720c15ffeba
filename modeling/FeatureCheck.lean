import FeatureCheck.Catalog.Loaded
import FeatureCheck.Main
import FeatureCheck.Proofs.Catalog.BlankNames
import FeatureCheck.Proofs.Catalog.Construction
import FeatureCheck.Proofs.Catalog.Matching
import FeatureCheck.Proofs.Catalog.Publication
import FeatureCheck.Proofs.Configuration.Loading
import FeatureCheck.Proofs.Enablement.Integrity
import FeatureCheck.Proofs.Json.Reports
import FeatureCheck.Proofs.Keys
import FeatureCheck.Proofs.Logging.Output
import FeatureCheck.Proofs.Resolver.DefaultCatalog
import FeatureCheck.Proofs.Resolver.Eviction
import FeatureCheck.Proofs.Resolver.Independence
import FeatureCheck.Proofs.Resolver.Mirror
import FeatureCheck.Proofs.Resolver.Refreshing
import FeatureCheck.Proofs.Resolver.Sharing
import FeatureCheck.Proofs.Resolver.SingleFlight
import FeatureCheck.Proofs.Validation.Counterparts
import FeatureCheck.Proofs.Validation.Enablers
import FeatureCheck.Proofs.Validation.Namespaces
import FeatureCheck.Proofs.Validation.Order
import FeatureCheck.Proofs.Validation.Orderly
import FeatureCheck.Proofs.Validation.Repetition
import FeatureCheck.Proofs.Validation.Respelling
import FeatureCheck.Proofs.Validation.FeatureRules
import FeatureCheck.Proofs.Validation.FamilyRules
import FeatureCheck.Proofs.Validation.PlatformRules
import FeatureCheck.Proofs.Validation.VersionlessRules
import FeatureCheck.Proofs.Validation.ListedPlatforms
import FeatureCheck.Proofs.Validation.Suggestions
