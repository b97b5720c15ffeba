import FeatureCheck.Proofs.Catalog.Lookup
import FeatureCheck.Proofs.Validation.Orderly

/-!
# The rules of the family pass

A feature of a family clashes with the others when no platform of the family is there for all of
them. `incompatibilities_by_family` says that each feature that clashes is reported once, beside
the names of all the others, and that the order of the features is the order of their findings and
nothing more.
-/

namespace FeatureCheck

set_option autoImplicit false

namespace Catalog

/-! ## Clashes -/

section Rules

variable (catalog : Catalog) (features : List Feature) (family : PlatformFamily)

/-- The feature is available on the platform, and this is one of the family. -/
def Offers (feature : Feature) (platform : String) : Prop :=
  platform ∈ catalog.platforms ∧ platform ∈ feature.platforms ∧ family.contains platform = true

def InFamily (feature : Feature) : Prop :=
  ∃ platform, catalog.Offers family feature platform

/-- All listed features of the family are available on the platform. -/
def OffersToAll (platform : String) : Prop :=
  ∀ member ∈ features, catalog.InFamily family member → catalog.Offers family member platform

/-- The feature and another one are of the family, and all that are share no platform of it. -/
structure Clashes (feature : Feature) : Prop where
  inFamily : catalog.InFamily family feature
  other : ∃ other ∈ features, other ≠ feature ∧ catalog.InFamily family other
  apart : ¬ ∃ platform, catalog.OffersToAll features family platform

/-- The finding is about the feature, and names all others of the family in order. -/
structure ReportsClash (feature : Feature) (finding : Finding) : Prop where
  kind : finding.kind = .incompatibleFeatures
  subject : finding.subject = feature.name
  sorted : finding.related.Pairwise (· < ·)
  related : ∀ name, name ∈ finding.related ↔
    ∃ other ∈ features, other ≠ feature ∧ catalog.InFamily family other ∧ other.name = name

end Rules

variable {catalog : Catalog} {features permuted : List Feature} {family : PlatformFamily}
  {feature member : Feature} {platform : String}

instance : Decidable (catalog.Offers family feature platform) :=
  inferInstanceAs (Decidable (_ ∧ _ ∧ _))

instance : Decidable (catalog.InFamily family feature) :=
  decidable_of_iff (∃ platform ∈ feature.platforms.toList, catalog.Offers family feature platform)
    ⟨fun ⟨platform, _, hoffers⟩ => ⟨platform, hoffers⟩,
      fun ⟨platform, hoffers⟩ =>
        ⟨platform, Std.ExtTreeSet.mem_toList.mpr hoffers.2.1, hoffers⟩⟩

theorem mem_familyPlatforms_iff_offers (h : feature ∈ catalog.features) :
    platform ∈ catalog.familyPlatforms family feature ↔
      catalog.Offers family feature platform := by
  rw [mem_familyPlatforms_iff, mem_platformsOf_name_iff h, and_assoc, Offers]

theorem mem_familyMembers_iff_inFamily (hcatalog : features ⊆ catalog.features) :
    feature ∈ catalog.familyMembers features family ↔
      feature ∈ features ∧ catalog.InFamily family feature := by
  rw [mem_familyMembers_iff]
  refine and_congr_right fun hfeature => exists_congr fun platform => ?_
  rw [← mem_familyPlatforms_iff, mem_familyPlatforms_iff_offers (hcatalog hfeature)]

theorem sharesFamily_iff_offersToAll (hcatalog : features ⊆ catalog.features) :
    catalog.SharesFamily features family ↔
      ∀ feature ∈ features, catalog.InFamily family feature →
        ∃ platform, catalog.OffersToAll features family platform := by
  rw [sharesFamily_iff]
  have hshared : (∃ platform, ∀ member ∈ catalog.familyMembers features family,
      platform ∈ catalog.familyPlatforms family member) ↔
        ∃ platform, catalog.OffersToAll features family platform := by
    refine exists_congr fun platform => forall_congr' fun member => ?_
    rw [mem_familyMembers_iff_inFamily hcatalog, and_imp]
    exact forall_congr' fun hmember => by rw [mem_familyPlatforms_iff_offers (hcatalog hmember)]
  rw [hshared]
  constructor
  · intro h feature hfeature hfamily
    exact h (List.ne_nil_of_mem ((mem_familyMembers_iff_inFamily hcatalog).mpr ⟨hfeature, hfamily⟩))
  · intro h hmembers
    obtain ⟨feature, hfeature⟩ := List.exists_mem_of_ne_nil _ hmembers
    obtain ⟨hfeature, hfamily⟩ := (mem_familyMembers_iff_inFamily hcatalog).mp hfeature
    exact h feature hfeature hfamily

/-- A feature of the family clashes unless all of the family share a platform of it. -/
theorem clashes_iff (hcatalog : features ⊆ catalog.features) (hfeature : feature ∈ features) :
    catalog.Clashes features family feature ↔
      catalog.InFamily family feature ∧ ¬ catalog.SharesFamily features family := by
  constructor
  · intro h
    refine ⟨h.inFamily, fun hshares => h.apart ?_⟩
    exact (sharesFamily_iff_offersToAll hcatalog).mp hshares feature hfeature h.inFamily
  · rintro ⟨hfamily, hnone⟩
    have hapart : ¬ ∃ platform, catalog.OffersToAll features family platform := by
      intro hshared
      exact hnone ((sharesFamily_iff_offersToAll hcatalog).mpr fun _ _ _ => hshared)
    refine ⟨hfamily, ?_, hapart⟩
    -- a feature that is alone in the family shares its own platform with itself
    by_contra halone
    obtain ⟨platform, hoffers⟩ := hfamily
    refine hapart ⟨platform, fun member hmember hfamily => ?_⟩
    by_cases heq : member = feature
    · rwa [heq]
    · exact absurd ⟨member, hmember, heq, hfamily⟩ halone

/-- A platform that all features of the family share is one of the catalog. -/
theorem clashes_iff_platforms :
    catalog.Clashes features family feature ↔ catalog.InFamily family feature ∧
      (∃ other ∈ features, other ≠ feature ∧ catalog.InFamily family other) ∧
      ¬ ∃ platform ∈ catalog.platforms.toList, catalog.OffersToAll features family platform := by
  constructor
  · intro h
    refine ⟨h.inFamily, h.other, ?_⟩
    rintro ⟨platform, -, hall⟩
    exact h.apart ⟨platform, hall⟩
  · rintro ⟨hfamily, ⟨other, hother, hne, hmember⟩, hnone⟩
    refine ⟨hfamily, ⟨other, hother, hne, hmember⟩, ?_⟩
    rintro ⟨platform, hall⟩
    exact hnone ⟨platform, Std.ExtTreeSet.mem_toList.mpr (hall other hother hmember).1, hall⟩

instance : Decidable (catalog.OffersToAll features family platform) :=
  inferInstanceAs (Decidable (∀ member ∈ features, catalog.InFamily family member → _))

instance : Decidable (catalog.Clashes features family feature) :=
  decidable_of_iff _ clashes_iff_platforms.symm

/-! ## The findings of a family -/

theorem familyFindings_of_not_sharesFamily (h : ¬ catalog.SharesFamily features family) :
    catalog.familyFindings features family =
      (catalog.familyMembers features family).map fun member =>
        (Finding.about .incompatibleFeatures member.name).withRelated
          (((catalog.familyMembers features family).map (·.name)).filter (· ≠ member.name)) := by
  rw [← familyFindings_eq_nil_iff] at h
  unfold familyFindings at h ⊢
  dsimp only at h ⊢
  split at h
  · rename_i hcond
    rw [if_pos hcond, List.map_map]
    rfl
  · exact absurd rfl h

theorem reportsClash_of_mem_familyMembers (hcatalog : features ⊆ catalog.features)
    (h : member ∈ catalog.familyMembers features family) :
    catalog.ReportsClash features family member
      ((Finding.about .incompatibleFeatures member.name).withRelated
        (((catalog.familyMembers features family).map (·.name)).filter (· ≠ member.name))) := by
  obtain ⟨hmember, -⟩ := mem_familyMembers_iff.mp h
  refine ⟨rfl, rfl, Finding.isSorted_withRelated _ _, fun name => ?_⟩
  rw [Finding.mem_related_withRelated, List.mem_filter, List.mem_map, decide_eq_true_eq]
  constructor
  · rintro ⟨⟨other, hother, rfl⟩, hname⟩
    obtain ⟨hlisted, hfamily⟩ := (mem_familyMembers_iff_inFamily hcatalog).mp hother
    exact ⟨other, hlisted, fun heq => hname (congrArg Feature.name heq), hfamily, rfl⟩
  · rintro ⟨other, hother, hne, hfamily, rfl⟩
    refine ⟨⟨other, (mem_familyMembers_iff_inFamily hcatalog).mpr ⟨hother, hfamily⟩, rfl⟩, ?_⟩
    intro hname
    exact hne (eq_of_key_eq (hcatalog hother) (hcatalog hmember) (congrArg Name.normalize hname))

/-- One finding for each feature that clashes, in the order of the features. -/
theorem forall₂_reportsClash (hcatalog : features ⊆ catalog.features) :
    List.Forall₂ (catalog.ReportsClash features family)
      (features.filter (catalog.Clashes features family ·))
      (catalog.familyFindings features family) := by
  by_cases hshares : catalog.SharesFamily features family
  · have hnone : features.filter (catalog.Clashes features family ·) = [] := by
      refine List.filter_eq_nil_iff.mpr fun feature hfeature => ?_
      rw [decide_eq_true_eq, clashes_iff hcatalog hfeature]
      exact fun hclash => hclash.2 hshares
    rw [hnone, familyFindings_eq_nil_iff.mpr hshares]
    exact .nil
  · have hmembers : features.filter (catalog.Clashes features family ·) =
        catalog.familyMembers features family := by
      refine List.filter_congr fun feature hfeature => ?_
      rw [Bool.eq_iff_iff, decide_eq_true_eq, clashes_iff hcatalog hfeature,
        and_iff_left hshares, Bool.not_eq_true', NameSet.isEmpty_eq_false_iff_exists_mem]
      exact exists_congr fun _ => (mem_familyPlatforms_iff_offers (hcatalog hfeature)).symm
    rw [hmembers, familyFindings_of_not_sharesFamily hshares, List.forall₂_map_right_iff,
      List.forall₂_same]
    exact fun member => reportsClash_of_mem_familyMembers hcatalog

/-! ## The order of the features -/

theorem familyFindings_perm (h : features.Perm permuted) :
    (catalog.familyFindings features family).Perm (catalog.familyFindings permuted family) := by
  by_cases hshares : catalog.SharesFamily features family
  · rw [familyFindings_eq_nil_iff.mpr hshares,
      familyFindings_eq_nil_iff.mpr (hshares.perm h)]
  · have hmembers : (catalog.familyMembers features family).Perm
        (catalog.familyMembers permuted family) := h.filter _
    have hnot : ¬ catalog.SharesFamily permuted family :=
      fun hother => hshares (hother.perm h.symm)
    rw [familyFindings_of_not_sharesFamily hshares, familyFindings_of_not_sharesFamily hnot]
    refine (hmembers.map _).trans (.of_eq (List.map_congr_left fun member _ => ?_))
    exact Finding.withRelated_congr fun name => ((hmembers.map _).filter _).mem_iff

/-- In each family the features that clash are reported in their order, each beside the names of
all others of the family, and the findings come family by family. Another order of the features
permutes the findings of a family; a family that shares a platform has none. -/
theorem incompatibilities_by_family (catalog : Catalog) (features : List Feature)
    (hcatalog : features ⊆ catalog.features) :
    catalog.incompatibilities features = catalog.familyFindings features .javaEE ++
      catalog.familyFindings features .jakartaEE ++
      catalog.familyFindings features .microProfile ∧
    ∀ family : PlatformFamily,
      List.Forall₂ (catalog.ReportsClash features family)
        (features.filter (catalog.Clashes features family ·))
        (catalog.familyFindings features family) ∧
      (∀ permuted, features.Perm permuted → (catalog.familyFindings features family).Perm
        (catalog.familyFindings permuted family)) ∧
      ∀ platform, catalog.OffersToAll features family platform →
        catalog.familyFindings features family = [] := by
  constructor
  · rw [incompatibilities, PlatformFamily.all]
    simp only [List.flatMap_cons, List.flatMap_nil, List.append_nil, List.append_assoc]
  · intro family
    refine ⟨forall₂_reportsClash hcatalog, fun _ => familyFindings_perm, ?_⟩
    intro platform hall
    rw [familyFindings_eq_nil_iff, sharesFamily_iff_offersToAll hcatalog]
    exact fun _ _ _ => ⟨platform, hall⟩

/-- Versions 9 and 10 of one family with a feature for each, and a feature of two families. -/
def eeFeatures : List Feature := [
  (Feature.named "eeCompatible-9.0" .isPrivate).withPlatforms ["jakartaee-9.1"],
  (Feature.named "eeCompatible-10.0" .isPrivate).withPlatforms ["jakartaee-10.0"],
  (Feature.named "mpCompatible-6.0" .isPrivate).withPlatforms ["microprofile-6.0"],
  (Feature.named "restfulWS-3.0" .isPublic).withPlatforms ["jakartaee-9.1"],
  (Feature.named "servlet-6.0" .isPublic).withPlatforms ["jakartaee-10.0"],
  (Feature.named "jsonp-2.1" .isPublic).withPlatforms ["jakartaee-10.0", "microprofile-6.0"]]

/-- The three features share no version of Jakarta EE, and only one of them is in MicroProfile. -/
theorem incompatibilities_eeFeatures :
    let catalog : Catalog := .ofFeatures eeFeatures
    let features := eeFeatures.drop 3
    features ⊆ catalog.features ∧
    features.filter (catalog.Clashes features .jakartaEE ·) = features ∧
    List.Forall₂ (catalog.ReportsClash features .jakartaEE) features
      (catalog.familyFindings features .jakartaEE) ∧
    catalog.familyFindings features .microProfile = [] := by
  intro catalog features
  have hcatalog : features ⊆ catalog.features := by decide +kernel
  have hclash : features.filter (catalog.Clashes features .jakartaEE ·) = features := by
    decide +kernel
  have hshared : catalog.OffersToAll features .microProfile "microprofile-6.0" := by
    decide +kernel
  obtain ⟨-, hfamilies⟩ := incompatibilities_by_family catalog features hcatalog
  have hreports := (hfamilies .jakartaEE).1
  rw [hclash] at hreports
  exact ⟨hcatalog, hclash, hreports, (hfamilies .microProfile).2.2 _ hshared⟩

end Catalog

end FeatureCheck
