import FeatureCheck.Catalog.Basic

/-!
# Looking features up

No earlier feature of a catalog takes the name of a later one. So every feature is found under its
own name, and two of them never share one: `feature?_name`, `eq_of_key_eq`.
-/

namespace FeatureCheck.Catalog

set_option autoImplicit false

variable {catalog : Catalog} {feature other : Feature} {name : String}

theorem find?_key {features : List Feature}
    (hdistinct : features.Pairwise fun earlier later => later.key ∉ earlier.keys)
    (h : feature ∈ features) :
    (features.find? fun candidate => candidate.keys.contains feature.key) = some feature := by
  induction features with
  | nil => simp at h
  | cons first features ih =>
    obtain ⟨hfirst, hrest⟩ := List.pairwise_cons.mp hdistinct
    rcases List.mem_cons.mp h with rfl | hmem
    · simp [Feature.keys]
    · have hskip : feature.key ∉ first.keys := hfirst feature hmem
      rw [List.find?_cons_of_neg (by simpa using hskip)]
      exact ih hrest hmem

@[simp] theorem feature?_normalize (name : String) :
    catalog.feature? (Name.normalize name) = catalog.feature? name := by
  rw [feature?, Name.normalize_normalize, feature?]

theorem feature?_congr {other : String} (h : Name.normalize name = Name.normalize other) :
    catalog.feature? name = catalog.feature? other := by
  rw [← feature?_normalize, h, feature?_normalize]

theorem feature?_name (h : feature ∈ catalog.features) :
    catalog.feature? feature.name = some feature := by
  rw [feature?_eq_find?]
  exact find?_key catalog.distinct h

theorem feature?_key (h : feature ∈ catalog.features) :
    catalog.feature? feature.key = some feature := by
  rw [Feature.key, feature?_normalize, feature?_name h]

theorem feature?_of_key_eq (h : feature ∈ catalog.features)
    (hkey : Name.normalize name = feature.key) : catalog.feature? name = some feature := by
  rw [← feature?_normalize, hkey, feature?_key h]

theorem mem_of_feature? (h : catalog.feature? name = some feature) :
    feature ∈ catalog.features := by
  rw [feature?_eq_find?] at h
  exact List.mem_of_find?_eq_some h

theorem mem_of_publicFeature? (h : catalog.publicFeature? name = some feature) :
    feature ∈ catalog.features :=
  mem_of_feature? (Option.filter_eq_some_iff.mp h).1

theorem eq_of_key_eq (hfeature : feature ∈ catalog.features) (hother : other ∈ catalog.features)
    (h : feature.key = other.key) : feature = other := by
  have hfound := feature?_key hfeature
  rw [h, feature?_key hother] at hfound
  exact (Option.some.inj hfound).symm

theorem nodup_names : (catalog.features.map (·.name)).Nodup := by
  rw [List.nodup_iff_pairwise_ne, List.pairwise_map]
  apply catalog.distinct.imp
  intro earlier later hkey hname
  apply hkey
  simp [Feature.keys, Feature.key, hname]

/-- A name that finds nothing is no feature's own. -/
theorem key_ne_of_feature?_eq_none (h : catalog.feature? name = none)
    (hfeature : feature ∈ catalog.features) : feature.key ≠ Name.normalize name := by
  intro hkey
  rw [feature?_of_key_eq hfeature hkey.symm] at h
  cases h

/-! ## Platforms of what is found -/

theorem mem_platforms_of_mem_platformsOf {platform : String}
    (h : platform ∈ catalog.platformsOf name) : platform ∈ catalog.platforms := by
  unfold platformsOf at h
  cases hfeature : catalog.feature? name with
  | none => simp [hfeature] at h
  | some feature =>
    rw [hfeature] at h
    exact (Std.ExtTreeSet.mem_inter_iff.mp h).2

theorem mem_platformsOf_name_iff {platform : String} (h : feature ∈ catalog.features) :
    platform ∈ catalog.platformsOf feature.name ↔
      platform ∈ catalog.platforms ∧ platform ∈ feature.platforms := by
  rw [platformsOf, feature?_name h, Option.elim_some, Std.ExtTreeSet.mem_inter_iff, and_comm]

/-- The platforms of a catalog are in normal form, since those of its features are. -/
theorem normalize_of_mem_platforms {platform : String} (h : platform ∈ catalog.platforms) :
    Name.normalize platform = platform := by
  rw [catalog.platforms_eq, backedPlatforms, NameSet.mem_unionAll] at h
  obtain ⟨platforms, hplatforms, hmem⟩ := h
  obtain ⟨feature, -, rfl⟩ := List.mem_map.mp hplatforms
  exact feature.normalize_platform platform hmem

/-! ## Public features -/

theorem publicFeature?_name (h : feature ∈ catalog.publicFeatures) :
    catalog.publicFeature? feature.name = some feature := by
  obtain ⟨hfeature, hpublic⟩ := List.mem_filter.mp h
  rw [publicFeature?, feature?_name hfeature, Option.filter_some_pos hpublic]

theorem nodup_publicNames (p : Feature → Bool) :
    ((catalog.publicFeatures.filter p).map (·.name)).Nodup :=
  nodup_names.sublist ((List.filter_sublist.trans List.filter_sublist).map _)

theorem publicFeature?_key (h : feature ∈ catalog.features) :
    catalog.publicFeature? feature.key = if feature.isPublic then some feature else none := by
  rw [publicFeature?, feature?_key h]
  cases hpublic : feature.isPublic <;> simp [hpublic]

end FeatureCheck.Catalog
