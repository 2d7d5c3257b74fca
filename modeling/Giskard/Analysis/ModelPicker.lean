import Mathlib
import Giskard.Model.ModelPicker

/-!
# What the composed picker offers

The three sources of the picker's list are told apart by names: the merged list is the declared
models and then the new discovered ones, and the catalog adds names that are in neither. From
that follow that every name is there once, whose data an entry has, which entries are marked as
the default, and the order within each provider.
-/

set_option autoImplicit false

namespace Giskard.Models

open Foundation (IndexMap)

local instance lawfulKey : LawfulBEq Key := inferInstance

/-! ## The merged list -/

/-- The same entry but for the advertised capacity. -/
def Alike (first second : ModelDescriptor) : Prop :=
  second = { first with advertisedContextWindow := second.advertisedContextWindow }

theorem Alike.trans {first second third : ModelDescriptor} (one : Alike first second)
    (two : Alike second third) : Alike first third := by
  unfold Alike at one two ⊢
  rw [two, one]

theorem Alike.key_eq {first second : ModelDescriptor} (alike : Alike first second) :
    second.key = first.key := by
  rw [show second = _ from alike]
  rfl

theorem keys_of_alike {first second : List ModelDescriptor} (alike : List.Forall₂ Alike first second) :
    second.map ModelDescriptor.key = first.map ModelDescriptor.key := by
  induction alike with
  | nil => rfl
  | cons here _ ih => rw [List.map_cons, List.map_cons, here.key_eq, ih]

theorem alike_trans {first second third : List ModelDescriptor}
    (one : List.Forall₂ Alike first second) (two : List.Forall₂ Alike second third) :
    List.Forall₂ Alike first third := by
  induction one generalizing third with
  | nil =>
    cases two
    exact .nil
  | cons here _ ih =>
    cases two with
    | cons next rest => exact .cons (here.trans next) (ih rest)

theorem advertise_alike (key : Key) (maximum : ℕ) (models : List ModelDescriptor) :
    List.Forall₂ Alike models (advertise key maximum models) := by
  induction models with
  | nil => exact .nil
  | cons descriptor rest ih =>
    unfold advertise
    split
    · exact .cons rfl (List.forall₂_same.2 fun _ _ => rfl)
    · exact .cons rfl ih

theorem advertise_append {key : Key} {second : List ModelDescriptor}
    (absent : key ∉ second.map ModelDescriptor.key) (maximum : ℕ) (first : List ModelDescriptor) :
    advertise key maximum (first ++ second) = advertise key maximum first ++ second := by
  induction first with
  | nil =>
    rw [List.nil_append]
    induction second with
    | nil => rfl
    | cons descriptor rest ih =>
      rw [List.map_cons, List.mem_cons, not_or] at absent
      unfold advertise
      rw [if_neg (Ne.symm absent.1), ih absent.2]
      rfl
  | cons descriptor rest ih =>
    rw [List.cons_append, advertise, advertise]
    split
    · rfl
    · rw [ih, List.cons_append]

/-- The discovered models that nothing declares. -/
def newModels (base : List ModelDescriptor) (dynamic : List DiscoveredModel) :
    List DiscoveredModel :=
  dynamic.filter fun discovered => discovered.key ∉ base.map ModelDescriptor.key

theorem newModels_concat (base : List ModelDescriptor) (dynamic : List DiscoveredModel)
    (discovered : DiscoveredModel) :
    newModels base (dynamic ++ [discovered]) = newModels base dynamic ++
      if discovered.key ∈ base.map ModelDescriptor.key then [] else [discovered] := by
  unfold newModels
  rw [List.filter_append, List.filter_singleton]
  split <;> simp_all

theorem discoveredDescriptor_key (discovered : DiscoveredModel) :
    (discoveredDescriptor discovered).key = discovered.key := by
  unfold discoveredDescriptor
  dsimp only
  split <;> split <;> rfl

theorem keys_newModels (base : List ModelDescriptor) (dynamic : List DiscoveredModel) :
    ((newModels base dynamic).map discoveredDescriptor).map ModelDescriptor.key =
      (newModels base dynamic).map DiscoveredModel.key := by
  rw [List.map_map]
  exact List.map_congr_left fun discovered _ => discoveredDescriptor_key discovered

theorem foldl_mergeModel (base : List ModelDescriptor) {dynamic : List DiscoveredModel}
    (distinct : (dynamic.map DiscoveredModel.key).Nodup) :
    ∃ declared, List.Forall₂ Alike base declared ∧
      dynamic.foldl mergeModel ((base.map ModelDescriptor.key).toFinset, base) =
        (((declared ++ (newModels base dynamic).map discoveredDescriptor).map
          ModelDescriptor.key).toFinset,
          declared ++ (newModels base dynamic).map discoveredDescriptor) := by
  induction dynamic using List.reverseRecOn with
  | nil =>
    refine ⟨base, List.forall₂_same.2 fun _ _ => rfl, ?_⟩
    rw [show newModels base [] = [] from rfl, List.map_nil, List.append_nil]
    rfl
  | append_singleton dynamic discovered ih =>
    rw [List.map_append, List.nodup_append] at distinct
    obtain ⟨declared, alike, merged⟩ := ih distinct.1
    have later : discovered.key ∉
        ((newModels base dynamic).map discoveredDescriptor).map ModelDescriptor.key := by
      rw [keys_newModels]
      intro there
      obtain ⟨other, inside, same⟩ := List.mem_map.1 there
      exact distinct.2.2 _ (List.mem_map.2 ⟨other, List.mem_of_mem_filter inside, rfl⟩) _
        (List.mem_singleton_self _) same
    have told : ∃ told, List.Forall₂ Alike declared told ∧
        learnCapacity (declared ++ (newModels base dynamic).map discoveredDescriptor) discovered =
          told ++ (newModels base dynamic).map discoveredDescriptor := by
      unfold learnCapacity
      cases discovered.advertisedContextWindow.filter fun maximum => maximum > 0 with
      | none => exact ⟨declared, List.forall₂_same.2 fun _ _ => rfl, rfl⟩
      | some maximum =>
        exact ⟨advertise discovered.key maximum declared, advertise_alike _ _ _,
          advertise_append later maximum declared⟩
    obtain ⟨told, alike', same⟩ := told
    have known : discovered.key ∈ ((declared ++
        (newModels base dynamic).map discoveredDescriptor).map ModelDescriptor.key).toFinset ↔
          discovered.key ∈ base.map ModelDescriptor.key := by
      rw [List.mem_toFinset, List.map_append, List.mem_append, keys_of_alike alike]
      exact or_iff_left later
    refine ⟨told, alike_trans alike alike', ?_⟩
    rw [List.foldl_concat, merged]
    unfold mergeModel
    dsimp only
    rw [same, newModels_concat]
    by_cases there : discovered.key ∈ base.map ModelDescriptor.key
    · rw [if_pos (known.2 there), if_pos there, List.append_nil, List.map_append, List.map_append,
        keys_of_alike alike']
    · have added : told ++ (newModels base dynamic ++ [discovered]).map discoveredDescriptor =
          told ++ (newModels base dynamic).map discoveredDescriptor ++
            [discoveredDescriptor discovered] := by
        rw [List.map_append, List.append_assoc]
        rfl
      have known' : ((told ++ (newModels base dynamic).map discoveredDescriptor ++
          [discoveredDescriptor discovered]).map ModelDescriptor.key).toFinset =
            insert discovered.key ((declared ++
              (newModels base dynamic).map discoveredDescriptor).map
                ModelDescriptor.key).toFinset := by
        rw [List.map_append, List.map_append, keys_of_alike alike', ← List.map_append,
          List.toFinset_append, List.map_singleton, discoveredDescriptor_key, Finset.union_comm]
        rfl
      rw [if_neg (fun inside => there (known.1 inside)), if_neg there, added, known']

theorem mergeModels_eq (base : List ModelDescriptor) {dynamic : List DiscoveredModel}
    (distinct : (dynamic.map DiscoveredModel.key).Nodup) :
    ∃ declared, List.Forall₂ Alike base declared ∧
      mergeModels base dynamic = declared ++ (newModels base dynamic).map discoveredDescriptor := by
  obtain ⟨declared, alike, merged⟩ := foldl_mergeModel base distinct
  exact ⟨declared, alike, congrArg Prod.snd merged⟩

theorem keys_mergeModels (base : List ModelDescriptor) {dynamic : List DiscoveredModel}
    (distinct : (dynamic.map DiscoveredModel.key).Nodup) :
    (mergeModels base dynamic).map ModelDescriptor.key =
      base.map ModelDescriptor.key ++ (newModels base dynamic).map DiscoveredModel.key := by
  obtain ⟨declared, alike, merged⟩ := mergeModels_eq base distinct
  rw [merged, List.map_append, keys_of_alike alike, keys_newModels]

/-! ## The overlay -/

section Overlay

variable (entry descriptor : ModelDescriptor) (config : Config) (efforts : Finset Key)

theorem fillName_alike : fillName entry descriptor =
    { descriptor with displayName := (fillName entry descriptor).displayName } := by
  unfold fillName
  split <;> rfl

theorem markDefault_alike : markDefault entry descriptor =
    { descriptor with isDefault := (markDefault entry descriptor).isDefault } := by
  unfold markDefault
  split <;> rfl

theorem fillEfforts_alike : fillEfforts config efforts entry descriptor =
    { descriptor with
      supportsReasoningEffort :=
        (fillEfforts config efforts entry descriptor).supportsReasoningEffort
      reasoningEfforts := (fillEfforts config efforts entry descriptor).reasoningEfforts } := by
  unfold fillEfforts
  split <;> rfl

theorem fillEfforts_told (told : descriptor.key ∈ declaredKeys config ∨ descriptor.key ∈ efforts) :
    fillEfforts config efforts entry descriptor = descriptor :=
  if_neg fun gap => told.elim gap.1 gap.2

variable (harnessModels : List ModelDescriptor)

theorem overlay_alike : overlay harnessModels config efforts descriptor =
    { descriptor with
      supportsReasoningEffort :=
        (overlay harnessModels config efforts descriptor).supportsReasoningEffort
      reasoningEfforts := (overlay harnessModels config efforts descriptor).reasoningEfforts
      displayName := (overlay harnessModels config efforts descriptor).displayName
      isDefault := (overlay harnessModels config efforts descriptor).isDefault } := by
  unfold overlay
  split
  · rfl
  · next entry _ =>
    rw [fillEfforts_alike, markDefault_alike, fillName_alike]

@[simp] theorem overlay_key : (overlay harnessModels config efforts descriptor).key =
    descriptor.key := by
  rw [overlay_alike]
  rfl

theorem overlay_displayName {name : String} (named : descriptor.displayName = some name) :
    (overlay harnessModels config efforts descriptor).displayName = some name := by
  have filled (entry : ModelDescriptor) : fillName entry descriptor = descriptor :=
    if_neg (by rw [named]; exact Option.some_ne_none _)
  unfold overlay
  split
  · exact named
  · rw [filled, fillEfforts_alike, markDefault_alike]
    exact named

theorem overlay_efforts (told : descriptor.key ∈ declaredKeys config ∨ descriptor.key ∈ efforts) :
    (overlay harnessModels config efforts descriptor).supportsReasoningEffort =
        descriptor.supportsReasoningEffort ∧
      (overlay harnessModels config efforts descriptor).reasoningEfforts =
        descriptor.reasoningEfforts := by
  unfold overlay
  split
  · exact ⟨rfl, rfl⟩
  · next entry _ =>
    have key : (markDefault entry (fillName entry descriptor)).key = descriptor.key := by
      rw [markDefault_alike, fillName_alike]
      rfl
    rw [fillEfforts_told _ _ _ _ (by rwa [key]), markDefault_alike, fillName_alike]
    exact ⟨rfl, rfl⟩

/-- An entry is marked where the catalog's entry for its model id is, if that names no other
provider. -/
theorem overlay_isDefault (plain : descriptor.isDefault = false) :
    (overlay harnessModels config efforts descriptor).isDefault = true ↔
      ∃ entry, catalogEntry harnessModels descriptor.model = some entry ∧
        entry.isDefault = true ∧ (entry.provider = "" ∨ entry.provider = descriptor.provider) := by
  unfold overlay
  cases catalogEntry harnessModels descriptor.model with
  | none => simp [plain]
  | some entry =>
    dsimp only
    rw [fillEfforts_alike]
    dsimp only
    have named : (fillName entry descriptor).provider = descriptor.provider ∧
        (fillName entry descriptor).isDefault = false := by
      rw [fillName_alike]
      exact ⟨rfl, plain⟩
    unfold markDefault
    rw [named.1]
    constructor
    · intro marked
      split at marked
      · next mine => exact ⟨entry, rfl, marked, mine⟩
      · rw [named.2] at marked
        cases marked
    · rintro ⟨other, same, marked, mine⟩
      cases same
      rw [if_pos mine]
      exact marked

end Overlay

/-! ## The names -/

section Names

variable (config : Config) (discovered : List DiscoveredModel)
  (harnessModels : List ModelDescriptor)

/-- The declared names, in the order of the config. -/
def declaredNames : List Key := (listDescriptors config).map ModelDescriptor.key

/-- The declared names, and then the new ones of discovery. -/
def mergedNames : List Key :=
  declaredNames config ++
    (discovered.map DiscoveredModel.key).filter fun key => key ∉ declaredNames config

/-- The names that the catalog alone supplies: routable, not delisted, and nowhere else. -/
def catalogNames : List Key :=
  (harnessModels.map ModelDescriptor.key).filter fun key =>
    key.1 ≠ "" ∧ delisted config key.1 = false ∧ key ∉ mergedNames config discovered

/-- All names: declared, then discovered, then the catalog's, but for the excluded ones. -/
def offeredNames : List Key :=
  (mergedNames config discovered ++ catalogNames config discovered harnessModels).filter
    fun key => !excluded config key.1 key.2

/-- The sources name no model twice. -/
structure Distinct : Prop where
  declared : ∀ entry ∈ config.providers.entries, (entry.2.models.map ModelConfig.id).Nodup
  discovered : (discovered.map DiscoveredModel.key).Nodup
  catalog : (harnessModels.map ModelDescriptor.key).Nodup

/-- The composed list before it is ordered. -/
def composed : List ModelDescriptor :=
  applyHarnessMetadata (mergeModels (listDescriptors config) discovered) harnessModels config
    (effortsFromDiscovery discovered)

end Names

variable {config : Config} {discovered : List DiscoveredModel}
  {harnessModels : List ModelDescriptor}

theorem keys_merged (distinct : (discovered.map DiscoveredModel.key).Nodup) :
    (mergeModels (listDescriptors config) discovered).map ModelDescriptor.key =
      mergedNames config discovered := by
  rw [keys_mergeModels _ distinct]
  unfold mergedNames newModels declaredNames
  rw [List.filter_map]
  rfl

theorem keys_overlaid (efforts : Finset Key) (models : List ModelDescriptor) :
    (models.map (overlay harnessModels config efforts)).map ModelDescriptor.key =
      models.map ModelDescriptor.key := by
  rw [List.map_map]
  exact List.map_congr_left fun descriptor _ => overlay_key _ _ _ _

theorem keys_composed (distinct : (discovered.map DiscoveredModel.key).Nodup) :
    (composed config discovered harnessModels).map ModelDescriptor.key =
      offeredNames config discovered harnessModels := by
  have supplied (base : List ModelDescriptor)
      (keys : base.map ModelDescriptor.key = mergedNames config discovered) :
      (fromCatalog base harnessModels config).map ModelDescriptor.key =
        catalogNames config discovered harnessModels := by
    unfold fromCatalog catalogNames
    rw [List.filter_map, keys]
    rfl
  have keys : ((mergeModels (listDescriptors config) discovered).map
      (overlay harnessModels config (effortsFromDiscovery discovered))).map ModelDescriptor.key =
        mergedNames config discovered :=
    (keys_overlaid (effortsFromDiscovery discovered) _).trans (keys_merged distinct)
  unfold composed applyHarnessMetadata offeredNames
  dsimp only
  rw [← keys, ← supplied _ keys, ← List.map_append, List.filter_map]
  rfl

theorem nodup_declaredNames (distinct : Distinct config discovered harnessModels) :
    (declaredNames config).Nodup := by
  unfold declaredNames listDescriptors
  rw [List.map_flatMap, List.nodup_flatMap]
  have names (entry : String × ProviderConfig) :
      (entry.2.models.map (declaredDescriptor entry.1)).map ModelDescriptor.key =
        entry.2.models.map fun model => (entry.1, model.id) := by
    rw [List.map_map]
    rfl
  constructor
  · intro entry there
    rw [names]
    have ids := distinct.declared entry there
    have pairs := ids.map (f := fun id => (entry.1, id)) fun _ _ same => (Prod.mk.inj same).2
    rwa [List.map_map] at pairs
  · have keys : (config.providers.entries.map Prod.fst).Nodup := config.providers.nodup
    refine (List.pairwise_map.1 keys).imp ?_
    intro first second other key there there'
    dsimp only [Function.onFun] at there there'
    rw [names] at there there'
    obtain ⟨_, _, rfl⟩ := List.mem_map.1 there
    obtain ⟨_, _, same⟩ := List.mem_map.1 there'
    exact other (Prod.mk.inj same).1.symm

theorem nodup_mergedNames (distinct : Distinct config discovered harnessModels) :
    (mergedNames config discovered).Nodup := by
  refine List.nodup_append.2 ⟨nodup_declaredNames distinct, distinct.discovered.filter _, ?_⟩
  intro first there second later same
  have new := (List.mem_filter.1 later).2
  rw [← same] at new
  simp [there] at new

theorem nodup_offeredNames (distinct : Distinct config discovered harnessModels) :
    (offeredNames config discovered harnessModels).Nodup := by
  apply List.Nodup.filter
  refine List.nodup_append.2 ⟨nodup_mergedNames distinct, distinct.catalog.filter _, ?_⟩
  intro first there second later same
  have new := (List.mem_filter.1 later).2
  rw [← same] at new
  simp [there] at new

/-! ## The order -/

instance : Std.Total (Ordered config) where
  total first second := by
    unfold Ordered
    rcases Nat.lt_trichotomy (rank config first.provider) (rank config second.provider) with
      less | same | more
    · exact Or.inl (Or.inl less)
    · rcases le_total first.provider second.provider with le | le
      · exact Or.inl (Or.inr ⟨same, le⟩)
      · exact Or.inr (Or.inr ⟨same.symm, le⟩)
    · exact Or.inr (Or.inl more)

instance : IsTrans ModelDescriptor (Ordered config) where
  trans first second third one two := by
    rcases one with less | ⟨same, le⟩ <;> rcases two with less' | ⟨same', le'⟩
    · exact Or.inl (less.trans less')
    · exact Or.inl (same' ▸ less)
    · exact Or.inl (same ▸ less')
    · exact Or.inr ⟨same.trans same', le.trans le'⟩

theorem filter_orderForPicker (models : List ModelDescriptor) (provider : String) :
    (orderForPicker models config).filter (fun descriptor => descriptor.provider = provider) =
      models.filter fun descriptor => descriptor.provider = provider := by
  have pairs : (models.filter fun descriptor => descriptor.provider = provider).Pairwise
      (Ordered config) := by
    refine List.pairwise_of_forall_mem_list ?_
    intro first there second there'
    have one : first.provider = provider := by simpa using (List.mem_filter.1 there).2
    have two : second.provider = provider := by simpa using (List.mem_filter.1 there').2
    rw [← two] at one
    exact Or.inr ⟨congrArg (rank config) one, one.le⟩
  have inside := (List.sublist_insertionSort pairs List.filter_sublist).filter
    fun descriptor => decide (descriptor.provider = provider)
  rw [List.filter_filter] at inside
  simp only [Bool.and_self] at inside
  have sorted := (List.perm_insertionSort (Ordered config) models).filter
    fun descriptor => decide (descriptor.provider = provider)
  exact (inside.eq_of_length sorted.length_eq.symm).symm

/-! ## The entries -/

theorem mem_compose {descriptor : ModelDescriptor}
    (there : descriptor ∈ compose config discovered harnessModels) :
    excluded config descriptor.provider descriptor.model = false ∧
      ((∃ merged ∈ mergeModels (listDescriptors config) discovered, descriptor =
          overlay harnessModels config (effortsFromDiscovery discovered) merged) ∨
        descriptor ∈ harnessModels ∧ descriptor.provider ≠ "" ∧
          delisted config descriptor.provider = false ∧
            descriptor.key ∉
              (mergeModels (listDescriptors config) discovered).map ModelDescriptor.key) := by
  have there : descriptor ∈ composed config discovered harnessModels :=
    (List.mem_insertionSort _).1 there
  unfold composed applyHarnessMetadata at there
  obtain ⟨among, offered⟩ := List.mem_filter.1 there
  refine ⟨by simpa using offered, ?_⟩
  rcases List.mem_append.1 among with merged | catalog
  · obtain ⟨merged, inside, same⟩ := List.mem_map.1 merged
    exact Or.inl ⟨merged, inside, same.symm⟩
  · obtain ⟨inside, passes⟩ := List.mem_filter.1 catalog
    rw [keys_overlaid] at passes
    have passes := of_decide_eq_true passes
    exact Or.inr ⟨inside, passes⟩

theorem mem_mergeModels (distinct : (discovered.map DiscoveredModel.key).Nodup)
    {merged : ModelDescriptor}
    (there : merged ∈ mergeModels (listDescriptors config) discovered) :
    (∃ declared ∈ listDescriptors config, Alike declared merged) ∨
      ∃ model ∈ discovered, model.key ∉ declaredNames config ∧
        merged = discoveredDescriptor model := by
  obtain ⟨declared, alike, parts⟩ := mergeModels_eq (listDescriptors config) distinct
  rw [parts] at there
  rcases List.mem_append.1 there with old | new
  · refine Or.inl ?_
    clear parts there
    generalize listDescriptors config = base at alike ⊢
    induction alike with
    | nil => cases old
    | cons here _ ih =>
      rcases List.mem_cons.1 old with rfl | later
      · exact ⟨_, List.mem_cons_self, here⟩
      · obtain ⟨first, inside, alike⟩ := ih later
        exact ⟨first, List.mem_cons_of_mem _ inside, alike⟩
  · obtain ⟨model, inside, same⟩ := List.mem_map.1 new
    obtain ⟨among, absent⟩ := List.mem_filter.1 inside
    exact Or.inr ⟨model, among, by simpa [declaredNames] using absent, same.symm⟩

theorem mem_listDescriptors {declared : ModelDescriptor} :
    declared ∈ listDescriptors config ↔ ∃ entry ∈ config.providers.entries,
      ∃ model ∈ entry.2.models, declared = declaredDescriptor entry.1 model := by
  unfold listDescriptors
  simp only [List.mem_flatMap, List.mem_map]
  constructor
  · rintro ⟨entry, there, model, inside, same⟩
    exact ⟨entry, there, model, inside, same.symm⟩
  · rintro ⟨entry, there, model, inside, same⟩
    exact ⟨entry, there, model, inside, same.symm⟩

theorem declaredKeys_eq : declaredKeys config = (declaredNames config).toFinset := by
  unfold declaredKeys declaredNames listDescriptors
  rw [List.map_flatMap]
  congr 2
  funext entry
  rw [List.map_map]
  rfl

theorem merged_plain (distinct : (discovered.map DiscoveredModel.key).Nodup)
    {merged : ModelDescriptor}
    (there : merged ∈ mergeModels (listDescriptors config) discovered) :
    merged.isDefault = false := by
  rcases mem_mergeModels distinct there with ⟨declared, inside, alike⟩ | ⟨model, _, _, rfl⟩
  · obtain ⟨entry, _, model, _, rfl⟩ := mem_listDescriptors.1 inside
    rw [show merged = _ from alike]
    rfl
  · unfold discoveredDescriptor
    dsimp only
    split <;> split <;> rfl

/-- The entry of a declared model. -/
theorem declared_entry (distinct : Distinct config discovered harnessModels)
    {descriptor : ModelDescriptor} (there : descriptor ∈ compose config discovered harnessModels)
    {provider : ProviderConfig} {model : ModelConfig}
    (known : config.providers.get? descriptor.provider = some provider)
    (declared : model ∈ provider.models) (named : model.id = descriptor.model) :
    ∃ advertised, descriptor = overlay harnessModels config (effortsFromDiscovery discovered)
      { declaredDescriptor descriptor.provider model with
        advertisedContextWindow := advertised } := by
  have mine : declaredDescriptor descriptor.provider model ∈ listDescriptors config :=
    mem_listDescriptors.2 ⟨_, IndexMap.get?_eq_some.1 known, model, declared, rfl⟩
  have key : (declaredDescriptor descriptor.provider model).key = descriptor.key := by
    unfold ModelDescriptor.key
    exact congrArg (Prod.mk descriptor.provider) named
  have name : descriptor.key ∈ declaredNames config :=
    key ▸ List.mem_map_of_mem mine
  obtain ⟨_, ⟨merged, inside, same⟩ | ⟨_, _, _, absent⟩⟩ := mem_compose there
  · have merges : merged.key = descriptor.key := by rw [same, overlay_key]
    rcases mem_mergeModels distinct.discovered inside with ⟨other, first, alike⟩ |
      ⟨other, _, new, rfl⟩
    · have equal : other = declaredDescriptor descriptor.provider model := by
        apply List.inj_on_of_nodup_map (nodup_declaredNames distinct) first mine
        rw [key, ← merges, alike.key_eq]
      refine ⟨merged.advertisedContextWindow, ?_⟩
      rw [← equal, ← show merged = _ from alike]
      exact same
    · rw [discoveredDescriptor_key] at merges
      exact absurd (merges ▸ name) new
  · rw [keys_merged distinct.discovered] at absent
    exact absurd (List.mem_append_left _ name) absent

theorem discovered_entry (distinct : Distinct config discovered harnessModels)
    {descriptor : ModelDescriptor} (there : descriptor ∈ compose config discovered harnessModels)
    {model : DiscoveredModel} (known : model ∈ discovered) (named : model.key = descriptor.key)
    (undeclared : descriptor.key ∉ declaredNames config) :
    descriptor = overlay harnessModels config (effortsFromDiscovery discovered)
      (discoveredDescriptor model) := by
  obtain ⟨_, ⟨merged, inside, same⟩ | ⟨_, _, _, absent⟩⟩ := mem_compose there
  · have merges : merged.key = descriptor.key := by rw [same, overlay_key]
    rcases mem_mergeModels distinct.discovered inside with ⟨other, first, alike⟩ |
      ⟨other, among, _, rfl⟩
    · rw [← merges, alike.key_eq] at undeclared
      exact absurd (List.mem_map_of_mem first) undeclared
    · rw [discoveredDescriptor_key, ← named] at merges
      have equal := List.inj_on_of_nodup_map distinct.discovered among known merges
      rw [← equal]
      exact same
  · rw [keys_merged distinct.discovered] at absent
    refine absurd (List.mem_append_right _ (List.mem_filter.2 ⟨?_, ?_⟩)) absent
    · exact named ▸ List.mem_map_of_mem known
    · simpa using undeclared

/-! ## The default -/

/-- A catalog entry that the picker may offer. -/
def Offered (config : Config) (entry : ModelDescriptor) : Prop :=
  entry.provider ≠ "" ∧ delisted config entry.provider = false ∧
    excluded config entry.provider entry.model = false

/-- The one entry that the picker may offer and that the catalog marks as the default. -/
structure OnlyDefault (config : Config) (harnessModels : List ModelDescriptor)
    (entry : ModelDescriptor) : Prop where
  there : entry ∈ harnessModels
  marked : entry.isDefault = true
  offered : Offered config entry
  only : ∀ other ∈ harnessModels, other.isDefault = true → Offered config other → other = entry

/-- A declared or discovered model that the catalog marks through an entry it does not offer: one
without a provider, or the model's own one of a delisted provider. -/
def MarkedOtherwise (config : Config) (discovered : List DiscoveredModel)
    (harnessModels : List ModelDescriptor) (descriptor : ModelDescriptor) : Prop :=
  descriptor.key ∈ mergedNames config discovered ∧
    ∃ entry, catalogEntry harnessModels descriptor.model = some entry ∧ entry.isDefault = true ∧
      (entry.provider = "" ∨
        entry.provider = descriptor.provider ∧ delisted config descriptor.provider = true)

theorem catalogEntry_mem {model : String} {entry : ModelDescriptor}
    (found : catalogEntry harnessModels model = some entry) :
    entry ∈ harnessModels ∧ entry.model = model := by
  unfold catalogEntry at found
  rw [IndexMap.get?_collect] at found
  exact ⟨List.mem_reverse.1 (List.mem_of_find?_eq_some found), by simpa using List.find?_some found⟩

theorem mem_compose_of_offered {key : Key} (distinct : Distinct config discovered harnessModels)
    (there : key ∈ offeredNames config discovered harnessModels) :
    ∃ descriptor ∈ compose config discovered harnessModels, descriptor.key = key := by
  rw [← keys_composed distinct.discovered] at there
  obtain ⟨descriptor, inside, same⟩ := List.mem_map.1 there
  exact ⟨descriptor, (List.mem_insertionSort _).2 inside, same⟩

theorem default_offered (distinct : Distinct config discovered harnessModels)
    {entry : ModelDescriptor} (only : OnlyDefault config harnessModels entry) :
    ∃ descriptor ∈ compose config discovered harnessModels, descriptor.key = entry.key := by
  obtain ⟨named, listed, kept⟩ := only.offered
  apply mem_compose_of_offered distinct
  refine List.mem_filter.2 ⟨?_, by simpa [ModelDescriptor.key] using kept⟩
  by_cases merged : entry.key ∈ mergedNames config discovered
  · exact List.mem_append_left _ merged
  · refine List.mem_append_right _ (List.mem_filter.2 ⟨List.mem_map_of_mem only.there, ?_⟩)
    exact decide_eq_true ⟨named, listed, merged⟩

/-- Which entries are marked. -/
theorem isDefault_iff (distinct : Distinct config discovered harnessModels)
    {entry : ModelDescriptor} (only : OnlyDefault config harnessModels entry)
    (told : entry.key ∈ mergedNames config discovered →
      catalogEntry harnessModels entry.model = some entry)
    {descriptor : ModelDescriptor} (there : descriptor ∈ compose config discovered harnessModels) :
    descriptor.isDefault = true ↔
      descriptor.key = entry.key ∨ MarkedOtherwise config discovered harnessModels descriptor := by
  obtain ⟨kept, ⟨merged, inside, same⟩ | ⟨among, named, listed, absent⟩⟩ := mem_compose there
  · have plain := merged_plain distinct.discovered inside
    have alike : merged.provider = descriptor.provider ∧ merged.model = descriptor.model := by
      rw [same, overlay_alike]
      exact ⟨rfl, rfl⟩
    have name : descriptor.key ∈ mergedNames config discovered := by
      rw [← keys_merged distinct.discovered, same, overlay_key]
      exact List.mem_map_of_mem inside
    have marked : descriptor.isDefault = true ↔
        ∃ entry, catalogEntry harnessModels descriptor.model = some entry ∧
          entry.isDefault = true ∧ (entry.provider = "" ∨ entry.provider = descriptor.provider) := by
      rw [← alike.1, ← alike.2, ← overlay_isDefault merged config (effortsFromDiscovery discovered)
        harnessModels plain, ← same]
    rw [marked]
    constructor
    · rintro ⟨other, found, default, mine⟩
      by_cases blank : other.provider = ""
      · exact Or.inr ⟨name, other, found, default, Or.inl blank⟩
      have mine : other.provider = descriptor.provider := mine.resolve_left blank
      cases listed : delisted config descriptor.provider with
      | true => exact Or.inr ⟨name, other, found, default, Or.inr ⟨mine, listed⟩⟩
      | false =>
        obtain ⟨known, model⟩ := catalogEntry_mem found
        have offered : Offered config other := by
          unfold Offered
          rw [mine, model]
          exact ⟨mine ▸ blank, listed, kept⟩
        refine Or.inl ?_
        rw [← only.only other known default offered]
        unfold ModelDescriptor.key
        rw [mine, model]
    · rintro (mine | ⟨_, other, found, default, nobody | ⟨mine, _⟩⟩)
      · have provider : descriptor.provider = entry.provider := congrArg Prod.fst mine
        have model : descriptor.model = entry.model := congrArg Prod.snd mine
        refine ⟨entry, ?_, only.marked, Or.inr provider.symm⟩
        rw [model]
        exact told (mine ▸ name)
      · exact ⟨other, found, default, Or.inl nobody⟩
      · exact ⟨other, found, default, Or.inr mine⟩
  · rw [keys_merged distinct.discovered] at absent
    constructor
    · intro default
      exact Or.inl (congrArg _ (only.only descriptor among default ⟨named, listed, kept⟩))
    · rintro (mine | ⟨name, _⟩)
      · rw [List.inj_on_of_nodup_map distinct.catalog among only.there mine]
        exact only.marked
      · exact absurd name absent

/-! ## The picker -/

/-- What the picker offers: every name once, with its owner's data, marked as the catalog says,
and in order. -/
structure Picks (config : Config) (discovered : List DiscoveredModel)
    (harnessModels : List ModelDescriptor) : Prop where
  once : ((compose config discovered harnessModels).map ModelDescriptor.key).Nodup
  /-- A declared entry keeps its configured data. -/
  declared : ∀ descriptor ∈ compose config discovered harnessModels, ∀ provider model,
    config.providers.get? descriptor.provider = some provider → model ∈ provider.models →
      model.id = descriptor.model →
        descriptor.contextWindow = model.contextWindow ∧
          descriptor.supportsReasoningEffort = model.supportsReasoningEffort ∧
            descriptor.reasoningEfforts = [] ∧
              ∀ name, model.displayName = some name → descriptor.displayName = some name
  /-- An undeclared model keeps the efforts that discovery stated. -/
  stated : ∀ descriptor ∈ compose config discovered harnessModels, ∀ model ∈ discovered,
    model.key = descriptor.key → descriptor.key ∉ declaredKeys config →
      ∀ efforts, model.reasoningEfforts = some efforts →
        descriptor.reasoningEfforts = efforts ∧
          descriptor.supportsReasoningEffort = !efforts.isEmpty
  /-- The one default that may be offered is there and marked, and nothing else is but what the
  catalog marks through an entry it does not offer. -/
  marked : ∀ entry, OnlyDefault config harnessModels entry →
    (entry.key ∈ mergedNames config discovered →
      catalogEntry harnessModels entry.model = some entry) →
      (∃ descriptor ∈ compose config discovered harnessModels, descriptor.key = entry.key) ∧
        ∀ descriptor ∈ compose config discovered harnessModels, descriptor.isDefault = true ↔
          descriptor.key = entry.key ∨
            MarkedOtherwise config discovered harnessModels descriptor
  /-- The names of one provider: the declared ones, the discovered ones, the catalog's. -/
  ordered : ∀ provider : String,
    ((compose config discovered harnessModels).map ModelDescriptor.key).filter
        (fun key => key.1 = provider) =
      (offeredNames config discovered harnessModels).filter fun key => key.1 = provider
  /-- The declared providers lead, in the order of the config. -/
  ranked : (compose config discovered harnessModels).Pairwise (Ordered config)

theorem keys_of_provider (models : List ModelDescriptor) (provider : String) :
    (models.map ModelDescriptor.key).filter (fun key => key.1 = provider) =
      (models.filter fun descriptor => descriptor.provider = provider).map
        ModelDescriptor.key := by
  rw [List.filter_map]
  rfl

theorem declared_kept (distinct : Distinct config discovered harnessModels)
    {descriptor : ModelDescriptor} (there : descriptor ∈ compose config discovered harnessModels)
    {provider : ProviderConfig} {model : ModelConfig}
    (known : config.providers.get? descriptor.provider = some provider)
    (declared : model ∈ provider.models) (named : model.id = descriptor.model) :
    descriptor.contextWindow = model.contextWindow ∧
      descriptor.supportsReasoningEffort = model.supportsReasoningEffort ∧
        descriptor.reasoningEfforts = [] ∧
          ∀ name, model.displayName = some name → descriptor.displayName = some name := by
  obtain ⟨advertised, entry⟩ := declared_entry distinct there known declared named
  have key : (descriptor.provider, model.id) ∈ declaredKeys config := by
    unfold declaredKeys
    exact List.mem_toFinset.2 (List.mem_flatMap.2 ⟨_, IndexMap.get?_eq_some.1 known,
      List.mem_map.2 ⟨model, declared, rfl⟩⟩)
  have efforts := overlay_efforts { declaredDescriptor descriptor.provider model with
    advertisedContextWindow := advertised } config (effortsFromDiscovery discovered) harnessModels
      (Or.inl key)
  rw [← entry] at efforts
  refine ⟨?_, efforts.1, efforts.2, ?_⟩
  · rw [entry, overlay_alike]
    rfl
  · intro name set
    rw [entry]
    exact overlay_displayName _ _ _ _ set

theorem discoveredDescriptor_efforts {model : DiscoveredModel} {efforts : List String}
    (told : model.reasoningEfforts = some efforts) :
    (discoveredDescriptor model).reasoningEfforts = efforts ∧
      (discoveredDescriptor model).supportsReasoningEffort = !efforts.isEmpty := by
  unfold discoveredDescriptor
  rw [told]
  exact ⟨rfl, rfl⟩

theorem stated_kept (distinct : Distinct config discovered harnessModels)
    {descriptor : ModelDescriptor} (there : descriptor ∈ compose config discovered harnessModels)
    {model : DiscoveredModel} (known : model ∈ discovered) (named : model.key = descriptor.key)
    (undeclared : descriptor.key ∉ declaredKeys config) {efforts : List String}
    (told : model.reasoningEfforts = some efforts) :
    descriptor.reasoningEfforts = efforts ∧
      descriptor.supportsReasoningEffort = !efforts.isEmpty := by
  rw [declaredKeys_eq, List.mem_toFinset] at undeclared
  have entry := discovered_entry distinct there known named undeclared
  have learned : (discoveredDescriptor model).key ∈ effortsFromDiscovery discovered := by
    rw [discoveredDescriptor_key]
    unfold effortsFromDiscovery
    refine List.mem_toFinset.2 (List.mem_map_of_mem (List.mem_filter.2 ⟨known, ?_⟩))
    rw [told]
    rfl
  have kept := overlay_efforts (discoveredDescriptor model) config (effortsFromDiscovery discovered)
    harnessModels (Or.inr learned)
  rw [← entry, (discoveredDescriptor_efforts told).1, (discoveredDescriptor_efforts told).2] at kept
  exact ⟨kept.2, kept.1⟩

/-- The composed picker, whenever its sources name no model twice. -/
theorem compose_picks (config : Config) (discovered : List DiscoveredModel)
    (harnessModels : List ModelDescriptor) (distinct : Distinct config discovered harnessModels) :
    Picks config discovered harnessModels where
  once := by
    have names := (List.perm_insertionSort (Ordered config)
      (composed config discovered harnessModels)).map ModelDescriptor.key
    apply names.nodup_iff.2
    rw [keys_composed distinct.discovered]
    exact nodup_offeredNames distinct
  declared _ there _ _ known declared named := declared_kept distinct there known declared named
  stated _ there _ known named undeclared _ told :=
    stated_kept distinct there known named undeclared told
  marked _ only told :=
    ⟨default_offered distinct only, fun _ there => isDefault_iff distinct only told there⟩
  ordered provider := by
    rw [← keys_composed distinct.discovered, keys_of_provider, keys_of_provider]
    exact congrArg _ (filter_orderForPicker _ provider)
  ranked := List.pairwise_insertionSort (Ordered config) _

/-! ## A catalog that marks two routes -/

def sampleDescriptor (provider model : String) (isDefault : Bool) : ModelDescriptor :=
  { ModelDescriptor.conservative provider model with isDefault := isDefault }

/-- The provider `corp` offers its declared models alone. -/
def sampleConfig : Config where
  providers :=
    { entries :=
        [("corp", { modelListing := some false, excludeModelPrefixes := []
                    models := [⟨"large", some "Large", 200000, true⟩] })]
      nodup := by decide }

def sampleCatalog : List ModelDescriptor :=
  [sampleDescriptor "corp" "large" true, sampleDescriptor "cloud" "small" true]

theorem sample_distinct : Distinct sampleConfig [] sampleCatalog where
  declared := by decide
  discovered := by decide
  catalog := by decide

/-- The picker of the sample. -/
theorem compose_picks_sample : Picks sampleConfig [] sampleCatalog :=
  compose_picks sampleConfig [] sampleCatalog sample_distinct

theorem sample_only :
    OnlyDefault sampleConfig sampleCatalog (sampleDescriptor "cloud" "small" true) where
  there := by decide
  marked := rfl
  offered := by unfold Offered; decide
  only := by unfold Offered; decide

/-- One default may be offered, and two entries are marked. -/
theorem compose_marks_two :
    OnlyDefault sampleConfig sampleCatalog (sampleDescriptor "cloud" "small" true) ∧
      ¬ ∀ descriptor ∈ compose sampleConfig [] sampleCatalog,
        descriptor.isDefault = true ↔ descriptor.key = ("cloud", "small") :=
  ⟨sample_only, by decide⟩

end Giskard.Models
