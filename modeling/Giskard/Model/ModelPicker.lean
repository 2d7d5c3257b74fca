import Mathlib
import Giskard.Foundation.IndexMap

/-!
# The composed model picker

The models offered by the picker come from three sources: the models that the config declares,
those that the providers' own listings name, and the harness's catalog. The list is merged from
the first two, overlaid with the third and extended by it, and ordered by provider at the end.

SOURCE: crates/giskard-server/src/models.rs, crates/giskard-persist/src/config.rs,
crates/giskard-core/src/model.rs.
-/

set_option autoImplicit false

namespace Giskard.Models

open Foundation (IndexMap)

/-- SOURCE: config.rs:563-570. -/
structure ModelConfig where
  id : String
  displayName : Option String
  contextWindow : ℕ
  supportsReasoningEffort : Bool
  deriving DecidableEq

/-- SOURCE: config.rs:539-559. -/
structure ProviderConfig where
  modelListing : Option Bool
  excludeModelPrefixes : List String
  models : List ModelConfig

/-- The part of the config that the picker reads. -/
structure Config where
  providers : IndexMap String ProviderConfig

/-- SOURCE: model.rs:43-65. -/
structure ModelDescriptor where
  provider : String
  model : String
  contextWindow : ℕ
  advertisedContextWindow : Option ℕ
  supportsReasoningEffort : Bool
  reasoningEfforts : List String
  displayName : Option String
  isDefault : Bool
  deriving DecidableEq

/-- What names a picker entry. -/
abbrev Key := String × String

def ModelDescriptor.key (descriptor : ModelDescriptor) : Key :=
  (descriptor.provider, descriptor.model)

/-- SOURCE: model.rs:110. -/
def conservativeContextWindow : ℕ := 128000

/-- SOURCE: model.rs:114-125. -/
def ModelDescriptor.conservative (provider model : String) : ModelDescriptor where
  provider := provider
  model := model
  contextWindow := conservativeContextWindow
  advertisedContextWindow := none
  supportsReasoningEffort := false
  reasoningEfforts := []
  displayName := none
  isDefault := false

/-- A model of a provider's listing. SOURCE: models.rs:521-540. -/
structure DiscoveredModel where
  provider : String
  model : String
  contextWindow : Option ℕ
  advertisedContextWindow : Option ℕ
  displayName : Option String
  reasoningEfforts : Option (List String)

def DiscoveredModel.key (discovered : DiscoveredModel) : Key :=
  (discovered.provider, discovered.model)

/-! ## The declared models -/

/-- A declared model. SOURCE: models.rs:174-183. -/
def declaredDescriptor (provider : String) (model : ModelConfig) : ModelDescriptor where
  provider := provider
  model := model.id
  contextWindow := model.contextWindow
  advertisedContextWindow := none
  supportsReasoningEffort := model.supportsReasoningEffort
  reasoningEfforts := []
  displayName := model.displayName
  isDefault := false

/-- SOURCE: models.rs:170-187. -/
def listDescriptors (config : Config) : List ModelDescriptor :=
  config.providers.entries.flatMap fun entry => entry.2.models.map (declaredDescriptor entry.1)

/-! ## The discovered models -/

/-- The first entry of a name gets the advertised capacity. -/
def advertise (key : Key) (maximum : ℕ) : List ModelDescriptor → List ModelDescriptor
  | [] => []
  | descriptor :: rest =>
    if descriptor.key = key then
      { descriptor with advertisedContextWindow := some maximum } :: rest
    else descriptor :: advertise key maximum rest

/-- The entry of a model that nothing else names. SOURCE: models.rs:564-581. -/
def discoveredDescriptor (discovered : DiscoveredModel) : ModelDescriptor :=
  let descriptor := ModelDescriptor.conservative discovered.provider discovered.model
  let descriptor :=
    match discovered.contextWindow.filter fun window => window > 0 with
    | some contextWindow => { descriptor with contextWindow := contextWindow }
    | none => descriptor
  let descriptor :=
    { descriptor with
      advertisedContextWindow := discovered.advertisedContextWindow
      displayName := discovered.displayName }
  match discovered.reasoningEfforts with
  | some efforts =>
    { descriptor with supportsReasoningEffort := !efforts.isEmpty, reasoningEfforts := efforts }
  | none => descriptor

/-- An entry of the discovered model's name learns its capacity. SOURCE: models.rs:555-562. -/
def learnCapacity (base : List ModelDescriptor) (discovered : DiscoveredModel) :
    List ModelDescriptor :=
  match discovered.advertisedContextWindow.filter fun maximum => maximum > 0 with
  | some maximum => advertise discovered.key maximum base
  | none => base

/-- One discovered model: a new name is appended. SOURCE: models.rs:554-583. -/
def mergeModel (merged : Finset Key × List ModelDescriptor) (discovered : DiscoveredModel) :
    Finset Key × List ModelDescriptor :=
  let (seen, base) := merged
  let base := learnCapacity base discovered
  if discovered.key ∈ seen then (seen, base)
  else (insert discovered.key seen, base ++ [discoveredDescriptor discovered])

/-- SOURCE: models.rs:545-585. -/
def mergeModels (base : List ModelDescriptor) (dynamic : List DiscoveredModel) :
    List ModelDescriptor :=
  (dynamic.foldl mergeModel ((base.map ModelDescriptor.key).toFinset, base)).2

/-- The names whose efforts discovery stated. SOURCE: models.rs:989-993. -/
def effortsFromDiscovery (dynamic : List DiscoveredModel) : Finset Key :=
  ((dynamic.filter fun discovered => discovered.reasoningEfforts.isSome).map
    DiscoveredModel.key).toFinset

/-! ## The harness catalog -/

/-- The catalog's entry for a model id: the last one. SOURCE: models.rs:242-245. -/
def catalogEntry (harnessModels : List ModelDescriptor) (model : String) :
    Option ModelDescriptor :=
  (IndexMap.collect ModelDescriptor.model harnessModels).get? model

/-- The names that the config declares. SOURCE: models.rs:246-250. -/
def declaredKeys (config : Config) : Finset Key :=
  ((config.providers.entries.flatMap fun entry =>
    entry.2.models.map fun model => (entry.1, model.id))).toFinset

/-- SOURCE: models.rs:255-257. -/
def fillName (entry descriptor : ModelDescriptor) : ModelDescriptor :=
  if descriptor.displayName = none then { descriptor with displayName := entry.displayName }
  else descriptor

/-- SOURCE: models.rs:263-265. -/
def markDefault (entry descriptor : ModelDescriptor) : ModelDescriptor :=
  if entry.provider = "" ∨ entry.provider = descriptor.provider then
    { descriptor with isDefault := entry.isDefault }
  else descriptor

/-- SOURCE: models.rs:271-276. -/
def fillEfforts (config : Config) (effortsFromDiscovery : Finset Key)
    (entry descriptor : ModelDescriptor) : ModelDescriptor :=
  if descriptor.key ∉ declaredKeys config ∧ descriptor.key ∉ effortsFromDiscovery then
    { descriptor with
      supportsReasoningEffort := entry.supportsReasoningEffort
      reasoningEfforts := entry.reasoningEfforts }
  else descriptor

/-- One entry under the catalog's metadata. SOURCE: models.rs:251-277. -/
def overlay (harnessModels : List ModelDescriptor) (config : Config)
    (effortsFromDiscovery : Finset Key) (descriptor : ModelDescriptor) : ModelDescriptor :=
  match catalogEntry harnessModels descriptor.model with
  | none => descriptor
  | some entry =>
    fillEfforts config effortsFromDiscovery entry (markDefault entry (fillName entry descriptor))

/-- A provider told to offer its declared models alone. SOURCE: models.rs:300-306. -/
def delisted (config : Config) (provider : String) : Bool :=
  (config.providers.get? provider).bind ProviderConfig.modelListing = some false

/-- A model id that its provider's config excludes. SOURCE: models.rs:310-319. -/
def excluded (config : Config) (provider model : String) : Bool :=
  match config.providers.get? provider with
  | none => false
  | some declared =>
    declared.excludeModelPrefixes.any fun start => start.toList.isPrefixOf model.toList

/-- The catalog's entries that are appended. SOURCE: models.rs:293-309. -/
def fromCatalog (base harnessModels : List ModelDescriptor) (config : Config) :
    List ModelDescriptor :=
  harnessModels.filter fun entry =>
    entry.provider ≠ "" ∧ delisted config entry.provider = false ∧
      entry.key ∉ base.map ModelDescriptor.key

/-- SOURCE: models.rs:236-321. -/
def applyHarnessMetadata (base harnessModels : List ModelDescriptor) (config : Config)
    (effortsFromDiscovery : Finset Key) : List ModelDescriptor :=
  let base := base.map (overlay harnessModels config effortsFromDiscovery)
  (base ++ fromCatalog base harnessModels config).filter fun descriptor =>
    !excluded config descriptor.provider descriptor.model

/-! ## The order -/

/-- The place of a provider in the config; the providers it does not declare share the place after
them all. SOURCE: models.rs:201-206. -/
def rank (config : Config) (provider : String) : ℕ := config.providers.keys.idxOf provider

/-- SOURCE: models.rs:207-213. -/
def Ordered (config : Config) (first second : ModelDescriptor) : Prop :=
  rank config first.provider < rank config second.provider ∨
    rank config first.provider = rank config second.provider ∧ first.provider ≤ second.provider

instance (config : Config) : DecidableRel (Ordered config) := fun _ _ =>
  inferInstanceAs (Decidable (_ ∨ _))

/-- A stable sort. SOURCE: models.rs:200-215. -/
def orderForPicker (models : List ModelDescriptor) (config : Config) : List ModelDescriptor :=
  models.insertionSort (Ordered config)

/-- The picker's list. SOURCE: routes.rs:4310-4329. -/
def compose (config : Config) (discovered : List DiscoveredModel)
    (harnessModels : List ModelDescriptor) : List ModelDescriptor :=
  orderForPicker
    (applyHarnessMetadata (mergeModels (listDescriptors config) discovered) harnessModels config
      (effortsFromDiscovery discovered)) config

end Giskard.Models
