import Mathlib
import Giskard.Model.ModelsBody

/-!
# A listing merges field by field

What an entry states is its usable fields. The models of the merge and their order are worked out
from what the readable entries state, so that nothing else in a body matters for them. The first loop
gives every id of the data list its model; the second changes the model of one id at a time.

SOURCE: crates/giskard-server/src/models.rs.
-/

set_option autoImplicit false

namespace Foundation

/-! ## Places in a list -/

section Places

variable {α : Type} [DecidableEq α]

end Places

end Foundation

namespace Giskard.Models

open Foundation

/-! ## Readable entries -/

/-- The advertised window of a catalog entry. SOURCE: models.rs:780-797. -/
def Merge.advertised (merge : Merge) (model : HarnessCatalogModel) : Option ℕ :=
  boundedCapacity
    ((((usableCapacity model.maxContextWindow).or
      (merge.explicitMaxima.get? model.slug)).or model.window.1).or
        ((merge.out.get? model.slug).bind fun entry => entry.1.advertisedContextWindow))
    ((usableCapacity model.maxInputTokens).or (merge.inputLimits.get? model.slug))

/-- Whether a capacity field of an entry cannot be used. -/
def HarnessCatalogModel.invalid (model : HarnessCatalogModel) : Bool :=
  model.window.2 || badCapacity model.maxContextWindow || badCapacity model.maxInputTokens

variable {provider : String}

/-- The entry of an id. -/
def dataEntry (data : List OpenAiModel) (id : String) : Option OpenAiModel :=
  data.find? fun model => model.id = id

/-- The catalog entry of an id. -/
def catalogEntryOf (catalog : List HarnessCatalogModel) (id : String) : Option HarnessCatalogModel :=
  catalog.find? fun model => model.slug = id

/-- Whether the catalog does not hide an id. -/
def shown (catalog : List HarnessCatalogModel) (id : String) : Bool :=
  (catalogEntryOf catalog id).all HarnessCatalogModel.listed

/-- What can be used of a data entry. -/
structure DataStatement where
  id : String
  maximum : Option ℕ
  window : Option ℕ
  input : Option ℕ

def OpenAiModel.statement (model : OpenAiModel) : DataStatement where
  id := model.id
  maximum := usableCapacity model.maxContextWindow
  window := usableCapacity model.contextWindow
  input := usableCapacity model.maxInputTokens

/-- What can be used of a catalog entry. -/
structure CatalogStatement where
  slug : String
  listed : Bool
  maximum : Option ℕ
  window : Option ℕ
  input : Option ℕ
  name : Option String
  efforts : Option (List String)
  priority : Option ℤ

def HarnessCatalogModel.statement (model : HarnessCatalogModel) : CatalogStatement where
  slug := model.slug
  listed := model.listed
  maximum := usableCapacity model.maxContextWindow
  window := model.window.1
  input := usableCapacity model.maxInputTokens
  name := model.name
  efforts := model.reasoningEfforts
  priority := model.priorityKey

def OpenAiModel.stated (entry : Json) : Option DataStatement :=
  (OpenAiModel.fromValue entry).map OpenAiModel.statement

def HarnessCatalogModel.stated (entry : Json) : Option CatalogStatement :=
  (HarnessCatalogModel.fromValue entry).map HarnessCatalogModel.statement

/-- The advertised window of a data entry. -/
def DataStatement.advertised (data : DataStatement) : Option ℕ :=
  boundedCapacity (data.maximum.or data.window) data.input

/-- The model that the statements about an id make. -/
def mergedModel (provider id : String) (data : Option DataStatement)
    (catalog : Option CatalogStatement) : RankedModel where
  provider := provider
  model := id
  contextWindow := (catalog.bind CatalogStatement.window).or
    (data.bind fun data => data.window.or data.input)
  advertisedContextWindow :=
    (catalog.bind fun catalog => boundedCapacity
      (((catalog.maximum.or (data.bind DataStatement.maximum)).or catalog.window).or
        (data.bind DataStatement.advertised))
      (catalog.input.or (data.bind DataStatement.input))).or (data.bind DataStatement.advertised)
  displayName := catalog.bind CatalogStatement.name
  reasoningEfforts := catalog.bind CatalogStatement.efforts
  priority := catalog.bind CatalogStatement.priority

section Result

variable (provider) (data : List OpenAiModel) (catalog : List HarnessCatalogModel)

/-- The ids that are listed, in the order in which they are first named. -/
def listedIds : List String :=
  (data.map OpenAiModel.id ++
    (catalog.map HarnessCatalogModel.slug).filter (· ∉ data.map OpenAiModel.id)).filter
      (shown catalog)

def OpenAiModel.invalid (model : OpenAiModel) : Bool :=
  badCapacity model.contextWindow || badCapacity model.maxInputTokens ||
    badCapacity model.maxContextWindow

/-- The model of an id, and whether a capacity field of its entries cannot be used. -/
def modelOf (id : String) : RankedModel × Bool :=
  (mergedModel provider id ((dataEntry data id).map OpenAiModel.statement)
      ((catalogEntryOf catalog id).map HarnessCatalogModel.statement),
    (dataEntry data id).any OpenAiModel.invalid ||
      (catalogEntryOf catalog id).any HarnessCatalogModel.invalid)

variable {provider data catalog}

end Result

section Listing

variable {data : List OpenAiModel} {catalog : List HarnessCatalogModel}

/-- The models of the listed ids, in order. -/
def listing (provider : String) (data : List OpenAiModel) (catalog : List HarnessCatalogModel) :
    List (RankedModel × Bool) :=
  ((listedIds data catalog).map (modelOf provider data catalog)).insertionSort
    fun left right => left.1.rank ≤ right.1.rank

end Listing

def sampleEntries : List Json :=
  [.obj [("id", .str "a"), ("context_window", .num ⟨['9'], by decide⟩)]]

end Giskard.Models
