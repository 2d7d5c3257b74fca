import Mathlib
import Giskard.Foundation.JsonReader
import Giskard.Foundation.Serde
import Giskard.Model.Admission
import Giskard.Model.ModelPicker

/-!
# A provider's model listing

The body of a `/models` response may have a list in the OpenAI shape, a harness catalog, or both.
Each list is read entry by entry. An entry of the first shape makes a model, a catalog entry refines
the model with its id or makes a new one, and the models are then ordered by the catalog's priority.

SOURCE: crates/giskard-server/src/models.rs.
-/

set_option autoImplicit false

namespace Giskard.Models

open Foundation

/-! ## Entries -/

/-- The fields of a struct, by name from an object or by position from an array. -/
def structFields (names : List String) : Json → Option (List (Option Json))
  | .obj members => some (names.map fun name => Json.lookup name members)
  | .arr elems =>
    if elems.length ≤ names.length then
      some (elems.map some ++ List.replicate (names.length - elems.length) none)
    else none
  | _ => none

/-- A field taken as raw JSON: null is as good as absent. -/
def rawField : Option Json → Option Json
  | some .null => none
  | value => value

/-- SOURCE: models.rs:332-337. -/
structure ModelsBody where
  models : Option Json
  data : Option Json
  deriving DecidableEq

/-- A known field may be there once. -/
def ModelsBody.fromValue (value : Json) : Option ModelsBody :=
  let once (name : String) : Bool :=
    match value with
    | .obj members => members.countP (fun member => member.1 = name) ≤ 1
    | _ => true
  if once "models" && once "data" then
    match structFields ["models", "data"] value with
    | some [models, data] => some ⟨rawField models, rawField data⟩
    | _ => none
  else none

/-- SOURCE: models.rs:365-370. -/
def boundedCapacity (window input : Option ℕ) : Option ℕ :=
  match window, input with
  | some window, some input => some (min window input)
  | window, input => window.or input

/-- SOURCE: models.rs:372-381. -/
structure OpenAiModel where
  id : String
  maxContextWindow : Option Json
  contextWindow : Option Json
  maxInputTokens : Option Json

def OpenAiModel.fromValue (value : Json) : Option OpenAiModel :=
  match structFields ["id", "max_context_window", "context_window", "max_input_tokens"] value with
  | some [id, maxContextWindow, contextWindow, maxInputTokens] =>
    (id.bind Json.asString).map fun id =>
      ⟨id, rawField maxContextWindow, rawField contextWindow, rawField maxInputTokens⟩
  | _ => none

/-- SOURCE: models.rs:395-427. -/
structure HarnessCatalogModel where
  slug : String
  displayName : Option Json
  contextWindow : Option Json
  maxContextWindow : Option Json
  maxInputTokens : Option Json
  supportedReasoningLevels : Option Json
  defaultReasoningLevel : Option Json
  visibility : Option Json
  priority : Option Json

def HarnessCatalogModel.fromValue (value : Json) : Option HarnessCatalogModel :=
  match structFields ["slug", "display_name", "context_window", "max_context_window",
    "max_input_tokens", "supported_reasoning_levels", "default_reasoning_level", "visibility",
    "priority"] value with
  | some [slug, displayName, contextWindow, maxContextWindow, maxInputTokens,
      supportedReasoningLevels, defaultReasoningLevel, visibility, priority] =>
    (slug.bind Json.asString).map fun slug =>
      ⟨slug, rawField displayName, rawField contextWindow, rawField maxContextWindow,
        rawField maxInputTokens, rawField supportedReasoningLevels,
        rawField defaultReasoningLevel, rawField visibility, rawField priority⟩
  | _ => none

/-- SOURCE: models.rs:429-432. -/
def harnessCatalogEffort (value : Json) : Option String :=
  match structFields ["effort"] value with
  | some [effort] => effort.bind Json.asString
  | _ => none

/-- A capacity that is stated has to be a positive number below 2^32. SOURCE: models.rs:509-519. -/
def parseDiscoveredCapacity : Option Json → Except Unit (Option ℕ)
  | none => .ok none
  | some value =>
    match value.asUInt64 with
    | none => .error ()
    | some capacity =>
      if 2 ^ 32 ≤ capacity.toNat ∨ capacity = 0 then .error () else .ok (some capacity.toNat)

/-- A usable capacity, if one is stated. SOURCE: `Result::ok` and `Option::flatten`. -/
def usableCapacity (value : Option Json) : Option ℕ :=
  ((parseDiscoveredCapacity value).toOption).join

def badCapacity (value : Option Json) : Bool := !(parseDiscoveredCapacity value).isOk

namespace HarnessCatalogModel

variable (model : HarnessCatalogModel)

/-- SOURCE: models.rs:435-440. -/
def listed : Bool :=
  match model.visibility.bind Json.asString with
  | some visibility => visibility ≠ "hide" && visibility ≠ "none"
  | none => true

/-- SOURCE: models.rs:442-444. -/
def priorityKey : Option ℤ := (model.priority.bind Json.asInt64).map Int64.toInt

/-- The claimed window, and whether a field in its way cannot be used. SOURCE: models.rs:446-459. -/
def window : Option ℕ × Bool :=
  match parseDiscoveredCapacity model.contextWindow with
  | .ok (some window) => (some window, false)
  | _ =>
    (usableCapacity model.maxContextWindow,
      badCapacity model.contextWindow || badCapacity model.maxContextWindow)

/-- SOURCE: models.rs:461-468. -/
def name : Option String :=
  ((model.displayName.bind Json.asString).map fun name => trimText name.toList).bind fun name =>
    if name.isEmpty then none else some (String.ofList name)

/-- SOURCE: models.rs:470-506. -/
def reasoningEfforts : Option (List String) :=
  let default := (model.defaultReasoningLevel.bind Json.asString).filter fun effort =>
    effort ≠ "" && effort ≠ "none"
  let stated :=
    match model.supportedReasoningLevels with
    | some (.arr levels) => some levels
    | _ => none
  if stated.isNone && default.isNone then none
  else
    let efforts := (stated.getD []).filterMap harnessCatalogEffort
    some (if efforts.isEmpty then default.toList else efforts)

end HarnessCatalogModel

/-! ## The merge -/

/-- A model with the key that orders it. SOURCE: models.rs:527-540. -/
structure RankedModel extends DiscoveredModel where
  priority : Option ℤ

/-- SOURCE: `DiscoveredModel::default` with a provider and an id. -/
def RankedModel.named (provider model : String) : RankedModel where
  provider := provider
  model := model
  contextWindow := none
  advertisedContextWindow := none
  displayName := none
  reasoningEfforts := none
  priority := none

/-- The three tables of the merge; a model has a flag for unusable capacity fields.
SOURCE: models.rs:696-698. -/
structure Merge where
  out : IndexMap String (RankedModel × Bool)
  inputLimits : IndexMap String ℕ
  explicitMaxima : IndexMap String ℕ

def Merge.start : Merge := ⟨.empty, .empty, .empty⟩

/-- The model of a data entry. SOURCE: models.rs:713-722, 740-755. -/
def OpenAiModel.discovered (provider : String) (model : OpenAiModel) : RankedModel × Bool :=
  let input := usableCapacity model.maxInputTokens
  ({ RankedModel.named provider model.id with
      advertisedContextWindow :=
        boundedCapacity
          ((usableCapacity model.maxContextWindow).or (usableCapacity model.contextWindow)) input
      contextWindow := (usableCapacity model.contextWindow).or input },
    badCapacity model.contextWindow || badCapacity model.maxInputTokens ||
      badCapacity model.maxContextWindow)

/-- A model as a catalog entry refines it, with the advertised window that was worked out.
SOURCE: models.rs:812-829. -/
def HarnessCatalogModel.refine (model : HarnessCatalogModel) (advertised : Option ℕ)
    (entry : RankedModel) : RankedModel :=
  { entry with
    advertisedContextWindow := advertised.or entry.advertisedContextWindow
    contextWindow := model.window.1.or entry.contextWindow
    displayName := model.name.or entry.displayName
    reasoningEfforts := model.reasoningEfforts.or entry.reasoningEfforts
    priority := model.priorityKey.or entry.priority }

/-- `i64::MAX` -/
def lastPriority : ℤ := 2 ^ 63 - 1

def RankedModel.rank (model : RankedModel) : ℤ := model.priority.getD lastPriority

end Giskard.Models
