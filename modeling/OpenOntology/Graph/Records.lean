import OpenOntology.Resolution.Timestamps

/-!
# Records of the graph driver

What Bolt delivers, and how the mappers narrow it: property maps whose keys and types differ
from one loader to the next become the nodes of the domain model, without the properties
that no projection reads.
-/
namespace OpenOntology.Graph

open Resolution (parseInt64)

/-- A value of a record; a temporal, spatial or relationship value counts as `other`. -/
inductive Value where
  | null
  | bool (value : Bool)
  | int (value : Int)
  | float (value : Float)
  | string (value : String)
  | list (items : List Value)
  | map (fields : List (String × Value))
  | node (elementID : String) (labels : List String) (props : List (String × Value))
  | other

/-- A property map, a map value or a record: its names are distinct. -/
abbrev Fields := List (String × Value)

structure Node where
  elementID : String
  labels : List String
  props : Fields

/-- Go's conversions of a `float64`: `FormatFloat(v, 'f', -1, 64)` and `int(v)`. -/
structure GoFloats where
  format : Float → String
  truncate : Float → Int

def asNode : Value → Option Node
  | .node elementID labels props => some ⟨elementID, labels, props⟩
  | _ => none

section
variable (floats : GoFloats)

/-- What one property yields as a string. -/
def stringOf : Value → Option String
  | .string value =>
    let trimmed := trimSpace value
    if trimmed = "" then none else some trimmed
  | .int value => some (toString value)
  | .float value => some (floats.format value)
  | .bool value => some (if value then "true" else "false")
  | _ => none

/-- The first non-empty value among the keys. -/
def stringProp (props : Fields) (keys : List String) : Option String :=
  keys.findSome? fun key => (props.lookup key).bind (stringOf floats)

/-- `stringProp` where the second result is dropped. -/
def stringPropOrEmpty (props : Fields) (keys : List String) : String :=
  (stringProp floats props keys).getD ""

/-- `intValue`, with `strconv.Atoi` of the trimmed text. -/
def intValue : Value → Option Int
  | .int value => some value
  | .float value => some (floats.truncate value)
  | .string value => parseInt64 (trimSpace value)
  | _ => none

end

/-! ## Property keys -/

def assetIDKeys := ["id", "asset_id", "assetId"]
def assetNameKeys := ["name", "display_name"]
def assetModelKeys := ["model_number", "modelNumber"]
def assetStatusKeys := ["current_status", "status"]
def assetClassKeys := ["asset_class", "assetClass", "class"]
def assetSiteKeys := ["site", "site_id", "siteId", "location"]
def assetCriticalityKeys := ["criticality", "criticality_level", "criticalityLevel"]
def assetWindowKeys := ["maintenance_window", "maintenanceWindow"]
def systemIDKeys := ["id", "node_id", "nodeId"]
def systemNameKeys := ["name", "display_name"]
def systemTypeKeys := ["type", "system_type", "systemType"]
def componentIDKeys := ["id", "component_id", "componentId"]
def componentNameKeys := ["name", "display_name"]
def operatorIDKeys := ["technician_id", "technicianId", "id"]
def operatorNameKeys := ["name", "display_name"]
def operatorCertKeys := ["certification_level", "certificationLevel"]
def operatorRoleKeys := ["role", "job_role", "jobRole"]
def operatorShiftLabelKeys := ["shift", "shift_code", "shiftCode"]
def operatorContactKeys := ["contact", "phone", "email"]

/-! ## Nodes of the domain model -/

structure AssetNode where
  assetID : String
  name : String
  modelNumber : String
  currentStatus : String
  elementID : String
  deriving DecidableEq

structure OperatorNode where
  technicianID : String
  name : String
  certificationLevel : String
  elementID : String
  deriving DecidableEq

structure SystemNode where
  nodeID : String
  name : String
  type : String
  depth : Int
  elementID : String
  deriving DecidableEq

structure ComponentNode where
  componentID : String
  name : String
  elementID : String
  deriving DecidableEq

section
variable (floats : GoFloats)

/-- Nothing for a node without an identifier. -/
def mapAssetNode (node : Node) : Option AssetNode :=
  (stringProp floats node.props assetIDKeys).map fun id =>
    { assetID := id
      name := stringPropOrEmpty floats node.props assetNameKeys
      modelNumber := stringPropOrEmpty floats node.props assetModelKeys
      currentStatus := (stringProp floats node.props assetStatusKeys).getD "UNKNOWN"
      elementID := node.elementID }

def mapOperatorNode (node : Node) : Option OperatorNode :=
  (stringProp floats node.props operatorIDKeys).map fun id =>
    { technicianID := id
      name := stringPropOrEmpty floats node.props operatorNameKeys
      certificationLevel := stringPropOrEmpty floats node.props operatorCertKeys
      elementID := node.elementID }

end

/-- The most informative label of a node. -/
def specificLabel (labels : List String) (generic : String) : String :=
  ((labels.find? (· != generic)).or labels.head?).getD ""

/-- A collected column, empty where the record holds anything else. -/
def collectedList (record : Fields) (column : String) : List Value :=
  match record.lookup column with
  | some (.list items) => items
  | _ => []

/-- The field of a collected entry; nothing where the entry is not a map. -/
def entryField (entry : Value) (key : String) : Option Value :=
  match entry with
  | .map fields => some ((fields.lookup key).getD .null)
  | _ => none

end OpenOntology.Graph
