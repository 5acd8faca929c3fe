import LiveCompile.Json.Record

/-! The normal form of a world: collections keyed by id become arrays of records that
carry their `id`, and the exits of a location keyed by direction become arrays of
`direction` and `target` records. What is an array already stays as it is. -/

namespace LiveCompile.World

/-- The collections of a world that may be keyed by id. -/
def keyedCollections : List String := ["entities", "locations", "exits"]

/-- A record of a keyed collection: the key as `id`, then its fields. -/
def recordOfMember (id : String) : Json → Json
  | .object fields =>
    .object (("id", .string id) :: fields.filter fun (name, _) => name != "id")
  | .null => .object [("id", .string id)]
  | value => .object [("id", .string id), ("value", value)]

/-- The members of an object as an array of records. What is no object is left alone. -/
def memberRecords (record : String → Json → Json) : Json → Json
  | .object entries => .array (entries.map fun (key, value) => record key value)
  | collection => collection

def keyedToRecords : Json → Json := memberRecords recordOfMember

/-- The target of an exit and its other fields. The target is called `target`, or else
`to`; taking a field out moves the last one into its place. -/
def exitTarget (fields : Fields Json) : Option Json × Fields Json :=
  let (target, fields) := match fields.get? "target" with
    | some target => (some target, fields.swapRemove "target")
    | none => (fields.get? "to", fields.swapRemove "to")
  (target, (fields.swapRemove "to").swapRemove "direction")

/-- A record of exits keyed by direction: `direction`, `target`, then the other fields. -/
def recordOfExit (direction : String) : Json → Json
  | .object fields =>
    let (target, others) := exitTarget fields
    .object (("direction", .string direction) ::
      Json.optionalMember "target" id target ++ others)
  | value => .object [("direction", .string direction), ("target", value)]

def exitsToPairs : Json → Json := memberRecords recordOfExit

/-- Changes the value of a member, if it is there. -/
def updateMember (name : String) (change : Json → Json) (fields : Fields Json) : Fields Json :=
  fields.map fun (other, value) => (other, if other = name then change value else value)

def normalLocation : Json → Json
  | .object fields => .object (updateMember "exits" exitsToPairs fields)
  | location => location

def normalLocations : Json → Json
  | .array locations => .array (locations.map normalLocation)
  | locations => locations

/-- The normal form of a world payload. What is no object is left alone. -/
def normalized : Json → Json
  | .object fields =>
    let fields := keyedCollections.foldl
      (fun fields name => updateMember name keyedToRecords fields) fields
    .object (updateMember "locations" normalLocations fields)
  | value => value

end LiveCompile.World
