import LiveCompile.Chunk.World.Normal

/-! The compiled world: entities, locations with their exits, free-standing exits,
properties and rules. A world payload is brought into normal form before it is typed, and
is kept beside the typed world. -/

namespace LiveCompile

structure Entity where
  id : String
  name : Option String
  location : Option String
  extra : Fields Json
  deriving Inhabited, Repr

/-- An exit that leaves a location in a direction. -/
structure LocationExit where
  direction : String
  target : String
  extra : Fields Json
  deriving Inhabited, Repr

structure Location where
  id : String
  name : Option String
  description : Option String
  exits : List LocationExit
  extra : Fields Json
  deriving Inhabited, Repr

/-- An exit that stands on its own. -/
structure Exit where
  id : String
  origin : Option String
  destination : Option String
  extra : Fields Json
  deriving Inhabited, Repr

structure World where
  entities : List Entity
  locations : List Location
  exits : List Exit
  properties : List Json
  rules : List Json
  start : Option String
  extra : Fields Json
  deriving Inhabited, Repr

/-- A world together with the payload it was read from. -/
structure ResolvedWorld where
  world : World
  payload : Json
  deriving Inhabited, Repr

def optionalText? : Document → Option (Option String) := Document.nullable? Document.string?

namespace Entity

def ofDocument? (document : Document) : Option Entity := do
  let fields ← document.members?
  return {
    id := ← Document.fieldOr? fields "id" "" Document.string?
    name := ← Document.fieldOr? fields "name" none optionalText?
    location := ← Document.fieldOr? fields "location" none optionalText?
    extra := ← Document.others? fields ["id", "name", "location"] }

def toJson (entity : Entity) : Json := .object
  ([("id", .string entity.id)] ++ Json.optionalMember "name" .string entity.name
    ++ Json.optionalMember "location" .string entity.location ++ entity.extra)

end Entity

namespace LocationExit

def ofDocument? (document : Document) : Option LocationExit := do
  let fields ← document.members?
  return {
    direction := ← Document.fieldOr? fields "direction" "" Document.string?
    target := ← Document.fieldOr? fields "target" "" Document.string?
    extra := ← Document.others? fields ["direction", "target"] }

def toJson (exit : LocationExit) : Json := .object
  ([("direction", .string exit.direction), ("target", .string exit.target)] ++ exit.extra)

end LocationExit

namespace Location

def ofDocument? (document : Document) : Option Location := do
  let fields ← document.members?
  return {
    id := ← Document.fieldOr? fields "id" "" Document.string?
    name := ← Document.fieldOr? fields "name" none optionalText?
    description := ← Document.fieldOr? fields "description" none optionalText?
    exits := ← Document.fieldOr? fields "exits" [] (Document.list? LocationExit.ofDocument?)
    extra := ← Document.others? fields ["id", "name", "description", "exits"] }

def toJson (location : Location) : Json := .object
  ([("id", .string location.id)] ++ Json.optionalMember "name" .string location.name
    ++ Json.optionalMember "description" .string location.description
    ++ [("exits", .array (location.exits.map LocationExit.toJson))] ++ location.extra)

end Location

namespace Exit

def ofDocument? (document : Document) : Option Exit := do
  let fields ← document.members?
  return {
    id := ← Document.fieldOr? fields "id" "" Document.string?
    origin := ← Document.fieldOr? fields "from" none optionalText?
    destination := ← Document.fieldOr? fields "to" none optionalText?
    extra := ← Document.others? fields ["id", "from", "to"] }

def toJson (exit : Exit) : Json := .object
  ([("id", .string exit.id)] ++ Json.optionalMember "from" .string exit.origin
    ++ Json.optionalMember "to" .string exit.destination ++ exit.extra)

end Exit

namespace World

def empty : World := ⟨[], [], [], [], [], none, []⟩

def fieldNames : List String :=
  ["entities", "locations", "exits", "properties", "rules", "start"]

def ofDocument? (document : Document) : Option World := do
  let fields ← document.members?
  return {
    entities := ← Document.fieldOr? fields "entities" [] (Document.list? Entity.ofDocument?)
    locations := ← Document.fieldOr? fields "locations" [] (Document.list? Location.ofDocument?)
    exits := ← Document.fieldOr? fields "exits" [] (Document.list? Exit.ofDocument?)
    properties := ← Document.fieldOr? fields "properties" [] (Document.list? Document.json?)
    rules := ← Document.fieldOr? fields "rules" [] (Document.list? Document.json?)
    start := ← Document.fieldOr? fields "start" none optionalText?
    extra := ← Document.others? fields fieldNames }

def toJson (world : World) : Json := .object
  ([("entities", .array (world.entities.map Entity.toJson)),
    ("locations", .array (world.locations.map Location.toJson)),
    ("exits", .array (world.exits.map Exit.toJson)),
    ("properties", .array world.properties),
    ("rules", .array world.rules)]
    ++ Json.optionalMember "start" .string world.start ++ world.extra)

/-- The first location of an id. -/
def location? (world : World) (id : String) : Option Location :=
  world.locations.find? (·.id == id)

/-- The first entity of an id. -/
def entity? (world : World) (id : String) : Option Entity :=
  world.entities.find? (·.id == id)

/-- Exits that stand on their own and exits of locations. -/
def exitCount (world : World) : Nat :=
  world.exits.length + world.locations.foldl (fun count location => count + location.exits.length) 0

/-- Whether there is no entity, location or free-standing exit. -/
def isEmpty (world : World) : Bool :=
  world.entities.isEmpty && world.locations.isEmpty && world.exits.isEmpty

end World

namespace ResolvedWorld

def empty : ResolvedWorld := ⟨World.empty, .object []⟩

/-- The world of a payload. -/
def ofPayload? (payload : Json) : Option ResolvedWorld := do
  return ⟨← World.ofDocument? (Document.ofJson (World.normalized payload)), payload⟩

def ofDocument? (document : Document) : Option ResolvedWorld := do
  ofPayload? (← document.json?)

end ResolvedWorld

end LiveCompile
