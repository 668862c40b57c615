import SecureSockets.Config.Basic
import SecureSockets.Json

namespace SecureSockets

/-!
The JSON form of a configuration.  It is written as an object with all six settings.
It is read from such an object, with further keys ignored and absent algorithms left
out or null, or from an array of the six settings in order; a strategy is its name or
an object that has the name as its one key.
-/

/-- Why a JSON value is no configuration.  The texts of these faults go to whoever wrote
the value, so each constructor keeps what its text has to name. -/
inductive JsonFault where
  | invalidType (found : Json) (expected : String)
  | notOneKey
  | unknownStrategy (name : String)
  | missingField (name : String)
  | tooShort (length : Nat)
  | tooLong (length : Nat)

namespace JsonFault

def message : JsonFault → String
  | invalidType found expected =>
    "invalid type: " ++ found.describe ++ ", expected " ++ expected
  | notOneKey => "invalid value: map, expected map with a single key"
  | unknownStrategy name => "unknown variant `" ++ name ++ "`, expected `Locked` or `LockFree`"
  | missingField name => "missing field `" ++ name ++ "`"
  | tooShort length =>
    "invalid length " ++ toString length ++ ", expected struct SecurityConfig with 6 elements"
  | tooLong length =>
    "invalid length " ++ toString length ++ ", expected fewer elements in array"

end JsonFault

namespace InitStrategy

def ofName? (name : String) : Option InitStrategy :=
  if name = locked.name then some locked
  else if name = lockFree.name then some lockFree
  else none

def ofNameOrFault (name : String) : Except JsonFault InitStrategy :=
  match ofName? name with
  | some strategy => .ok strategy
  | none => .error (.unknownStrategy name)

/-- A strategy is its name, or an object with the name as its only key.  What stands
behind the key has to be null, since a strategy has nothing to carry. -/
def ofJson : Json → Except JsonFault InitStrategy
  | .string name => ofNameOrFault name
  | .object [(name, content)] => do
    let strategy ← ofNameOrFault name
    match content with
    | .null => pure strategy
    | content => .error (.invalidType content "unit")
  | .object _ => .error .notOneKey
  | value => .error (.invalidType value "string or map")

def toJson (strategy : InitStrategy) : Json :=
  .string strategy.name

end InitStrategy

namespace Config

def textOfJson : Json → Except JsonFault String
  | .string text => .ok text
  | value => .error (.invalidType value "a string")

def optionalTextOfJson : Json → Except JsonFault (Option String)
  | .null => .ok none
  | value => (textOfJson value).map some

/-- Reads the value of a key.  That the key is not there is no fault yet: whether it may
be left out depends on the setting. -/
def readEntry {α : Type} (entries : List (String × Json)) (name : String)
    (read : Json → Except JsonFault α) : Except JsonFault (Option α) :=
  match Json.entry? entries name with
  | none => .ok none
  | some value => (read value).map some

def required {α : Type} (name : String) : Option α → Except JsonFault α
  | some value => .ok value
  | none => .error (.missingField name)

/-- Reads a configuration from the entries of an object.  Every value that is there is
read before any setting is missed, in the alphabetical order of the keys, whereas settings
are missed in the order of the record. -/
def ofEntries (entries : List (String × Json)) : Except JsonFault Config := do
  let contextStrategy ← readEntry entries FieldName.contextStrategy InitStrategy.ofJson
  let protocol ← readEntry entries FieldName.defaultContextProtocol textOfJson
  let keyAlgorithm ← readEntry entries FieldName.keyManagerAlgorithm optionalTextOfJson
  let socketStrategy ← readEntry entries FieldName.socketFactoryStrategy InitStrategy.ofJson
  let trustAlgorithm ← readEntry entries FieldName.trustManagerAlgorithm optionalTextOfJson
  let verifierStrategy ← readEntry entries FieldName.verifierStrategy InitStrategy.ofJson
  let protocol ← required FieldName.defaultContextProtocol protocol
  let contextStrategy ← required FieldName.contextStrategy contextStrategy
  let socketStrategy ← required FieldName.socketFactoryStrategy socketStrategy
  let verifierStrategy ← required FieldName.verifierStrategy verifierStrategy
  pure
    { defaultContextProtocol := protocol
      keyManagerAlgorithm := keyAlgorithm.join
      trustManagerAlgorithm := trustAlgorithm.join
      contextStrategy := contextStrategy
      socketFactoryStrategy := socketStrategy
      verifierStrategy := verifierStrategy }

/-- An item of an array of settings.  An array that is too short is reported with its
length, not with the place at which it ends. -/
def item {α : Type} (items : List Json) (index : Nat) (read : Json → Except JsonFault α) :
    Except JsonFault α :=
  match items[index]? with
  | some value => read value
  | none => .error (.tooShort items.length)

/-- Reads a configuration from an array of settings.  All six have to be there, and that
there are more of them is noticed last. -/
def ofItems (items : List Json) : Except JsonFault Config := do
  let protocol ← item items 0 textOfJson
  let keyAlgorithm ← item items 1 optionalTextOfJson
  let trustAlgorithm ← item items 2 optionalTextOfJson
  let contextStrategy ← item items 3 InitStrategy.ofJson
  let socketStrategy ← item items 4 InitStrategy.ofJson
  let verifierStrategy ← item items 5 InitStrategy.ofJson
  if 6 < items.length then .error (.tooLong items.length)
  else
    pure
      { defaultContextProtocol := protocol
        keyManagerAlgorithm := keyAlgorithm
        trustManagerAlgorithm := trustAlgorithm
        contextStrategy := contextStrategy
        socketFactoryStrategy := socketStrategy
        verifierStrategy := verifierStrategy }

def ofJson : Json → Except JsonFault Config
  | .object entries => ofEntries entries
  | .array items => ofItems items
  | value => .error (.invalidType value "struct SecurityConfig")

def optionalToJson : Option String → Json
  | none => .null
  | some text => .string text

def toJson (config : Config) : Json :=
  .object
    [(FieldName.defaultContextProtocol, .string config.defaultContextProtocol),
      (FieldName.keyManagerAlgorithm, optionalToJson config.keyManagerAlgorithm),
      (FieldName.trustManagerAlgorithm, optionalToJson config.trustManagerAlgorithm),
      (FieldName.contextStrategy, config.contextStrategy.toJson),
      (FieldName.socketFactoryStrategy, config.socketFactoryStrategy.toJson),
      (FieldName.verifierStrategy, config.verifierStrategy.toJson)]

end Config

end SecureSockets
