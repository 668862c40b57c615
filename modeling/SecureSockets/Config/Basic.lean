import SecureSockets.Slot.Basic
import SecureSockets.Error
import SecureSockets.Text.Blank
import SecureSockets.Text.Utf8
import SecureSockets.WellKnown

namespace SecureSockets

/-!
Configurations: which protocol builds the default context, which algorithms the manager
factories have by default, and how each default slot deals with concurrent constructors.
Configurations are loaded from properties or from environment variables; in both, a
blank value counts as missing.
-/

structure Config where
  defaultContextProtocol : String := Algorithm.defaultContext
  keyManagerAlgorithm : Option String := none
  trustManagerAlgorithm : Option String := none
  contextStrategy : InitStrategy := .locked
  socketFactoryStrategy : InitStrategy := .lockFree
  verifierStrategy : InitStrategy := .locked
  deriving DecidableEq, Repr

/-- What makes a configuration unusable.  Loaders never produce a fault, since to them a
blank value is a missing one; only settings that an application writes itself can be at
fault. -/
inductive ConfigFault where
  | blankProtocol
  | blankKeyManagerAlgorithm
  | blankTrustManagerAlgorithm
  deriving DecidableEq, Repr

namespace ConfigFault

def message : ConfigFault → String
  | blankProtocol => "default context protocol must not be blank"
  | blankKeyManagerAlgorithm => "key manager algorithm must not be blank"
  | blankTrustManagerAlgorithm => "trust manager algorithm must not be blank"

def toError (fault : ConfigFault) : Error :=
  .invalidArgument fault.message

end ConfigFault

namespace Config

def standard : Config := {}

def uniform (strategy : InitStrategy) : Config :=
  { contextStrategy := strategy
    socketFactoryStrategy := strategy
    verifierStrategy := strategy }

/-- Properties name algorithms only.  The protocol and the strategies stay the standard
ones, whatever the properties say. -/
def ofProperties (property : String → Option String) : Config :=
  { keyManagerAlgorithm := (property PropertyName.keyManagerAlgorithm).bind Text.trimmed?
    trustManagerAlgorithm := (property PropertyName.trustManagerAlgorithm).bind Text.trimmed? }

/-- The text of an environment variable.  Variables hold bytes, and a value that is not
UTF-8 counts as missing, just as a blank one does. -/
def variableText? (variable' : String → Option (List UInt8)) (name : String) : Option String :=
  (variable' name).bind fun bytes =>
    match Text.Utf8.decode bytes with
    | .ok text => Text.trimmed? (String.ofList text)
    | .error _ => none

def ofVariables (variable' : String → Option (List UInt8)) : Config :=
  { defaultContextProtocol :=
      (variableText? variable' VariableName.defaultContextProtocol).getD Algorithm.defaultContext
    keyManagerAlgorithm := variableText? variable' VariableName.keyManagerAlgorithm
    trustManagerAlgorithm := variableText? variable' VariableName.trustManagerAlgorithm }

def load (variable' : String → Option (List UInt8)) : Logged Config := do
  let config := ofVariables variable'
  writeLog .debug
    ("Loaded security config from environment (context protocol: " ++
      config.defaultContextProtocol ++ ")")
  pure config

/-- The algorithm of key manager factories that are asked for without one. -/
def effectiveKeyManagerAlgorithm (config : Config) : String :=
  config.keyManagerAlgorithm.getD Algorithm.fallbackManager

def effectiveTrustManagerAlgorithm (config : Config) : String :=
  config.trustManagerAlgorithm.getD Algorithm.fallbackManager

/-- Checks that no setting is blank.  The protocol is looked at first, so that of several
faults it is the one that is reported. -/
def validate (config : Config) : Except ConfigFault Unit :=
  if Text.isBlank config.defaultContextProtocol.toList then .error .blankProtocol
  else if config.keyManagerAlgorithm.any (Text.isBlank ·.toList) then
    .error .blankKeyManagerAlgorithm
  else if config.trustManagerAlgorithm.any (Text.isBlank ·.toList) then
    .error .blankTrustManagerAlgorithm
  else .ok ()

/-! The names of the settings where they are written out. -/
namespace FieldName

def defaultContextProtocol : String := "default_context_protocol"
def keyManagerAlgorithm : String := "key_manager_algorithm"
def trustManagerAlgorithm : String := "trust_manager_algorithm"
def contextStrategy : String := "context_strategy"
def socketFactoryStrategy : String := "socket_factory_strategy"
def verifierStrategy : String := "verifier_strategy"

end FieldName

def inspect (config : Config) : String :=
  Text.record "SecurityConfig"
    [(FieldName.defaultContextProtocol, Text.quoted config.defaultContextProtocol),
      (FieldName.keyManagerAlgorithm,
        Text.optional (config.keyManagerAlgorithm.map Text.quoted)),
      (FieldName.trustManagerAlgorithm,
        Text.optional (config.trustManagerAlgorithm.map Text.quoted)),
      (FieldName.contextStrategy, config.contextStrategy.name),
      (FieldName.socketFactoryStrategy, config.socketFactoryStrategy.name),
      (FieldName.verifierStrategy, config.verifierStrategy.name)]

end Config

end SecureSockets
