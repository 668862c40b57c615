import SecureSockets.Defaults
import SecureSockets.Proofs.Text.Blank
import SecureSockets.Proofs.Text.Utf8

namespace SecureSockets

open Text

/-!
# Loading configurations

A configuration is loaded from a map of properties or from the environment, and checked
before defaults are made of it.  Both loaders come to the same function of at most three
values, which may be missing.  What is said of that function then holds of both of them:
whatever the values are, the configuration passes the check, and two loaders that find the
same values make the same configuration.

Variables hold bytes.  A value that is no UTF-8 counts as missing, and this is said in terms
of the bytes that texts are written as, not of the reader.
-/

/-- What a variable says.  Bytes that are the encoding of no text say nothing, which is
put in terms of the encoding, so that the law does not lean on the reader that it is
about. -/
inductive Carries : Option (List UInt8) -> Option String -> Prop where
  | unset : Carries none none
  | unreadable {bytes : List UInt8} (foreign : ∀ text, Utf8.encode text ≠ bytes) :
      Carries (some bytes) none
  | text (value : String) : Carries (some (Utf8.encode value.toList)) (some value)

/-- What a value that may be missing selects, where there is a fallback.  Blank values
select the fallback, and all others are selected without the blanks around them. -/
inductive Selects (fallback : String) : Option String -> String -> Prop where
  | missing : Selects fallback none fallback
  | blank {value : String} (amounts : AmountsTo value none) :
      Selects fallback (some value) fallback
  | amount {value selected : String} (amounts : AmountsTo value (some selected)) :
      Selects fallback (some value) selected

namespace Config

def HasBlank (config : Config) : Prop :=
  AllWhiteSpace config.defaultContextProtocol.toList ∨
    (∃ algorithm, config.keyManagerAlgorithm = some algorithm ∧
      AllWhiteSpace algorithm.toList) ∨
    ∃ algorithm, config.trustManagerAlgorithm = some algorithm ∧ AllWhiteSpace algorithm.toList

/-- What is promised of a configuration that was loaded from some values: it passes the
check, defaults can be made under it, and each value selects its setting. -/
structure Loaded (P : Platform) (protocol key trust : Option String) (config : Config) :
    Prop where
  valid : config.validate = .ok ()
  accepted : ∃ defaults : Defaults P, Defaults.create config = .ok defaults ∧
    defaults.config = config
  protocol : Selects "Default" protocol config.defaultContextProtocol
  key : Selects "SunX509" key config.effectiveKeyManagerAlgorithm
  trust : Selects "SunX509" trust config.effectiveTrustManagerAlgorithm

/-- The configuration that some values describe.  Both loaders come down to it, which is
why they cannot disagree about equal values. -/
def ofValues (protocol key trust : Option String) : Config :=
  { defaultContextProtocol := (protocol.bind trimmed?).getD Algorithm.defaultContext
    keyManagerAlgorithm := key.bind trimmed?
    trustManagerAlgorithm := trust.bind trimmed? }

/-! ## The check -/

theorem any_isBlank_iff (setting : Option String) :
    setting.any (isBlank ·.toList) = true ↔
      ∃ text, setting = some text ∧ AllWhiteSpace text.toList := by
  cases setting <;> simp [isBlank_text_iff]

/-- The check refuses configurations with a blank setting and no others. -/
theorem validate_cases (config : Config) :
    (config.validate = .ok () ∧ ¬config.HasBlank) ∨
      ∃ fault, config.validate = .error fault ∧ config.HasBlank := by
  unfold validate HasBlank
  rw [← isBlank_text_iff, ← any_isBlank_iff, ← any_isBlank_iff]
  split_ifs with protocol key trust
  · exact Or.inr ⟨_, rfl, Or.inl protocol⟩
  · exact Or.inr ⟨_, rfl, Or.inr (Or.inl key)⟩
  · exact Or.inr ⟨_, rfl, Or.inr (Or.inr trust)⟩
  · refine Or.inl ⟨rfl, ?_⟩
    rintro (blank | blank | blank)
    · exact protocol blank
    · exact key blank
    · exact trust blank

theorem validate_ok_iff (config : Config) : config.validate = .ok () ↔ ¬config.HasBlank := by
  rcases config.validate_cases with ⟨passes, filled⟩ | ⟨fault, fails, blank⟩
  · exact iff_of_true passes filled
  · exact iff_of_false (by rw [fails]; exact nofun) (not_not_intro blank)

theorem validate_error_iff (config : Config) :
    (∃ fault, config.validate = .error fault ∧ fault.toError.kind = .invalidArgument) ↔
      config.HasBlank := by
  rcases config.validate_cases with ⟨passes, filled⟩ | ⟨fault, fails, blank⟩
  · refine iff_of_false ?_ filled
    rintro ⟨fault, fails, -⟩
    rw [passes] at fails
    cases fails
  · exact iff_of_true ⟨fault, fails, rfl⟩ blank

/-! ## Values -/

section Values

variable {value : Option String} {fallback selected : String}

theorem selects_trimmed (fallback : String) (value : Option String) :
    Selects fallback value ((value.bind trimmed?).getD fallback) := by
  cases value with
  | none => exact .missing
  | some text =>
      cases amount : trimmed? text with
      | none =>
          rw [Option.bind_some, amount]
          exact .blank (trimmed?_eq_iff.mp amount)
      | some selected =>
          rw [Option.bind_some, amount]
          exact .amount (trimmed?_eq_iff.mp amount)

theorem not_blank_of_trimmed (trims : value.bind trimmed? = some selected) :
    ¬AllWhiteSpace selected.toList := by
  rcases Option.bind_eq_some_iff.mp trims with ⟨text, -, amount⟩
  cases trimmed?_eq_iff.mp amount with
  | trimmed trims filled =>
      exact trims.not_allWhiteSpace (mt String.toList_eq_nil_iff.mp filled)

end Values

theorem not_hasBlank_ofValues (protocol key trust : Option String) :
    ¬(ofValues protocol key trust).HasBlank := by
  rintro (blank | ⟨algorithm, present, blank⟩ | ⟨algorithm, present, blank⟩)
  · cases amount : protocol.bind trimmed? with
    | none =>
        have standard : AllWhiteSpace Algorithm.defaultContext.toList := by
          simpa [ofValues, amount] using blank
        rw [← isBlank_text_iff] at standard
        exact absurd standard (by decide)
    | some selected =>
        apply not_blank_of_trimmed amount
        simpa [ofValues, amount] using blank
  · exact not_blank_of_trimmed present blank
  · exact not_blank_of_trimmed present blank

theorem loaded_ofValues (P : Platform) (protocol key trust : Option String) :
    Loaded P protocol key trust (ofValues protocol key trust) := by
  have valid := (validate_ok_iff _).mpr (not_hasBlank_ofValues protocol key trust)
  refine ⟨valid, ⟨.ofConfig _, ?_, rfl⟩, ?_, ?_, ?_⟩
  · rw [Defaults.create, valid]
    rfl
  · exact selects_trimmed _ protocol
  · exact selects_trimmed _ key
  · exact selects_trimmed _ trust

theorem ofValues_of_blank_protocol {protocol : Option String}
    (blank : ∀ text, protocol = some text -> AllWhiteSpace text.toList)
    (key trust : Option String) : ofValues protocol key trust = ofValues none key trust := by
  have nothing : protocol.bind trimmed? = none := by
    cases protocol with
    | none => rfl
    | some text => exact trimmed?_eq_iff.mpr (.nothing (blank text rfl))
  rw [ofValues, nothing]
  rfl

/-! ## Loaders -/

theorem ofProperties_eq (property : String -> Option String) :
    ofProperties property =
      ofValues none (property PropertyName.keyManagerAlgorithm)
        (property PropertyName.trustManagerAlgorithm) :=
  rfl

theorem exists_carried (variable' : Option (List UInt8)) : ∃ value, Carries variable' value := by
  cases variable' with
  | none => exact ⟨none, .unset⟩
  | some bytes =>
      by_cases written : ∃ text, Utf8.encode text = bytes
      · rcases written with ⟨text, rfl⟩
        have carries := Carries.text (String.ofList text)
        rw [String.toList_ofList] at carries
        exact ⟨_, carries⟩
      · exact ⟨none, .unreadable (not_exists.mp written)⟩

theorem variableText?_of_carries {variable' : String -> Option (List UInt8)} {name : String}
    {value : Option String} (carries : Carries (variable' name) value) :
    variableText? variable' name = value.bind trimmed? := by
  unfold variableText?
  generalize variable' name = bytes at carries
  cases carries with
  | unset => rfl
  | @unreadable bytes foreign =>
      cases read : Utf8.decode bytes with
      | error fault => simp [read]
      | ok text => exact absurd (Utf8.decode_iff_encode.mp read) (foreign text)
  | text value => simp [Utf8.decode_encode]

theorem load_eq {variable' : String -> Option (List UInt8)} {protocol key trust : Option String}
    (protocolCarries : Carries (variable' VariableName.defaultContextProtocol) protocol)
    (keyCarries : Carries (variable' VariableName.keyManagerAlgorithm) key)
    (trustCarries : Carries (variable' VariableName.trustManagerAlgorithm) trust) (log : Log) :
    ((load variable').run log).1 = ofValues protocol key trust := by
  show ofVariables variable' = _
  rw [ofVariables, variableText?_of_carries protocolCarries, variableText?_of_carries keyCarries,
    variableText?_of_carries trustCarries]
  rfl

/-- What is promised of loading, for defaults on some platform. -/
structure LoadingLaw (P : Platform) : Prop where
  /-- Whatever the properties are, they make a configuration that can be used. -/
  of_properties : ∀ property : String -> Option String,
    Loaded P none (property PropertyName.keyManagerAlgorithm)
      (property PropertyName.trustManagerAlgorithm) (ofProperties property)
  /-- So does the environment, whatever the bytes in it are. -/
  of_variables : ∀ (variable' : String -> Option (List UInt8)) (log : Log),
    ∃ protocol key trust,
      Carries (variable' VariableName.defaultContextProtocol) protocol ∧
      Carries (variable' VariableName.keyManagerAlgorithm) key ∧
      Carries (variable' VariableName.trustManagerAlgorithm) trust ∧
      Loaded P protocol key trust ((load variable').run log).1
  /-- No property counts but two. -/
  unrelated : ∀ property property' : String -> Option String,
    property PropertyName.keyManagerAlgorithm = property' PropertyName.keyManagerAlgorithm ->
    property PropertyName.trustManagerAlgorithm = property' PropertyName.trustManagerAlgorithm ->
    ofProperties property = ofProperties property'
  /-- Variables that say what the properties say, and no protocol besides, make the same
  configuration. -/
  agree : ∀ (variable' : String -> Option (List UInt8)) (property : String -> Option String)
    (protocol : Option String) (log : Log),
    Carries (variable' VariableName.keyManagerAlgorithm)
      (property PropertyName.keyManagerAlgorithm) ->
    Carries (variable' VariableName.trustManagerAlgorithm)
      (property PropertyName.trustManagerAlgorithm) ->
    Carries (variable' VariableName.defaultContextProtocol) protocol ->
    (∀ text, protocol = some text -> AllWhiteSpace text.toList) ->
    ((load variable').run log).1 = ofProperties property
  /-- The check passes a configuration exactly if none of its settings is blank. -/
  passes : ∀ config : Config, config.validate = .ok () ↔ ¬config.HasBlank
  /-- Otherwise it reports an invalid argument. -/
  refuses : ∀ config : Config,
    (∃ fault, config.validate = .error fault ∧ fault.toError.kind = .invalidArgument) ↔
      config.HasBlank

/-- Every configuration that is loaded can be used, and both loaders make the same one of the
same values. -/
theorem loaders_alike (P : Platform) : LoadingLaw P where
  of_properties := by
    intro property
    rw [ofProperties_eq]
    exact loaded_ofValues P none _ _
  of_variables := by
    intro variable' log
    rcases exists_carried (variable' VariableName.defaultContextProtocol) with ⟨protocol, first⟩
    rcases exists_carried (variable' VariableName.keyManagerAlgorithm) with ⟨key, second⟩
    rcases exists_carried (variable' VariableName.trustManagerAlgorithm) with ⟨trust, third⟩
    refine ⟨protocol, key, trust, first, second, third, ?_⟩
    rw [load_eq first second third]
    exact loaded_ofValues P protocol key trust
  unrelated := by
    intro property property' sameKey sameTrust
    rw [ofProperties_eq, ofProperties_eq, sameKey, sameTrust]
  agree := by
    intro variable' property protocol log sameKey sameTrust carries blank
    rw [load_eq carries sameKey sameTrust, ofValues_of_blank_protocol blank, ofProperties_eq]
  passes := validate_ok_iff
  refuses := validate_error_iff

end Config

end SecureSockets
