import Mathlib.Data.List.Nodup
import SecureSockets.Config.Json

namespace SecureSockets.Config

/-!
# Configurations in many spellings

A configuration is written as one JSON value but read from many.  An object may have further
keys, in any order, and may leave out an algorithm that is absent; a strategy may be an object
with its name as the one key; and the settings may stand in an array.  All these spellings of a
configuration are read as that configuration, and nothing else is.

The settings of an object are looked up by name, so what is read depends on the entries that a
name has, not on their place.  A setting that is left out is read like one that is null.  With
that said once for a setting, what is done to an object step by step keeps what it describes.
-/

/-- The settings of a configuration, in the order of the record.  An object and an array
are both described setting by setting, the one by keys and the other by places. -/
inductive Setting where
  | protocol
  | keyAlgorithm
  | trustAlgorithm
  | contextStrategy
  | socketStrategy
  | verifierStrategy
  deriving DecidableEq

namespace Setting

def all : List Setting :=
  [protocol, keyAlgorithm, trustAlgorithm, contextStrategy, socketStrategy, verifierStrategy]

def name : Setting -> String
  | protocol => FieldName.defaultContextProtocol
  | keyAlgorithm => FieldName.keyManagerAlgorithm
  | trustAlgorithm => FieldName.trustManagerAlgorithm
  | contextStrategy => FieldName.contextStrategy
  | socketStrategy => FieldName.socketFactoryStrategy
  | verifierStrategy => FieldName.verifierStrategy

variable (config : Config)

def written : Setting -> Json
  | protocol => .string config.defaultContextProtocol
  | keyAlgorithm => optionalToJson config.keyManagerAlgorithm
  | trustAlgorithm => optionalToJson config.trustManagerAlgorithm
  | contextStrategy => .string config.contextStrategy.name
  | socketStrategy => .string config.socketFactoryStrategy.name
  | verifierStrategy => .string config.verifierStrategy.name

/-- The strategy that a setting chooses, if it is about one. -/
def strategy? : Setting -> Option InitStrategy
  | protocol | keyAlgorithm | trustAlgorithm => none
  | contextStrategy => some config.contextStrategy
  | socketStrategy => some config.socketFactoryStrategy
  | verifierStrategy => some config.verifierStrategy

/-- The values that a setting may be spelled as: as it is written, or in the form of an
object with one key if it chooses a strategy. -/
inductive Spelled (setting : Setting) : Json -> Prop where
  | written : Spelled setting (setting.written config)
  | oneKey {strategy : InitStrategy} (chosen : setting.strategy? config = some strategy) :
      Spelled setting (.object [(strategy.name, .null)])

/-- What may be found of a setting under its key.  Only a setting that would be written as
null may be left out. -/
inductive Found (setting : Setting) : Option Json -> Prop where
  | leftOut (absent : setting.written config = .null) : Found setting none
  | spelled {value : Json} (spelled : setting.Spelled config value) : Found setting (some value)

end Setting

/-- The entries of an object describe a configuration.  Keys of other names do not
count. -/
structure Describes (entries : List (String × Json)) (config : Config) : Prop where
  spelled : ∀ (setting : Setting) (value : Json), (setting.name, value) ∈ entries ->
    setting.Spelled config value
  present : ∀ setting : Setting, setting.written config ≠ .null ->
    ∃ value, (setting.name, value) ∈ entries

inductive Spells : Json -> Config -> Prop where
  | object {entries : List (String × Json)} {config : Config}
      (describes : Describes entries config) : Spells (.object entries) config
  | array {items : List Json} {config : Config}
      (spelled : List.Forall₂ (Setting.Spelled config) Setting.all items) :
      Spells (.array items) config

/-- What may be done to an object that a configuration was written as.  Nothing but an
absent algorithm is null, and so nothing else is left out. -/
inductive Rewritten (config : Config) : List (String × Json) -> Prop where
  | asWritten {entries : List (String × Json)} (written : config.toJson = .object entries) :
      Rewritten config entries
  | unknownKey {entries : List (String × Json)} {name : String} (value : Json)
      (unknown : ∀ setting : Setting, setting.name ≠ name) (before : Rewritten config entries) :
      Rewritten config ((name, value) :: entries)
  | leftOut {entries : List (String × Json)} {setting : Setting}
      (before : Rewritten config ((setting.name, .null) :: entries)) : Rewritten config entries
  | oneKey {entries : List (String × Json)} {setting : Setting} {strategy : InitStrategy}
      (chosen : setting.strategy? config = some strategy)
      (before : Rewritten config ((setting.name, .string strategy.name) :: entries)) :
      Rewritten config ((setting.name, .object [(strategy.name, .null)]) :: entries)
  | reordered {entries entries' : List (String × Json)} (same : entries.Perm entries')
      (before : Rewritten config entries) : Rewritten config entries'

/-! ## Single values -/

section Values

variable {value : Json}

theorem bind_eq_ok_iff {ε α β : Type} {first : Except ε α} {next : α -> Except ε β} {b : β} :
    first >>= next = .ok b ↔ ∃ a, first = .ok a ∧ next a = .ok b := by
  cases first <;> simp [bind, Except.bind]

theorem ofNameOrFault_ok_iff {name : String} {strategy : InitStrategy} :
    InitStrategy.ofNameOrFault name = .ok strategy ↔ name = strategy.name := by
  unfold InitStrategy.ofNameOrFault InitStrategy.ofName?
  cases strategy <;> split_ifs <;> simp_all [InitStrategy.name]

theorem textOfJson_ok_iff {text : String} : textOfJson value = .ok text ↔ value = .string text := by
  cases value <;> simp [textOfJson]

theorem optionalTextOfJson_ok_iff {text : Option String} :
    optionalTextOfJson value = .ok text ↔ value = optionalToJson text := by
  cases text <;> cases value <;> simp [optionalTextOfJson, textOfJson, optionalToJson, Except.map]

theorem strategyOfJson_ok_iff {strategy : InitStrategy} :
    InitStrategy.ofJson value = .ok strategy ↔
      value = .string strategy.name ∨ value = .object [(strategy.name, .null)] := by
  cases value with
  | string name => simp [InitStrategy.ofJson, ofNameOrFault_ok_iff]
  | object entries =>
      match entries with
      | [(name, content)] =>
          rw [InitStrategy.ofJson, bind_eq_ok_iff]
          simp only [ofNameOrFault_ok_iff]
          cases content <;> simp [pure, Except.pure]
      | [] | _ :: _ :: _ => simp [InitStrategy.ofJson]
  | _ => simp [InitStrategy.ofJson]

end Values

/-! ## Settings -/

namespace Setting

variable {config : Config} {setting : Setting} {value : Json}

theorem mem_all (setting : Setting) : setting ∈ all := by
  cases setting <;> decide

theorem name_injective : Function.Injective name := by
  have distinct : (all.map name).Nodup := by decide
  intro one other same
  exact List.inj_on_of_nodup_map distinct (mem_all one) (mem_all other) same

theorem toJson_eq (config : Config) :
    config.toJson = .object (all.map fun setting => (setting.name, setting.written config)) :=
  rfl

theorem written_of_chosen {strategy : InitStrategy}
    (chosen : setting.strategy? config = some strategy) :
    setting.written config = .string strategy.name := by
  cases setting <;> cases chosen <;> rfl

theorem spelled_iff : setting.Spelled config value ↔
    value = setting.written config ∨
      ∃ strategy, setting.strategy? config = some strategy ∧
        value = .object [(strategy.name, .null)] := by
  constructor
  · intro spelled
    cases spelled with
    | written => exact Or.inl rfl
    | oneKey chosen => exact Or.inr ⟨_, chosen, rfl⟩
  · rintro (rfl | ⟨strategy, chosen, rfl⟩)
    · exact .written
    · exact .oneKey chosen

theorem spelled_iff_of_chosen {strategy : InitStrategy}
    (chosen : setting.strategy? config = some strategy) :
    setting.Spelled config value ↔
      value = .string strategy.name ∨ value = .object [(strategy.name, .null)] := by
  simp [spelled_iff, chosen, written_of_chosen chosen]

theorem spelled_iff_of_unchosen (unchosen : setting.strategy? config = none) :
    setting.Spelled config value ↔ value = setting.written config := by
  simp [spelled_iff, unchosen]

theorem written_of_spelled_null (spelled : setting.Spelled config .null) :
    setting.written config = .null := by
  rcases spelled_iff.mp spelled with same | ⟨_, _, ⟨⟩⟩
  exact same.symm

theorem found_iff {found : Option Json} : setting.Found config found ↔
    (found = none ∧ setting.written config = .null) ∨
      ∃ value, found = some value ∧ setting.Spelled config value := by
  constructor
  · intro there
    cases there with
    | leftOut absent => exact Or.inl ⟨rfl, absent⟩
    | spelled spelled => exact Or.inr ⟨_, rfl, spelled⟩
  · rintro (⟨rfl, absent⟩ | ⟨value, rfl, spelled⟩)
    · exact .leftOut absent
    · exact .spelled spelled

end Setting

/-! ## Entries -/

section Entries

variable {entries entries' : List (String × Json)} {config : Config} {key : String}
  {value : Json} {setting : Setting}

theorem mem_of_entry_eq_some (found : Json.entry? entries key = some value) :
    (key, value) ∈ entries := by
  rcases Option.map_eq_some_iff.mp found with ⟨entry, first, rfl⟩
  have named := List.find?_some first
  exact eq_of_beq named ▸ List.mem_of_find?_eq_some first

theorem entry?_ne_none (member : (key, value) ∈ entries) : Json.entry? entries key ≠ none := by
  intro missing
  rw [Json.entry?, Option.map_eq_none_iff, List.find?_eq_none] at missing
  exact missing _ member (beq_self_eq_true key)

theorem entry?_of_mem (distinct : (entries.map (·.1)).Nodup) (member : (key, value) ∈ entries) :
    Json.entry? entries key = some value := by
  rcases Option.ne_none_iff_exists'.mp (entry?_ne_none member) with ⟨other, found⟩
  cases List.inj_on_of_nodup_map distinct member (mem_of_entry_eq_some found) rfl
  exact found

theorem Describes.found (describes : Describes entries config) (setting : Setting) :
    setting.Found config (Json.entry? entries setting.name) := by
  cases found : Json.entry? entries setting.name with
  | some value => exact .spelled (describes.spelled setting value (mem_of_entry_eq_some found))
  | none =>
      apply Setting.Found.leftOut
      by_contra present
      rcases describes.present setting present with ⟨value, member⟩
      exact entry?_ne_none member found

theorem describes_of_found (distinct : (entries.map (·.1)).Nodup)
    (found : ∀ setting : Setting, setting.Found config (Json.entry? entries setting.name)) :
    Describes entries config where
  spelled := by
    intro setting value member
    have spelled := found setting
    rw [entry?_of_mem distinct member] at spelled
    cases spelled with
    | spelled spelled => exact spelled
  present := by
    intro setting present
    have there := found setting
    cases looked : Json.entry? entries setting.name with
    | some value => exact ⟨value, mem_of_entry_eq_some looked⟩
    | none =>
        rw [looked] at there
        cases there with
        | leftOut absent => exact absurd absent present

/-! ## What may be done to an object -/

theorem describes_written (written : config.toJson = .object entries) :
    Describes entries config := by
  rw [Setting.toJson_eq] at written
  cases written
  constructor
  · intro setting value member
    rcases List.mem_map.mp member with ⟨other, -, same⟩
    cases Setting.name_injective (Prod.mk.inj same).1
    cases (Prod.mk.inj same).2
    exact .written
  · intro setting _
    exact ⟨_, List.mem_map_of_mem (Setting.mem_all setting)⟩

theorem Describes.unknownKey (describes : Describes entries config)
    (unknown : ∀ setting : Setting, setting.name ≠ key) :
    Describes ((key, value) :: entries) config where
  spelled := by
    intro setting value' member
    rcases List.mem_cons.mp member with same | member
    · exact absurd (Prod.mk.inj same).1 (unknown setting)
    · exact describes.spelled setting value' member
  present := by
    intro setting present
    rcases describes.present setting present with ⟨value', member⟩
    exact ⟨value', List.mem_cons_of_mem _ member⟩

/-- Entries of settings are told apart by their settings. -/
theorem mem_cons_setting_iff {other : Setting} {value' : Json} :
    (other.name, value') ∈ (setting.name, value) :: entries ↔
      (other = setting ∧ value' = value) ∨ (other.name, value') ∈ entries := by
  rw [List.mem_cons, Prod.mk.injEq, Setting.name_injective.eq_iff]

theorem Describes.leftOut (describes : Describes ((setting.name, .null) :: entries) config) :
    Describes entries config where
  spelled := by
    intro other value member
    exact describes.spelled other value (List.mem_cons_of_mem _ member)
  present := by
    intro other present
    rcases describes.present other present with ⟨value, member⟩
    rcases mem_cons_setting_iff.mp member with ⟨rfl, -⟩ | member
    · have absent := Setting.written_of_spelled_null
        (describes.spelled other .null List.mem_cons_self)
      exact absurd absent present
    · exact ⟨value, member⟩

theorem Describes.respelled (describes : Describes ((setting.name, value) :: entries) config)
    {value' : Json} (spelled : setting.Spelled config value') :
    Describes ((setting.name, value') :: entries) config where
  spelled := by
    intro other value member
    rcases mem_cons_setting_iff.mp member with ⟨rfl, rfl⟩ | member
    · exact spelled
    · exact describes.spelled other value (List.mem_cons_of_mem _ member)
  present := by
    intro other present
    rcases describes.present other present with ⟨value, member⟩
    rcases mem_cons_setting_iff.mp member with ⟨rfl, -⟩ | member
    · exact ⟨value', List.mem_cons_self⟩
    · exact ⟨value, List.mem_cons_of_mem _ member⟩

theorem Describes.perm (describes : Describes entries config) (same : entries.Perm entries') :
    Describes entries' config where
  spelled := by
    intro setting value member
    exact describes.spelled setting value (same.mem_iff.mpr member)
  present := by
    intro setting present
    rcases describes.present setting present with ⟨value, member⟩
    exact ⟨value, same.mem_iff.mp member⟩

theorem Rewritten.describes (rewritten : Rewritten config entries) : Describes entries config := by
  induction rewritten with
  | asWritten written => exact describes_written written
  | unknownKey value unknown _ ih => exact ih.unknownKey unknown
  | leftOut _ ih => exact ih.leftOut
  | oneKey chosen _ ih => exact ih.respelled (.oneKey chosen)
  | reordered same _ ih => exact ih.perm same

end Entries

/-! ## Reading -/

section Reading

variable {entries : List (String × Json)} {items : List Json} {config : Config} {key : String}
  {value : Json} {α : Type} {read : Json -> Except JsonFault α} {a : α}

theorem required_ok_iff {found : Option α} : required key found = .ok a ↔ found = some a := by
  cases found <;> simp [required]

theorem readEntry_some_iff :
    readEntry entries key read = .ok (some a) ↔
      ∃ value, Json.entry? entries key = some value ∧ read value = .ok a := by
  unfold readEntry
  cases Json.entry? entries key with
  | none => simp
  | some value =>
      simp only [Option.some.injEq, exists_eq_left']
      cases read value <;> simp [Except.map]

/-- A text that may be absent is read from null as from nothing. -/
theorem readEntry_optional_iff {text : Option String} :
    (∃ found, readEntry entries key optionalTextOfJson = .ok found ∧ found.join = text) ↔
      (Json.entry? entries key = none ∧ text = none) ∨
        Json.entry? entries key = some (optionalToJson text) := by
  unfold readEntry
  cases Json.entry? entries key with
  | none => simp [eq_comm]
  | some value =>
      simp only [Option.some.injEq, reduceCtorEq, false_and, false_or]
      rw [← optionalTextOfJson_ok_iff]
      cases optionalTextOfJson value <;> simp [Except.map]

theorem ofEntries_ok_iff_read :
    ofEntries entries = .ok config ↔
      readEntry entries FieldName.defaultContextProtocol textOfJson =
          .ok (some config.defaultContextProtocol) ∧
        (∃ found, readEntry entries FieldName.keyManagerAlgorithm optionalTextOfJson = .ok found ∧
          found.join = config.keyManagerAlgorithm) ∧
        (∃ found, readEntry entries FieldName.trustManagerAlgorithm optionalTextOfJson =
          .ok found ∧ found.join = config.trustManagerAlgorithm) ∧
        readEntry entries FieldName.contextStrategy InitStrategy.ofJson =
          .ok (some config.contextStrategy) ∧
        readEntry entries FieldName.socketFactoryStrategy InitStrategy.ofJson =
          .ok (some config.socketFactoryStrategy) ∧
        readEntry entries FieldName.verifierStrategy InitStrategy.ofJson =
          .ok (some config.verifierStrategy) := by
  constructor
  · intro made
    simp only [ofEntries, bind_eq_ok_iff, required_ok_iff] at made
    rcases made with ⟨_, context, _, protocol, key, readKey, _, socket, trust, readTrust, _,
      verifier, _, rfl, _, rfl, _, rfl, _, rfl, ⟨⟩⟩
    exact ⟨protocol, ⟨key, readKey, rfl⟩, ⟨trust, readTrust, rfl⟩, context, socket, verifier⟩
  · rintro ⟨protocol, ⟨key, readKey, sameKey⟩, ⟨trust, readTrust, sameTrust⟩, context, socket,
      verifier⟩
    rw [ofEntries, context, protocol, readKey, socket, readTrust, verifier]
    show Except.ok _ = Except.ok config
    rw [sameKey, sameTrust]

theorem found_iff_of_chosen {setting : Setting} {strategy : InitStrategy}
    (chosen : setting.strategy? config = some strategy) :
    setting.Found config (Json.entry? entries key) ↔
      readEntry entries key InitStrategy.ofJson = .ok (some strategy) := by
  simp only [Setting.found_iff, Setting.written_of_chosen chosen, reduceCtorEq, and_false, false_or,
    Setting.spelled_iff_of_chosen chosen, readEntry_some_iff, strategyOfJson_ok_iff]

theorem found_iff_of_text :
    Setting.protocol.Found config (Json.entry? entries key) ↔
      readEntry entries key textOfJson = .ok (some config.defaultContextProtocol) := by
  have unchosen : Setting.protocol.strategy? config = none := rfl
  simp only [Setting.found_iff, Setting.written, reduceCtorEq, and_false, false_or,
    Setting.spelled_iff_of_unchosen unchosen, readEntry_some_iff, textOfJson_ok_iff]

theorem found_iff_of_optional {setting : Setting} {text : Option String}
    (unchosen : setting.strategy? config = none)
    (written : setting.written config = optionalToJson text) :
    setting.Found config (Json.entry? entries key) ↔
      ∃ found, readEntry entries key optionalTextOfJson = .ok found ∧ found.join = text := by
  have absent : optionalToJson text = .null ↔ text = none := by
    cases text <;> simp [optionalToJson]
  rw [readEntry_optional_iff, Setting.found_iff, written, absent]
  simp only [Setting.spelled_iff_of_unchosen unchosen, written, exists_eq_right]

/-- An object is read by what is found under the keys of the settings. -/
theorem ofEntries_ok_iff :
    ofEntries entries = .ok config ↔
      ∀ setting : Setting, setting.Found config (Json.entry? entries setting.name) := by
  rw [ofEntries_ok_iff_read]
  constructor
  · rintro ⟨protocol, key, trust, context, socket, verifier⟩ setting
    cases setting with
    | protocol => exact found_iff_of_text.mpr protocol
    | keyAlgorithm => exact (found_iff_of_optional rfl rfl).mpr key
    | trustAlgorithm => exact (found_iff_of_optional rfl rfl).mpr trust
    | contextStrategy => exact (found_iff_of_chosen rfl).mpr context
    | socketStrategy => exact (found_iff_of_chosen rfl).mpr socket
    | verifierStrategy => exact (found_iff_of_chosen rfl).mpr verifier
  · intro found
    exact ⟨found_iff_of_text.mp (found .protocol),
      (found_iff_of_optional rfl rfl).mp (found .keyAlgorithm),
      (found_iff_of_optional rfl rfl).mp (found .trustAlgorithm),
      (found_iff_of_chosen rfl).mp (found .contextStrategy),
      (found_iff_of_chosen rfl).mp (found .socketStrategy),
      (found_iff_of_chosen rfl).mp (found .verifierStrategy)⟩

theorem item_ok_iff {index : Nat} :
    item items index read = .ok a ↔ ∃ value, items[index]? = some value ∧ read value = .ok a := by
  unfold item
  cases items[index]? <;> simp

theorem ofItems_six_ok_iff {protocol key trust context socket verifier : Json} :
    ofItems [protocol, key, trust, context, socket, verifier] = .ok config ↔
      textOfJson protocol = .ok config.defaultContextProtocol ∧
        optionalTextOfJson key = .ok config.keyManagerAlgorithm ∧
        optionalTextOfJson trust = .ok config.trustManagerAlgorithm ∧
        InitStrategy.ofJson context = .ok config.contextStrategy ∧
        InitStrategy.ofJson socket = .ok config.socketFactoryStrategy ∧
        InitStrategy.ofJson verifier = .ok config.verifierStrategy := by
  simp only [ofItems, bind_eq_ok_iff, item_ok_iff]
  constructor
  · rintro ⟨_, ⟨_, ⟨⟩, first⟩, _, ⟨_, ⟨⟩, second⟩, _, ⟨_, ⟨⟩, third⟩, _, ⟨_, ⟨⟩, fourth⟩, _,
      ⟨_, ⟨⟩, fifth⟩, _, ⟨_, ⟨⟩, sixth⟩, ⟨⟩⟩
    exact ⟨first, second, third, fourth, fifth, sixth⟩
  · rintro ⟨first, second, third, fourth, fifth, sixth⟩
    exact ⟨_, ⟨_, rfl, first⟩, _, ⟨_, rfl, second⟩, _, ⟨_, rfl, third⟩, _, ⟨_, rfl, fourth⟩, _,
      ⟨_, rfl, fifth⟩, _, ⟨_, rfl, sixth⟩, rfl⟩

theorem exists_six (made : ofItems items = .ok config) :
    ∃ protocol key trust context socket verifier : Json,
      items = [protocol, key, trust, context, socket, verifier] := by
  simp only [ofItems, bind_eq_ok_iff, item_ok_iff] at made
  rcases made with ⟨_, -, _, -, _, -, _, -, _, -, _, ⟨_, last, -⟩, made⟩
  split_ifs at made with long
  have inside := (List.getElem?_eq_some_iff.mp last).1
  have length : items.length = 6 := by omega
  match items, length with
  | [_, _, _, _, _, _], _ => exact ⟨_, _, _, _, _, _, rfl⟩

/-- An array is read if it has the settings in order and nothing else. -/
theorem ofItems_ok_iff :
    ofItems items = .ok config ↔ List.Forall₂ (Setting.Spelled config) Setting.all items := by
  have six {protocol key trust context socket verifier : Json} :
      ofItems [protocol, key, trust, context, socket, verifier] = .ok config ↔
        List.Forall₂ (Setting.Spelled config) Setting.all
          [protocol, key, trust, context, socket, verifier] := by
    simp only [ofItems_six_ok_iff, textOfJson_ok_iff, optionalTextOfJson_ok_iff,
      strategyOfJson_ok_iff, Setting.all, List.forall₂_cons, List.Forall₂.nil, and_true]
    rw [Setting.spelled_iff_of_unchosen rfl, Setting.spelled_iff_of_unchosen rfl,
      Setting.spelled_iff_of_unchosen rfl, Setting.spelled_iff_of_chosen rfl,
      Setting.spelled_iff_of_chosen rfl, Setting.spelled_iff_of_chosen rfl]
    rfl
  constructor
  · intro made
    rcases exists_six made with ⟨_, _, _, _, _, _, rfl⟩
    exact six.mp made
  · intro spelled
    match items, spelled.length_eq with
    | [_, _, _, _, _, _], _ => exact six.mpr spelled

end Reading

/-- The entries of an object have keys of their own.  Objects within it do not count. -/
def DistinctKeys : Json -> Prop
  | .object entries => (entries.map (·.1)).Nodup
  | _ => True

/-- Exactly the spellings of configurations are read. -/
theorem ofJson_ok_iff {value : Json} {config : Config} (distinct : DistinctKeys value) :
    ofJson value = .ok config ↔ Spells value config := by
  cases value with
  | object entries =>
      rw [ofJson, ofEntries_ok_iff]
      constructor
      · intro found
        exact .object (describes_of_found distinct found)
      · intro spells
        cases spells with
        | object describes => exact describes.found
  | array items =>
      rw [ofJson, ofItems_ok_iff]
      constructor
      · exact .array
      · intro spells
        cases spells with
        | array spelled => exact spelled
  | _ =>
      refine iff_of_false nofun ?_
      intro spells
      cases spells

theorem ofJson_object_of_rewritten {entries : List (String × Json)} {config : Config}
    (rewritten : Rewritten config entries) : ofJson (.object entries) = .ok config :=
  ofEntries_ok_iff.mpr rewritten.describes.found

theorem ofJson_toJson (config : Config) : ofJson config.toJson = .ok config :=
  ofJson_object_of_rewritten (.asWritten rfl)

theorem forall₂_spelled_written (config : Config) (settings : List Setting) :
    List.Forall₂ (Setting.Spelled config) settings (settings.map (Setting.written config)) := by
  rw [List.forall₂_map_right_iff, List.forall₂_same]
  exact fun setting _ => .written

/-- A configuration is read from what it was written as, from the array of the values that were
written, and from everything that the object becomes when keys are added that have no meaning,
absent algorithms are left out, strategies become objects with one key and entries change their
places.  In general exactly the spellings of a configuration are read as it, and whatever was
read may be written and read again. -/
theorem spellings_read_alike (config : Config) :
    ofJson config.toJson = .ok config ∧
      (∀ entries, config.toJson = .object entries ->
        ofJson (.array (entries.map (·.2))) = .ok config) ∧
      (∀ entries, Rewritten config entries -> ofJson (.object entries) = .ok config) ∧
      (∀ value, DistinctKeys value -> (ofJson value = .ok config ↔ Spells value config)) ∧
      ∀ (value : Json) (read : Config), ofJson value = .ok read ->
        ofJson read.toJson = .ok read := by
  refine ⟨ofJson_toJson config, ?_, fun entries => ofJson_object_of_rewritten,
    fun value => ofJson_ok_iff, fun value read _ => ofJson_toJson read⟩
  intro entries written
  rw [Setting.toJson_eq] at written
  cases written
  rw [ofJson, List.map_map]
  exact ofItems_ok_iff.mpr (forall₂_spelled_written config Setting.all)

/-- The standard configuration without algorithms, with another key and one of the strategies as
an object. -/
theorem standard_respelled :
    Rewritten standard
        [("note", .integer 1), ("verifier_strategy", .object [("Locked", .null)]),
          ("default_context_protocol", .string "Default"), ("context_strategy", .string "Locked"),
          ("socket_factory_strategy", .string "LockFree")] ∧
      ofJson (.object [("note", .integer 1), ("verifier_strategy", .object [("Locked", .null)]),
          ("default_context_protocol", .string "Default"), ("context_strategy", .string "Locked"),
          ("socket_factory_strategy", .string "LockFree")]) = .ok standard := by
  have rewritten : Rewritten standard
      [("note", .integer 1), ("verifier_strategy", .object [("Locked", .null)]),
        ("default_context_protocol", .string "Default"), ("context_strategy", .string "Locked"),
        ("socket_factory_strategy", .string "LockFree")] := by
    have written : Rewritten standard
        ([("default_context_protocol", .string "Default")] ++
          [("key_manager_algorithm", .null), ("trust_manager_algorithm", .null),
            ("context_strategy", .string "Locked"), ("socket_factory_strategy", .string "LockFree"),
            ("verifier_strategy", .string "Locked")]) := .asWritten rfl
    have withoutKey := @Rewritten.leftOut _ _ .keyAlgorithm
      (.reordered List.perm_append_comm written)
    have withoutAlgorithms := @Rewritten.leftOut _ _ .trustAlgorithm withoutKey
    have turned : Rewritten standard
        ([("verifier_strategy", .string "Locked"),
            ("default_context_protocol", .string "Default")] ++
          [("context_strategy", .string "Locked"),
            ("socket_factory_strategy", .string "LockFree")]) :=
      .reordered List.perm_append_comm withoutAlgorithms
    refine .unknownKey _ ?_ (@Rewritten.oneKey _ _ .verifierStrategy _ rfl turned)
    intro setting
    cases setting <;> decide
  exact ⟨rewritten, (spellings_read_alike standard).2.2.1 _ rewritten⟩

end SecureSockets.Config
