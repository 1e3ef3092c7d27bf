import MotifVote.Config
import MotifVote.Json.Decode
import MotifVote.Toml.Document

/-!
# Settings by name

The settings of a configuration under the names by which texts give them, in JSON or in TOML. A
text gives some of them; the others keep their defaults.
-/

namespace MotifVote

/-- The kind of value that a setting has, and where the configuration keeps it. -/
inductive Setting where
  | number (put : Float → Config Float → Config Float)
  | flag (put : Bool → Config Float → Config Float)
  | table (put : Std.TreeMap String Float → Config Float → Config Float)

namespace Config

/-- All settings, in their order. -/
def settings : List (String × Setting) :=
  [("classification_threshold",
      .number fun value config => { config with classificationThreshold := value }),
   ("accuracy_threshold", .number fun value config => { config with accuracyThreshold := value }),
   ("learning_rate", .number fun value config => { config with learningRate := value }),
   ("accuracy_smoothing", .number fun value config => { config with accuracySmoothing := value }),
   ("approximate_fpr", .flag fun value config => { config with approximateRates := value }),
   ("flat_fpr", .number fun value config => { config with flatRate := value }),
   ("edge_weight_default", .number fun value config => { config with defaultWeight := value }),
   ("edge_weights", .table fun value config => { config with weights := value }),
   ("neighborhood_distance",
      .number fun value config => { config with neighborhoodDistance := value })]

open Json (Decoder)

/-- The configuration with the value of a setting taken from JSON. -/
def readSetting (setting : Setting) (draft : Json.Draft) (config : Config Float) :
    Except Json.Fault (Config Float) :=
  match setting with
  | .number put => do return put (← Decoder.double draft) config
  | .flag put => do return put (← Decoder.bool draft) config
  | .table put => do
    return put (.ofList (← Decoder.table Decoder.double draft)) config

/-- A setting as a field of a JSON object; the names of the fields found so far are kept. -/
def settingField (entry : String × Setting) : Json.Field (Config Float × List String) where
  name := entry.1
  optional := true
  isSet built := built.2.contains entry.1
  read draft built := do return (← readSetting entry.2 draft built.1, entry.1 :: built.2)

/-- A configuration is read with any of its settings. -/
def decoder : Decoder (Config Float) :=
  Decoder.record (settings.map settingField) (default, []) fun built => some built.1

/-- The configuration that a JSON text describes. -/
def ofJsonText (text : String) : Except Error (Config Float) :=
  (decoder.runText text).mapError fun _ => .settingsText

/-- The number that a TOML value stands for: a float, or an integer of 64 bits. -/
def tomlNumber? : Toml → Option Float
  | .integer value =>
    if -(Nat.pow 2 63 : Int) ≤ value && value < (Nat.pow 2 64 : Int) then some (Float.ofInt value)
    else none
  | .float value => some value
  | _ => none

/-- The numbers of a TOML table. -/
def tomlTable? : Toml → Option (Std.TreeMap String Float)
  | .table _ fields => do
    let entries ← fields.mapM fun (name, value) => do return (name, ← tomlNumber? value)
    return .ofList entries
  | _ => none

/-- The configuration with a named TOML value; names of no setting are passed over. -/
def takeToml? (config : Config Float) (field : String × Toml) : Option (Config Float) :=
  match settings.lookup field.1, field.2 with
  | none, _ => some config
  | some (.number put), value => (tomlNumber? value).map (put · config)
  | some (.flag put), .bool value => some (put value config)
  | some (.flag _), _ => none
  | some (.table put), value => (tomlTable? value).map (put · config)

/-- The configuration that a TOML text describes. -/
def ofTomlText (text : String) : Except Error (Config Float) :=
  match (Toml.document? text).bind fun fields => fields.foldlM takeToml? default with
  | some config => .ok config
  | none => .error (.setting .unreadable)

end Config

end MotifVote
