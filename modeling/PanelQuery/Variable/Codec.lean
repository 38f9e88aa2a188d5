import PanelQuery.Form.Codec
import PanelQuery.Variable.Basic

/-!
# Variables in JSON

Decoders for the variables of a dashboard and the scoped values of a request.
-/

namespace PanelQuery

open RecordDecoder (need given maybe)

def VarValue.ofJson? : Json → Option VarValue
  | .array items => (items.mapM Scalar.ofJson?).map many
  | value => (Scalar.ofJson? value).map one

def VarValue.decoder : Decoder VarValue := .whole ofJson?

def Current.decoder : Decoder Current :=
  .record (mk <$> given "value" .empty VarValue.decoder <*> given "text" .empty VarValue.decoder)

def VarOption.decoder : Decoder VarOption :=
  .record (mk <$> given "value" .empty Scalar.decoder <*> given "text" .empty Scalar.decoder)

def Variable.decoder : Decoder Variable :=
  .record
    (mk <$> need "name" .text
      <*> maybe "type" .text
      <*> maybe "current" Current.decoder
      <*> given "options" [] (.list VarOption.decoder)
      <*> maybe "auto_count" .double
      <*> maybe "auto_min" .text)

def Binding.decoder : Decoder Binding :=
  .record ((fun text value => ⟨value, text⟩) <$> maybe "text" VarValue.decoder <*> need "value" VarValue.decoder)

def Bindings.decoder : Decoder Bindings := .dict Binding.decoder

/-- The decoder of what values are resolved against, given as fields of a request. -/
def VarContext.fieldsDecoder : RecordDecoder VarContext :=
  mk <$> given "variables" [] (.list Variable.decoder) <*> given "scopedVars" [] Bindings.decoder

end PanelQuery
