import XmlCheck.Form.Reading
import XmlCheck.Outcome
import XmlCheck.Request

/-!
Diagnostics, outcomes and requests read from data. Fields that a record does not have are passed
over; faults are found in the order of the fields.
-/

namespace XmlCheck

def FilePath.ofDatum : Datum → Reading FilePath
  | .text value => .ok (.ofText value)
  | _ => Reading.fault .notPath

/-- Octets, also from a text: its UTF-8. -/
def Datum.toOctets : Datum → Reading (List UInt8)
  | .octets value => .ok value
  | .text value => .ok (Utf8.encode value)
  | _ => Reading.fault .notOctets

open Reading (record andField required optional)

def Diagnostic.ofDatum : Datum → Reading Diagnostic :=
  Datum.toRecord fun fields =>
    record Diagnostic.mk
      |> andField (required "file" Datum.toText fields)
      |> andField (optional "line" 0 Datum.toCount fields)
      |> andField (required "message" Datum.toText fields)
      |> andField (optional "severity" .error (Datum.toChoice Severity.ofName?) fields)

def SchemaReference.ofDatum : Datum → Reading SchemaReference :=
  Datum.toRecord fun fields =>
    record SchemaReference.mk
      |> andField (required "identifier" Datum.toText fields)
      |> andField (optional "resolved_path" none (Datum.toOption FilePath.ofDatum) fields)
      |> andField (optional "display_path" [] Datum.toText fields)

def Outcome.ofDatum : Datum → Reading Outcome :=
  Datum.toRecord fun fields =>
    record Outcome.mk
      |> andField (required "file" Datum.toText fields)
      |> andField (required "is_valid" Datum.toFlag fields)
      |> andField (optional "diagnostics" [] (Datum.toList Diagnostic.ofDatum) fields)
      |> andField (optional "schema_ref" none (Datum.toOption SchemaReference.ofDatum) fields)
      |> andField (optional "counted" true Datum.toFlag fields)

def Request.ofDatum : Datum → Reading Request :=
  Datum.toRecord fun fields =>
    record Request.mk
      |> andField (required "display_name" Datum.toText fields)
      |> andField (optional "content" none (Datum.toOption Datum.toOctets) fields)
      |> andField (optional "path" none (Datum.toOption FilePath.ofDatum) fields)

end XmlCheck
