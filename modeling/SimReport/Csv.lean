/-
The dialect of the report file: fields between commas, each record ended by a
line feed, and quotes around a field that a reader would otherwise take apart.
-/
import SimReport.Text

namespace SimReport
namespace Csv

/-- A field with one of these characters is quoted. -/
def needsQuotes (field : Text) : Bool :=
  field.any fun c => c == ',' || c == '"' || c == '\r' || c == '\n'

/-- A quote inside quotes is written twice. -/
def double (field : Text) : Text := field.flatMap fun c => if c = '"' then ['"', '"'] else [c]

def encodeField (field : Text) : Text :=
  if needsQuotes field then '"' :: double field ++ ['"'] else field

def encodeRecord (fields : List Text) : Text :=
  Text.joinWith [','] (fields.map encodeField) ++ ['\n']

def encode (records : List (List Text)) : Text := records.flatMap encodeRecord

@[simp] theorem encode_nil : encode [] = [] := rfl

@[simp] theorem encode_cons (record : List Text) (records : List (List Text)) :
    encode (record :: records) = encodeRecord record ++ encode records := rfl

@[simp] theorem encode_append (a b : List (List Text)) :
    encode (a ++ b) = encode a ++ encode b := List.flatMap_append

end Csv
end SimReport
