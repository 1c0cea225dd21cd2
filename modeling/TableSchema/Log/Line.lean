import TableSchema.Json.Printer
import TableSchema.Log.Settings

set_option autoImplicit false

namespace TableSchema.LogRecord

private def shown : Json → String
  | .text value => value
  | value => value.render

private def padded (label : String) : String :=
  if label.length < 5 then " " ++ label else label

def words (record : LogRecord) : String :=
  let event := "event=" ++ Text.quoted record.event.name
  let details := record.details.map fun detail => detail.1 ++ "=" ++ shown detail.2
  " ".intercalate (padded record.level.label :: record.message :: event :: details)

def line (format : LogFormat) (record : LogRecord) : String :=
  match format with
  | .json => record.toJson.render
  | .pretty => record.words

end TableSchema.LogRecord
