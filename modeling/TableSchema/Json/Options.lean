import TableSchema.HintSet
import TableSchema.Json.Reader
import TableSchema.Options

set_option autoImplicit false

namespace TableSchema

namespace Options

def reader : Reader Options :=
  (Reader.membersOf "a map" Reader.json).map ofMembers

end Options

namespace HintSet

def reader : Reader HintSet :=
  (Reader.listOf Reader.text).map ofList

end HintSet

end TableSchema
