/-!
# Header fields

The fields of a header as the service reads them.  Names are compared without regard to case, and of two
fields with one name the first counts.
-/

set_option autoImplicit false

namespace CommitmentLog.Http

structure HeaderField where
  name : String
  value : String
  deriving DecidableEq, Repr

namespace HeaderField

def named (name : String) (field : HeaderField) : Bool :=
  field.name.toList.map Char.toLower = name.toList

def value? (fields : List HeaderField) (name : String) : Option String :=
  (fields.find? (named name)).map (·.value)

end HeaderField

end CommitmentLog.Http
