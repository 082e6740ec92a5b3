import CommitmentLog.Json.Basic
import CommitmentLog.Number.Extended

/-!
# Values that can be written

Not every value that can be read can be written again: a number must be finite as a binary fraction, and
every string must be a text.  Of several fields with one name only the last one is part of the value.
-/

set_option autoImplicit false

namespace CommitmentLog.Json

mutual

def isWritable : Json → Bool
  | .number spelled => (Extended.ofSpelled spelled).isFinite
  | .broken => false
  | .array items => areWritable items
  | .object fields => haveWritable fields
  | _ => true

def areWritable : List Json → Bool
  | [] => true
  | item :: rest => item.isWritable && areWritable rest

def haveWritable : List (Option String × Json) → Bool
  | [] => true
  | (name, value) :: rest =>
      name.isSome && (rest.any (fun later => later.1 = name) || value.isWritable) && haveWritable rest

end

end CommitmentLog.Json
