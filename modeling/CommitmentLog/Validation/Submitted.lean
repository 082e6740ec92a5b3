import CommitmentLog.Hex
import CommitmentLog.Json.Writable
import CommitmentLog.Time.Reader
import CommitmentLog.Validation.Issue

/-!
# Submitted values

A caller submits a commitment, or a root with the time at which it was mined.  A root or commitment is a
text of sixty-four to sixty-six characters that spells thirty-two bytes.  Every field is checked, so each
faulty field brings one issue; fields that are not asked for are ignored.  An issue is about the value of its
field, or about the whole object if the field is missing.
-/

set_option autoImplicit false

namespace CommitmentLog

/-- A root or commitment as it was written, and what it spells. -/
structure DigestText where
  text : String
  bytes : Bytes
  deriving DecidableEq, Repr

structure SubmittedConfirmation where
  root : DigestText
  minedAt : Timestamp
  deriving DecidableEq, Repr

namespace Submitted

def digestBounds : Nat × Nat :=
  (64, 66)

def digest : Json → Except IssueKind DigestText
  | .string text =>
      if text.length < digestBounds.1 then .error .tooShort
      else if digestBounds.2 < text.length then .error .tooLong
      else
        match Hex.readDigest text.toList with
        | .error reason => .error (.badValue reason.message)
        | .ok bytes => .ok { text, bytes }
  | .broken => .error .noText
  | _ => .error .noString

/-- The timestamp that was read; the fault says what it means that nothing was. -/
def admitted (fault : IssueKind) : Option Timestamp.Reading → Except IssueKind Timestamp
  | some (.timestamp timestamp) => .ok timestamp
  | some .beforeYearOne => .error .dateBeyond
  | none => .error fault

/-- A point in time in a value: a text, or a number of seconds since 1970.  An integer too large for a
binary fraction is no number of seconds. -/
def time : Json → Except IssueKind Timestamp
  | .string text => admitted .badDate (Timestamp.Reading.ofText? text.toList)
  | .broken => .error .noText
  | .integer count =>
      match Binary.ofDecimal? (.ofInt count) with
      | some _ => admitted .dateBeyond (Timestamp.Reading.ofSeconds? count 0)
      | none => .error .noDate
  | .number spelled =>
      match Extended.ofSpelled spelled with
      | .finite count => admitted .dateBeyond (Timestamp.Reading.ofFraction? count)
      | _ => .error .dateBeyond
  | _ => .error .noDate

def field {α : Type} (name : String) (read : Json → Except IssueKind α) (value : Json) :
    Except Issue α :=
  match value.field? name with
  | none => .error { Issue.inField .missing name with shown := value.isWritable }
  | some content =>
      (read content).mapError fun kind => { Issue.inField kind name with shown := content.isWritable }

def isObject : Json → Bool
  | .object _ => true
  | _ => false

def noObject (value : Json) : Issue :=
  { kind := .noObject, location := [], shown := value.isWritable }

def commitmentField : String := "identity_commitment"

def rootField : String := "root"

def minedAtField : String := "mined_at"

def commitment (value : Json) : Except (List Issue) DigestText :=
  if isObject value then (field commitmentField digest value).mapError fun issue => [issue]
  else .error [noObject value]

def confirmation (value : Json) : Except (List Issue) SubmittedConfirmation :=
  if isObject value then
    match field rootField digest value, field minedAtField time value with
    | .ok root, .ok minedAt => .ok { root, minedAt }
    | .error first, .error second => .error [first, second]
    | .error issue, .ok _ => .error [issue]
    | .ok _, .error issue => .error [issue]
  else .error [noObject value]

end Submitted

end CommitmentLog
