import CommitmentLog.Refusal
import CommitmentLog.Text.Quoted
import CommitmentLog.Tree.Basic

/-!
# Failures

How an operation may end without a result.  Either the log refuses it, or something happens that is no
refusal: the database reports an error, an integer or a date is out of range, a tree state is put together
wrongly, an argument cannot be read.
-/

set_option autoImplicit false

namespace CommitmentLog

inductive DatabaseError where
  /-- The statement could not be carried out. -/
  | operational
  | integrity
  deriving DecidableEq, Repr

inductive Failure where
  | refused (refusal : Refusal)
  | database (error : DatabaseError)
  | integerTooLarge
  /-- A time has no form in universal time within the years 1 to 9999. -/
  | dateOutOfRange
  /-- A time with an offset is compared with one without. -/
  | mixedOffsets
  /-- A proof is asked for a leaf that is not there. -/
  | noSuchLeaf (index : Int)
  | missingSlot (writing : Bool)
  | hasherCrashed
  /-- A status is asked for by a text that writes none, or by no text at all. -/
  | unknownStatus (text : Option String)
  | lockFree
  | malformed (reason : Hex.Malformed)
  | depthTooSmall
  /-- A wait cannot take a negative time. -/
  | negativeTimeout
  /-- A wait is longer than can be counted. -/
  | timeoutTooLarge
  /-- A checkpoint whose time is to be reported has none. -/
  | timeGone
  deriving DecidableEq, Repr

namespace Failure

def refusal? : Failure → Option Refusal
  | refused refusal => some refusal
  | _ => none

def message? : Failure → Option String
  | refused refusal => refusal.message?
  | database _ => none
  | integerTooLarge => some "Python int too large to convert to SQLite INTEGER"
  | dateOutOfRange => some "date value out of range"
  | mixedOffsets => some "can't compare offset-naive and offset-aware datetimes"
  | noSuchLeaf index => some (toString index)
  | missingSlot true => some "list assignment index out of range"
  | missingSlot false => some "list index out of range"
  | hasherCrashed => some "hasher crashed"
  | unknownStatus text => some ((text.map Text.quoted).getD "None" ++ " is not a valid RootStatus")
  | lockFree => some "release unlocked lock"
  | malformed reason => some reason.message
  | depthTooSmall => some "depth must be >= 1"
  | negativeTimeout => some "timeout value must be positive"
  | timeoutTooLarge => some "timestamp too large to convert to C _PyTime_t"
  | timeGone => some "'NoneType' object has no attribute 'isoformat'"

def ofTree : Tree.Refusal → Failure
  | .full depth => refused (.treeFull depth)
  | .missingSlot writing => missingSlot writing
  | .outside index => noSuchLeaf index
  | .tooShallow => depthTooSmall

end Failure

end CommitmentLog
