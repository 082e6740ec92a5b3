import CommitmentLog.Hex
import CommitmentLog.Number.Extended
import CommitmentLog.Text.Blank
import CommitmentLog.Validation.Integer

/-!
# Settings

The settings of a service, read from the variables of its environment.  Every setting has a variable and a
default.  The case of a variable's name does not matter, and of two names that differ only in case the last
one counts.
-/

set_option autoImplicit false

namespace CommitmentLog

structure Settings where
  databaseUrl : String := "sqlite:///./rootledger.db"
  treeDepth : Int := 21
  initialLeafText : String := "1c4823575d154474ee3e5ac838d002456a815181437afd14f126da58a9912bbe"
  /-- The bound for waiting and for one append, in seconds. -/
  appendTimeout : Extended := .finite { significand := 10 }
  /-- The secret of the notifier that confirms roots; without one nothing is confirmed. -/
  miningToken : Option String := none
  /-- The origins that browsers may call from, separated by commas. -/
  allowedOrigins : String := "*"
  logLevel : String := "INFO"
  /-- The most identities that one page may hold. -/
  maxExportLimit : Int := 5000
  deriving DecidableEq, Repr

namespace Settings

def allowedOriginsList (settings : Settings) : List String :=
  let text := Text.trim Text.isBlank settings.allowedOrigins.toList
  if text = ['*'] ∨ text = [] then ["*"]
  else
    (((Text.splitAt ',' text).map (Text.trim Text.isBlank)).filter fun part => !part.isEmpty).map
      String.ofList

def initialLeaf (settings : Settings) : Except Hex.Malformed Bytes :=
  Hex.decode (Hex.dropLowerMarker settings.initialLeafText.toList)

/-! ## Reading the environment -/

abbrev Environment : Type :=
  List (String × String)

/-- A character of a name without its case.  The sign for kelvin is a capital k too. -/
def withoutCase (character : Char) : Char :=
  if character = '\u212a' then 'k' else character.toLower

def sameName (first second : String) : Bool :=
  first.toList.map withoutCase = second.toList.map withoutCase

def valueOf? (environment : Environment) (name : String) : Option String :=
  (environment.reverse.find? fun entry => sameName entry.1 name).map (·.2)

def integer (text : String) : Except IssueKind Int :=
  IssueKind.integer text.toList

def number (text : String) : Except IssueKind Extended :=
  match Number.spelled? text.toList with
  | some spelled => .ok (.ofSpelled spelled)
  | none => .error .noNumber

def setting {α : Type} (environment : Environment) (name location : String)
    (read : String → Except IssueKind α) (default : α) : Except Issue α :=
  match valueOf? environment name with
  | none => .ok default
  | some text => (read text).mapError fun kind => .inField kind location

def textSetting (environment : Environment) (name default : String) : String :=
  (valueOf? environment name).getD default

def ofEnvironment (environment : Environment) : Except (List Issue) Settings :=
  let defaults : Settings := {}
  let depth := setting environment "ROOTLEDGER_TREE_DEPTH" "ROOTLEDGER_TREE_DEPTH" integer
    defaults.treeDepth
  let timeout := setting environment "ROOTLEDGER_APPEND_TIMEOUT_S" "ROOTLEDGER_APPEND_TIMEOUT_S" number
    defaults.appendTimeout
  let limit := setting environment "MAX_EXPORT_LIMIT" "max_export_limit" integer
    defaults.maxExportLimit
  match depth, timeout, limit with
  | .ok treeDepth, .ok appendTimeout, .ok maxExportLimit =>
      .ok {
        treeDepth, appendTimeout, maxExportLimit
        databaseUrl := textSetting environment "DATABASE_URL" defaults.databaseUrl
        initialLeafText := textSetting environment "ROOTLEDGER_INITIAL_LEAF" defaults.initialLeafText
        miningToken := valueOf? environment "ROOTLEDGER_MINING_TOKEN"
        allowedOrigins := textSetting environment "ROOTLEDGER_ALLOWED_ORIGINS" defaults.allowedOrigins
        logLevel := textSetting environment "ROOTLEDGER_LOG_LEVEL" defaults.logLevel }
  | depth, timeout, limit => .error (Issue.ofResult depth ++ Issue.ofResult timeout ++ Issue.ofResult limit)

end Settings

end CommitmentLog
