import BukuKas.Number.Numeral
import BukuKas.Sender
import BukuKas.Text.Case

/-!
# Settings

The settings of the service are read from named texts; names are compared without regard to case,
unknown names are passed over, and what is not set has a standard value.  Numbers and truth values
that cannot be read, and a threshold of the alert outside of the half-open range from 0 to 1, are
reported together, in the order of the settings.

## Main results

* `threshold_of_read` : a threshold that was read lies above 0 and is at most 1.
-/

namespace BukuKas

open Number (Binary64 decimal? takeSign)

/-- The settings of the service. -/
structure Settings where
  appName : String := "budget-tracker-bot"
  databaseUrl : String := "postgresql+asyncpg://postgres:postgres@db:5432/budget_tracker"
  timezone : String := "Asia/Jakarta"
  currency : String := "IDR"
  /-- The phones that are let in, with commas between them.  Nothing lets everybody in. -/
  allowedPhones : String := ""
  gatewayUrl : String := "http://localhost:3000"
  gatewayTimeout : Binary64 := 15
  /-- The share of a budget from which on its user is warned. -/
  alertThreshold : Binary64 := .ofRatio 8 10
  runMigrations : Bool := true

namespace Settings

/-- What is wrong with a setting. -/
inductive Problem where
  /-- It is no text. -/
  | noText
  /-- It is neither a number nor a text. -/
  | wrongKind
  /-- It is a text that writes no number. -/
  | noNumber
  /-- It is a text that names no truth value. -/
  | noTruthValue
  /-- It is a threshold that is no share above nothing and at most all. -/
  | thresholdOutOfRange
  deriving DecidableEq, Repr

/-! ## Numbers and truth values -/

/-- A number without its sign: a decimal, or one of the words for what is not finite. -/
def unsigned? (cs : List Char) : Option Binary64 :=
  let word := cs.map Char.toLower
  if word == "inf".toList || word == "infinity".toList then some (.infinite false)
  else if word == "nan".toList then some .nan
  else decimal? cs

/-- A number with an optional sign. -/
def signed? (cs : List Char) : Option Binary64 :=
  let (negative, rest) := takeSign cs
  (unsigned? rest).map fun x => if negative then -x else x

/-- The text without its low lines, when it has some and each stands alone between other
characters. -/
def withoutLines? (cs : List Char) : Option (List Char) :=
  let doubled := (cs.zip (cs.drop 1)).any fun pair => pair.1 == '_' && pair.2 == '_'
  if doubled || !cs.contains '_' || cs.head? == some '_' || cs.getLast? == some '_' then none
  else some (cs.filter (· != '_'))

/-- The number that a text writes.  White space may stand around a number, or low lines within it,
but not both. -/
def number? (s : String) : Option Binary64 :=
  (signed? (Text.trimWhiteSpace s.toList)).or ((withoutLines? s.toList).bind signed?)

/-- The truth value that a word names. -/
def truth? (s : String) : Option Bool :=
  let word := String.ofList (s.toList.map Char.toLower)
  if ["1", "on", "t", "true", "y", "yes"].contains word then some true
  else if ["0", "off", "f", "false", "n", "no"].contains word then some false
  else none

/-! ## Reading all settings -/

/-- The threshold, when it is a share above nothing and at most all. -/
def threshold? (x : Binary64) : Option Binary64 :=
  if 0 < x && x ≤ 1 then some x else none

/-- The text that is set under a name, the last one when there are several. -/
def lookup (given : List (String × String)) (name : String) : Option String :=
  let lowered (s : String) : String := String.ofList (Text.lower s.toList)
  (given.reverse.find? fun v => lowered v.1 == name).map Prod.snd

/-- A setting that is a number. -/
def readNumber (standard : Binary64) : Option String → Except Problem Binary64
  | none => .ok standard
  | some s =>
    match number? s with
    | some x => .ok x
    | none => .error .noNumber

/-- The setting of the threshold. -/
def readThreshold (standard : Binary64) (text : Option String) : Except Problem Binary64 :=
  match readNumber standard text with
  | .error problem => .error problem
  | .ok x =>
    match threshold? x with
    | some x => .ok x
    | none => .error .thresholdOutOfRange

/-- A setting that is a truth value. -/
def readTruth (standard : Bool) : Option String → Except Problem Bool
  | none => .ok standard
  | some s =>
    match truth? s with
    | some b => .ok b
    | none => .error .noTruthValue

/-- The problem of a setting under its name. -/
def problemOf {α : Type} (name : String) : Except Problem α → List (String × Problem)
  | .ok _ => []
  | .error problem => [(name, problem)]

/-- The settings that the texts give, or all that is wrong with them. -/
def read (given : List (String × String)) : Except (List (String × Problem)) Settings :=
  let standard : Settings := {}
  let text (name : String) (other : String) : String := (lookup given name).getD other
  let timeout := readNumber standard.gatewayTimeout (lookup given "gateway_timeout")
  let threshold := readThreshold standard.alertThreshold (lookup given "budget_alert_threshold")
  let migrations := readTruth standard.runMigrations (lookup given "auto_run_migrations")
  match timeout, threshold, migrations with
  | .ok timeout, .ok threshold, .ok migrations =>
    .ok {
      appName := text "app_name" standard.appName
      databaseUrl := text "database_url" standard.databaseUrl
      timezone := text "timezone" standard.timezone
      currency := text "currency" standard.currency
      allowedPhones := text "allowed_phones" standard.allowedPhones
      gatewayUrl := text "wa_gateway_url" standard.gatewayUrl
      gatewayTimeout := timeout
      alertThreshold := threshold
      runMigrations := migrations }
  | _, _, _ =>
    .error (problemOf "gateway_timeout" timeout ++ problemOf "budget_alert_threshold" threshold ++
      problemOf "auto_run_migrations" migrations)

theorem threshold_of_read {standard x : Binary64} {text : Option String}
    (h : readThreshold standard text = .ok x) : 0 < x ∧ x ≤ 1 := by
  unfold readThreshold at h
  split at h
  · cases h
  · split at h
    · rename_i y hy
      injection h with h
      subst h
      unfold threshold? at hy
      split at hy
      · rename_i hr
        injection hy with hy
        simp only [Bool.and_eq_true, decide_eq_true_eq] at hr
        exact hy ▸ hr
      · cases hy
    · cases h

/-! ## Addresses -/

/-- Every place of the first text in the third, taken from left to right, becomes the second. -/
def replaceAll (old new : List Char) : (skip : Nat) → List Char → List Char
  | _, [] => []
  | skip + 1, _ :: cs => replaceAll old new skip cs
  | 0, c :: cs =>
    if old.isPrefixOf (c :: cs) then new ++ replaceAll old new (old.length - 1) cs
    else c :: replaceAll old new 0 cs

/-- The address of the database for the driver that migrations use. -/
def migrationUrl (s : Settings) : String :=
  String.ofList (replaceAll "+asyncpg".toList "+psycopg".toList 0 s.databaseUrl.toList)

/-- Whether the settings let the phone in. -/
def admits (s : Settings) (phone : String) : Bool :=
  Sender.admits s.allowedPhones phone

end Settings

end BukuKas
