import BukuKas.Json.Value
import BukuKas.Settings

/-!
# Settings given as values

Some settings may be given as the members of an object: the zone, the phones that are let in, and
the threshold of the alert.  Texts must be texts; the threshold may be a number, a truth value that
counts as one or zero, or a text that writes a number.  All that is wrong is reported, in the order
of the settings.

## Main results

* `ofMembers_nil` : where nothing is given the standard holds.
-/

namespace BukuKas.Settings

open Number (Binary64)

/-- A setting that is a text. -/
def givenText (members : List (String × Json)) (name standard : String) : Except Problem String :=
  match Json.field? members name with
  | none => .ok standard
  | some (.str s) => .ok s
  | some _ => .error .noText

/-- The number that a value means. -/
def numberOf : Json → Except Problem Binary64
  | .int n => .ok (.ofInt n)
  | .real x => .ok x
  | .bool b => .ok (if b then 1 else 0)
  | .str s =>
    match number? s with
    | some x => .ok x
    | none => .error .noNumber
  | _ => .error .wrongKind

/-- The setting of the threshold. -/
def givenThreshold (members : List (String × Json)) (standard : Binary64) :
    Except Problem Binary64 :=
  match Json.field? members "budget_alert_threshold" with
  | none => .ok standard
  | some v =>
    match numberOf v with
    | .error problem => .error problem
    | .ok x =>
      match threshold? x with
      | some x => .ok x
      | none => .error .thresholdOutOfRange

/-- The settings that members give, or all that is wrong with them. -/
def ofMembers (members : List (String × Json)) : Except (List (String × Problem)) Settings :=
  let standard : Settings := {}
  let timezone := givenText members "timezone" standard.timezone
  let phones := givenText members "allowed_phones" standard.allowedPhones
  let threshold := givenThreshold members standard.alertThreshold
  match timezone, phones, threshold with
  | .ok timezone, .ok phones, .ok threshold =>
    .ok { standard with timezone := timezone, allowedPhones := phones, alertThreshold := threshold }
  | _, _, _ =>
    .error (problemOf "timezone" timezone ++ problemOf "allowed_phones" phones ++
      problemOf "budget_alert_threshold" threshold)

theorem ofMembers_nil : ofMembers [] = .ok {} := by
  simp [ofMembers, givenText, givenThreshold]

end BukuKas.Settings
