/-!
# What can go wrong

Every cause for which a reading, a computation, a store or a gateway refuses its work.  A cause
carries what a report about it needs, and no wording.
-/

namespace BukuKas

/-- The work that a message can ask of the ledger. -/
inductive Duty where
  | findUser
  | insert
  | delete
  | sumExpenses
  | listTransactions
  | listToday
  | activePeriod
  | categoryTotals
  | dailyTotals
  | expenseAmounts
  | commit
  | rollback
  deriving DecidableEq, Repr

/-- What an answer needs of a chat. -/
inductive ChatPart where
  | user
  | alert
  | last
  | reminders
  deriving DecidableEq, Repr

/-- What is wrong with an address. -/
inductive AddressFlaw where
  /-- It has too many characters. -/
  | tooLong
  /-- It holds a control character, behind so many other characters. -/
  | control (c : Char) (place : Nat)
  /-- What should be the number of a socket is no number. -/
  | badSocket (text : String)
  /-- What looks like a host of four numbers is none. -/
  | badHost4 (text : String)
  /-- What looks like a host of eight numbers is none. -/
  | badHost6 (text : String)
  /-- The name of a host has a part that no name can have. -/
  | badHostName (text : String)
  /-- An address without a host begins with two slashes behind what could be one. -/
  | doubleSlash
  /-- An address without a host begins with a colon. -/
  | leadingColon
  deriving DecidableEq, Repr

/-- A cause of failure. -/
inductive Fault where
  /-- The numeral of a whole number has too many digits. -/
  | numeralTooLong (digits : Nat)
  /-- A unit is recognised loosely but is none of the known units. -/
  | unknownUnit (spelling : String)
  /-- A whole number is asked of what is not a number. -/
  | notANumber
  /-- A whole number is asked of an infinity. -/
  | infiniteNumber
  /-- A date lies outside the years 1 to 9999. -/
  | dateOutOfRange
  /-- There is no time zone of that name. -/
  | unknownZone (name : String)
  /-- The name of a zone is an absolute path. -/
  | absoluteZone (name : String)
  /-- The name of a zone is a path that is not in normal form. -/
  | unnormalizedZone (name : String)
  /-- The name of a zone is a path that leads out of the place of the zones. -/
  | outsideZone (name : String)
  /-- A budget to be graded is not positive. -/
  | budgetNotPositive
  /-- A period to be graded has no day. -/
  | daysNotPositive
  /-- Something is divided by zero. -/
  | divisionByZero
  /-- The quotient of two whole numbers is too large for a double. -/
  | quotientTooLarge
  /-- An answer needs something of a chat where there is none. -/
  | noChat (part : ChatPart)
  /-- The ledger refuses a row whose amount is not positive. -/
  | rowRefused
  /-- The ledger does not do its work. -/
  | outOfOrder (duty : Duty)
  /-- A text cannot stand in a sheet. -/
  | illegalCellText (text : String)
  /-- There is no job of that name. -/
  | unknownJob (name : String)
  /-- A number that is not finite would have to stand in an answer. -/
  | nonFiniteAnswer
  /-- An address cannot be used. -/
  | badAddress (flaw : AddressFlaw)
  /-- The gateway answers with a status that is no success. -/
  | gatewayStatus (status : Nat)
  /-- The gateway cannot be reached. -/
  | gatewayUnreachable
  deriving DecidableEq, Repr

end BukuKas
