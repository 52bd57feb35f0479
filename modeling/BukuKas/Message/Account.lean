import BukuKas.Message.Basic

/-!
# Logging in and out

A phone logs in with the address of a user.  A login as the same user keeps the alert, the reminders
and the last recording of the chat that was there; a login as another user begins anew.

## Main results

* `greeted_of_same`, `greeted_of_other` : what a login keeps.
-/

namespace BukuKas.Account

/-- The command that logs in. -/
def loginCommand : String := "!login"

/-- The command that logs out. -/
def logoutCommand : String := "!logout"

/-- Whether a text in lower case logs in: the command alone, or the command and a space. -/
def isLogin (lowered : List Char) : Bool :=
  lowered == loginCommand.toList || (loginCommand ++ " ").toList.isPrefixOf lowered

/-- The address in the text of a login. -/
def addressIn (text : List Char) : List Char :=
  Text.lower (Text.trim (text.drop loginCommand.length))

/-- Whether a text can be an address. -/
def isAddress (address : List Char) : Bool := !address.isEmpty && address.contains '@'

/-- The name by which a user is greeted: their own, or what their address has before the at sign. -/
def greetingName (user : User) : String :=
  match user.name with
  | some name => if name.isEmpty then nameInAddress else name
  | none => nameInAddress
where
  /-- What the address has before the at sign. -/
  nameInAddress : String := String.ofList (user.email.toList.takeWhile (· != '@'))

/-- The chat of a user who logs in where another chat may have been. -/
def greeted (user : User) (previous : Option Chat) : Chat :=
  let fresh : Chat := { user := user.id, email := user.email, name := greetingName user }
  match previous with
  | some chat => if chat.user = user.id then fresh.restore chat else fresh
  | none => fresh

theorem greeted_of_same {user : User} {chat : Chat} (h : chat.user = user.id) :
    (greeted user (some chat)).alert = chat.alert ∧ (greeted user (some chat)).last = chat.last ∧
      (greeted user (some chat)).reminders = chat.reminders := by
  simp [greeted, h, Chat.restore]

theorem greeted_of_other {user : User} {chat : Chat} (h : chat.user ≠ user.id) :
    greeted user (some chat) = greeted user none := by
  simp [greeted, h]

@[simp] theorem user_greeted (user : User) (previous : Option Chat) :
    (greeted user previous).user = user.id := by
  unfold greeted
  cases previous with
  | none => rfl
  | some chat => dsimp only; split <;> rfl

/-- The reply to a login without an address. -/
def usage : String := "❌ Format: !login <email>\n\nContoh: !login budi@gmail.com"

/-- The reply to a login while users cannot be looked up. -/
def lookupFailure : String := "❌ Gagal mengakses data user. Coba lagi nanti."

/-- The reply to a login with an address that nobody has. -/
def unknownAddress (address : String) : String := "❌ Email \"" ++ address ++ "\" tidak terdaftar."

/-- The greeting of a user who has logged in. -/
def greeting (name : String) : String :=
  Reply.joinLines [
    "✅ *Login berhasil!*",
    "",
    "Halo " ++ name ++ "! 👋",
    "",
    "Silakan kirim transaksi:",
    "• \"Makan siang 25k\"",
    "• \"Isi bensin 50rb\"",
    "• \"Sisa budget?\"",
    "",
    "Ketik \x60!help\x60 untuk bantuan.",
    "Ketik \x60!logout\x60 untuk keluar."]

/-- The work of a login. -/
def login (text : List Char) : Work Response :=
  let address := addressIn text
  if isAddress address then do
    let looked ← (Work.query (.findUser (String.ofList address))).attempt
    match looked with
    | .error _ =>
      let _ ← (Work.query .rollback).attempt
      return .failed lookupFailure
    | .ok found =>
      match (found : Option User) with
      | none => return .ofText (unknownAddress (String.ofList address))
      | some user =>
        let previous ← Work.chat?
        let chat := greeted user previous
        Work.enter chat (return .ofText (greeting chat.name))
  else return .ofText usage

/-- The work of a logout. -/
def logout : Work Response := do
  match ← Work.chat? with
  | none => return .ofText "ℹ️ Kamu belum login."
  | some _ => Work.leave (return .ofText "👋 Logout berhasil! Sampai jumpa.")

end BukuKas.Account
