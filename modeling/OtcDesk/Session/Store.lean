import OtcDesk.Json.Field
import OtcDesk.Record.Login
import OtcDesk.Session.Slots

namespace OtcDesk

/-- A session as it is stored, where the role may be any text. -/
structure SessionRecord where
  accessToken : String
  walletAddress : String
  role : String
  expiresAt : Int
  deriving DecidableEq, Repr

/-- The stored form of a session. -/
def WalletSession.record (session : WalletSession) : SessionRecord :=
  ⟨session.accessToken, session.walletAddress, session.role.name, session.expiresAt⟩

/-- A stored session as a JSON value. -/
def SessionRecord.toJson (record : SessionRecord) : Json :=
  .obj [
    ("accessToken", .str record.accessToken),
    ("walletAddress", .str record.walletAddress),
    ("role", .str record.role),
    ("expiresAt", .int record.expiresAt)]

/-- The text of a stored session. -/
def SessionRecord.text (record : SessionRecord) : String := record.toJson.write .stored

namespace SessionRecord

/-- The expiry of a record can be converted into a text. -/
def IsWritable (record : SessionRecord) : Prop := Text.isConvertible record.expiresAt = true

instance (record : SessionRecord) : Decidable record.IsWritable :=
  inferInstanceAs (Decidable (_ = true))

/-- The fault of a record whose expiry has too many digits. -/
def unwritable : Fault := ⟨.badValue, "the expiry has too many digits"⟩

/-- The text of a stored session, unless its expiry has too many digits. -/
def write (record : SessionRecord) : Except Fault String :=
  if record.IsWritable then .ok record.text else .error unwritable

/-- A field that must be there. -/
def field (value : Json) (key : String) : Except Fault Json :=
  match value with
  | .obj fields =>
    match Table.get? key fields with
    | some value => .ok value
    | none => .error ⟨.missing, key⟩
  | _ => .error ⟨.wrongShape, "the record is not an object"⟩

/-- The role in a field, where what does not count as given names none. -/
def roleOf (value : Json) : Except Fault (Option Role) :=
  match value with
  | .str name => .ok (Role.recognize? (some name))
  | other =>
    if other.isGiven then .error ⟨.notAnObject, "the role is not a text"⟩ else .ok none

/-- The session in a stored value; a record of no known role holds none. -/
def session (value : Json) : Except Fault (Option WalletSession) := do
  match ← roleOf (← field value "role") with
  | none => return none
  | some role =>
    let accessToken ← field value "accessToken"
    let walletAddress ← field value "walletAddress"
    let expiresAt ← (← field value "expiresAt").toInt
    return some ⟨accessToken.text, walletAddress.text, role, expiresAt⟩

/-- The session in a stored text. -/
def parse (text : String) : Except Fault (Option WalletSession) :=
  match Json.read text with
  | .ok value => session value
  | .error fault => .error fault.fault

end SessionRecord

/-- The slot of the session, if anything is kept at all. -/
structure SessionStore where
  slots : Option Slots
  key : String
  deriving DecidableEq, Repr

namespace SessionStore

/-- The slot that sessions are kept in. -/
def defaultKey : String := "zkclear.wallet.session"

/-- The session in the text of a slot, where a malformed record is remarked upon. -/
def sessionIn (key : String) (text : Option String) : Noted (Except Fault (Option WalletSession)) :=
  match text with
  | none => { value := .ok none }
  | some text =>
    if text.isEmpty then { value := .ok none }
    else
      match SessionRecord.parse text with
      | .ok session => { value := .ok session }
      | .error fault =>
        if fault.isMalformed && fault.cause != .notAnObject then
          { value := .ok none, remarks := [.malformedRecord key] }
        else { value := .error fault }

/-- The current session. -/
def load (store : SessionStore) : Noted (Except Fault (Option WalletSession)) :=
  match store.slots with
  | none => { value := .ok none }
  | some slots =>
    let slot := slots.get store.key
    match slot.value with
    | .error fault => { value := .error fault, remarks := slot.remarks }
    | .ok text =>
      let session := sessionIn store.key text
      { value := session.value, remarks := slot.remarks ++ session.remarks }

/-- The store with other slots. -/
def withSlots (store : SessionStore) (written : Noted (Except Fault Slots)) :
    Noted (Except Fault SessionStore) :=
  { value := written.value.map fun slots => { store with slots := some slots }
    remarks := written.remarks }

/-- The store with a record as its session. -/
def saveRecord (store : SessionStore) (record : SessionRecord) :
    Noted (Except Fault SessionStore) :=
  match store.slots, record.write with
  | none, _ => { value := .ok store }
  | some slots, .ok text => store.withSlots (slots.set store.key text)
  | some _, .error fault => { value := .error fault }

/-- The store with a session as its session. -/
def save (store : SessionStore) (session : WalletSession) : Noted (Except Fault SessionStore) :=
  store.saveRecord session.record

/-- The store without a session. -/
def clear (store : SessionStore) : Noted (Except Fault SessionStore) :=
  match store.slots with
  | none => { value := .ok store }
  | some slots => store.withSlots (slots.delete store.key)

end SessionStore

end OtcDesk
