import OtcDesk.Proofs.Record.Reading
import OtcDesk.Proofs.Session.Slots
import OtcDesk.Session.Store

namespace OtcDesk

namespace SessionRecord

open Json

/-- A stored value breaks the loading by a role that is no text or by an infinite expiry. -/
def Breaks (value : Json) : Prop :=
  ∃ fields, value = .obj fields ∧
    ((∃ role, Table.get? "role" fields = some role ∧ role.isGiven = true ∧
        ∀ name, role ≠ .str name) ∨
      ∃ name role token wallet, Table.get? "role" fields = some (.str name) ∧
        Role.recognize? (some name) = some role ∧
        Table.get? "accessToken" fields = some token ∧
        Table.get? "walletAddress" fields = some wallet ∧ InfiniteAt fields "expiresAt")

/-- How the reading of a session escapes: with a fault for which its record is not discarded. -/
abbrev BreaksIff {α : Type} (reading : Except Fault α) (condition : Prop) : Prop :=
  EscapesIff Fault.isDiscarded (·.isDiscarded = false) reading condition

/-- A field that is not there is a reason to discard a record. -/
theorem field_breaksNever (value : Json) (key : String) : BreaksIff (field value key) False := by
  unfold field
  split
  · split
    · exact .ok _
    · exact .error rfl
  · exact .error rfl

theorem field_obj_eq_ok {fields : Table Json} {key : String} {found : Json} :
    field (.obj fields) key = .ok found ↔ fields.get? key = some found := by
  simp only [field]
  cases fields.get? key with
  | none => exact iff_of_false nofun nofun
  | some present => exact ⟨fun same => congrArg some (Except.ok.inj same),
      fun same => congrArg Except.ok (Option.some.inj same)⟩

/-- A role breaks the reading if it is given and is no text. -/
theorem roleOf_breaksIff (role : Json) :
    BreaksIff (roleOf role) (role.isGiven = true ∧ ∀ name, role ≠ .str name) := by
  unfold roleOf
  split
  · rename_i name
    exact (EscapesIff.ok _).of_iff (by simp)
  · rename_i noText
    split
    · rename_i given
      exact ⟨fun _ => ⟨_, rfl, rfl⟩, fun fine => absurd ⟨given, noText⟩ fine⟩
    · rename_i absent
      exact (EscapesIff.ok none).of_iff (by simp [absent])

theorem roleOf_eq_some {value : Json} {role : Role} :
    roleOf value = .ok (some role) ↔
      ∃ name, value = .str name ∧ Role.recognize? (some name) = some role := by
  cases value with
  | str name => simp [roleOf]
  | _ =>
      simp only [roleOf]
      split <;> simp

/-- The texts of a session are there and its expiry is infinite. -/
def ExpiresNever (value : Json) : Prop :=
  Reads (field value "accessToken") ∧ Reads (field value "walletAddress") ∧
    ∃ expiry, field value "expiresAt" = .ok expiry ∧ ∃ negative, expiry = .float (.infinite negative)

/-- A session of a known role breaks the reading by its expiry. -/
theorem sessionOfRole_breaksIff (value : Json) (role : Role) :
    BreaksIff
      (do
        let accessToken ← field value "accessToken"
        let walletAddress ← field value "walletAddress"
        let expiresAt ← (← field value "expiresAt").toInt
        return some (WalletSession.mk accessToken.text walletAddress.text role expiresAt))
      (ExpiresNever value) := by
  have overflowed : ∀ fault, fault = Fault.overflow → fault.isDiscarded = false := by
    rintro _ rfl
    rfl
  apply ((field_breaksNever value "accessToken").andThen fun _ =>
    (field_breaksNever value "walletAddress").andThen fun _ =>
      (field_breaksNever value "expiresAt").bind fun expiry _ =>
        (expiry.toInt_escapesIff.mono (fun _ caught => caught) overflowed).thenOk).of_iff
  simp [ExpiresNever]

theorem expiresNever_obj {fields : Table Json} :
    ExpiresNever (.obj fields) ↔
      ∃ token wallet, fields.get? "accessToken" = some token ∧
        fields.get? "walletAddress" = some wallet ∧ InfiniteAt fields "expiresAt" := by
  simp only [ExpiresNever, Reads, field_obj_eq_ok, InfiniteAt]
  constructor
  · rintro ⟨⟨token, tokenThere⟩, ⟨wallet, walletThere⟩, _, there, negative, rfl⟩
    exact ⟨token, wallet, tokenThere, walletThere, negative, there⟩
  · rintro ⟨token, wallet, tokenThere, walletThere, negative, there⟩
    exact ⟨⟨token, tokenThere⟩, ⟨wallet, walletThere⟩, _, there, negative, rfl⟩

/-- What breaks the reading of a session, in the order in which its fields are read. -/
theorem breaks_iff (value : Json) :
    Breaks value ↔ ∃ found, field value "role" = .ok found ∧
      ((found.isGiven = true ∧ ∀ name, found ≠ .str name) ∨
        ∃ known, roleOf found = .ok known ∧ ∃ role, known = some role ∧ ExpiresNever value) := by
  cases value with
  | obj fields =>
      simp only [field_obj_eq_ok, expiresNever_obj]
      constructor
      · rintro ⟨_, ⟨⟩, ⟨role, present, wrong⟩ | ⟨name, role, token, wallet, present, known, rest⟩⟩
        · exact ⟨role, present, .inl wrong⟩
        · exact ⟨_, present, .inr ⟨_, roleOf_eq_some.mpr ⟨name, rfl, known⟩, role, rfl, token,
            wallet, rest⟩⟩
      · rintro ⟨found, present, wrong | ⟨_, known, role, rfl, token, wallet, rest⟩⟩
        · exact ⟨fields, rfl, .inl ⟨found, present, wrong⟩⟩
        · obtain ⟨name, rfl, isRole⟩ := roleOf_eq_some.mp known
          exact ⟨fields, rfl, .inr ⟨name, role, token, wallet, present, isRole, rest⟩⟩
  | _ => simp [field, Breaks]

/-- Reading a session escapes exactly if the value breaks it. -/
theorem session_breaksIff (value : Json) : BreaksIff (session value) (Breaks value) := by
  refine ((field_breaksNever value "role").bind fun found _ =>
    (roleOf_breaksIff found).bind fun known _ =>
      (?afterRole : BreaksIff _ (∃ role, known = some role ∧ ExpiresNever value))).of_iff ?same
  case afterRole =>
    cases known with
    | none => exact (EscapesIff.ok none).of_iff (by simp)
    | some role => exact (sessionOfRole_breaksIff value role).of_iff (by simp)
  case same => rw [breaks_iff, false_or]

end SessionRecord

/-- A text breaks the reading of a session: it is nested too deep, or its value breaks the reading. -/
def SessionRecord.TextBreaks (text : String) : Prop :=
  Json.read text = .error .tooDeep ∨ ∃ value, Json.read text = .ok value ∧ Breaks value

/-- Slots that are kept in a file whose bytes are no text, or a text that stops the reader. -/
def Slots.Unreadable : Slots → Prop
  | .memory _ => False
  | .file disk => ∃ bytes, disk.files.get? disk.path = some bytes ∧
      ∀ text, Utf8.decode? bytes = some text → SlotFile.StopsReader text

theorem Slots.get_error_iff (slots : Slots) (key : String) :
    (∃ fault, (slots.get key).value = .error fault) ↔ slots.Unreadable := by
  cases slots with
  | memory values =>
      apply iff_of_false
      · rintro ⟨fault, failed⟩
        cases failed
      · exact id
  | file disk =>
      simp only [get, SlotFile.get, SlotFile.readAll, Unreadable]
      cases disk.files.get? disk.path with
      | none => simp [Except.map]
      | some bytes =>
          cases decoded : Utf8.decode? bytes with
          | none => simp [Except.map, decoded]
          | some text =>
              have stops := SlotFile.slotsInText_error_iff disk.path text
              cases found : (SlotFile.slotsInText disk.path text).value with
              | error fault => simpa [Except.map, decoded, found] using stops
              | ok slots => simpa [Except.map, decoded, found] using stops

namespace SessionStore

/-- A store breaks if its file cannot be read or the text in its slot breaks the loading. -/
def Breaks (store : SessionStore) : Prop :=
  ∃ slots, store.slots = some slots ∧
    (slots.Unreadable ∨
      ∃ text, (slots.get store.key).value = .ok (some text) ∧ SessionRecord.TextBreaks text)

/-- The search for a session in a text fails as the parsing does, unless the record is discarded. -/
theorem sessionIn_eq_error {key text : String} {fault : Fault} :
    (sessionIn key (some text)).value = .error fault ↔
      text.isEmpty = false ∧ SessionRecord.parse text = .error fault ∧
        fault.isDiscarded = false := by
  unfold sessionIn
  dsimp only
  split
  · rename_i empty
    simp [empty]
  · rename_i filled
    cases parsed : SessionRecord.parse text with
    | ok session => simp
    | error found =>
        dsimp only
        split
        · rename_i discarded
          constructor
          · intro failed
            cases failed
          · rintro ⟨_, ⟨⟩, kept⟩
            exact absurd discarded (by simpa [Fault.isDiscarded] using kept)
        · rename_i kept
          constructor
          · rintro ⟨⟩
            exact ⟨by simpa using filled, rfl, by simpa [Fault.isDiscarded] using kept⟩
          · rintro ⟨_, ⟨⟩, _⟩
            rfl

/-- The search for a session in a text fails exactly if the text breaks the reading. -/
theorem sessionIn_error_iff (key text : String) :
    (∃ fault, (sessionIn key (some text)).value = .error fault) ↔
      SessionRecord.TextBreaks text := by
  simp only [sessionIn_eq_error, SessionRecord.parse]
  constructor
  · rintro ⟨fault, _, failed, kept⟩
    split at failed
    · rename_i value read
      refine .inr ⟨value, read, ?_⟩
      apply Classical.byContradiction
      intro fine
      have discarded := (SessionRecord.session_breaksIff value).tame fine fault failed
      rw [kept] at discarded
      cases discarded
    · rename_i found unread
      cases failed
      cases found with
      | malformed => cases kept
      | tooDeep => exact .inl unread
      | tooLong => cases kept
  · have filled : ∀ {found}, Json.read text = found → found ≠ .error .malformed →
        text.isEmpty = false := by
      intro found read wellFormed
      apply Bool.eq_false_iff.mpr
      intro empty
      rw [String.isEmpty_iff.mp empty] at read
      exact wellFormed read.symm
    rintro (deep | ⟨value, read, breaks⟩)
    · exact ⟨_, filled deep nofun, by rw [deep], rfl⟩
    · obtain ⟨fault, failed, kept⟩ := (SessionRecord.session_breaksIff value).escapes breaks
      refine ⟨fault, filled read nofun, ?_, kept⟩
      rw [read]
      exact failed

/-- The session of a store is loaded, or none is, unless the store breaks the loading. -/
theorem load_error_iff (store : SessionStore) :
    (∃ fault, store.load.value = .error fault) ↔ store.Breaks := by
  unfold load Breaks
  cases store.slots with
  | none => simp
  | some slots =>
      simp only [Option.some.injEq, exists_eq_left']
      cases slot : (slots.get store.key).value with
      | error fault =>
          have unreadable := (Slots.get_error_iff slots store.key).mp ⟨fault, slot⟩
          exact iff_of_true ⟨fault, rfl⟩ (.inl unreadable)
      | ok text =>
          have readable : ¬ slots.Unreadable := by
            intro unreadable
            obtain ⟨fault, failed⟩ := (Slots.get_error_iff slots store.key).mpr unreadable
            rw [slot] at failed
            cases failed
          cases text with
          | none => simp [sessionIn, readable]
          | some text => simp [sessionIn_error_iff, readable]

end SessionStore

end OtcDesk
