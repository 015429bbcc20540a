import OtcDesk.Proofs.Json.Bounds
import OtcDesk.Proofs.Session.Content

namespace OtcDesk

theorem Role.recognize?_name (role : Role) : Role.recognize? (some role.name) = some role := by
  cases role <;> rfl

namespace SessionRecord

theorem plain_toJson {record : SessionRecord} {levels : Nat} (writable : record.IsWritable) :
    record.toJson.Plain (levels + 1) := by
  have distinct : ["accessToken", "walletAddress", "role", "expiresAt"].Nodup := by decide
  refine .obj _ distinct ?_
  intro field member
  simp only [List.mem_cons, List.not_mem_nil, or_false] at member
  rcases member with same | same | same | same
  · rw [same]
    exact .str _
  · rw [same]
    exact .str _
  · rw [same]
    exact .str _
  · rw [same]
    exact .int _ writable

/-- The fields of a record are found under their names. -/
theorem field_toJson (record : SessionRecord) :
    field record.toJson "role" = .ok (.str record.role) ∧
    field record.toJson "accessToken" = .ok (.str record.accessToken) ∧
    field record.toJson "walletAddress" = .ok (.str record.walletAddress) ∧
    field record.toJson "expiresAt" = .ok (.int record.expiresAt) := by
  simp [field, toJson, Table.get?]

/-- The session in the value of a record whose role is known. -/
theorem session_toJson (record : SessionRecord) {role : Role}
    (known : Role.recognize? (some record.role) = some role) :
    session record.toJson =
      .ok (some ⟨record.accessToken, record.walletAddress, role, record.expiresAt⟩) := by
  obtain ⟨roleField, tokenField, walletField, expiryField⟩ := field_toJson record
  simp only [session, roleField, tokenField, walletField, expiryField, roleOf, known, bind,
    Except.bind, Json.toInt, Json.text]
  rfl

/-- The record of a session is read back if it can be written. -/
theorem parse_text {opened : WalletSession} (writable : opened.record.IsWritable) :
    parse opened.record.text = .ok (some opened) := by
  have read := Json.read?_eq_some.mp
    (Json.read?_write Json.Style.stored_regular (plain_toJson writable))
  rw [parse, text, read]
  exact session_toJson opened.record (Role.recognize?_name opened.role)

theorem text_nonempty (record : SessionRecord) : record.text.isEmpty = false := by
  have written : record.text = String.ofList (Json.writeList .stored record.toJson) := rfl
  rw [written, toJson, Json.writeList]
  simp

/-- A session that a text records can be written again. -/
theorem TextRecords.isWritable {text : String} {session : WalletSession}
    (records : TextRecords text session) : session.record.IsWritable := by
  obtain ⟨_, read, _, _, _, _, expiry, rfl, _, _, _, _, _, _, here, whole⟩ := records
  exact Json.isBounded_of_readList read here _ whole

end SessionRecord

namespace SessionStore

/-- A store holds a session that can be written, or none. -/
def Holds (store : SessionStore) (session : Option WalletSession) : Prop :=
  (∀ held ∈ session, held.record.IsWritable) ∧
  ∃ slots, store.slots = some slots ∧
    (slots.get store.key).value = .ok (session.map fun session => session.record.text)

variable {store : SessionStore} {held : Option WalletSession}

theorem holds_none {slots : Slots} (kept : store.slots = some slots)
    (known : (slots.get store.key).value = .ok none) : store.Holds none := ⟨nofun, slots, kept, known⟩

theorem holds_some {slots : Slots} {session : WalletSession} (kept : store.slots = some slots)
    (known : (slots.get store.key).value = .ok (some session.record.text))
    (writable : session.record.IsWritable) : store.Holds (some session) := by
  refine ⟨?_, slots, kept, known⟩
  rintro _ ⟨⟩
  exact writable

/-- The session that a store holds is loaded. -/
theorem Holds.load (holds : store.Holds held) : store.load.value = .ok held := by
  obtain ⟨writable, slots, kept, known⟩ := holds
  rw [load_of_get kept known]
  cases held with
  | none => rfl
  | some session =>
      simp only [Option.map_some, sessionIn, SessionRecord.text_nonempty,
        SessionRecord.parse_text (writable session rfl)]
      rfl

/-- The slot of a store can be read, if it has slots. -/
def IsReadable (store : SessionStore) : Prop :=
  ∀ slots, store.slots = some slots → ∃ text, (slots.get store.key).value = .ok text

theorem isReadable_of_get {slots : Slots} {content : Option String}
    (kept : store.slots = some slots) (known : (slots.get store.key).value = .ok content) :
    store.IsReadable := by
  intro other same
  rw [kept] at same
  cases same
  exact ⟨content, known⟩

/-- A store whose session could be loaded, or found absent, can be read. -/
theorem isReadable_of_load (loaded : store.load.value = .ok held) : store.IsReadable := by
  intro slots kept
  rw [SessionStore.load, kept] at loaded
  dsimp only at loaded
  cases known : (slots.get store.key).value with
  | error fault =>
      rw [known] at loaded
      cases loaded
  | ok text => exact ⟨text, rfl⟩

/-- A store that loads a session has slots. -/
theorem slots_ne_none_of_load {session : WalletSession}
    (loaded : store.load.value = .ok (some session)) : store.slots ≠ none := by
  intro absent
  rw [load, absent] at loaded
  cases loaded

/-- A session that was loaded can be written again. -/
theorem isWritable_of_load {session : WalletSession}
    (loaded : store.load.value = .ok (some session)) : session.record.IsWritable := by
  cases kept : store.slots with
  | none => exact absurd kept (slots_ne_none_of_load loaded)
  | some slots =>
      obtain ⟨text, known⟩ := isReadable_of_load loaded slots kept
      rw [load_of_get kept known] at loaded
      cases text with
      | none => cases loaded
      | some text => exact (sessionIn_eq_some_iff.mp loaded).isWritable

/-- A store takes a session: it has no slots, or the session can be written. -/
def Takes (store : SessionStore) (session : WalletSession) : Prop :=
  store.slots = none ∨ session.record.IsWritable

theorem saveRecord_of_isWritable {slots : Slots} (kept : store.slots = some slots)
    {record : SessionRecord} (writable : record.IsWritable) :
    store.saveRecord record = store.withSlots (slots.set store.key record.text) := by
  rw [saveRecord, kept, SessionRecord.write, if_pos writable]

/-- A session that a store does not take is not saved. -/
theorem save_of_not_takes {session : WalletSession} (refuses : ¬ store.Takes session) :
    store.save session = { value := .error SessionRecord.unwritable } := by
  obtain ⟨present, unwritable⟩ := not_or.mp refuses
  obtain ⟨slots, kept⟩ := Option.ne_none_iff_exists'.mp present
  rw [save, saveRecord, kept, SessionRecord.write, if_neg unwritable]

theorem takes_of_save {written : SessionStore} {session : WalletSession}
    (saved : (store.save session).value = .ok written) : store.Takes session := by
  apply Classical.byContradiction
  intro refuses
  rw [save_of_not_takes refuses] at saved
  cases saved

/-- A store that can be read and takes a session holds it once it is saved. -/
theorem IsReadable.save (readable : store.IsReadable) {session : WalletSession}
    (takes : store.Takes session) :
    ∃ written, (store.save session).value = .ok written ∧
      (store.slots ≠ none → written.Holds (some session)) := by
  cases kept : store.slots with
  | none =>
      refine ⟨store, ?_, fun present => absurd rfl present⟩
      rw [SessionStore.save, saveRecord, kept]
  | some slots =>
      have writable := takes.resolve_left (by simp [kept])
      obtain ⟨text, known⟩ := readable slots kept
      obtain ⟨after, set, read⟩ := Slots.set_then_get known session.record.text
      refine ⟨{ store with slots := some after }, ?_, fun _ => holds_some rfl read writable⟩
      rw [SessionStore.save, saveRecord_of_isWritable kept writable, withSlots, set]
      rfl

/-- A session that was saved is saved again without any change. -/
theorem save_again {written : SessionStore} {session : WalletSession}
    (saved : (store.save session).value = .ok written) :
    (written.save session).value = .ok written := by
  cases kept : store.slots with
  | none =>
      rw [save, saveRecord, kept] at saved
      cases saved
      rw [save, saveRecord, kept]
  | some slots =>
      have writable := (takes_of_save saved).resolve_left (by simp [kept])
      rw [save, saveRecord_of_isWritable kept writable, withSlots] at saved
      obtain ⟨after, put, same⟩ := map_eq_ok.mp saved
      cases same
      rw [save, saveRecord_of_isWritable rfl writable, withSlots, Slots.set_again put]
      rfl

/-- A session that was loaded is saved as what is loaded again, and saving it once more changes nothing. -/
theorem save_loaded {session : WalletSession} (loaded : store.load.value = .ok (some session)) :
    ∃ written, (store.save session).value = .ok written ∧
      written.load.value = .ok (some session) ∧ (written.save session).value = .ok written := by
  obtain ⟨written, saved, holds⟩ :=
    (isReadable_of_load loaded).save (.inr (isWritable_of_load loaded))
  exact ⟨written, saved, (holds (slots_ne_none_of_load loaded)).load, save_again saved⟩

/-- A store that can be read can be cleared, and then holds nothing, if it has slots. -/
theorem IsReadable.clear (readable : store.IsReadable) :
    ∃ written, store.clear.value = .ok written ∧
      (store.slots ≠ none → written.Holds none) := by
  cases kept : store.slots with
  | none =>
      refine ⟨store, ?_, fun present => absurd rfl present⟩
      rw [SessionStore.clear, kept]
  | some slots =>
      obtain ⟨text, known⟩ := readable slots kept
      obtain ⟨after, deleted, read⟩ := Slots.delete_then_get known
      refine ⟨{ store with slots := some after }, ?_, fun _ => holds_none rfl read⟩
      rw [SessionStore.clear, kept]
      dsimp only
      rw [withSlots, deleted]
      rfl

theorem Holds.isReadable (holds : store.Holds held) : store.IsReadable := by
  obtain ⟨_, slots, kept, known⟩ := holds
  exact isReadable_of_get kept known

theorem Holds.slots_ne_none (holds : store.Holds held) : store.slots ≠ none := by
  obtain ⟨_, slots, kept, _⟩ := holds
  simp [kept]

/-- A session that was saved is held. -/
theorem Holds.save (holds : store.Holds held) {session : WalletSession}
    (writable : session.record.IsWritable) :
    ∃ written, (store.save session).value = .ok written ∧ written.Holds (some session) := by
  obtain ⟨written, saved, kept⟩ := holds.isReadable.save (.inr writable)
  exact ⟨written, saved, kept holds.slots_ne_none⟩

/-- A store that was cleared holds nothing. -/
theorem Holds.clear (holds : store.Holds held) :
    ∃ written, store.clear.value = .ok written ∧ written.Holds none := by
  obtain ⟨written, cleared, empty⟩ := holds.isReadable.clear
  exact ⟨written, cleared, empty holds.slots_ne_none⟩

/-- A store is empty: there is nothing in its slot, or it has no slots at all. -/
def IsEmpty (store : SessionStore) : Prop := store.slots = none ∨ store.Holds none

/-- An empty store loads no session. -/
theorem IsEmpty.load (empty : store.IsEmpty) : store.load.value = .ok none := by
  rcases empty with absent | holds
  · rw [SessionStore.load, absent]
  · exact holds.load

/-- A store that could be cleared is empty. -/
theorem isEmpty_of_clear {emptied : SessionStore} (cleared : store.clear.value = .ok emptied) :
    emptied.IsEmpty := by
  rw [SessionStore.clear] at cleared
  cases kept : store.slots with
  | none =>
      rw [kept] at cleared
      cases cleared
      exact .inl kept
  | some slots =>
      rw [kept] at cleared
      dsimp only [withSlots] at cleared
      cases deleted : (slots.delete store.key).value with
      | error fault =>
          rw [deleted] at cleared
          cases cleared
      | ok after =>
          obtain ⟨text, known⟩ := Slots.exists_get_of_delete deleted
          obtain ⟨written, again, read⟩ := Slots.delete_then_get known
          rw [deleted] at again cleared
          cases again
          cases cleared
          exact .inr (holds_none rfl read)

/-- An empty store can be cleared, and stays empty. -/
theorem IsEmpty.clear (empty : store.IsEmpty) :
    ∃ written, store.clear.value = .ok written ∧ written.IsEmpty := by
  rcases empty with absent | holds
  · refine ⟨store, ?_, .inl absent⟩
    rw [SessionStore.clear, absent]
  · obtain ⟨written, cleared, held⟩ := holds.clear
    exact ⟨written, cleared, .inr held⟩

/-- A store without slots is one that was cleared without slots. -/
theorem slots_of_clear {emptied : SessionStore} (cleared : store.clear.value = .ok emptied)
    (absent : emptied.slots = none) : store.slots = none := by
  rw [SessionStore.clear] at cleared
  cases kept : store.slots with
  | none => rfl
  | some slots =>
      rw [kept] at cleared
      dsimp only [withSlots] at cleared
      cases deleted : (slots.delete store.key).value with
      | error fault =>
          rw [deleted] at cleared
          cases cleared
      | ok after =>
          rw [deleted] at cleared
          cases cleared
          cases absent

theorem IsEmpty.isReadable (empty : store.IsEmpty) : store.IsReadable :=
  isReadable_of_load empty.load

/-- A session can be saved in an empty store that takes it, which then holds it, if it has slots. -/
theorem IsEmpty.save (empty : store.IsEmpty) {session : WalletSession}
    (takes : store.Takes session) :
    ∃ written, (store.save session).value = .ok written ∧
      (store.slots ≠ none → written.Holds (some session)) :=
  empty.isReadable.save takes

end SessionStore

end OtcDesk
