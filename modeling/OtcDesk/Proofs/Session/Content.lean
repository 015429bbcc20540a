import OtcDesk.Proofs.Session.Reading
import OtcDesk.Proofs.Session.Refinement

namespace OtcDesk

namespace SessionRecord

open Json

/-- A value records a session: it names a role, and has a token, a wallet and an expiry. -/
def Records (value : Json) (session : WalletSession) : Prop :=
  ∃ fields name token wallet expiry, value = .obj fields ∧
    Table.get? "role" fields = some (.str name) ∧
    Role.recognize? (some name) = some session.role ∧
    Table.get? "accessToken" fields = some token ∧ token.text = session.accessToken ∧
    Table.get? "walletAddress" fields = some wallet ∧ wallet.text = session.walletAddress ∧
    Table.get? "expiresAt" fields = some expiry ∧ expiry.toInt = .ok session.expiresAt

/-- A session is read from exactly the values that record it. -/
theorem session_eq_some_iff {value : Json} {opened : WalletSession} :
    session value = .ok (some opened) ↔ Records value opened := by
  cases value with
  | obj fields =>
      simp only [session, bind_eq_ok, field_obj_eq_ok]
      constructor
      · rintro ⟨named, roleThere, known, isRole, rest⟩
        cases known with
        | none => cases rest
        | some role =>
            obtain ⟨name, rfl, recognized⟩ := roleOf_eq_some.mp isRole
            simp only [bind_eq_ok, field_obj_eq_ok] at rest
            obtain ⟨token, tokenThere, wallet, walletThere, expiry, expiryThere, whole, reads, same⟩ :=
              rest
            cases same
            exact ⟨fields, name, token, wallet, expiry, rfl, roleThere, recognized, tokenThere, rfl,
              walletThere, rfl, expiryThere, reads⟩
      · rintro ⟨_, name, token, wallet, expiry, ⟨⟩, roleThere, recognized, tokenThere, tokenText,
          walletThere, walletText, expiryThere, reads⟩
        refine ⟨_, roleThere, _, roleOf_eq_some.mpr ⟨name, rfl, recognized⟩, ?_⟩
        simp only [bind_eq_ok, field_obj_eq_ok]
        refine ⟨token, tokenThere, wallet, walletThere, expiry, expiryThere, _, reads, ?_⟩
        rw [tokenText, walletText]
        rfl
  | _ => simp [session, field, Records, bind, Except.bind]

/-- The value in a text records a session. -/
def TextRecords (text : String) (session : WalletSession) : Prop :=
  ∃ value, Json.read text = .ok value ∧ Records value session

end SessionRecord

namespace SessionStore

open SessionRecord

/-- The search for a session in a text finds exactly what the text records. -/
theorem sessionIn_eq_some_iff {key text : String} {session : WalletSession} :
    (sessionIn key (some text)).value = .ok (some session) ↔ TextRecords text session := by
  have parsed : parse text = .ok (some session) ↔ TextRecords text session := by
    simp only [TextRecords, ← session_eq_some_iff, parse]
    cases Json.read text <;> simp
  rw [← parsed]
  unfold sessionIn
  dsimp only
  split
  · rename_i empty
    have unread : parse "" = .error Json.ReadFault.malformed.fault := rfl
    rw [String.isEmpty_iff.mp empty, unread]
    simp
  · split
    · rename_i found isOk
      rw [isOk]
    · rename_i fault failed
      rw [failed]
      split
      · simp
      · simp

/-- A store loads the session that the text in its slot records, if that does not break it. -/
structure LoadsFrom (store : SessionStore) (slot : Option String) : Prop where
  broken : (∃ text ∈ slot, TextBreaks text) → ∃ fault, store.load.value = .error fault
  loaded : (¬ ∃ text ∈ slot, TextBreaks text) → ∃ found, store.load.value = .ok found ∧
    ∀ session, found = some session ↔ ∃ text ∈ slot, TextRecords text session

variable {store : SessionStore} {slots : Slots} {slot : Option String}

theorem load_of_get (kept : store.slots = some slots)
    (known : (slots.get store.key).value = .ok slot) :
    store.load.value = (sessionIn store.key slot).value := by
  rw [load, kept]
  dsimp only
  rw [known]

/-- A store whose slot can be read loads what is in it. -/
theorem loadsFrom_of_get (kept : store.slots = some slots)
    (known : (slots.get store.key).value = .ok slot) : store.LoadsFrom slot := by
  have loads := load_of_get kept known
  cases slot with
  | none => exact ⟨by simp, fun _ => ⟨none, loads, by simp⟩⟩
  | some text =>
      have fails := sessionIn_error_iff store.key text
      rw [← loads] at fails
      constructor
      · rintro ⟨_, here, breaks⟩
        obtain rfl := Option.some.inj here
        exact fails.mpr breaks
      · intro whole
        cases loaded : store.load.value with
        | error fault => exact absurd ⟨text, rfl, fails.mp ⟨fault, loaded⟩⟩ whole
        | ok found =>
            refine ⟨found, rfl, ?_⟩
            intro session
            have finds : (sessionIn store.key (some text)).value = .ok (some session) ↔
                TextRecords text session := sessionIn_eq_some_iff
            rw [← loads, loaded, Except.ok.injEq] at finds
            simpa using finds

/-- Any content loads as a session or none, unless a record breaks or a file cannot be read. -/
theorem any_content_loads_unless_it_breaks (key : String) :
    (∀ values : Table String, LoadsFrom ⟨some (.memory values), key⟩ (values.get? key)) ∧
    ∀ (disk : SlotFile) (bytes : Bytes), disk.files.get? disk.path = some bytes →
      (Utf8.decode? bytes = none →
        ∃ fault, (SessionStore.mk (some (.file disk)) key).load.value = .error fault) ∧
      ∀ text, Utf8.decode? bytes = some text →
        (SlotFile.StopsReader text →
          ∃ fault, (SessionStore.mk (some (.file disk)) key).load.value = .error fault) ∧
        (¬ SlotFile.StopsReader text →
          LoadsFrom ⟨some (.file disk), key⟩ (SlotFile.denoted (some text) key)) := by
  refine ⟨?memory, ?file⟩
  case memory => exact fun values => loadsFrom_of_get rfl rfl
  case file =>
    intro disk bytes present
    refine ⟨fun undecodable => ?noText, fun text decoded => ⟨fun stops => ?stopped, fun whole => ?read⟩⟩
    case noText =>
      apply (load_error_iff _).mpr
      refine ⟨_, rfl, .inl ⟨bytes, present, fun text decoded => ?_⟩⟩
      rw [undecodable] at decoded
      cases decoded
    case stopped =>
      apply (load_error_iff _).mpr
      refine ⟨_, rfl, .inl ⟨bytes, present, fun other same => ?_⟩⟩
      rw [decoded] at same
      cases same
      exact stops
    case read =>
      obtain ⟨found, read, denotes⟩ := SlotFile.slotsInText_denotes whole disk.path
      have readAll : disk.readAll.value = .ok found := by
        rw [SlotFile.readAll, present]
        simp only [decoded]
        exact read
      apply loadsFrom_of_get rfl
      show (disk.get key).value = _
      rw [SlotFile.get_of_readAll readAll, denotes]

/-- The default store on a file of these bytes. -/
def onFile (bytes : Bytes) : SessionStore where
  slots := some (.file { path := "session.json", files := [("session.json", bytes)] })
  key := defaultKey

/-- A file that is not JSON holds no session, and one that is not UTF-8 cannot be loaded from. -/
theorem corrupt_file_loads_none :
    (onFile (Utf8.encode "garbage")).load.value = .ok none ∧
      ∃ fault, (onFile [0xff]).load.value = .error fault := by
  obtain ⟨-, onDisk⟩ := any_content_loads_unless_it_breaks defaultKey
  constructor
  · obtain ⟨-, loads⟩ := onDisk { path := "session.json", files := [("session.json", _)] }
      (Utf8.encode "garbage") rfl
    have nothing : SlotFile.denoted (some "garbage") defaultKey = none := by decide +kernel
    have unread : Json.read "garbage" = .error .malformed := by decide +kernel
    have whole : ¬ SlotFile.StopsReader "garbage" := by simp [SlotFile.StopsReader, unread]
    have empty := (loads "garbage" (Utf8.decode?_encode _)).2 whole
    rw [nothing] at empty
    obtain ⟨found, loaded, records⟩ := empty.loaded (by simp)
    cases found with
    | none => exact loaded
    | some session => simpa using (records session).mp rfl
  · obtain ⟨fails, -⟩ := onDisk { path := "session.json", files := [("session.json", _)] } [0xff] rfl
    exact fails (by decide +kernel)

/-- The default store on a text in memory. -/
def onText (text : String) : SessionStore where
  slots := some (.memory [(defaultKey, text)])
  key := defaultKey

/-- A role that is a number, an infinite expiry and a byte that is no text fail to load. -/
theorem malformed_content_fails_to_load :
    (onText "\x7b\"role\": 1\x7d").load.value = .error ⟨.notAnObject, "the role is not a text"⟩ ∧
    (onText ("\x7b\"role\": \"ops\", \"accessToken\": \"t\", \"walletAddress\": \"w\", " ++
      "\"expiresAt\": Infinity\x7d")).load.value = .error .overflow ∧
    (onFile [0xff]).load.value = .error ⟨.badText, "the session file is not UTF-8"⟩ := by
  decide +kernel

end SessionStore

end OtcDesk
