import Mathlib.Logic.Function.Basic
import OtcDesk.Proofs.Json.Objects
import OtcDesk.Proofs.Json.RoundTrip
import OtcDesk.Session.Slots

namespace OtcDesk

namespace SlotFile

theorem slotsOf_obj (slots : Table String) :
    slotsOf (.obj (slots.map fun slot => (slot.1, .str slot.2))) = slots := by
  rw [slotsOf, List.map_map]
  exact List.map_id slots

/-- The file at the path is the content that was written. -/
theorem get?_writeAll (file : SlotFile) (slots : Table String) :
    (file.writeAll slots).files.get? file.path = some (contentOf slots) := by
  simp [writeAll, move]

/-- A disk after some writes has its file in the same place and all other files unchanged. -/
structure Keeps (before after : SlotFile) : Prop where
  path : after.path = before.path
  files : ∀ name bytes, name ≠ before.path →
    after.files.get? name = some bytes → before.files.get? name = some bytes

theorem Keeps.refl (file : SlotFile) : file.Keeps file := ⟨rfl, fun _ _ _ here => here⟩

theorem Keeps.trans {first second third : SlotFile} (before : first.Keeps second)
    (after : second.Keeps third) : first.Keeps third := by
  refine ⟨after.path.trans before.path, ?_⟩
  intro name bytes other here
  have otherThen : name ≠ second.path := by
    rw [before.path]
    exact other
  exact before.files name bytes other (after.files name bytes otherThen here)

/-- A write leaves no draft behind. -/
theorem keeps_writeAll (file : SlotFile) (slots : Table String) :
    file.Keeps (file.writeAll slots) := by
  refine ⟨rfl, ?_⟩
  intro name bytes other here
  simp only [writeAll, move, Table.get?_put_self] at here
  rw [Table.get?_put_of_ne (Ne.symm other)] at here
  by_cases draft : name = file.draftPath
  · rw [draft, Table.get?_erase_self] at here
    cases here
  · rwa [Table.get?_erase_of_ne (Ne.symm draft), Table.get?_put_of_ne (Ne.symm draft)] at here

/-- Slots that were written are read back. -/
theorem readAll_writeAll (file : SlotFile) {slots : Table String} (distinct : slots.keys.Nodup) :
    (file.writeAll slots).readAll.value = .ok slots := by
  have content := get?_writeAll file slots
  have samePath : (file.writeAll slots).path = file.path := rfl
  have read := Json.read?_eq_some.mp
    (Json.read?_write Json.Style.stored_regular (Json.plain_texts slots distinct))
  rw [readAll, samePath, content]
  simp only [contentOf, Utf8.decode?_encode, slotsInText, read, slotsOf_obj]

theorem draftPath_ne (file : SlotFile) : file.draftPath ≠ file.path := by
  intro same
  have longer := congrArg String.length same
  simp [draftPath, String.length_append] at longer

/-- Slots that were written are written again without any change. -/
theorem writeAll_writeAll (file : SlotFile) (slots : Table String) :
    (file.writeAll slots).writeAll slots = file.writeAll slots := by
  have content := get?_writeAll file slots
  have noDraft : (file.writeAll slots).files.get? file.draftPath = none := by
    simp only [writeAll, move, Table.get?_put_self]
    rw [Table.get?_put_of_ne file.draftPath_ne.symm, Table.get?_erase_self]
  generalize written : file.writeAll slots = after at content noDraft
  have samePath : after.path = file.path := by rw [← written]; rfl
  have sameDraft : after.draftPath = file.draftPath := by rw [draftPath, samePath]; rfl
  rw [writeAll, move, sameDraft, samePath, Table.get?_put_self]
  dsimp only
  rw [Table.erase_put _ noDraft, Table.put_of_get? content, ← samePath]

/-- A text stops the reader: it is nested too deep, or an integer in it has too many digits. -/
def StopsReader (text : String) : Prop :=
  Json.read text = .error .tooDeep ∨ Json.read text = .error .tooLong

/-- The slots of a text are read unless it stops the reader. -/
theorem slotsInText_error_iff (path text : String) :
    (∃ fault, (slotsInText path text).value = .error fault) ↔ StopsReader text := by
  unfold slotsInText StopsReader
  cases Json.read text with
  | ok value => simp
  | error fault => cases fault <;> simp

/-- The slots of a text that is read are the fields of its value. -/
theorem slotsInText_eq_ok {path text : String} {slots : Table String}
    (found : (slotsInText path text).value = .ok slots) :
    Json.read text = .error .malformed ∧ slots = [] ∨
      ∃ value, Json.read text = .ok value ∧ slots = slotsOf value := by
  unfold slotsInText at found
  split at found
  · rename_i value read
    cases found
    exact .inr ⟨value, read, rfl⟩
  · rename_i unread
    cases found
    exact .inl ⟨unread, rfl⟩
  · cases found

/-- No slot that was read occurs twice. -/
theorem readAll_nodup {file : SlotFile} {slots : Table String}
    (read : file.readAll.value = .ok slots) : slots.keys.Nodup := by
  unfold readAll at read
  split at read
  · cases read
    exact List.nodup_nil
  · split at read
    · cases read
    · rename_i text _
      obtain ⟨_, rfl⟩ | ⟨value, found, rfl⟩ := slotsInText_eq_ok read
      · exact List.nodup_nil
      · cases value with
        | obj fields =>
            have distinct := Json.read?_obj_nodup (Json.read?_eq_some.mpr found)
            rw [slotsOf, Table.keys, List.map_map]
            exact distinct
        | _ => exact List.nodup_nil

/-- A text in a slot was found among the slots of the file. -/
theorem get_value {file : SlotFile} {key : String} {text : Option String}
    (known : (file.get key).value = .ok text) :
    ∃ slots, file.readAll.value = .ok slots ∧ slots.get? key = text := by
  cases read : file.readAll.value with
  | error fault =>
      rw [get, read] at known
      cases known
  | ok slots =>
      rw [get, read] at known
      exact ⟨slots, rfl, Except.ok.inj known⟩

theorem get_of_readAll {file : SlotFile} {slots : Table String}
    (read : file.readAll.value = .ok slots) (key : String) :
    (file.get key).value = .ok (slots.get? key) := by
  rw [get, read]
  rfl

end SlotFile

namespace Slots

/-- Slots show some contents: every one of them can be read and has its text. -/
def Shows (slots : Slots) (contents : String → Option String) : Prop :=
  ∀ key, (slots.get key).value = .ok (contents key)

/-- Slots in memory stay there, and those in a file stay in it alone. -/
inductive Follows : Slots → Slots → Prop where
  | memory (before after : Table String) : Follows (.memory before) (.memory after)
  | file {before after : SlotFile} : before.Keeps after → Follows (.file before) (.file after)

theorem Follows.refl (slots : Slots) : slots.Follows slots := by
  cases slots with
  | memory values => exact .memory values values
  | file disk => exact .file (.refl disk)

theorem Follows.trans {first second third : Slots} (before : first.Follows second)
    (after : second.Follows third) : first.Follows third := by
  cases before with
  | memory values _ =>
      cases after with
      | memory _ later => exact .memory values later
  | file kept =>
      cases after with
      | file later => exact .file (kept.trans later)

variable {slots : Slots} {key : String} {text : Option String}
  {contents : String → Option String}

theorem shows_memory (values : Table String) : (Slots.memory values).Shows (values.get? ·) :=
  fun _ => rfl

theorem shows_file {file : SlotFile} {found : Table String}
    (read : file.readAll.value = .ok found) : (Slots.file file).Shows (found.get? ·) :=
  fun key => SlotFile.get_of_readAll read key

/-- Slots of which one can be read can all be read. -/
theorem exists_shows (known : (slots.get key).value = .ok text) :
    ∃ contents, slots.Shows contents ∧ contents key = text := by
  cases slots with
  | memory values => exact ⟨_, shows_memory values, Except.ok.inj known⟩
  | file file =>
      obtain ⟨found, read, here⟩ := SlotFile.get_value known
      exact ⟨_, shows_file read, here⟩

/-- Slots in a file that show some contents were read from it. -/
theorem Shows.readAll {file : SlotFile} (shows_ : (Slots.file file).Shows contents) :
    ∃ found, file.readAll.value = .ok found ∧ contents = (found.get? ·) := by
  obtain ⟨found, read, _⟩ := SlotFile.get_value (shows_ "")
  refine ⟨found, read, funext fun key => ?_⟩
  have here := shows_ key
  rw [shows_file read key] at here
  exact (Except.ok.inj here).symm

theorem get?_put (key value : String) (table : Table String) :
    ((table.put key value).get? ·) = Function.update (table.get? ·) key (some value) := by
  funext other
  by_cases same : other = key
  · rw [same, Table.get?_put_self, Function.update_self]
  · rw [Table.get?_put_of_ne (Ne.symm same), Function.update_of_ne same]

theorem get?_erase (key : String) (table : Table String) :
    ((table.erase key).get? ·) = Function.update (table.get? ·) key none := by
  funext other
  by_cases same : other = key
  · rw [same, Table.get?_erase_self, Function.update_self]
  · rw [Table.get?_erase_of_ne (Ne.symm same), Function.update_of_ne same]

/-- A text is put into its slot, and into no other. -/
theorem Shows.set (shows_ : slots.Shows contents) (key value : String) :
    ∃ written, (slots.set key value).value = .ok written ∧
      written.Shows (Function.update contents key (some value)) ∧ slots.Follows written := by
  cases slots with
  | memory values =>
      obtain rfl : contents = (values.get? ·) := funext fun key => (Except.ok.inj (shows_ key)).symm
      refine ⟨.memory (values.put key value), rfl, ?_, .memory _ _⟩
      rw [← get?_put]
      exact shows_memory _
  | file file =>
      obtain ⟨found, read, rfl⟩ := shows_.readAll
      have distinct := Table.nodup_put key value (SlotFile.readAll_nodup read)
      refine ⟨.file (file.writeAll (found.put key value)), ?_, ?_, .file (file.keeps_writeAll _)⟩
      · rw [Slots.set, SlotFile.set, read]
        rfl
      · rw [← get?_put]
        exact shows_file (file.readAll_writeAll distinct)

/-- A slot is emptied, and no other. -/
theorem Shows.delete (shows_ : slots.Shows contents) (key : String) :
    ∃ written, (slots.delete key).value = .ok written ∧
      written.Shows (Function.update contents key none) ∧ slots.Follows written := by
  cases slots with
  | memory values =>
      obtain rfl : contents = (values.get? ·) := funext fun key => (Except.ok.inj (shows_ key)).symm
      refine ⟨.memory (values.erase key), rfl, ?_, .memory _ _⟩
      rw [← get?_erase]
      exact shows_memory _
  | file file =>
      obtain ⟨found, read, rfl⟩ := shows_.readAll
      have distinct := Table.nodup_erase key (SlotFile.readAll_nodup read)
      cases here : (found.get? key).isSome with
      | true =>
          refine ⟨.file (file.writeAll (found.erase key)), ?_, ?_, .file (file.keeps_writeAll _)⟩
          · rw [Slots.delete, SlotFile.delete, read]
            simp [Except.map, here]
          · rw [← get?_erase]
            exact shows_file (file.readAll_writeAll distinct)
      | false =>
          -- a slot that was empty is not written
          have empty : found.get? key = none := Option.isNone_iff_eq_none.mp (by simpa using here)
          refine ⟨.file file, ?_, ?_, .file (.refl file)⟩
          · rw [Slots.delete, SlotFile.delete, read]
            simp [Except.map, here]
          · rw [← empty, Function.update_eq_self]
            exact shows_file read

/-- A slot from which something could be deleted can be read. -/
theorem exists_get_of_delete {written : Slots} (deleted : (slots.delete key).value = .ok written) :
    ∃ text, (slots.get key).value = .ok text := by
  cases slots with
  | memory values => exact ⟨_, rfl⟩
  | file file =>
      cases read : file.readAll.value with
      | ok found => exact ⟨_, SlotFile.get_of_readAll read key⟩
      | error fault =>
          rw [Slots.delete, SlotFile.delete, read] at deleted
          cases deleted

/-- A text that was put into a slot is there. -/
theorem set_then_get (known : (slots.get key).value = .ok text) (value : String) :
    ∃ written, (slots.set key value).value = .ok written ∧
      (written.get key).value = .ok (some value) := by
  obtain ⟨contents, shows_, _⟩ := exists_shows known
  obtain ⟨written, set, later, _⟩ := shows_.set key value
  exact ⟨written, set, by rw [later key, Function.update_self]⟩

/-- A text that was put into its slot is put there again without any change. -/
theorem set_again {slots written : Slots} {key value : String}
    (put : (slots.set key value).value = .ok written) :
    (written.set key value).value = .ok written := by
  cases slots with
  | memory values =>
      cases put
      rw [set, Table.put_of_get? (Table.get?_put_self key value values)]
  | file disk =>
      cases read : disk.readAll.value with
      | error fault =>
          rw [set, SlotFile.set, read] at put
          cases put
      | ok found =>
          rw [set, SlotFile.set, read] at put
          cases put
          have distinct := Table.nodup_put key value (SlotFile.readAll_nodup read)
          have reread := disk.readAll_writeAll distinct
          rw [set, SlotFile.set, reread]
          dsimp only [Except.map]
          rw [Table.put_of_get? (Table.get?_put_self key value found), SlotFile.writeAll_writeAll]

/-- A slot that was deleted is empty. -/
theorem delete_then_get (known : (slots.get key).value = .ok text) :
    ∃ written, (slots.delete key).value = .ok written ∧ (written.get key).value = .ok none := by
  obtain ⟨contents, shows_, _⟩ := exists_shows known
  obtain ⟨written, deleted, later, _⟩ := shows_.delete key
  exact ⟨written, deleted, by rw [later key, Function.update_self]⟩

end Slots

end OtcDesk
