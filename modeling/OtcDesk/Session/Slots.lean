import OtcDesk.Bytes.Utf8
import OtcDesk.Fault
import OtcDesk.Json.Reader
import OtcDesk.Json.Text
import OtcDesk.Json.Writer
import OtcDesk.Warning

namespace OtcDesk

/-- A result and the remarks made on the way to it. -/
structure Noted (α : Type) where
  value : α
  remarks : List Warning := []

/-- A file of slots among the other files of its disk. -/
structure SlotFile where
  path : String
  files : Table Bytes := []
  deriving DecidableEq, Repr

namespace SlotFile

/-- The slots that a JSON value holds: every field of an object as text. -/
def slotsOf : Json → Table String
  | .obj fields => fields.map fun field => (field.1, field.2.text)
  | _ => []

/-- The slots in a text; a text that is not JSON holds none. -/
def slotsInText (path text : String) : Noted (Except Fault (Table String)) :=
  match Json.read text with
  | .ok value => { value := .ok (slotsOf value) }
  | .error .malformed => { value := .ok [], remarks := [.unreadableFile path] }
  | .error fault => { value := .error fault.fault }

/-- The slots in the file; a file that is not there holds none. -/
def readAll (file : SlotFile) : Noted (Except Fault (Table String)) :=
  match file.files.get? file.path with
  | none => { value := .ok [] }
  | some bytes =>
    match Utf8.decode? bytes with
    | none => { value := .error ⟨.badText, "the session file is not UTF-8"⟩ }
    | some text => slotsInText file.path text

/-- The content of a file with these slots. -/
def contentOf (slots : Table String) : Bytes :=
  Utf8.encode (Json.write .stored (.obj (slots.map fun slot => (slot.1, .str slot.2))))

/-- Where new content is put before it is moved to the file. -/
def draftPath (file : SlotFile) : String := file.path ++ ".tmp"

/-- A file is moved over another. -/
def move (source target : String) (files : Table Bytes) : Table Bytes :=
  match files.get? source with
  | some bytes => (files.erase source).put target bytes
  | none => files

/-- The file with these slots instead of its own. -/
def writeAll (file : SlotFile) (slots : Table String) : SlotFile :=
  { file with
    files := move file.draftPath file.path (file.files.put file.draftPath (contentOf slots)) }

/-- The text in a slot. -/
def get (file : SlotFile) (key : String) : Noted (Except Fault (Option String)) :=
  let slots := file.readAll
  { value := slots.value.map (·.get? key), remarks := slots.remarks }

/-- The file with a text in a slot. -/
def set (file : SlotFile) (key value : String) : Noted (Except Fault SlotFile) :=
  let slots := file.readAll
  { value := slots.value.map fun slots => file.writeAll (slots.put key value)
    remarks := slots.remarks }

/-- The file without a slot, written only if it had one. -/
def delete (file : SlotFile) (key : String) : Noted (Except Fault SlotFile) :=
  let slots := file.readAll
  { value := slots.value.map fun slots =>
      if (slots.get? key).isSome then file.writeAll (slots.erase key) else file
    remarks := slots.remarks }

end SlotFile

/-- Slots in memory or in a file. -/
inductive Slots where
  | memory (values : Table String)
  | file (file : SlotFile)
  deriving DecidableEq, Repr

namespace Slots

/-- The text in a slot. -/
def get (slots : Slots) (key : String) : Noted (Except Fault (Option String)) :=
  match slots with
  | .memory values => { value := .ok (values.get? key) }
  | .file disk => disk.get key

/-- The slots with a text in one of them. -/
def set (slots : Slots) (key value : String) : Noted (Except Fault Slots) :=
  match slots with
  | .memory values => { value := .ok (.memory (values.put key value)) }
  | .file disk =>
    let written := disk.set key value
    { value := written.value.map .file, remarks := written.remarks }

/-- The slots without one of them. -/
def delete (slots : Slots) (key : String) : Noted (Except Fault Slots) :=
  match slots with
  | .memory values => { value := .ok (.memory (values.erase key)) }
  | .file disk =>
    let written := disk.delete key
    { value := written.value.map .file, remarks := written.remarks }

end Slots

end OtcDesk
