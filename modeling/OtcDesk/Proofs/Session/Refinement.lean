import OtcDesk.Json.Equality
import OtcDesk.Proofs.Json.Depth
import OtcDesk.Proofs.Session.Slots

namespace OtcDesk

namespace SlotFile

/-- The map that the content of a file denotes, which is empty unless the text is an object. -/
def denoted (content : Option String) (key : String) : Option String :=
  (Table.last? key ((content.bind Json.fieldPairs?).getD [])).map Json.text

/-- A text that is no object denotes the empty map. -/
theorem denoted_eq_none {text : String} (noObject : ∀ fields, Json.read? text ≠ some (.obj fields))
    (key : String) : denoted (some text) key = none := by
  cases found : Json.fieldPairs? text with
  | some pairs => exact absurd (Json.read?_obj_iff.mpr ⟨pairs, found, rfl⟩) (noObject _)
  | none =>
      rw [denoted, Option.bind_some, found]
      rfl

/-- The slots of a text are those that it denotes, unless it stops the reader. -/
theorem slotsInText_denotes {text : String} (whole : ¬ StopsReader text) (path : String) :
    ∃ found, (slotsInText path text).value = .ok found ∧
      ∀ key, found.get? key = denoted (some text) key := by
  rw [slotsInText]
  cases read : Json.read text with
  | error fault =>
      cases fault with
      | malformed =>
          refine ⟨[], rfl, fun key => (denoted_eq_none ?_ key).symm⟩
          simp [Json.read?, read, Except.toOption]
      | tooDeep => exact absurd (.inl read) whole
      | tooLong => exact absurd (.inr read) whole
  | ok value =>
      refine ⟨slotsOf value, rfl, fun key => ?_⟩
      have some_ := Json.read?_eq_some.mpr read
      cases value with
      | obj fields =>
          obtain ⟨pairs, found, rfl⟩ := Json.read?_obj_iff.mp some_
          simp only [slotsOf, denoted, Option.bind_some, found, Option.getD_some]
          rw [Table.get?_map Json.text, Table.get?_ofList]
      | _ =>
          refine (denoted_eq_none ?_ key).symm
          simp [some_]

/-- What a file denotes is what is read from it, unless its text stops the reader. -/
theorem readAll_denotes {file : SlotFile} {content : Option String}
    (present : file.files.get? file.path = content.map Utf8.encode)
    (whole : ∀ text ∈ content, ¬ StopsReader text) :
    ∃ found, file.readAll.value = .ok found ∧ ∀ key, found.get? key = denoted content key := by
  rw [readAll, present]
  cases content with
  | none => exact ⟨[], rfl, fun _ => rfl⟩
  | some text =>
      simp only [Option.map_some, Utf8.decode?_encode]
      exact slotsInText_denotes (whole text rfl) file.path

/-- A file whose text stops the reader cannot be read. -/
theorem StopsReader.readAll {file : SlotFile} {text : String} (stops : StopsReader text)
    (present : file.files.get? file.path = some (Utf8.encode text)) :
    ∃ fault, file.readAll.value = .error fault := by
  rw [SlotFile.readAll, present]
  simp only [Utf8.decode?_encode]
  exact (slotsInText_error_iff file.path text).mpr stops

end SlotFile

/-- A step on slots. -/
inductive SlotStep where
  | get (key : String)
  | set (key value : String)
  | delete (key : String)
  | reopen
  deriving DecidableEq, Repr

namespace SlotStep

/-- The slot that a step writes. -/
def target? : SlotStep → Option String
  | set key _ | delete key => some key
  | get _ | reopen => none

/-- What a step answers where the slots have these contents. -/
def answers (contents : String → Option String) : SlotStep → List (Option String)
  | get key => [contents key]
  | set _ _ | delete _ | reopen => []

/-- The contents of the slots after a step. -/
def leaves (contents : String → Option String) : SlotStep → String → Option String
  | set key value => Function.update contents key (some value)
  | delete key => Function.update contents key none
  | get _ | reopen => contents

/-- A step changes no slot but the one that it writes. -/
theorem leaves_of_ne {step : SlotStep} {key : String} (other : step.target? ≠ some key)
    (contents : String → Option String) : step.leaves contents key = contents key := by
  cases step with
  | get _ => rfl
  | reopen => rfl
  | set written _ => exact Function.update_of_ne (fun same => other (congrArg some same.symm)) _ _
  | delete written => exact Function.update_of_ne (fun same => other (congrArg some same.symm)) _ _

end SlotStep

namespace Slots

/-- The slots as they are opened again: those in memory stay, and a file is found by its path. -/
def reopened : Slots → Slots
  | .memory values => .memory values
  | .file disk => .file { path := disk.path, files := disk.files }

theorem reopened_eq (slots : Slots) : slots.reopened = slots := by
  cases slots with
  | memory values => rfl
  | file disk => rfl

/-- A step on slots with what it answers. -/
def perform (slots : Slots) : SlotStep → Except Fault (List (Option String) × Slots)
  | .get key => (slots.get key).value.map fun text => ([text], slots)
  | .set key value => (slots.set key value).value.map ([], ·)
  | .delete key => (slots.delete key).value.map ([], ·)
  | .reopen => .ok ([], slots.reopened)

/-- Steps one after another with all that they answer. -/
def performAll (slots : Slots) : List SlotStep → Except Fault (List (Option String) × Slots)
  | [] => .ok ([], slots)
  | step :: later => do
    let (answered, next) ← slots.perform step
    let (others, last) ← next.performAll later
    return (answered ++ others, last)

variable {slots : Slots} {contents : String → Option String}

/-- A step on slots that show some contents goes by these contents alone. -/
theorem Shows.perform (shows_ : slots.Shows contents) (step : SlotStep) :
    ∃ next, slots.perform step = .ok (step.answers contents, next) ∧
      next.Shows (step.leaves contents) ∧ slots.Follows next := by
  cases step with
  | get key =>
      refine ⟨slots, ?_, shows_, .refl slots⟩
      rw [Slots.perform, shows_ key]
      rfl
  | set key value =>
      obtain ⟨written, done, after, follows⟩ := shows_.set key value
      refine ⟨written, ?_, after, follows⟩
      rw [Slots.perform, done]
      rfl
  | delete key =>
      obtain ⟨written, done, after, follows⟩ := shows_.delete key
      refine ⟨written, ?_, after, follows⟩
      rw [Slots.perform, done]
      rfl
  | reopen =>
      refine ⟨slots, ?_, shows_, .refl slots⟩
      rw [Slots.perform, reopened_eq]
      rfl

/-- What steps answer where the slots have these contents at first. -/
def answersOf (contents : String → Option String) : List SlotStep → List (Option String)
  | [] => []
  | step :: later => step.answers contents ++ answersOf (step.leaves contents) later

/-- Steps on slots that show some contents go by these contents alone. -/
theorem Shows.performAll (steps : List SlotStep) :
    ∀ {slots : Slots} {contents : String → Option String}, slots.Shows contents →
      ∃ last, slots.performAll steps = .ok (answersOf contents steps, last) ∧
        last.Shows (steps.foldl (fun contents step => step.leaves contents) contents) ∧
        slots.Follows last := by
  induction steps with
  | nil => exact fun shows_ => ⟨_, rfl, shows_, .refl _⟩
  | cons step later ih =>
      intro slots contents shows_
      obtain ⟨next, first, showsNext, follows⟩ := shows_.perform step
      obtain ⟨last, rest, showsLast, followsNext⟩ := ih showsNext
      refine ⟨last, ?_, showsLast, follows.trans followsNext⟩
      rw [Slots.performAll, first, answersOf]
      simp only [bind, Except.bind, rest]
      rfl

/-- Nothing can be done on a file that cannot be read, except to open it again. -/
theorem perform_unread {disk : SlotFile} {fault : Fault}
    (unread : disk.readAll.value = .error fault) {step : SlotStep} (works : step ≠ .reopen) :
    (Slots.file disk).perform step = .error fault := by
  cases step with
  | get key => simp [perform, get, SlotFile.get, unread, Except.map]
  | set key value => simp [perform, set, SlotFile.set, unread, Except.map]
  | delete key => simp [perform, delete, SlotFile.delete, unread, Except.map]
  | reopen => exact absurd rfl works

/-- A file of slots answers as slots in memory do, unless its text stops the reader. -/
theorem file_refines_memory_unless_stopped {path : String} {files : Table Bytes}
    {content : Option String} (present : files.get? path = content.map Utf8.encode)
    {values : Table String} (start : ∀ key, values.get? key = SlotFile.denoted content key) :
    ((∀ text ∈ content, ¬ SlotFile.StopsReader text) → ∀ steps : List SlotStep,
      ∃ answers kept disk,
        (Slots.memory values).performAll steps = .ok (answers, .memory kept) ∧
        (Slots.file ⟨path, files⟩).performAll steps = .ok (answers, .file disk) ∧
        (∀ key, (disk.get key).value = .ok (kept.get? key)) ∧
        (SlotFile.mk path files).Keeps disk ∧
        ∀ step key, step.target? ≠ some key →
          ∃ answered next, (Slots.file disk).perform step = .ok (answered, next) ∧
            (next.get key).value = (disk.get key).value) ∧
    ∀ text ∈ content, SlotFile.StopsReader text →
      ∃ fault, ∀ step : SlotStep, step ≠ .reopen →
        (Slots.file ⟨path, files⟩).perform step = .error fault := by
  refine ⟨fun whole steps => ?refines, fun text here stops => ?stopped⟩
  case stopped =>
    rw [Option.mem_def.mp here] at present
    obtain ⟨fault, unread⟩ : ∃ fault, (SlotFile.mk path files).readAll.value = .error fault :=
      stops.readAll present
    exact ⟨fault, fun _ works => perform_unread unread works⟩
  have memoryShows : (Slots.memory values).Shows (SlotFile.denoted content) := by
    intro key
    rw [← start key]
    rfl
  have fileShows : (Slots.file ⟨path, files⟩).Shows (SlotFile.denoted content) := by
    have here : (SlotFile.mk path files).files.get? (SlotFile.mk path files).path =
        content.map Utf8.encode := present
    obtain ⟨found, read, denotes⟩ := SlotFile.readAll_denotes here whole
    intro key
    rw [← denotes key]
    exact shows_file read key
  obtain ⟨inMemory, memoryRun, memoryShown, memoryFollows⟩ := Shows.performAll steps memoryShows
  obtain ⟨inFile, fileRun, fileShown, fileFollows⟩ := Shows.performAll steps fileShows
  cases memoryFollows with
  | memory _ kept =>
      cases fileFollows with
      | @file _ disk keeps =>
          refine ⟨_, kept, disk, memoryRun, fileRun, ?_, keeps, ?_⟩
          · intro key
            exact (fileShown key).trans (memoryShown key).symm
          · intro step key other
            obtain ⟨next, performed, nextShown, _⟩ := fileShown.perform step
            refine ⟨_, next, performed, ?_⟩
            rw [nextShown key, SlotStep.leaves_of_ne other]
            exact (fileShown key).symm

/-- A text that is nested too deep denotes the empty map, and a file of it answers nothing. -/
theorem file_of_deep_text {text : String} (deep : Json.read text = .error .tooDeep) (path key : String) :
    SlotFile.denoted (some text) key = none ∧
    (Slots.file ⟨path, [(path, Utf8.encode text)]⟩).perform (.get key) =
      .error Json.ReadFault.tooDeep.fault := by
  constructor
  · apply SlotFile.denoted_eq_none
    simp [Json.read?, deep, Except.toOption]
  · apply perform_unread
    · simp [SlotFile.readAll, Table.get?, Utf8.decode?_encode, SlotFile.slotsInText, deep]
    · intro same
      cases same

/-- A thousand lists, one in another. -/
def nestedText : String := String.ofList (List.replicate 1000 '[' ++ List.replicate 1000 ']')

/-- Nested lists denote the empty map, and a file of them does not answer as it does. -/
theorem nested_file_stops :
    SlotFile.denoted (some nestedText) "a" = none ∧
    (Slots.memory []).perform (.get "a") = .ok ([none], .memory []) ∧
    (Slots.file ⟨"d/session.json", [("d/session.json", Utf8.encode nestedText)]⟩).perform
      (.get "a") = .error Json.ReadFault.tooDeep.fault := by
  have deep : Json.read nestedText = .error .tooDeep :=
    Json.read_brackets (by decide) (List.replicate 1000 ']')
  obtain ⟨denotes, fails⟩ := file_of_deep_text deep "d/session.json" "a"
  exact ⟨denotes, rfl, fails⟩

/-- The text of a file with a repeated name and with values that are no texts. -/
def foreignText : String := "\x7b\"a\": 1, \"b\": true, \"a\": null\x7d"

/-- Foreign values are answered as text, also after writes to other slots. -/
theorem foreign_file_answers :
    ∃ disk, (Slots.file ⟨"d/session.json", [("d/session.json", Utf8.encode foreignText)]⟩).performAll
        [.get "a", .set "c" "kept", .reopen, .delete "b", .get "a", .get "b", .get "c"] =
      .ok ([some "None", some "None", none, some "kept"], .file disk) := by
  have present : Table.get? "d/session.json" [("d/session.json", Utf8.encode foreignText)] =
      (some foreignText).map Utf8.encode := rfl
  have pairs : Json.fieldPairs? foreignText =
      some [("a", .int 1), ("b", .bool true), ("a", .null)] := by decide +kernel
  have start : ∀ key, Table.get? key [("a", "None"), ("b", "True")] =
      SlotFile.denoted (some foreignText) key := by
    intro key
    rw [SlotFile.denoted, Option.bind_some, pairs]
    by_cases first : "a" = key
    · simp [Table.get?, Table.last?, first, Json.text, Json.innerText]
    · by_cases second : "b" = key
      · simp [Table.get?, Table.last?, first, second, Json.text, Json.innerText]
      · simp [Table.get?, Table.last?, first, second]
  have read : Json.read foreignText =
      .ok (.obj [("a", .null), ("b", .bool true)]) := by decide +kernel
  have whole : ∀ text ∈ some foreignText, ¬ SlotFile.StopsReader text := by
    rintro _ ⟨⟩ (deep | long)
    · rw [read] at deep
      cases deep
    · rw [read] at long
      cases long
  obtain ⟨answers, kept, disk, inMemory, inFile, _⟩ :=
    (file_refines_memory_unless_stopped present start).1 whole
    [.get "a", .set "c" "kept", .reopen, .delete "b", .get "a", .get "b", .get "c"]
  have answered : (Slots.memory [("a", "None"), ("b", "True")]).performAll
      [.get "a", .set "c" "kept", .reopen, .delete "b", .get "a", .get "b", .get "c"] =
      .ok ([some "None", some "None", none, some "kept"],
        .memory [("a", "None"), ("c", "kept")]) := by rfl
  rw [answered] at inMemory
  cases inMemory
  exact ⟨disk, inFile⟩

end Slots

end OtcDesk
