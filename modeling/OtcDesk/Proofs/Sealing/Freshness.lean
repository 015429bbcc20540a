import Mathlib.Data.Set.Function
import Mathlib.Order.Interval.Set.Defs
import OtcDesk.Proofs.Sealing.Coverage

namespace OtcDesk

/-- Without its dashes, the text of an identifier is its digits. -/
theorem Uuid.filter_dashed (id : Uuid) : id.dashed.toList.filter (· ≠ '-') = id.digits := by
  have undashed : ∀ part : List Char, part ⊆ id.digits → part.filter (· ≠ '-') = part := by
    intro part within
    rw [List.filter_eq_self]
    intro c member
    have letters : ∀ digit < 16, Text.hexDigit digit ≠ '-' := by decide
    obtain ⟨digit, fits, rfl⟩ := Text.mem_hexDigits (within member)
    exact decide_eq_true (letters digit fits)
  have middle : ∀ start, ((id.digits.drop start).take 4).filter (· ≠ '-') =
      (id.digits.drop start).take 4 :=
    fun start => undashed _ fun _ member => List.mem_of_mem_drop (List.mem_of_mem_take member)
  have joined : ∀ start, (id.digits.drop start).take 4 ++ id.digits.drop (start + 4) =
      id.digits.drop start := by
    intro start
    rw [← List.drop_drop, List.take_append_drop]
  have dash : decide ('-' ≠ '-') = false := by decide
  rw [Uuid.dashed, String.toList_ofList]
  simp only [List.filter_append, List.filter_cons, dash, middle,
    undashed _ (List.take_subset 8 id.digits), undashed _ (List.drop_subset 20 id.digits)]
  simp only [Bool.false_eq_true, if_false, List.append_assoc]
  rw [joined 16, joined 12, joined 8, List.take_append_drop]

/-- Identifiers of 128 bits have different texts. -/
theorem Uuid.dashed_inj {id other : Uuid} (fits : id.value < Nat.pow 2 128)
    (alsoFits : other.value < Nat.pow 2 128) (same : id.dashed = other.dashed) : id = other := by
  have digits : id.digits = other.digits := by
    rw [← id.filter_dashed, same, other.filter_dashed]
  have room : Nat.pow 16 32 = Nat.pow 2 128 := by decide
  have values : id.value = other.value :=
    Hex.hexDigits_inj (room ▸ fits) (room ▸ alsoFits) digits
  cases id
  cases other
  exact congrArg Uuid.mk values

namespace Entropy

/-- The randomness that is left once so many values of every kind were drawn. -/
def drawing (entropy : Entropy) (count : Nat) : Entropy :=
  { entropy with
    uuidsDrawn := entropy.uuidsDrawn + count
    seedsDrawn := entropy.seedsDrawn + count
    noncesDrawn := entropy.noncesDrawn + count }

@[simp] theorem drawing_drawing (entropy : Entropy) (first second : Nat) :
    (entropy.drawing first).drawing second = entropy.drawing (first + second) := by
  simp only [drawing, Nat.add_assoc]

/-- No source repeats a value among those drawn between two states, which are of their sizes. -/
structure NeverRepeats (before after : Entropy) : Prop where
  uuids : Set.InjOn before.uuids (Set.Ico before.uuidsDrawn after.uuidsDrawn)
  seeds : Set.InjOn before.signingSeeds (Set.Ico before.seedsDrawn after.seedsDrawn)
  nonces : Set.InjOn before.sealingNonces (Set.Ico before.noncesDrawn after.noncesDrawn)
  wholeUuids : ∀ place ∈ Set.Ico before.uuidsDrawn after.uuidsDrawn,
    (before.uuids place).value < Nat.pow 2 128
  wholeNonces : ∀ place ∈ Set.Ico before.noncesDrawn after.noncesDrawn,
    (before.sealingNonces place).length = 12

/-- The next value of every source is none of those that were drawn since an earlier state. -/
structure FreshSince (earlier now : Entropy) : Prop where
  uuid : ∀ place ∈ Set.Ico earlier.uuidsDrawn now.uuidsDrawn, earlier.uuids place ≠ now.uuid.1
  seed : ∀ place ∈ Set.Ico earlier.seedsDrawn now.seedsDrawn,
    earlier.signingSeeds place ≠ now.signingSeed.1
  nonce : ∀ place ∈ Set.Ico earlier.noncesDrawn now.noncesDrawn,
    earlier.sealingNonces place ≠ now.sealingNonce.1

end Entropy

/-- A place below a count is among so many places from the first one on. -/
theorem mem_Ico_add {first place count : Nat} (within : place < count) :
    first + place ∈ Set.Ico first (first + count) :=
  ⟨Nat.le_add_right _ _, Nat.add_lt_add_left within _⟩

/-- A source that does not repeat has another value at every later place. -/
theorem ne_of_injOn {α : Type} {source : Nat → α} {first count earlier later : Nat}
    (injective : Set.InjOn source (Set.Ico first (first + count))) (order : earlier < later)
    (within : later < count) : source (first + earlier) ≠ source (first + later) := by
  intro same
  have places := injective (mem_Ico_add (Nat.lt_trans order within)) (mem_Ico_add within) same
  omega

/-- A call that seals an intent, under a configured key or else under the demo key. -/
structure SealingCall where
  intent : PlainIntent
  keyHex : Option String
  clock : Clock

/-- A sealing that has succeeded: the randomness it found, what it made, and the randomness it left. -/
structure Sealing where
  found : Entropy
  built : BuiltIntent
  left : Entropy

/-- The nonce under which a sealed intent was encrypted: the first twelve bytes of its payload. -/
def BuiltIntent.payloadNonce (built : BuiltIntent) : Except Base64.Fault Bytes :=
  (Base64.decode built.encryptedPayload).map (·.take 12)

namespace SealingCall

/-- How a call ends, and the randomness that it leaves. -/
def perform (call : SealingCall) (entropy : Entropy) : Except Failure BuiltIntent × Entropy :=
  call.intent.build (chooseKey call.keyHex).1 call.clock entropy

/-- The randomness that calls leave, one after another. -/
def performAll (entropy : Entropy) (calls : List SealingCall) : Entropy :=
  calls.foldl (fun entropy call => (call.perform entropy).2) entropy

/-- The sealings among calls that are made one after another. -/
def sealings (entropy : Entropy) : List SealingCall → List Sealing
  | [] => []
  | call :: later =>
    match call.perform entropy with
    | (.ok built, left) => ⟨entropy, built, left⟩ :: sealings left later
    | (.error _, left) => sealings left later

/-- A call draws one value of every kind, unless its key cannot be used. -/
theorem perform_cases (call : SealingCall) (entropy : Entropy) :
    (∃ refusal, call.perform entropy = (.error (.desk refusal), entropy)) ∨
      (∃ fault, call.perform entropy = (.error (.fault fault), entropy.drawing 1)) ∨
      ∃ key now, call.perform entropy =
        (.ok (.ofParts key entropy.signingSeed.1 entropy.sealingNonce.1 entropy.uuid.1 now
          call.intent), entropy.drawing 1) := by
  rw [perform]
  cases parsed : parseKey (chooseKey call.keyHex).1 with
  | error refusal =>
      rw [PlainIntent.build_of_unusable parsed]
      exact .inl ⟨refusal, rfl⟩
  | ok key =>
      rw [PlainIntent.build_of_usable parsed, PlainIntent.sealedUnder]
      cases call.clock.seconds with
      | error fault => exact .inr (.inl ⟨fault, rfl⟩)
      | ok now => exact .inr (.inr ⟨key, now, rfl⟩)

end SealingCall

namespace Sealing

/-- A sealing is made of the values at a place of the sources, counted from a state, and of no others. -/
structure At (entropy : Entropy) (place : Nat) (sealing : Sealing) : Prop where
  found : sealing.found = entropy.drawing place
  left : sealing.left = entropy.drawing (place + 1)
  made : ∃ key now intent, sealing.built = .ofParts key sealing.found.signingSeed.1
    sealing.found.sealingNonce.1 sealing.found.uuid.1 now intent

theorem at_first (entropy : Entropy) (key : Bytes) (now : Int) (intent : PlainIntent) :
    At entropy 0 ⟨entropy, .ofParts key entropy.signingSeed.1 entropy.sealingNonce.1 entropy.uuid.1
      now intent, entropy.drawing 1⟩ :=
  ⟨rfl, rfl, key, now, intent, rfl⟩

theorem At.shift {entropy : Entropy} {skipped place : Nat} {sealing : Sealing}
    (placed : sealing.At (entropy.drawing skipped) place) :
    sealing.At entropy (skipped + place) where
  found := by rw [placed.found, Entropy.drawing_drawing]
  left := by rw [placed.left, Entropy.drawing_drawing, Nat.add_assoc]
  made := placed.made

/-- A sealing shows the seed, the identifier and the nonce that were drawn for it. -/
structure ShowsDraws (sealing : Sealing) : Prop where
  left : sealing.left = sealing.found.afterSealing
  signed : sealing.built.SignedWith sealing.found.signingSeed.1
  nonce : sealing.built.nonce = sealing.found.uuid.1.dashed
  payload : sealing.built.payloadNonce = .ok sealing.found.sealingNonce.1

variable {entropy : Entropy} {count : Nat}

theorem At.showsDraws (distinct : entropy.NeverRepeats (entropy.drawing count)) {place : Nat}
    {sealing : Sealing} (placed : sealing.At entropy place) (within : place < count) :
    sealing.ShowsDraws := by
  obtain ⟨found, left, key, now, intent, made⟩ := placed
  refine ⟨?left, ?signed, ?nonce, ?payload⟩
  case left =>
    rw [left, found]
    exact (Entropy.drawing_drawing entropy place 1).symm
  case signed =>
    rw [made]
    exact BuiltIntent.signedWith_ofParts ..
  case nonce => rw [made, BuiltIntent.ofParts]
  case payload =>
    have whole : sealing.found.sealingNonce.1.length = 12 := by
      rw [found]
      exact distinct.wholeNonces _ (mem_Ico_add within)
    have decoded := Base64.decode_encode (sealing.found.sealingNonce.1 ++
      Gcm.encrypt key sealing.found.sealingNonce.1 (Utf8.encode intent.canonical))
    have payload : sealing.built.encryptedPayload = _ := congrArg BuiltIntent.encryptedPayload made
    rw [BuiltIntent.payloadNonce, payload, BuiltIntent.ofParts, encryptPayload, decoded]
    exact congrArg Except.ok (List.take_left' whole)

theorem At.freshSince (distinct : entropy.NeverRepeats (entropy.drawing count)) {place : Nat}
    {sealing : Sealing} (placed : sealing.At entropy place) (within : place < count) :
    entropy.FreshSince sealing.found := by
  rw [placed.found]
  -- What was drawn since then stands at places before this one.
  have before : ∀ {first drawn : Nat}, drawn ∈ Set.Ico first (first + place) →
      ∃ earlier < place, drawn = first + earlier := by
    rintro first drawn ⟨begun, past⟩
    exact ⟨drawn - first, by omega, by omega⟩
  constructor
  · intro drawn since
    obtain ⟨earlier, order, rfl⟩ := before since
    exact ne_of_injOn distinct.uuids order within
  · intro drawn since
    obtain ⟨earlier, order, rfl⟩ := before since
    exact ne_of_injOn distinct.seeds order within
  · intro drawn since
    obtain ⟨earlier, order, rfl⟩ := before since
    exact ne_of_injOn distinct.nonces order within

/-- Two sealings have no nonce, no seed and no payload in common. -/
structure Apart (one other : Sealing) : Prop where
  nonces : one.built.nonce ≠ other.built.nonce
  payloadNonces : one.built.payloadNonce ≠ other.built.payloadNonce
  seeds : one.found.signingSeed.1 ≠ other.found.signingSeed.1
  payloads : one.built.encryptedPayload ≠ other.built.encryptedPayload

/-- Sealings that are made of the values at two places are apart. -/
theorem At.apart (distinct : entropy.NeverRepeats (entropy.drawing count)) {earlier later : Nat}
    {one other : Sealing} (atEarlier : one.At entropy earlier) (atLater : other.At entropy later)
    (order : earlier < later) (within : later < count) : one.Apart other := by
  have withinToo := Nat.lt_trans order within
  have first := atEarlier.showsDraws distinct withinToo
  have second := atLater.showsDraws distinct within
  have payloadNonces : one.built.payloadNonce ≠ other.built.payloadNonce := by
    rw [first.payload, second.payload, atEarlier.found, atLater.found]
    exact fun same => ne_of_injOn distinct.nonces order within (Except.ok.inj same)
  refine ⟨?nonces, payloadNonces, ?seeds, ?payloads⟩
  case nonces =>
    rw [first.nonce, second.nonce, atEarlier.found, atLater.found]
    intro same
    have fits := distinct.wholeUuids _ (mem_Ico_add withinToo)
    have fitsToo := distinct.wholeUuids _ (mem_Ico_add within)
    exact ne_of_injOn distinct.uuids order within (Uuid.dashed_inj fits fitsToo same)
  case seeds =>
    rw [atEarlier.found, atLater.found]
    exact ne_of_injOn distinct.seeds order within
  case payloads =>
    intro same
    apply payloadNonces
    rw [BuiltIntent.payloadNonce, same, BuiltIntent.payloadNonce]

/-- Sealings are made of values at places below a count, the later ones at later places. -/
structure InOrder (entropy : Entropy) (count : Nat) (sealings : List Sealing) : Prop where
  placed : ∀ sealing ∈ sealings, ∃ place < count, sealing.At entropy place
  ordered : sealings.Pairwise fun one other =>
    ∃ earlier later, earlier < later ∧ later < count ∧ one.At entropy earlier ∧
      other.At entropy later

theorem InOrder.shift {skipped : Nat} {sealings : List Sealing}
    (inOrder : InOrder (entropy.drawing skipped) count sealings) :
    InOrder entropy (skipped + count) sealings := by
  constructor
  · intro sealing member
    obtain ⟨place, within, placed⟩ := inOrder.placed sealing member
    exact ⟨skipped + place, Nat.add_lt_add_left within _, placed.shift⟩
  · refine inOrder.ordered.imp ?_
    rintro one other ⟨earlier, later, order, within, first, second⟩
    exact ⟨_, _, Nat.add_lt_add_left order _, Nat.add_lt_add_left within _, first.shift,
      second.shift⟩

theorem InOrder.cons {sealing : Sealing} {later : List Sealing}
    (here : sealing.At entropy 0) (inOrder : InOrder (entropy.drawing 1) count later) :
    InOrder entropy (1 + count) (sealing :: later) := by
  obtain ⟨placed, ordered⟩ := inOrder.shift
  constructor
  · intro other member
    rcases List.mem_cons.mp member with rfl | member
    · exact ⟨0, by omega, here⟩
    · exact placed other member
  · refine .cons ?_ ordered
    intro other member
    obtain ⟨place, within, moved⟩ := inOrder.placed other member
    exact ⟨0, 1 + place, by omega, by omega, here, moved.shift⟩

end Sealing

/-- Calls draw as much from every source, and their sealings are in order of it. -/
theorem SealingCall.sealings_inOrder (calls : List SealingCall) :
    ∀ entropy, ∃ count, performAll entropy calls = entropy.drawing count ∧
      Sealing.InOrder entropy count (sealings entropy calls) := by
  induction calls with
  | nil => exact fun entropy => ⟨0, rfl, nofun, .nil⟩
  | cons call later ih =>
      intro entropy
      have after : performAll entropy (call :: later) =
          performAll (call.perform entropy).2 later := List.foldl_cons ..
      rcases call.perform_cases entropy with
        ⟨refusal, ends⟩ | ⟨fault, ends⟩ | ⟨key, now, ends⟩
      · rw [after, sealings, ends]
        exact ih entropy
      · obtain ⟨count, drawn, inOrder⟩ := ih (entropy.drawing 1)
        rw [after, sealings, ends]
        exact ⟨1 + count, by rw [drawn, Entropy.drawing_drawing], inOrder.shift⟩
      · obtain ⟨count, drawn, inOrder⟩ := ih (entropy.drawing 1)
        rw [after, sealings, ends]
        exact ⟨1 + count, by rw [drawn, Entropy.drawing_drawing],
          .cons (Sealing.at_first entropy key now call.intent) inOrder⟩

/-- Sealings made one after another from sources that never repeat share none of their values. -/
theorem sealings_share_nothing (calls : List SealingCall) (entropy : Entropy)
    (distinct : entropy.NeverRepeats (SealingCall.performAll entropy calls)) :
    (∀ sealing ∈ SealingCall.sealings entropy calls,
      sealing.ShowsDraws ∧ entropy.FreshSince sealing.found) ∧
      (SealingCall.sealings entropy calls).Pairwise Sealing.Apart := by
  obtain ⟨count, drawn, placed, ordered⟩ := SealingCall.sealings_inOrder calls entropy
  rw [drawn] at distinct
  constructor
  · intro sealing member
    obtain ⟨place, within, placed⟩ := placed sealing member
    exact ⟨placed.showsDraws distinct within, placed.freshSince distinct within⟩
  · refine ordered.imp ?_
    rintro one other ⟨earlier, later, order, within, atEarlier, atLater⟩
    exact atEarlier.apart distinct atLater order within

/-- An intent is sealed twice in the same second, with failures between, to different payloads. -/
theorem sealed_twice_apart :
    let call : SealingCall := ⟨⟨"BUY", "BTC/€", "1", "2", "EUR", ""⟩, none, .whole 1700000000⟩
    let calls := [call, { call with keyHex := some "0x" }, { call with clock := .real .nan }, call]
    let entropy : Entropy :=
      { uuids := fun place => ⟨place⟩
        signingSeeds := fun place => List.replicate 32 (UInt8.ofNat place)
        sealingNonces := fun place => List.replicate 12 (UInt8.ofNat place) }
    entropy.NeverRepeats (SealingCall.performAll entropy calls) ∧
      ∃ first second, SealingCall.sealings entropy calls = [first, second] ∧
        first.built.encryptedPayload ≠ second.built.encryptedPayload ∧
        second.built.payloadNonce = .ok (List.replicate 12 2) := by
  intro call calls entropy
  obtain ⟨key, usable⟩ : ∃ key, parseKey demoKeyHex = .ok key := ⟨_, rfl⟩
  obtain ⟨refusal, unusable⟩ : ∃ refusal, parseKey "0x" = .error refusal := ⟨_, rfl⟩
  obtain ⟨fault, unread⟩ : ∃ fault, Clock.seconds (.real .nan) = .error fault := ⟨_, rfl⟩
  have read : ∀ seconds, Clock.seconds (.whole seconds) = .ok seconds := fun _ => rfl
  have drawn : SealingCall.performAll entropy calls = entropy.drawing 3 := by
    simp only [SealingCall.performAll, calls, List.foldl_cons, List.foldl_nil, SealingCall.perform,
      call, chooseKey, PlainIntent.build_of_usable usable, PlainIntent.build_of_unusable unusable]
    rfl
  obtain ⟨first, second, two, found⟩ : ∃ first second,
      SealingCall.sealings entropy calls = [first, second] ∧ second.found = entropy.drawing 2 := by
    simp only [SealingCall.sealings, calls, SealingCall.perform, call, chooseKey,
      PlainIntent.build_of_usable usable, PlainIntent.build_of_unusable unusable,
      PlainIntent.sealedUnder, unread, read]
    exact ⟨_, _, rfl, rfl⟩
  have bytes : ∀ {place other count : Nat}, place < 3 → other < 3 →
      List.replicate (count + 1) (UInt8.ofNat place) = List.replicate (count + 1) (UInt8.ofNat other) →
        place = other := by
    intro place other count fits fitsToo same
    have heads := congrArg UInt8.toNat (List.cons.inj same).1
    simp only [UInt8.toNat_ofNat'] at heads
    omega
  have distinct : entropy.NeverRepeats (SealingCall.performAll entropy calls) := by
    rw [drawn]
    refine ⟨?_, ?_, ?_, ?_, ?_⟩
    · intro place _ other _ same
      exact congrArg Uuid.value same
    · rintro place ⟨_, fits⟩ other ⟨_, fitsToo⟩ same
      exact bytes fits fitsToo same
    · rintro place ⟨_, fits⟩ other ⟨_, fitsToo⟩ same
      exact bytes fits fitsToo same
    · rintro place ⟨_, fits⟩
      exact Nat.lt_trans fits (by decide)
    · exact fun place _ => List.length_replicate
  obtain ⟨shows_, apart⟩ := sealings_share_nothing calls entropy distinct
  rw [two] at shows_ apart
  refine ⟨distinct, first, second, two, (List.pairwise_pair.mp apart).payloads, ?_⟩
  rw [(shows_ second (List.mem_cons_of_mem _ List.mem_cons_self)).1.payload, found]
  rfl

end OtcDesk
