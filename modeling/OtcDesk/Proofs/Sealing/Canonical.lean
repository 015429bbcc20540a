import OtcDesk.Proofs.Json.Faithful
import OtcDesk.Proofs.Sealing.Signing

namespace OtcDesk.PlainIntent

/-- The fields of an intent under their keys. -/
def fields (intent : PlainIntent) : List (String × Json) := [
  ("side", .str intent.side),
  ("asset_pair", .str intent.assetPair),
  ("amount", .str intent.amount),
  ("limit_price", .str intent.limitPrice),
  ("settlement_currency", .str intent.settlementCurrency),
  ("counterparty_id", .str intent.counterpartyId)]

/-- No two intents have the same text. -/
theorem canonical_injective : Function.Injective canonical := by
  intro intent other same
  have values := Json.write_inj Json.Style.compact_regular intent.plain_toJson other.plain_toJson same
  cases intent
  cases other
  simpa [toJson] using values

/-- The text of an intent reads as its six fields in order, and determines them. -/
theorem canonical_text_faithful (intent : PlainIntent) :
    Json.read? intent.canonical = some (.obj intent.fields) ∧
      Json.fieldPairs? intent.canonical = some intent.fields ∧
      (∀ c ∈ intent.canonical.toList, 0x20 ≤ c.toNat) ∧
      ∀ other : PlainIntent, other.canonical = intent.canonical ↔
        other.side = intent.side ∧ other.assetPair = intent.assetPair ∧
          other.amount = intent.amount ∧ other.limitPrice = intent.limitPrice ∧
          other.settlementCurrency = intent.settlementCurrency ∧
          other.counterpartyId = intent.counterpartyId := by
  refine ⟨intent.read?_canonical, ?pairs, ?shown, ?same⟩
  case pairs =>
    refine Json.fieldPairs?_write Json.Style.compact_regular ?_ rfl
    intro field member
    simp only [List.mem_cons, List.not_mem_nil, or_false] at member
    rcases member with rfl | rfl | rfl | rfl | rfl | rfl <;> exact .str _
  case shown =>
    rw [canonical, Json.write, String.toList_ofList]
    exact intent.plain_toJson.uncontrolled Json.Style.compact_uncontrolled
  case same =>
    intro other
    rw [canonical_injective.eq_iff]
    cases intent
    cases other
    simp

/-- A field that spells the beginning of the next one stays a field, and a line feed in it is not raw. -/
theorem forged_field_stays_text :
    let forged : PlainIntent := ⟨"BUY\",\"amount\":\"9", "BTC/€\n", "1\u0000", "\\", "🪙", ""⟩
    Json.fieldPairs? forged.canonical = some forged.fields ∧
      (∀ c ∈ forged.canonical.toList, c ≠ '\n') ∧
      forged.canonical ≠ (⟨"BUY", "BTC/€\n", "9", "\\", "🪙", ""⟩ : PlainIntent).canonical := by
  intro forged
  obtain ⟨-, pairs, shown, same⟩ := canonical_text_faithful forged
  refine ⟨pairs, ?raw, ?apart⟩
  case raw =>
    rintro c member rfl
    exact absurd (shown '\n' member) (by decide)
  case apart =>
    intro equal
    exact absurd ((same _).mp equal.symm).1 (by decide)

end OtcDesk.PlainIntent
