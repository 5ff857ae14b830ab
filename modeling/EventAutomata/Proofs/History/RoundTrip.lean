import EventAutomata.Proofs.Json.Reading
import EventAutomata.Proofs.Time.Rfc3339

/-!
# Histories are read back as they were written

A history is representable if its handles and its limit are below 2^64 and its times lie in the
years of the calendar and in no leap second. The text of such a history is read as that history,
record by record, and with its limit, whether or not the limit was kept to.
-/

namespace EventAutomata

open EventAutomata.Text EventAutomata.Time
open Json (Plain Reads Fills writeNat? nullable nat64)

/-- The parts of the record are ones that its written form can hold. -/
structure TransitRecord.Representable (r : TransitRecord) : Prop where
  source : ∀ s, r.source = some s → s.index < UInt64.size
  target : r.target.index < UInt64.size
  transition : r.transition.index < UInt64.size
  timestamp : r.timestamp.Regular

structure History.Representable (h : History) : Prop where
  records : ∀ r ∈ h.records, r.Representable
  limit : ∀ n, h.limit = some n → n < UInt64.size

-- ---------------------------------------------------------------------------
-- Timestamps need no escapes
-- ---------------------------------------------------------------------------

namespace Json

theorem plain_append {xs ys : List Char} (hxs : Plain xs) (hys : Plain ys) : Plain (xs ++ ys) :=
  List.forall_mem_append.2 ⟨hxs, hys⟩

theorem plain_cons {c : Char} {cs : List Char} (hc : c ≠ '"' ∧ c ≠ '\\' ∧ 0x20 ≤ c.toNat)
    (hcs : Plain cs) : Plain (c :: cs) :=
  List.forall_mem_cons.2 ⟨hc, hcs⟩

theorem plain_padded (width n : Nat) : Plain (padded width n) := by
  intro c hc
  have hdigit := isDigit_of_mem_padded hc
  have hvisible : 0x20 ≤ c.toNat :=
    Nat.le_trans (by decide : 0x20 ≤ '0'.toNat) (Char.isDigit_iff_toNat.1 hdigit).1
  refine ⟨?_, ?_, hvisible⟩ <;>
  · rintro rfl
    cases hdigit

theorem plain_write (t : Timestamp) : Plain (Rfc3339.write t) := by
  have hyear : Plain (Rfc3339.yearText t.date.year) := by
    unfold Rfc3339.yearText
    split
    next => exact plain_padded _ _
    next => exact plain_cons (by split <;> decide) (plain_padded _ _)
  have hfraction : Plain (Rfc3339.fractionText (t.nanos % nanosPerSecond)) := by
    unfold Rfc3339.fractionText
    repeat' split
    · exact nofun
    all_goals exact plain_cons (by decide) (plain_padded _ _)
  refine plain_append (plain_append ?_ (plain_cons (by decide) ?_)) (plain_cons (by decide) nofun)
  · exact plain_append (plain_append hyear (plain_cons (by decide) (plain_padded _ _)))
      (plain_cons (by decide) (plain_padded _ _))
  · exact plain_append (plain_append (plain_append (plain_padded _ _)
      (plain_cons (by decide) (plain_padded _ _))) (plain_cons (by decide) (plain_padded _ _)))
      hfraction

-- ---------------------------------------------------------------------------
-- Numbers and handles
-- ---------------------------------------------------------------------------

theorem head?_digits_ne (n : Nat) : (digits n).head? ≠ some 'n' := by
  intro hhead
  have hdigit : 'n'.isDigit = true := isDigit_of_mem_digits (List.mem_of_head? hhead)
  cases hdigit

theorem reads_nat64? {n : Option Nat} (hn : ∀ k, n = some k → k < UInt64.size) :
    Reads (nullable nat64) (writeNat? n) n := by
  cases n with
  | none => exact reads_null
  | some k => exact (reads_nat64 (hn k rfl)).nullable (head?_digits_ne k)

end Json

theorem Handle.reads {space : Space} {x : Handle space} (hx : x.index < UInt64.size) :
    Reads Handle.decoder x.toJson x := (Json.reads_nat64 hx).mapped Handle.mk

-- ---------------------------------------------------------------------------
-- Records and histories
-- ---------------------------------------------------------------------------

def TransitRecord.draft (r : TransitRecord) : TransitRecord.Draft :=
  ⟨some r.source, some r.target, some r.transition, some r.timestamp⟩

def History.draft (h : History) : History.Draft := ⟨some h.records, some h.limit⟩

theorem TransitRecord.reads {r : TransitRecord} (hr : r.Representable) :
    Reads TransitRecord.shape.decoder r.toJson r := by
  have hsource : Reads (nullable Handle.decoder) (writeNat? (r.source.map Handle.index))
      r.source := by
    cases hs : r.source with
    | none => exact Json.reads_null
    | some s => exact (Handle.reads (hr.source s hs)).nullable (Json.head?_digits_ne s.index)
  have htime : Reads (Json.text Rfc3339.read?) (Json.writePlain (Rfc3339.write r.timestamp))
      r.timestamp := Json.reads_text (Json.plain_write _) (Rfc3339.read?_write hr.timestamp)
  refine Json.reads_object (?_ : Fills _ _ _ r.draft) rfl
  refine .put rfl rfl (by decide) hsource ?_
  refine .put rfl rfl (by decide) (Handle.reads hr.target) ?_
  refine .put rfl rfl (by decide) (Handle.reads hr.transition) ?_
  refine .put rfl rfl (by decide) htime ?_
  exact .nil r.draft

theorem History.reads {h : History} (hh : h.Representable) :
    Reads History.shape.decoder h.toJson (.ofRecords h.records h.limit) := by
  have hrecords : Reads (Json.array TransitRecord.shape.decoder)
      (Json.writeArray (h.records.map TransitRecord.toJson)) h.records :=
    Json.reads_array fun r hr => TransitRecord.reads (hh.records r hr)
  refine Json.reads_object (?_ : Fills _ _ _ h.draft) rfl
  refine .put rfl rfl (by decide) hrecords ?_
  refine .put rfl rfl (by decide) (Json.reads_nat64? hh.limit) ?_
  exact .nil h.draft

/-- Nothing is lost in the written form of a representable history. -/
theorem History.ofJson_toJson {h : History} (hh : h.Representable) :
    History.ofJson h.toJson = .ok h := by
  have hread := (History.reads hh).reads Json.delimited_nil
  rw [List.append_nil] at hread
  rw [History.ofJson, Json.decode, hread]
  exact congrArg Except.ok (History.ext (History.records_ofRecords _ _) rfl)

/-- Times in the first and in the last second of the calendar, the largest handle, and a limit that
is smaller than the number of records. -/
def History.extremes : History :=
  .ofRecords [⟨none, ⟨UInt64.size - 1⟩, ⟨0⟩, ⟨-8334601228800, 1⟩⟩,
    ⟨some ⟨UInt64.size - 1⟩, ⟨0⟩, ⟨UInt64.size - 1⟩, ⟨8210266876799, 999999999⟩⟩] (some 1)

theorem History.ofJson_toJson_extremes :
    History.extremes.Representable ∧ History.extremes.records.length = 2 ∧
      History.extremes.limit = some 1 ∧
      History.ofJson History.extremes.toJson = .ok History.extremes := by
  have hrepresentable : History.extremes.Representable := by
    refine ⟨?_, ?_⟩
    · rw [History.extremes, History.records_ofRecords]
      rintro r hr
      simp only [List.mem_cons, List.not_mem_nil, or_false] at hr
      rcases hr with rfl | rfl
      · exact ⟨nofun, by decide, by decide, by decide⟩
      · refine ⟨?_, by decide, by decide, by decide⟩
        rintro s hs
        cases hs
        decide
    · rintro n hn
      cases hn
      decide
  exact ⟨hrepresentable, rfl, rfl, History.ofJson_toJson hrepresentable⟩

end EventAutomata
