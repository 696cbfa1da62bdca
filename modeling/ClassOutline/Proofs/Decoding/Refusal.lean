import ClassOutline.Pool.Kind
import ClassOutline.Proofs.Decoding.Runs
import ClassOutline.Text.ModifiedUtf8

set_option autoImplicit false

namespace ClassOutline

open View (numberAt)

namespace DecodeError

/-- What is wrong with the bytes themselves. No read begins more than four bytes behind them: the
longest jump over bytes that were not read is the one over the two class indices of a header. -/
inductive Malformed (data : Array UInt8) (source : Option Text) : DecodeError → Prop
  | truncated {position width : Nat} (near : position ≤ data.size + 4)
      (short : data.size < position + width) :
      Malformed data source { fault := .truncated width, offset := some position, source }
  | magic {number : Nat} (inside : 4 ≤ data.size) (found : number = numberAt data 0 4)
      (other : number ≠ 0xCAFEBABE) :
      Malformed data source { fault := .wrongMagic number, offset := some 0, source }
  | tag {position tag : Nat} (inside : position < data.size)
      (found : tag = numberAt data position 1) (unknown : Kind.ofTag? tag = none) :
      Malformed data source { fault := .unknownTag tag, offset := some position, source }
  | text {slot start finish : Nat} (inside : finish ≤ data.size)
      (invalid : ModifiedUtf8.decode? (data.extract start finish).toList = none) :
      Malformed data source { fault := .invalidUtf8 slot, offset := some start, source }
  | code {declared used start : Nat} (found : declared = numberAt data (start + 2) 4)
      (differ : used ≠ declared) :
      Malformed data source
        { fault := .codeLength declared used, offset := some (start + 6 : Nat), source }

theorem Malformed.isMalformed {data : Array UInt8} {source : Option Text} {error : DecodeError}
    (malformed : Malformed data source error) : error.fault.isMalformed = true := by
  cases malformed <;> rfl

end DecodeError

/-- A result that, if it is an error, is one for a reason. -/
def Decoded.FailsBy {α : Type} (reason : DecodeError → Prop) (result : Decoded α) : Prop :=
  ∀ error, result = .error error → reason error

namespace Decoded.FailsBy

variable {α β : Type} {reason : DecodeError → Prop}

theorem ok (value : α) : FailsBy reason (.ok value) :=
  nofun

theorem error {error : DecodeError} (holds : reason error) :
    FailsBy (α := α) reason (.error error) := by
  intro other same
  cases same
  exact holds

theorem bind {first : Decoded α} {rest : α → Decoded β} (here : FailsBy reason first)
    (others : ∀ value, first = .ok value → FailsBy reason (rest value)) :
    FailsBy reason (first >>= rest) := by
  intro error failed
  cases first with
  | error fault =>
    cases failed
    exact here error rfl
  | ok value => exact others value rfl error failed

theorem map {first : Decoded α} (convert : α → β) (here : FailsBy reason first) :
    FailsBy reason (first.map convert) := by
  intro error failed
  cases first with
  | error fault =>
    cases failed
    exact here error rfl
  | ok value => cases failed

theorem mono {weaker : DecodeError → Prop} {result : Decoded α} (here : FailsBy reason result)
    (weaken : ∀ error, reason error → weaker error) : FailsBy weaker result :=
  fun error failed => weaken error (here error failed)

theorem mapM {items : List α} {read : α → Decoded β}
    (each : ∀ item ∈ items, FailsBy reason (read item)) : FailsBy reason (items.mapM read) := by
  induction items with
  | nil => exact ok []
  | cons item rest ih =>
    rw [List.mapM_cons]
    apply (each item List.mem_cons_self).bind
    intro value _
    apply (ih fun other later => each other (List.mem_cons_of_mem item later)).bind
    intro values _
    exact ok (value :: values)

theorem recordsAt {read : Nat → Decoded α} {length : α → Nat} (inside : Nat → Prop)
    (each : ∀ offset, inside offset → FailsBy reason (read offset))
    (next : ∀ offset item, inside offset → read offset = .ok item → inside (offset + length item))
    (count : Nat) {offset : Nat} (first : inside offset) :
    FailsBy reason (ClassOutline.recordsAt read length count offset) := by
  intro error failed
  obtain ⟨place, reached, failed⟩ := recordsAt_eq_error_iff.mp failed
  exact each place (reached.inside inside next first) error failed

end Decoded.FailsBy

namespace View

open Decoded (FailsBy)
open DecodeError (Malformed)

variable {view : View} {start : Nat}

theorem truncated_eq (base : view.base = start) (offset width : Nat) :
    view.truncated offset width =
      { fault := .truncated width, offset := some (start + offset : Nat),
        source := view.source } := by
  have place : view.absolute offset = (start + offset : Nat) := by
    rw [absolute, base]
    omega
  rw [truncated, place]

theorem failsBy_unsigned (base : view.base = start) (width offset : Nat)
    (near : start + offset ≤ view.data.size + 4) :
    FailsBy (Malformed view.data view.source) (view.unsigned width offset) := by
  rw [unsigned_eq base, truncated_eq base]
  split
  · exact FailsBy.ok _
  · exact FailsBy.error (Malformed.truncated near (by omega))

theorem failsBy_raw (base : view.base = start) (offset length : Nat)
    (near : start + offset ≤ view.data.size + 4) :
    FailsBy (Malformed view.data view.source) (view.raw offset length) := by
  rw [raw_eq base, truncated_eq base]
  split
  · exact FailsBy.ok _
  · exact FailsBy.error (Malformed.truncated near (by omega))

section

variable {α : Type} {reason : DecodeError → Prop} {read : View → Decoded α}
  (base : view.base = start) (near : start ≤ view.data.size)
  (each : ∀ offset place : Nat, (view.window offset).base = place → place ≤ view.data.size →
    FailsBy reason (read (view.window offset)))

include base near each

theorem failsBy_records {length : α → Nat}
    (next : ∀ (offset place : Nat) (item : α), (view.window offset).base = place →
      read (view.window offset) = .ok item → place + length item ≤ view.data.size)
    (count : Nat) : FailsBy reason (view.records count length read) := by
  refine FailsBy.recordsAt (fun offset => start + offset ≤ view.data.size) ?_ ?_ count ?_
  · intro offset inside
    exact each offset _ (window_base_eq base offset) inside
  · intro offset item _ found
    have inside := next offset _ item (window_base_eq base offset) found
    omega
  · exact near

theorem failsBy_fixedRecords {width : Nat}
    (next : ∀ (offset place : Nat) (item : α), (view.window offset).base = place →
      read (view.window offset) = .ok item → place + width ≤ view.data.size) (count : Nat) :
    FailsBy reason (view.fixedRecords count width read) := by
  have place (index : Nat) : ((index : Int) * (width : Int)) = (index * width : Nat) :=
    (Int.natCast_mul index width).symm
  refine FailsBy.bind (FailsBy.recordsAt
    (fun index => start + index * width ≤ view.data.size) ?_ ?_ count ?_) ?_
  · intro index inside
    rw [place]
    exact each _ _ (window_base_eq base (index * width)) inside
  · intro index item _ found
    rw [place] at found
    have inside := next _ _ item (window_base_eq base (index * width)) found
    rw [Nat.add_mul, Nat.one_mul]
    omega
  · rw [Nat.zero_mul]
    exact near
  · intro result _
    exact FailsBy.ok _

end

end View

end ClassOutline
