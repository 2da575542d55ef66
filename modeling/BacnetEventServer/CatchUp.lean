import BacnetEventServer.KurrentDb

namespace BacnetEventServer

theorem doubleOfInt_of_lt {k : Nat} (h : k < 2 ^ 53) : doubleOfInt k = CDouble.ofInt k := by
  have hs : (List.range 64).filter (fun s => 2 ^ (53 + s) ≤ k) = [] :=
    List.filter_eq_nil_iff.mpr fun s _ => by
      simpa using Nat.lt_of_lt_of_le h (Nat.pow_le_pow_right (by norm_num) (Nat.le_add_right 53 s))
  simp [doubleOfInt, hs, roundHalfEven, Nat.mod_one, Int.natCast_nonneg, not_lt.mpr]

theorem castUInt64_ofInt {k : Nat} (h : k < 2 ^ 63) : castUInt64 (CDouble.ofInt k) = k := by
  have htrunc : (CDouble.ofInt k).trunc = k := by simp [CDouble.trunc, CDouble.ofInt]
  rw [castUInt64, castInt64, htrunc, if_neg (by omega), if_pos (by omega)]
  omega

/-- A server holding the events `0 .. length - 1` of a stream, `entry k` being the entry it
lists for event `k`: a read of `n` events forward from `p` answers the events numbered `p`
up to `min (p + n) length - 1`, newest first. -/
def streamServer (length : Nat) (entry : Nat → Json) (p n : Nat) : FetchOutcome :=
  .response 200 (some (.object [(lit "entries",
    .array ((List.range' p (min (p + n) length - p)).reverse.map entry))]))

theorem getObjectItemCI_singleton (key : CStr) (v : Json) :
    (Json.object [(key, v)]).getObjectItemCI key = some v := by
  simp [Json.getObjectItemCI]

section Stream

variable {length : Nat} {entry : Nat → Json}

/-- An entry numbered `k < 2 ^ 53` names event `k` and moves the position to `k + 1`. -/
theorem numberField_of_number {e : Json} {k : Nat} (hk : k < 2 ^ 53)
    (h : e.getObjectItemCI (lit "eventNumber") = some (.number (doubleOfInt k))) :
    numberField e (lit "eventNumber") = k ∧ ∀ p, nextPosition p e = k + 1 := by
  have hnum : numberField e (lit "eventNumber") = k := by
    simp only [numberField, h, isNumberItem, Json.isNumber, if_true, valueDouble]
    rw [doubleOfInt_of_lt hk, castUInt64_ofInt (by omega)]
  refine ⟨hnum, fun p => ?_⟩
  simp only [nextPosition, h, isNumberItem, Json.isNumber, if_true, hnum]
  exact Nat.mod_eq_of_lt (by omega)

theorem foldl_nextPosition (hlength : length ≤ 2 ^ 53)
    (hnum : ∀ k < length,
      (entry k).getObjectItemCI (lit "eventNumber") = some (.number (doubleOfInt k)))
    (p m : Nat) (hm : p + m ≤ length) :
    ((List.range' p m).map entry).foldl nextPosition p = p + m := by
  induction m generalizing p with
  | zero => rfl
  | succ m ih =>
    rw [List.range'_succ, List.map_cons, List.foldl_cons,
      (numberField_of_number (by omega) (hnum p (by omega))).2, ih (p + 1) (by omega)]
    omega

/-- One pass delivers the next batch and moves past it, or catches up at the end. -/
theorem catchupPass_streamServer (hlength : length ≤ 2 ^ 53)
    (hnum : ∀ k < length,
      (entry k).getObjectItemCI (lit "eventNumber") = some (.number (doubleOfInt k)))
    (p : Nat) :
    catchupPass (streamServer length entry p 100) p =
      if p < length then
        ((List.range' p (min (p + 100) length - p)).map (catchupEntryEvent ∘ entry),
          min (p + 100) length, false)
      else ([], p, true) := by
  simp only [catchupPass, streamServer, getObjectItemCI_singleton, List.length_reverse,
    List.length_map, List.length_range', List.map_reverse, List.reverse_reverse, List.map_map]
  split_ifs with h1 h2 h2
  · omega
  · rfl
  · rw [foldl_nextPosition hlength hnum p _ (by omega)]
    simp only [Prod.mk.injEq, and_true, true_and]
    omega
  · omega

theorem catchupThread_streamServer (hlength : length ≤ 2 ^ 53)
    (hnum : ∀ k < length,
      (entry k).getObjectItemCI (lit "eventNumber") = some (.number (doubleOfInt k)))
    (fuel p : Nat) (hfuel : (length - p + 99) / 100 < fuel) :
    catchupThread (streamServer length entry) fuel p =
      ((List.range' p (length - p)).map (catchupEntryEvent ∘ entry), true) := by
  induction fuel generalizing p with
  | zero => omega
  | succ fuel ih =>
    have hpass := catchupPass_streamServer hlength hnum p
    by_cases h : p < length
    · rw [if_pos h] at hpass
      simp only [catchupThread, hpass, Bool.false_eq_true, ↓reduceIte]
      have hsplit := List.range'_append_1 p (min (p + 100) length - p)
        (length - min (p + 100) length)
      rw [show p + (min (p + 100) length - p) = min (p + 100) length by omega,
        show length - min (p + 100) length + (min (p + 100) length - p) = length - p by omega]
        at hsplit
      rw [ih _ (by omega), ← List.map_append, hsplit]
    · rw [if_neg h] at hpass
      simp [catchupThread, hpass, Nat.sub_eq_zero_of_le (Nat.le_of_not_lt h)]

end Stream

/-- Against a stream of at most `2 ^ 53` events, the catch-up loop started at `p0` hands
`on_event` every event numbered from `p0` on, once each and in increasing order, and ends by
catching up, given the passes that takes. -/
theorem catchup_delivers_stream_suffix (length : Nat) (entry : Nat → Json) (p0 fuel : Nat)
    (hlength : length ≤ 2 ^ 53)
    (hnum : ∀ k < length,
      (entry k).getObjectItemCI (lit "eventNumber") = some (.number (doubleOfInt k)))
    (hfuel : (length - p0 + 99) / 100 < fuel) :
    (catchupThread (streamServer length entry) fuel p0).1 =
        (List.range' p0 (length - p0)).map (catchupEntryEvent ∘ entry) ∧
      (catchupThread (streamServer length entry) fuel p0).1.map KEvent.eventNumber =
        List.range' p0 (length - p0) ∧
      (catchupThread (streamServer length entry) fuel p0).2 = true := by
  rw [catchupThread_streamServer hlength hnum fuel p0 hfuel]
  refine ⟨rfl, ?_, rfl⟩
  conv_rhs => rw [← List.map_id (List.range' p0 (length - p0))]
  rw [List.map_map]
  refine List.map_congr_left fun k hk => ?_
  obtain ⟨hk0, hk⟩ := List.mem_range'_1.mp hk
  exact (numberField_of_number (by omega) (hnum k (by omega))).1

/-- Three events read from event 1 on: events 1 and 2, in two passes. -/
theorem catchup_three_events_from_one :
    let entry : Nat → Json := fun k => .object [(lit "eventNumber", .number (doubleOfInt k))]
    (3 ≤ 2 ^ 53 ∧ (3 - 1 + 99) / 100 < 2) ∧
    (catchupThread (streamServer 3 entry) 2 1).1.map KEvent.eventNumber = [1, 2] ∧
      (catchupThread (streamServer 3 entry) 2 1).2 = true :=
  have h := catchup_delivers_stream_suffix 3
    (fun k => .object [(lit "eventNumber", .number (doubleOfInt k))]) 1 2 (by decide)
    (fun _ _ => getObjectItemCI_singleton _ _) (by decide)
  ⟨by decide, h.2.1, h.2.2⟩

/-- Past `2 ^ 53` the catch-up loop hands over the same event on every pass. -/
theorem catchupThread_stuck_past_double_precision (fuel : Nat) :
    let entry : Nat → Json := fun k => .object [(lit "eventNumber", .number (doubleOfInt k))]
    (catchupThread (streamServer (2 ^ 53 + 2) entry) fuel (2 ^ 53 + 1)).1.map
        KEvent.eventNumber = List.replicate fuel (2 ^ 53) ∧
      (catchupThread (streamServer (2 ^ 53 + 2) entry) fuel (2 ^ 53 + 1)).2 = false := by
  intro entry
  have hpass : (catchupPass (streamServer (2 ^ 53 + 2) entry (2 ^ 53 + 1) 100)
      (2 ^ 53 + 1)).1.map KEvent.eventNumber = [2 ^ 53] ∧
      (catchupPass (streamServer (2 ^ 53 + 2) entry (2 ^ 53 + 1) 100) (2 ^ 53 + 1)).2 =
        (2 ^ 53 + 1, false) := by
    decide
  induction fuel with
  | zero => exact ⟨rfl, rfl⟩
  | succ fuel ih =>
    simp only [catchupThread, hpass.2, Bool.false_eq_true, ↓reduceIte, List.map_append,
      hpass.1, ih.1, ih.2, List.replicate_succ, List.singleton_append, and_self]

/-- Two reads, more than the one a stream with a single event left needs, hand event
`2 ^ 53 + 1` over twice under the number `2 ^ 53`, and the loop has not caught up. -/
theorem catchup_repeats_event_past_double_precision :
    let entry : Nat → Json := fun k => .object [(lit "eventNumber", .number (doubleOfInt k))]
    (catchupThread (streamServer (2 ^ 53 + 2) entry) 2 (2 ^ 53 + 1)).1.map
        KEvent.eventNumber = [2 ^ 53, 2 ^ 53] ∧
      (catchupThread (streamServer (2 ^ 53 + 2) entry) 2 (2 ^ 53 + 1)).2 = false :=
  catchupThread_stuck_past_double_precision 2

end BacnetEventServer
