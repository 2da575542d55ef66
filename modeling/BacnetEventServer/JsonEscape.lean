import BacnetEventServer.Logging

namespace BacnetEventServer

theorem length_escapeJsonByte_le (c : UInt8) : (escapeJsonByte c).length ≤ 2 := by
  unfold escapeJsonByte; split_ifs <;> simp

theorem escapeJsonByte_of_control {c : UInt8} (h9 : c ≠ 9) (h10 : c ≠ 10) (h13 : c ≠ 13)
    (hc : c < 32) : escapeJsonByte c = [c] := by
  have h34 : c ≠ 34 := fun h => by subst h; exact absurd hc (by decide)
  have h92 : c ≠ 92 := fun h => by subst h; exact absurd hc (by decide)
  simp [escapeJsonByte, h9, h10, h13, h34, h92]

/-- The loop appends the escapes of a prefix of the rest, within `output_size - 1` bytes. -/
theorem escapeJsonString_go (outputSize : Nat) (cs out : CStr) (hout : out.length ≤ outputSize - 1) :
    ∃ k ≤ cs.length,
      escapeJsonString.go outputSize cs out = out ++ ((cs.take k).map escapeJsonByte).flatten ∧
      (escapeJsonString.go outputSize cs out).length ≤ outputSize - 1 ∧
      (k < cs.length → outputSize - 2 ≤ (escapeJsonString.go outputSize cs out).length) := by
  induction cs generalizing out with
  | nil => exact ⟨0, le_rfl, by simp [escapeJsonString.go], by simpa [escapeJsonString.go], by simp⟩
  | cons c cs ih =>
    by_cases hroom : out.length < outputSize - 2
    · have hc := length_escapeJsonByte_le c
      obtain ⟨k, hk, heq, hlen, hfull⟩ :=
        ih (out ++ escapeJsonByte c) (by simp only [List.length_append]; omega)
      refine ⟨k + 1, by simpa using hk, ?_, ?_, fun hlt => ?_⟩
      · simp [escapeJsonString.go, hroom, heq]
      · simpa [escapeJsonString.go, hroom] using hlen
      · simpa [escapeJsonString.go, hroom] using hfull (by simpa using hlt)
    · exact ⟨0, by simp, by simp [escapeJsonString.go, hroom], by simpa [escapeJsonString.go, hroom],
        fun _ => by simp [escapeJsonString.go, hroom]; omega⟩

/-- `escape_json_string` writes the escapes of a prefix of the input within `output_size - 1`
bytes, and copies every control byte of it but tab, newline and return unescaped. -/
theorem escape_json_keeps_control_bytes (outputSize : Nat) (input : CStr) :
    ∃ k ≤ input.length,
      escapeJsonString outputSize input = ((input.take k).map escapeJsonByte).flatten ∧
      (escapeJsonString outputSize input).length ≤ outputSize - 1 ∧
      (k < input.length → outputSize - 2 ≤ (escapeJsonString outputSize input).length) ∧
      ∀ b ∈ input.take k, b < 32 → b ≠ 9 → b ≠ 10 → b ≠ 13 →
        b ∈ escapeJsonString outputSize input := by
  obtain ⟨k, hk, heq, hlen, hfull⟩ := escapeJsonString_go outputSize input [] (by simp)
  rw [List.nil_append] at heq
  refine ⟨k, hk, heq, hlen, hfull, fun b hb h32 h9 h10 h13 => ?_⟩
  rw [escapeJsonString, heq, List.mem_flatten]
  exact ⟨[b], List.mem_map.mpr ⟨b, hb, escapeJsonByte_of_control h9 h10 h13 h32⟩,
    List.mem_singleton_self b⟩

/-- A message holding the byte `0x01` is logged with that byte raw inside the JSON string. -/
theorem escape_json_copies_start_of_heading :
    (1 : UInt8) ∈ escapeJsonString logMaxMessageSize [1] := by
  obtain ⟨k, -, -, -, hfull, hctrl⟩ := escape_json_keeps_control_bytes logMaxMessageSize [1]
  have hk : 1 ≤ k := by
    by_contra hk
    have := hfull (by simpa using hk)
    exact absurd this (by decide)
  exact hctrl 1 (by rw [List.take_of_length_le (by simpa using hk)]; simp) (by decide)
    (by decide) (by decide) (by decide)

end BacnetEventServer
