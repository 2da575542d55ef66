import BacnetEventServer.SubscriptionTable

namespace BacnetEventServer

/-- A C string as `strcmp` and `strncpy` read it: the bytes before the first NUL. -/
def cString (s : CStr) : CStr := s.takeWhile (· != 0)

/-- `%.<p>f` for `p ≥ 1`: the value rounded to `p` decimals, ties to even, as a sign, the
integer part, a point and `p` digits. -/
def printfFixedText (p : Nat) (x : CDouble) : CStr :=
  let m := roundHalfEven (x.num.natAbs * 10 ^ p) x.den
  let frac := decimalText (m % 10 ^ p : Nat)
  (if x.num < 0 then lit "-" else []) ++ decimalText (m / 10 ^ p : Nat) ++ lit "." ++
    List.replicate (p - frac.length) 48 ++ frac

/-- `%f` of a `float` (promoted to `double`): glibc prints `inf` and `nan` with their sign. -/
def printfFloat (f : CFloat) : CStr :=
  if f.isFinite then printfFixedText 6 f.toDouble
  else (if f.negative then lit "-" else []) ++ if f.mantissaField = 0 then lit "inf" else lit "nan"

namespace Cjson

/-- `buffer_skip_whitespace`: every byte up to the space. -/
def skipWhitespace (s : CStr) : CStr := s.dropWhile (· ≤ 32)

/-- `skip_utf8_bom`. -/
def skipUtf8Bom : CStr → CStr
  | 0xEF :: 0xBB :: 0xBF :: rest => rest
  | s => s

/-- The first loop of `parse_string`, from the byte after the opening quote: a backslash
takes the next byte with it, and the string ends at the first other quote. The body before
that quote, and the text after it; `none` when the text ends first. -/
def stringEnd : CStr → Option (CStr × CStr)
  | [] => none
  | b :: rest =>
    if b = 34 then some ([], rest)
    else if b = 92 then
      match rest with
      | c :: rest => (stringEnd rest).map fun (body, after) => (92 :: c :: body, after)
      | [] => none
    else (stringEnd rest).map fun (body, after) => (b :: body, after)

def hexValue (b : UInt8) : Option Nat :=
  if 48 ≤ b ∧ b ≤ 57 then some (b.toNat - 48)
  else if 65 ≤ b ∧ b ≤ 70 then some (b.toNat - 55)
  else if 97 ≤ b ∧ b ≤ 102 then some (b.toNat - 87)
  else none

/-- `parse_hex4`: `0` as soon as a byte is not a hex digit. -/
def parseHex4 (h1 h2 h3 h4 : UInt8) : Nat :=
  match hexValue h1, hexValue h2, hexValue h3, hexValue h4 with
  | some a, some b, some c, some d => ((a * 16 + b) * 16 + c) * 16 + d
  | _, _, _, _ => 0

/-- The UTF-8 bytes `utf16_literal_to_utf8` writes for a code point up to `0x10FFFF`. -/
def utf8Bytes (cp : Nat) : CStr :=
  if cp < 0x80 then [UInt8.ofNat cp]
  else if cp < 0x800 then [UInt8.ofNat (0xC0 + cp / 64), UInt8.ofNat (0x80 + cp % 64)]
  else if cp < 0x10000 then
    [UInt8.ofNat (0xE0 + cp / 4096), UInt8.ofNat (0x80 + cp / 64 % 64),
      UInt8.ofNat (0x80 + cp % 64)]
  else
    [UInt8.ofNat (0xF0 + cp / 262144), UInt8.ofNat (0x80 + cp / 4096 % 64),
      UInt8.ofNat (0x80 + cp / 64 % 64), UInt8.ofNat (0x80 + cp % 64)]

/-- The byte a two-byte escape stands for. -/
def escapedByte (c : UInt8) : Option UInt8 :=
  if c = 98 then some 8
  else if c = 102 then some 12
  else if c = 110 then some 10
  else if c = 114 then some 13
  else if c = 116 then some 9
  else if c = 34 ∨ c = 92 ∨ c = 47 then some c
  else none

mutual

/-- The second loop of `parse_string` over the body `stringEnd` found: the bytes it writes,
`none` for an escape it rejects. -/
def decodeString : CStr → Option CStr
  | [] => some []
  | b :: rest => if b ≠ 92 then (decodeString rest).map (b :: ·) else decodeEscape rest

/-- An escape, after its backslash: a letter of `b f n r t " \ /`, or `u` and four bytes
read by `utf16_literal_to_utf8`, which rejects a low surrogate first and wants a high one
followed by `\u` and a low one. -/
def decodeEscape : CStr → Option CStr
  | 117 :: h1 :: h2 :: h3 :: h4 :: rest =>
    let first := parseHex4 h1 h2 h3 h4
    if 0xDC00 ≤ first ∧ first ≤ 0xDFFF then none
    else if 0xD800 ≤ first ∧ first ≤ 0xDBFF then decodeLowSurrogate first rest
    else (decodeString rest).map (utf8Bytes first ++ ·)
  | 117 :: _ => none
  | c :: rest => (escapedByte c).bind fun e => (decodeString rest).map (e :: ·)
  | [] => none

def decodeLowSurrogate (first : Nat) : CStr → Option CStr
  | 92 :: 117 :: l1 :: l2 :: l3 :: l4 :: rest =>
    let second := parseHex4 l1 l2 l3 l4
    if 0xDC00 ≤ second ∧ second ≤ 0xDFFF then
      (decodeString rest).map (utf8Bytes (0x10000 + first % 0x400 * 0x400 + second % 0x400) ++ ·)
    else none
  | _ => none

end

/-- `parse_string` from the byte after the opening quote: the string as C reads
`valuestring` (up to a NUL a `\u0000` wrote), and the text after the closing quote. -/
def parseString (s : CStr) : Option (CStr × CStr) := do
  let (body, after) ← stringEnd s
  let bytes ← decodeString body
  pure (cString bytes, after)

/-- The bytes `parse_number` copies for `strtod`. -/
def isNumberByte (b : UInt8) : Bool :=
  isDigit b || b == 43 || b == 45 || b == 101 || b == 69 || b == 46

/-- The exponent `strtod` reads: `e` or `E`, a sign and at least one digit. -/
def scanExponent : CStr → Option (Int × CStr)
  | b :: rest =>
    if b = 101 ∨ b = 69 then
      let (negative, rest) := scanSign rest
      let ds := rest.takeWhile isDigit
      if ds = [] then none
      else some (if negative then -(digitsValue ds : Int) else digitsValue ds, rest.dropWhile isDigit)
    else none
  | [] => none

/-- `strtod` on the bytes `parse_number` copied: the value and the bytes left, `none` when no
digit starts the text. An integer is rounded to the nearest double; a literal with a point or
an exponent keeps its exact decimal value, as the model's doubles do. -/
def strtod (s : CStr) : Option (CDouble × CStr) :=
  let (negative, s1) := scanSign s
  let whole := s1.takeWhile isDigit
  let s2 := s1.dropWhile isDigit
  let (point, frac, s3) : Bool × CStr × CStr := match s2 with
    | 46 :: r => (true, r.takeWhile isDigit, r.dropWhile isDigit)
    | r => (false, [], r)
  if whole = [] ∧ frac = [] then none
  else
    let m : Int := digitsValue (whole ++ frac)
    let m := if negative then -m else m
    match scanExponent s3 with
    | none =>
      if point then some (⟨m, 10 ^ frac.length, by positivity⟩, s3)
      else some (doubleOfInt m, s3)
    | some (e, s4) =>
      let scale := e - frac.length
      some (if 0 ≤ scale then CDouble.ofInt (m * 10 ^ scale.toNat)
        else ⟨m, 10 ^ (-scale).toNat, by positivity⟩, s4)

/-- `parse_number`: at most 63 number bytes go to `strtod`, and the input moves past what
`strtod` read. -/
def parseNumber (s : CStr) : Option (Json × CStr) :=
  let chars := (s.takeWhile isNumberByte).take 63
  (strtod chars).map fun (x, left) => (.number x, s.drop (chars.length - left.length))

mutual

/-- `parse_value`, with `fuel` bounding the nesting of the calls (every call reads at least
one byte). -/
def parseValue : Nat → CStr → Option (Json × CStr)
  | 0, _ => none
  | _ + 1, [] => none
  | fuel + 1, b :: rest =>
    if (b :: rest).take 4 = lit "null" then some (.null, rest.drop 3)
    else if (b :: rest).take 5 = lit "false" then some (.bool false, rest.drop 4)
    else if (b :: rest).take 4 = lit "true" then some (.bool true, rest.drop 3)
    else if b = 34 then (parseString rest).map fun (str, after) => (.string str, after)
    else if b = 45 ∨ isDigit b then parseNumber (b :: rest)
    else if b = 91 then
      match skipWhitespace rest with
      | [] => none
      | c :: after =>
        if c = 93 then some (.array [], after)
        else (parseElements fuel rest []).map fun (items, after) => (.array items, after)
    else if b = 123 then
      match skipWhitespace rest with
      | [] => none
      | c :: after =>
        if c = 125 then some (.object [], after)
        else (parseMembers fuel rest []).map fun (ms, after) => (.object ms, after)
    else none

/-- The loop of `parse_array` after `[`: a value, then `,` or `]`. -/
def parseElements : Nat → CStr → List Json → Option (List Json × CStr)
  | 0, _, _ => none
  | fuel + 1, s, items => do
    let (item, after) ← parseValue fuel (skipWhitespace s)
    match skipWhitespace after with
    | [] => none
    | c :: rest =>
      if c = 44 then parseElements fuel rest (items ++ [item])
      else if c = 93 then some (items ++ [item], rest)
      else none

/-- The loop of `parse_object` after `{`: a string, `:`, a value, then `,` or `}`. -/
def parseMembers : Nat → CStr → List (CStr × Json) → Option (List (CStr × Json) × CStr)
  | 0, _, _ => none
  | fuel + 1, s, members => do
    let s1 ← scanLiteral 34 (skipWhitespace s)
    let (key, s2) ← parseString s1
    let s3 ← scanLiteral 58 (skipWhitespace s2)
    let (value, s4) ← parseValue fuel (skipWhitespace s3)
    match skipWhitespace s4 with
    | [] => none
    | c :: rest =>
      if c = 44 then parseMembers fuel rest (members ++ [(key, value)])
      else if c = 125 then some (members ++ [(key, value)], rest)
      else none

end

end Cjson

/-- `"%s"`. -/
def quoted (s : CStr) : CStr := 34 :: s ++ [34]

/-- What cJSON reads from `"%s"` of a string, when its scan ends at the closing quote. -/
def readQuoted (s : CStr) : Option CStr :=
  match Cjson.parseString (s ++ [34]) with
  | some (str, []) => some str
  | _ => none

/-- `"key":value` members joined by `,`. -/
def membersText : List (CStr × CStr) → CStr
  | [] => []
  | [(key, value)] => quoted key ++ 58 :: value
  | (key, value) :: ms => quoted key ++ 58 :: value ++ 44 :: membersText ms

/-- A string that `"%s"` prints and cJSON reads back unchanged: no NUL, quote or
backslash. -/
def plainText (s : CStr) : Bool := s.all fun b => b != 0 && b != 34 && b != 92

open Cjson in
/-- `cJSON_ParseWithLength`: the value at the start of the text; what follows it is not
looked at. -/
def cJSONParseWithLength (s : CStr) : Option Json :=
  (parseValue (s.length + 1) (skipWhitespace (skipUtf8Bom s))).map (·.1)

theorem isDigit_of_mem_toDigitsCore {fuel n : Nat} {b : UInt8}
    (hb : b ∈ (Nat.toDigitsCore 10 fuel n []).flatMap String.utf8EncodeChar) :
    isDigit b = true := by
  induction fuel generalizing n with
  | zero => simp [Nat.toDigitsCore] at hb
  | succ fuel ih =>
    have hmod : n % 10 < 10 := Nat.mod_lt n (by omega)
    have hlast : b ∈ String.utf8EncodeChar (Nat.digitChar (n % 10)) → isDigit b = true := by
      rw [utf8EncodeChar_digitChar hmod, List.mem_singleton]
      rintro rfl
      exact (digitByte_facts hmod).1
    simp only [Nat.toDigitsCore] at hb
    split_ifs at hb
    · simpa using hlast (by simpa using hb)
    · rw [toDigitsCore_append, List.flatMap_append, List.mem_append] at hb
      rcases hb with hb | hb
      · exact ih hb
      · exact hlast (by simpa using hb)

/-- A non-negative `%d` prints at most `e` digits of its value below `10 ^ e`. -/
theorem decimalText_natCast (n : Nat) :
    decimalText n ≠ [] ∧ (∀ b ∈ decimalText n, isDigit b = true) ∧
      digitsValue (decimalText n) = n ∧ ∀ e, 0 < e → n < 10 ^ e → (decimalText n).length ≤ e := by
  obtain ⟨hval, -, hlen⟩ := toDigitsCore_bytes (Nat.lt_succ_self n)
  rw [decimalText_eq]
  refine ⟨fun h => ?_, fun b hb => isDigit_of_mem_toDigitsCore hb, hval, hlen⟩
  have hone : ((Nat.toDigitsCore 10 (n + 1) n []).flatMap String.utf8EncodeChar) ≠ [] := by
    simp only [Nat.toDigitsCore]
    split_ifs
    · simp [utf8EncodeChar_digitChar (Nat.mod_lt n (by omega : 10 > 0))]
    · rw [toDigitsCore_append]
      simp [utf8EncodeChar_digitChar (Nat.mod_lt n (by omega : 10 > 0))]
  exact hone h

theorem decimalText_negSucc (m : Nat) :
    decimalText (Int.negSucc m) = 45 :: decimalText ((m + 1 : Nat) : Int) := rfl

theorem foldl_digits (ds : CStr) (acc : Nat) :
    ds.foldl (fun acc d => 10 * acc + (d.toNat - 48)) acc = acc * 10 ^ ds.length + digitsValue ds := by
  induction ds generalizing acc with
  | nil => simp [digitsValue]
  | cons d ds ih =>
    simp only [List.foldl_cons, digitsValue, List.length_cons] at ih ⊢
    rw [ih, ih (10 * 0 + _)]
    ring

theorem digitsValue_append (a b : CStr) :
    digitsValue (a ++ b) = digitsValue a * 10 ^ b.length + digitsValue b := by
  rw [digitsValue, List.foldl_append, foldl_digits]
  rfl

theorem digitsValue_zeros (k : Nat) : digitsValue (List.replicate k 48) = 0 := by
  induction k with
  | zero => rfl
  | succ k ih => rw [List.replicate_succ', digitsValue_append_digit, ih]; rfl

namespace Cjson

variable {s t rest : CStr} {b : UInt8}

theorem skipWhitespace_cons (s : CStr) (h : 32 < b.toNat) : skipWhitespace (b :: s) = b :: s :=
  List.dropWhile_cons_of_neg fun hb => by
    have : b.toNat ≤ 32 := of_decide_eq_true hb
    omega

theorem skipUtf8Bom_cons (s : CStr) (h : b ≠ 0xEF) : skipUtf8Bom (b :: s) = b :: s := by
  unfold skipUtf8Bom
  split
  · simp_all
  · rfl

theorem stringEnd_append {body : CStr} (h : stringEnd t = some (body, [])) (rest : CStr) :
    stringEnd (t ++ rest) = some (body, rest) := by
  induction t using stringEnd.induct generalizing body with
  | case1 => cases h
  | case2 r =>
    unfold stringEnd at h
    simp only [↓reduceIte, Option.some.injEq, Prod.mk.injEq] at h
    obtain ⟨rfl, rfl⟩ := h
    unfold stringEnd
    simp
  | case3 c r h34 ih =>
    unfold stringEnd at h
    simp only [h34, ↓reduceIte, Option.map_eq_some', Prod.exists, Prod.mk.injEq] at h
    obtain ⟨body', after, hr, rfl, rfl⟩ := h
    rw [List.cons_append, List.cons_append]
    unfold stringEnd
    simp [h34, ih hr]
  | case4 => simp [stringEnd] at h
  | case5 b' r h34 h92 ih =>
    unfold stringEnd at h
    simp only [if_neg h34, if_neg h92, Option.map_eq_some', Prod.exists, Prod.mk.injEq] at h
    obtain ⟨body', after, hr, rfl, rfl⟩ := h
    rw [List.cons_append]
    unfold stringEnd
    simp [h34, h92, ih hr]

theorem parseString_append {str : CStr} (h : parseString t = some (str, [])) (rest : CStr) :
    parseString (t ++ rest) = some (str, rest) := by
  simp only [parseString, Option.bind_eq_bind, Option.bind_eq_some, Option.pure_def,
    Option.some.injEq, Prod.mk.injEq] at h ⊢
  obtain ⟨⟨body, after⟩, hend, bytes, hbytes, rfl, rfl⟩ := h
  exact ⟨(body, rest), stringEnd_append hend rest, bytes, hbytes, rfl, rfl⟩

theorem parseString_of_readQuoted {str : CStr} (h : readQuoted s = some str) (rest : CStr) :
    parseString (s ++ 34 :: rest) = some (str, rest) := by
  unfold readQuoted at h
  split at h
  · rename_i hparse
    cases h
    simpa using parseString_append hparse rest
  · cases h

theorem plainText_iff : plainText s = true ↔ ∀ b ∈ s, b ≠ 0 ∧ b ≠ 34 ∧ b ≠ 92 := by
  simp [plainText, List.all_eq_true, and_assoc]

theorem stringEnd_of_plain (h : ∀ b ∈ s, b ≠ 34 ∧ b ≠ 92) :
    stringEnd (s ++ [34]) = some (s, []) := by
  induction s with
  | nil => rfl
  | cons b s ih =>
    obtain ⟨h34, h92⟩ := h b (List.mem_cons_self _ _)
    rw [List.cons_append]
    unfold stringEnd
    simp only [if_neg h34, if_neg h92, ih fun b' hb' => h b' (List.mem_cons_of_mem _ hb')]
    rfl

theorem decodeString_of_plain (h : ∀ b ∈ s, b ≠ 92) : decodeString s = some s := by
  induction s with
  | nil => rfl
  | cons b s ih =>
    simp only [decodeString, if_pos (h b (List.mem_cons_self _ _)),
      ih fun b' hb' => h b' (List.mem_cons_of_mem _ hb')]
    rfl

theorem readQuoted_of_plain (h : plainText s = true) : readQuoted s = some s := by
  have hplain := plainText_iff.mp h
  have hcut : cString s = s := List.takeWhile_eq_self_iff.mpr fun b hb => by
    simpa using (hplain b hb).1
  simp [readQuoted, parseString,
    stringEnd_of_plain fun b hb => ⟨(hplain b hb).2.1, (hplain b hb).2.2⟩,
    decodeString_of_plain fun b hb => (hplain b hb).2.2, hcut]

theorem scanSign_sign (negative : Bool) {ds : CStr} (hne : ds ≠ [])
    (hhead : ∀ c ∈ ds.head?, isDigit c = true) :
    scanSign ((if negative then [45] else []) ++ ds) = (negative, ds) := by
  cases negative
  · obtain ⟨b, bs, rfl⟩ := List.exists_cons_of_ne_nil hne
    exact scanSign_of_isDigit bs (hhead b rfl)
  · rfl

theorem head_isDigit {ds rest : CStr} (hne : ds ≠ []) (hds : ∀ b ∈ ds, isDigit b = true) :
    ∀ c ∈ (ds ++ rest).head?, isDigit c = true := by
  obtain ⟨b, bs, rfl⟩ := List.exists_cons_of_ne_nil hne
  intro c hc
  simp only [List.cons_append, List.head?_cons, Option.mem_def, Option.some.injEq] at hc
  subst hc
  exact hds _ (List.mem_cons_self _ _)

/-- `strtod` reads a run of digits, signed or not, as its value rounded to a double. -/
theorem strtod_integer (negative : Bool) {ds : CStr} (hne : ds ≠ [])
    (hds : ∀ b ∈ ds, isDigit b = true) :
    strtod ((if negative then [45] else []) ++ ds) =
      some (doubleOfInt (if negative then -(digitsValue ds : Int) else digitsValue ds), []) := by
  have hsign := scanSign_sign negative hne (by simpa using @head_isDigit _ [] hne hds)
  simp only [strtod, hsign, List.takeWhile_eq_self_iff.mpr hds,
    List.dropWhile_eq_nil_iff.mpr hds, hne, false_and, if_false, List.append_nil]
  rfl

/-- `strtod` reads `%f`'s digits, point and fraction as their exact decimal value. -/
theorem strtod_fixed (negative : Bool) {ws fs : CStr} (hne : ws ≠ [])
    (hws : ∀ b ∈ ws, isDigit b = true) (hfs : ∀ b ∈ fs, isDigit b = true) :
    strtod ((if negative then [45] else []) ++ (ws ++ 46 :: fs)) =
      some (⟨if negative then -(digitsValue (ws ++ fs) : Int) else digitsValue (ws ++ fs),
        10 ^ fs.length, by positivity⟩, []) := by
  have hpoint : ∀ c ∈ (46 :: fs).head?, isDigit c = false := by simp [isDigit]
  obtain ⟨htake, hdrop⟩ := takeWhile_isDigit hws hpoint
  simp only [strtod, scanSign_sign negative (show ws ++ 46 :: fs ≠ [] by simp)
    (head_isDigit hne hws), htake, hdrop,
    List.takeWhile_eq_self_iff.mpr hfs, List.dropWhile_eq_nil_iff.mpr hfs, hne, false_and,
    if_false]
  rfl

/-- `parse_number` reads a number's text whole before a byte that ends it. -/
theorem parseNumber_append {text : CStr} {x : CDouble} (hnum : ∀ b ∈ text, isNumberByte b = true)
    (hlen : text.length ≤ 63) (hrest : ∀ c ∈ rest.head?, isNumberByte c = false)
    (h : strtod text = some (x, [])) : parseNumber (text ++ rest) = some (.number x, rest) := by
  have htake : (text ++ rest).takeWhile isNumberByte = text := by
    rw [List.takeWhile_append_of_pos hnum]
    cases rest with
    | nil => simp
    | cons c cs => simp [List.takeWhile_cons_of_neg (by simpa using hrest c rfl)]
  simp only [parseNumber, htake, List.take_of_length_le hlen, h, Option.map_some',
    List.length_nil, Nat.sub_zero, List.drop_left]

theorem lit_null : lit "null" = [110, 117, 108, 108] := rfl

theorem lit_false : lit "false" = [102, 97, 108, 115, 101] := rfl

theorem lit_true : lit "true" = [116, 114, 117, 101] := rfl

theorem take_cons_ne {c : UInt8} {l : CStr} (n : Nat) (rest : CStr) (h : b ≠ c) :
    (b :: rest).take (n + 1) ≠ c :: l := fun heq => h (List.cons.inj heq).1

theorem parseValue_number {fuel : Nat} (rest : CStr) (hb : b = 45 ∨ isDigit b = true) :
    parseValue (fuel + 1) (b :: rest) = parseNumber (b :: rest) := by
  have hne : b ≠ 110 ∧ b ≠ 102 ∧ b ≠ 116 ∧ b ≠ 34 := by
    rcases hb with rfl | hd
    · decide
    · rw [isDigit_iff] at hd
      refine ⟨?_, ?_, ?_, ?_⟩ <;> (rintro rfl; exact absurd hd (by decide))
  rw [parseValue, lit_null, lit_false, lit_true, if_neg (take_cons_ne 3 rest hne.1),
    if_neg (take_cons_ne 4 rest hne.2.1), if_neg (take_cons_ne 3 rest hne.2.2.1),
    if_neg hne.2.2.2, if_pos hb]

theorem parseValue_string {fuel : Nat} (rest : CStr) :
    parseValue (fuel + 1) (34 :: rest) =
      (parseString rest).map fun (str, after) => (.string str, after) := by
  rw [parseValue, lit_null, lit_false, lit_true, if_neg (take_cons_ne 3 rest (by decide)),
    if_neg (take_cons_ne 4 rest (by decide)), if_neg (take_cons_ne 3 rest (by decide)),
    if_pos rfl]

theorem parseValue_object {fuel : Nat} {rest : CStr} {c : UInt8} {after : CStr}
    (hskip : skipWhitespace rest = c :: after) (hclose : c ≠ 125) :
    parseValue (fuel + 1) (123 :: rest) =
      (parseMembers fuel rest []).map fun (ms, after) => (.object ms, after) := by
  rw [parseValue, lit_null, lit_false, lit_true, if_neg (take_cons_ne 3 rest (by decide)),
    if_neg (take_cons_ne 4 rest (by decide)), if_neg (take_cons_ne 3 rest (by decide)),
    if_neg (by decide), if_neg (by decide), if_neg (by decide), if_pos rfl, hskip]
  exact if_neg hclose

/-- `parse_value` reads `text` as `j` when a `,` or a `}` follows it. -/
def ReadsAs (text : CStr) (j : Json) : Prop :=
  ∀ fuel rest, (∀ c ∈ rest.head?, c = 44 ∨ c = 125) →
    parseValue (fuel + 1) (skipWhitespace (text ++ rest)) = some (j, rest)

theorem isNumberByte_of_separator {c : UInt8} (h : c = 44 ∨ c = 125) : isNumberByte c = false := by
  rcases h with rfl | rfl <;> decide

theorem readsAs_quoted {str : CStr} (h : readQuoted s = some str) :
    ReadsAs (quoted s) (.string str) := by
  intro fuel rest _
  rw [quoted, List.append_assoc, List.cons_append, skipWhitespace_cons _ (by decide),
    List.singleton_append, parseValue_string, parseString_of_readQuoted h]
  rfl

theorem readsAs_bool (v : Bool) : ReadsAs (if v then lit "true" else lit "false") (.bool v) := by
  intro fuel rest _
  cases v
  · show parseValue (fuel + 1) (skipWhitespace (102 :: 97 :: 108 :: 115 :: 101 :: rest)) = _
    rw [skipWhitespace_cons _ (by decide), parseValue, lit_null, lit_false, if_neg (take_cons_ne 3 _ (by decide))]
    simp only [List.take_succ_cons, List.take_zero, ↓reduceIte]
    rfl
  · show parseValue (fuel + 1) (skipWhitespace (116 :: 114 :: 117 :: 101 :: rest)) = _
    rw [skipWhitespace_cons _ (by decide), parseValue, lit_null, lit_false, lit_true, if_neg (take_cons_ne 3 _ (by decide)),
      if_neg (take_cons_ne 4 _ (by decide))]
    simp only [List.take_succ_cons, List.take_zero, ↓reduceIte]
    rfl

theorem isNumberByte_of_isDigit (h : isDigit b = true) : isNumberByte b = true := by
  simp [isNumberByte, h]

theorem lt_of_numberStart (hb : b = 45 ∨ isDigit b = true) : 32 < b.toNat := by
  rcases hb with rfl | hb
  · decide
  · have := (isDigit_iff b).mp hb
    omega

/-- `%d`, `%u`, `%ld` and `%lu` read back as the number rounded to a double. -/
theorem readsAs_decimalText (n : Int) (hlen : (decimalText n).length ≤ 63) :
    ReadsAs (decimalText n) (.number (doubleOfInt n)) := by
  intro fuel rest hrest
  have hsep : ∀ c ∈ rest.head?, isNumberByte c = false :=
    fun c hc => isNumberByte_of_separator (hrest c hc)
  cases n with
  | ofNat k =>
    obtain ⟨hne, hds, hval, -⟩ := decimalText_natCast k
    obtain ⟨b, bs, hbs⟩ := List.exists_cons_of_ne_nil hne
    have hint := strtod_integer false hne hds
    rw [hval] at hint
    have hb : isDigit b = true := hds b (by rw [hbs]; exact List.mem_cons_self _ _)
    rw [show Int.ofNat k = (k : Int) from rfl, hbs, List.cons_append,
      skipWhitespace_cons _ (lt_of_numberStart (.inr hb)), parseValue_number _ (.inr hb),
      ← List.cons_append, ← hbs]
    exact parseNumber_append (fun b hb => isNumberByte_of_isDigit (hds b hb)) hlen hsep hint
  | negSucc m =>
    obtain ⟨hne, hds, hval, -⟩ := decimalText_natCast (m + 1)
    have hint := strtod_integer true hne hds
    rw [hval] at hint
    rw [decimalText_negSucc] at hlen ⊢
    rw [List.cons_append, skipWhitespace_cons _ (by decide), parseValue_number _ (.inl rfl),
      ← List.cons_append]
    refine parseNumber_append (fun b hb => ?_) hlen hsep hint
    rcases List.mem_cons.mp hb with rfl | hb
    · rfl
    · exact isNumberByte_of_isDigit (hds b hb)

theorem roundHalfEven_le (n d : Nat) : roundHalfEven n d ≤ n / d + 1 := by
  unfold roundHalfEven
  split_ifs <;> omega

/-- `%f` with six decimals reads back as the decimal it printed. -/
theorem readsAs_printfFixedText (x : CDouble) (hlen : (printfFixedText 6 x).length ≤ 63) :
    ReadsAs (printfFixedText 6 x) (.number (printfFixed6 x)) := by
  intro fuel rest hrest
  set m := roundHalfEven (x.num.natAbs * 10 ^ 6) x.den
  obtain ⟨hne, hws, hwval, -⟩ := decimalText_natCast (m / 10 ^ 6)
  obtain ⟨-, hfs, hfval, hflen⟩ := decimalText_natCast (m % 10 ^ 6)
  have hfrac := hflen 6 (by omega) (Nat.mod_lt _ (by positivity))
  set frac := List.replicate (6 - (decimalText (m % 10 ^ 6 : Nat)).length) 48 ++
    decimalText (m % 10 ^ 6 : Nat)
  have hfracDigits : ∀ b ∈ frac, isDigit b = true := by
    intro b hb
    rcases List.mem_append.mp hb with hb | hb
    · rw [List.eq_of_mem_replicate hb]; rfl
    · exact hfs b hb
  have hfracLength : frac.length = 6 := by
    simp only [frac, List.length_append, List.length_replicate]
    omega
  have hvalue : digitsValue (decimalText (m / 10 ^ 6 : Nat) ++ frac) = m := by
    rw [digitsValue_append, hfracLength, hwval, digitsValue_append, digitsValue_zeros, hfval]
    omega
  have htext : printfFixedText 6 x = (if decide (x.num < 0) then [45] else []) ++
      (decimalText (m / 10 ^ 6 : Nat) ++ 46 :: frac) := by
    simp only [printfFixedText, frac, m, List.append_assoc, decide_eq_true_eq]
    split_ifs <;> rfl
  have hstrtod := strtod_fixed (decide (x.num < 0)) hne hws hfracDigits
  rw [hfracLength, hvalue, ← htext] at hstrtod
  obtain ⟨b0, bs, hbs⟩ := List.exists_cons_of_ne_nil hne
  obtain ⟨b, t, hbt, hb⟩ : ∃ b t, printfFixedText 6 x ++ rest = b :: t ∧
      (b = 45 ∨ isDigit b = true) := by
    rw [htext, hbs]
    split_ifs
    · exact ⟨45, _, rfl, .inl rfl⟩
    · exact ⟨b0, _, rfl, .inr (hws b0 (by rw [hbs]; exact List.mem_cons_self _ _))⟩
  rw [hbt, skipWhitespace_cons _ (lt_of_numberStart hb), parseValue_number _ hb, ← hbt]
  refine parseNumber_append (fun b hb => ?_) hlen
    (fun c hc => isNumberByte_of_separator (hrest c hc)) ?_
  · rw [htext] at hb
    rcases List.mem_append.mp hb with hb | hb
    · split_ifs at hb
      · rw [List.mem_singleton.mp hb]; rfl
      · cases hb
    · rcases List.mem_append.mp hb with hb | hb
      · exact isNumberByte_of_isDigit (hws b hb)
      · rcases List.mem_cons.mp hb with rfl | hb
        · rfl
        · exact isNumberByte_of_isDigit (hfracDigits b hb)
  · rw [hstrtod]
    simp [printfFixed6, m]

theorem natAbs_toDouble_lt {f : CFloat} (hf : f.isFinite = true) :
    f.toDouble.num.natAbs < 2 ^ 279 := by
  have hexp : f.exponentField ≤ 254 := by
    have hlt : f.exponentField < 2 ^ 8 := Nat.mod_lt _ (by positivity)
    have hne : f.exponentField ≠ 255 := by simpa [CFloat.isFinite] using hf
    omega
  have hmant : f.mantissaField < 2 ^ 23 := Nat.mod_lt _ (by positivity)
  have hpow : 2 ^ f.exponentField ≤ 2 ^ 254 := Nat.pow_le_pow_right (by omega) hexp
  have hmag : (if f.exponentField = 0 then f.mantissaField * 2
      else (2 ^ 23 + f.mantissaField) * 2 ^ f.exponentField) < 2 ^ 279 := by
    split_ifs
    · omega
    · calc (2 ^ 23 + f.mantissaField) * 2 ^ f.exponentField ≤ 2 ^ 24 * 2 ^ 254 :=
            Nat.mul_le_mul (by omega) hpow
        _ < 2 ^ 279 := by norm_num
  have habs : f.toDouble.num.natAbs = if f.exponentField = 0 then f.mantissaField * 2
      else (2 ^ 23 + f.mantissaField) * 2 ^ f.exponentField := by
    unfold CFloat.toDouble
    dsimp only
    split_ifs <;> simp only [Int.natAbs_neg, Int.natAbs_cast]
  rw [habs]
  exact hmag

/-- A finite float's `%f` text is at most 47 bytes. -/
theorem printfFloat_length {f : CFloat} (hf : f.isFinite = true) : (printfFloat f).length ≤ 63 := by
  have hnum := natAbs_toDouble_lt hf
  have hround : roundHalfEven (f.toDouble.num.natAbs * 10 ^ 6) f.toDouble.den ≤
      f.toDouble.num.natAbs * 10 ^ 6 / 2 ^ 150 + 1 := roundHalfEven_le _ _
  have hwhole := (decimalText_natCast
    (roundHalfEven (f.toDouble.num.natAbs * 10 ^ 6) f.toDouble.den / 10 ^ 6)).2.2.2 39 (by omega)
    (by omega)
  have hfrac := (decimalText_natCast
    (roundHalfEven (f.toDouble.num.natAbs * 10 ^ 6) f.toDouble.den % 10 ^ 6)).2.2.2 6 (by omega)
    (Nat.mod_lt _ (by positivity))
  simp only [printfFloat, hf, if_true, printfFixedText, List.length_append, List.length_replicate]
  split_ifs <;> simp only [List.length_nil, List.length_cons, show lit "-" = [45] from rfl,
    show lit "." = [46] from rfl] <;> omega

theorem readsAs_printfFloat {f : CFloat} (hf : f.isFinite = true) :
    ReadsAs (printfFloat f) (.number (printfFixed6 f.toDouble)) := by
  have hlen := printfFloat_length hf
  simp only [printfFloat, hf, if_true] at hlen ⊢
  exact readsAs_printfFixedText _ hlen

theorem doubleOfInt_of_natAbs_lt {n : Int} (h : n.natAbs < 2 ^ 53) : doubleOfInt n = CDouble.ofInt n := by
  have hnone : (List.range 64).filter (fun s => 2 ^ (53 + s) ≤ n.natAbs) = [] :=
    List.filter_eq_nil_iff.mpr fun s _ hs => by
      have : 2 ^ 53 ≤ 2 ^ (53 + s) := Nat.pow_le_pow_right (by omega) (by omega)
      simp only [decide_eq_true_eq] at hs
      omega
  simp only [doubleOfInt, hnone, List.length_nil, pow_zero, Nat.mul_one]
  congr 1
  have hround : roundHalfEven n.natAbs 1 = n.natAbs := by simp [roundHalfEven, Nat.mod_one]
  rw [hround]
  omega

theorem decimalText_length_le {n : Int} (h : n.natAbs < 10 ^ 62) : (decimalText n).length ≤ 63 := by
  cases n with
  | ofNat k =>
    have := (decimalText_natCast k).2.2.2 62 (by omega) h
    show (decimalText (k : Int)).length ≤ 63
    omega
  | negSucc m =>
    have := (decimalText_natCast (m + 1)).2.2.2 62 (by omega) h
    rw [decimalText_negSucc, List.length_cons]
    omega

theorem length_membersText_ge (ms : List (CStr × CStr)) : ms.length ≤ (membersText ms).length := by
  induction ms with
  | nil => exact le_rfl
  | cons m ms ih =>
    cases ms with
    | nil => simp [membersText, quoted]
    | cons m' ms' =>
      simp only [membersText, quoted, List.length_append, List.length_cons] at ih ⊢
      omega

/-- A member with a plain key and a value read whole, followed by a comma. -/
theorem parseMembers_member {key text : CStr} {j : Json} (hkey : plainText key = true)
    (hv : ReadsAs text j) (fuel : Nat) (rest : CStr) (acc : List (CStr × Json)) :
    parseMembers (fuel + 1 + 1) (quoted key ++ 58 :: (text ++ 44 :: rest)) acc =
      parseMembers (fuel + 1) rest (acc ++ [(key, j)]) := by
  have hstr := parseString_of_readQuoted (readQuoted_of_plain hkey)
  have hval := hv fuel (44 :: rest) (by simp)
  simp only [quoted, List.append_assoc, List.cons_append, List.nil_append] at hval ⊢
  rw [parseMembers, skipWhitespace_cons _ (by decide)]
  simp only [scanLiteral, ↓reduceIte, Option.bind_eq_bind, Option.some_bind, hstr,
    skipWhitespace_cons _ (by decide : 32 < (58 : UInt8).toNat), hval,
    skipWhitespace_cons _ (by decide : 32 < (44 : UInt8).toNat)]

theorem parseMembers_prefix {fuel : Nat} {s rest : CStr} {acc ms : List (CStr × Json)}
    (h : parseMembers fuel s acc = some (ms, rest)) : ∃ tail, ms = acc ++ tail := by
  induction fuel generalizing s acc with
  | zero => simp [parseMembers] at h
  | succ fuel ih =>
    rw [parseMembers] at h
    simp only [Option.bind_eq_bind, Option.bind_eq_some] at h
    obtain ⟨s1, -, ⟨key, s2⟩, -, s3, -, ⟨value, s4⟩, -, h⟩ := h
    split at h
    · cases h
    · split_ifs at h
      · obtain ⟨tail, rfl⟩ := ih h
        exact ⟨(key, value) :: tail, by simp⟩
      · cases h
        exact ⟨[(key, value)], rfl⟩

/-- Members with plain keys, each value read whole, come back in order. -/
theorem parseMembers_membersText {ms : List (CStr × CStr × Json)} (hne : ms ≠ [])
    (hms : ∀ m ∈ ms, plainText m.1 = true ∧ ReadsAs m.2.1 m.2.2) (acc : List (CStr × Json))
    {fuel : Nat} (hfuel : ms.length ≤ fuel) (rest : CStr) :
    parseMembers (fuel + 1) (membersText (ms.map fun m => (m.1, m.2.1)) ++ 125 :: rest) acc =
      some (acc ++ ms.map fun m => (m.1, m.2.2), rest) := by
  induction ms generalizing acc fuel with
  | nil => exact absurd rfl hne
  | cons m ms ih =>
    obtain ⟨key, text, j⟩ := m
    obtain ⟨hkey, hreads⟩ : plainText key = true ∧ ReadsAs text j := hms _ (List.mem_cons_self _ _)
    obtain ⟨g, rfl⟩ : ∃ g, fuel = g + 1 := ⟨fuel - 1, by simp at hfuel; omega⟩
    cases ms with
    | nil =>
      have hstr := parseString_of_readQuoted (readQuoted_of_plain hkey)
      have hv := hreads g (125 :: rest) (by simp)
      simp only [List.map_cons, List.map_nil, membersText, quoted, List.append_assoc,
        List.cons_append, List.nil_append]
      rw [parseMembers, skipWhitespace_cons _ (by decide)]
      simp only [scanLiteral, ↓reduceIte, Option.bind_eq_bind, Option.some_bind, hstr,
        skipWhitespace_cons _ (by decide : 32 < (58 : UInt8).toNat), hv,
        skipWhitespace_cons _ (by decide : 32 < (125 : UInt8).toNat)]
      rfl
    | cons m' ms =>
      obtain ⟨g, rfl⟩ : ∃ g', g = g' + 1 := ⟨g - 1, by simp at hfuel; omega⟩
      have hrest := ih (List.cons_ne_nil _ _)
        (fun m hm => hms m (List.mem_cons_of_mem _ hm)) (acc ++ [(key, j)])
        (show (m' :: ms).length ≤ g + 1 by simp only [List.length_cons] at hfuel ⊢; omega)
      simp only [List.map_cons, membersText, List.append_assoc, List.cons_append,
        List.nil_append] at hrest ⊢
      rw [parseMembers_member hkey hreads, hrest]

end Cjson

end BacnetEventServer
