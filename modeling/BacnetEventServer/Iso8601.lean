import BacnetEventServer.Calendar

namespace BacnetEventServer

theorem isDigit_iff (b : UInt8) : isDigit b = true ↔ 48 ≤ b.toNat ∧ b.toNat ≤ 57 := by
  simp only [isDigit, Bool.and_eq_true, decide_eq_true_eq]
  exact Iff.rfl

theorem isSpace_of_isDigit {b : UInt8} (h : isDigit b = true) : isSpace b = false := by
  rw [isDigit_iff] at h
  simp only [isSpace, Bool.or_eq_false_iff, decide_eq_false_iff_not, Bool.and_eq_false_iff]
  refine ⟨fun he => ?_, .inr fun hle => ?_⟩
  · subst he; exact absurd h (by decide)
  · have : b.toNat ≤ 13 := hle
    omega

theorem scanSign_of_isDigit {b : UInt8} (s : CStr) (h : isDigit b = true) :
    scanSign (b :: s) = (false, b :: s) := by
  rw [isDigit_iff] at h
  unfold scanSign
  split
  · next h' => cases (List.cons.inj h').1; exact absurd h (by decide)
  · next h' => cases (List.cons.inj h').1; exact absurd h (by decide)
  · rfl

theorem takeWhile_isDigit {ds rest : CStr} (hds : ∀ b ∈ ds, isDigit b = true)
    (hrest : ∀ c ∈ rest.head?, isDigit c = false) :
    (ds ++ rest).takeWhile isDigit = ds ∧ (ds ++ rest).dropWhile isDigit = rest := by
  rw [List.takeWhile_append_of_pos hds, List.dropWhile_append_of_pos hds]
  cases rest with
  | nil => simp
  | cons c cs =>
    have hc : ¬ isDigit c = true := by simpa using hrest c rfl
    simp [List.takeWhile_cons_of_neg hc, List.dropWhile_cons_of_neg hc]

theorem scanInt_digits {ds rest : CStr} (hne : ds ≠ []) (hds : ∀ b ∈ ds, isDigit b = true)
    (hrest : ∀ c ∈ rest.head?, isDigit c = false) :
    scanInt (ds ++ rest) = some ((digitsValue ds : Int), rest) := by
  obtain ⟨htake, hdrop⟩ := takeWhile_isDigit hds hrest
  obtain ⟨b, bs, rfl⟩ := List.exists_cons_of_ne_nil hne
  have hb := hds b (List.mem_cons_self _ _)
  have hspace : ¬ isSpace b = true := by simp [isSpace_of_isDigit hb]
  simp only [scanInt, List.cons_append, List.dropWhile_cons_of_neg hspace,
    scanSign_of_isDigit _ hb]
  rw [← List.cons_append, htake, hdrop, if_neg (List.cons_ne_nil _ _)]
  rfl

/-- The byte of a decimal digit. -/
def digitByte (d : Nat) : UInt8 := UInt8.ofNat (48 + d)

/-- `w` decimal digits of `v`, leading zeros included. -/
def digitsText : Nat → Nat → CStr
  | 0, _ => []
  | w + 1, v => digitsText w (v / 10) ++ [digitByte (v % 10)]

/-- A digit's byte is a digit of its value and none of the parser's separators. -/
theorem digitByte_facts {d : Nat} (h : d < 10) :
    isDigit (digitByte d) = true ∧ (digitByte d).toNat - 48 = d ∧ digitByte d ≠ 45 ∧
      digitByte d ≠ 43 ∧ digitByte d ≠ 84 ∧ digitByte d ≠ 46 ∧ digitByte d ≠ 90 ∧
      digitByte d ≠ 58 := by
  have hall : ∀ d < 10, isDigit (digitByte d) = true ∧ (digitByte d).toNat - 48 = d ∧
      digitByte d ≠ 45 ∧ digitByte d ≠ 43 ∧ digitByte d ≠ 84 ∧ digitByte d ≠ 46 ∧
      digitByte d ≠ 90 ∧ digitByte d ≠ 58 := by decide
  exact hall d h

theorem length_digitsText (w v : Nat) : (digitsText w v).length = w := by
  induction w generalizing v with
  | zero => rfl
  | succ w ih => simp [digitsText, ih]

theorem mem_digitsText {w v : Nat} {b : UInt8} (hb : b ∈ digitsText w v) :
    ∃ d < 10, b = digitByte d := by
  induction w generalizing v with
  | zero => simp [digitsText] at hb
  | succ w ih =>
    simp only [digitsText, List.mem_append, List.mem_singleton] at hb
    rcases hb with hb | rfl
    · exact ih hb
    · exact ⟨v % 10, Nat.mod_lt _ (by omega), rfl⟩

theorem digitsValue_append_digit (ds : CStr) (b : UInt8) :
    digitsValue (ds ++ [b]) = 10 * digitsValue ds + (b.toNat - 48) := by
  simp [digitsValue, List.foldl_append]

theorem digitsValue_digitsText {w v : Nat} (hv : v < 10 ^ w) :
    digitsValue (digitsText w v) = v := by
  induction w generalizing v with
  | zero => simp [digitsText, digitsValue]; omega
  | succ w ih =>
    rw [digitsText, digitsValue_append_digit, ih (by rw [Nat.pow_succ] at hv; omega),
      (digitByte_facts (Nat.mod_lt v (by omega))).2.1]
    omega

theorem scanInt_digitsText {w v : Nat} (hw : 0 < w) (hv : v < 10 ^ w) {rest : CStr}
    (hrest : ∀ c ∈ rest.head?, isDigit c = false) :
    scanInt (digitsText w v ++ rest) = some ((v : Int), rest) := by
  have hne : digitsText w v ≠ [] := fun h => by
    have := length_digitsText w v; rw [h] at this; simp at this; omega
  rw [scanInt_digits hne (fun b hb => ?_) hrest, digitsValue_digitsText hv]
  obtain ⟨d, hd, rfl⟩ := mem_digitsText hb
  exact (digitByte_facts hd).1

/-- `sscanf` reads back three numbers printed with their separators. -/
theorem sscanfThree_digitsText {sep : UInt8} (hsep : isDigit sep = false) {a b c x y z : Nat}
    (ha : 0 < a) (hx : x < 10 ^ a) (hb : 0 < b) (hy : y < 10 ^ b) (hc : 0 < c)
    (hz : z < 10 ^ c) {rest : CStr} (hrest : ∀ ch ∈ rest.head?, isDigit ch = false) :
    sscanfThree sep (digitsText a x ++ sep :: (digitsText b y ++ sep :: (digitsText c z ++ rest))) =
      some ((x : Int), (y : Int), (z : Int)) := by
  have hs : ∀ l : CStr, ∀ ch ∈ (sep :: l).head?, isDigit ch = false := by simp [hsep]
  simp only [sscanfThree, scanInt_digitsText ha hx (hs _), scanInt_digitsText hb hy (hs _),
    scanInt_digitsText hc hz hrest, scanLiteral, if_true, Option.bind_eq_bind, Option.some_bind]
  rfl

theorem strchr_append_of_not_mem {p rest : CStr} {c : UInt8} (hp : c ∉ p) :
    strchr (p ++ rest) c = strchr rest c := by
  have hall : ∀ b ∈ p, (b != c) = true := fun b hb => by
    simp only [bne_iff_ne, ne_eq]; rintro rfl; exact hp hb
  simp only [strchr, List.dropWhile_append_of_pos hall]

theorem strchr_cons_self (c : UInt8) (rest : CStr) : strchr (c :: rest) c = some (c :: rest) := by
  simp [strchr]

theorem strchr_of_not_mem {s : CStr} {c : UInt8} (hs : c ∉ s) : strchr s c = none := by
  have h : strchr (s ++ []) c = strchr [] c := strchr_append_of_not_mem hs
  rw [List.append_nil] at h
  exact h

/-- The zone designator. -/
inductive Zone
  | utc
  | plus (hours minutes : Nat)
  | minus (hours minutes : Nat)
  deriving DecidableEq, Repr

/-- A timestamp `YYYY-MM-DDTHH:MM:SS[.f1..f3](Z|+HH:MM|-HH:MM)` by its fields: the fraction's
digits, none to three. -/
structure IsoTimestamp where
  year : Nat
  month : Nat
  day : Nat
  hour : Nat
  minute : Nat
  second : Nat
  fraction : List Nat
  zone : Zone
  deriving DecidableEq, Repr

def Zone.Valid : Zone → Prop
  | utc => True
  | plus h m => h < 24 ∧ m < 60
  | minus h m => h < 24 ∧ m < 60

/-- In-range fields: years 1 to 9999, a day of the month, a time of day, digits for the
fraction and an offset within 23:59. -/
structure IsoTimestamp.Valid (ts : IsoTimestamp) : Prop where
  year : 1 ≤ ts.year ∧ ts.year ≤ 9999
  month : 1 ≤ ts.month ∧ ts.month ≤ 12
  day : 1 ≤ ts.day ∧ ts.day ≤ daysInMonth ts.year ts.month
  hour : ts.hour < 24
  minute : ts.minute < 60
  second : ts.second < 60
  fraction : ts.fraction.length ≤ 3 ∧ ∀ d ∈ ts.fraction, d < 10
  zone : ts.zone.Valid

/-- The zone's numbers fit their two digits, in range or not. -/
def Zone.Fits : Zone → Prop
  | utc => True
  | plus h m => h < 10 ^ 2 ∧ m < 10 ^ 2
  | minus h m => h < 10 ^ 2 ∧ m < 10 ^ 2

/-- Fields that fit their digits, so that the rendering shows each of them whole: the form
above without its ranges, and with any number of fraction digits. -/
structure IsoTimestamp.Fits (ts : IsoTimestamp) : Prop where
  year : ts.year < 10 ^ 4
  month : ts.month < 10 ^ 2
  day : ts.day < 10 ^ 2
  hour : ts.hour < 10 ^ 2
  minute : ts.minute < 10 ^ 2
  second : ts.second < 10 ^ 2
  fraction : ∀ d ∈ ts.fraction, d < 10
  zone : ts.zone.Fits

def Zone.render : Zone → CStr
  | utc => [90]
  | plus h m => 43 :: (digitsText 2 h ++ 58 :: digitsText 2 m)
  | minus h m => 45 :: (digitsText 2 h ++ 58 :: digitsText 2 m)

/-- `.` and the fraction's digits, or nothing. -/
def fractionText : List Nat → CStr
  | [] => []
  | d :: ds => 46 :: (d :: ds).map digitByte

/-- The text of a timestamp. -/
def IsoTimestamp.render (ts : IsoTimestamp) : CStr :=
  digitsText 4 ts.year ++ 45 :: (digitsText 2 ts.month ++ 45 :: (digitsText 2 ts.day ++ 84 ::
    (digitsText 2 ts.hour ++ 58 :: (digitsText 2 ts.minute ++ 58 :: (digitsText 2 ts.second ++
      (fractionText ts.fraction ++ ts.zone.render))))))

/-- The offset a zone names, in minutes east of UTC. -/
def Zone.offsetMinutes : Zone → Int
  | utc => 0
  | plus h m => h * 60 + m
  | minus h m => -(h * 60 + m : Int)

/-- The fraction as milliseconds, missing digits read as zeros. -/
def fractionValue (ds : List Nat) : Nat :=
  (ds ++ List.replicate (3 - ds.length) 0).foldl (fun acc d => 10 * acc + d) 0

/-- What a timestamp denotes: the milliseconds from 1970-01-01T00:00:00Z to its local date
and time less its offset, plus its fraction. -/
def IsoTimestamp.millis (ts : IsoTimestamp) : Int :=
  (epochSeconds ts.year ts.month ts.day ts.hour ts.minute ts.second -
    ts.zone.offsetMinutes * 60) * 1000 + fractionValue ts.fraction

/-- The `struct tm` the parser fills from the fields: years from 1900, months from 0. -/
def IsoTimestamp.tm (ts : IsoTimestamp) : Tm :=
  ⟨(ts.year : Int) - 1900, (ts.month : Int) - 1, ts.day, ts.hour, ts.minute, ts.second⟩

section Render

variable {ts : IsoTimestamp} {rest : CStr}

theorem digitsText_not_mem {w v : Nat} {c : UInt8} (hc : ∀ d < 10, digitByte d ≠ c) :
    c ∉ digitsText w v := fun h => by
  obtain ⟨d, hd, he⟩ := mem_digitsText h
  exact hc d hd he.symm

theorem head_zone (z : Zone) (rest : CStr) :
    ∀ ch ∈ (z.render ++ rest).head?, isDigit ch = false := by
  have h : isDigit 90 = false ∧ isDigit 43 = false ∧ isDigit 45 = false := by decide
  cases z <;> simp [Zone.render, h]

theorem head_fraction_zone (ds : List Nat) (z : Zone) (rest : CStr) :
    ∀ ch ∈ (fractionText ds ++ (z.render ++ rest)).head?, isDigit ch = false := by
  cases ds with
  | nil => exact head_zone z rest
  | cons d ds => simp [fractionText, show isDigit 46 = false by decide]

/-- The milliseconds of a fraction: its first three digits, missing ones read as zeros. -/
theorem fractionMillis_digits {ds : List Nat} (hds : ∀ d ∈ ds, d < 10) (z : Zone)
    (rest : CStr) : fractionMillis (ds.map digitByte ++ (z.render ++ rest)) =
      fractionValue (ds.take 3) := by
  have hdig : ∀ b ∈ ds.map digitByte, isDigit b = true := by
    simp only [List.mem_map, forall_exists_index, and_imp, forall_apply_eq_imp_iff₂]
    exact fun d hd => (digitByte_facts (hds d hd)).1
  have hpad : List.replicate (3 - (ds.take 3).length) (48 : UInt8) =
      (List.replicate (3 - (ds.take 3).length) 0).map digitByte := by
    rw [List.map_replicate]; rfl
  unfold fractionMillis fractionValue
  dsimp only
  rw [(takeWhile_isDigit hdig (head_zone z rest)).1, ← List.map_take, List.length_map, hpad,
    ← List.map_append, digitsValue, List.foldl_map]
  refine List.foldl_ext _ _ _ fun acc d hd => ?_
  have hd10 : d < 10 := by
    rcases List.mem_append.mp hd with h | h
    · exact hds d (List.mem_of_mem_take h)
    · rw [List.eq_of_mem_replicate h]; omega
  rw [(digitByte_facts hd10).2.1]

theorem strchr_cons_of_ne {b c : UInt8} (h : b ≠ c) (rest : CStr) :
    strchr (b :: rest) c = strchr rest c := by
  show strchr ([b] ++ rest) c = strchr rest c
  exact strchr_append_of_not_mem (by simpa using h.symm)

theorem dot_not_mem_zone (z : Zone) : (46 : UInt8) ∉ z.render := by
  have hd : ∀ d < 10, digitByte d ≠ 46 := fun d hd => (digitByte_facts hd).2.2.2.2.2.1
  cases z <;> simp [Zone.render, digitsText_not_mem hd]

theorem milliseconds_render {ds : List Nat} (hds : ∀ d ∈ ds, d < 10) (z : Zone)
    (hdot : (46 : UInt8) ∉ rest) (h m s : Nat) :
    (strchr (digitsText 2 h ++ 58 :: (digitsText 2 m ++ 58 :: (digitsText 2 s ++
      (fractionText ds ++ (z.render ++ rest))))) 46).elim 0
        (fun r => fractionMillis r.tail) = fractionValue (ds.take 3) := by
  have hd : ∀ d < 10, digitByte d ≠ 46 := fun d hd => (digitByte_facts hd).2.2.2.2.2.1
  rw [strchr_append_of_not_mem (digitsText_not_mem hd), strchr_cons_of_ne (by decide),
    strchr_append_of_not_mem (digitsText_not_mem hd), strchr_cons_of_ne (by decide),
    strchr_append_of_not_mem (digitsText_not_mem hd)]
  cases ds with
  | nil =>
    rw [fractionText, List.nil_append, strchr_of_not_mem (by simp [dot_not_mem_zone, hdot])]
    rfl
  | cons d ds =>
    rw [fractionText, List.cons_append, strchr_cons_self]
    exact fractionMillis_digits hds _ _

theorem tzScan_append_plain {p : CStr} (hp : ∀ b ∈ p, b ≠ 90 ∧ b ≠ 43 ∧ b ≠ 45)
    (i : Nat) (prev : UInt8) (rest : CStr) :
    tzScan i prev (p ++ rest) = tzScan (i + p.length) (p.getLastD prev) rest := by
  induction p generalizing i prev with
  | nil => rfl
  | cons b bs ih =>
    obtain ⟨h90, h43, h45⟩ := hp b (List.mem_cons_self _ _)
    rw [List.cons_append, tzScan, if_neg (by tauto), if_neg (by tauto),
      ih (fun c hc => hp c (List.mem_cons_of_mem _ hc)), List.getLastD_cons, List.length_cons,
      Nat.add_assoc, Nat.add_comm 1]

theorem plain_digitsText (w v : Nat) :
    ∀ b ∈ digitsText w v, b ≠ 90 ∧ b ≠ 43 ∧ b ≠ 45 := fun b hb => by
  obtain ⟨d, hd, rfl⟩ := mem_digitsText hb
  obtain ⟨-, -, h45, h43, -, -, h90, -⟩ := digitByte_facts hd
  exact ⟨h90, h43, h45⟩

theorem tzScan_dash_early {i : Nat} {prev : UInt8} (hi : i ≤ 10) (hprev : prev ≠ 58)
    (rest : CStr) : tzScan i prev (45 :: rest) = tzScan (i + 1) 45 rest := by
  rw [tzScan, if_neg (by decide), if_neg fun h => ?_]
  rcases h.2 with ⟨-, hp⟩ | hlt
  · exact hprev hp
  · omega

theorem tzScan_zone {i : Nat} (hi : 10 < i) (prev : UInt8) (z : Zone) (rest : CStr) :
    tzScan i prev (z.render ++ rest) = z.render ++ rest := by
  cases z <;> simp [Zone.render, tzScan, hi]

theorem getLastD_digitsText_ne (w v : Nat) {prev : UInt8} (hprev : prev ≠ 58) :
    (digitsText w v).getLastD prev ≠ 58 := by
  rcases List.mem_cons.mp (List.getLastD_mem_cons (digitsText w v) prev) with h | h
  · rw [h]; exact hprev
  · obtain ⟨d, hd, he⟩ := mem_digitsText h
    obtain ⟨-, -, -, -, -, -, -, h58⟩ := digitByte_facts hd
    rw [he]; exact h58

theorem plain_fractionText {ds : List Nat} (hds : ∀ d ∈ ds, d < 10) :
    ∀ b ∈ fractionText ds, b ≠ 90 ∧ b ≠ 43 ∧ b ≠ 45 := by
  cases ds with
  | nil => simp [fractionText]
  | cons d ds =>
    refine List.forall_mem_cons.mpr ⟨by decide, fun b hb => ?_⟩
    obtain ⟨e, he, rfl⟩ := List.mem_map.mp hb
    obtain ⟨-, -, h45, h43, -, -, h90, -⟩ := digitByte_facts (hds e he)
    exact ⟨h90, h43, h45⟩

theorem render_append (ts : IsoTimestamp) (rest : CStr) :
    ts.render ++ rest = digitsText 4 ts.year ++ 45 :: (digitsText 2 ts.month ++ 45 ::
      (digitsText 2 ts.day ++ 84 :: (digitsText 2 ts.hour ++ 58 :: (digitsText 2 ts.minute ++
        58 :: (digitsText 2 ts.second ++ (fractionText ts.fraction ++
          (ts.zone.render ++ rest))))))) := by
  simp [IsoTimestamp.render]

/-- The zone scan passes everything up to the zone. -/
theorem tzScan_render (hf : ∀ d ∈ ts.fraction, d < 10) (rest : CStr) :
    tzScan 0 0 (ts.render ++ rest) = ts.zone.render ++ rest := by
  have hplain : ∀ b ∈ digitsText 2 ts.day ++ 84 :: (digitsText 2 ts.hour ++ 58 ::
      (digitsText 2 ts.minute ++ 58 :: (digitsText 2 ts.second ++ fractionText ts.fraction))),
      b ≠ 90 ∧ b ≠ 43 ∧ b ≠ 45 := by
    simp only [List.forall_mem_append, List.forall_mem_cons]
    exact ⟨plain_digitsText _ _, by decide, plain_digitsText _ _, by decide, plain_digitsText _ _,
      by decide, plain_digitsText _ _, plain_fractionText hf⟩
  have hsplit : digitsText 2 ts.day ++ 84 :: (digitsText 2 ts.hour ++ 58 ::
      (digitsText 2 ts.minute ++ 58 :: (digitsText 2 ts.second ++
        (fractionText ts.fraction ++ (ts.zone.render ++ rest))))) =
      (digitsText 2 ts.day ++ 84 :: (digitsText 2 ts.hour ++ 58 ::
        (digitsText 2 ts.minute ++ 58 :: (digitsText 2 ts.second ++ fractionText ts.fraction)))) ++
        (ts.zone.render ++ rest) := by
    simp
  rw [render_append, tzScan_append_plain (plain_digitsText _ _),
    tzScan_dash_early (by simp [length_digitsText]) (getLastD_digitsText_ne _ _ (by decide)),
    tzScan_append_plain (plain_digitsText _ _),
    tzScan_dash_early (by simp [length_digitsText]) (getLastD_digitsText_ne _ _ (by decide)),
    hsplit, tzScan_append_plain hplain, tzScan_zone (by simp [length_digitsText]; omega)]

theorem IsoTimestamp.Valid.fits (hv : ts.Valid) : ts.Fits := by
  have htable : ∀ leap : Bool, ∀ k < 12, (monthLengths leap).getD k 0 ≤ 31 := by decide
  obtain ⟨⟨-, hy⟩, ⟨-, hm⟩, ⟨-, hd⟩, hh, hmi, hs, ⟨-, hf⟩, hz⟩ := hv
  have := htable (isLeapYear ts.year) (ts.month - 1) (by omega)
  unfold daysInMonth at hd
  refine ⟨by omega, by omega, by omega, by omega, by omega, by omega, hf, ?_⟩
  revert hz
  cases ts.zone <;> simp only [Zone.Valid, Zone.Fits, implies_true] <;>
    exact fun h => ⟨by omega, by omega⟩

theorem sscanfOffset_digitsText {h m : Nat} (hh : h < 100) (hm : m < 100)
    (hrest : ∀ c ∈ rest.head?, isDigit c = false) :
    sscanfOffset (digitsText 2 h ++ 58 :: (digitsText 2 m ++ rest)) =
      some ((h : Int), (m : Int)) := by
  have hhour : scanInt (digitsText 2 h ++ 58 :: (digitsText 2 m ++ rest)) =
      some ((h : Int), 58 :: (digitsText 2 m ++ rest)) :=
    scanInt_digitsText (by decide) hh (by simp [show isDigit 58 = false by decide])
  have hmin : scanInt (digitsText 2 m ++ rest) = some ((m : Int), rest) :=
    scanInt_digitsText (by decide) hm hrest
  simp only [sscanfOffset, hhour, scanLiteral, if_true, Option.bind_eq_bind, Option.some_bind,
    hmin]
  rfl

theorem tzOffsetMinutes_render {z : Zone} (hz : z.Fits)
    (hrest : ∀ c ∈ rest.head?, isDigit c = false) :
    tzOffsetMinutes (z.render ++ rest) = z.offsetMinutes := by
  cases z with
  | utc => rfl
  | plus h m =>
    obtain ⟨hh, hm⟩ := hz
    simp only [Zone.render, List.cons_append, List.append_assoc, tzOffsetMinutes,
      sscanfOffset_digitsText (by omega : h < 100) (by omega : m < 100) hrest, Option.elim,
      Zone.offsetMinutes]
  | minus h m =>
    obtain ⟨hh, hm⟩ := hz
    simp only [Zone.render, List.cons_append, List.append_assoc, tzOffsetMinutes,
      sscanfOffset_digitsText (by omega : h < 100) (by omega : m < 100) hrest, Option.elim,
      Zone.offsetMinutes]

/-- On a fitting timestamp and text after it, the parser reads every field, in range or not. -/
theorem parseIso8601Timestamp_render_append (hfit : ts.Fits) (rest : CStr)
    (hrest : ∀ c ∈ rest.head?, isDigit c = false) (hdot : (46 : UInt8) ∉ rest) :
    parseIso8601Timestamp (ts.render ++ rest) =
      if timegm ts.tm = -1 then none
      else some ((timegm ts.tm - ts.zone.offsetMinutes * 60) * 1000 +
        fractionValue (ts.fraction.take 3)) := by
  have hT : ∀ d < 10, digitByte d ≠ 84 := fun d hd => (digitByte_facts hd).2.2.2.2.1
  have hdate : sscanfThree 45 (ts.render ++ rest) =
      some ((ts.year : Int), (ts.month : Int), (ts.day : Int)) := by
    rw [render_append]
    exact sscanfThree_digitsText (by decide) (by decide) hfit.year (by decide) hfit.month
      (by decide) hfit.day (by simp [show isDigit 84 = false by decide])
  have hsep : strchr (ts.render ++ rest) 84 = some (84 :: (digitsText 2 ts.hour ++ 58 ::
      (digitsText 2 ts.minute ++ 58 :: (digitsText 2 ts.second ++
        (fractionText ts.fraction ++ (ts.zone.render ++ rest)))))) := by
    rw [render_append, strchr_append_of_not_mem (digitsText_not_mem hT),
      strchr_cons_of_ne (by decide), strchr_append_of_not_mem (digitsText_not_mem hT),
      strchr_cons_of_ne (by decide), strchr_append_of_not_mem (digitsText_not_mem hT),
      strchr_cons_self]
  have htime : sscanfThree 58 (digitsText 2 ts.hour ++ 58 :: (digitsText 2 ts.minute ++ 58 ::
      (digitsText 2 ts.second ++ (fractionText ts.fraction ++ (ts.zone.render ++ rest))))) =
        some ((ts.hour : Int), (ts.minute : Int), (ts.second : Int)) :=
    sscanfThree_digitsText (by decide) (by decide) hfit.hour (by decide) hfit.minute (by decide)
      hfit.second (head_fraction_zone _ _ _)
  simp only [parseIso8601Timestamp, hdate, hsep, htime, Option.bind_eq_bind, Option.some_bind,
    Option.orElse, List.tail_cons, milliseconds_render hfit.fraction _ hdot,
    tzScan_render hfit.fraction, tzOffsetMinutes_render hfit.zone hrest, IsoTimestamp.tm]

end Render

theorem parse_timestamp_fails_on_second_before_epoch (ts : IsoTimestamp) (hv : ts.Valid) :
    parseIso8601Timestamp ts.render =
      if ts.year = 1969 ∧ ts.month = 12 ∧ ts.day = 31 ∧ ts.hour = 23 ∧ ts.minute = 59 ∧
          ts.second = 59 then none
      else some ts.millis := by
  obtain ⟨hm1, hm2⟩ := hv.month
  obtain ⟨hd1, hd2⟩ := hv.day
  have hyear : (ts.year : Int) = 1969 ↔ ts.year = 1969 := by omega
  rw [← List.append_nil ts.render,
    parseIso8601Timestamp_render_append hv.fits [] (by simp) (List.not_mem_nil _)]
  simp only [IsoTimestamp.tm, timegm_eq_epochSeconds _ _ _ _ _ hm1 hm2,
    epochSeconds_eq_neg_one_iff _ hm1 hm2 hd1 hd2 hv.hour hv.minute hv.second, hyear,
    IsoTimestamp.millis, List.take_of_length_le hv.fraction.1]

/-- One second before the epoch in local time, here one hour east of UTC. -/
theorem parse_timestamp_rejects_local_second_before_epoch :
    (⟨1969, 12, 31, 23, 59, 59, [5], .plus 1 0⟩ : IsoTimestamp).Valid ∧
      parseIso8601Timestamp (⟨1969, 12, 31, 23, 59, 59, [5], .plus 1 0⟩ : IsoTimestamp).render =
        none := by
  have hv : (⟨1969, 12, 31, 23, 59, 59, [5], .plus 1 0⟩ : IsoTimestamp).Valid :=
    ⟨by decide, by decide, by decide, by decide, by decide, by decide, by decide,
      ⟨by decide, by decide⟩⟩
  exact ⟨hv, (parse_timestamp_fails_on_second_before_epoch _ hv).trans (if_pos (by decide))⟩

/-- Every rendering ends with the zone's last byte: `Z` or a digit. -/
theorem getLast_render (ts : IsoTimestamp) :
    ∀ b ∈ ts.render.getLast?, b = 90 ∨ isDigit b = true := by
  intro b hb
  cases hz : ts.zone <;>
    simp only [IsoTimestamp.render, hz, Zone.render, digitsText, List.getLast?_cons,
      List.getLast?_append, List.getLast?_cons_cons, List.getLast?_singleton, Option.or_some,
      Option.getD_some, Option.mem_def, Option.some.injEq, List.nil_append,
      List.cons_append] at hb <;> subst hb
  · exact .inl rfl
  all_goals exact .inr (digitByte_facts (Nat.mod_lt _ (by decide))).1

/-- Text after the zone is not read, and a timestamp whose fields only fit their digits is
rejected exactly where `timegm` returns `-1`, whatever its ranges. -/
theorem parse_timestamp_ignores_ranges_and_trailing_text (ts : IsoTimestamp) (hfit : ts.Fits)
    (rest : CStr) (hrest : ∀ c ∈ rest.head?, isDigit c = false) (hdot : (46 : UInt8) ∉ rest) :
    parseIso8601Timestamp (ts.render ++ rest) = parseIso8601Timestamp ts.render ∧
      (parseIso8601Timestamp ts.render = none ↔ timegm ts.tm = -1) := by
  have hnil := parseIso8601Timestamp_render_append hfit [] (by simp) (List.not_mem_nil _)
  rw [List.append_nil] at hnil
  rw [parseIso8601Timestamp_render_append hfit rest hrest hdot, hnil]
  exact ⟨rfl, by split_ifs with h <;> simp [h]⟩

/-- The forty-fifth day of the thirteenth month at 99:99:99.1234, 99:99 east, and a word after
it is the text of no timestamp, and is read as 2025-02-14T00:01:39.123Z. -/
theorem parse_timestamp_reads_out_of_range_text :
    (∀ ts : IsoTimestamp, ts.render ≠ lit "2024-13-45T99:99:99.1234+99:99 junk") ∧
      parseIso8601Timestamp (lit "2024-13-45T99:99:99.1234+99:99 junk") = some 1739491299123 := by
  refine ⟨fun ts h => ?_, by decide⟩
  have hlast := getLast_render ts 107
  rw [h] at hlast
  exact absurd (hlast rfl) (by decide)

/-- The same text, as a timestamp whose fields fit their digits and the word after it. -/
theorem parse_timestamp_accepts_text_outside_form :
    let ts : IsoTimestamp := ⟨2024, 13, 45, 99, 99, 99, [1, 2, 3, 4], .plus 99 99⟩
    let rest : CStr := [32, 106, 117, 110, 107]
    ts.Fits ∧ (∀ ts' : IsoTimestamp, ts'.render ≠ ts.render ++ rest) ∧
      parseIso8601Timestamp (ts.render ++ rest) = parseIso8601Timestamp ts.render ∧
      parseIso8601Timestamp ts.render ≠ none := by
  intro ts rest
  have hfit : ts.Fits := ⟨by decide, by decide, by decide, by decide, by decide, by decide,
    by decide, ⟨by decide, by decide⟩⟩
  obtain ⟨happend, hnone⟩ := parse_timestamp_ignores_ranges_and_trailing_text ts hfit rest
    (by simp [rest, show isDigit 32 = false by decide]) (by decide)
  refine ⟨hfit, fun ts' h => ?_, happend, fun h => absurd (hnone.mp h) (by decide)⟩
  have hlast := getLast_render ts' 107
  rw [h, List.getLast?_append] at hlast
  exact absurd (hlast rfl) (by decide)

end BacnetEventServer
