import BacnetEventServer.Logging

namespace BacnetEventServer

section Renames

variable {f : LogPath → Option CStr}

theorem renameFile_apply {old new : LogPath} (hne : old ≠ new) (q : LogPath) :
    renameFile f old new q =
      if q = new then (f old).or (f new) else if q = old then none else f q := by
  unfold renameFile
  cases h : f old with
  | none =>
    split_ifs with h1 h2
    · subst h1; simp
    · subst h2; exact h
    · rfl
  | some c =>
    simp only [Function.update_apply, Option.or_some]

theorem renameBackups_succ (n : Nat) (f : LogPath → Option CStr) :
    renameBackups (n + 1) f = renameBackups n (renameFile f (backupPath n) (.backup (n + 1))) := by
  simp [renameBackups, List.range_succ]

/-- The path below `file.t`: the log itself below `file.1`. -/
def belowPath (t : Int) : LogPath := if t = 1 then .active else .backup (t - 1)

theorem backup_eq_backupPath {t : Int} {n : Nat} :
    LogPath.backup t = backupPath n ↔ n ≠ 0 ∧ t = n := by
  unfold backupPath; split_ifs <;> simp_all [eq_comm]

theorem belowPath_eq_backupPath {t : Int} {n : Nat} :
    belowPath t = backupPath n ↔ t = n + 1 := by
  unfold belowPath backupPath; split_ifs <;> simp <;> omega

theorem belowPath_eq_backup {t s : Int} : belowPath t = .backup s ↔ t ≠ 1 ∧ s = t - 1 := by
  unfold belowPath; split_ifs <;> simp_all [eq_comm]

theorem belowPath_succ (n : Nat) : belowPath ((n : Int) + 1) = backupPath n := by
  unfold belowPath backupPath; split_ifs <;> first | rfl | omega | (congr 1; omega)

/-- Where each path's content comes from after the renames for `n` backups: `file.t` from
the path below it, the top one keeping its own content when nothing is moved onto it. -/
def shiftedBackups (n : Nat) (f : LogPath → Option CStr) : LogPath → Option CStr
  | .active => if n = 0 then f .active else none
  | .backup t =>
    if 1 ≤ t ∧ t < n then f (belowPath t)
    else if 1 ≤ t ∧ t = n then (f (belowPath t)).or (f (.backup t))
    else f (.backup t)

theorem renameBackups_eq (n : Nat) (f : LogPath → Option CStr) :
    renameBackups n f = shiftedBackups n f := by
  induction n generalizing f with
  | zero =>
    funext q
    cases q with
    | active => rfl
    | backup t => rw [shiftedBackups, if_neg (by omega), if_neg (by omega)]; rfl
  | succ n ih =>
    funext q
    have hne : backupPath n ≠ .backup ((n : Int) + 1) := by
      unfold backupPath; split_ifs <;> simp
    rw [renameBackups_succ, ih]
    cases q with
    | active =>
      simp only [shiftedBackups, Nat.add_one_ne_zero, if_false]
      split_ifs with h0
      · subst h0
        rw [renameFile_apply hne, if_neg (by simp),
          if_pos (show LogPath.active = backupPath 0 from rfl)]
      · rfl
    | backup t =>
      rcases (show t < 1 ∨ (1 ≤ t ∧ t < n) ∨ (1 ≤ t ∧ t = n) ∨ t = n + 1 ∨ n + 1 < t by
        omega) with h | h | h | h | h <;>
      simp (disch := omega) only [shiftedBackups, renameFile_apply hne, LogPath.backup.injEq,
        backup_eq_backupPath, belowPath_eq_backupPath, belowPath_eq_backup, if_pos, if_neg,
        Option.or_none, h, belowPath_succ, Nat.cast_add, Nat.cast_one, true_and, and_true,
        ↓reduceIte]

theorem openAppend_apply (files : LogPath → Option CStr) (p q : LogPath) :
    openAppend files p q = if q = p ∧ files p = none then some [] else files q := by
  unfold openAppend
  cases h : files p <;> by_cases hq : q = p <;> simp_all [Function.update_apply]

end Renames

/-- The log the module means to keep: the active log and the contents rotated out, most
recent first. -/
structure LogHistory where
  active : CStr
  rotated : List CStr

/-- Appending a record, then rotating once the log reaches `maxFileSize`. -/
def LogHistory.write (maxFileSize : Nat) (h : LogHistory) (bytes : CStr) : LogHistory :=
  if 0 < maxFileSize ∧ maxFileSize ≤ (h.active ++ bytes).length then
    ⟨[], (h.active ++ bytes) :: h.rotated⟩
  else ⟨h.active ++ bytes, h.rotated⟩

/-- The backups hold the contents rotated out, most recent first: `file.(k+1)` holds the
`k`-th for `k < n`, and there is no backup above `file.n`. -/
def BackupsHold (n : Nat) (files : LogPath → Option CStr) (rotated : List CStr) : Prop :=
  ∀ k : Nat, files (.backup ((k : Int) + 1)) = if k < n then rotated[k]? else none

/-- A log state keeps a history when the active file holds the history's log, the count is
its length, and the backups hold its last `max_backup_files` rotated contents. -/
def LogState.Keeps (s : LogState) (h : LogHistory) : Prop :=
  s.files .active = some h.active ∧ s.currentFileSize = h.active.length ∧
    BackupsHold s.config.maxBackupFiles.toNat s.files h.rotated

/-- The history after a sequence of `log_writev` calls; records below the level are
dropped. -/
def LogHistory.writevRun (config : LogConfig) (h : LogHistory) (calls : List WritevCall) :
    LogHistory :=
  calls.foldl (fun h c => if c.level < config.level then h
    else h.write config.maxFileSize (logWritevFileBytes config c)) h

/-- After a record the history's log is below `maxFileSize`. -/
theorem LogHistory.write_active_lt {maxFileSize : Nat} (h : LogHistory) (bytes : CStr)
    (hmax : 0 < maxFileSize) :
    (h.write maxFileSize bytes).active.length < maxFileSize := by
  unfold LogHistory.write
  split_ifs with hr
  · simpa using hmax
  · simp only [List.length_append] at hr ⊢; omega

theorem LogHistory.writevRun_active_lt (config : LogConfig) (h : LogHistory)
    (calls : List WritevCall) (hmax : 0 < config.maxFileSize)
    (hlt : h.active.length < config.maxFileSize) :
    (h.writevRun config calls).active.length < config.maxFileSize := by
  induction calls generalizing h with
  | nil => exact hlt
  | cons c calls ih =>
    apply ih
    dsimp only
    split_ifs
    · exact hlt
    · exact LogHistory.write_active_lt _ _ hmax

theorem getElem?_succ_eq_none {l : List CStr} {k : Nat} (h : l[k]? = none) : l[k + 1]? = none := by
  rw [List.getElem?_eq_none_iff] at h ⊢; omega

/-- With `n ≥ 1` backups the renames move every file up one. -/
theorem renameBackups_backupsHold {n : Nat} {files : LogPath → Option CStr} {a : CStr}
    {rotated : List CStr} (hn : 1 ≤ n) (ha : files .active = some a)
    (hold : BackupsHold n files rotated) :
    renameBackups n files .active = none ∧
      (∀ k : Nat, k < n →
        renameBackups n files (.backup ((k : Int) + 1)) = (a :: rotated)[k]?) ∧
      ∀ k : Nat, n ≤ k → renameBackups n files (.backup ((k : Int) + 1)) = none := by
  rw [renameBackups_eq]
  refine ⟨by simp [shiftedBackups]; omega, fun k hk => ?_, fun k hk => ?_⟩
  swap
  · rw [shiftedBackups, if_neg (by omega), if_neg (by omega), hold, if_neg (by omega)]
  simp only [shiftedBackups, belowPath_succ]
  rcases Nat.lt_or_ge (k + 1) n with hlt | hge
  · rw [if_pos ⟨by omega, by omega⟩]
    cases k with
    | zero => rw [List.getElem?_cons_zero]; exact ha
    | succ k =>
      rw [backupPath, if_neg (by omega), List.getElem?_cons_succ, Nat.cast_succ, hold,
        if_pos (by omega)]
  · obtain rfl : n = k + 1 := by omega
    rw [if_neg (by omega), if_pos ⟨by omega, rfl⟩, hold k, if_pos (Nat.lt_succ_self k)]
    cases k with
    | zero => simp [backupPath, ha]
    | succ j =>
      rw [backupPath, if_neg (by omega), List.getElem?_cons_succ, Nat.cast_succ, hold j,
        if_pos (by omega)]
      cases h : rotated[j]? with
      | none => rw [getElem?_succ_eq_none h]; rfl
      | some c => rfl

section Rotation

variable {s : LogState}

@[simp] theorem rotateLogFile_config : (rotateLogFile s).config = s.config := by
  unfold rotateLogFile; split_ifs <;> rfl

@[simp] theorem rotateLogFile_logFileOpen : (rotateLogFile s).logFileOpen = s.logFileOpen := by
  unfold rotateLogFile; split_ifs <;> rfl

/-- With at least one backup, a rotation moves the log to `file.1` and starts an empty one. -/
theorem rotateLogFile_keeps {a : CStr} {rotated : List CStr}
    (hn : 1 ≤ s.config.maxBackupFiles) (hopen : s.logFileOpen = true)
    (hpath : s.config.hasFilePath = true) (ha : s.files .active = some a)
    (hold : BackupsHold s.config.maxBackupFiles.toNat s.files rotated) :
    (rotateLogFile s).Keeps ⟨[], a :: rotated⟩ := by
  obtain ⟨hact, hmoved, habove⟩ := renameBackups_backupsHold (by omega) ha hold
  unfold rotateLogFile
  rw [if_pos (by simp [hopen, hpath])]
  refine ⟨?_, rfl, fun k => ?_⟩
  · simp [openAppend_apply, Function.update_apply, hact]
  · simp only [openAppend_apply, reduceCtorEq, false_and, if_false, Function.update_apply,
      LogPath.backup.injEq]
    split_ifs with h1 h2 h2
    · omega
    · rfl
    · exact hmoved k h2
    · exact habove k (by omega)

/-- With no backups a rotation reopens the full log and restarts the count. -/
theorem rotateLogFile_without_backups {s : LogState} (hn : s.config.maxBackupFiles ≤ 0)
    (hopen : s.logFileOpen = true) (hpath : s.config.hasFilePath = true)
    (ha : (s.files .active).isSome = true) :
    (rotateLogFile s).files .active = s.files .active ∧
      (rotateLogFile s).currentFileSize = 0 := by
  have h0 : s.config.maxBackupFiles.toNat = 0 := by omega
  unfold rotateLogFile
  rw [if_pos (by simp [hopen, hpath])]
  refine ⟨?_, rfl⟩
  dsimp only
  rw [h0]
  simp [openAppend_apply, Function.update_apply, renameBackups, Option.isSome_iff_ne_none.mp ha]

end Rotation

section Writers

variable {s : LogState} {bytes : CStr}

@[simp] theorem writeLogFile_config : (writeLogFile s bytes).config = s.config := rfl

@[simp] theorem writeLogFile_logFileOpen : (writeLogFile s bytes).logFileOpen = s.logFileOpen :=
  rfl

@[simp] theorem writeLogFile_currentFileSize :
    (writeLogFile s bytes).currentFileSize = s.currentFileSize + bytes.length := rfl

@[simp] theorem writeLogFile_active :
    (writeLogFile s bytes).files .active = some ((s.files .active).getD [] ++ bytes) := by
  simp [writeLogFile]

@[simp] theorem writeLogFile_backup (t : Int) :
    (writeLogFile s bytes).files (.backup t) = s.files (.backup t) := by
  simp [writeLogFile, Function.update_apply]

theorem logWritev_config (c : WritevCall) : (logWritev s c).config = s.config := by
  unfold logWritev; dsimp only; split_ifs <;> simp

theorem logWritev_logFileOpen (c : WritevCall) : (logWritev s c).logFileOpen = s.logFileOpen := by
  unfold logWritev; dsimp only; split_ifs <;> simp

/-- With at least one backup, a `log_writev` call keeps the history written to. -/
theorem logWritev_keeps {h : LogHistory} (c : WritevCall) (hn : 1 ≤ s.config.maxBackupFiles)
    (hfile : s.config.fileOutput = true) (hopen : s.logFileOpen = true)
    (hpath : s.config.hasFilePath = true) (hk : s.Keeps h) :
    (logWritev s c).Keeps (if c.level < s.config.level then h
      else h.write s.config.maxFileSize (logWritevFileBytes s.config c)) := by
  obtain ⟨ha, hsize, hold⟩ := hk
  have hwritten : (writeLogFile s (logWritevFileBytes s.config c)).currentFileSize =
      (h.active ++ logWritevFileBytes s.config c).length := by simp [hsize]
  unfold logWritev
  rw [if_pos (by simp [hfile, hopen] : (s.config.fileOutput && s.logFileOpen) = true)]
  dsimp only
  split_ifs with hlevel hrot
  · exact ⟨ha, hsize, hold⟩
  · rw [LogHistory.write, if_pos (by rwa [← hwritten])]
    exact rotateLogFile_keeps (by simpa using hn) (by simpa using hopen) (by simpa using hpath)
      (by simp [ha]) (fun k => by simpa using hold k)
  · rw [LogHistory.write, if_neg (by rwa [← hwritten])]
    exact ⟨by simp [ha], hwritten, fun k => by simpa using hold k⟩

theorem logStructured_of_enabled {c : StructuredCall} (hlevel : s.config.level ≤ c.level)
    (hfile : s.config.fileOutput = true) (hopen : s.logFileOpen = true) :
    logStructured s c = writeLogFile s (logStructuredLine c) := by
  rw [logStructured, if_neg (by omega), if_pos (by simp [hfile, hopen])]

end Writers

theorem logInit_keeps (config : LogConfig) (files : LogPath → Option CStr)
    (hfile : config.fileOutput = true) (hpath : config.hasFilePath = true)
    (hnone : ∀ t : Int, files (.backup t) = none) :
    (logInit (some config) files).Keeps ⟨(files .active).getD [], []⟩ ∧
      (logInit (some config) files).config = config ∧
      (logInit (some config) files).logFileOpen = true := by
  have hact : openAppend files .active .active = some ((files .active).getD []) := by
    cases h : files .active <;> simp [openAppend_apply, h]
  simp only [logInit, Option.getD_some, hfile, hpath, Bool.and_self, if_true, and_true]
  exact ⟨hact, by rw [hact]; rfl, fun k => by simp [openAppend_apply, hnone]⟩

/-- With a backup and only `log_writev` writing, the directory keeps the history. -/
theorem logRun_writev_keeps (s : LogState) (h : LogHistory) (calls : List WritevCall)
    (hn : 1 ≤ s.config.maxBackupFiles) (hfile : s.config.fileOutput = true)
    (hopen : s.logFileOpen = true) (hpath : s.config.hasFilePath = true) (hk : s.Keeps h) :
    (logRun s (calls.map .writev)).Keeps (h.writevRun s.config calls) := by
  induction calls generalizing s h with
  | nil => exact hk
  | cons c calls ih =>
    have hc := logWritev_config (s := s) c
    have hkeeps := logWritev_keeps c hn hfile hopen hpath hk
    rw [← hc] at hn hfile hpath hkeeps
    have := ih (logWritev s c) _ hn hfile (by rw [logWritev_logFileOpen]; exact hopen) hpath hkeeps
    rwa [hc] at this

/-- From `log_init`, with a backup and only `log_writev` writing, every call keeps the history. -/
theorem writev_log_keeps_history (config : LogConfig) (files : LogPath → Option CStr)
    (calls : List WritevCall) (hfile : config.fileOutput = true)
    (hpath : config.hasFilePath = true) (hn : 1 ≤ config.maxBackupFiles)
    (hnone : ∀ t : Int, files (.backup t) = none) :
    (logRun (logInit (some config) files) (calls.map .writev)).Keeps
        ((LogHistory.mk ((files .active).getD []) []).writevRun config calls) ∧
      (0 < config.maxFileSize → ((files .active).getD []).length < config.maxFileSize →
        ((LogHistory.mk ((files .active).getD []) []).writevRun config calls).active.length <
          config.maxFileSize) := by
  obtain ⟨hk, hc, hopen⟩ := logInit_keeps config files hfile hpath hnone
  refine ⟨?_, fun hmax hlt => LogHistory.writevRun_active_lt config _ calls hmax hlt⟩
  have := logRun_writev_keeps _ _ calls (by rwa [hc]) (by rwa [hc]) hopen (by rwa [hc]) hk
  rwa [hc] at this

theorem snprintfText_length_le (size : Nat) (text : CStr) :
    (snprintfText size text).length ≤ size - 1 := by
  simp [snprintfText]

theorem structuredTail_length (jsonData : Option CStr) :
    3 ≤ (structuredTail jsonData).length := by
  unfold structuredTail
  split
  · split_ifs
    · simp only [List.length_append]
      have : (lit "\",\"data\":").length = 9 := rfl
      omega
    · decide
  · decide

/-- Every `log_structured` record has at least the 56 bytes of its fixed text. -/
theorem logStructuredLine_length (c : StructuredCall) : 56 ≤ (logStructuredLine c).length := by
  have htail := structuredTail_length c.jsonData
  have h1 : (lit "\x7b\"timestamp\":\"").length = 14 := rfl
  have h2 : (lit "\",\"level\":\"").length = 11 := rfl
  have h3 : (lit "\",\"component\":\"").length = 15 := rfl
  have h4 : (lit "\",\"message\":\"").length = 13 := rfl
  simp only [logStructuredLine, snprintfText, logBufferSize, List.length_take,
    List.length_append, h1, h2, h3, h4]
  omega

theorem logWritevFileBytes_length_le (config : LogConfig) (c : WritevCall) :
    (logWritevFileBytes config c).length ≤ logBufferSize - 1 := by
  unfold logWritevFileBytes
  split
  · exact snprintfText_length_le _ _
  · split_ifs
    · simp
    · exact snprintfText_length_le _ _

/-- `log_structured` only appends: nothing rotates the log. -/
theorem logRun_structured (s : LogState) (calls : List StructuredCall)
    (hfile : s.config.fileOutput = true) (hopen : s.logFileOpen = true)
    (hlevel : ∀ c ∈ calls, s.config.level ≤ c.level) :
    ((logRun s (calls.map .structured)).files .active).getD [] =
        (s.files .active).getD [] ++ (calls.map logStructuredLine).flatten ∧
      (logRun s (calls.map .structured)).currentFileSize =
        s.currentFileSize + ((calls.map logStructuredLine).flatten).length := by
  induction calls generalizing s with
  | nil => simp [logRun]
  | cons c calls ih =>
    have hstep := logStructured_of_enabled (hlevel c (List.mem_cons_self _ _)) hfile hopen
    obtain ⟨hact, hsize⟩ := ih (logStructured s c) (by rw [hstep]; exact hfile)
      (by rw [hstep]; exact hopen)
      (fun c' hc' => by rw [hstep]; exact hlevel c' (List.mem_cons_of_mem _ hc'))
    simp only [logRun, List.map_cons, List.foldl_cons, logStep] at hact hsize ⊢
    rw [hact, hsize, hstep]
    simp [Nat.add_assoc]

theorem length_flatten_structured (calls : List StructuredCall) :
    56 * calls.length ≤ ((calls.map logStructuredLine).flatten).length := by
  induction calls with
  | nil => simp
  | cons c calls ih =>
    have := logStructuredLine_length c
    simp only [List.map_cons, List.flatten_cons, List.length_append, List.length_cons]
    omega

/-- The count and the log part in two ways. `log_structured` appends and never rotates, so
its records take the log past `max_file_size` by at least 56 bytes each; and with no backups
a rotation keeps the whole log while the count restarts at zero. -/
theorem log_file_outgrows_rotation (s : LogState) (hfile : s.config.fileOutput = true)
    (hopen : s.logFileOpen = true) :
    (∀ calls : List StructuredCall, (∀ c ∈ calls, s.config.level ≤ c.level) →
      ((logRun s (calls.map .structured)).files .active).getD [] =
          (s.files .active).getD [] ++ (calls.map logStructuredLine).flatten ∧
        ((s.files .active).getD []).length + 56 * calls.length ≤
          (((logRun s (calls.map .structured)).files .active).getD []).length) ∧
    (∀ c : WritevCall, s.config.level ≤ c.level → s.config.hasFilePath = true →
      s.config.maxBackupFiles ≤ 0 → 0 < s.config.maxFileSize →
      s.config.maxFileSize ≤ s.currentFileSize + (logWritevFileBytes s.config c).length →
      (logWritev s c).files .active =
          some ((s.files .active).getD [] ++ logWritevFileBytes s.config c) ∧
        (logWritev s c).currentFileSize = 0) := by
  refine ⟨fun calls hlevel => ?_, fun c hlevel hpath hn hmax hfull => ?_⟩
  · obtain ⟨hact, -⟩ := logRun_structured s calls hfile hopen hlevel
    have := length_flatten_structured calls
    rw [hact, List.length_append]
    exact ⟨rfl, by omega⟩
  · unfold logWritev
    rw [if_neg (by omega), if_pos (by simp [hfile, hopen])]
    dsimp only
    rw [if_pos (by simpa using ⟨hmax, hfull⟩)]
    obtain ⟨hact, hsize⟩ := rotateLogFile_without_backups (s := writeLogFile s _)
      (by simpa using hn) (by simpa using hopen) (by simpa using hpath) (by simp)
    exact ⟨hact.trans writeLogFile_active, hsize⟩

set_option maxRecDepth 4000 in
/-- A log limited to 100 bytes, with no backups: 75 structured records take it past
`100 + LOG_BUFFER_SIZE`, and the first `log_writev` record reaching the limit leaves the
whole log behind a count of zero. -/
theorem log_file_passes_limit :
    let s : LogState :=
      ⟨{ logGetDefaultConfig with
          outputs := logOutputFile, format := .json, hasFilePath := true, maxFileSize := 100,
          maxBackupFiles := 0 },
        true, 0, fun p => if p = .active then some [] else none⟩
    let c : StructuredCall := ⟨2, some (lit "LOG"), lit "tick", none, lit "2024-01-01T00:00:00.000Z"⟩
    let w : WritevCall :=
      ⟨2, some (lit "LOG"), lit "main.c", 1, lit "started", lit "2024-01-01T00:00:00.000Z"⟩
    s.config.maxFileSize + logBufferSize ≤
        (((logRun s ((List.replicate 75 c).map .structured)).files .active).getD []).length ∧
      (logWritev s w).currentFileSize = 0 ∧
      s.config.maxFileSize ≤ (((logWritev s w).files .active).getD []).length := by
  intro s c w
  obtain ⟨hstructured, hwritev⟩ := log_file_outgrows_rotation s (by decide) (by decide)
  have hfull :
      s.config.maxFileSize ≤ s.currentFileSize + (logWritevFileBytes s.config w).length := by
    decide
  obtain ⟨hact, hsize⟩ := hwritev w (by decide) (by decide) (by decide) (by decide) hfull
  have hgrow := (hstructured (List.replicate 75 c) (by simp [List.mem_replicate]; decide)).2
  refine ⟨?_, hsize, ?_⟩
  · simp only [List.length_replicate] at hgrow
    exact le_trans (by decide) hgrow
  · rw [hact]
    simpa using hfull

end BacnetEventServer
