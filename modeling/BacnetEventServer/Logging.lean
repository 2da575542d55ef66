import BacnetEventServer.Json

namespace BacnetEventServer

/-- `LOG_BUFFER_SIZE`. -/
def logBufferSize : Nat := 4096

/-- `LOG_MAX_MESSAGE_SIZE`. -/
def logMaxMessageSize : Nat := 2048

/-- `LOG_OUTPUT_STDOUT`, `LOG_OUTPUT_STDERR` and `LOG_OUTPUT_FILE`. -/
def logOutputStdout : Nat := 1
def logOutputStderr : Nat := 2
def logOutputFile : Nat := 4

/-- `log_format_t`. -/
inductive LogFormat
  | text
  | json
  deriving DecidableEq, Repr

/-- The fields of `log_config_t` that the file output reads; `hasFilePath` is
`file_path != NULL`. Levels are the values of `log_level_t`, `TRACE` = 0 to `OFF` = 6. -/
structure LogConfig where
  level : Nat
  outputs : Nat
  format : LogFormat
  hasFilePath : Bool
  maxFileSize : Nat
  maxBackupFiles : Int
  includeTimestamp : Bool
  includeLevel : Bool
  includeComponent : Bool
  includeLocation : Bool
  colorize : Bool
  deriving DecidableEq, Repr

/-- `log_get_default_config`: standard output only, no file path. -/
def logGetDefaultConfig : LogConfig where
  level := 2
  outputs := logOutputStdout
  format := .text
  hasFilePath := false
  maxFileSize := 10 * 1024 * 1024
  maxBackupFiles := 5
  includeTimestamp := true
  includeLevel := true
  includeComponent := true
  includeLocation := false
  colorize := true

/-- Whether the configuration sends records to the file. -/
def LogConfig.fileOutput (config : LogConfig) : Bool :=
  config.outputs &&& logOutputFile != 0

/-- `snprintf` into a buffer of `size` bytes: the first `size - 1` bytes of the text. -/
def snprintfText (size : Nat) (text : CStr) : CStr := text.take (size - 1)

/-- `level_names`. -/
def levelNames : List CStr :=
  [lit "TRACE", lit "DEBUG", lit "INFO", lit "WARN", lit "ERROR", lit "FATAL", lit "OFF"]

/-- `level_colors`. -/
def levelColors : List CStr :=
  [lit "\x1b[36m", lit "\x1b[34m", lit "\x1b[32m", lit "\x1b[33m", lit "\x1b[31m",
    lit "\x1b[1m\x1b[31m", []]

/-- `ANSI_RESET`. -/
def ansiReset : CStr := lit "\x1b[0m"

def levelName (level : Nat) : CStr := levelNames.getD level []

/-- `%-5s`: the text padded with blanks to five bytes. -/
def padRight5 (s : CStr) : CStr := s ++ List.replicate (5 - s.length) 32

/-- `get_filename`: what follows the last `/`. -/
def getFilename (path : CStr) : CStr := (path.reverse.takeWhile (· != 47)).reverse

/-- `%d`. -/
def decimalText (n : Int) : CStr := lit (toString n)

/-- The escape `escape_json_string` writes for one byte. -/
def escapeJsonByte (c : UInt8) : CStr :=
  if c = 34 then [92, 34]
  else if c = 92 then [92, 92]
  else if c = 10 then [92, 110]
  else if c = 13 then [92, 114]
  else if c = 9 then [92, 116]
  else [c]

/-- `escape_json_string(input, output, output_size)`: bytes are escaped while fewer than
`output_size - 2` have been written. -/
def escapeJsonString (outputSize : Nat) (input : CStr) : CStr :=
  go input []
where
  go : CStr → CStr → CStr
    | [], out => out
    | c :: cs, out => if out.length < outputSize - 2 then go cs (out ++ escapeJsonByte c) else out

/-- The ANSI stripping loop of `log_writev`: from an escape byte everything up to and
including the next `m` is dropped; the flag is set inside a sequence. -/
def stripAnsi : Bool → CStr → CStr
  | _, [] => []
  | false, c :: cs => if c = 27 then stripAnsi true cs else c :: stripAnsi false cs
  | true, c :: cs => if c = 109 then stripAnsi false cs else stripAnsi true cs

/-- What a `log_writev` call is given: the text `vsnprintf` would format, and the clock
reading as `get_timestamp` (text format) or `get_timestamp_iso8601` (JSON) renders it. -/
structure WritevCall where
  level : Nat
  component : Option CStr
  file : CStr
  line : Int
  message : CStr
  timestamp : CStr

/-- What a `log_structured` call is given, with the clock reading as
`get_timestamp_iso8601` renders it. -/
structure StructuredCall where
  level : Nat
  component : Option CStr
  message : CStr
  jsonData : Option CStr
  timestamp : CStr

/-- The JSON record of `log_writev`. -/
def logWritevJsonLine (c : WritevCall) : CStr :=
  snprintfText logBufferSize
    (lit "\x7b\"timestamp\":\"" ++ c.timestamp ++ lit "\",\"level\":\"" ++ levelName c.level ++
      lit "\",\"component\":\"" ++ c.component.getD [] ++ lit "\",\"file\":\"" ++
      getFilename c.file ++ lit "\",\"line\":" ++ decimalText c.line ++ lit ",\"message\":\"" ++
      escapeJsonString logMaxMessageSize (c.message.take (logMaxMessageSize - 1)) ++
      lit "\"\x7d\n")

/-- The text record of `log_writev`, its parts written one after another at `offset` (exact
while the parts before the message fit the buffer). -/
def logWritevTextLine (config : LogConfig) (c : WritevCall) : CStr :=
  let timestamp := if config.includeTimestamp then c.timestamp ++ lit " " else []
  let level :=
    if config.includeLevel then
      if config.colorize && config.outputs &&& (logOutputStdout ||| logOutputStderr) != 0 then
        levelColors.getD c.level [] ++ padRight5 (levelName c.level) ++ ansiReset ++ lit " "
      else padRight5 (levelName c.level) ++ lit " "
    else []
  let component :=
    match c.component with
    | some name => if config.includeComponent then lit "[" ++ name ++ lit "] " else []
    | none => []
  let location :=
    if config.includeLocation then
      lit "(" ++ getFilename c.file ++ lit ":" ++ decimalText c.line ++ lit ") "
    else []
  snprintfText logBufferSize (timestamp ++ level ++ component ++ location ++
    c.message.take (logMaxMessageSize - 1) ++ lit "\n")

/-- The bytes `log_writev` writes to the file: the text record loses its colour codes into
`file_buffer`, of `LOG_BUFFER_SIZE` bytes. -/
def logWritevFileBytes (config : LogConfig) (c : WritevCall) : CStr :=
  match config.format with
  | .json => logWritevJsonLine c
  | .text =>
    if config.colorize then (stripAnsi false (logWritevTextLine config c)).take (logBufferSize - 1)
    else logWritevTextLine config c

/-- How a `log_structured` record ends: with `json_data` embedded when it is not empty. -/
def structuredTail : Option CStr → CStr
  | some data => if data ≠ [] then lit "\",\"data\":" ++ data ++ lit "\x7d\n" else lit "\"\x7d\n"
  | none => lit "\"\x7d\n"

/-- The record of `log_structured`. -/
def logStructuredLine (c : StructuredCall) : CStr :=
  snprintfText logBufferSize
    (lit "\x7b\"timestamp\":\"" ++ c.timestamp ++ lit "\",\"level\":\"" ++ levelName c.level ++
      lit "\",\"component\":\"" ++ c.component.getD [] ++ lit "\",\"message\":\"" ++
      escapeJsonString logMaxMessageSize c.message ++ structuredTail c.jsonData)

/-- The paths the logging module touches: `file_path` and `file_path.i`. -/
inductive LogPath
  | active
  | backup (i : Int)
  deriving DecidableEq, Repr

/-- The path `rotate_log_file` renames from at step `i`: the log itself for `0`. -/
def backupPath (i : Nat) : LogPath := if i = 0 then .active else .backup i

/-- `rename(old, new)`: the file at `old` moves to `new`, replacing what was there; nothing
happens when `old` does not exist. -/
def renameFile (files : LogPath → Option CStr) (old new : LogPath) : LogPath → Option CStr :=
  match files old with
  | some content => Function.update (Function.update files old none) new (some content)
  | none => files

/-- `fopen(path, "a")`: the file is created empty when it does not exist. -/
def openAppend (files : LogPath → Option CStr) (p : LogPath) : LogPath → Option CStr :=
  if (files p).isSome then files else Function.update files p (some [])

/-- The renames of `rotate_log_file`, `i` running from `n - 1` down to `0`. -/
def renameBackups (n : Nat) (files : LogPath → Option CStr) : LogPath → Option CStr :=
  (List.range n).reverse.foldl (fun fs i => renameFile fs (backupPath i) (.backup (i + 1))) files

/-- The part of `log_state` the file output reads and writes, with the directory. -/
structure LogState where
  config : LogConfig
  logFileOpen : Bool
  currentFileSize : Nat
  files : LogPath → Option CStr

/-- `log_init`: with file output the log is opened for appending and the count starts at the
file's size. `log_init`'s own start-up record is the first `log_writev` call of a run. -/
def logInit (config : Option LogConfig) (files : LogPath → Option CStr) : LogState :=
  let config := config.getD logGetDefaultConfig
  if config.fileOutput && config.hasFilePath then
    let files := openAppend files .active
    ⟨config, true, ((files .active).getD []).length, files⟩
  else ⟨config, false, 0, files⟩

/-- `rotate_log_file`: shift the backups up by one, the log becoming `file_path.1`, remove
`file_path.(max_backup_files + 1)`, reopen the log and reset the count. -/
def rotateLogFile (s : LogState) : LogState :=
  if s.logFileOpen && s.config.hasFilePath then
    let renamed := renameBackups s.config.maxBackupFiles.toNat s.files
    let unlinked := Function.update renamed (.backup (s.config.maxBackupFiles + 1)) none
    { s with files := openAppend unlinked .active, currentFileSize := 0 }
  else s

/-- Append bytes to the open log and count them. -/
def writeLogFile (s : LogState) (bytes : CStr) : LogState :=
  { s with
    files := Function.update s.files .active (some ((s.files .active).getD [] ++ bytes))
    currentFileSize := s.currentFileSize + bytes.length }

/-- The file part of `log_writev`: write the record, then rotate once the count reaches
`max_file_size`. -/
def logWritev (s : LogState) (c : WritevCall) : LogState :=
  if c.level < s.config.level then s
  else if s.config.fileOutput && s.logFileOpen then
    let written := writeLogFile s (logWritevFileBytes s.config c)
    if 0 < s.config.maxFileSize ∧ s.config.maxFileSize ≤ written.currentFileSize then
      rotateLogFile written
    else written
  else s

/-- The file part of `log_structured`: write the record; nothing checks for rotation. -/
def logStructured (s : LogState) (c : StructuredCall) : LogState :=
  if c.level < s.config.level then s
  else if s.config.fileOutput && s.logFileOpen then writeLogFile s (logStructuredLine c)
  else s

/-- A call of either writer. -/
inductive LogCall
  | writev (call : WritevCall)
  | structured (call : StructuredCall)

def logStep (s : LogState) : LogCall → LogState
  | .writev c => logWritev s c
  | .structured c => logStructured s c

/-- The log after a sequence of calls, the mutex ordering them one after another. -/
def logRun (s : LogState) (calls : List LogCall) : LogState := calls.foldl logStep s

end BacnetEventServer
