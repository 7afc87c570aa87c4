import GdbAi.Domain

/-!
# The configuration of the server

The settings that `Config::validate` of `gdb-ai-core/src/config.rs` checks, with their defaults.
Whether an entry of the allowlist is a socket address is a parameter.
-/

namespace GdbAi

/-! ### Settings -/

structure ServerConfig where
  maxSessions : ℕ := 8
  maxHttpSessions : ℕ := 128
  httpSessionIdleMs : ℕ := 15 * 60 * 1000
  commandTimeoutMs : ℕ := 15000
  waitTimeoutMs : ℕ := 5000
  writeLeaseMs : ℕ := 5 * 60 * 1000

structure Limits where
  miRecordBytes : ℕ := 8 * 1024 * 1024
  miDepth : ℕ := 128
  toolResponseBytes : ℕ := 256 * 1024
  inlineMemoryBytes : ℕ := 4 * 1024
  memoryReadBytes : ℕ := 16 * 1024 * 1024
  inferiorOutputRingBytes : ℕ := 8 * 1024 * 1024
  consoleOutputRingBytes : ℕ := 2 * 1024 * 1024
  stackFrames : ℕ := 64
  valueChildren : ℕ := 1000
  valueDepth : ℕ := 8
  sessionArtifactBytes : ℕ := 512 * 1024 * 1024
  ownerArtifactBytes : ℕ := 1024 * 1024 * 1024
  totalArtifactBytes : ℕ := 4 * 1024 * 1024 * 1024
  journalBytes : ℕ := 64 * 1024 * 1024
  processOpenFiles : ℕ := 0

structure StorageConfig where
  maxClosedSessions : ℕ := 256
  closedSessionRetentionMs : ℕ := 7 * 24 * 60 * 60 * 1000
  maxAuditRows : ℕ := 100000
  auditRetentionMs : ℕ := 30 * 24 * 60 * 60 * 1000
  maxSnapshotsPerSession : ℕ := 256
  maxOperationsPerSession : ℕ := 4096

structure OutputConfig where
  maxBytes : ℕ := 8 * 1024 * 1024

structure GdbConfig where
  pythonExtensionSha256 : Option String := none

/-- The default workspace is the current directory, which exists under some name. -/
structure SecurityConfig where
  workspaceRoots : List String := ["."]
  remoteAllowlist : List String := []

structure Config where
  server : ServerConfig := {}
  gdb : GdbConfig := {}
  limits : Limits := {}
  output : OutputConfig := {}
  storage : StorageConfig := {}
  security : SecurityConfig := {}

/-! ### The check -/

/-- `u8::is_ascii_hexdigit`. -/
def isAsciiHexdigit (c : Char) : Bool :=
  c.isDigit || ('a' ≤ c && c ≤ 'f') || ('A' ≤ c && c ≤ 'F')

namespace Config

variable (config : Config)

/-- The timeouts are valid. -/
def timeoutsValid : Bool :=
  config.server.commandTimeoutMs > 0
    && config.server.commandTimeoutMs ≤ 300000
    && config.server.waitTimeoutMs > 0
    && config.server.waitTimeoutMs ≤ 300000
    && config.server.writeLeaseMs > 0
    && config.server.httpSessionIdleMs ≥ 1000
    && config.storage.closedSessionRetentionMs ≥ 1000
    && config.storage.auditRetentionMs ≥ 1000

/-- The limits are valid. -/
def limitsValid : Bool :=
  config.server.maxSessions > 0
    && config.server.maxSessions ≤ 1024
    && config.server.maxHttpSessions > 0
    && config.server.maxHttpSessions ≤ 16384
    && config.limits.miRecordBytes ≥ 1024
    && config.limits.miDepth > 0
    && config.limits.toolResponseBytes ≥ 1024
    && config.limits.inlineMemoryBytes > 0
    && config.limits.inlineMemoryBytes ≤ config.limits.memoryReadBytes
    && config.limits.memoryReadBytes > 0
    && config.limits.inferiorOutputRingBytes > 0
    && config.limits.consoleOutputRingBytes > 0
    && config.limits.stackFrames > 0
    && config.limits.valueChildren > 0
    && config.limits.valueDepth > 0
    && config.limits.sessionArtifactBytes > 0
    && config.limits.ownerArtifactBytes ≥ config.limits.sessionArtifactBytes
    && config.limits.ownerArtifactBytes ≤ config.limits.totalArtifactBytes
    && config.limits.totalArtifactBytes ≥ config.limits.sessionArtifactBytes
    && config.limits.totalArtifactBytes ≤ 2 ^ 63 - 1
    && config.limits.journalBytes > 0
    && (config.limits.processOpenFiles = 0 || config.limits.processOpenFiles ≥ 32)
    && config.storage.maxClosedSessions > 0
    && config.storage.maxAuditRows > 0
    && config.storage.maxAuditRows ≤ 2 ^ 63 - 1
    && config.storage.maxSnapshotsPerSession > 0
    && config.storage.maxOperationsPerSession > 0
    && config.output.maxBytes > 0
    && config.output.maxBytes ≤ config.limits.sessionArtifactBytes

/-- `Config::validate`; `pinned` tells whether an endpoint is a socket address. -/
def validate (pinned : String → Bool) : Except Error Unit :=
  if !config.timeoutsValid || !config.limitsValid || config.security.workspaceRoots.isEmpty then
    .error ⟨.invalidArgument,
      "configuration contains an invalid timeout, limit, or empty workspace policy", false⟩
  else if config.security.remoteAllowlist.any fun endpoint => !pinned endpoint then
    .error ⟨.invalidArgument,
      "remote_allowlist entries must be pinned IP addresses and ports", false⟩
  else if config.gdb.pythonExtensionSha256.any fun hash =>
      byteLength hash.toList ≠ 64 || !hash.toList.all isAsciiHexdigit then
    .error ⟨.invalidArgument, "python_extension_sha256 must contain 64 hexadecimal digits", false⟩
  else .ok ()

variable {config} {pinned : String → Bool}

lemma limitsValid_of_validate (h : config.validate pinned = .ok ()) :
    config.limitsValid = true := by
  unfold validate at h
  split at h
  · cases h
  · rename_i hvalid
    simp only [Bool.or_eq_true, Bool.not_eq_true', not_or, Bool.not_eq_false] at hvalid
    exact hvalid.1.2

/-- The defaults pass their own check. -/
lemma validate_default (pinned : String → Bool) : ({} : Config).validate pinned = .ok () := by
  rfl

end Config

end GdbAi
