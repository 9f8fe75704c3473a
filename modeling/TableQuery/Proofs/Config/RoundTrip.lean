import TableQuery.Config.Reader
import TableQuery.Proofs.Time.Phrase

/-!
# Settings read back as they were written

A span is written in whole milliseconds, and all other settings as they are.

* `readDuration?_text`: the text of a span in any notation.
* `Config.readSpans?_eq`: the spans among settings, each read from its text.
* `Config.read?_toJson`: settings that are written and read come back with their spans in whole
  milliseconds.
* `spans_read_back`: which settings come back as they are.
-/

namespace TableQuery

/-! ## Settings one by one -/

/-- The text of a span, in any notation, is read as its whole milliseconds. -/
theorem readDuration?_text {ν : Type} [SettingSource ν] {d : Duration}
    (h : d.seconds ≤ maxWord64) {v : ν} (hv : SettingSource.text? v = some d.text) :
    readDuration? v = some d.wholeMillis := by
  rw [readDuration?, hv]
  exact Duration.parse?_text h

theorem natural?_nat {n : ℕ} (h : n ≤ maxWord64) : SettingSource.natural? (Json.nat n) = some n := by
  show (if 0 ≤ (n : ℤ) ∧ (n : ℤ) ≤ maxWord64 then some (n : ℤ).toNat else none) = _
  rw [if_pos ⟨Int.natCast_nonneg n, Int.ofNat_le.mpr h⟩, Int.toNat_natCast]

theorem real?_ofBinary64 {x : Binary64} (h : x.isFinite = true) :
    SettingSource.real? (Json.ofBinary64 x) = some x := by
  cases x with
  | finite x => rfl
  | nan | infinite _ => cases h

theorem readOptionalText?_toJson (text : Option String) :
    readOptionalText? ((text.map Json.string).getD .null) = some text := by
  cases text <;> rfl

/-! ## Groups of settings -/

/-- The settings with their spans in whole milliseconds. -/
def MemoryConfig.wholeMillis (c : MemoryConfig) : MemoryConfig :=
  { c with defaultTtl := c.defaultTtl.wholeMillis }

/-- The settings with their spans in whole milliseconds. -/
def DistributedConfig.wholeMillis (c : DistributedConfig) : DistributedConfig :=
  { c with
    connectTimeout := c.connectTimeout.wholeMillis
    commandTimeout := c.commandTimeout.wholeMillis
    ttl := c.ttl.wholeMillis }

/-- Words of 64 bits, doubles that are finite, and a span whose seconds are a word. -/
structure MemoryConfig.IsWritable (c : MemoryConfig) : Prop where
  maxBytes : c.maxBytes ≤ maxWord64
  defaultTtl : c.defaultTtl.seconds ≤ maxWord64
  reenableRatio : c.reenableRatio.isFinite = true
  evictionAllowance : c.evictionAllowance.isFinite = true

/-- Spans whose seconds are words of 64 bits. -/
structure DistributedConfig.IsWritable (c : DistributedConfig) : Prop where
  connectTimeout : c.connectTimeout.seconds ≤ maxWord64
  commandTimeout : c.commandTimeout.seconds ≤ maxWord64
  ttl : c.ttl.seconds ≤ maxWord64

/-- A double that is finite, and a word of 64 bits. -/
structure ReadConfig.IsWritable (c : ReadConfig) : Prop where
  numericStringThreshold : c.numericStringThreshold.isFinite = true
  maxInList : c.maxInList ≤ maxWord64

theorem MemoryConfig.read?_toJson {c : MemoryConfig} (h : c.IsWritable) :
    MemoryConfig.read? c.toJson = some c.wholeMillis := by
  have hspan : readDuration? (Json.string c.defaultTtl.text) = some _ :=
    readDuration?_text h.defaultTtl rfl
  simp [read?, toJson, group?, setting?, SettingSource.parts?, hspan, natural?_nat h.maxBytes,
    real?_ofBinary64 h.reenableRatio, real?_ofBinary64 h.evictionAllowance, wholeMillis]

theorem DistributedConfig.read?_toJson {c : DistributedConfig} (h : c.IsWritable) :
    DistributedConfig.read? c.toJson = some c.wholeMillis := by
  have hconnect : readDuration? (Json.string c.connectTimeout.text) = some _ :=
    readDuration?_text h.connectTimeout rfl
  have hcommand : readDuration? (Json.string c.commandTimeout.text) = some _ :=
    readDuration?_text h.commandTimeout rfl
  have httl : readDuration? (Json.string c.ttl.text) = some _ := readDuration?_text h.ttl rfl
  simp [read?, toJson, group?, setting?, SettingSource.parts?, SettingSource.bool?,
    SettingSource.text?, hconnect, hcommand, httl, readOptionalText?_toJson,
    wholeMillis]

/-- The settings of the caches with their spans in whole milliseconds. -/
def Config.wholeMillis (c : Config) : Config :=
  { c with cache := { c.cache with
      memory := c.cache.memory.wholeMillis
      distributed := c.cache.distributed.wholeMillis } }

/-- All spans among the settings. -/
def Config.spans (c : Config) : List Duration :=
  [c.cache.memory.defaultTtl, c.cache.distributed.connectTimeout,
    c.cache.distributed.commandTimeout, c.cache.distributed.ttl]

/-- The spans among the settings as they are read from their texts. -/
def Config.readSpans? (c : Config) : Option (List Duration) :=
  c.spans.mapM fun d => Duration.parse? d.text

/-- Settings that can be written. -/
structure Config.IsWritable (c : Config) : Prop where
  memory : c.cache.memory.IsWritable
  distributed : c.cache.distributed.IsWritable
  query : c.query.IsWritable

theorem CacheConfig.read?_toJson {c : CacheConfig} (hmemory : c.memory.IsWritable)
    (hdistributed : c.distributed.IsWritable) : CacheConfig.read? c.toJson =
      some { c with
        memory := c.memory.wholeMillis
        distributed := c.distributed.wholeMillis } := by
  simp [read?, toJson, group?, setting?, SettingSource.parts?, SettingSource.bool?,
    SettingSource.text?, MemoryConfig.read?_toJson hmemory,
    DistributedConfig.read?_toJson hdistributed]

namespace Config

variable {c : Config}

/-- Settings that are written and read come back with their spans in whole milliseconds. -/
theorem read?_toJson (h : c.IsWritable) : Config.read? c.toJson = some c.wholeMillis := by
  simp [read?, toJson, group?, setting?, SettingSource.parts?, SettingSource.bool?,
    CacheConfig.read?_toJson h.memory h.distributed, ReadConfig.read?, readAdvisor?,
    real?_ofBinary64 h.query.numericStringThreshold, natural?_nat h.query.maxInList, wholeMillis]

theorem wholeMillis_eq_self_iff : c.wholeMillis = c ↔ ∀ d ∈ c.spans, 1000000 ∣ d.nanos := by
  obtain ⟨⟨enabled, keyPrefix, memory, distributed⟩, query, advisorEnabled⟩ := c
  obtain ⟨maxBytes, defaultTtl, reenableRatio, evictionAllowance⟩ := memory
  obtain ⟨used, url, password, connectTimeout, commandTimeout, ttl⟩ := distributed
  simp [wholeMillis, MemoryConfig.wholeMillis, DistributedConfig.wholeMillis, spans,
    Duration.wholeMillis_eq_self_iff]

/-- Settings stay writable in whole milliseconds. -/
theorem IsWritable.wholeMillis (h : c.IsWritable) : c.wholeMillis.IsWritable where
  memory := { h.memory with
    defaultTtl := (Duration.seconds_wholeMillis _).trans_le h.memory.defaultTtl }
  distributed := {
    connectTimeout := (Duration.seconds_wholeMillis _).trans_le h.distributed.connectTimeout
    commandTimeout := (Duration.seconds_wholeMillis _).trans_le h.distributed.commandTimeout
    ttl := (Duration.seconds_wholeMillis _).trans_le h.distributed.ttl }
  query := h.query

theorem spans_wholeMillis (c : Config) : c.wholeMillis.spans = c.spans.map Duration.wholeMillis :=
  rfl

theorem spans_wholeMillis_eq_iff :
    c.wholeMillis.spans = c.spans ↔ ∀ d ∈ c.spans, 1000000 ∣ d.nanos := by
  rw [spans_wholeMillis]
  simp [spans, Duration.wholeMillis_eq_self_iff]

theorem readSpans?_eq (h : ∀ d ∈ c.spans, d.seconds ≤ maxWord64) :
    c.readSpans? = some c.wholeMillis.spans :=
  Duration.mapM_parse?_text h

/-- The spans stay readable in whole milliseconds. -/
theorem seconds_spans_wholeMillis (h : ∀ d ∈ c.spans, d.seconds ≤ maxWord64) :
    ∀ d ∈ c.wholeMillis.spans, d.seconds ≤ maxWord64 := by
  rw [spans_wholeMillis, List.forall_mem_map]
  intro d hd
  exact (Duration.seconds_wholeMillis d).trans_le (h d hd)

theorem wholeMillis_wholeMillis (c : Config) : c.wholeMillis.wholeMillis = c.wholeMillis := by
  simp [wholeMillis, MemoryConfig.wholeMillis, DistributedConfig.wholeMillis]

end Config

/-- The text of every span whose seconds are a word of 64 bits is read as its whole milliseconds,
in whatever notation it is given. So the spans among settings, and settings as a whole, come back as
they are if all the spans are whole milliseconds, and only then; and from the first time on they
do. -/
theorem spans_read_back :
    (∀ d : Duration, d.seconds ≤ maxWord64 →
      Duration.parse? d.text = some (.ofMillis d.millis) ∧
      ∀ {ν : Type} [SettingSource ν] (v : ν), SettingSource.text? v = some d.text →
        readDuration? v = some (.ofMillis d.millis)) ∧
    (∀ c : Config, (∀ d ∈ c.spans, d.seconds ≤ maxWord64) →
      c.readSpans? = some c.wholeMillis.spans ∧
      (c.readSpans? = some c.spans ↔ ∀ d ∈ c.spans, 1000000 ∣ d.nanos) ∧
      c.wholeMillis.readSpans? = some c.wholeMillis.spans) ∧
    ∀ c : Config, c.IsWritable →
      Config.read? c.toJson = some c.wholeMillis ∧
      (Config.read? c.toJson = some c ↔ ∀ d ∈ c.spans, 1000000 ∣ d.nanos) ∧
      Config.read? c.wholeMillis.toJson = some c.wholeMillis := by
  refine ⟨fun d hd => ⟨Duration.parse?_text hd, fun v hv => readDuration?_text hd hv⟩,
    fun c hc => ⟨Config.readSpans?_eq hc, ?_, ?_⟩, fun c hc => ⟨Config.read?_toJson hc, ?_, ?_⟩⟩
  · rw [Config.readSpans?_eq hc, Option.some.injEq]
    exact Config.spans_wholeMillis_eq_iff
  · rw [Config.readSpans?_eq (Config.seconds_spans_wholeMillis hc), Config.wholeMillis_wholeMillis]
  · rw [Config.read?_toJson hc, Option.some.injEq]
    exact Config.wholeMillis_eq_self_iff
  · rw [Config.read?_toJson hc.wholeMillis, Config.wholeMillis_wholeMillis]

/-! ### Uneven spans -/

/-- The longest span. -/
def longest : Duration := ⟨maxWord64 * 1000000000 + 999999999⟩

/-- Settings with the longest span and with a nanosecond too much in another one. -/
def unevenConfig : Config :=
  { Config.default with cache := { CacheConfig.default with
      memory := { MemoryConfig.default with defaultTtl := longest }
      distributed := { DistributedConfig.default with ttl := ⟨1500000001⟩ } } }

/-- The longest span loses its last digits, and the settings come back from the second time on. -/
theorem spans_read_back_uneven :
    (longest.seconds ≤ maxWord64 ∧ (∀ d ∈ unevenConfig.spans, d.seconds ≤ maxWord64) ∧
      unevenConfig.IsWritable) ∧
    readDuration? (Json.string longest.text) =
      some ⟨maxWord64 * 1000000000 + 999000000⟩ ∧
    unevenConfig.readSpans? ≠ some unevenConfig.spans ∧
    Config.read? unevenConfig.toJson ≠ some unevenConfig ∧
    Config.read? unevenConfig.wholeMillis.toJson = some unevenConfig.wholeMillis := by
  have hlongest : longest.seconds ≤ maxWord64 := by decide
  have hspans : ∀ d ∈ unevenConfig.spans, d.seconds ≤ maxWord64 := by decide
  have hwritable : unevenConfig.IsWritable := {
    memory := ⟨by decide, hlongest, by decide +kernel, by decide +kernel⟩
    distributed := ⟨by decide, by decide, by decide⟩
    query := ⟨by decide +kernel, by decide⟩ }
  have huneven : ¬∀ d ∈ unevenConfig.spans, 1000000 ∣ d.nanos := by decide
  obtain ⟨hone, hall, hconfigs⟩ := spans_read_back
  obtain ⟨-, hspansIff, -⟩ := hall unevenConfig hspans
  obtain ⟨-, hiff, hagain⟩ := hconfigs unevenConfig hwritable
  exact ⟨⟨hlongest, hspans, hwritable⟩, (hone longest hlongest).2 _ rfl,
    mt hspansIff.mp huneven, mt hiff.mp huneven, hagain⟩

end TableQuery
