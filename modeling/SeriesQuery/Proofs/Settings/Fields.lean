import SeriesQuery.Proofs.Text.Items
import SeriesQuery.Proofs.Text.Numeral
import SeriesQuery.Settings.Document

set_option autoImplicit false

/-!
# Settings field by field

Settings are what their fields hold. A document is accepted if and only if it is a record of records and
each member that stands for a field has a value for it; the settings read from it hold this value
in each field that has a member, and the standard value in each field that has none. Nothing else that a
document holds has a part in it.
-/

namespace SeriesQuery.Settings

open SeriesQuery.Batch SeriesQuery.Json SeriesQuery.Text

/-! ## Fields -/

/-- The fields of settings, with the type of what they hold. -/
inductive Field : Type → Type where
  | host : Field String
  | port : Field UInt16
  | origins : Field (List String)
  | secondDelay : Field Int64
  | resolution : Field UInt32
  | maxCount : Field Nat
  | policy : Field Policy
  | parallelism : Field Nat
  | maxItems : Field Nat
  | metricsEnabled : Field Bool
  | logLevel : Field String

/-- The records that settings consist of. -/
inductive Part where
  | server
  | query
  | batch
  | monitoring

section

variable {Value : Type}

def Field.get (settings : Settings) : Field Value → Value
  | .host => settings.server.host
  | .port => settings.server.port
  | .origins => settings.server.origins
  | .secondDelay => settings.query.secondDelay
  | .resolution => settings.query.resolution
  | .maxCount => settings.query.maxCount
  | .policy => settings.batch.policy
  | .parallelism => settings.batch.parallelism
  | .maxItems => settings.batch.maxItems
  | .metricsEnabled => settings.monitoring.metricsEnabled
  | .logLevel => settings.monitoring.logLevel

/-- The member of a record with a name, or at a place if the record is an array. -/
def member? (name : String) (place : Nat) : Toml → Option Toml
  | .table entries => entries.lookup name
  | .array items => items[place]?
  | _ => none

def Part.written? (document : Toml) : Part → Option Toml
  | .server => member? "server" 0 document
  | .query => member? "query" 1 document
  | .batch => member? "batch" 2 document
  | .monitoring => member? "monitoring" 3 document

/-- Where a field stands in a document: in which record, under which name, and at which place of a
record that is an array. -/
structure Spot where
  part : Part
  name : String
  place : Nat

def Field.spot : Field Value → Spot
  | .host => ⟨.server, "host", 0⟩
  | .port => ⟨.server, "port", 1⟩
  | .origins => ⟨.server, "cors_allowed_origins", 2⟩
  | .secondDelay => ⟨.query, "second_delay", 0⟩
  | .resolution => ⟨.query, "resolution", 1⟩
  | .maxCount => ⟨.query, "max_count", 2⟩
  | .policy => ⟨.batch, "failure_policy", 0⟩
  | .parallelism => ⟨.batch, "parallelism", 1⟩
  | .maxItems => ⟨.batch, "max_items", 2⟩
  | .metricsEnabled => ⟨.monitoring, "metrics_enabled", 0⟩
  | .logLevel => ⟨.monitoring, "log_level", 1⟩

/-- The member of a document that stands for a field. -/
def Field.written? (document : Toml) (field : Field Value) : Option Toml :=
  (field.spot.part.written? document).bind (member? field.spot.name field.spot.place)

/-- A value that is a word. -/
inductive IsWord : Toml → String → Prop where
  | string (word : String) : IsWord (.string word) word
  | table (word : String) : IsWord (.table [(word, .table [])]) word
  | array (word : String) : IsWord (.table [(word, .array [])]) word

/-- What a member of a document sets its field to. -/
inductive Field.Means : {Value : Type} → Field Value → Toml → Value → Prop where
  | host (text : String) : Means .host (.string text) text
  | port (port : UInt16) : Means .port (.integer port.toNat) port
  | origins (texts : List String) : Means .origins (.array (texts.map .string)) texts
  | secondDelay (delay : Int64) : Means .secondDelay (.integer delay.toInt) delay
  | resolution (resolution : UInt32) : Means .resolution (.integer resolution.toNat) resolution
  | maxCount {count : Nat} : count < UInt64.size → Means .maxCount (.integer count) count
  | policy {raw : Toml} {policy : Policy} : IsWord raw policy.name → Means .policy raw policy
  | parallelism {count : Nat} : count < UInt64.size → Means .parallelism (.integer count) count
  | maxItems {count : Nat} : count < UInt64.size → Means .maxItems (.integer count) count
  | metricsEnabled (enabled : Bool) : Means .metricsEnabled (.boolean enabled) enabled
  | logLevel (text : String) : Means .logLevel (.string text) text

/-- The value of a field that is read from its member. -/
def Field.read? : {Value : Type} → Field Value → Toml → Option Value
  | _, .host => tomlText?
  | _, .port => fun raw => (natural? Format.toml UInt16.size raw).map UInt16.ofNat
  | _, .origins => texts? Format.toml
  | _, .secondDelay => signed? Format.toml
  | _, .resolution => fun raw => (natural? Format.toml UInt32.size raw).map UInt32.ofNat
  | _, .maxCount => natural? Format.toml UInt64.size
  | _, .policy => policy? Format.toml
  | _, .parallelism => natural? Format.toml UInt64.size
  | _, .maxItems => natural? Format.toml UInt64.size
  | _, .metricsEnabled => tomlBool?
  | _, .logLevel => tomlText?

end

theorem tomlWord?_eq_some_iff {raw : Toml} {word : String} :
    tomlWord? raw = some word ↔ IsWord raw word := by
  constructor
  · intro read
    unfold tomlWord? at read
    split at read
    · cases read
      exact .string word
    · cases read
      exact .table word
    · cases read
      exact .array word
    · cases read
  · intro means
    cases means with
    | string => rfl
    | table => rfl
    | array => rfl

theorem text?_eq_some_iff {raw : Toml} {text : String} :
    tomlText? raw = some text ↔ raw = .string text := by
  cases raw <;> simp [tomlText?]

theorem bool?_eq_some_iff {raw : Toml} {value : Bool} :
    tomlBool? raw = some value ↔ raw = .boolean value := by
  cases raw <;> simp [tomlBool?]

theorem natural?_toml {bound : Nat} {raw : Toml} {value : Nat} :
    natural? Format.toml bound raw = some value ↔ value < bound ∧ raw = .integer value := by
  cases raw with
  | integer written =>
      simp only [natural?, Format.toml, tomlInt?, Option.map_eq_some_iff, Option.filter_eq_some_iff,
        decide_eq_true_eq, Toml.integer.injEq]
      constructor
      · intro read
        obtain ⟨_, ⟨same, low, high⟩, rfl⟩ := read
        cases same
        omega
      · intro given
        obtain ⟨small, rfl⟩ := given
        exact ⟨value, ⟨rfl, by omega⟩, rfl⟩
  | _ => simp [natural?, Format.toml, tomlInt?]

theorem word?_toml {Word : Type} {bound : Nat} {ofNat : Nat → Word} {toNat : Word → Nat}
    (width : Numeral.Width bound ofNat toNat) {raw : Toml} {word : Word} :
    (natural? Format.toml bound raw).map ofNat = some word ↔ raw = .integer (toNat word) := by
  have bounded : ∀ number, natural? Format.toml bound raw = some number → number < bound :=
    fun _ read => (natural?_toml.mp read).1
  rw [width.map_eq_some_iff bounded, natural?_toml]
  exact and_iff_right (width.lt word)

theorem signed?_toml {raw : Toml} {value : Int64} :
    signed? Format.toml raw = some value ↔ raw = .integer value.toInt := by
  cases raw with
  | integer written =>
      simp only [signed?, Format.toml, tomlInt?, Option.map_eq_some_iff, Option.filter_eq_some_iff,
        Toml.integer.injEq]
      constructor
      · intro read
        obtain ⟨_, ⟨same, inside⟩, rfl⟩ := read
        cases same
        rw [Numeral.toInt_ofInt_of_inInt64 inside]
      · intro same
        subst same
        exact ⟨value.toInt, ⟨rfl, Numeral.inInt64_toInt value⟩, Int64.ofInt_toInt value⟩
  | _ => simp [signed?, Format.toml, tomlInt?]

theorem texts?_toml {raw : Toml} {texts : List String} :
    texts? Format.toml raw = some texts ↔ raw = .array (texts.map .string) := by
  cases raw with
  | array items =>
      rw [Toml.array.injEq]
      exact mapM_eq_some_iff_map fun _ _ => text?_eq_some_iff
  | _ => simp [texts?, Format.toml, tomlItems?]

theorem find?_policy {word : String} {policy : Policy} :
    [Policy.isolate, Policy.abort].find? (fun policy => policy.name == word) = some policy ↔
      policy.name = word := by
  constructor
  · intro found
    have named := List.find?_some found
    exact beq_iff_eq.mp named
  · intro same
    subst same
    cases policy <;> rfl

theorem policy?_toml {raw : Toml} {policy : Policy} :
    policy? Format.toml raw = some policy ↔ IsWord raw policy.name := by
  rw [← tomlWord?_eq_some_iff]
  apply Option.bind_eq_some_iff.trans
  constructor
  · intro given
    obtain ⟨word, written, found⟩ := given
    exact (find?_policy.mp found) ▸ written
  · intro written
    exact ⟨policy.name, written, find?_policy.mpr rfl⟩

theorem Field.read?_eq_some_iff {Value : Type} {field : Field Value} {raw : Toml} {value : Value} :
    field.read? raw = some value ↔ field.Means raw value := by
  constructor
  · intro read
    cases field with
    | host => exact text?_eq_some_iff.mp read ▸ .host value
    | port => exact (word?_toml Numeral.width_uInt16).mp read ▸ .port value
    | origins => exact texts?_toml.mp read ▸ .origins value
    | secondDelay => exact signed?_toml.mp read ▸ .secondDelay value
    | resolution => exact (word?_toml Numeral.width_uInt32).mp read ▸ .resolution value
    | maxCount | parallelism | maxItems =>
        obtain ⟨small, rfl⟩ := natural?_toml.mp read
        constructor
        exact small
    | policy => exact .policy (policy?_toml.mp read)
    | metricsEnabled => exact bool?_eq_some_iff.mp read ▸ .metricsEnabled value
    | logLevel => exact text?_eq_some_iff.mp read ▸ .logLevel value
  · intro means
    cases means with
    | host | logLevel => exact text?_eq_some_iff.mpr rfl
    | port => rw [Field.read?, word?_toml Numeral.width_uInt16]
    | origins => exact texts?_toml.mpr rfl
    | secondDelay => exact signed?_toml.mpr rfl
    | resolution => rw [Field.read?, word?_toml Numeral.width_uInt32]
    | maxCount small | parallelism small | maxItems small => exact natural?_toml.mpr ⟨small, rfl⟩
    | policy word => exact policy?_toml.mpr word
    | metricsEnabled => exact bool?_eq_some_iff.mpr rfl

/-! ## Records of a document -/

section

variable {raw : Option Toml}

end

section

variable {document : Toml} {settings : Settings}

/-- What a document leaves a field at: what its member means, or the standard value if there is no
member. -/
inductive Field.Leaves (document : Toml) {Value : Type} (field : Field Value) : Value → Prop where
  | written {raw : Toml} {value : Value} : field.written? document = some raw →
      field.Means raw value → Leaves document field value
  | absent : field.written? document = none → Leaves document field (field.get standard)

theorem Field.Leaves.means {Value : Type} {field : Field Value} {value : Value} {raw : Toml}
    (leaves : field.Leaves document value) (member : field.written? document = some raw) :
    field.Means raw value := by
  cases leaves with
  | written other means =>
      cases member.symm.trans other
      exact means
  | absent absent =>
      rw [absent] at member
      cases member

end

end SeriesQuery.Settings
