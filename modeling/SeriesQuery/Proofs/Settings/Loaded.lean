import SeriesQuery.Proofs.Settings.Fields
import SeriesQuery.Settings.Source

set_option autoImplicit false

/-!
# Which settings are in effect

Settings are loaded from one source, the first that is there, and from no other: if it is a file that
cannot be read or is rejected, loading fails. Each field is then set by its variable, if that says a
value of the field, else by its member of the file, else it has the standard value, whatever holds for
the other fields.
-/

namespace SeriesQuery.Settings

open SeriesQuery.Text.Numeral

/-! ## Variables -/

/-- The environment sets a field to a value. -/
inductive Field.SetTo (environment : List (String × String)) :
    {Value : Type} → Field Value → Value → Prop where
  | host {text : String} : environment.lookup hostVariable = some text →
      SetTo environment .host text
  | port {text : String} {port : UInt16} : environment.lookup portVariable = some text →
      NaturalLiteral text.toList port.toNat → SetTo environment .port port
  | secondDelay {text : String} {delay : Int64} :
      environment.lookup delayVariable = some text →
      IntegerLiteral text.toList delay.toInt → SetTo environment .secondDelay delay
  | logLevel {text : String} : environment.lookup logVariable = some text →
      SetTo environment .logLevel text

section

variable {Value : Type} {environment : List (String × String)}

/-- The value that the environment sets a field to, if it sets it. -/
def Field.override? (environment : List (String × String)) : Field Value → Option Value
  | .host => valueOf? environment hostVariable
  | .port => (valueOf? environment portVariable).bind readPort
  | .secondDelay => (valueOf? environment delayVariable).bind readDelay
  | .logLevel => valueOf? environment logVariable
  | _ => none

theorem readPort_eq_some_iff {text : String} {port : UInt16} :
    readPort text = some port ↔ NaturalLiteral text.toList port.toNat := by
  have bounded : ∀ number, Text.Numeral.natural? UInt16.size text.toList = some number →
      number < UInt16.size :=
    fun _ read => (natural?_eq_some_iff.mp read).2
  rw [readPort, width_uInt16.map_eq_some_iff bounded, natural?_eq_some_iff]
  exact and_iff_left port.toNat_lt

theorem Field.override?_eq_some_iff {field : Field Value} {value : Value} :
    field.override? environment = some value ↔ field.SetTo environment value := by
  constructor
  · intro found
    cases field with
    | host => exact .host found
    | port =>
        obtain ⟨text, set, read⟩ := Option.bind_eq_some_iff.mp found
        exact .port set (readPort_eq_some_iff.mp read)
    | secondDelay =>
        obtain ⟨text, set, read⟩ := Option.bind_eq_some_iff.mp found
        exact .secondDelay set (int64?_eq_some_iff.mp read)
    | logLevel => exact .logLevel found
    | _ => cases found
  · intro set
    cases set with
    | host set => exact set
    | port set literal =>
        exact Option.bind_eq_some_iff.mpr ⟨_, set, readPort_eq_some_iff.mpr literal⟩
    | secondDelay set literal =>
        exact Option.bind_eq_some_iff.mpr ⟨_, set, int64?_eq_some_iff.mpr literal⟩
    | logLevel set => exact set

/-- The value of a field in effect, with the document that the source of the settings holds, if it
holds one. -/
inductive Field.Resolves (environment : List (String × String)) (document : Option Toml)
    (field : Field Value) : Value → Prop where
  | environment {value : Value} : field.SetTo environment value →
      Resolves environment document field value
  | file {given raw : Toml} {value : Value} : (∀ other, ¬ field.SetTo environment other) →
      document = some given → field.written? given = some raw → field.Means raw value →
      Resolves environment document field value
  | standard : (∀ other, ¬ field.SetTo environment other) →
      (∀ given, document = some given → field.written? given = none) →
      Resolves environment document field (field.get standard)

variable {document : Option Toml} {field : Field Value}

theorem Field.Resolves.unique {value other : Value}
    (resolves : field.Resolves environment document value)
    (also : field.Resolves environment document other) : value = other := by
  cases resolves with
  | environment set =>
      cases also with
      | environment alsoSet =>
          have found := override?_eq_some_iff.mpr set
          exact Option.some.inj (found.symm.trans (override?_eq_some_iff.mpr alsoSet))
      | file unset _ _ _ => exact absurd set (unset _)
      | standard unset _ => exact absurd set (unset _)
  | file unset held member means =>
      cases also with
      | environment set => exact absurd set (unset _)
      | file _ alsoHeld alsoMember alsoMeans =>
          cases held.symm.trans alsoHeld
          cases member.symm.trans alsoMember
          have read := read?_eq_some_iff.mpr means
          exact Option.some.inj (read.symm.trans (read?_eq_some_iff.mpr alsoMeans))
      | standard _ absent =>
          rw [absent _ held] at member
          cases member
  | standard unset absent =>
      cases also with
      | environment set => exact absurd set (unset _)
      | file _ held member _ =>
          rw [absent _ held] at member
          cases member
      | standard _ _ => rfl

end

/-! ## Sources -/

/-- The source of settings is the first that is there. -/
inductive Chosen (flag : Option String) (environment : List (String × String)) (files : Files) :
    Source → Prop where
  | flag {path : String} : flag = some path → Chosen flag environment files (.named path)
  | environment {path : String} : flag = none → environment.lookup fileVariable = some path →
      Chosen flag environment files (.named path)
  | standard : flag = none → environment.lookup fileVariable = none →
      files.isThere standardFile = true → Chosen flag environment files .standard
  | nothing : flag = none → environment.lookup fileVariable = none →
      files.isThere standardFile = false → Chosen flag environment files .none

section

variable {flag : Option String} {environment : List (String × String)} {files : Files}
  {source : Source}

end

/-! ## Loading -/

/-- The file that is looked at for settings. -/
def consulted (flag : Option String) (environment : List (String × String)) : String :=
  (flag.or (environment.lookup fileVariable)).getD standardFile

section

variable {flag : Option String} {environment : List (String × String)} {files others : Files}
  {source : Source}

theorem Chosen.move (chosen : Chosen flag environment files source)
    (same : others (consulted flag environment) = files (consulted flag environment)) :
    Chosen flag environment others source := by
  have there (unflagged : flag = none) (unset : environment.lookup fileVariable = none) :
      others.isThere standardFile = files.isThere standardFile := by
    have held : others standardFile = files standardFile := by
      simpa [consulted, unflagged, unset] using same
    rw [Files.isThere, Files.isThere, held]
  cases chosen with
  | flag flagged => exact .flag flagged
  | environment unflagged set => exact .environment unflagged set
  | standard unflagged unset isThere =>
      exact .standard unflagged unset ((there unflagged unset).trans isThere)
  | nothing unflagged unset absent =>
      exact .nothing unflagged unset ((there unflagged unset).trans absent)

end

end SeriesQuery.Settings
