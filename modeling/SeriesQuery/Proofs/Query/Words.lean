import SeriesQuery.Query.Vocabulary

set_option autoImplicit false

/-!
# What the words of a path mean

The words that a path may hold at fixed places, written out with their meaning. A segment spells a
word if its letters are those of the word once its ASCII letters are written small.
-/

namespace SeriesQuery.Text

theorem lowerLetter_eq_toLower (c : Char) : lowerLetter c = c.toLower := by
  rw [lowerLetter]
  split
  · next capital =>
      have high : c.val.toNat ≤ 90 := capital.2
      have lowered : c.toLower.toNat = (c.val + 32).toNat := by
        show (dite (c.val ≥ 'A'.val ∧ c.val ≤ 'Z'.val) _ _ : Char).toNat = _
        exact congrArg Char.toNat (dif_pos capital)
      have small : c.toLower.toNat = c.toNat + 32 := by
        rw [lowered, UInt32.toNat_add]
        exact Nat.mod_eq_of_lt (by show c.val.toNat + 32 < 2 ^ 32; omega)
      rw [← small, Char.ofNat_toNat]
  · next other =>
      show c = dite (c.val ≥ 'A'.val ∧ c.val ≤ 'Z'.val) _ _
      exact Eq.symm (dif_neg other)

/-- A text is a word in small letters up to the case of ASCII letters. -/
def Spells (text word : String) : Prop :=
  text.toList.map Char.toLower = word.toList

theorem sameLetters_iff {word text : String} (small : Spells word word) :
    sameLetters word text = true ↔ Spells text word := by
  have letters (text : String) : text.toList.map lowerLetter = text.toList.map Char.toLower :=
    List.map_congr_left fun c _ => lowerLetter_eq_toLower c
  rw [sameLetters, beq_iff_eq, letters, letters, small]
  exact eq_comm

theorem Spells.unique {text word other : String} (spelled : Spells text word)
    (again : Spells text other) : word = other :=
  String.toList_inj.mp (spelled.symm.trans again)

instance (text word : String) : Decidable (Spells text word) :=
  inferInstanceAs (Decidable (_ = _))

end SeriesQuery.Text

namespace SeriesQuery.Query

open SeriesQuery.Text

theorem lookUpToken_cons {Word : Type} (spelling token : String) (word : Word)
    (words : List (String × Word)) :
    lookUpToken ((spelling, word) :: words) token =
      if sameLetters spelling token then some word else lookUpToken words token := by
  simp only [lookUpToken, List.find?_cons]
  cases sameLetters spelling token <;> rfl

/-- In a list of different words in small letters, a token names what stands beside the word that it
spells. -/
theorem lookUpToken_eq_some_iff {Word : Type} {words : List (String × Word)} {token : String}
    {word : Word} (small : ∀ entry ∈ words, Spells entry.1 entry.1)
    (different : (words.map Prod.fst).Nodup) :
    lookUpToken words token = some word ↔
      ∃ spelling, (spelling, word) ∈ words ∧ Spells token spelling := by
  induction words with
  | nil => simp [lookUpToken]
  | cons entry rest ih =>
      obtain ⟨first, meaning⟩ := entry
      obtain ⟨absent, restDifferent⟩ := List.nodup_cons.mp different
      have rest_iff := ih (fun entry member => small entry (List.mem_cons_of_mem _ member))
        restDifferent
      have first_iff : sameLetters first token = true ↔ Spells token first :=
        sameLetters_iff (small (first, meaning) (by simp))
      rw [lookUpToken_cons]
      split
      · next same =>
          have spelled := first_iff.mp same
          constructor
          · intro given
            cases given
            exact ⟨first, by simp, spelled⟩
          · intro given
            obtain ⟨spelling, member, again⟩ := given
            rcases List.mem_cons.mp member with here | there
            · cases here
              rfl
            · have twice : spelling ∈ rest.map Prod.fst := List.mem_map.mpr ⟨_, there, rfl⟩
              exact absurd (again.unique spelled ▸ twice) absent
      · next other =>
          rw [rest_iff]
          constructor
          · intro given
            obtain ⟨spelling, member, spelled⟩ := given
            exact ⟨spelling, List.mem_cons_of_mem _ member, spelled⟩
          · intro given
            obtain ⟨spelling, member, spelled⟩ := given
            rcases List.mem_cons.mp member with here | there
            · cases here
              exact absurd (first_iff.mpr spelled) other
            · exact ⟨spelling, there, spelled⟩

/-! ## The vocabularies -/

def ContextKind.NamedBy (token : String) : ContextKind → Prop
  | .collect => Spells token "collect"
  | .process => Spells token "process"
  | .store => Spells token "store"
  | .query => Spells token "query"

theorem ContextKind.ofToken?_eq_some_iff {token : String} {kind : ContextKind} :
    ofToken? token = some kind ↔ kind.NamedBy token := by
  rw [ofToken?, lookUpToken_eq_some_iff (by decide) (by decide)]
  cases kind <;> simp [words, NamedBy]

def ProgramKind.NamedBy (token : String) : ProgramKind → Prop
  | .flows => Spells token "flows"
  | .batch => Spells token "batch" ∨ Spells token "mapreduce"
  | .procedures => Spells token "procedures"

theorem ProgramKind.ofToken?_eq_some_iff {token : String} {kind : ProgramKind} :
    ofToken? token = some kind ↔ kind.NamedBy token := by
  rw [ofToken?, lookUpToken_eq_some_iff (by decide) (by decide)]
  cases kind <;> simp [words, NamedBy, or_and_right, exists_or]

def BatchPhase.NamedBy (token : String) : BatchPhase → Prop
  | .mappers => Spells token "mappers"
  | .reducers => Spells token "reducers"

theorem BatchPhase.ofToken?_eq_some_iff {token : String} {phase : BatchPhase} :
    ofToken? token = some phase ↔ phase.NamedBy token := by
  rw [ofToken?, lookUpToken_eq_some_iff (by decide) (by decide)]
  cases phase <;> simp [words, NamedBy]

def CollectBranch.NamedBy (token : String) : CollectBranch → Prop
  | .apps => Spells token "apps"
  | .streams => Spells token "streams"

theorem CollectBranch.ofToken?_eq_some_iff {token : String} {branch : CollectBranch} :
    ofToken? token = some branch ↔ branch.NamedBy token := by
  rw [ofToken?, lookUpToken_eq_some_iff (by decide) (by decide)]
  cases branch <;> simp [words, NamedBy]

def StoreBranch.NamedBy (token : String) : StoreBranch → Prop
  | .apps => Spells token "apps"
  | .datasets => Spells token "datasets"

theorem StoreBranch.ofToken?_eq_some_iff {token : String} {branch : StoreBranch} :
    ofToken? token = some branch ↔ branch.NamedBy token := by
  rw [ofToken?, lookUpToken_eq_some_iff (by decide) (by decide)]
  cases branch <;> simp [words, NamedBy]

theorem StoreBranch.ofToken?_eq_datasets_iff {token : String} :
    ofToken? token = some .datasets ↔ Spells token "datasets" :=
  ofToken?_eq_some_iff

theorem StoreBranch.ofToken?_eq_none_iff {token : String} :
    ofToken? token = none ↔ ¬ Spells token "apps" ∧ ¬ Spells token "datasets" := by
  rw [Option.eq_none_iff_forall_ne_some]
  simp only [ne_eq, ofToken?_eq_some_iff]
  constructor
  · exact fun none => ⟨none .apps, none .datasets⟩
  · rintro ⟨notApps, notDatasets⟩ branch
    cases branch with
    | apps => exact notApps
    | datasets => exact notDatasets

end SeriesQuery.Query
