import SeriesQuery.Text.Letter

set_option autoImplicit false

/-!
# Tokens of the path grammar

The closed sets of words that a metrics path may hold at fixed places, and the one-letter codes that
program types and batch phases take inside a dotted context. Words are read in any case of their
ASCII letters.
-/

namespace SeriesQuery.Query

open SeriesQuery.Text

/-- The first word of a listed pair that has the same letters as `token`. -/
def lookUpToken {Word : Type} (words : List (String × Word)) (token : String) : Option Word :=
  (words.find? fun (word, _) => sameLetters word token).map Prod.snd

/-- What part of the platform a path asks about. -/
inductive ContextKind where
  | collect
  | process
  | store
  | query
  deriving DecidableEq, Repr

def ContextKind.words : List (String × ContextKind) :=
  [("collect", .collect), ("process", .process), ("store", .store), ("query", .query)]

def ContextKind.ofToken? (token : String) : Option ContextKind :=
  lookUpToken words token

inductive ProgramKind where
  | flows
  | batch
  | procedures
  deriving DecidableEq, Repr

/-- The words for the kinds of program. Batch jobs have two. -/
def ProgramKind.words : List (String × ProgramKind) :=
  [("flows", .flows), ("batch", .batch), ("mapreduce", .batch), ("procedures", .procedures)]

def ProgramKind.ofToken? (token : String) : Option ProgramKind :=
  lookUpToken words token

/-- The code of a kind of program inside a dotted context. -/
def ProgramKind.code : ProgramKind → String
  | .flows => "f"
  | .batch => "b"
  | .procedures => "p"

inductive BatchPhase where
  | mappers
  | reducers
  deriving DecidableEq, Repr

def BatchPhase.words : List (String × BatchPhase) :=
  [("mappers", .mappers), ("reducers", .reducers)]

def BatchPhase.ofToken? (token : String) : Option BatchPhase :=
  lookUpToken words token

def BatchPhase.code : BatchPhase → String
  | .mappers => "m"
  | .reducers => "r"

inductive CollectBranch where
  | apps
  | streams
  deriving DecidableEq, Repr

def CollectBranch.words : List (String × CollectBranch) :=
  [("apps", .apps), ("streams", .streams)]

def CollectBranch.ofToken? (token : String) : Option CollectBranch :=
  lookUpToken words token

inductive StoreBranch where
  | apps
  | datasets
  deriving DecidableEq, Repr

def StoreBranch.words : List (String × StoreBranch) :=
  [("apps", .apps), ("datasets", .datasets)]

def StoreBranch.ofToken? (token : String) : Option StoreBranch :=
  lookUpToken words token

end SeriesQuery.Query
