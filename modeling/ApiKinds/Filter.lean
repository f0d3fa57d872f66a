/-
  Filters that restrict which paths and operations take part.

  * `PathFilter`: the questions that classification asks of a filter, whatever
    answers them.
  * `FilterLists`: the include and exclude lists of a configuration, for paths,
    tags and operation ids. `fillFrom` completes them by another configuration.
  * `FilterLists.toPathFilter`: paths and operation ids are matched as globs, tags
    up to the case of letters; an exclude list wins over an include list, and an
    empty include list admits everything.
-/
import ApiKinds.Glob

namespace ApiKinds

/-- What classification asks of a filter. -/
structure PathFilter where
  /-- A path is admitted. -/
  admitsPath : String → Bool
  /-- The tags of a path are admitted. -/
  admitsTags : List String → Bool
  /-- An operation id is admitted. -/
  admitsOperation : String → Bool
  /-- Anything is restricted at all. -/
  restricts : Bool
  /-- Operation ids are restricted. -/
  restrictsOperations : Bool

/-- Include and exclude lists. -/
structure FilterLists where
  includePaths : List String := []
  excludePaths : List String := []
  includeTags : List String := []
  excludeTags : List String := []
  includeOperations : List String := []
  excludeOperations : List String := []
deriving DecidableEq, Repr, Inhabited

namespace FilterLists

/-- The list, or `other` in place of an empty one. -/
def orElse (list other : List String) : List String :=
  if list.isEmpty then other else list

/-- The lists, each empty one replaced by that of `other`. -/
def fillFrom (lists other : FilterLists) : FilterLists where
  includePaths := orElse lists.includePaths other.includePaths
  excludePaths := orElse lists.excludePaths other.excludePaths
  includeTags := orElse lists.includeTags other.includeTags
  excludeTags := orElse lists.excludeTags other.excludeTags
  includeOperations := orElse lists.includeOperations other.includeOperations
  excludeOperations := orElse lists.excludeOperations other.excludeOperations

def isEmpty (lists : FilterLists) : Bool :=
  lists.includePaths.isEmpty && lists.excludePaths.isEmpty && lists.includeTags.isEmpty &&
    lists.excludeTags.isEmpty && lists.includeOperations.isEmpty &&
    lists.excludeOperations.isEmpty

/-- Nothing excludes it, and something includes it unless nothing is listed. -/
def admits (excluded included : List String) (hits : String → Bool) : Bool :=
  !excluded.any hits && (included.isEmpty || included.any hits)

def admitsPath (lists : FilterLists) (path : String) : Bool :=
  admits lists.excludePaths lists.includePaths (Glob.acceptsPath · path)

def admitsTags (lists : FilterLists) (tags : List String) : Bool :=
  admits lists.excludeTags lists.includeTags fun wanted =>
    tags.any (Text.sameIgnoringAsciiCase · wanted)

def admitsOperation (lists : FilterLists) (operationId : String) : Bool :=
  admits lists.excludeOperations lists.includeOperations (Glob.accepts · operationId)

/-- Path and tags are admitted. -/
def admitsPathAndTags (lists : FilterLists) (path : String) (tags : List String) : Bool :=
  lists.admitsPath path && lists.admitsTags tags

def restrictsOperations (lists : FilterLists) : Bool :=
  !lists.includeOperations.isEmpty || !lists.excludeOperations.isEmpty

/-- Path, tags and at least one operation are admitted. Without operations there is
    nothing to exclude, but a list of included ones asks for a hit. -/
def admitsAny (lists : FilterLists) (path : String) (tags operationIds : List String) : Bool :=
  lists.admitsPathAndTags path tags &&
    (!lists.restrictsOperations ||
      if operationIds.isEmpty then lists.includeOperations.isEmpty
      else operationIds.any lists.admitsOperation)

/-- The filter given by the lists. -/
def toPathFilter (lists : FilterLists) : PathFilter where
  admitsPath := lists.admitsPath
  admitsTags := lists.admitsTags
  admitsOperation := lists.admitsOperation
  restricts := !lists.isEmpty
  restrictsOperations := lists.restrictsOperations

end FilterLists

end ApiKinds
