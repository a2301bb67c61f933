/-!
# Directories

Where reports and model files are kept, as the environment says. Variables that are set count even
where they are empty, with two exceptions: the cache directory of the desktop has to be an absolute
path, and where no home directory is named, that of the account takes its place.
-/

set_option autoImplicit false

namespace EmbeddingLatency

/-- The environment variables that name directories, and what stands in for one of them. -/
structure Environment where
  /-- `EMBED_BENCH_RESULTS_DIR` -/
  results : Option String
  /-- `EMBED_BENCH_CACHE_DIR` -/
  cache : Option String
  /-- `XDG_CACHE_HOME` -/
  desktopCache : Option String
  /-- `HOME` -/
  home : Option String
  /-- The home directory of the account that the program runs under. -/
  accountHome : Option String
  deriving DecidableEq, Repr

/-- A path below a directory. An absolute path replaces the directory. -/
def joinPath (directory path : String) : String :=
  if path.startsWith "/" ∨ directory = "" then path
  else if directory.endsWith "/" then directory ++ path
  else directory ++ "/" ++ path

namespace Environment

/-- An environment without any of the variables, and without an account. -/
def empty : Environment := ⟨none, none, none, none, none⟩

/-- Where reports go if nothing else is said. -/
def resultsDirectory (env : Environment) : String := env.results.getD "benchmarks/results"

/-- The home directory; an empty name counts as none. -/
def homeDirectory? (env : Environment) : Option String :=
  (env.home.filter (· ≠ "")).or env.accountHome

/-- The cache directory of the desktop, or of the home directory. -/
def cacheBase? (env : Environment) : Option String :=
  match env.desktopCache.filter (·.startsWith "/") with
  | some dir => some dir
  | none => env.homeDirectory?.map (joinPath · ".cache")

/-- Where model files are kept. -/
def cacheDirectory (env : Environment) : String :=
  match env.cache with
  | some dir => dir
  | none =>
    match env.cacheBase? with
    | some base => joinPath base "embed-bench"
    | none => "/tmp/embed-bench-cache"

end Environment

end EmbeddingLatency
