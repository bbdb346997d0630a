import SqlDialect.Platform.Query
import SqlDialect.Version.Request

/-!
# The pool of platforms

A pool makes each platform once: the first request for a family and an id builds
it, later ones are given the same one. Platforms are known by their *slots*,
which count from `0` in the order in which they were built; nothing is ever
removed or replaced, so a slot means the same platform for ever. A request that
fails leaves the pool as it was.

The only change to a platform in the pool is that of its current version
(`setCurrent`).
-/

namespace SqlDialect

/-- What makes two requests ask for the same platform. -/
structure PlatformKey where
  family : Family
  id : VersionId
deriving Repr, DecidableEq

/-- The platforms that were built so far, in the order in which they were. -/
structure Pool where
  entries : List (PlatformKey × Platform)
deriving Repr, DecidableEq

structure Pooled where
  slot : Nat
  platform : Platform
deriving Repr, DecidableEq

namespace Pool

def empty : Pool := ⟨[]⟩

def size (p : Pool) : Nat := p.entries.length

def isEmpty (p : Pool) : Bool := p.size == 0

def platform? (p : Pool) (slot : Nat) : Option Platform := p.entries[slot]?.map (·.2)

def find? (p : Pool) (key : PlatformKey) : Option Pooled :=
  (p.entries.zipIdx.find? fun (entry, _) => entry.1 == key).map fun (entry, slot) =>
    ⟨slot, entry.2⟩

def fetch (catalog : Catalog) (p : Pool) (family : Family) (version : Version) :
    Pool × Except Error Pooled :=
  let key : PlatformKey := ⟨family, version.id⟩
  match p.find? key with
  | some found => (p, .ok found)
  | none =>
    match Platform.build catalog family version with
    | .error e => (p, .error e)
    | .ok platform => (⟨p.entries ++ [(key, platform)]⟩, .ok ⟨p.size, platform⟩)

def requestFamily (catalog : Catalog) (p : Pool) (family : Family) (version : VersionRequest) :
    Pool × Except Error Pooled :=
  match version.resolve family with
  | .error e => (p, .error e)
  | .ok v => p.fetch catalog family v

def request (catalog : Catalog) (p : Pool) (family : String) (version : VersionRequest) :
    Pool × Except Error Pooled :=
  match Family.parse family with
  | .error _ => (p, .error (.unknownFamily (Text.trimmed family)))
  | .ok f => p.requestFamily catalog f version

/-- Ask for the version that a tag such as `server-8.0` ends in: the text after
the last hyphen. -/
def requestTag (catalog : Catalog) (p : Pool) (family tag : String) : Pool × Except Error Pooled :=
  p.request catalog family (.text (String.ofList (Text.afterLast '-' tag.toList)))

def setCurrent (p : Pool) (slot : Nat) (v : Version) : Pool :=
  ⟨p.entries.modify slot fun (key, platform) => (key, platform.setCurrent v)⟩

/-! ## Runs -/

/-- A step in the life of a pool: a request, a change of a current version, or
a question to a platform, to the function tables or to the pool itself. -/
inductive Step where
  | request (family : String) (version : VersionRequest)
  | requestFamily (family : Family) (version : VersionRequest)
  | requestTag (family tag : String)
  | setCurrent (slot : Nat) (version : Version)
  | query (slot : Nat) (question : Query)
  | hasBuiltin (family : Family) (id : VersionId) (name : String)
  | size
deriving Repr, DecidableEq

inductive Outcome where
  | granted (p : Pooled)
  | refused (e : Error)
  /-- The reply of the platform of the slot, if there is one. -/
  | replied (r : Option Reply)
  /-- Whether there is such a function. -/
  | truth (b : Bool)
  | size (n : Nat)
  | done
deriving Repr, DecidableEq

/-- A request as a step: its answer is the outcome. -/
def asStep (r : Pool × Except Error Pooled) : Pool × Outcome :=
  match r.2 with
  | .ok p => (r.1, .granted p)
  | .error e => (r.1, .refused e)

def step (catalog : Catalog) (p : Pool) : Step → Pool × Outcome
  | .request family version => asStep (p.request catalog family version)
  | .requestFamily family version => asStep (p.requestFamily catalog family version)
  | .requestTag family tag => asStep (p.requestTag catalog family tag)
  | .setCurrent slot version => (p.setCurrent slot version, .done)
  | .query slot question => (p, .replied ((p.platform? slot).map (·.reply question)))
  | .hasBuiltin family id name => (p, .truth (catalog.hasBuiltin family id name))
  | .size => (p, .size p.size)

def run (catalog : Catalog) (p : Pool) (steps : List Step) : Pool :=
  steps.foldl (fun q s => (q.step catalog s).1) p

end Pool

end SqlDialect
