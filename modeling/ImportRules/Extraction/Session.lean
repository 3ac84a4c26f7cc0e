import ImportRules.Extraction.Scan
import ImportRules.Json.Decode
/-!
# Extraction

Edges are read from an edge file or scanned from a project. A cache may keep what has been
extracted under the description of its source. An entry stays until it is dropped, whatever happens
to the files.
-/

namespace ImportRules

/-- Edges that were extracted, and what was logged on the way. -/
structure Extraction where
  edges : List Edge
  log : List LogLine := []

namespace Extraction

/-- The edges in an edge file. -/
def ofEdgeFile (workspace : Workspace) (path : Path) : Except ExtractError (List Edge) :=
  match workspace.find path with
  | .error .missing => .error (.notFound path)
  | .error .notDirectory => .error (.unreadable path)
  | .ok tree =>
      match tree.text? with
      | none => .error (.unreadable path)
      | some text =>
          match Json.edges? text with
          | some edges => .ok edges
          | none => .error (.badEdgeFile path)

/-- The edges of a source, from the files as they are now. -/
def fresh (workspace : Workspace) (source : EdgeSource) (options : ScanOptions) :
    Except ExtractError Extraction :=
  match source with
  | .edgeFile path => (ofEdgeFile workspace path).map fun edges => { edges }
  | .project path => (Scan.run workspace path options).map fun scan =>
      { edges := scan.edges, log := scan.log }

/-- What is logged about the edges of a source, in the scope of a run. -/
def logIn (scope : String) (source : EdgeSource) (extraction : Extraction) : List LogLine :=
  let count := extraction.edges.length
  let extracted : LogLine := ⟨.info, s!"Extracted {count} edges from {source.describe}", none⟩
  extraction.log ++ [extracted.inScope scope]

end Extraction

/-- Edges that have been extracted, each list under a key of its own. -/
structure EdgeCache where
  entries : List (String × List Edge) := []

namespace EdgeCache

def get? (cache : EdgeCache) (key : String) : Option (List Edge) :=
  cache.entries.lookup key

/-- Drops what is kept under a key. -/
def erase (cache : EdgeCache) (key : String) : EdgeCache :=
  ⟨cache.entries.filter (·.1 != key)⟩

/-- Keeps edges under a key, in place of what was there. -/
def insert (cache : EdgeCache) (key : String) (edges : List Edge) : EdgeCache :=
  ⟨(key, edges) :: (cache.erase key).entries⟩

def size (cache : EdgeCache) : Nat :=
  cache.entries.length

end EdgeCache

/-- The files and the cache of a series of extractions. -/
structure Session where
  workspace : Workspace
  cache : EdgeCache := {}

namespace Session

/-- Something that happens in a session. -/
inductive Event where
  | write (path : Path) (value : FileTree)
  | remove (path : Path)
  | extract (source : EdgeSource) (options : ScanOptions) (cached : Bool)
  | insert (key : String) (edges : List Edge)
  | get (key : String)
  | invalidate (key : String)
  | clear

/-- What an event gives. -/
inductive Outcome where
  | done
  | extracted (result : Except ExtractError (List Edge))
  | found (edges : Option (List Edge))
  | dropped (existed : Bool)

/-- Extracts the edges of a source. With the cache, edges that are kept there are given as they
are, and edges from the files are kept; a failure leaves the cache as it was. -/
def extract (session : Session) (source : EdgeSource) (options : ScanOptions) (cached : Bool) :
    Except ExtractError (List Edge) × Session :=
  let key := source.describe
  match if cached then session.cache.get? key else none with
  | some edges => (.ok edges, session)
  | none =>
      match Extraction.fresh session.workspace source options with
      | .error error => (.error error, session)
      | .ok extraction =>
          (.ok extraction.edges,
            if cached then { session with cache := session.cache.insert key extraction.edges }
            else session)

/-- Takes in an event. -/
def step (session : Session) : Event → Outcome × Session
  | .write path value => (.done, { session with workspace := session.workspace.write path value })
  | .remove path => (.done, { session with workspace := session.workspace.remove path })
  | .extract source options cached =>
      let (result, session) := session.extract source options cached
      (.extracted result, session)
  | .insert key edges => (.done, { session with cache := session.cache.insert key edges })
  | .get key => (.found (session.cache.get? key), session)
  | .invalidate key =>
      (.dropped (session.cache.get? key).isSome,
        { session with cache := session.cache.erase key })
  | .clear => (.done, { session with cache := {} })

/-- The session after a series of events. -/
def after (session : Session) (events : List Event) : Session :=
  events.foldl (fun session event => (session.step event).2) session

end Session

end ImportRules
