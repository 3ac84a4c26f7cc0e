import ImportRules.Extraction.Session
import ImportRules.Proofs.PathDisplay
import Mathlib.Data.List.Induction
/-!
# The cache over a session

What a session keeps under a key depends on its past in a simple way: it was extracted with the
cache, from the files as they were at that moment, by a source with that key, and nothing has
dropped it since. Writing and removing files, extracting without the cache, failing to extract and
whatever happens under other keys leave no trace in it.

The key of a source is how it is written. Sources whose paths are different texts have different
keys, but a path that is no text may be shown as another path is, and such sources share an entry.
-/

namespace ImportRules

namespace EdgeSource

variable {source other : EdgeSource}

def path : EdgeSource → Path
  | .edgeFile path | .project path => path

/-- The sources are of one kind, and their paths are shown alike. -/
def Alike : EdgeSource → EdgeSource → Prop
  | .edgeFile path, .edgeFile other | .project path, .project other =>
      path.display = other.display
  | .edgeFile _, .project _ | .project _, .edgeFile _ => False

/-- Two sources have one key if they are of one kind and their paths are shown alike, and only
then. -/
theorem describe_eq_iff : source.describe = other.describe ↔ source.Alike other := by
  rw [← String.toList_inj]
  cases source <;> cases other <;> simp [describe, toString, Alike, String.toList_inj]

theorem eq_of_alike_of_path (halike : source.Alike other) (hpath : source.path = other.path) :
    source = other := by
  cases source <;> cases other <;> first | exact halike.elim | exact congrArg _ hpath

theorem Alike.display_path (halike : source.Alike other) :
    source.path.display = other.path.display := by
  cases source <;> cases other <;> first | exact halike.elim | exact halike

/-- Sources that are written alike but differ are written with a mark. -/
theorem Alike.mark_mem (halike : source.Alike other) (hne : source ≠ other) :
    '\uFFFD' ∈ other.path.display.toList := by
  by_contra hmark
  exact hne (eq_of_alike_of_path halike (Path.eq_of_display_eq halike.display_path hmark))

/-- Sources whose paths are texts are written alike only if they are the same. -/
theorem Alike.eq_of_texts (halike : source.Alike other) {text text' : String}
    (htext : source.path = Path.ofText text) (htext' : other.path = Path.ofText text') :
    source = other := by
  have hdisplay := halike.display_path
  rw [htext, htext', Path.display_ofText, Path.display_ofText] at hdisplay
  exact eq_of_alike_of_path halike (by rw [htext, htext', hdisplay])

example : Alike (.edgeFile ⟨[0x61, 0xFF]⟩) (.edgeFile ⟨[0x61, 0xFE]⟩) := by
  unfold Alike
  decide

end EdgeSource

namespace EdgeCache

theorem get?_erase (cache : EdgeCache) (key other : String) :
    (cache.erase key).get? other = if other = key then none else cache.get? other := by
  obtain ⟨entries⟩ := cache
  simp only [get?, erase]
  induction entries with
  | nil => simp
  | cons entry entries ih => grind

theorem get?_insert (cache : EdgeCache) (key other : String) (edges : List Edge) :
    (cache.insert key edges).get? other =
      if other = key then some edges else cache.get? other := by
  have herase := cache.get?_erase key other
  simp only [get?, insert, List.lookup_cons] at herase ⊢
  grind

end EdgeCache

/-- The edges that the files give as they are now, or why they give none. -/
def Extraction.edgesNow (workspace : Workspace) (source : EdgeSource) (options : ScanOptions) :
    Except ExtractError (List Edge) :=
  (fresh workspace source options).map (·.edges)

namespace Session

open Extraction (edgesNow)

variable {session : Session} {source : EdgeSource} {options : ScanOptions} {edges : List Edge}

/-! ## One extraction -/

theorem extract_of_kept (hkept : session.cache.get? source.describe = some edges) :
    session.extract source options true = (.ok edges, session) := by
  simp [extract, hkept]

theorem extract_of_missing (hmissing : session.cache.get? source.describe = none) :
    session.extract source options true =
      (edgesNow session.workspace source options,
        match edgesNow session.workspace source options with
        | .ok edges => { session with cache := session.cache.insert source.describe edges }
        | .error _ => session) := by
  simp only [extract, ↓reduceIte, hmissing, edgesNow]
  cases Extraction.fresh session.workspace source options <;> rfl

theorem extract_uncached :
    session.extract source options false =
      (edgesNow session.workspace source options, session) := by
  simp only [extract, Bool.false_eq_true, ↓reduceIte, edgesNow]
  cases Extraction.fresh session.workspace source options <;> rfl

/-- Extracting never touches the files. -/
theorem workspace_extract (session : Session) (source : EdgeSource) (options : ScanOptions)
    (cached : Bool) : (session.extract source options cached).2.workspace = session.workspace := by
  cases cached with
  | false => rw [extract_uncached]
  | true =>
      cases hget : session.cache.get? source.describe with
      | some edges => rw [extract_of_kept hget]
      | none =>
          rw [extract_of_missing hget]
          dsimp only
          split <;> rfl

/-- What an extraction with the cache leaves under a key: what was there or else, under the key of
its source, what the files give now. -/
theorem get?_extract (session : Session) (source : EdgeSource) (options : ScanOptions)
    (key : String) :
    (session.extract source options true).2.cache.get? key =
      if key = source.describe then
        (session.cache.get? key).or (edgesNow session.workspace source options).toOption
      else session.cache.get? key := by
  cases hget : session.cache.get? source.describe with
  | some edges =>
      rw [extract_of_kept hget]
      split
      next hkey => simp [hkey, hget]
      next => rfl
  | none =>
      rw [extract_of_missing hget]
      cases edgesNow session.workspace source options with
      | error error => simp [Except.toOption]
      | ok edges =>
          rw [EdgeCache.get?_insert]
          split
          next hkey => simp [hkey, hget, Except.toOption]
          next => rfl

/-! ## The past of an entry -/

namespace Event

/-- The event drops what is kept under a key. -/
def Drops (key : String) : Event → Prop
  | .invalidate other => other = key
  | .clear => True
  | _ => False

/-- The event puts edges into the cache that nothing was asked to extract. -/
def IsInsert : Event → Prop
  | .insert _ _ => True
  | _ => False

end Event

/-- What an event leaves under a key: what was there, unless it is dropped, or else what an
extraction with the cache has just got from the files. -/
theorem get?_step_iff {event : Event} (hinsert : ¬event.IsInsert) {key : String} :
    (session.step event).2.cache.get? key = some edges ↔
      ¬event.Drops key ∧
        (session.cache.get? key = some edges ∨
          session.cache.get? key = none ∧ ∃ source options,
            event = .extract source options true ∧ source.describe = key ∧
              edgesNow session.workspace source options = .ok edges) := by
  cases event with
  | write path value => simp [step, Event.Drops]
  | remove path => simp [step, Event.Drops]
  | insert other edges => exact absurd trivial hinsert
  | get other => simp [step, Event.Drops]
  | clear => simp [step, Event.Drops, EdgeCache.get?]
  | invalidate other =>
      simp [step, EdgeCache.get?_erase, Event.Drops, eq_comm]
  | extract source options cached =>
      cases cached with
      | false => simp [step, extract_uncached, Event.Drops]
      | true =>
          simp only [step, get?_extract, Event.Drops]
          by_cases hkey : key = source.describe
          · subst hkey
            cases session.cache.get? source.describe <;>
              cases hnow : edgesNow session.workspace source options <;>
                simp [Except.toOption, hnow]
          · simp [hkey, Ne.symm hkey]

theorem after_append (start : Session) (before since : List Event) :
    start.after (before ++ since) = (start.after before).after since :=
  List.foldl_append

/-- Among the events of a session there is an extraction with the cache, of a source with the given
key, which found nothing kept there and got the edges from the files as they were. No later event
drops the key. -/
def Stems (start : Session) (events : List Event) (key : String) (edges : List Edge) : Prop :=
  ∃ before source options since,
    events = before ++ .extract source options true :: since ∧ source.describe = key ∧
      (start.after before).cache.get? key = none ∧
        edgesNow (start.after before).workspace source options = .ok edges ∧
          ∀ event ∈ since, ¬event.Drops key

theorem stems_concat {start : Session} {events : List Event} {event : Event} {key : String} :
    start.Stems (events ++ [event]) key edges ↔
      ¬event.Drops key ∧
        (start.Stems events key edges ∨
          (start.after events).cache.get? key = none ∧ ∃ source options,
            event = .extract source options true ∧ source.describe = key ∧
              edgesNow (start.after events).workspace source options = .ok edges) := by
  constructor
  · rintro ⟨before, source, options, since, hevents, hkey, hmissing, hnow, hsince⟩
    rcases List.eq_nil_or_concat since with rfl | ⟨since, last, rfl⟩
    · obtain ⟨rfl, hlast⟩ := List.append_inj' hevents rfl
      obtain ⟨rfl, -⟩ := List.cons.inj hlast
      exact ⟨not_false, Or.inr ⟨hmissing, source, options, rfl, hkey, hnow⟩⟩
    · rw [List.concat_eq_append] at hevents hsince
      rw [← List.cons_append, ← List.append_assoc] at hevents
      obtain ⟨rfl, hlast⟩ := List.append_inj' hevents rfl
      obtain ⟨rfl, -⟩ := List.cons.inj hlast
      obtain ⟨hsince, hlast⟩ := List.forall_mem_append.mp hsince
      exact ⟨hlast event (List.mem_singleton_self _),
        Or.inl ⟨before, source, options, since, rfl, hkey, hmissing, hnow, hsince⟩⟩
  · rintro ⟨hdrops, ⟨before, source, options, since, rfl, hkey, hmissing, hnow, hsince⟩ |
      ⟨hmissing, source, options, rfl, hkey, hnow⟩⟩
    · refine ⟨before, source, options, since ++ [event], by simp, hkey, hmissing, hnow, ?_⟩
      exact List.forall_mem_append.mpr ⟨hsince, List.forall_mem_singleton.mpr hdrops⟩
    · exact ⟨events, source, options, [], rfl, hkey, hmissing, hnow, by simp⟩

/-- In a session that began with an empty cache, edges are kept under a key exactly if they stem
from an extraction that was not dropped since. -/
theorem get?_after_iff (workspace : Workspace) {events : List Event}
    (hinserts : ∀ event ∈ events, ¬event.IsInsert) {key : String} :
    (after ⟨workspace, {}⟩ events).cache.get? key = some edges ↔
      Stems ⟨workspace, {}⟩ events key edges := by
  induction events using List.reverseRecOn generalizing edges with
  | nil => simp [Stems, after, EdgeCache.get?]
  | append_singleton events event ih =>
      obtain ⟨hbefore, hlast⟩ := List.forall_mem_append.mp hinserts
      rw [after_append, stems_concat, ← ih hbefore]
      exact get?_step_iff (hlast event (List.mem_singleton_self _))

/-! ## Sources apart from each other -/

/-- The event is about one source: it extracts the source or one that is written alike, or names
its key. -/
def Event.Concerns (source : EdgeSource) : Event → Prop
  | .extract other _ _ => other.Alike source
  | .insert key _ | .get key | .invalidate key => key = source.describe
  | .write .. | .remove _ | .clear => False

/-- The files and what is kept for a source settle what extracting it with the cache gives. -/
theorem extract_congr {session' : Session} (hfiles : session'.workspace = session.workspace)
    (hkept : session'.cache.get? source.describe = session.cache.get? source.describe) :
    (session'.extract source options true).1 = (session.extract source options true).1 := by
  cases hget : session.cache.get? source.describe with
  | some edges => rw [extract_of_kept (hkept.trans hget), extract_of_kept hget]
  | none => rw [extract_of_missing (hkept.trans hget), extract_of_missing hget, hfiles]

/-- An event about one source changes neither the files nor what is kept for a source that is
written differently. -/
theorem step_apart (session : Session) {event : Event} (hevent : event.Concerns source)
    {other : EdgeSource} (hother : ¬other.Alike source) :
    (session.step event).2.workspace = session.workspace ∧
      (session.step event).2.cache.get? other.describe = session.cache.get? other.describe := by
  have hkey : other.describe ≠ source.describe := mt EdgeSource.describe_eq_iff.mp hother
  cases event with
  | write | remove | clear => exact absurd hevent not_false
  | get key => exact ⟨rfl, rfl⟩
  | insert key edges =>
      cases hevent
      exact ⟨rfl, by simp [step, EdgeCache.get?_insert, hkey]⟩
  | invalidate key =>
      cases hevent
      exact ⟨rfl, by simp [step, EdgeCache.get?_erase, hkey]⟩
  | extract asked options cached =>
      have hasked : asked.describe = source.describe := EdgeSource.describe_eq_iff.mpr hevent
      refine ⟨workspace_extract session asked options cached, ?_⟩
      cases cached with
      | false => simp [step, extract_uncached]
      | true => simp [step, get?_extract, hasked, hkey]

theorem after_apart (session : Session) {events : List Event}
    (hevents : ∀ event ∈ events, event.Concerns source) {other : EdgeSource}
    (hother : ¬other.Alike source) :
    (session.after events).workspace = session.workspace ∧
      (session.after events).cache.get? other.describe = session.cache.get? other.describe := by
  induction events generalizing session with
  | nil => exact ⟨rfl, rfl⟩
  | cons event events ih =>
      obtain ⟨hevent, hevents⟩ := List.forall_mem_cons.mp hevents
      obtain ⟨hfiles, hkept⟩ := step_apart session hevent hother
      obtain ⟨hfiles', hkept'⟩ := ih (session.step event).2 hevents
      exact ⟨hfiles'.trans hfiles, hkept'.trans hkept⟩

/-! ## The cache in use -/

/-- How a session uses its cache from now on. -/
structure UsesCache (session : Session) : Prop where
  /-- Edges that are kept are given, whatever the files are now. -/
  kept : ∀ (source : EdgeSource) (options : ScanOptions) (edges : List Edge) (files : Workspace),
    session.cache.get? source.describe = some edges →
      extract { session with workspace := files } source options true =
        (.ok edges, { session with workspace := files })
  /-- Other edges are got from the files as they are. -/
  missing : ∀ (source : EdgeSource) (options : ScanOptions),
    session.cache.get? source.describe = none →
      (session.extract source options true).1 = edgesNow session.workspace source options
  /-- What an extraction with the cache gives is kept from then on. -/
  stored : ∀ (source : EdgeSource) (options : ScanOptions) (edges : List Edge),
    (session.extract source options true).1 = .ok edges →
      (session.extract source options true).2.cache.get? source.describe = some edges
  /-- A failure leaves the cache as it was. -/
  failed : ∀ (source : EdgeSource) (options : ScanOptions) (cached : Bool) (error : ExtractError),
    (session.extract source options cached).1 = .error error →
      (session.extract source options cached).2.cache = session.cache
  /-- So does an extraction without the cache. -/
  uncached : ∀ (source : EdgeSource) (options : ScanOptions),
    (session.extract source options false).2.cache = session.cache
  /-- Sources of different kinds or with paths that are shown differently have different keys, and
  nothing that is done about one of them changes what extracting the other with the cache gives. -/
  apart : ∀ source other : EdgeSource, ¬other.Alike source →
    other.describe ≠ source.describe ∧
      ∀ (events : List Event) (options : ScanOptions), (∀ event ∈ events, event.Concerns source) →
        ((session.after events).extract other options true).1 =
          (session.extract other options true).1
  /-- Sources that are written alike share what is kept, whatever their paths are. -/
  shared : ∀ (source other : EdgeSource) (options others : ScanOptions) (edges : List Edge),
    other.Alike source → (session.extract source options true).1 = .ok edges →
      ((session.extract source options true).2.extract other others true).1 = .ok edges

/-- What an extraction with the cache gives is kept from then on. -/
theorem get?_extract_of_ok (hedges : (session.extract source options true).1 = .ok edges) :
    (session.extract source options true).2.cache.get? source.describe = some edges := by
  rw [get?_extract, if_pos rfl]
  cases hget : session.cache.get? source.describe with
  | some kept =>
      rw [extract_of_kept hget] at hedges
      cases hedges
      rfl
  | none =>
      rw [extract_of_missing hget] at hedges
      rw [show edgesNow session.workspace source options = .ok edges from hedges]
      rfl

theorem usesCache (session : Session) : session.UsesCache where
  kept source options edges files hkept := extract_of_kept hkept
  missing source options hmissing := by rw [extract_of_missing hmissing]
  stored source options edges hedges := get?_extract_of_ok hedges
  failed source options cached error herror := by
    cases cached with
    | false => rw [extract_uncached]
    | true =>
        cases hget : session.cache.get? source.describe with
        | some kept =>
            rw [extract_of_kept hget] at herror
            cases herror
        | none =>
            rw [extract_of_missing hget] at herror ⊢
            rw [show edgesNow session.workspace source options = .error error from herror]
  uncached source options := by rw [extract_uncached]
  apart source other hother := by
    refine ⟨mt EdgeSource.describe_eq_iff.mp hother, ?_⟩
    intro events options hevents
    obtain ⟨hfiles, hkept⟩ := after_apart session hevents hother
    exact extract_congr hfiles hkept
  shared source other options others edges halike hedges := by
    have hkept := get?_extract_of_ok hedges
    rw [← EdgeSource.describe_eq_iff.mpr halike] at hkept
    rw [extract_of_kept hkept]

/-- The cache over a whole session that begins without one entry: at any moment the cache holds what
extractions with it have got from the files of their time and nothing has dropped since, and from
there on extractions use it as they should. Sources that are different and share an entry are
written with a mark, and not both of them have a path that is a text. -/
theorem cache_over_session (workspace : Workspace) (events : List Event)
    (hinserts : ∀ event ∈ events, ¬event.IsInsert) :
    (∀ key edges, (after ⟨workspace, {}⟩ events).cache.get? key = some edges ↔
      Stems ⟨workspace, {}⟩ events key edges) ∧
    (after ⟨workspace, {}⟩ events).UsesCache ∧
    ∀ source other : EdgeSource, source ≠ other → source.describe = other.describe →
      '\uFFFD' ∈ other.path.display.toList ∧
        ¬∃ text text', source.path = Path.ofText text ∧ other.path = Path.ofText text' := by
  refine ⟨fun _ _ => get?_after_iff workspace hinserts, usesCache _, ?_⟩
  intro source other hne hkey
  have halike := EdgeSource.describe_eq_iff.mp hkey
  refine ⟨halike.mark_mem hne, ?_⟩
  rintro ⟨text, text', htext, htext'⟩
  exact hne (halike.eq_of_texts htext htext')

/-- An edge file is removed after it was read, and its edges are still given. -/
theorem cache_over_session_removed_file :
    let workspace : Workspace := ⟨.directory [("e.json", .file "[[\"a\",\"b\"]]".toUTF8)], []⟩
    let source := EdgeSource.edgeFile "e.json"
    let events : List Event := [.extract source {} true, .remove "e.json"]
    (∀ event ∈ events, ¬event.IsInsert) ∧
      ((after ⟨workspace, {}⟩ events).extract source {} true).1 =
        .ok [⟨"a", "b", false, []⟩] := by
  intro workspace source events
  have hinserts : ∀ event ∈ events, ¬event.IsInsert := by simp [events, Event.IsInsert]
  obtain ⟨hentries, huses, -⟩ := cache_over_session workspace events hinserts
  have hnow : edgesNow workspace source {} = .ok [⟨"a", "b", false, []⟩] := rfl
  have hkept := (hentries source.describe [⟨"a", "b", false, []⟩]).mpr
    ⟨[], source, {}, [.remove "e.json"], rfl, rfl, rfl, hnow, by simp [Event.Drops]⟩
  exact ⟨hinserts, congrArg Prod.fst (huses.kept source {} _ _ hkept)⟩

end Session

end ImportRules
